import Bindery.Yaml.Lexeme

/-!
# The tokens of a YAML text

`Token.scan` turns a text into its tokens. Indentation becomes tokens for the start and end of
block collections. A mapping key without a question mark is known as a key only at the colon
behind it; until then the scanner keeps the places where one may have begun (`Candidate`), and
at the colon puts the key's token in where the key began. A text that goes wrong yields the
tokens that are settled there, those before the first candidate, and one that says so.
-/

namespace Bindery.Yaml

inductive Token where
  | directive (d : Directive)
  | documentStart
  | documentEnd
  | blockSequenceStart
  | blockMappingStart
  | blockEnd
  | flowSequenceStart
  | flowSequenceEnd
  | flowMappingStart
  | flowMappingEnd
  | flowEntry
  | blockEntry
  | key
  | value
  | alias (name : String)
  | anchor (name : String)
  | tag (handle : Option String) (suffix : String)
  | scalar (text : Text) (isPlain : Bool)
  | broken (problem : ReadProblem)
  deriving DecidableEq, Repr

/-- A place where a key may have begun: the number of the tokens before it, whether it has to be
a key, and its place in the text. -/
structure Candidate where
  tokens : Nat
  required : Bool
  index : Nat
  line : Nat
  column : Nat

structure Scanner where
  cursor : Cursor
  /-- How many brackets are open. -/
  flow : Nat := 0
  /-- The column of the innermost block collection, and of those around it. -/
  indent : Int := -1
  outer : List Int := []
  keysAllowed : Bool := true
  /-- The candidates, at most one for each level of brackets. -/
  candidates : List (Nat × Candidate) := []
  tokens : Array Token := #[]

namespace Scanner

abbrev Step := StateT Scanner (Except ReadProblem)

def fail {α : Type} : Step α := throw .malformed

/-- Runs a reader at the scanner's place. -/
def lexeme {α : Type} (read : Scan α) : Step α := do
  let s ← get
  let (a, cursor) ← read.run s.cursor
  set { s with cursor }
  return a

def push (t : Token) : Step Unit := modify fun s => { s with tokens := s.tokens.push t }

def allowKeys (allowed : Bool) : Step Unit := modify fun s => { s with keysAllowed := allowed }

/-- The longest key, in characters. -/
def longestKey : Nat := 1024

/-- Drops the candidates that can be keys no more: those on another line or too far back. One
that has to be a key is a problem then. -/
def dropStale : Step Unit := do
  let s ← get
  let isStale (k : Candidate) : Bool :=
    k.line != s.cursor.line || longestKey < s.cursor.index - k.index
  if s.candidates.any fun c => isStale c.2 && c.2.required then fail
  set { s with candidates := s.candidates.filter fun c => !isStale c.2 }

/-- Drops the candidate of the open brackets. -/
def dropCandidate : Step Unit := do
  let s ← get
  if (s.candidates.lookup s.flow).any (·.required) then fail
  set { s with candidates := s.candidates.filter fun c => c.1 != s.flow }

/-- Notes that a key may begin here. -/
def noteCandidate : Step Unit := do
  let s ← get
  if s.keysAllowed then
    dropCandidate
    let c := s.cursor
    let candidate : Candidate :=
      { tokens := s.tokens.size, required := s.flow == 0 && s.indent == (c.column : Int)
        index := c.index, line := c.line, column := c.column }
    modify fun s => { s with candidates := (s.flow, candidate) :: s.candidates }

/-- The block collections that end above a column. -/
def closing (column : Int) : Int → List Int → Nat × Int × List Int
  | indent, [] => (0, indent, [])
  | indent, o :: outer =>
    if column < indent then
      let (n, indent, outer) := closing column o outer
      (n + 1, indent, outer)
    else (0, indent, o :: outer)

/-- Ends the block collections that reach further than a column. Inside brackets none end. -/
def unwind (column : Int) : Step Unit := do
  let s ← get
  if s.flow = 0 then
    let (n, indent, outer) := closing column s.indent s.outer
    set { s with indent, outer, tokens := s.tokens ++ Array.replicate n Token.blockEnd }

/-- Opens a block collection at a column, if it lies further in; says whether it does. -/
def indentTo (column : Nat) : Step Bool :=
  modifyGet fun s =>
    if s.indent < (column : Int) then
      (true, { s with indent := column, outer := s.indent :: s.outer })
    else (false, s)

/-- Skips blanks, comments and line ends. After a line end a key may begin, outside brackets. -/
def skipToToken : Nat → Step Unit
  | 0 => return
  | fuel + 1 => do
    lexeme (Scan.skip (· == ' '))
    if (← get).cursor.peek == '#' then lexeme (Scan.skip fun c => !isLineEnd c)
    match ← lexeme Scan.lineBreak with
    | some _ =>
      if (← get).flow = 0 then allowKeys true
      skipToToken fuel
    | none => return

/-- A token of a number of characters. -/
def mark (width : Nat) (t : Token) : Step Unit := do
  lexeme (Scan.forward width)
  push t

def scanDirective : Step Unit := do
  unwind (-1)
  dropCandidate
  allowKeys false
  push (.directive (← lexeme directive))

def scanDocumentMark (t : Token) : Step Unit := do
  unwind (-1)
  dropCandidate
  allowKeys false
  mark 3 t

def openBracket (t : Token) : Step Unit := do
  noteCandidate
  modify fun s => { s with flow := s.flow + 1 }
  allowKeys true
  mark 1 t

def closeBracket (t : Token) : Step Unit := do
  dropCandidate
  modify fun s => { s with flow := s.flow - 1 }
  allowKeys false
  mark 1 t

def scanFlowEntry : Step Unit := do
  allowKeys true
  dropCandidate
  mark 1 .flowEntry

/-- Opens a block collection here, where one may begin. -/
def openBlock (start : Token) : Step Unit := do
  let s ← get
  if s.flow = 0 then
    if !s.keysAllowed then fail
    if ← indentTo s.cursor.column then push start

def scanBlockEntry : Step Unit := do
  openBlock .blockSequenceStart
  allowKeys true
  dropCandidate
  mark 1 .blockEntry

def scanKey : Step Unit := do
  openBlock .blockMappingStart
  allowKeys ((← get).flow == 0)
  dropCandidate
  mark 1 .key

/-- Puts a token in among those already there. -/
def insert (place : Nat) (t : Token) : Step Unit :=
  modify fun s => { s with tokens := s.tokens.insertIdxIfInBounds place t }

/-- A colon: it makes the candidate a key, or stands behind a key with a question mark. -/
def scanValue : Step Unit := do
  let s ← get
  match s.candidates.lookup s.flow with
  | some k =>
    set { s with candidates := s.candidates.filter fun c => c.1 != s.flow }
    insert k.tokens .key
    if s.flow = 0 then
      if ← indentTo k.column then insert k.tokens .blockMappingStart
    allowKeys false
  | none =>
    openBlock .blockMappingStart
    allowKeys (s.flow == 0)
    dropCandidate
  mark 1 .value

def scanAtom (t : Scan Token) : Step Unit := do
  noteCandidate
  allowKeys false
  push (← lexeme t)

def scanBlockScalar : Step Unit := do
  allowKeys true
  dropCandidate
  let parent := (← get).indent
  push (.scalar (← lexeme (blockScalar parent)) false)

def scanPlain : Step Unit := do
  noteCandidate
  allowKeys false
  let s ← get
  let (text, lineEnded) ← lexeme (plain (s.flow != 0) s.indent)
  if lineEnded then allowKeys true
  push (.scalar text true)

/-- Whether a plain scalar may begin here. -/
def startsPlain (inFlow : Bool) (c : Cursor) : Bool :=
  let ch := c.peek
  !(isBlankOrEnd ch || "-?:,[]\x7b\x7d#&*!|>'\"%@`".toList.contains ch) ||
    (!isBlankOrEnd (c.peekAt 1) && (ch == '-' || (!inFlow && (ch == '?' || ch == ':'))))

/-- Scans the next token; says whether the text goes on. -/
def step : Step Bool := do
  skipToToken ((← get).cursor.rest.length + 1)
  dropStale
  unwind (← get).cursor.column
  let s ← get
  let c := s.cursor
  let ch := c.peek
  let inFlow := s.flow != 0
  let beforeBlank := isBlankOrEnd (c.peekAt 1)
  let atStart := c.column == 0
  if ch == '\x00' then
    unwind (-1)
    dropCandidate
    return false
  if ch == '%' && atStart then scanDirective
  else if atStart && c.isMarker '-' then scanDocumentMark .documentStart
  else if atStart && c.isMarker '.' then scanDocumentMark .documentEnd
  else if ch == '[' then openBracket .flowSequenceStart
  else if ch == '\x7b' then openBracket .flowMappingStart
  else if ch == ']' then closeBracket .flowSequenceEnd
  else if ch == '\x7d' then closeBracket .flowMappingEnd
  else if ch == ',' then scanFlowEntry
  else if ch == '-' && beforeBlank then scanBlockEntry
  else if ch == '?' && (inFlow || beforeBlank) then scanKey
  else if ch == ':' && (inFlow || beforeBlank) then scanValue
  else if ch == '*' then scanAtom (Token.alias <$> anchorName)
  else if ch == '&' then scanAtom (Token.anchor <$> anchorName)
  else if ch == '!' then scanAtom ((fun t => .tag t.1 t.2) <$> tag)
  else if (ch == '|' || ch == '>') && !inFlow then scanBlockScalar
  else if ch == '\'' || ch == '"' then scanAtom ((fun t => .scalar t false) <$> quoted ch)
  else if startsPlain inFlow c then scanPlain
  else fail
  return true

/-- How many tokens no candidate can change any more: a key's token may still come in front of
the others. -/
def settled (s : Scanner) : Nat :=
  let live := match dropStale.run s with
    | .ok (_, s) => s.candidates
    | .error _ => s.candidates
  live.foldl (fun n c => min n c.2.tokens) s.tokens.size

/-- Scans to the end of the text; `fuel` bounds the tokens. -/
def run : Nat → Scanner → Array Token
  | 0, s => s.tokens
  | fuel + 1, s =>
    match step.run s with
    | .error problem => (s.tokens.extract 0 s.settled).push (.broken problem)
    | .ok (true, s) => run fuel s
    | .ok (false, s) => s.tokens

end Scanner

/-- The tokens of a text. A byte order mark may open it. -/
def Token.scan (text : List Char) : List Token :=
  let start : Cursor := { rest := text }
  let cursor := if start.peek == byteOrderMark then start.next else start
  (Scanner.run (text.length + 1) { cursor }).toList

end Bindery.Yaml
