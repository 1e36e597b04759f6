import Bindery.Number.Read
import Bindery.Path
import Bindery.Text.Quoted
import Bindery.Value.Basic

/-!
# Reading arguments

A grammar says which options a program has and what words it takes besides. An option has short
and long names; a long name may be cut short as long as it stays clear, a value may follow an
equals sign or, after a short name, follow at once, and short names without values may be run
together. Two dashes end the options; where they are all that follows an option's name in one
argument, the option is there without a value. Whatever the grammar has no place for is left over
(`Found.extras`), and it is for the caller to refuse it.

Arguments are first told apart one by one (`Item`), which needs no look at their neighbours,
and then taken in order.
-/

namespace Bindery.CommandLine

/-- What an option takes. -/
inductive Demand where
  | nothing
  /-- Nothing; the option asks for the help text. -/
  | help
  | text
  | whole
  | number
  | oneOf (choices : List Text)
  deriving DecidableEq, Repr

structure Opt where
  names : List Text
  takes : Demand
  isRequired : Bool := false
  deriving DecidableEq, Repr

namespace Opt

/-- The names of an option as errors show them. -/
def title (o : Opt) : Text := Text.joined "/" o.names

/-- The name under which an option is found: the last, which is the long one. -/
def key (o : Opt) : Text := o.names.getLast?.getD ""

def takesValue (o : Opt) : Bool := o.takes != .nothing && o.takes != .help

end Opt

/-- The words that a program takes besides its options: none, at least one, or one of some
commands with everything that follows it. -/
inductive WordDemand where
  | none
  | some (title : Text)
  | command (title : Text) (choices : List Text)
  deriving DecidableEq, Repr

structure Grammar where
  program : Text
  options : List Opt
  words : WordDemand := .none

/-- Why arguments are refused. -/
inductive UsageProblem where
  | ambiguous (given : Text) (candidates : List Text)
  | noValue (title : Text)
  | valueUnwanted (title value : Text)
  | invalid (title kind value : Text)
  | noChoice (title value : Text) (choices : List Text)
  | missing (titles : List Text)
  | unrecognized (words : List Text)
  deriving DecidableEq, Repr

namespace UsageProblem

def about (title wording : Text) : Text := "argument " ++ title ++ ": " ++ wording

def wording : UsageProblem → Text
  | .ambiguous given candidates =>
    "ambiguous option: " ++ given ++ " could match " ++ Text.joined ", " candidates
  | .noValue title => about title "expected one argument"
  | .valueUnwanted title value => about title ("ignored explicit argument " ++ Text.quoted value)
  | .invalid title kind value =>
    about title ("invalid " ++ kind ++ " value: " ++ Text.quoted value)
  | .noChoice title value choices =>
    about title ("invalid choice: " ++ Text.quoted value ++ " (choose from " ++
      Text.joined ", " (choices.map Text.quoted) ++ ")")
  | .missing titles => "the following arguments are required: " ++ Text.joined ", " titles
  | .unrecognized words => "unrecognized arguments: " ++ Text.joined " " words

end UsageProblem

/-- A refusal by a program. -/
structure UsageError where
  program : Text
  problem : UsageProblem
  deriving DecidableEq, Repr

def UsageError.message (e : UsageError) : Text := e.program ++ ": error: " ++ e.problem.wording

/-- Why reading arguments ends early: they are refused, or the help text is asked for. -/
inductive Stop where
  | refused (error : UsageError)
  | help (program : Text)
  deriving DecidableEq, Repr

/-! ## Telling arguments apart -/

/-- One argument: two dashes, a word, an option under one of its names with what the argument
holds besides the name, or something that looks like an option and is none. -/
inductive Item where
  | dashes
  | word (s : Text)
  | option (o : Opt) (name : Text) (attached : Option Text)
  | stranger (s : Text)

namespace Item

/-- The parts of an argument before and after its first equals sign, if it has one. -/
def atEquals (s : Text) : Text × Option Text :=
  let isOther (c : CodePoint) : Bool := c != '='
  match s.dropWhile isOther with
  | [] => (s, none)
  | _ :: value => (s.takeWhile isOther, some value)

/-- The options that a name could stand for, each with its full name. -/
def named (options : List Opt) (p : Text → Bool) : List (Opt × Text) :=
  options.flatMap fun o => (o.names.filter p).map fun name => (o, name)

/-- Whether an argument is a negative number, to which a line end may be added. -/
def isNegative (s : Text) : Bool :=
  match if s.getLast? = some (.char '\n') then s.dropLast else s with
  | .char '-' :: rest =>
    match rest.dropWhile (·.is Number.isDigit) with
    | [] => !rest.isEmpty
    | .char '.' :: fraction => !fraction.isEmpty && fraction.all (·.is Number.isDigit)
    | _ => false
  | _ => false

/-- The options that an argument could mean when it names none in full. A long name may be cut
short; a short one is followed by its value. -/
def candidates (options : List Opt) (s : Text) : List (Opt × Text × Option Text) :=
  match s with
  | .char '-' :: .char '-' :: _ =>
    let (front, attached) := atEquals s
    (named options fun name => front.isPrefixOf name).map fun e => (e.1, e.2, attached)
  | _ =>
    (named options fun name => name == s.take 2).map fun e => (e.1, e.2, some (s.drop 2))

/-- What an argument is that starts with a dash and names no option in full. -/
def guess (options : List Opt) (s : Text) : Except UsageProblem Item :=
  match candidates options s with
  | [(o, name, attached)] => .ok (.option o name attached)
  | [] => .ok (if isNegative s || s.contains ' ' then .word s else .stranger s)
  | many => .error (.ambiguous s (many.map fun e => e.2.1))

/-- What an argument is. -/
def ofText (options : List Opt) (s : Text) : Except UsageProblem Item :=
  let exact (name : Text) := (named options (· == name)).head?
  match s with
  | .char '-' :: _ :: _ =>
    match exact s, atEquals s with
    | some (o, name), _ => .ok (.option o name none)
    | none, (front, some value) =>
      match exact front with
      | some (o, name) => .ok (.option o name (some value))
      | none => guess options s
    | none, _ => guess options s
  | _ => .ok (.word s)

/-- What all arguments are. After two dashes all are words. -/
def ofTexts (options : List Opt) : List Text → Except UsageProblem (List Item)
  | [] => .ok []
  | s :: rest =>
    if s = "--" then .ok (.dashes :: rest.map .word)
    else do
      let item ← ofText options s
      return item :: (← ofTexts options rest)

end Item

/-! ## Taking arguments in order -/

/-- What an option was given: a value, or nothing at all. -/
inductive Given where
  | scalar (s : Scalar)
  | nothing
  deriving DecidableEq, Repr

namespace Given

/-- What was given as documents hold it; for nothing an empty list stands. -/
def value : Given → Value
  | .scalar s => .scalar s
  | .nothing => .list none []

def text? : Given → Option Text
  | .scalar (.text s) => some s
  | _ => none

def int? : Given → Option Int
  | .scalar s => s.int?
  | .nothing => none

/-- The path that a text writes; nothing is none that could be used. -/
def path : Given → Path.Wanted
  | .scalar (.text s) => .ok (Path.ofText s)
  | _ => .error .noOperation

end Given

/-- What was found: the options given with their values, in order, the words, and what is left
over. -/
structure Found where
  given : List (Text × Given) := []
  words : Option (List Text) := none
  extras : List Text := []

namespace Found

def has (f : Found) (key : Text) : Bool := f.given.any fun e => e.1 == key

/-- All values of an option. -/
def all (f : Found) (key : Text) : List Given :=
  (f.given.filter fun e => e.1 == key).map (·.2)

/-- The last value of an option. -/
def last? (f : Found) (key : Text) : Option Given := (f.all key).getLast?

end Found

/-- A word as it was written. -/
def Item.written : Item → Text
  | .dashes => "--"
  | .word s | .stranger s => s
  | .option _ name _ => name

/-- The value of an option, read as what the option takes. -/
def read (o : Opt) (s : Text) : Except UsageProblem Scalar :=
  match o.takes with
  | .nothing | .help | .text => .ok (.text s)
  | .whole =>
    match Number.integer 10 s with
    | .ok n => .ok (.int n)
    | .error _ => .error (.invalid o.title "int" s)
  | .number =>
    match Number.float s with
    | .ok x => .ok (.float x)
    | .error _ => .error (.invalid o.title "float" s)
  | .oneOf choices => if s ∈ choices then .ok (.text s) else .error (.noChoice o.title s choices)

/-- The options that one argument stands for: some without values, and a last one with the value
that the argument holds for it. -/
structure Cluster where
  flags : List Opt
  last : Opt
  value : Option Text

/-- The options of an argument, from an option and what the argument holds behind it on. A short
option without value may be followed by the names of others. -/
def clusterFrom (options flags : List Opt) (o : Opt) (isShort : Bool) (attached : Text) :
    Except UsageProblem Cluster :=
  if o.takesValue then .ok ⟨flags, o, some attached⟩
  else
    let unwanted := .error (.valueUnwanted o.title attached)
    match attached with
    | [] => unwanted
    | c :: rest =>
      match (Item.named options (· == [.char '-', c])).head? with
      | none => unwanted
      | some (next, _) =>
        if !isShort then unwanted
        else if rest.isEmpty then .ok ⟨flags ++ [o], next, none⟩
        else clusterFrom options (flags ++ [o]) next true rest

/-- Two dashes. -/
def twoDashes : Text := "--"

/-- Whether a name of an option has one dash only. -/
def isShortName (name : Text) : Bool := !twoDashes.isPrefixOf name

/-- The options that an argument stands for. -/
def clusterOf (options : List Opt) (o : Opt) (name : Text) :
    Option Text → Except UsageProblem Cluster
  | none => .ok ⟨[], o, none⟩
  | some attached => clusterFrom options [] o (isShortName name) attached

namespace Grammar

def refuse (g : Grammar) (problem : UsageProblem) : Stop := .refused ⟨g.program, problem⟩

def orRefuse {α : Type} (g : Grammar) : Except UsageProblem α → Except Stop α
  | .ok a => .ok a
  | .error problem => .error (g.refuse problem)

/-- Takes options without values. -/
def takeFlags (g : Grammar) (flags : List Opt) (f : Found) : Except Stop Found :=
  flags.foldlM (fun f o =>
    if o.takes = .help then .error (.help g.program)
    else .ok { f with given := f.given ++ [(o.key, .scalar (.bool true))] }) f

/-- Takes an option with its value. -/
def takeValue (g : Grammar) (o : Opt) (value : Text) (f : Found) : Except Stop Found := do
  let v ← g.orRefuse (read o value)
  return { f with given := f.given ++ [(o.key, .scalar v)] }

/-- Takes an option with what its own argument holds for it. -/
def takeAttached (g : Grammar) (o : Opt) (attached : Text) (f : Found) : Except Stop Found :=
  if attached = twoDashes then .ok { f with given := f.given ++ [(o.key, .nothing)] }
  else g.takeValue o attached f

/-- Takes the words in front of an option or at the end; a second run of words is left over. -/
def takeWords (g : Grammar) (front : List Item) (f : Found) : Found :=
  let isWord : Item → Bool := fun i => match i with | .word _ => true | _ => false
  match g.words, f.words with
  | .some _, none =>
    if front.any isWord then
      { f with words := some ((front.filter isWord).map Item.written) }
    else { f with extras := f.extras ++ front.map Item.written }
  | _, _ => { f with extras := f.extras ++ front.map Item.written }

/-- Takes arguments in order. Each comes with all that are written from it on, which a command
takes as they are; `front` are the words in front. -/
def take (g : Grammar) (front : List Item) (f : Found) :
    List (Item × List Text) → Except Stop Found
  | [] => .ok (g.takeWords front f)
  | (.dashes, _) :: rest => take g (front ++ [.dashes]) f rest
  | (.word s, written) :: rest =>
    match g.words with
    | .command _ _ => .ok { f with words := some (front.map Item.written ++ written) }
    | _ => take g (front ++ [.word s]) f rest
  | (.stranger s, _) :: rest =>
    let f := g.takeWords front f
    take g [] { f with extras := f.extras ++ [s] } rest
  | (.option o name attached, _) :: rest => do
    let f := g.takeWords front f
    let cluster ← g.orRefuse (clusterOf g.options o name attached)
    if !cluster.last.takesValue then
      take g [] (← g.takeFlags (cluster.flags ++ [cluster.last]) f) rest
    else
      match cluster.value, rest with
      | some value, rest =>
        take g [] (← g.takeAttached cluster.last value (← g.takeFlags cluster.flags f)) rest
      | none, (.word value, _) :: rest =>
        take g [] (← g.takeValue cluster.last value (← g.takeFlags cluster.flags f)) rest
      | none, _ => .error (g.refuse (.noValue cluster.last.title))

/-- What a grammar requires and was not found. -/
def missing (g : Grammar) (f : Found) : List Text :=
  let words := match g.words, f.words with
    | .some title, none | .command title _, none => [title]
    | _, _ => []
  words ++ (g.options.filter fun o => o.isRequired && !f.has o.key).map Opt.title

/-- Arguments with all that are written from each one on. -/
def withRests : List Item → List Text → List (Item × List Text)
  | item :: items, s :: rest => (item, s :: rest) :: withRests items rest
  | _, _ => []

/-- What a grammar finds in arguments. -/
def parse (g : Grammar) (args : List Text) : Except Stop Found := do
  let items ← g.orRefuse (Item.ofTexts g.options args)
  let found ← g.take [] {} (withRests items args)
  match g.missing found with
  | [] => return found
  | titles => throw (g.refuse (.missing titles))

/-- A summary of the options. -/
def helpText (g : Grammar) : Text :=
  let words : Text := match g.words with
    | .none => ""
    | .some title => " " ++ title ++ " ..."
    | .command _ choices => " (" ++ Text.joined " | " choices ++ ") ..."
  let options : Text := g.options.flatMap fun o => "  " ++ Text.joined ", " o.names ++ "\n"
  "usage: " ++ g.program ++ " [options]" ++ words ++ "\n\noptions:\n" ++ options

end Grammar

end Bindery.CommandLine
