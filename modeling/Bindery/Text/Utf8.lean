import Bindery.Fault

/-!
# UTF-8

Every text of characters has one encoding, and bytes are read back only if they are the
encoding of a text. A text with a lone surrogate has none (`encode`), and is refused with the
place of the first one. Bytes that encode no text are refused with the place and kind of the
first offence (`offence`): a byte that starts nothing, a sequence that breaks off at a wrong
byte, or one that the end cuts short.

A name in a file system is any run of bytes. As a text it has a surrogate for each byte that
belongs to no sequence (`nameOf`), so two texts may be one name, and `canonicalName` is the text
that stands for all of these.
-/

namespace Bindery.Text

def isContinuation (b : UInt8) : Bool := 0x80 ≤ b.toNat && b.toNat < 0xC0

/-- The second bytes that may follow a first byte of a sequence of three or four. -/
def mayFollow (first second : UInt8) : Bool :=
  isContinuation second &&
    (if first.toNat = 0xE0 then 0xA0 ≤ second.toNat
     else if first.toNat = 0xED then second.toNat < 0xA0
     else if first.toNat = 0xF0 then 0x90 ≤ second.toNat
     else if first.toNat = 0xF4 then second.toNat < 0x90
     else true)

/-- The length of the sequence that a first byte announces. -/
def announced? (first : UInt8) : Option Nat :=
  let n := first.toNat
  if n < 0x80 then some 1
  else if n < 0xC2 then none
  else if n < 0xE0 then some 2
  else if n < 0xF0 then some 3
  else if n < 0xF5 then some 4
  else none

/-- What is wrong with the sequence at the start: the length and kind of the offence, or the
bytes after a sequence without one. -/
def sequenceOffence : List UInt8 → Except (Nat × EncodingProblem) (List UInt8)
  | [] => .ok []
  | first :: rest =>
    match announced? first, rest with
    | none, _ => .error (1, .startByte)
    | some 1, rest => .ok rest
    | some _, [] => .error (1, .truncated)
    | some length, second :: rest =>
      if !mayFollow first second then .error (1, .continuationByte)
      else if length = 2 then .ok rest
      else
        match rest with
        | [] => .error (2, .truncated)
        | third :: rest =>
          if !isContinuation third then .error (2, .continuationByte)
          else if length = 3 then .ok rest
          else
            match rest with
            | [] => .error (3, .truncated)
            | fourth :: rest =>
              if isContinuation fourth then .ok rest else .error (3, .continuationByte)

/-- The first offence of bytes that are no encoding; `fuel` bounds the sequences read. -/
def offence (fuel position : Nat) (bytes : List UInt8) : Undecodable :=
  let first := bytes.headD 0
  match fuel, sequenceOffence bytes with
  | _, .error (length, problem) => ⟨first, position, length, problem⟩
  | 0, .ok _ => ⟨first, position, 1, .startByte⟩
  | fuel + 1, .ok rest => offence fuel (position + (bytes.length - rest.length)) rest

/-- The text that bytes encode. -/
def decode (bytes : ByteArray) : Except Undecodable String :=
  match String.fromUTF8? bytes with
  | some s => .ok s
  | none => .error (offence bytes.size 0 bytes.toList)

/-- The first surrogates of a text that hold of `p`, those next to each other together. -/
def surrogatesWhere (p : CodePoint → Bool) (s : Text) : Option Unencodable :=
  let before := s.takeWhile fun c => !(c.isSurrogate && p c)
  match s.drop before.length with
  | [] => none
  | c :: rest => some ⟨c.toNat, before.length, (rest.takeWhile (·.isSurrogate)).length + 1⟩

/-- The bytes that encode a text. -/
def encode (s : Text) : Except Unencodable ByteArray :=
  match surrogatesWhere (fun _ => true) s with
  | some reason => .error reason
  | none => .ok (String.ofList s.characters).toUTF8

/-! ## Names -/

/-- The byte outside ASCII that a surrogate stands for in a name. -/
def rawByte? : CodePoint → Option UInt8
  | .char _ => none
  | .surrogate n => if 0x480 ≤ n.val && n.val < 0x500 then some (n.val - 0x400).toUInt8 else none

/-- Refuses a text that is no name because a code point of it has no bytes. -/
def checkName (name : Text) : Except Unencodable Unit :=
  match surrogatesWhere (fun c => (rawByte? c).isNone) name with
  | some reason => .error reason
  | none => .ok ()

/-- The surrogate that stands for a byte outside ASCII. -/
def ofRawByte (b : UInt8) : CodePoint := .ofNat (0xDC00 + b.toNat)

/-- The bytes of a code point in a name. -/
def nameBytes (c : CodePoint) : List UInt8 :=
  match c with
  | .char c => (String.singleton c).toUTF8.toList
  | c => (rawByte? c).toList

/-- How many bytes a name has. -/
def nameSize (name : Text) : Nat := name.foldl (fun n c => n + (nameBytes c).length) 0

/-- The number that a sequence writes: what the first byte adds to its mark, then six bits from
each byte after it. -/
def sequenceNumber : List UInt8 → Nat
  | [] => 0
  | first :: rest =>
    let n := first.toNat
    let high :=
      if n < 0x80 then n else if n < 0xE0 then n - 0xC0 else if n < 0xF0 then n - 0xE0 else n - 0xF0
    rest.foldl (fun n b => n * 64 + (b.toNat - 0x80)) high

/-- The text of a name's bytes; `fuel` bounds its length. -/
def nameOf : (fuel : Nat) → List UInt8 → Text
  | 0, _ | _, [] => []
  | fuel + 1, first :: rest =>
    match sequenceOffence (first :: rest) with
    | .error _ => ofRawByte first :: nameOf fuel rest
    | .ok after =>
      let length := rest.length + 1 - after.length
      .ofNat (sequenceNumber ((first :: rest).take length)) :: nameOf fuel after

/-- The text that stands for all texts with the bytes of a name. -/
def canonicalName (name : Text) : Text :=
  if name.any (·.isSurrogate) then
    let bytes := name.flatMap nameBytes
    nameOf bytes.length bytes
  else name

theorem decode_toUTF8 (s : String) : decode s.toUTF8 = .ok s := by
  have h : String.fromUTF8? s.toUTF8 = some s := by
    unfold String.fromUTF8?
    exact dif_pos s.isValidUTF8
  unfold decode
  rw [h]

end Bindery.Text
