/-!
# Texts

A text is a run of code points. Nearly all of them are characters, but a written text may also
name a surrogate, one half of a pair by which other encodings write one character. A text with a
surrogate can be held, compared and shown, though not encoded.

Every text of characters is a text in this sense (`Text.ofString`), and code points are told
apart by their numbers (`CodePoint.ofNat_toNat`).
-/

namespace Bindery

/-- A character, or a surrogate by its place among them. -/
inductive CodePoint where
  | char (c : Char)
  | surrogate (n : Fin 0x800)
  deriving DecidableEq, Repr, Inhabited

/-- Surrogates may be written by number; the zero is the one that such numerals ask for. -/
instance CodePoint.instNeZero : @NeZero Nat .ofOfNat0 0x800 := ⟨Nat.succ_ne_zero 0x7ff⟩

namespace CodePoint

instance : Coe Char CodePoint := ⟨.char⟩

/-- The number of a code point; surrogates start at `0xD800`. -/
def toNat : CodePoint → Nat
  | .char c => c.toNat
  | .surrogate n => 0xD800 + n.val

/-- The code point of a number below `0x110000`. -/
def ofNat (n : Nat) : CodePoint :=
  if h : 0xD800 ≤ n ∧ n < 0xE000 then .surrogate ⟨n - 0xD800, by omega⟩ else .char (Char.ofNat n)

/-- Whether a code point is a character of a class. -/
def is (p : Char → Bool) : CodePoint → Bool
  | .char c => p c
  | .surrogate _ => false

def isSurrogate : CodePoint → Bool
  | .char _ => false
  | .surrogate _ => true

/-- The character that a code point is. -/
def char? : CodePoint → Option Char
  | .char c => some c
  | .surrogate _ => none

theorem ofNat_toNat (c : CodePoint) : ofNat c.toNat = c := by
  cases c with
  | char c =>
    have hv : c.toNat.isValidChar := c.valid
    have hn : ¬(0xD800 ≤ c.toNat ∧ c.toNat < 0xE000) := by
      unfold Nat.isValidChar at hv
      omega
    unfold ofNat toNat
    rw [dif_neg hn, Char.ofNat_toNat]
  | surrogate n =>
    have hn : 0xD800 ≤ 0xD800 + n.val ∧ 0xD800 + n.val < 0xE000 := by omega
    unfold ofNat toNat
    rw [dif_pos hn]
    simp only [Nat.add_sub_cancel_left]

theorem toNat_injective {a b : CodePoint} (h : a.toNat = b.toNat) : a = b := by
  rw [← ofNat_toNat a, h, ofNat_toNat b]

end CodePoint

abbrev Text := List CodePoint

namespace Text

/-- The text of characters. -/
def ofChars (cs : List Char) : Text := cs.map CodePoint.char

def ofString (s : String) : Text := ofChars s.toList

instance : Coe String Text := ⟨ofString⟩

/-- The characters of a text without surrogates. -/
def chars? (t : Text) : Option (List Char) := t.mapM CodePoint.char?

/-- The characters of a text, its surrogates left out. -/
def characters (t : Text) : List Char := t.filterMap CodePoint.char?

/-- The numbers of a text's code points. -/
def numbers (t : Text) : List Nat := t.map CodePoint.toNat

/-- The decimal digits of a number behind its sign. -/
def ofInt (n : Int) : Text := toString n

/-- The texts one after another with `sep` between neighbours. -/
def joined (sep : Text) (parts : List Text) : Text := List.intercalate sep parts

theorem characters_ofChars (cs : List Char) : characters (ofChars cs) = cs := by
  unfold characters ofChars
  rw [List.filterMap_map]
  exact List.filterMap_some

theorem numbers_injective {s t : Text} (h : s.numbers = t.numbers) : s = t :=
  (List.map_inj_right fun _ _ hab => CodePoint.toNat_injective hab).1 h

end Text

end Bindery
