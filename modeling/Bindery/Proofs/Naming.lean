import Mathlib.Logic.ExistsUnique
import Bindery.Naming
import Bindery.Proofs.Text.Pieces

/-!
# Names by their words

A name spells a sequence of words (`Spells`): a word is a run without separators, and what stands
between words, in front of them and behind them is gaps of any separators. Every name spells one
sequence of words, the one that is found in it (`words_eq_iff`), so a gap inside a name cuts it in
two (`pascal_append`), and how the words are held apart does not show. Names of ASCII characters
have first letters with one form each, so that respelling them again changes nothing
(`capitalized_capitalized`, `capitalized_uncapitalized`).
-/

namespace Bindery

open Text

/-- A text of ASCII characters. -/
def Text.Ascii (s : Text) : Prop := ∀ c ∈ s, c.toNat < 128

instance (s : Text) : Decidable s.Ascii := inferInstanceAs (Decidable (∀ c ∈ s, _))

namespace Naming

/-! ## Words and gaps -/

/-- A text of separators. -/
def Gap (s : Text) : Prop := ∀ c ∈ s, c.is isSeparator = true

instance (s : Text) : Decidable (Gap s) := inferInstanceAs (Decidable (∀ c ∈ s, _))

/-- A text without separators. -/
def Unbroken (s : Text) : Prop := ∀ c ∈ s, c.is isSeparator = false

/-- A text that spells a sequence of words. What follows a word is a separator, if anything is. -/
inductive Spells : List Text → Text → Prop where
  | none {gap : Text} (separators : Gap gap) : Spells [] gap
  | word {gap word rest : Text} {others : List Text} (separators : Gap gap) (filled : word ≠ [])
      (unbroken : Unbroken word) (ends : ∀ c ∈ rest.head?, c.is isSeparator = true)
      (behind : Spells others rest) : Spells (word :: others) (gap ++ (word ++ rest))

variable {a b s word rest : Text} {c : CodePoint} {ws : List Text}

theorem words_nil : words [] = [] := rfl

/-- A separator belongs to no word, and no word goes on behind it. -/
theorem words_append_cons (separates : c.is isSeparator = true) (a b : Text) :
    words (a ++ c :: b) = words a ++ words b := by
  unfold words
  rw [splitWhere_append_cons separates, List.filter_append]

theorem words_cons (separates : c.is isSeparator = true) (b : Text) : words (c :: b) = words b :=
  words_append_cons separates [] b

/-- A gap in front has no words. -/
theorem words_of_gap (separators : Gap s) (b : Text) : words (s ++ b) = words b := by
  induction s with
  | nil => rfl
  | cons c s ih =>
    obtain ⟨first, others⟩ := List.forall_mem_cons.1 separators
    rw [List.cons_append, words_cons first, ih others]

/-- A gap that is not empty cuts a name in two. -/
theorem words_append (separators : Gap s) (filled : s ≠ []) (a b : Text) :
    words (a ++ s ++ b) = words a ++ words b := by
  obtain ⟨c, s, rfl⟩ := List.exists_cons_of_ne_nil filled
  obtain ⟨first, others⟩ := List.forall_mem_cons.1 separators
  rw [List.append_assoc, List.cons_append, words_append_cons first, words_of_gap others]

/-- A text without separators is one word. -/
theorem words_of_unbroken (unbroken : Unbroken s) (filled : s ≠ []) : words s = [s] := by
  unfold words
  rw [splitWhere_eq_singleton unbroken]
  simp [filled]

/-- A word in front of a separator is the first one. -/
theorem words_word (filled : word ≠ []) (unbroken : Unbroken word)
    (ends : ∀ c ∈ rest.head?, c.is isSeparator = true) :
    words (word ++ rest) = word :: words rest := by
  cases rest with
  | nil => rw [List.append_nil, words_of_unbroken unbroken filled, words_nil]
  | cons c rest =>
    have first : c.is isSeparator = true := ends c rfl
    rw [words_append_cons first, words_cons first, words_of_unbroken unbroken filled]
    rfl

/-- The words that a name spells are those that are found in it. -/
theorem Spells.words_eq (h : Spells ws a) : words a = ws := by
  induction h with
  | none separators => simpa [words_nil] using words_of_gap separators []
  | word separators filled unbroken ends _ ih =>
    rw [words_of_gap separators, words_word filled unbroken ends, ih]

/-- Separators in front of spelled words spell the same words. -/
theorem Spells.separator (h : Spells ws a) (separates : c.is isSeparator = true) :
    Spells ws (c :: a) := by
  cases h with
  | none separators => exact .none (List.forall_mem_cons.2 ⟨separates, separators⟩)
  | word separators filled unbroken ends behind =>
    exact .word (List.forall_mem_cons.2 ⟨separates, separators⟩) filled unbroken ends behind

/-- A letter in front of a name goes on to its first word, or is a word of its own. -/
theorem Spells.letter (h : Spells ws a) (letter : c.is isSeparator = false) :
    ∃ ws', Spells ws' (c :: a) := by
  have single : Unbroken [c] := List.forall_mem_singleton.2 letter
  have alone (ends : ∀ d ∈ a.head?, d.is isSeparator = true) : Spells ([c] :: ws) (c :: a) :=
    .word (show Gap [] from List.forall_mem_nil _) (List.cons_ne_nil c []) single ends h
  cases h with
  | none separators => exact ⟨_, alone fun d mem => separators d (List.mem_of_head? mem)⟩
  | @word gap word rest others separators filled unbroken ends behind =>
    cases gap with
    | nil =>
      exact ⟨_, .word (show Gap [] from separators) (List.cons_ne_nil c word)
        (List.forall_mem_cons.2 ⟨letter, unbroken⟩) ends behind⟩
    | cons d gap =>
      refine ⟨_, alone fun d' mem => ?_⟩
      obtain rfl := Option.some.inj mem
      exact separators d List.mem_cons_self

/-- Every text spells some words. -/
theorem exists_spells (a : Text) : ∃ ws, Spells ws a := by
  induction a with
  | nil => exact ⟨[], .none (List.forall_mem_nil _)⟩
  | cons c a ih =>
    obtain ⟨ws, h⟩ := ih
    cases separates : c.is isSeparator with
    | true => exact ⟨ws, h.separator separates⟩
    | false => exact h.letter separates

/-- A name spells one sequence of words, the one that is found in it. -/
theorem words_eq_iff : words a = ws ↔ Spells ws a := by
  refine ⟨fun h => ?_, Spells.words_eq⟩
  obtain ⟨ws', spelled⟩ := exists_spells a
  rwa [← h, spelled.words_eq]

/-! ## Names without separators -/

/-- A text without separators gets a capital in front. -/
theorem pascal_of_unbroken (unbroken : Unbroken s) : pascal s = capitalized s := by
  by_cases filled : s = []
  · rw [filled]
    rfl
  · rw [pascal, words_of_unbroken unbroken filled, List.flatMap_singleton]

/-! ## First letters in ASCII -/

/-- What holds of the characters with the numbers below 128 holds of those of ASCII. -/
theorem ascii_cases {P : CodePoint → Prop} (h : ∀ n : Fin 128, P (Char.ofNat n))
    (ascii : c.toNat < 128) : P c := by
  cases c with
  | char c =>
    have char := h ⟨c.toNat, ascii⟩
    rwa [Char.ofNat_toNat] at char
  | surrogate n => exact absurd ascii (by simp [CodePoint.toNat]; omega)

/-- An ASCII character has one character for its capital, which separates no more than it does and
is its own capital. -/
theorem exists_capital (ascii : c.toNat < 128) : ∃ d : CodePoint, formOf capital c = [d] ∧
    d.toNat < 128 ∧ d.is isSeparator = c.is isSeparator ∧ formOf capital d = [d] := by
  refine ascii_cases (P := fun c => ∃ d : CodePoint, formOf capital c = [d] ∧ d.toNat < 128 ∧
    d.is isSeparator = c.is isSeparator ∧ formOf capital d = [d]) (fun n => ?_) ascii
  refine ⟨(Char.ofNat n).toUpper, ?_⟩
  revert n
  decide +kernel

/-- An ASCII character has one character for its small form, which separates no more than it does
and has its capital. -/
theorem exists_small (ascii : c.toNat < 128) : ∃ d : CodePoint, formOf small c = [d] ∧
    d.is isSeparator = c.is isSeparator ∧ formOf capital d = formOf capital c := by
  refine ascii_cases (P := fun c => ∃ d : CodePoint, formOf small c = [d] ∧
    d.is isSeparator = c.is isSeparator ∧ formOf capital d = formOf capital c) (fun n => ?_) ascii
  refine ⟨(Char.ofNat n).toLower, ?_⟩
  revert n
  decide +kernel

/-- A capital in front separates no words. -/
theorem Unbroken.capitalized (unbroken : Unbroken s) (ascii : s.Ascii) :
    Unbroken (capitalized s) := by
  cases s with
  | nil => exact unbroken
  | cons c rest =>
    obtain ⟨first, others⟩ := List.forall_mem_cons.1 unbroken
    obtain ⟨d, form, -, same, -⟩ := exists_capital (List.forall_mem_cons.1 ascii).1
    rw [Naming.capitalized, form]
    exact List.forall_mem_cons.2 ⟨same.trans first, others⟩

/-- Nor does a small letter. -/
theorem Unbroken.uncapitalized (unbroken : Unbroken s) (ascii : s.Ascii) :
    Unbroken (uncapitalized s) := by
  cases s with
  | nil => exact unbroken
  | cons c rest =>
    obtain ⟨first, others⟩ := List.forall_mem_cons.1 unbroken
    obtain ⟨d, form, same, -⟩ := exists_small (List.forall_mem_cons.1 ascii).1
    rw [Naming.uncapitalized, form]
    exact List.forall_mem_cons.2 ⟨same.trans first, others⟩

theorem ascii_capitalized (ascii : s.Ascii) : Ascii (capitalized s) := by
  cases s with
  | nil => exact ascii
  | cons c rest =>
    obtain ⟨first, others⟩ := List.forall_mem_cons.1 ascii
    obtain ⟨d, form, small, -, -⟩ := exists_capital first
    rw [capitalized, form]
    exact List.forall_mem_cons.2 ⟨small, others⟩

/-- What begins with a capital letter is capitalized already. -/
theorem capitalized_append_of_capitalized (ascii : s.Ascii) (filled : s ≠ []) (t : Text) :
    capitalized (capitalized s ++ t) = capitalized s ++ t := by
  obtain ⟨c, rest, rfl⟩ := List.exists_cons_of_ne_nil filled
  obtain ⟨d, form, -, -, own⟩ := exists_capital (List.forall_mem_cons.1 ascii).1
  simp [capitalized, form, own]

/-- A small letter in front makes no difference to the capital that takes its place. -/
theorem capitalized_uncapitalized (ascii : s.Ascii) :
    capitalized (uncapitalized s) = capitalized s := by
  cases s with
  | nil => rfl
  | cons c rest =>
    obtain ⟨d, form, -, same⟩ := exists_small (List.forall_mem_cons.1 ascii).1
    simp [capitalized, uncapitalized, form, same]

theorem ascii_words (ascii : a.Ascii) : ∀ word ∈ words a, Ascii word := by
  intro word mem c hc
  exact ascii c ((mem_splitWhere (List.mem_filter.1 mem).1).2 hc)

/-- A word is not empty, and nothing in it separates. -/
theorem mem_words (mem : word ∈ words a) : word ≠ [] ∧ Unbroken word := by
  obtain ⟨piece, filled⟩ := List.mem_filter.1 mem
  exact ⟨by simpa using filled, (mem_splitWhere piece).1⟩

/-! ## Respelled names -/

/-- Behind a gap a text is spelled by itself. -/
theorem pascal_append (separators : Gap s) (filled : s ≠ []) (a b : Text) :
    pascal (a ++ s ++ b) = pascal a ++ pascal b := by
  rw [pascal, words_append separators filled, List.flatMap_append]
  rfl

/-- A type name has no separators. -/
theorem unbroken_pascal (ascii : a.Ascii) : Unbroken (pascal a) := by
  intro c mem
  obtain ⟨word, there, hc⟩ := List.mem_flatMap.1 mem
  exact (mem_words there).2.capitalized (ascii_words ascii word there) c hc

theorem ascii_pascal (ascii : a.Ascii) : Ascii (pascal a) := by
  intro c mem
  obtain ⟨word, there, hc⟩ := List.mem_flatMap.1 mem
  exact ascii_capitalized (ascii_words ascii word there) c hc

/-- A type name begins with a capital letter. -/
theorem capitalized_pascal (ascii : a.Ascii) : capitalized (pascal a) = pascal a := by
  unfold pascal
  cases found : words a with
  | nil => rfl
  | cons word others =>
    have first : word ∈ words a := by
      rw [found]
      exact List.mem_cons_self
    rw [List.flatMap_cons]
    exact capitalized_append_of_capitalized (ascii_words ascii word first) (mem_words first).1 _

/-- What is spelled in Pascal case stays so. -/
theorem pascal_pascal (ascii : a.Ascii) : pascal (pascal a) = pascal a := by
  rw [pascal_of_unbroken (unbroken_pascal ascii), capitalized_pascal ascii]

/-- What is spelled in camel case is spelled in Pascal case as it was before. -/
theorem pascal_camel (ascii : a.Ascii) : pascal (camel a) = pascal a := by
  have unbroken := (unbroken_pascal ascii).uncapitalized (ascii_pascal ascii)
  rw [camel, pascal_of_unbroken unbroken, capitalized_uncapitalized (ascii_pascal ascii),
    capitalized_pascal ascii]

/-- And stays spelled in camel case. -/
theorem camel_camel (ascii : a.Ascii) : camel (camel a) = camel a :=
  congrArg uncapitalized (pascal_camel ascii)

/-- A type name is made of the words that a name spells. -/
theorem Spells.pascal_eq (h : Spells ws a) : pascal a = ws.flatMap capitalized := by
  rw [pascal, h.words_eq]

/-- Names are respelled word by word: a gap cuts a name in two and leaves no trace, respelling a
name again changes nothing, and how its words are held apart makes no difference. -/
theorem respelled_by_words (ascii : a.Ascii) :
    (∀ gap b, Gap gap → gap ≠ [] → pascal (a ++ gap ++ b) = pascal a ++ pascal b) ∧
      Unbroken (pascal a) ∧ pascal (pascal a) = pascal a ∧ camel (camel a) = camel a ∧
      pascal (camel a) = pascal a ∧ (∀ name, ∃! ws, Spells ws name) ∧
      ∀ ws name, Spells ws name → pascal name = ws.flatMap capitalized ∧
        ∀ name', Spells ws name' → pascal name' = pascal name ∧ camel name' = camel name := by
  refine ⟨fun gap b separators filled => pascal_append separators filled a b, unbroken_pascal ascii,
    pascal_pascal ascii, camel_camel ascii, pascal_camel ascii, fun name => ?_, ?_⟩
  · exact ⟨words name, words_eq_iff.1 rfl, fun ws spelled => spelled.words_eq.symm⟩
  · intro ws name spelled
    refine ⟨spelled.pascal_eq, fun name' spelled' => ?_⟩
    have same : pascal name' = pascal name := spelled'.pascal_eq.trans spelled.pascal_eq.symm
    exact ⟨same, congrArg uncapitalized same⟩

/-- Two words with gaps around them, in front of a third. -/
theorem respelled_by_words_grid :
    Ascii "__point-value" ∧ Gap "_ -" ∧
      pascal "__point-value_ -of grid" = pascal "__point-value" ++ pascal "of grid" ∧
      pascal (camel "__point-value") = "PointValue" ∧
      Spells ["point", "value"] "__point-value" ∧ Spells ["point", "value"] "point\tvalue " ∧
      camel "point\tvalue " = camel "__point-value" := by
  have ascii : Ascii "__point-value" := by decide +kernel
  have gap : Gap "_ -" := by decide +kernel
  have spelled : Spells ["point", "value"] "__point-value" := words_eq_iff.1 (by decide +kernel)
  have spelled' : Spells ["point", "value"] "point\tvalue " := words_eq_iff.1 (by decide +kernel)
  obtain ⟨append, -, -, -, again, -, named⟩ := respelled_by_words ascii
  refine ⟨ascii, gap, append _ "of grid" gap (by decide +kernel), ?_, spelled, spelled',
    ((named _ _ spelled).2 _ spelled').2⟩
  rw [again]
  decide +kernel

end Naming

end Bindery
