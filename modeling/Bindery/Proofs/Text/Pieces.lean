import Bindery.Text.Blank

/-!
# Pieces and lines of texts

A text falls into pieces where something separates them, and into pieces on both sides of any one of
these places (`Text.splitWhere_append_cons`). Lines that were put together with their line ends are
the lines of the text again (`Text.lines_ended_append`), and behind whole lines a line is found
whatever the lines in front are (`Text.Whole.mem_lines`). Blanks are taken off the end of a text,
and no further than to what can be seen (`Text.trimEnd_append_cons`).
-/

namespace Bindery.Text

variable {s t : Text}

theorem ofString_append (a b : String) : ofString (a ++ b) = ofString a ++ ofString b := by
  simp [ofString, ofChars]

/-! ## Pieces -/

theorem splitWhere_eq_singleton {α : Type} {p : α → Bool} {s : List α} (h : ∀ c ∈ s, p c = false) :
    splitWhere p s = [s] := by
  induction s with
  | nil => rfl
  | cons c rest ih =>
    obtain ⟨first, others⟩ := List.forall_mem_cons.1 h
    simp [splitWhere, first, ih others]

/-- The pieces on both sides of a member that they are separated by. -/
theorem splitWhere_append_cons {α : Type} {p : α → Bool} {c : α} (separates : p c = true)
    (s t : List α) : splitWhere p (s ++ c :: t) = splitWhere p s ++ splitWhere p t := by
  induction s with
  | nil => simp [splitWhere, separates]
  | cons d s ih =>
    rw [List.cons_append, splitWhere, splitWhere, ih]
    split
    · rfl
    · cases h : splitWhere p s with
      | nil => exact absurd h (splitWhere_ne_nil _ _)
      | cons piece pieces => rfl

theorem pieces_eq_singleton {s : Text} {sep : Char} (h : .char sep ∉ s) :
    Text.pieces sep s = [s] :=
  splitWhere_eq_singleton fun _ mem => beq_false_of_ne (ne_of_mem_of_not_mem mem h)

/-- The pieces between separators hold none of these, and nothing else that is not in the whole. -/
theorem mem_splitWhere {α : Type} {p : α → Bool} {s piece : List α} (h : piece ∈ splitWhere p s) :
    (∀ c ∈ piece, p c = false) ∧ piece ⊆ s := by
  induction s generalizing piece with
  | nil =>
    obtain rfl := List.mem_singleton.1 h
    simp
  | cons c rest ih =>
    rw [splitWhere] at h
    split at h
    · rcases List.mem_cons.1 h with rfl | h
      · simp
      · obtain ⟨plain, sub⟩ := ih h
        exact ⟨plain, List.subset_cons_of_subset c sub⟩
    · rename_i hc
      split at h
      · rename_i hnil
        exact absurd hnil (splitWhere_ne_nil _ _)
      · rename_i first pieces hcons
        rw [hcons] at ih
        rcases List.mem_cons.1 h with rfl | h
        · obtain ⟨plain, sub⟩ := ih List.mem_cons_self
          exact ⟨List.forall_mem_cons.2 ⟨Bool.eq_false_iff.2 hc, plain⟩,
            List.cons_subset_cons c sub⟩
        · obtain ⟨plain, sub⟩ := ih (List.mem_cons_of_mem _ h)
          exact ⟨plain, List.subset_cons_of_subset c sub⟩

/-- What separates nothing is in a piece. -/
theorem exists_mem_splitWhere {α : Type} {p : α → Bool} {c : α} {s : List α} (h : c ∈ s)
    (plain : p c = false) : ∃ piece ∈ splitWhere p s, c ∈ piece := by
  obtain ⟨front, back, rfl⟩ := List.append_of_mem h
  induction front with
  | nil =>
    rw [List.nil_append, splitWhere, if_neg (by simp [plain])]
    split
    · exact ⟨[c], by simp⟩
    · rename_i piece _ _
      exact ⟨c :: piece, by simp⟩
  | cons d front ih =>
    obtain ⟨piece, mem, there⟩ := ih (by simp)
    rw [List.cons_append, splitWhere]
    split
    · exact ⟨piece, List.mem_cons_of_mem _ mem, there⟩
    · split
      · rename_i hnil
        exact absurd hnil (splitWhere_ne_nil _ _)
      · rename_i first others hcons
        rw [hcons] at mem
        rcases List.mem_cons.1 mem with rfl | mem
        · exact ⟨d :: piece, List.mem_cons_self, List.mem_cons_of_mem _ there⟩
        · exact ⟨piece, List.mem_cons_of_mem _ mem, there⟩

/-- The pieces between the occurrences of a character do not have it, and have nothing else. -/
theorem mem_pieces {sep : Char} {s piece : Text} (h : piece ∈ pieces sep s) :
    .char sep ∉ piece ∧ piece ⊆ s := by
  obtain ⟨plain, sub⟩ := mem_splitWhere h
  exact ⟨fun mem => absurd (plain _ mem) (by simp), sub⟩

/-- The pieces on both sides of a separator. -/
theorem pieces_append_cons (sep : Char) (s t : Text) :
    pieces sep (s ++ .char sep :: t) = pieces sep s ++ pieces sep t := by
  apply splitWhere_append_cons
  exact beq_self_eq_true (CodePoint.char sep)

/-- The pieces of a text make it up again. -/
theorem joined_pieces (sep : Char) (s : Text) : joined [.char sep] (pieces sep s) = s := by
  unfold joined pieces
  induction s with
  | nil => rfl
  | cons c rest ih =>
    obtain ⟨piece, others, found⟩ :=
      List.exists_cons_of_ne_nil (splitWhere_ne_nil (· == CodePoint.char sep) rest)
    rw [splitWhere]
    rw [found] at ih ⊢
    split
    · rename_i separates
      rw [List.intercalate_cons_cons, ih, eq_of_beq separates]
      rfl
    · cases others with
      | nil => simpa using ih
      | cons next others =>
        rw [List.intercalate_cons_cons] at ih ⊢
        simpa using ih

/-! ## Lines -/

/-- The lines of a text. -/
def lines (s : Text) : List Text := pieces '\n' s

/-- A text without blanks. -/
def Solid (s : Text) : Prop := ∀ c ∈ s, c.is isBlank = false

instance (s : Text) : Decidable s.Solid := inferInstanceAs (Decidable (∀ c ∈ s, _))

theorem Solid.newline_notMem (h : Solid s) : .char '\n' ∉ s := fun mem => nomatch h _ mem

/-- A text of whole lines: the last one ends with a line end, too. -/
def Whole (s : Text) : Prop := ∀ c ∈ s.getLast?, c = .char '\n'

instance (s : Text) : Decidable s.Whole := inferInstanceAs (Decidable (∀ c ∈ s.getLast?, _))

theorem whole_iff : Whole s ↔ s = [] ∨ ∃ t, s = t ++ [.char '\n'] := by
  rw [Whole, ← List.getLast?_eq_some_iff, ← List.getLast?_eq_none_iff]
  cases s.getLast? <;> simp

theorem Whole.append (hs : Whole s) (ht : Whole t) : Whole (s ++ t) := by
  unfold Whole at *
  rw [List.getLast?_append]
  cases h : t.getLast? with
  | none => simpa using hs
  | some c => simpa [h] using ht

/-- Whole lines make all that is in front of them whole. -/
theorem Whole.behind (ht : Whole t) (filled : t ≠ []) (s : Text) : Whole (s ++ t) := by
  obtain rfl | ⟨t, rfl⟩ := whole_iff.1 ht
  · exact absurd rfl filled
  · exact whole_iff.2 (.inr ⟨s ++ t, by rw [List.append_assoc]⟩)

theorem whole_flatMap {α : Type} {f : α → Text} (whole : ∀ a, Whole (f a)) (as : List α) :
    Whole (as.flatMap f) := by
  induction as with
  | nil => exact whole_iff.2 (.inl rfl)
  | cons a as ih => exact (whole a).append ih

/-- Lines, each with its line end. -/
def ended (ls : List Text) : Text := ls.flatMap fun l => l ++ [.char '\n']

theorem ended_cons (l : Text) (ls : List Text) : ended (l :: ls) = l ++ .char '\n' :: ended ls := by
  rw [ended, List.flatMap_cons, List.append_assoc]
  rfl

theorem ended_append (ls ls' : List Text) : ended (ls ++ ls') = ended ls ++ ended ls' :=
  List.flatMap_append

theorem whole_ended (ls : List Text) : Whole (ended ls) :=
  whole_flatMap (fun l => whole_iff.2 (.inr ⟨l, rfl⟩)) ls

theorem lines_ended_append {ls : List Text} (single : ∀ l ∈ ls, .char '\n' ∉ l) (rest : Text) :
    lines (ended ls ++ rest) = ls ++ lines rest := by
  induction ls with
  | nil => rfl
  | cons l ls ih =>
    obtain ⟨first, others⟩ := List.forall_mem_cons.1 single
    rw [ended_cons, List.append_assoc, List.cons_append, lines, pieces_append_cons,
      pieces_eq_singleton first, ← lines, ih others]
    rfl

/-- A line behind whole lines. -/
theorem Whole.mem_lines (whole : Whole s) {line : Text} (single : .char '\n' ∉ line)
    (rest : Text) : line ∈ lines (s ++ (line ++ .char '\n' :: rest)) := by
  have first : line ∈ lines (line ++ .char '\n' :: rest) := by
    rw [lines, pieces_append_cons, pieces_eq_singleton single]
    exact List.mem_append_left _ (List.mem_singleton_self line)
  obtain rfl | ⟨s, rfl⟩ := whole_iff.1 whole
  · exact first
  · rw [List.append_assoc, List.singleton_append, lines, pieces_append_cons]
    exact List.mem_append_right _ first

/-! ## Blanks at the end -/

/-- Blanks are taken off the end no further than to what can be seen. -/
theorem trimEnd_append_cons {c : CodePoint} (visible : c.is isBlank = false) (s t : Text) :
    trimEnd (s ++ c :: t) = s ++ c :: trimEnd t := by
  have stops : ([c] ++ s.reverse).dropWhile (·.is isBlank) = [c] ++ s.reverse := by
    simp [visible]
  unfold trimEnd
  rw [List.reverse_append, List.reverse_cons, List.append_assoc, List.dropWhile_append, stops]
  split
  · rename_i blank
    rw [List.isEmpty_iff.1 blank]
    simp
  · simp

/-- A text without blanks at its end is empty, or ends in something that can be seen. -/
theorem trimEnd_cases (s : Text) :
    trimEnd s = [] ∨ ∃ front c, trimEnd s = front ++ [c] ∧ c.is isBlank = false := by
  unfold trimEnd
  have first := List.head?_dropWhile_not (·.is isBlank) s.reverse
  cases h : s.reverse.dropWhile (·.is isBlank) with
  | nil => exact .inl rfl
  | cons c rest =>
    rw [h] at first
    exact .inr ⟨rest.reverse, c, by simp, first⟩

/-- A line end is taken off, or is kept with what follows it. -/
theorem trimEnd_cons_newline (s : Text) :
    trimEnd (.char '\n' :: s) = [] ∨ trimEnd (.char '\n' :: s) = .char '\n' :: trimEnd s := by
  unfold trimEnd
  rw [List.reverse_cons, List.dropWhile_append]
  split
  · exact .inl rfl
  · exact .inr (by rw [List.reverse_append]; rfl)

end Bindery.Text
