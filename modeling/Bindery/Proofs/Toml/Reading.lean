import Bindery.Proofs.Outcome
import Bindery.Proofs.Value.Over
import Bindery.Toml.Read
import Mathlib.Data.Option.Basic

/-!
# What reading TOML ends with

A text in TOML is malformed, holds an integer with more digits than are converted, or nests its
lists and inline tables too deeply (`Toml.Trouble`); nothing else stops a reader. What is read is a
table of values that have neither nulls nor bytes (`Toml.read_ends`).
-/

namespace Bindery

open Outcome

/-- The scalars that TOML has. -/
def Scalar.IsToml : Scalar → Prop
  | .null | .bytes _ => False
  | _ => True

namespace Toml

/-- Why a text in TOML is not read. -/
inductive Trouble : ReadProblem → Prop where
  | malformed : Trouble .malformed
  | digits {n : Nat} (many : Number.longestInteger < n) :
      Trouble (.fault (.unconvertible (.integerLength n)))
  | depth : Trouble (.fault .tooDeep)

section Words

variable {α : Type} {good : α → Prop}

@[simp] theorem only_malformed : Only Trouble (malformed : Except ReadProblem α) :=
  only_error .malformed

@[simp] theorem ends_malformed : Ends good Trouble malformed := ends_error .malformed

@[simp] theorem only_ok (a : α) : Only Trouble (.ok a : Except ReadProblem α) := only_pure a

@[simp] theorem only_cons {c : Char} {taken : Except ReadProblem (List Char × List Char)}
    (h : Only Trouble taken) : Only Trouble (cons c taken) := by
  cases taken with
  | ok _ => exact only_ok _
  | error e => exact only_error (h e rfl)

theorem skipComment_only (s : List Char) : Only Trouble (skipComment s) := by
  unfold skipComment
  repeat' split
  all_goals simp

theorem skipLines_only (fuel : Nat) (s : List Char) : Only Trouble (skipLines fuel s) := by
  induction fuel generalizing s with
  | zero => exact only_ok s
  | succ fuel ih =>
    unfold skipLines
    split
    · exact only_bind (skipComment_only _) ih
    · exact only_ok _

theorem basicChars_only (s : List Char) : Only Trouble (basicChars s) := by
  fun_induction basicChars s <;> simp [*]

theorem longBasicChars_only (mode : Skipping) (s : List Char) :
    Only Trouble (longBasicChars mode s) := by
  fun_induction longBasicChars mode s <;> simp [*]

theorem literalChars_only (s : List Char) : Only Trouble (literalChars s) := by
  fun_induction literalChars s <;> simp [*]

theorem longLiteralChars_only (s : List Char) : Only Trouble (longLiteralChars s) := by
  fun_induction longLiteralChars s <;> simp [*]

theorem extraQuotes_only (quote : Char) {taken : Except ReadProblem (List Char × List Char)}
    (h : Only Trouble taken) : Only Trouble (extraQuotes quote taken) := by
  cases taken with
  | ok _ => exact only_ok _
  | error e => exact only_error (h e rfl)

theorem string?_only {s : List Char} {taken : Except ReadProblem (List Char × List Char)}
    (h : string? s = some taken) : Only Trouble taken := by
  unfold string? at h
  split at h
  · obtain rfl := Option.some.inj h
    exact extraQuotes_only _ (longBasicChars_only _ _)
  · obtain rfl := Option.some.inj h
    exact basicChars_only _
  · obtain rfl := Option.some.inj h
    exact extraQuotes_only _ (longLiteralChars_only _)
  · obtain rfl := Option.some.inj h
    exact literalChars_only _
  · cases h

theorem keyPart_only (s : List Char) : Only Trouble (keyPart s) := by
  unfold keyPart
  dsimp only
  split
  · exact only_ok _
  · split
    · exact only_map (basicChars_only _) _
    · exact only_map (literalChars_only _) _
    · exact only_malformed

theorem keyParts_only (fuel : Nat) (s : List Char) : Only Trouble (keyParts fuel s) := by
  induction fuel generalizing s with
  | zero => exact only_malformed
  | succ fuel ih =>
    unfold keyParts
    split
    · refine only_bind (keyPart_only _) fun _ => only_bind (ih _) fun _ => only_pure _
    · exact only_ok _

theorem key_only (s : List Char) : Only Trouble (key s) :=
  only_bind (keyPart_only s) fun _ => only_bind (keyParts_only _ _) fun _ => only_pure _

end Words

/-! ## Scalars -/

theorem moment?_isToml {s rest : List Char} {m : Scalar}
    (h : Calendar.moment? s = some (some m, rest)) : m.IsToml := by
  unfold Calendar.moment? at h
  dsimp only at h
  split at h
  · split at h
    · obtain ⟨d, -, rfl⟩ := Option.map_eq_some_iff.1 (Prod.mk.inj (Option.some.inj h)).1
      trivial
    · split at h
      · obtain ⟨d, -, rfl⟩ := Option.map_eq_some_iff.1 (Prod.mk.inj (Option.some.inj h)).1
        trivial
      · obtain ⟨d, -, rfl⟩ := Option.map_eq_some_iff.1 (Prod.mk.inj (Option.some.inj h)).1
        trivial
  · obtain ⟨⟨time, rest'⟩, -, taken⟩ := Option.map_eq_some_iff.1 h
    obtain ⟨found, -⟩ := Prod.mk.inj taken
    obtain rfl := Option.some.inj found
    trivial

theorem markedNumber?_isToml {s : List Char} {e : Scalar × List Char}
    (h : markedNumber? s = some e) : e.1.IsToml := by
  unfold markedNumber? at h
  split at h
  · obtain ⟨⟨ds, rest⟩, -, h⟩ := Option.bind_eq_some_iff.1 h
    obtain ⟨n, -, rfl⟩ := Option.map_eq_some_iff.1 h
    trivial
  · cases h

theorem specialNumber?_isToml {s : List Char} {e : Scalar × List Char}
    (h : specialNumber? s = some e) : e.1.IsToml := by
  unfold specialNumber? at h
  dsimp only at h
  split at h
  · obtain rfl := Option.some.inj h
    trivial
  · obtain rfl := Option.some.inj h
    trivial
  · cases h

theorem decimalNumber?_ends {s : List Char} {taken : Except ReadProblem (Scalar × List Char)}
    (h : decimalNumber? s = some taken) : Ends (fun e => e.1.IsToml) Trouble taken := by
  unfold decimalNumber? at h
  obtain ⟨⟨whole, rest⟩, -, rfl⟩ := Option.map_eq_some_iff.1 h
  dsimp only
  split
  · exact ends_ok trivial
  · split
    · exact ends_ok trivial
    · split
      · rename_i many
        exact ends_error (.digits many)
      · exact ends_ok trivial

theorem plainScalar_ends (s : List Char) : Ends (fun e => e.1.IsToml) Trouble (plainScalar s) := by
  unfold plainScalar
  split
  · exact ends_ok trivial
  · exact ends_ok trivial
  · split
    · rename_i moment rest found
      exact ends_ok (moment?_isToml found)
    · exact ends_malformed
    · split
      · rename_i taken found
        -- A number with a mark comes first, then a decimal one, then the words.
        rcases (Option.orElse_eq_some _ _ _).1 found with marked | ⟨-, unmarked⟩
        · obtain ⟨e, number, rfl⟩ := Option.map_eq_some_iff.1 marked
          exact ends_ok (markedNumber?_isToml number)
        · rcases (Option.orElse_eq_some _ _ _).1 unmarked with decimal | ⟨-, last⟩
          · exact decimalNumber?_ends decimal
          · obtain ⟨e, word, rfl⟩ := Option.map_eq_some_iff.1 last
            exact ends_ok (specialNumber?_isToml word)
      · exact ends_malformed

/-! ## Values -/

section Values

variable {P : Scalar → Prop} {t u : Table} {α : Type}

theorem addEntry_over {k : Text} {v : Value} (hv : v.Over P) (ht : t.Over P)
    (h : addEntry k v t = some u) : u.Over P := by
  unfold addEntry at h
  split at h
  · cases h
  · obtain rfl := Option.some.inj h
    exact ht.put k hv

theorem addTable_over {k : Text} (ht : t.Over P) (h : addTable k t = some u) : u.Over P := by
  have single : Value.Over P (.table none []) := Table.Over.nil.value none
  unfold addTable at h
  split at h
  · obtain rfl := Option.some.inj h
    exact ht.put k (.list (by simpa using single))
  · rename_i m items there
    obtain rfl := Option.some.inj h
    refine ht.put k (.list ?_)
    rw [List.forall_mem_append]
    exact ⟨(ht.get? there).of_list, by simpa using single⟩
  · cases h

/-- What changes a table deep inside keeps the whole table to its scalars when it keeps the one
inside to them. -/
theorem update_over {throughLists : Bool} {f : Table → Option Table}
    (hf : ∀ t u, t.Over P → f t = some u → u.Over P) {path : KeyPath} (ht : t.Over P)
    (h : update throughLists f path t = some u) : u.Over P := by
  induction path generalizing t u with
  | nil => exact hf t u ht h
  | cons k ks ih =>
    unfold update at h
    split at h
    · obtain ⟨inner, changed, rfl⟩ := Option.map_eq_some_iff.1 h
      exact ht.put k ((ih .nil changed).value none)
    · rename_i there
      obtain ⟨inner, changed, rfl⟩ := Option.map_eq_some_iff.1 h
      exact ht.put k ((ih (ht.get? there).of_table changed).value none)
    · rename_i m items there
      split at h
      · rename_i last
        have listed := (ht.get? there).of_list
        obtain ⟨inner, changed, rfl⟩ := Option.map_eq_some_iff.1 h
        have inside := (listed _ (List.mem_of_getLast? last)).of_table
        refine ht.put k (.list ?_)
        rw [List.forall_mem_append]
        exact ⟨fun v hv => listed v (List.dropLast_subset _ hv),
          by simpa using (ih inside changed).value none⟩
      · cases h
    · cases h

theorem orMalformed_ends {good : α → Prop} {x : Option α} (h : ∀ a, x = some a → good a) :
    Ends good Trouble (orMalformed x) := by
  cases x with
  | none => exact ends_malformed
  | some a => exact ends_ok (h a rfl)

theorem addInline_ends {frozen : List KeyPath} {path : KeyPath} {v : Value} (hv : v.Over P)
    (ht : t.Over P) : Ends (Table.Over P) Trouble (addInline frozen path v t) := by
  unfold addInline
  split
  · exact ends_malformed
  · exact orMalformed_ends fun u => update_over (fun _ _ => addEntry_over hv) ht

theorem checkDepth_only [Stack] (weight : Nat) : Only Trouble (checkDepth weight) := by
  unfold checkDepth
  split
  · exact only_error .depth
  · exact only_ok ()

/-- What is read at a value, at the items of a list and at the entries of an inline table, whatever
the bound of the calls. -/
theorem values_end [Stack] (fuel : Nat) :
    (∀ weight s, Ends (fun e => e.1.Over Scalar.IsToml) Trouble (value weight fuel s)) ∧
    (∀ weight s,
      Ends (fun e => ∀ v ∈ e.1, v.Over Scalar.IsToml) Trouble (items weight fuel s)) ∧
    ∀ weight frozen (t : Table) s, t.Over Scalar.IsToml →
      Ends (fun e => e.1.Over Scalar.IsToml) Trouble (inlineEntries weight fuel frozen t s) := by
  induction fuel with
  | zero =>
    refine ⟨fun weight s => ?_, fun weight s => ?_, fun weight frozen t s _ => ?_⟩
    · exact ends_malformed
    · exact ends_malformed
    · exact ends_malformed
  | succ fuel ih =>
    obtain ⟨value_ends, items_end, entries_end⟩ := ih
    refine ⟨fun weight s => ?_, fun weight s => ?_, fun weight frozen t s ht => ?_⟩
    · unfold value
      split
      · rename_i taken found
        exact (string?_only found).ends.map fun _ _ => .scalar trivial
      · split
        · refine (checkDepth_only _).ends.bind fun _ _ => ?_
          refine (skipLines_only _ _).ends.bind fun rest _ => ?_
          split
          · exact ends_ok (.list (by simp))
          · exact (items_end _ _).bind fun e he => ends_ok (.list he)
        · refine (checkDepth_only _).ends.bind fun _ _ => ?_
          split
          · exact ends_ok (Table.Over.nil.value none)
          · exact (entries_end _ _ _ _ .nil).bind fun e he => ends_ok (he.value none)
        · exact (plainScalar_ends s).map fun _ h => .scalar h
    · unfold items
      refine (value_ends weight s).bind fun e he => (skipLines_only _ _).ends.bind fun rest _ => ?_
      have one : ∀ v ∈ [e.1], v.Over Scalar.IsToml := by simpa using he
      split
      · exact ends_ok one
      · refine (skipLines_only _ _).ends.bind fun rest _ => ?_
        split
        · exact ends_ok one
        · exact (items_end _ _).bind fun more hmore => ends_ok (List.forall_mem_cons.2 ⟨he, hmore⟩)
      · exact ends_malformed
    · unfold inlineEntries
      refine (key_only s).ends.bind ?_
      rintro ⟨path, rest⟩ -
      dsimp only
      split
      · refine (value_ends _ _).bind fun e hv => (addInline_ends hv ht).bind fun u hu => ?_
        split
        · exact ends_ok hu
        · exact entries_end _ _ _ _ hu
        · exact ends_malformed
      · exact ends_malformed

end Values

/-! ## Documents -/

namespace Draft

/-- A draft that holds nothing but values of TOML. -/
def Sound (d : Draft) : Prop := d.data.Over Scalar.IsToml

variable {d : Draft}

theorem openTable_ends (h : d.Sound) (path : KeyPath) : Ends Sound Trouble (d.openTable path) := by
  unfold openTable
  split
  · exact ends_malformed
  · refine Ends.bind (orMalformed_ends fun u => update_over (fun t u ht same => ?_) h)
      fun data hdata => ends_ok hdata
    exact Option.some.inj same ▸ ht

theorem openItem_ends (h : d.Sound) (path : KeyPath) : Ends Sound Trouble (d.openItem path) := by
  unfold openItem
  split
  · exact ends_malformed
  · exact (orMalformed_ends fun u => update_over (fun _ _ => addTable_over) h).bind
      fun data hdata => ends_ok hdata

theorem add_ends (h : d.Sound) (path : KeyPath) {v : Value} (hv : v.Over Scalar.IsToml) :
    Ends Sound Trouble (d.add path v) := by
  unfold add
  dsimp only
  split
  · exact ends_malformed
  · split
    · exact ends_malformed
    · exact (orMalformed_ends fun u => update_over (fun _ _ => addEntry_over hv) h).bind
        fun data hdata => ends_ok hdata

theorem statement_ends [Stack] (h : d.Sound) (s : List Char) :
    Ends (fun e => e.1.Sound) Trouble (d.statement s) := by
  unfold statement
  split
  · exact ends_ok h
  · refine (key_only _).ends.bind fun path _ =>
      (openItem_ends (d := d.settle) h _).bind fun d' h' => ?_
    split
    · exact ends_ok h'
    · exact ends_malformed
  · refine (key_only _).ends.bind fun path _ =>
      (openTable_ends (d := d.settle) h _).bind fun d' h' => ?_
    split
    · exact ends_ok h'
    · exact ends_malformed
  · refine (key_only _).ends.bind ?_
    rintro ⟨path, rest⟩ -
    dsimp only
    split
    · exact ((values_end _).1 _ _).bind fun e hv => (add_ends h _ hv).bind fun d' h' => ends_ok h'
    · exact ends_malformed

theorem statements_end [Stack] (fuel : Nat) (h : d.Sound) (s : List Char) :
    Ends Sound Trouble (statements fuel d s) := by
  induction fuel generalizing d s with
  | zero => exact ends_malformed
  | succ fuel ih =>
    unfold statements
    split
    · exact ends_ok h
    · exact ih h _
    · refine (statement_ends h _).bind fun e he => (skipComment_only _).ends.bind fun rest _ => ?_
      split
      · exact ends_ok he
      · exact ih he _
      · exact ends_malformed

end Draft

/-- Reading a text in TOML finds a table of values of TOML, or fails in one of the listed ways. -/
theorem read_ends [Stack] (s : String) : Ends (Table.Over Scalar.IsToml) Trouble (read s) :=
  have fresh : ({} : Draft).Sound := .nil
  (Draft.statements_end _ fresh _).bind fun _ h => ends_ok h

end Toml

end Bindery
