import Bindery.Proofs.Config.Visible
import Bindery.Proofs.Toml.Reading
import Bindery.Proofs.Value.Text

/-!
# What TOML has a form for

A table of scalars that TOML has, of lists and pairs, and of tables under texts is written, provided
that its whole numbers have few enough digits and that what stands around its parts is not too heavy
(`Toml.write_succeeds`). A table under a header weighs one; a list, and everything in a list, weighs
as much as between brackets and braces, for it is tried there first (`Toml.entriesWeight`).
-/

namespace Bindery

namespace Toml

open Value

/-- A computation that writes something. -/
def Succeeds {α : Type} (x : Written α) : Prop := ∃ a, Writes x a

section Succeeds

variable {α β : Type}

theorem succeeds_pure (a : α) : Succeeds (pure a) := ⟨a, writes_pure.2 rfl⟩

theorem Succeeds.bind {x : Written α} {f : α → Written β} (hx : Succeeds x)
    (hf : ∀ a, Writes x a → Succeeds (f a)) : Succeeds (x >>= f) := by
  obtain ⟨a, ha⟩ := hx
  obtain ⟨b, hb⟩ := hf a ha
  exact ⟨b, writes_bind.2 ⟨a, ha, hb⟩⟩

theorem succeeds_lift {x : Except Fault α} {a : α} (h : x = .ok a) :
    Succeeds (liftM x : Written α) :=
  ⟨a, writes_lift.2 h⟩

end Succeeds

/-- A scalar that is written in TOML. -/
def HasForm (c : Scalar) : Prop := c.IsToml ∧ c.IsShort

theorem scalarText_succeeds {c : Scalar} (h : HasForm c) : Succeeds (scalarText c) := by
  cases c with
  | null => exact h.1.elim
  | bytes bs => exact h.1.elim
  | int n =>
    show Succeeds (liftM (integerText n) : Written Text)
    exact succeeds_lift (integerText_ok h.2)
  | bool b => exact succeeds_pure _
  | text s => exact succeeds_pure _
  | _ => exact succeeds_lift rfl

theorem keyText_succeeds (key : Text) : Succeeds (keyText (.text key)) := succeeds_pure _

theorem checkWeight_succeeds [Stack] {weight : Nat} (light : weight ≤ heaviest) :
    Succeeds (checkWeight weight) := by
  unfold checkWeight
  rw [if_neg (Nat.not_lt.2 light)]
  exact succeeds_pure ()

/-! ## After an equals sign or in a list -/

/-- What stands around the parts of a value that is not too heavy is not either. -/
theorem light_of_depth [Stack] {weight d e : Nat} (light : weight + inlineWeight * d ≤ heaviest)
    (deeper : e < d) : weight + inlineWeight + inlineWeight * e ≤ heaviest := by
  unfold inlineWeight at *
  omega

mutual

theorem valueText_succeeds [Stack] {v : Value} (h : v.Over HasForm) {weight : Nat}
    (light : weight + inlineWeight * v.depth ≤ heaviest) (level : Nat) :
    Succeeds (valueText weight level v) := by
  have here : Succeeds (checkWeight weight) := checkWeight_succeeds (by omega)
  cases v with
  | scalar c =>
    cases h with
    | scalar h => exact here.bind fun _ _ => scalarText_succeeds h
  | marked n c =>
    cases h with
    | marked h => exact here.bind fun _ _ => scalarText_succeeds h
  | list m items =>
    rw [depth] at light
    refine here.bind fun _ _ => ?_
    exact (itemTexts_succeed h.of_list light _).bind fun _ _ => succeeds_pure _
  | table m t =>
    rw [depth] at light
    refine here.bind fun _ _ => ?_
    exact (entryTexts_succeed h.of_table light).bind fun _ _ => succeeds_pure _
  | set m members => cases h
  | pair m a b =>
    rw [depth] at light
    refine here.bind fun _ _ => ?_
    cases h with
    | pair first second =>
      refine (valueText_succeeds first (light_of_depth light (by omega)) _).bind fun _ _ => ?_
      refine (valueText_succeeds second (light_of_depth light (by omega)) _).bind fun _ _ => ?_
      exact succeeds_pure _

theorem itemTexts_succeed [Stack] {items : List Value} (h : ∀ v ∈ items, v.Over HasForm)
    {weight : Nat} (light : weight + inlineWeight * allDepth items ≤ heaviest) (level : Nat) :
    Succeeds (itemTexts (weight + inlineWeight) level items) := by
  cases items with
  | nil => exact succeeds_pure []
  | cons v rest =>
    obtain ⟨hv, hrest⟩ := List.forall_mem_cons.1 h
    rw [allDepth] at light
    rw [itemTexts]
    refine (valueText_succeeds hv (light_of_depth light (by omega)) level).bind fun _ _ => ?_
    refine (itemTexts_succeed hrest ?_ level).bind fun _ _ => succeeds_pure _
    unfold inlineWeight at *
    omega

theorem entryTexts_succeed [Stack] {t : Table} (h : t.Over HasForm) {weight : Nat}
    (light : weight + inlineWeight * entryDepth t ≤ heaviest) :
    Succeeds (entryTexts (weight + inlineWeight) t) := by
  cases t with
  | nil => exact succeeds_pure []
  | cons e rest =>
    obtain ⟨k, v⟩ := e
    obtain ⟨⟨key, rfl⟩, hv, hrest⟩ := h.of_cons
    rw [entryDepth] at light
    rw [entryTexts]
    refine (keyText_succeeds key).bind fun _ _ => ?_
    refine (valueText_succeeds hv (light_of_depth light (by grind)) 0).bind fun _ _ => ?_
    refine (entryTexts_succeed hrest ?_).bind fun _ _ => succeeds_pure _
    unfold inlineWeight at *
    omega

end

/-! ## Under headers -/

theorem allFit_succeeds [Stack] {items : List Value} (h : ∀ v ∈ items, v.Over HasForm)
    {weight : Nat} (light : weight + inlineWeight * allDepth items ≤ heaviest) :
    Succeeds (allFit (weight + inlineWeight) items) := by
  induction items with
  | nil => exact succeeds_pure _
  | cons v rest ih =>
    obtain ⟨hv, hrest⟩ := List.forall_mem_cons.1 h
    rw [allDepth] at light
    rw [allFit]
    refine (valueText_succeeds hv (light_of_depth light (by omega)) 0).bind fun _ _ => ?_
    split
    · refine ih hrest ?_
      unfold inlineWeight at *
      omega
    · exact succeeds_pure _

theorem areHeaded_succeeds [Stack] {items : List Value} (h : ∀ v ∈ items, v.Over HasForm)
    {weight : Nat} (light : weight + inlineWeight * allDepth items ≤ heaviest) :
    Succeeds (areHeaded weight items) := by
  unfold areHeaded
  split
  · exact (allFit_succeeds h light).bind fun _ _ => succeeds_pure _
  · exact succeeds_pure _

mutual

/-- What stands around the parts of an entry, below a header where it is a table. -/
def entryWeight : Value → Nat
  | .table _ t => entriesWeight t + 1
  | v => inlineWeight * v.depth

/-- What stands around the parts of a table under a header, at most. -/
def entriesWeight : List (Value × Value) → Nat
  | [] => 0
  | (_, v) :: rest => max (entryWeight v) (entriesWeight rest)

end

mutual

theorem entryWeight_le (v : Value) : entryWeight v ≤ inlineWeight * v.depth + 1 := by
  cases v with
  | table m t =>
    rw [entryWeight, depth]
    exact Nat.add_le_add_right (entriesWeight_le t) 1
  | _ => exact Nat.le_succ _

theorem entriesWeight_le (t : Table) : entriesWeight t ≤ inlineWeight * entryDepth t := by
  cases t with
  | nil => exact Nat.zero_le _
  | cons e rest =>
    have here := entryWeight_le e.2
    have others := entriesWeight_le rest
    rw [entriesWeight, entryDepth]
    unfold inlineWeight at *
    omega

end

/-- The parts of a pair, as those of a list. -/
theorem over_pair {m : Mark} {a b : Value} (h : (Value.pair m a b).Over HasForm) :
    ∀ v ∈ [a, b], v.Over HasForm := by
  cases h with
  | pair first second =>
    exact List.forall_mem_cons.2 ⟨first, List.forall_mem_singleton.2 second⟩

theorem allDepth_pair (m : Mark) (a b : Value) : allDepth [a, b] = (Value.pair m a b).depth := by
  simp only [allDepth, depth]
  omega

/-- An entry that weighs as much as between braces. -/
theorem light_of_inline [Stack] {weight : Nat} {v : Value} (inline : v.table? = none)
    (light : weight + entryWeight v ≤ heaviest) : weight + inlineWeight * v.depth ≤ heaviest := by
  cases v with
  | table m t => cases inline
  | _ => exact light

theorem isHeaded_succeeds [Stack] {v : Value} (h : v.Over HasForm) {weight : Nat}
    (light : weight + entryWeight v ≤ heaviest) : Succeeds (isHeaded weight v) := by
  cases v with
  | list m items => exact areHeaded_succeeds h.of_list light
  | pair m a b =>
    refine areHeaded_succeeds (over_pair h) ?_
    rw [allDepth_pair m]
    exact light
  | _ => exact succeeds_pure _

section Tables

variable {t : Table} {weight : Nat}

theorem light_of_cons [Stack] {e : Value × Value}
    (light : weight + entriesWeight (e :: t) ≤ heaviest) :
    weight + entryWeight e.2 ≤ heaviest ∧ weight + entriesWeight t ≤ heaviest := by
  rw [entriesWeight] at light
  omega

theorem plainLines_succeed [Stack] (h : t.Over HasForm)
    (light : weight + entriesWeight t ≤ heaviest) : Succeeds (plainLines weight t) := by
  induction t with
  | nil => exact succeeds_pure _
  | cons e rest ih =>
    obtain ⟨k, v⟩ := e
    obtain ⟨⟨key, rfl⟩, hv, hrest⟩ := h.of_cons
    obtain ⟨lightHere, lightRest⟩ := light_of_cons light
    rw [plainLines]
    refine (isHeaded_succeeds hv lightHere).bind fun headed hheaded => ?_
    split
    · exact ih hrest lightRest
    · -- A table is never among the plain entries.
      have inline : v.table? = none := by
        cases v with
        | table m t => exact absurd (writes_pure.1 hheaded).symm ‹_›
        | _ => rfl
      refine (keyText_succeeds key).bind fun _ _ => ?_
      refine (valueText_succeeds hv (light_of_inline inline lightHere) 0).bind fun _ _ => ?_
      exact (ih hrest lightRest).bind fun _ _ => succeeds_pure _

theorem headed_succeeds [Stack] (h : t.Over HasForm) (light : weight + entriesWeight t ≤ heaviest) :
    Succeeds (headed weight t) := by
  induction t with
  | nil => exact succeeds_pure _
  | cons e rest ih =>
    obtain ⟨-, hv, hrest⟩ := h.of_cons
    obtain ⟨lightHere, lightRest⟩ := light_of_cons light
    refine (isHeaded_succeeds hv lightHere).bind fun _ _ => ?_
    exact (ih hrest lightRest).bind fun _ _ => succeeds_pure _

theorem opening_succeeds [Stack] (h : t.Over HasForm) (light : weight + entriesWeight t ≤ heaviest)
    (header : Text) (inList : Bool) : Succeeds (opening weight header inList t) := by
  refine (headed_succeeds h light).bind fun _ _ => ?_
  exact (plainLines_succeed h light).bind fun _ _ => succeeds_pure _

end Tables

/-- A value of a list leaves room for a header of its own. -/
theorem light_of_listed [Stack] {v : Value} {rest : List Value} {weight : Nat}
    (light : weight + inlineWeight * allDepth (v :: rest) ≤ heaviest) :
    weight + 1 + entryWeight v ≤ heaviest + 1 ∧ weight + 1 ≤ heaviest := by
  have := entryWeight_le v
  rw [allDepth] at light
  unfold inlineWeight at *
  omega

theorem light_of_listed_tail [Stack] {v : Value} {rest : List Value} {weight : Nat}
    (light : weight + inlineWeight * allDepth (v :: rest) ≤ heaviest) :
    weight + inlineWeight * allDepth rest ≤ heaviest := by
  rw [allDepth] at light
  unfold inlineWeight at *
  omega

mutual

/-- A value under a header of its own; one that is no table leaves nothing there. -/
theorem tableBlocks_succeeds [Stack] {v : Value} (h : v.Over HasForm) {weight : Nat}
    (light : weight + entryWeight v ≤ heaviest + 1) (fits : weight ≤ heaviest) (header : Text)
    (inList : Bool) : Succeeds (tableBlocks weight header inList v) := by
  cases v with
  | table m t =>
    have lightInside : weight + entriesWeight t ≤ heaviest := by
      rw [entryWeight] at light
      omega
    rw [tableBlocks]
    refine (checkWeight_succeeds fits).bind fun _ _ => ?_
    refine (opening_succeeds h.of_table lightInside header inList).bind fun _ _ => ?_
    exact (subtables_succeed h.of_table lightInside header).bind fun _ _ => succeeds_pure _
  | _ => exact (checkWeight_succeeds fits).bind fun _ _ => succeeds_pure _

theorem subtables_succeed [Stack] {t : Table} (h : t.Over HasForm) {weight : Nat}
    (light : weight + entriesWeight t ≤ heaviest) (header : Text) :
    Succeeds (subtables weight header t) := by
  cases t with
  | nil => exact succeeds_pure _
  | cons e rest =>
    obtain ⟨k, v⟩ := e
    obtain ⟨⟨key, rfl⟩, hv, hrest⟩ := h.of_cons
    obtain ⟨lightHere, lightRest⟩ := light_of_cons light
    have others := subtables_succeed hrest lightRest header
    cases v with
    | table m t =>
      rw [entryWeight] at lightHere
      rw [subtables]
      refine (keyText_succeeds key).bind fun _ _ => ?_
      refine (tableBlocks_succeeds hv ?_ (by omega) _ false).bind fun _ _ => ?_
      · rw [entryWeight]
        omega
      · exact others.bind fun _ _ => succeeds_pure _
    | list m items =>
      have light : weight + inlineWeight * allDepth items ≤ heaviest := lightHere
      rw [subtables]
      refine (areHeaded_succeeds hv.of_list light).bind fun headed _ => ?_
      split
      · refine (keyText_succeeds key).bind fun _ _ => ?_
        refine (listBlocks_succeed hv.of_list light _).bind fun _ _ => ?_
        exact others.bind fun _ _ => succeeds_pure _
      · exact others
    | pair m a b =>
      have light : weight + inlineWeight * allDepth [a, b] ≤ heaviest :=
        allDepth_pair m a b ▸ lightHere
      obtain ⟨lightFirst, fits⟩ := light_of_listed light
      obtain ⟨lightSecond, -⟩ := light_of_listed (light_of_listed_tail light)
      rw [subtables]
      refine (areHeaded_succeeds (over_pair hv) light).bind fun headed _ => ?_
      cases hv with
      | pair first second =>
        split
        · refine (keyText_succeeds key).bind fun _ _ => ?_
          refine (tableBlocks_succeeds first lightFirst fits _ true).bind fun _ _ => ?_
          refine (tableBlocks_succeeds second lightSecond fits _ true).bind fun _ _ => ?_
          exact others.bind fun _ _ => succeeds_pure _
        · exact others
    | _ => exact others

theorem listBlocks_succeed [Stack] {items : List Value} (h : ∀ v ∈ items, v.Over HasForm)
    {weight : Nat} (light : weight + inlineWeight * allDepth items ≤ heaviest) (header : Text) :
    Succeeds (listBlocks (weight + 1) header items) := by
  cases items with
  | nil => exact succeeds_pure _
  | cons v rest =>
    obtain ⟨hv, hrest⟩ := List.forall_mem_cons.1 h
    obtain ⟨lightHere, fits⟩ := light_of_listed light
    refine (tableBlocks_succeeds hv lightHere fits header true).bind fun _ _ => ?_
    exact (listBlocks_succeed hrest (light_of_listed_tail light) header).bind fun _ _ =>
      succeeds_pure _

end

/-- A table is written that holds nothing but what TOML has a form for, under texts, and is not too
deep. -/
theorem write_succeeds [Stack] {t : Table} (h : t.Over HasForm)
    (light : entriesWeight t ≤ heaviest) : Succeeds (write t) :=
  tableBlocks_succeeds (h.value none) (by rw [entryWeight]; omega) (Nat.zero_le _) "" false

end Toml

end Bindery
