import Bindery.Proofs.Keeping
import Bindery.Proofs.Value.Over
import Bindery.Proofs.Value.Text
import Bindery.Yaml.Write

/-!
# What YAML has a form for

A table is written, whatever it is made of, unless it holds a time of day without a date, a whole
number with too many digits, or too many collections around one another (`Yaml.write_succeeds`).
-/

namespace Bindery.Yaml

open Std.Do Outcome Value

set_option mvcgen.warning false

/-- A scalar that is written in YAML. -/
def HasForm (c : Scalar) : Prop := c.IsShort ∧ c.kind ≠ .time

namespace Outline

/-- A survey that ends well, whatever was met before. -/
abbrev Total {α : Type} (x : Survey α) : Prop := Keeps (fun _ => True) (fun _ => False) x

theorem scalarForm_ends {c : Scalar} (h : HasForm c) :
    Ends (fun _ => True) (fun _ => False) (scalarForm c) := by
  cases c with
  | int n =>
    simp only [scalarForm, integerText_ok h.1]
    exact ends_ok trivial
  | time t => exact absurd rfl h.2
  | _ => exact ends_ok trivial

theorem checkWeight_total [Stack] {weight : Nat} (light : weight ≤ heaviest) :
    Total (checkWeight weight) := by
  mvcgen [checkWeight]
  omega

/-- What stands around the parts of a value that is not too heavy is not either. -/
theorem light_of_depth [Stack] {weight d e : Nat} (light : weight + collectionWeight * d ≤ heaviest)
    (deeper : e < d) : weight + collectionWeight + collectionWeight * e ≤ heaviest := by
  unfold collectionWeight at *
  omega

theorem light_of_le [Stack] {weight d e : Nat} (light : weight + collectionWeight * d ≤ heaviest)
    (le : e ≤ d) : weight + collectionWeight * e ≤ heaviest := by
  unfold collectionWeight at *
  omega

mutual

theorem survey_total [Stack] {v : Value} (h : ∀ c ∈ v.scalars, HasForm c) {weight : Nat}
    (light : weight + collectionWeight * v.depth ≤ heaviest) : Total (survey weight v) := by
  have here : Total (checkWeight weight) := checkWeight_total (by omega)
  cases v with
  | scalar c =>
    have form := ends_spec (scalarForm_ends (h c List.mem_cons_self))
    mvcgen [survey, here, form]
  | marked n c =>
    have form := ends_spec (scalarForm_ends (h c List.mem_cons_self))
    mvcgen [survey, here, meet, form]
  | list m items =>
    have parts := surveyItems_total h light
    mvcgen [survey, here, meet, parts]
  | table m t =>
    have parts := surveyEntries_total h light
    mvcgen [survey, here, meet, parts]
  | set m members =>
    have parts := surveyMembers_total h light
    mvcgen [survey, here, meet, parts]
  | pair m a b =>
    rw [scalars, List.forall_mem_append] at h
    rw [depth] at light
    have first := survey_total h.1 (light_of_depth light (by omega))
    have second := survey_total h.2 (light_of_depth light (by omega))
    mvcgen [survey, here, meet, first, second]

theorem surveyItems_total [Stack] {items : List Value} (h : ∀ c ∈ allScalars items, HasForm c)
    {weight : Nat} (light : weight + collectionWeight * allDepth items ≤ heaviest) :
    Total (surveyItems (weight + collectionWeight) items) := by
  cases items with
  | nil => mvcgen [surveyItems]
  | cons v rest =>
    rw [allScalars, List.forall_mem_append] at h
    rw [allDepth] at light
    have part := survey_total h.1 (light_of_depth light (by omega))
    have parts := surveyItems_total h.2 (light_of_le light (by omega))
    mvcgen [surveyItems, part, parts]

theorem surveyEntries_total [Stack] {t : Table} (h : ∀ c ∈ entryScalars t, HasForm c)
    {weight : Nat} (light : weight + collectionWeight * entryDepth t ≤ heaviest) :
    Total (surveyEntries (weight + collectionWeight) t) := by
  cases t with
  | nil => mvcgen [surveyEntries]
  | cons e rest =>
    obtain ⟨k, v⟩ := e
    rw [entryScalars, List.forall_mem_append, List.forall_mem_append] at h
    rw [entryDepth] at light
    have key := survey_total h.1.1 (light_of_depth light (by omega))
    have value := survey_total h.1.2 (light_of_depth light (by omega))
    have parts := surveyEntries_total h.2 (light_of_le light (by omega))
    mvcgen [surveyEntries, key, value, parts]

theorem surveyMembers_total [Stack] {members : List Value} (h : ∀ c ∈ allScalars members, HasForm c)
    {weight : Nat} (light : weight + collectionWeight * allDepth members ≤ heaviest) :
    Total (surveyMembers (weight + collectionWeight) members) := by
  cases members with
  | nil => mvcgen [surveyMembers]
  | cons v rest =>
    rw [allScalars, List.forall_mem_append] at h
    rw [allDepth] at light
    have part := survey_total h.1 (light_of_depth light (by omega))
    have parts := surveyMembers_total h.2 (light_of_le light (by omega))
    mvcgen [surveyMembers, part, parts]

end

end Outline

/-- A table is written if YAML has a form for all its scalars and it is not too deep. -/
theorem write_succeeds [Stack] {t : Table} (h : ∀ c ∈ entryScalars t, HasForm c)
    (light : Outline.collectionWeight * entryDepth t ≤ Outline.heaviest) :
    ∃ s, write t = .ok s := by
  have total : Outline.Total (Outline.survey 0 (.table none t)) :=
    Outline.survey_total (v := .table none t) h (by rw [depth]; omega)
  cases surveyed : Outline.survey 0 (.table none t) [] with
  | error f => exact ((keeps_iff.1 total [] trivial).fails f surveyed).elim
  | ok found =>
    have outlined : Outline.ofValue (.table none t) = .ok found.1 :=
      map_ok_iff.2 ⟨found, surveyed, rfl⟩
    exact ⟨_, bind_ok_iff.2 ⟨_, bind_ok_iff.2 ⟨_, outlined, rfl⟩, rfl⟩⟩

end Bindery.Yaml
