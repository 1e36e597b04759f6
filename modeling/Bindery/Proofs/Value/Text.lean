import Bindery.Proofs.Outcome
import Bindery.Value.Text

/-!
# Values that have no text

Nearly every value has a text. Only a whole number with too many digits has none, and a value that
holds one (`Value.shown_only`).
-/

namespace Bindery

open Outcome

/-- A whole number has too many digits. -/
def TooLong (f : Fault) : Prop := f = .unconvertible .integerSize

theorem Scalar.literal_only (s : Scalar) : Only TooLong s.literal := by
  cases s with
  | int n =>
    intro f h
    rw [literal, integerText] at h
    split at h
    · exact (Except.error.inj h).symm
    · cases h
  | _ => exact only_pure _

namespace Value

mutual

theorem literalIn_only (around : List Nat) (v : Value) : Only TooLong (literalIn around v) := by
  cases v with
  | scalar s => exact s.literal_only
  | marked mark s => exact s.literal_only
  | list mark items =>
    rw [literalIn]
    split
    · exact only_pure _
    · exact only_bind (literalsIn_only _ items) fun _ => only_pure _
  | table mark entries =>
    rw [literalIn]
    split
    · exact only_pure _
    · exact only_bind (entryLiteralsIn_only _ entries) fun _ => only_pure _
  | set mark members =>
    rw [literalIn]
    split
    · exact only_pure _
    · exact only_bind (literalsIn_only _ members) fun _ => only_pure _
  | pair mark a b =>
    rw [literalIn]
    split
    · exact only_pure _
    · refine only_bind (literalIn_only _ a) fun _ => ?_
      exact only_bind (literalIn_only _ b) fun _ => only_pure _

theorem literalsIn_only (around : List Nat) (vs : List Value) :
    Only TooLong (literalsIn around vs) := by
  cases vs with
  | nil => exact only_pure _
  | cons v vs =>
    rw [literalsIn]
    refine only_bind (literalIn_only _ v) fun _ => ?_
    exact only_bind (literalsIn_only _ vs) fun _ => only_pure _

theorem entryLiteralsIn_only (around : List Nat) (entries : List (Value × Value)) :
    Only TooLong (entryLiteralsIn around entries) := by
  cases entries with
  | nil => exact only_pure _
  | cons e entries =>
    obtain ⟨k, v⟩ := e
    rw [entryLiteralsIn]
    refine only_bind (literalIn_only _ k) fun _ => ?_
    refine only_bind (literalIn_only _ v) fun _ => ?_
    exact only_bind (entryLiteralsIn_only _ entries) fun _ => only_pure _

end

/-- A value that has no text is, or holds, a whole number with too many digits. -/
theorem shown_only (v : Value) : Only TooLong v.shown := by
  have scalar (s : Scalar) : Only TooLong s.shown := by
    cases s with
    | int n => exact Scalar.literal_only (.int n)
    | _ => exact only_pure _
  cases v with
  | scalar s => exact scalar s
  | marked mark s => exact scalar s
  | list mark items => exact literalIn_only [] _
  | table mark entries => exact literalIn_only [] _
  | set mark members => exact literalIn_only [] _
  | pair mark a b => exact literalIn_only [] _

end Value

/-- A scalar that is no whole number with too many digits. -/
def Scalar.IsShort : Scalar → Prop
  | .int n => n.natAbs < leastTextless
  | _ => True

theorem integerText_ok {n : Int} (short : (Scalar.int n).IsShort) :
    integerText n = .ok (Text.ofInt n) := if_neg (Nat.not_le.2 short)

theorem Value.shown_of_textless {n : Nat} (h : leastTextless ≤ n) :
    (Value.scalar (.int n)).shown = .error (.unconvertible .integerSize) := by
  show integerText n = _
  rw [integerText, Int.natAbs_natCast, if_pos h]

end Bindery
