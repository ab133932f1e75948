import Mathlib.Tactic.Common
import Mathlib.Logic.Function.Iterate

/-!
# Searching along an orbit

A do-while loop that advances a counter until it meets an unused value is a search along the orbit
of the successor function.  The loop ends as soon as some unused value lies on the orbit within the
fuel, and whatever one step establishes holds of the value it ends with.
-/

namespace NfsFuse.Lib

variable {α : Type}

/-- Advance at least once and stop at the first value that is not in use. -/
def searchOrbit (next : α → α) (used : α → Bool) : ℕ → α → Option α
  | 0, _ => none
  | fuel + 1, current =>
      if used (next current) then searchOrbit next used fuel (next current)
      else some (next current)

variable {next : α → α} {used : α → Bool}

theorem searchOrbit_succ (fuel : ℕ) (current : α) :
    searchOrbit next used (fuel + 1) current =
      if used (next current) then searchOrbit next used fuel (next current)
      else some (next current) := rfl

/-- The value found is not in use. -/
theorem searchOrbit_unused {fuel : ℕ} {current found : α}
    (h : searchOrbit next used fuel current = some found) : used found = false := by
  induction fuel generalizing current with
  | zero => cases h
  | succ fuel ih =>
    rw [searchOrbit_succ] at h
    split_ifs at h with hused
    · exact ih h
    · cases h
      simpa using hused

/-- The value found is a successor of a value with any property that the successor function keeps
and the start has. -/
theorem searchOrbit_exists_pred (property : α → Prop) {fuel : ℕ} {current found : α}
    (h : searchOrbit next used fuel current = some found) (hstart : property current)
    (hnext : ∀ value, property value → property (next value)) :
    ∃ value, property value ∧ found = next value := by
  induction fuel generalizing current with
  | zero => cases h
  | succ fuel ih =>
    rw [searchOrbit_succ] at h
    split_ifs at h with hused
    · exact ih h (hnext current hstart)
    · cases h
      exact ⟨current, hstart, rfl⟩

/-- The search ends at once when the first value is not in use. -/
theorem searchOrbit_of_unused {fuel : ℕ} {current : α} (hfuel : 0 < fuel)
    (h : used (next current) = false) :
    searchOrbit next used fuel current = some (next current) := by
  obtain ⟨fuel, rfl⟩ := Nat.exists_eq_succ_of_ne_zero (Nat.pos_iff_ne_zero.mp hfuel)
  rw [searchOrbit_succ, h]
  rfl

/-- The search ends when the orbit meets an unused value before the fuel runs out. -/
theorem searchOrbit_isSome {fuel steps : ℕ} {current : α} (hsteps : steps < fuel)
    (hfree : used (next^[steps + 1] current) = false) :
    (searchOrbit next used fuel current).isSome := by
  induction fuel generalizing steps current with
  | zero => omega
  | succ fuel ih =>
    rw [searchOrbit_succ]
    split_ifs with hused
    · cases steps with
      | zero =>
        rw [Function.iterate_one] at hfree
        rw [hfree] at hused
        cases hused
      | succ steps =>
        rw [Function.iterate_succ_apply] at hfree
        exact ih (by omega) hfree
    · rfl

end NfsFuse.Lib
