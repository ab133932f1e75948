import Mathlib.Tactic.Common
import Mathlib.Algebra.Order.Group.Nat

/-!
# Operations that are tried again

An operation is a relation between the states before and after it and the result it gives.  Over a
channel that loses messages it is tried until a result arrives, so that it may be executed several
times, with all results but the last one lost.  For an idempotent operation that is the same as one
execution.
-/

namespace NfsFuse.Lib

variable {S ρ : Type} {execute : S → ρ → S → Prop}

/-- The operation is executed a number of times, and the results are lost. -/
def Repeats (execute : S → ρ → S → Prop) : ℕ → S → S → Prop
  | 0, before, after => after = before
  | count + 1, before, after =>
    ∃ result middle, execute before result middle ∧ Repeats execute count middle after

/-- The operation is executed at most once, and its result is lost. -/
def AtMostOnce (execute : S → ρ → S → Prop) (before after : S) : Prop :=
  after = before ∨ ∃ result, execute before result after

/-- Executing the operation once more changes nothing but the result. -/
def Idempotent (execute : S → ρ → S → Prop) : Prop :=
  ∀ before first middle second after, execute before first middle →
    execute middle second after → execute before second after

/-- A lost attempt comes before the others. -/
theorem AtMostOnce.repeats {before middle after : S} {count : ℕ}
    (honce : AtMostOnce execute before middle) (hrepeats : Repeats execute count middle after) :
    ∃ total ≤ count + 1, Repeats execute total before after := by
  rcases honce with rfl | ⟨result, hexecute⟩
  · exact ⟨count, Nat.le_succ count, hrepeats⟩
  · exact ⟨count + 1, le_rfl, result, middle, hexecute, hrepeats⟩

theorem AtMostOnce.repeats_le_one {before after : S} (honce : AtMostOnce execute before after) :
    ∃ total ≤ 1, Repeats execute total before after :=
  honce.repeats rfl

namespace Idempotent

variable (h : Idempotent execute)

include h

/-- The last of several executions is as good as all of them. -/
theorem execute_repeats {count : ℕ} {before middle after : S} {result : ρ}
    (hrepeats : Repeats execute count before middle) (hlast : execute middle result after) :
    execute before result after := by
  induction count generalizing before with
  | zero =>
    obtain rfl := hrepeats
    exact hlast
  | succ count ih =>
    obtain ⟨first, next, hfirst, hrest⟩ := hrepeats
    exact h before first next result after hfirst (ih hrest)

/-- Several lost executions are as good as one or none. -/
theorem atMostOnce_repeats {count : ℕ} {before after : S}
    (hrepeats : Repeats execute count before after) : AtMostOnce execute before after := by
  induction count generalizing before with
  | zero => exact .inl hrepeats
  | succ count ih =>
    obtain ⟨first, next, hfirst, hrest⟩ := hrepeats
    rcases ih hrest with rfl | ⟨result, hlast⟩
    · exact .inr ⟨first, hfirst⟩
    · exact .inr ⟨result, h before first next result after hfirst hlast⟩

end Idempotent

end NfsFuse.Lib
