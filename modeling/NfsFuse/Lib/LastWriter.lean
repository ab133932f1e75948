import Mathlib.Data.List.Basic
import Mathlib.Logic.Function.Basic

/-!
# The last writer wins

A log of keyed values, oldest first.  What a key holds after a log is the last value written to it,
or else what it held before.
-/

namespace NfsFuse.Lib

variable {κ ν ω : Type} [DecidableEq κ]

/-- The last value that a log has for a key. -/
def latest (log : List (κ × ν)) (key : κ) : Option ν := log.reverse.lookup key

@[simp]
theorem latest_nil (key : κ) : latest ([] : List (κ × ν)) key = none := rfl

theorem latest_singleton (key : κ) (value : ν) (other : κ) :
    latest [(key, value)] other = if other = key then some value else none := by
  rw [latest, List.reverse_singleton, List.lookup_cons]
  by_cases h : other = key
  · rw [if_pos h, beq_iff_eq.mpr h]
  · rw [if_neg h, beq_eq_false_iff_ne.mpr h, List.lookup_nil]

theorem latest_append (log log' : List (κ × ν)) (key : κ) :
    latest (log ++ log') key = (latest log' key).or (latest log key) := by
  rw [latest, List.reverse_append, List.lookup_append]
  rfl

theorem mem_of_latest_eq_some {log : List (κ × ν)} {key : κ} {value : ν}
    (h : latest log key = some value) : (key, value) ∈ log := by
  obtain ⟨front, back, hlog, -⟩ := List.lookup_eq_some_iff.mp h
  rw [← List.mem_reverse, hlog]
  exact List.mem_append_right _ List.mem_cons_self

theorem latest_eq_none_iff {log : List (κ × ν)} {key : κ} :
    latest log key = none ↔ ∀ entry ∈ log, entry.1 ≠ key := by
  simp only [latest, List.lookup_eq_none_iff, List.mem_reverse, bne_iff_ne, ne_comm]

/-- A table after the writes of a log, each stored in converted form. -/
def overlay (convert : ν → ω) (log : List (κ × ν)) (table : κ → Option ω) (key : κ) : Option ω :=
  ((latest log key).map convert).or (table key)

variable (convert : ν → ω)

@[simp]
theorem overlay_nil (table : κ → Option ω) : overlay convert [] table = table := rfl

theorem overlay_singleton (key : κ) (value : ν) (table : κ → Option ω) :
    overlay convert [(key, value)] table = Function.update table key (some (convert value)) := by
  funext other
  rw [overlay, latest_singleton, Function.update_apply]
  split_ifs
  · rfl
  · rfl

theorem overlay_append (log log' : List (κ × ν)) (table : κ → Option ω) :
    overlay convert (log ++ log') table = overlay convert log' (overlay convert log table) := by
  funext key
  simp only [overlay, latest_append, Option.map_or, Option.or_assoc]

/-- What holds of the table and of all that is written holds of the result. -/
theorem overlay_induction {convert : ν → ω} {log : List (κ × ν)} {table : κ → Option ω}
    {property : κ → ω → Prop} (htable : ∀ key value, table key = some value → property key value)
    (hlog : ∀ entry ∈ log, property entry.1 (convert entry.2)) {key : κ} {value : ω}
    (h : overlay convert log table key = some value) : property key value := by
  rw [overlay, Option.or_eq_some_iff] at h
  rcases h with h | ⟨-, h⟩
  · obtain ⟨written, hlatest, rfl⟩ := Option.map_eq_some_iff.mp h
    exact hlog _ (mem_of_latest_eq_some hlatest)
  · exact htable key value h

end NfsFuse.Lib
