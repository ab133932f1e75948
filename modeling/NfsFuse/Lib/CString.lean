import NfsFuse.Lib.Patch

/-!
# Strings in memory

A string is stored in front of a terminator that does not occur in it.  Copying and appending need
room for the terminator; outside of the memory they are undefined, which is `none` here.
-/

namespace NfsFuse.Lib

variable {α : Type} {stop : α} {memory text more : List α}

/-- A memory begins with a string and its terminator. -/
structure Holds (stop : α) (memory text : List α) : Prop where
  fresh : stop ∉ text
  eq_append : ∃ rest, memory = text ++ stop :: rest

theorem Holds.length_lt (h : Holds stop memory text) : text.length < memory.length := by
  obtain ⟨rest, rfl⟩ := h.eq_append
  rw [List.length_append, List.length_cons]
  omega

/-- The string that a memory begins with, which is read up to the terminator. -/
def readString [DecidableEq α] (stop : α) (memory : List α) : Option (List α) :=
  if memory.contains stop then some (memory.takeWhile (· != stop)) else none

theorem Holds.readString_eq [DecidableEq α] (h : Holds stop memory text) :
    readString stop memory = some text := by
  obtain ⟨rest, rfl⟩ := h.eq_append
  have hmem : (text ++ stop :: rest).contains stop = true := by simp
  have htext : ∀ item ∈ text, (item != stop) = true := fun item hitem ↦
    bne_iff_ne.mpr fun heq ↦ h.fresh (heq ▸ hitem)
  rw [readString, if_pos hmem, List.takeWhile_append_of_pos htext,
    List.takeWhile_cons_of_neg (by simp), List.append_nil]

/-- A store inside the memory. -/
def store (stop : α) (memory : List α) (start : ℕ) (piece : List α) : Option (List α) :=
  if start + piece.length ≤ memory.length then some (patch stop memory start piece) else none

/-- Copy a string to the start of a memory. -/
def copyString (stop : α) (memory text : List α) : Option (List α) :=
  store stop memory 0 (text ++ [stop])

/-- Append a string to the one that a memory begins with. -/
def appendString [DecidableEq α] (stop : α) (memory text : List α) : Option (List α) :=
  (readString stop memory).bind fun held ↦ store stop memory held.length (text ++ [stop])

theorem copyString_eq_none_iff :
    copyString stop memory text = none ↔ memory.length < text.length + 1 := by
  rw [copyString, store, List.length_append, List.length_singleton, Nat.zero_add]
  by_cases h : text.length + 1 ≤ memory.length
  · rw [if_pos h]
    exact iff_of_false (Option.some_ne_none _) (Nat.not_lt.mpr h)
  · rw [if_neg h]
    exact iff_of_true rfl (Nat.not_le.mp h)

/-- A copy that fits. -/
theorem holds_copyString (hfits : text.length + 1 ≤ memory.length) (hfresh : stop ∉ text) :
    ∃ memory', copyString stop memory text = some memory' ∧ Holds stop memory' text ∧
      memory'.length = memory.length := by
  have hroom : 0 + (text ++ [stop]).length ≤ memory.length := by simpa using hfits
  refine ⟨_, if_pos hroom, ⟨hfresh, memory.drop (0 + (text ++ [stop]).length), ?_⟩,
    length_patch hroom⟩
  rw [patch_of_le (Nat.zero_le _), List.take_zero, List.nil_append, List.append_assoc]
  rfl

/-- A string appended where there is room for it. -/
theorem Holds.appendString [DecidableEq α] (h : Holds stop memory text)
    (hfits : text.length + more.length < memory.length) (hfresh : stop ∉ more) :
    ∃ memory', appendString stop memory more = some memory' ∧ Holds stop memory' (text ++ more) ∧
      memory'.length = memory.length := by
  have hroom : text.length + (more ++ [stop]).length ≤ memory.length := by
    rw [List.length_append, List.length_singleton]
    omega
  have htake : memory.take text.length = text := by
    obtain ⟨rest, rfl⟩ := h.eq_append
    exact List.take_left
  refine ⟨patch stop memory text.length (more ++ [stop]), ?_, ⟨?_, memory.drop (text.length +
    (more ++ [stop]).length), ?_⟩, length_patch hroom⟩
  · rw [Lib.appendString, h.readString_eq, Option.bind_some, store, if_pos hroom]
  · exact fun hmem ↦ (List.mem_append.mp hmem).elim h.fresh hfresh
  · rw [patch_of_le (Nat.le_of_lt h.length_lt), htake]
    simp only [List.append_assoc, List.singleton_append]

end NfsFuse.Lib
