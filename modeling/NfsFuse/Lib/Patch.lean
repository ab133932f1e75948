import Mathlib.Data.List.TakeDrop

/-!
# Writing pieces into a sequence

A piece is written into a sequence at a position.  A gap between the end of the sequence and the
position is filled, and writing nothing changes nothing.  Pieces written one behind the other come
to the same as the whole written at once, so a transfer may be cut anywhere.  A piece is found where
it was written, until another overlaps it.
-/

namespace NfsFuse.Lib

variable {α : Type} {fill : α} {base piece : List α} {start : ℕ}

/-- A piece written into a sequence. -/
def patch (fill : α) (base : List α) (start : ℕ) : List α → List α
  | [] => base
  | first :: rest =>
      (base ++ List.replicate (start - base.length) fill).take start ++ (first :: rest) ++
        base.drop (start + (rest.length + 1))

@[simp]
theorem patch_nil (fill : α) (base : List α) (start : ℕ) : patch fill base start [] = base := rfl

theorem patch_of_ne_nil (h : piece ≠ []) : patch fill base start piece =
    (base ++ List.replicate (start - base.length) fill).take start ++ piece ++
      base.drop (start + piece.length) := by
  cases piece with
  | nil => exact absurd rfl h
  | cons first rest => rfl

/-- Inside the sequence there is no gap. -/
theorem patch_of_le (h : start ≤ base.length) :
    patch fill base start piece = base.take start ++ piece ++ base.drop (start + piece.length) := by
  by_cases hpiece : piece = []
  · subst hpiece
    simp
  · rw [patch_of_ne_nil hpiece, List.take_append_of_le_length h]

theorem length_patch (h : start + piece.length ≤ base.length) :
    (patch fill base start piece).length = base.length := by
  rw [patch_of_le (by omega)]
  simp only [List.length_append, List.length_take, List.length_drop]
  omega

theorem take_patch (h : start ≤ base.length) :
    (patch fill base start piece).take (start + piece.length) = base.take start ++ piece := by
  have hlength : (base.take start ++ piece).length = start + piece.length := by
    rw [List.length_append, List.length_take, Nat.min_eq_left h]
  rw [patch_of_le h, ← hlength, List.take_left]

/-- The written part. -/
theorem getElem?_patch_inside {position : ℕ} (hle : start ≤ position)
    (hlt : position < start + piece.length) :
    (patch fill base start piece)[position]? = piece[position - start]? := by
  have hpiece : piece ≠ [] := by
    rintro rfl
    simp only [List.length_nil] at hlt
    omega
  have hfront : ((base ++ List.replicate (start - base.length) fill).take start).length =
      start := by
    simp only [List.length_take, List.length_append, List.length_replicate]
    omega
  rw [patch_of_ne_nil hpiece, List.getElem?_append_left (by simp only [List.length_append]; omega),
    List.getElem?_append_right (by omega), hfront]

/-- Outside of the written part nothing changes. -/
theorem getElem?_patch_outside {position : ℕ} (hlt : position < base.length)
    (h : position < start ∨ start + piece.length ≤ position) :
    (patch fill base start piece)[position]? = base[position]? := by
  by_cases hpiece : piece = []
  · rw [hpiece, patch_nil]
  have hfront : ((base ++ List.replicate (start - base.length) fill).take start).length =
      start := by
    simp only [List.length_take, List.length_append, List.length_replicate]
    omega
  rw [patch_of_ne_nil hpiece]
  rcases h with hbefore | hbehind
  · rw [List.append_assoc, List.getElem?_append_left (by omega), List.getElem?_take_of_lt hbefore,
      List.getElem?_append_left hlt]
  · rw [List.getElem?_append_right (by simp only [List.length_append]; omega), List.getElem?_drop,
      List.length_append, hfront, Nat.add_sub_cancel' hbehind]

/-- **Pieces written one behind the other.** -/
theorem patch_patch (fill : α) (base : List α) (start : ℕ) (first second : List α) :
    patch fill (patch fill base start first) (start + first.length) second =
      patch fill base start (first ++ second) := by
  by_cases hfirst : first = []
  · simp [hfirst]
  by_cases hsecond : second = []
  · simp [hsecond]
  have hnext : start + first.length ≤ (patch fill base start first).length := by
    rw [patch_of_ne_nil hfirst]
    simp only [List.length_append, List.length_take, List.length_replicate]
    omega
  have hfront : ((base ++ List.replicate (start - base.length) fill).take start ++ first).length =
      start + first.length := by
    simp only [List.length_take, List.length_append, List.length_replicate]
    omega
  have hdrop : (patch fill base start first).drop (start + first.length + second.length) =
      base.drop (start + (first ++ second).length) := by
    rw [patch_of_ne_nil hfirst, ← List.drop_drop, ← hfront, List.drop_left, hfront, List.drop_drop,
      List.length_append, Nat.add_assoc]
  have htake : (patch fill base start first).take (start + first.length) =
      (base ++ List.replicate (start - base.length) fill).take start ++ first := by
    rw [patch_of_ne_nil hfirst, ← hfront, List.take_left]
  rw [patch_of_le hnext, hdrop, htake, patch_of_ne_nil (by simp [hfirst] : first ++ second ≠ []),
    List.append_assoc _ first second]

/-- A piece is found where it was written. -/
theorem isPrefix_drop_patch (fill : α) (base piece : List α) (start : ℕ) :
    piece <+: (patch fill base start piece).drop start := by
  rw [List.prefix_iff_getElem?]
  intro position hlt
  rw [List.getElem?_drop, getElem?_patch_inside (Nat.le_add_right _ _) (by omega),
    Nat.add_sub_cancel_left, List.getElem?_eq_getElem hlt]

/-- It is still found there after something has been written elsewhere. -/
theorem isPrefix_drop_patch_of_disjoint {found : List α} {place : ℕ} (h : found <+: base.drop place)
    (hdisjoint : place + found.length ≤ start ∨ start + piece.length ≤ place) :
    found <+: (patch fill base start piece).drop place := by
  rw [List.prefix_iff_getElem?] at h ⊢
  intro position hlt
  have hold := h position hlt
  rw [List.getElem?_drop] at hold ⊢
  have hbase : place + position < base.length := (List.getElem?_eq_some_iff.mp hold).1
  rw [getElem?_patch_outside hbase (by omega), hold]

end NfsFuse.Lib
