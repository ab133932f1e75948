import Mathlib.Data.List.Infix
import Mathlib.Data.List.Nodup

/-!
# Reading a list in pages

A list whose elements carry distinct keys is read from a position, which is the key of the last
element read, or the start key before the first one.  What follows a position is cut twice: the
holder of the list returns a page of it, and the reader keeps what fits into a buffer.
-/

namespace NfsFuse.Lib

variable {α κ : Type} {elements read rest page : List α}

/-! ## Positions -/

section Positions

variable [DecidableEq κ] {key : α → κ} {start : κ}

/-- What follows a position. -/
def afterKey (key : α → κ) (start : κ) (elements : List α) (position : κ) : List α :=
  if position = start then elements
  else (elements.dropWhile fun element ↦ decide (key element ≠ position)).tail

/-- The position of a reader. -/
def lastKey (key : α → κ) (start : κ) (read : List α) : κ := (read.getLast?.map key).getD start

/-- A reader finds what it has not read yet. -/
theorem afterKey_lastKey (hnodup : (elements.map key).Nodup) (hstart : start ∉ elements.map key)
    (h : elements = read ++ rest) :
    afterKey key start elements (lastKey key start read) = rest := by
  subst h
  rcases List.eq_nil_or_concat read with rfl | ⟨front, last, rfl⟩
  · exact if_pos rfl
  · rw [List.concat_eq_append] at hnodup hstart ⊢
    have hlast : lastKey key start (front ++ [last]) = key last := by
      rw [lastKey, List.getLast?_concat]
      rfl
    have hmem : key last ∈ (front ++ [last] ++ rest).map key := List.mem_map_of_mem (by simp)
    have hother : ∀ element ∈ front, decide (key element ≠ key last) = true := by
      intro element helement
      rw [List.append_assoc, List.map_append, List.nodup_append] at hnodup
      exact decide_eq_true (hnodup.2.2 _ (List.mem_map_of_mem helement) _ (by simp))
    have hne : key last ≠ start := fun heq ↦ hstart (heq ▸ hmem)
    rw [hlast, afterKey, if_neg hne, List.append_assoc,
      List.dropWhile_append_of_pos hother, List.singleton_append,
      List.dropWhile_cons_of_neg (by simp), List.tail_cons]

end Positions

/-! ## Pages -/

/-- A page of a list: a prefix, which is empty only if the list is. -/
structure Page (page rest : List α) : Prop where
  starts : page <+: rest
  rest_nil : page = [] → rest = []

/-- The elements of a page that fit into a buffer, each with room to spare. -/
def fitting (cost : α → ℕ) (size : ℕ) : List α → ℕ → List α
  | [], _ => []
  | element :: rest, len =>
      if cost element ≥ size - len then []
      else element :: fitting cost size rest (len + cost element)

theorem fitting_isPrefix (cost : α → ℕ) (size : ℕ) (page : List α) (len : ℕ) :
    fitting cost size page len <+: page := by
  induction page generalizing len with
  | nil => exact List.prefix_rfl
  | cons element rest ih =>
    rw [fitting]
    split_ifs
    · exact List.nil_prefix
    · exact (List.prefix_cons_inj element).mpr (ih _)

/-- Nothing of a page is kept exactly if its first element does not fit. -/
theorem fitting_eq_nil_iff (cost : α → ℕ) (size : ℕ) (page : List α) :
    fitting cost size page 0 = [] ↔ ∀ next ∈ page.head?, size ≤ cost next := by
  cases page with
  | nil => simp [fitting]
  | cons element rest =>
    rw [fitting, Nat.sub_zero]
    split_ifs with hfull
    · simpa using hfull
    · simpa using hfull

/-- A page has the first element of the list it is taken from. -/
theorem Page.head?_eq (h : Page page rest) : page.head? = rest.head? := by
  cases page with
  | nil => rw [h.rest_nil rfl]
  | cons element back =>
    obtain ⟨tail, rfl⟩ := h.starts
    rfl

theorem Page.map {β : Type} (h : Page page rest) (f : α → β) : Page (page.map f) (rest.map f) where
  starts := h.starts.map f
  rest_nil hnil := by
    rw [h.rest_nil (List.map_eq_nil_iff.mp hnil), List.map_nil]

/-- A reader that keeps of a page what fits goes on where it was; it takes the end of the list for
reached exactly when it is, provided the next element fits. -/
theorem Page.reading (h : Page page rest) (read : List α) (cost : α → ℕ) (size : ℕ) :
    read ++ fitting cost size page 0 <+: read ++ rest ∧
      ((fitting cost size page 0 = [] → rest = []) ↔ ∀ next ∈ rest.head?, cost next < size) := by
  refine ⟨(List.prefix_append_right_inj read).mpr
    ((fitting_isPrefix cost size page 0).trans h.starts), ?_⟩
  rw [fitting_eq_nil_iff, h.head?_eq]
  cases rest with
  | nil => simp
  | cons next back => simp

end NfsFuse.Lib
