import Mathlib.Data.Set.Insert
import Mathlib.Data.List.Nodup
import Mathlib.Logic.Function.Basic

/-!
# Chained hash tables of references

A table maps every bucket to the chain of references hashed there; a reference's key is stored in
the object it points to, not in the table.  `Holds` says that a table contains exactly the members
of a set, each of them once, in the bucket of its key.  Insertion at the head of a chain keeps it,
and a walk of one chain then finds a member by any property that fixes the key.
-/

namespace NfsFuse.Lib

/-- Buckets and their chains. -/
def HashTable (Bucket Ref : Type) : Type := Bucket → List Ref

namespace HashTable

variable {Bucket Ref Key : Type}

/-- All chains empty. -/
def empty : HashTable Bucket Ref := fun _ ↦ []

/-- The chain of one bucket. -/
def chain (table : HashTable Bucket Ref) (bucket : Bucket) : List Ref := table bucket

/-- Insert at the head of a chain. -/
def add [DecidableEq Bucket] (table : HashTable Bucket Ref) (bucket : Bucket) (ref : Ref) :
    HashTable Bucket Ref :=
  fun other ↦ if other = bucket then ref :: table other else table other

/-- Walk one chain up to the first reference that passes the test. -/
def find (table : HashTable Bucket Ref) (bucket : Bucket) (test : Ref → Bool) : Option Ref :=
  (table.chain bucket).find? test

@[simp]
theorem chain_empty (bucket : Bucket) : (empty : HashTable Bucket Ref).chain bucket = [] := rfl

theorem chain_add [DecidableEq Bucket] (table : HashTable Bucket Ref) (bucket other : Bucket)
    (ref : Ref) : (table.add bucket ref).chain other =
      if other = bucket then ref :: table.chain other else table.chain other := rfl

/-- A walk depends on the test only through the references of its chain. -/
theorem find_congr {table : HashTable Bucket Ref} {bucket : Bucket} {test test' : Ref → Bool}
    (h : ∀ ref ∈ table.chain bucket, test ref = test' ref) :
    table.find bucket test = table.find bucket test' := by
  unfold find
  generalize table.chain bucket = chain at h
  induction chain with
  | nil => rfl
  | cons first rest ih =>
    rw [List.find?_cons, List.find?_cons, h first List.mem_cons_self,
      ih fun ref hmem ↦ h ref (List.mem_cons_of_mem first hmem)]

/-- The table contains exactly `members`, each once and in the bucket of its key. -/
structure Holds (table : HashTable Bucket Ref) (hash : Key → Bucket) (key : Ref → Key)
    (members : Set Ref) : Prop where
  mem_iff : ∀ bucket ref, ref ∈ table.chain bucket ↔ ref ∈ members ∧ hash (key ref) = bucket
  nodup : ∀ bucket, (table.chain bucket).Nodup

variable {table : HashTable Bucket Ref} {hash : Key → Bucket} {key : Ref → Key}
  {members : Set Ref}

theorem holds_empty (hash : Key → Bucket) (key : Ref → Key) :
    (empty : HashTable Bucket Ref).Holds hash key ∅ where
  mem_iff := by simp
  nodup := by simp

/-- Only the keys of members matter. -/
theorem Holds.congr_key (h : table.Holds hash key members) (key' : Ref → Key)
    (hkey : ∀ ref ∈ members, key' ref = key ref) : table.Holds hash key' members where
  mem_iff bucket ref := by
    rw [h.mem_iff]
    constructor <;> rintro ⟨hmem, rfl⟩ <;> exact ⟨hmem, by rw [hkey ref hmem]⟩
  nodup := h.nodup

/-- Inserting a new reference in the bucket of its key. -/
theorem Holds.add [DecidableEq Bucket] (h : table.Holds hash key members) {ref : Ref}
    (hnew : ref ∉ members) :
    (table.add (hash (key ref)) ref).Holds hash key (insert ref members) where
  mem_iff bucket other := by
    rw [chain_add]
    split_ifs with hbucket
    · subst hbucket
      rw [List.mem_cons, h.mem_iff, Set.mem_insert_iff]
      constructor
      · rintro (rfl | ⟨hmem, hhash⟩)
        · exact ⟨Or.inl rfl, rfl⟩
        · exact ⟨Or.inr hmem, hhash⟩
      · rintro ⟨rfl | hmem, hhash⟩
        · exact Or.inl rfl
        · exact Or.inr ⟨hmem, hhash⟩
    · rw [h.mem_iff, Set.mem_insert_iff]
      constructor
      · rintro ⟨hmem, hhash⟩
        exact ⟨Or.inr hmem, hhash⟩
      · rintro ⟨rfl | hmem, hhash⟩
        · exact absurd hhash.symm hbucket
        · exact ⟨hmem, hhash⟩
  nodup bucket := by
    rw [chain_add]
    split_ifs with hbucket
    · refine List.nodup_cons.mpr ⟨fun hmem ↦ hnew ?_, h.nodup bucket⟩
      exact ((h.mem_iff bucket ref).mp hmem).1
    · exact h.nodup bucket

/-- A walk returns only members that pass the test. -/
theorem Holds.find_sound (h : table.Holds hash key members) {bucket : Bucket}
    {test : Ref → Bool} {ref : Ref} (hfind : table.find bucket test = some ref) :
    ref ∈ members ∧ test ref = true :=
  ⟨((h.mem_iff bucket ref).mp (List.mem_of_find?_eq_some hfind)).1, List.find?_some hfind⟩

/-- A test that fixes the key finds exactly the member that passes it, if there is one at most. -/
theorem Holds.find_eq_some_iff (h : table.Holds hash key members) {wanted : Key}
    {test : Ref → Bool} (hkey : ∀ ref ∈ members, test ref = true → key ref = wanted)
    (hunique : ∀ ref ∈ members, ∀ other ∈ members, test ref = true → test other = true →
      ref = other) (ref : Ref) :
    table.find (hash wanted) test = some ref ↔ ref ∈ members ∧ test ref = true := by
  constructor
  · exact h.find_sound
  · rintro ⟨hmem, htest⟩
    have hchain : ref ∈ table.chain (hash wanted) :=
      (h.mem_iff _ ref).mpr ⟨hmem, by rw [hkey ref hmem htest]⟩
    cases hfind : table.find (hash wanted) test with
    | none => exact absurd htest (List.find?_eq_none.mp hfind ref hchain)
    | some other =>
      obtain ⟨hother, htest'⟩ := h.find_sound hfind
      rw [hunique ref hmem other hother htest htest']

/-- The walk fails exactly when no member passes a test that fixes the key. -/
theorem Holds.find_eq_none_iff (h : table.Holds hash key members) {wanted : Key}
    {test : Ref → Bool} (hkey : ∀ ref ∈ members, test ref = true → key ref = wanted) :
    table.find (hash wanted) test = none ↔ ∀ ref ∈ members, test ref ≠ true := by
  rw [find, List.find?_eq_none]
  constructor
  · intro hnone ref hmem htest
    exact hnone ref ((h.mem_iff _ ref).mpr ⟨hmem, by rw [hkey ref hmem htest]⟩) htest
  · intro hnone ref hchain
    exact hnone ref ((h.mem_iff _ ref).mp hchain).1

end HashTable

end NfsFuse.Lib
