import Mathlib.Tactic.Common

/-!
# Pools of resources

Resources that are created, used and destroyed.  A resource is named by its position in the order of
creation, so that no name is given twice and a resource that is dead stays dead.  Each use is
recorded together with whether the resource was live, and a record is clean if all of its uses were.
-/

namespace NfsFuse.Lib

/-- A use of a resource. -/
structure Use (κ : Type) where
  kind : κ
  resource : ℕ
  live : Bool

/-- The resources created so far, those among them that are live, and the record of their uses. -/
structure Pool (κ : Type) where
  created : ℕ
  live : List ℕ
  uses : List (Use κ)

namespace Pool

variable {κ : Type} {pool pool' : Pool κ}

/-- Record a use. -/
def use (pool : Pool κ) (kind : κ) (resource : ℕ) : Pool κ :=
  { pool with uses := pool.uses ++ [⟨kind, resource, pool.live.contains resource⟩] }

/-- Record a use of each of several resources. -/
def useAll (kind : κ) (resources : List ℕ) (pool : Pool κ) : Pool κ :=
  resources.foldl (fun pool resource ↦ pool.use kind resource) pool

/-- Create a resource, whose name is the number of those before it. -/
def create (pool : Pool κ) : Pool κ :=
  { pool with created := pool.created + 1, live := pool.created :: pool.live }

/-- Destroy a resource. -/
def destroy (pool : Pool κ) (resource : ℕ) : Pool κ :=
  { pool with live := pool.live.filter (· != resource) }

/-- No use was of a resource that was not live. -/
def Clean (pool : Pool κ) : Prop := ∀ use ∈ pool.uses, use.live = true

/-- Only resources that have been created are live. -/
def Bounded (pool : Pool κ) : Prop := ∀ resource ∈ pool.live, resource < pool.created

/-- The resource has been created and destroyed. -/
def Dead (pool : Pool κ) (resource : ℕ) : Prop := resource < pool.created ∧ resource ∉ pool.live

theorem clean_use_iff {kind : κ} {resource : ℕ} :
    (pool.use kind resource).Clean ↔ pool.Clean ∧ resource ∈ pool.live := by
  simp [Clean, use, or_imp, forall_and]

theorem useAll_live (kind : κ) (resources : List ℕ) (pool : Pool κ) :
    (useAll kind resources pool).live = pool.live := by
  induction resources generalizing pool with
  | nil => rfl
  | cons resource rest ih => exact ih (pool.use kind resource)

theorem useAll_created (kind : κ) (resources : List ℕ) (pool : Pool κ) :
    (useAll kind resources pool).created = pool.created := by
  induction resources generalizing pool with
  | nil => rfl
  | cons resource rest ih => exact ih (pool.use kind resource)

theorem clean_useAll_iff {kind : κ} {resources : List ℕ} :
    (useAll kind resources pool).Clean ↔ pool.Clean ∧ ∀ resource ∈ resources,
      resource ∈ pool.live := by
  induction resources generalizing pool with
  | nil => simp [useAll]
  | cons resource rest ih =>
    have hfirst : (pool.use kind resource).Clean ↔ pool.Clean ∧ resource ∈ pool.live :=
      clean_use_iff
    rw [List.forall_mem_cons, ← and_assoc, ← hfirst]
    exact ih

theorem Bounded.create (h : pool.Bounded) : pool.create.Bounded := by
  intro resource hmem
  rcases List.mem_cons.mp hmem with rfl | hold
  · exact Nat.lt_succ_self _
  · exact Nat.lt_succ_of_lt (h resource hold)

theorem mem_destroy_iff {resource other : ℕ} :
    other ∈ (pool.destroy resource).live ↔ other ∈ pool.live ∧ other ≠ resource := by
  simp [destroy]

theorem Bounded.destroy (h : pool.Bounded) (resource : ℕ) : (pool.destroy resource).Bounded :=
  fun other hmem ↦ h other (mem_destroy_iff.mp hmem).1

theorem Bounded.dead_destroy (h : pool.Bounded) {resource : ℕ} (hmem : resource ∈ pool.live) :
    (pool.destroy resource).Dead resource :=
  ⟨h resource hmem, fun hlive ↦ (mem_destroy_iff.mp hlive).2 rfl⟩

/-- Uses stay recorded and dead resources stay dead. -/
structure Grows (pool pool' : Pool κ) : Prop where
  uses_subset : pool.uses ⊆ pool'.uses
  dead : ∀ resource, pool.Dead resource → pool'.Dead resource

theorem Grows.clean (h : Grows pool pool') (hclean : pool'.Clean) : pool.Clean :=
  fun use hmem ↦ hclean use (h.uses_subset hmem)

theorem Grows.rfl : Grows pool pool := ⟨fun _ hmem ↦ hmem, fun _ hdead ↦ hdead⟩

theorem Grows.trans {pool'' : Pool κ} (h : Grows pool pool') (h' : Grows pool' pool'') :
    Grows pool pool'' :=
  ⟨fun _ hmem ↦ h'.uses_subset (h.uses_subset hmem),
    fun resource hdead ↦ h'.dead resource (h.dead resource hdead)⟩

theorem Grows.use (h : Grows pool pool') (kind : κ) (resource : ℕ) :
    Grows pool (pool'.use kind resource) :=
  h.trans ⟨List.subset_append_left _ _, fun _ hdead ↦ hdead⟩

theorem Grows.create (h : Grows pool pool') : Grows pool pool'.create := by
  refine h.trans ⟨fun _ hmem ↦ hmem, fun resource ⟨hlt, hmem⟩ ↦ ⟨Nat.lt_succ_of_lt hlt, ?_⟩⟩
  exact List.not_mem_cons_of_ne_of_not_mem (Nat.ne_of_lt hlt) hmem

theorem Grows.destroy (h : Grows pool pool') (resource : ℕ) : Grows pool (pool'.destroy resource) :=
  h.trans ⟨fun _ hmem ↦ hmem,
    fun _ ⟨hlt, hmem⟩ ↦ ⟨hlt, fun hlive ↦ hmem (mem_destroy_iff.mp hlive).1⟩⟩

/-- Resources may be created, and those that existed before stay live or dead. -/
structure Extends (pool pool' : Pool κ) : Prop where
  created_le : pool.created ≤ pool'.created
  live_iff : ∀ resource < pool.created, resource ∈ pool'.live ↔ resource ∈ pool.live
  bounded : pool.Bounded → pool'.Bounded

theorem Extends.rfl : Extends pool pool := ⟨Nat.le_refl _, fun _ _ ↦ Iff.rfl, id⟩

theorem Extends.use (h : Extends pool pool') (kind : κ) (resource : ℕ) :
    Extends pool (pool'.use kind resource) :=
  ⟨h.created_le, h.live_iff, h.bounded⟩

theorem Extends.create (h : Extends pool pool') : Extends pool pool'.create := by
  refine ⟨Nat.le_succ_of_le h.created_le, fun resource hlt ↦ ?_, fun hbounded ↦ ?_⟩
  · have hne : resource ≠ pool'.created := Nat.ne_of_lt (Nat.lt_of_lt_of_le hlt h.created_le)
    rw [← h.live_iff resource hlt]
    exact List.mem_cons.trans (or_iff_right hne)
  · exact (h.bounded hbounded).create

/-- A resource that did not exist before may be destroyed. -/
theorem Extends.destroy (h : Extends pool pool') {resource : ℕ} (hnew : pool.created ≤ resource) :
    Extends pool (pool'.destroy resource) := by
  refine ⟨h.created_le, fun other hlt ↦ ?_, fun hbounded ↦ (h.bounded hbounded).destroy resource⟩
  rw [mem_destroy_iff, h.live_iff other hlt]
  exact and_iff_left (Nat.ne_of_lt (Nat.lt_of_lt_of_le hlt hnew))

end Pool

end NfsFuse.Lib
