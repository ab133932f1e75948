import Mathlib.Data.List.Nodup
import Mathlib.Logic.Function.Basic
import NfsFuse.Lib.HashTable

/-!
# Null-terminated chains

A chain is reached by following `next` from a starting pointer until it is null.  The pointer and
`next` determine the nodes, no node occurs twice, and only the links of its own nodes matter.  A
node that is linked to the head of a chain of a table becomes its head by one store.
-/

namespace NfsFuse.Lib

variable {Node : Type}

/-- Following `next` from `start` reaches exactly these nodes, in this order, and then null. -/
def ChainFrom (next : Node → Option Node) : Option Node → List Node → Prop
  | start, [] => start = none
  | start, node :: rest => start = some node ∧ ChainFrom next (next node) rest

namespace ChainFrom

variable {next next' : Node → Option Node} {start : Option Node} {nodes nodes' : List Node}

/-- The nodes are determined by the links. -/
theorem unique (h : ChainFrom next start nodes) (h' : ChainFrom next start nodes') :
    nodes = nodes' := by
  induction nodes generalizing start nodes' with
  | nil =>
    cases nodes' with
    | nil => rfl
    | cons node' rest' => exact absurd (h.symm.trans h'.1) (Option.some_ne_none node').symm
  | cons node rest ih =>
    cases nodes' with
    | nil => exact absurd (h.1.symm.trans h') (Option.some_ne_none node)
    | cons node' rest' =>
      obtain rfl : node = node' := Option.some.inj (h.1.symm.trans h'.1)
      rw [ih h.2 h'.2]

/-- The part of a chain behind one of its nodes. -/
theorem of_append {front rest : List Node} {node : Node}
    (h : ChainFrom next start (front ++ node :: rest)) : ChainFrom next (next node) rest := by
  induction front generalizing start with
  | nil => exact h.2
  | cons first front ih => exact ih h.2

/-- A chain that ends does not come back to one of its nodes. -/
theorem nodup (h : ChainFrom next start nodes) : nodes.Nodup := by
  induction nodes generalizing start with
  | nil => exact List.nodup_nil
  | cons node rest ih =>
    apply List.nodup_cons.mpr
    refine ⟨fun hmem ↦ ?_, ih h.2⟩
    obtain ⟨front, back, rfl⟩ := List.append_of_mem hmem
    -- what follows the node would be both the whole rest and a proper part of it
    have hlength := congrArg List.length (h.2.unique (of_append h.2))
    simp only [List.length_append, List.length_cons] at hlength
    omega

/-- Only the links of the nodes matter. -/
theorem congr (h : ChainFrom next start nodes) (heq : ∀ node ∈ nodes, next' node = next node) :
    ChainFrom next' start nodes := by
  induction nodes generalizing start with
  | nil => exact h
  | cons node rest ih =>
    refine ⟨h.1, ?_⟩
    rw [heq node List.mem_cons_self]
    exact ih h.2 fun other hmem ↦ heq other (List.mem_cons_of_mem node hmem)

/-- A link that no node of the chain uses may change. -/
theorem update [DecidableEq Node] (h : ChainFrom next start nodes) {node : Node}
    (hnew : node ∉ nodes) (value : Option Node) :
    ChainFrom (Function.update next node value) start nodes := by
  apply h.congr
  intro other hmem
  exact Function.update_of_ne (ne_of_mem_of_not_mem hmem hnew) _ _

/-- A chain contains what its links point to. -/
theorem mem_of_next (h : ChainFrom next start nodes) {node target : Node} (hmem : node ∈ nodes)
    (htarget : next node = some target) : target ∈ nodes := by
  obtain ⟨front, rest, rfl⟩ := List.append_of_mem hmem
  have hrest := of_append h
  rw [htarget] at hrest
  cases rest with
  | nil => exact absurd hrest (Option.some_ne_none target)
  | cons first rest =>
    obtain rfl : target = first := Option.some.inj hrest.1
    simp

theorem mem_of_start (h : ChainFrom next start nodes) {node : Node} (hstart : start = some node) :
    node ∈ nodes := by
  subst hstart
  cases nodes with
  | nil => exact absurd h (Option.some_ne_none node)
  | cons first rest =>
    obtain rfl : node = first := Option.some.inj h.1
    exact List.mem_cons_self

end ChainFrom

/-- A table of chains with a node before one of its heads: the node is linked to the old head, and
the head is the node. -/
theorem HashTable.chainFrom_add {Bucket : Type} [DecidableEq Bucket] {table : HashTable Bucket Node}
    {next : Node → Option Node} {first : Bucket → Option Node}
    (h : ∀ other, ChainFrom next (first other) (table.chain other)) {bucket : Bucket} {node : Node}
    (hnext : next node = first bucket) (other : Bucket) :
    ChainFrom next (Function.update first bucket (some node) other)
      ((table.add bucket node).chain other) := by
  rw [HashTable.chain_add]
  by_cases hother : other = bucket
  · subst hother
    rw [if_pos rfl, Function.update_self]
    exact ⟨rfl, hnext ▸ h other⟩
  · rw [if_neg hother, Function.update_of_ne hother]
    exact h other

end NfsFuse.Lib
