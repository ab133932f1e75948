import NfsFuse.Lib.Resumption

/-!
# Programs among further questions, and the resources they hold

A program that asks questions of one kind runs unchanged inside a larger program that asks questions
of two kinds.  Some events of the larger program acquire a resource and others release one.
`heldAfter` follows a trace with the stack of the resources held, and is undefined as soon as
anything but the latest resource is released.  `Nests` says of a program that no run of it does
that, and which resources a returning run leaves behind.
-/

namespace NfsFuse.Lib

variable {Op Op' : Type} {Ans : Op → Type} {Ans' : Op' → Type} {Fault σ α β : Type}

/-! ## Further questions -/

/-- The answers to questions of two kinds. -/
@[reducible]
def SumAns (Ans : Op → Type) (Ans' : Op' → Type) : Op ⊕ Op' → Type
  | .inl op => Ans op
  | .inr op => Ans' op

/-- An event of the first kind among events of both. -/
def Event.inl (event : Event Ans) : Event (SumAns Ans Ans') := ⟨.inl event.op, event.answer⟩

namespace Resumption

/-- The same computation where questions of another kind are asked as well. -/
def widen : Resumption Op Ans Fault σ α → Resumption (Op ⊕ Op') (SumAns Ans Ans') Fault σ α
  | .ret value state => .ret value state
  | .ask op state resume => .ask (.inl op) state fun answer current ↦ (resume answer current).widen
  | .fault reason state => .fault reason state

theorem path_widen {computation : Resumption Op Ans Fault σ α}
    {trace : List (Event (SumAns Ans Ans'))} {ending : Ending Fault σ α} :
    (computation.widen : Resumption (Op ⊕ Op') (SumAns Ans Ans') Fault σ α).Path trace ending ↔
      ∃ inner, computation.Path inner ending ∧ trace = inner.map Event.inl := by
  induction computation generalizing trace with
  | ret value state =>
    constructor
    · rintro ⟨rfl, rfl⟩
      exact ⟨[], ⟨rfl, rfl⟩, rfl⟩
    · rintro ⟨inner, ⟨rfl, rfl⟩, rfl⟩
      exact ⟨rfl, rfl⟩
  | ask op state resume ih =>
    constructor
    · rintro ⟨answer, rest, rfl, hrest⟩
      obtain ⟨inner, hinner, rfl⟩ := (ih answer state).mp hrest
      exact ⟨⟨op, answer⟩ :: inner, ⟨answer, inner, rfl, hinner⟩, rfl⟩
    · rintro ⟨_, ⟨answer, inner, rfl, hinner⟩, rfl⟩
      exact ⟨answer, inner.map Event.inl, rfl, (ih answer state).mpr ⟨inner, hinner, rfl⟩⟩
  | fault reason state =>
    constructor
    · rintro ⟨rfl, rfl⟩
      exact ⟨[], ⟨rfl, rfl⟩, rfl⟩
    · rintro ⟨inner, ⟨rfl, rfl⟩, rfl⟩
      exact ⟨rfl, rfl⟩

end Resumption

/-! ## Held resources -/

/-- What an event does to the resources. -/
inductive Holding (R : Type) where
  | acquire (resource : R)
  | release (resource : R)
  | keep

variable {E R : Type} [DecidableEq R]

/-- The resources held after an event, the latest first. -/
def Holding.apply : Holding R → List R → Option (List R)
  | .acquire resource, held => some (resource :: held)
  | .release resource, latest :: held => if latest = resource then some held else none
  | .release _, [] => none
  | .keep, held => some held

/-- The resources held after a trace. -/
def heldAfter (effect : E → Holding R) : List R → List E → Option (List R)
  | held, [] => some held
  | held, event :: rest => ((effect event).apply held).bind fun held' ↦ heldAfter effect held' rest

theorem heldAfter_append (effect : E → Holding R) (held : List R) (front rest : List E) :
    heldAfter effect held (front ++ rest) =
      (heldAfter effect held front).bind fun held' ↦ heldAfter effect held' rest := by
  induction front generalizing held with
  | nil => rfl
  | cons event front ih =>
    simp only [List.cons_append, heldAfter, ih, Option.bind_assoc]

theorem heldAfter_of_keep {effect : E → Holding R} {trace : List E}
    (h : ∀ event ∈ trace, effect event = .keep) (held : List R) :
    heldAfter effect held trace = some held := by
  induction trace with
  | nil => rfl
  | cons event rest ih =>
    obtain ⟨hevent, hrest⟩ := List.forall_mem_cons.mp h
    rw [heldAfter, hevent]
    exact ih hrest

namespace Program

/-- The same program where questions of another kind are asked as well. -/
def widen (program : Program Op Ans Fault σ α) :
    Program (Op ⊕ Op') (SumAns Ans Ans') Fault σ α :=
  ⟨fun state ↦ (program.run state).widen⟩

/-- From these resources on, no run releases anything but the latest one, and a returning run leaves
the ones described. -/
def Nests (effect : Event Ans → Holding R) (program : Program Op Ans Fault σ α) (held : List R)
    (left : α → List R) : Prop :=
  ∀ state trace ending, (program.run state).Path trace ending →
    match ending with
    | .done value _ => heldAfter effect held trace = some (left value)
    | .crashed _ _ => (heldAfter effect held trace).isSome = true

section Nests

variable {effect : Event Ans → Holding R} {program : Program Op Ans Fault σ α} {held : List R}

theorem Nests.of_emits (h : program.Emits fun event ↦ effect event = .keep) (held : List R) :
    program.Nests effect held fun _ ↦ held := by
  intro state trace ending hpath
  rw [heldAfter_of_keep (h state trace ending hpath)]
  cases ending with
  | done value state' => rfl
  | crashed reason state' => rfl

theorem Nests.pure (value : α) (left : α → List R) (h : held = left value) :
    (Pure.pure value : Program Op Ans Fault σ α).Nests effect held left := by
  rintro state trace ending ⟨rfl, rfl⟩
  exact congrArg some h

theorem Nests.bind {next : α → Program Op Ans Fault σ β} {middle : α → List R} {left : β → List R}
    (h : program.Nests effect held middle)
    (hnext : ∀ value, (next value).Nests effect (middle value) left) :
    (program >>= next).Nests effect held left := by
  intro state trace ending hpath
  rcases path_bind.mp hpath with ⟨value, state₁, front, rest, hfront, hrest, rfl⟩ |
    ⟨reason, state₁, hcrash, rfl⟩
  · have hheld : heldAfter effect held (front ++ rest) = heldAfter effect (middle value) rest := by
      rw [heldAfter_append, show heldAfter effect held front = some (middle value) from
        h _ _ _ hfront, Option.bind_some]
    rw [hheld]
    exact hnext value _ _ _ hrest
  · exact h _ _ _ hcrash

/-- A question that acquires or releases something. -/
theorem Nests.ask {op : Op} {left : Ans op → List R}
    (h : ∀ answer, (effect ⟨op, answer⟩).apply held = some (left answer)) :
    (Program.ask op : Program Op Ans Fault σ (Ans op)).Nests effect held left := by
  rintro state trace ending ⟨answer, rest, rfl, rfl, rfl⟩
  exact (congrArg (Option.bind · _) (h answer)).trans rfl

theorem Nests.ite {condition : Prop} [Decidable condition] {yes no : Program Op Ans Fault σ α}
    {left : α → List R} (hyes : condition → yes.Nests effect held left)
    (hno : ¬ condition → no.Nests effect held left) :
    (if condition then yes else no).Nests effect held left := by
  by_cases h : condition
  · simpa only [if_pos h] using hyes h
  · simpa only [if_neg h] using hno h

end Nests

end Program

end NfsFuse.Lib
