import Mathlib.Tactic.Common
import Mathlib.Order.Defs.Unbundled

/-!
# Resumptions over an answering environment

A resumption is a state-passing computation that stops whenever it needs an answer from outside:
it has finished, it is waiting with its current state exposed, or it has crashed.  Everything
between two questions is ordinary computation, so a program reads like the code it embeds, and the
same program can be run alone, against a stateful server, or interleaved with others.

A path is one complete run of a resumption: the events exchanged, in order, and the ending.  The
bind rule splits a path at the boundary between two program parts, and `Ensures` packages what
every returning path of a program guarantees.
-/

namespace NfsFuse.Lib

/-- How far a computation over the local state has got. -/
inductive Resumption (Op : Type) (Ans : Op → Type) (Fault σ α : Type) where
  | ret (value : α) (state : σ)
  | ask (op : Op) (state : σ) (resume : Ans op → σ → Resumption Op Ans Fault σ α)
  | fault (reason : Fault) (state : σ)

/-- One question of a run together with the answer it received. -/
structure Event {Op : Type} (Ans : Op → Type) where
  op : Op
  answer : Ans op

/-- How a complete run ends. -/
inductive Ending (Fault σ α : Type) where
  | done (value : α) (state : σ)
  | crashed (reason : Fault) (state : σ)

/-- The local state in which a run ends. -/
def Ending.state {Fault σ α : Type} : Ending Fault σ α → σ
  | .done _ state => state
  | .crashed _ state => state

variable {Op : Type} {Ans : Op → Type} {Fault σ α β : Type}

/-- The resumption that has already ended. -/
def Ending.toResumption : Ending Fault σ α → Resumption Op Ans Fault σ α
  | .done value state => .ret value state
  | .crashed reason state => .fault reason state

namespace Resumption

/-- Sequencing: questions of the first part are asked before the second part starts. -/
def bind : Resumption Op Ans Fault σ α → (α → σ → Resumption Op Ans Fault σ β) →
    Resumption Op Ans Fault σ β
  | .ret value state, next => next value state
  | .ask op state resume, next =>
    .ask op state fun answer current ↦ (resume answer current).bind next
  | .fault reason state, _ => .fault reason state

@[simp]
theorem bind_ret (value : α) (state : σ) (next : α → σ → Resumption Op Ans Fault σ β) :
    (ret value state : Resumption Op Ans Fault σ α).bind next = next value state := rfl

@[simp]
theorem bind_ask (op : Op) (state : σ) (resume : Ans op → σ → Resumption Op Ans Fault σ α)
    (next : α → σ → Resumption Op Ans Fault σ β) :
    (ask op state resume).bind next =
      ask op state fun answer current ↦ (resume answer current).bind next := rfl

@[simp]
theorem bind_fault (reason : Fault) (state : σ) (next : α → σ → Resumption Op Ans Fault σ β) :
    (fault reason state : Resumption Op Ans Fault σ α).bind next = fault reason state := rfl

/-- The complete runs of a resumption that nothing else interferes with: an answer is consumed in
the very state in which its question was asked. -/
def Path : Resumption Op Ans Fault σ α → List (Event Ans) → Ending Fault σ α → Prop
  | .ret value state, trace, ending => trace = [] ∧ ending = .done value state
  | .ask op state resume, trace, ending =>
      ∃ answer rest, trace = ⟨op, answer⟩ :: rest ∧ (resume answer state).Path rest ending
  | .fault reason state, trace, ending => trace = [] ∧ ending = .crashed reason state

@[simp]
theorem path_ret (value : α) (state : σ) (trace : List (Event Ans)) (ending : Ending Fault σ α) :
    (ret value state : Resumption Op Ans Fault σ α).Path trace ending ↔
      trace = [] ∧ ending = .done value state := Iff.rfl

@[simp]
theorem path_ask (op : Op) (state : σ) (resume : Ans op → σ → Resumption Op Ans Fault σ α)
    (trace : List (Event Ans)) (ending : Ending Fault σ α) :
    (ask op state resume).Path trace ending ↔
      ∃ answer rest, trace = ⟨op, answer⟩ :: rest ∧ (resume answer state).Path rest ending :=
  Iff.rfl

@[simp]
theorem path_fault (reason : Fault) (state : σ) (trace : List (Event Ans))
    (ending : Ending Fault σ α) :
    (fault reason state : Resumption Op Ans Fault σ α).Path trace ending ↔
      trace = [] ∧ ending = .crashed reason state := Iff.rfl

@[simp]
theorem path_toResumption (last : Ending Fault σ α) (trace : List (Event Ans))
    (ending : Ending Fault σ α) :
    (last.toResumption : Resumption Op Ans Fault σ α).Path trace ending ↔
      trace = [] ∧ ending = last := by
  cases last <;> exact Iff.rfl

/-- A run of a sequence returns from its first part and then runs the second, or it crashes in the
first part. -/
theorem path_bind (first : Resumption Op Ans Fault σ α)
    (next : α → σ → Resumption Op Ans Fault σ β) (trace : List (Event Ans))
    (ending : Ending Fault σ β) :
    (first.bind next).Path trace ending ↔
      (∃ value state front rest, first.Path front (.done value state) ∧
        (next value state).Path rest ending ∧ trace = front ++ rest) ∨
      (∃ reason state, first.Path trace (.crashed reason state) ∧
        ending = .crashed reason state) := by
  induction first generalizing trace with
  | ret value state =>
    simp only [bind, path_ret]
    constructor
    · intro h
      exact Or.inl ⟨value, state, [], trace, ⟨rfl, rfl⟩, h, rfl⟩
    · rintro (⟨value', state', front, rest, ⟨rfl, heq⟩, h, rfl⟩ | ⟨reason, state', ⟨_, heq⟩, _⟩)
      · cases heq
        exact h
      · cases heq
  | ask op state resume ih =>
    simp only [bind, path_ask, ih]
    constructor
    · rintro ⟨answer, rest, rfl, ⟨value, state', front, back, hfirst, hnext, rfl⟩ | hcrash⟩
      · exact Or.inl ⟨value, state', ⟨op, answer⟩ :: front, back, ⟨answer, front, rfl, hfirst⟩,
          hnext, rfl⟩
      · obtain ⟨reason, state', hfirst, rfl⟩ := hcrash
        exact Or.inr ⟨reason, state', ⟨answer, rest, rfl, hfirst⟩, rfl⟩
    · rintro (⟨value, state', _, back, ⟨answer, front, rfl, hfirst⟩, hnext, rfl⟩ |
        ⟨reason, state', ⟨answer, rest, rfl, hfirst⟩, rfl⟩)
      · exact ⟨answer, front ++ back, rfl, Or.inl ⟨value, state', front, back, hfirst, hnext, rfl⟩⟩
      · exact ⟨answer, rest, rfl, Or.inr ⟨reason, state', hfirst, rfl⟩⟩
  | fault reason state =>
    simp only [bind, path_fault]
    constructor
    · rintro ⟨rfl, rfl⟩
      exact Or.inr ⟨reason, state, ⟨rfl, rfl⟩, rfl⟩
    · rintro (⟨value, state', front, rest, ⟨_, heq⟩, _, _⟩ | ⟨reason', state', ⟨rfl, heq⟩, rfl⟩)
      · cases heq
      · cases heq
        exact ⟨rfl, rfl⟩

end Resumption

/-- A program is a resumption that is still waiting for its initial local state. -/
structure Program (Op : Type) (Ans : Op → Type) (Fault σ α : Type) where
  run : σ → Resumption Op Ans Fault σ α

namespace Program

instance : Monad (Program Op Ans Fault σ) where
  pure value := ⟨fun state ↦ .ret value state⟩
  bind first next := ⟨fun state ↦ (first.run state).bind fun value ↦ (next value).run⟩

/-- Ask the environment. -/
def ask (op : Op) : Program Op Ans Fault σ (Ans op) :=
  ⟨fun state ↦ .ask op state fun answer current ↦ .ret answer current⟩

/-- Stop without returning. -/
def crash (reason : Fault) : Program Op Ans Fault σ α := ⟨fun state ↦ .fault reason state⟩

/-- Read the local state. -/
def get : Program Op Ans Fault σ σ := ⟨fun state ↦ .ret state state⟩

/-- Change the local state. -/
def modify (update : σ → σ) : Program Op Ans Fault σ Unit := ⟨fun state ↦ .ret () (update state)⟩

@[simp]
theorem pure_run (value : α) (state : σ) :
    (pure value : Program Op Ans Fault σ α).run state = .ret value state := rfl

theorem bind_run (first : Program Op Ans Fault σ α) (next : α → Program Op Ans Fault σ β)
    (state : σ) : (first >>= next).run state = (first.run state).bind fun value ↦
      (next value).run := rfl

/-- Run the first part of a sequence when it returns at once. -/
theorem bind_run_of_ret {first : Program Op Ans Fault σ α} {state state' : σ} {value : α}
    (h : first.run state = .ret value state') (next : α → Program Op Ans Fault σ β) :
    (first >>= next).run state = (next value).run state' := by
  rw [bind_run, h, Resumption.bind_ret]

@[simp]
theorem ask_run (op : Op) (state : σ) :
    (ask op : Program Op Ans Fault σ (Ans op)).run state =
      .ask op state fun answer current ↦ .ret answer current := rfl

@[simp]
theorem crash_run (reason : Fault) (state : σ) :
    (crash reason : Program Op Ans Fault σ α).run state = .fault reason state := rfl

@[simp]
theorem get_run (state : σ) : (get : Program Op Ans Fault σ σ).run state = .ret state state := rfl

@[simp]
theorem modify_run (update : σ → σ) (state : σ) :
    (modify update : Program Op Ans Fault σ Unit).run state = .ret () (update state) := rfl

@[simp]
theorem get_bind (next : σ → Program Op Ans Fault σ β) (state : σ) :
    ((get : Program Op Ans Fault σ σ) >>= next).run state = (next state).run state := rfl

@[simp]
theorem modify_bind (update : σ → σ) (next : Unit → Program Op Ans Fault σ β) (state : σ) :
    ((modify update : Program Op Ans Fault σ Unit) >>= next).run state =
      (next ()).run (update state) := rfl

@[simp]
theorem pure_bind' (value : α) (next : α → Program Op Ans Fault σ β) (state : σ) :
    ((pure value : Program Op Ans Fault σ α) >>= next).run state = (next value).run state := rfl

@[simp]
theorem crash_bind (reason : Fault) (next : α → Program Op Ans Fault σ β) (state : σ) :
    ((crash reason : Program Op Ans Fault σ α) >>= next).run state = .fault reason state := rfl

@[simp]
theorem ask_bind (op : Op) (next : Ans op → Program Op Ans Fault σ β) (state : σ) :
    ((ask op : Program Op Ans Fault σ (Ans op)) >>= next).run state =
      .ask op state fun answer current ↦ (next answer).run current := rfl

/-- The runs of a sequence. -/
theorem path_bind {first : Program Op Ans Fault σ α} {next : α → Program Op Ans Fault σ β}
    {state : σ} {trace : List (Event Ans)} {ending : Ending Fault σ β} :
    ((first >>= next).run state).Path trace ending ↔
      (∃ middle state₁ front rest, (first.run state).Path front (.done middle state₁) ∧
        ((next middle).run state₁).Path rest ending ∧ trace = front ++ rest) ∨
      (∃ reason state₁, (first.run state).Path trace (.crashed reason state₁) ∧
        ending = .crashed reason state₁) :=
  Resumption.path_bind _ _ _ _

/-- A returning run of a sequence returns from both of its parts. -/
theorem path_bind_done {first : Program Op Ans Fault σ α} {next : α → Program Op Ans Fault σ β}
    {state state' : σ} {trace : List (Event Ans)} {value : β} :
    ((first >>= next).run state).Path trace (.done value state') ↔
      ∃ middle state₁ front rest, (first.run state).Path front (.done middle state₁) ∧
        ((next middle).run state₁).Path rest (.done value state') ∧ trace = front ++ rest := by
  rw [path_bind]
  constructor
  · rintro (h | ⟨_, _, _, hending⟩)
    · exact h
    · cases hending
  · exact Or.inl

/-! ## Rules about all runs -/

/-- Every returning run of the program relates its initial state to its result and final state. -/
def Ensures (program : Program Op Ans Fault σ α) (post : σ → α → σ → Prop) : Prop :=
  ∀ state trace value state', (program.run state).Path trace (.done value state') →
    post state value state'

/-- Every returning run of the program moves its state along the relation. -/
def Respects (program : Program Op Ans Fault σ α) (relation : σ → σ → Prop) : Prop :=
  program.Ensures fun state _ state' ↦ relation state state'

theorem Ensures.mono {program : Program Op Ans Fault σ α} {post post' : σ → α → σ → Prop}
    (h : program.Ensures post) (himp : ∀ state value state', post state value state' →
      post' state value state') : program.Ensures post' :=
  fun state trace value state' hpath ↦ himp state value state' (h state trace value state' hpath)

theorem Ensures.bind {first : Program Op Ans Fault σ α} {next : α → Program Op Ans Fault σ β}
    {mid : σ → α → σ → Prop} {post : σ → β → σ → Prop} (hfirst : first.Ensures mid)
    (hnext : ∀ middle, (next middle).Ensures fun state₁ value state' ↦
      ∀ state, mid state middle state₁ → post state value state') :
    (first >>= next).Ensures post := by
  intro state trace value state' hpath
  obtain ⟨middle, state₁, front, rest, hfront, hrest, _⟩ := path_bind_done.mp hpath
  exact hnext middle state₁ rest value state' hrest state (hfirst state front middle state₁ hfront)

section Relation

variable {relation : σ → σ → Prop}

theorem Respects.pure [Std.Refl relation] (value : α) :
    (Pure.pure value : Program Op Ans Fault σ α).Respects relation := by
  rintro state trace value' state' ⟨_, heq⟩
  cases heq
  exact Std.Refl.refl state

theorem Respects.ask [Std.Refl relation] (op : Op) :
    (Program.ask op : Program Op Ans Fault σ (Ans op)).Respects relation := by
  rintro state trace value' state' ⟨answer, rest, _, _, heq⟩
  cases heq
  exact Std.Refl.refl state

theorem Respects.get [Std.Refl relation] :
    (Program.get : Program Op Ans Fault σ σ).Respects relation := by
  rintro state trace value' state' ⟨_, heq⟩
  cases heq
  exact Std.Refl.refl _

theorem Respects.crash (reason : Fault) :
    (Program.crash reason : Program Op Ans Fault σ α).Respects relation := by
  rintro state trace value' state' ⟨_, heq⟩
  cases heq

theorem Respects.modify {update : σ → σ} (h : ∀ state, relation state (update state)) :
    (Program.modify update : Program Op Ans Fault σ Unit).Respects relation := by
  rintro state trace value' state' ⟨_, heq⟩
  cases heq
  exact h state

/-- A transitive relation is respected by a sequence as soon as both parts respect it. -/
theorem Respects.bind [IsTrans σ relation] {first : Program Op Ans Fault σ α}
    {next : α → Program Op Ans Fault σ β} (hfirst : first.Respects relation)
    (hnext : ∀ middle, (next middle).Respects relation) : (first >>= next).Respects relation :=
  Ensures.bind hfirst fun middle state₁ trace value state' hpath state hmid ↦
    IsTrans.trans state state₁ state' hmid (hnext middle state₁ trace value state' hpath)

theorem Respects.ite {condition : Prop} [Decidable condition]
    {yes no : Program Op Ans Fault σ α} (hyes : yes.Respects relation)
    (hno : no.Respects relation) : (if condition then yes else no).Respects relation := by
  by_cases h : condition
  · simpa only [if_pos h] using hyes
  · simpa only [if_neg h] using hno

end Relation

/-- Every complete run from a state with the precondition returns, with the postcondition. -/
def Achieves (program : Program Op Ans Fault σ α) (pre : σ → Prop) (post : σ → α → σ → Prop) :
    Prop :=
  ∀ state trace ending, pre state → (program.run state).Path trace ending →
    ∃ value state', ending = .done value state' ∧ post state value state'

section Achieves

variable {pre : σ → Prop}

/-- A program that returns at once. -/
theorem Achieves.of_run {program : Program Op Ans Fault σ α} {post : σ → α → σ → Prop}
    (h : ∀ state, pre state → ∃ value state', program.run state = .ret value state' ∧
      post state value state') : program.Achieves pre post := by
  intro state trace ending hpre hpath
  obtain ⟨value, state', hrun, hpost⟩ := h state hpre
  rw [hrun] at hpath
  exact ⟨value, state', hpath.2, hpost⟩

theorem Achieves.ask {op : Op} {post : σ → Ans op → σ → Prop}
    (h : ∀ state answer, pre state → post state answer state) :
    (Program.ask op : Program Op Ans Fault σ (Ans op)).Achieves pre post := by
  rintro state trace ending hpre ⟨answer, rest, -, -, heq⟩
  exact ⟨answer, state, heq, h state answer hpre⟩

/-- The rule for sequences. -/
theorem Achieves.bind {first : Program Op Ans Fault σ α} {next : α → Program Op Ans Fault σ β}
    {mid : σ → α → σ → Prop} {pre' : σ → Prop} {post' post : σ → β → σ → Prop}
    (hfirst : first.Achieves pre mid) (hnext : ∀ middle, (next middle).Achieves pre' post')
    (hpre : ∀ state middle state₁, pre state → mid state middle state₁ → pre' state₁)
    (hpost : ∀ state middle state₁ value state', pre state → mid state middle state₁ →
      post' state₁ value state' → post state value state') : (first >>= next).Achieves pre
        post := by
  intro state trace ending hstate hpath
  rcases path_bind.mp hpath with ⟨middle, state₁, front, rest, hfront, hrest, -⟩ |
    ⟨reason, state₁, hcrash, -⟩
  · obtain ⟨_, _, heq, hmid⟩ := hfirst _ _ _ hstate hfront
    cases heq
    obtain ⟨value, state', rfl, hlast⟩ :=
      hnext middle _ _ _ (hpre _ _ _ hstate hmid) hrest
    exact ⟨value, state', rfl, hpost _ _ _ _ _ hstate hmid hlast⟩
  · obtain ⟨_, _, heq, -⟩ := hfirst _ _ _ hstate hcrash
    cases heq

theorem Achieves.ite {condition : Prop} [Decidable condition] {yes no : Program Op Ans Fault σ α}
    {post : σ → α → σ → Prop} (hyes : yes.Achieves pre post) (hno : no.Achieves pre post) :
    (if condition then yes else no).Achieves pre post := by
  by_cases h : condition
  · simpa only [if_pos h] using hyes
  · simpa only [if_neg h] using hno

end Achieves

/-- Every event of every complete run is of an allowed kind. -/
def Emits (program : Program Op Ans Fault σ α) (allowed : Event Ans → Prop) : Prop :=
  ∀ state trace ending, (program.run state).Path trace ending → ∀ event ∈ trace, allowed event

section Events

variable {allowed : Event Ans → Prop}

theorem Emits.pure (value : α) : (Pure.pure value : Program Op Ans Fault σ α).Emits allowed := by
  rintro state trace ending ⟨rfl, _⟩ event hmem
  cases hmem

theorem Emits.crash (reason : Fault) :
    (Program.crash reason : Program Op Ans Fault σ α).Emits allowed := by
  rintro state trace ending ⟨rfl, _⟩ event hmem
  cases hmem

theorem Emits.get : (Program.get : Program Op Ans Fault σ σ).Emits allowed := by
  rintro state trace ending ⟨rfl, _⟩ event hmem
  cases hmem

theorem Emits.modify (update : σ → σ) :
    (Program.modify update : Program Op Ans Fault σ Unit).Emits allowed := by
  rintro state trace ending ⟨rfl, _⟩ event hmem
  cases hmem

theorem Emits.ask {op : Op} (h : ∀ answer, allowed ⟨op, answer⟩) :
    (Program.ask op : Program Op Ans Fault σ (Ans op)).Emits allowed := by
  rintro state trace ending ⟨answer, rest, rfl, rfl, _⟩ event hmem
  rw [List.mem_singleton.mp hmem]
  exact h answer

theorem Emits.bind {first : Program Op Ans Fault σ α} {next : α → Program Op Ans Fault σ β}
    (hfirst : first.Emits allowed) (hnext : ∀ middle, (next middle).Emits allowed) :
    (first >>= next).Emits allowed := by
  intro state trace ending hpath event hmem
  rcases path_bind.mp hpath with
    ⟨middle, state₁, front, rest, hfront, hrest, rfl⟩ | ⟨reason, state₁, hcrash, _⟩
  · rcases List.mem_append.mp hmem with hmem | hmem
    · exact hfirst state front _ hfront event hmem
    · exact hnext middle state₁ rest ending hrest event hmem
  · exact hfirst state trace _ hcrash event hmem

/-- A program that may emit nothing asks no questions. -/
theorem Emits.trace_eq_nil {program : Program Op Ans Fault σ α} (h : program.Emits fun _ ↦ False)
    {state : σ} {trace : List (Event Ans)} {ending : Ending Fault σ α}
    (hpath : (program.run state).Path trace ending) : trace = [] :=
  List.eq_nil_iff_forall_not_mem.mpr fun event hmem ↦ h state trace ending hpath event hmem

theorem Emits.ite {condition : Prop} [Decidable condition]
    {yes no : Program Op Ans Fault σ α} (hyes : yes.Emits allowed) (hno : no.Emits allowed) :
    (if condition then yes else no).Emits allowed := by
  by_cases h : condition
  · simpa only [if_pos h] using hyes
  · simpa only [if_neg h] using hno

end Events

/-- Every complete run, crashed ones included, leaves a part of the state as it was. -/
def Fixes {τ : Type} (program : Program Op Ans Fault σ α) (part : σ → τ) : Prop :=
  ∀ state trace ending, (program.run state).Path trace ending → part ending.state = part state

section Fixes

variable {τ : Type} {part : σ → τ}

theorem Fixes.pure (value : α) : (Pure.pure value : Program Op Ans Fault σ α).Fixes part := by
  rintro state trace ending ⟨-, rfl⟩
  rfl

theorem Fixes.crash (reason : Fault) :
    (Program.crash reason : Program Op Ans Fault σ α).Fixes part := by
  rintro state trace ending ⟨-, rfl⟩
  rfl

theorem Fixes.get : (Program.get : Program Op Ans Fault σ σ).Fixes part := by
  rintro state trace ending ⟨-, rfl⟩
  rfl

theorem Fixes.modify {update : σ → σ} (h : ∀ state, part (update state) = part state) :
    (Program.modify update : Program Op Ans Fault σ Unit).Fixes part := by
  rintro state trace ending ⟨-, rfl⟩
  exact h state

theorem Fixes.ask (op : Op) : (Program.ask op : Program Op Ans Fault σ (Ans op)).Fixes part := by
  rintro state trace ending ⟨answer, rest, -, -, rfl⟩
  rfl

theorem Fixes.bind {first : Program Op Ans Fault σ α} {next : α → Program Op Ans Fault σ β}
    (hfirst : first.Fixes part) (hnext : ∀ middle, (next middle).Fixes part) :
    (first >>= next).Fixes part := by
  intro state trace ending hpath
  rcases path_bind.mp hpath with ⟨middle, state₁, front, rest, hfront, hrest, -⟩ |
    ⟨reason, state₁, hcrash, rfl⟩
  · exact (hnext middle state₁ rest ending hrest).trans (hfirst state front _ hfront)
  · exact hfirst state trace _ hcrash

theorem Fixes.ite {condition : Prop} [Decidable condition] {yes no : Program Op Ans Fault σ α}
    (hyes : yes.Fixes part) (hno : no.Fixes part) :
    (if condition then yes else no).Fixes part := by
  by_cases h : condition
  · simpa only [if_pos h] using hyes
  · simpa only [if_neg h] using hno

end Fixes

/-- A run returns a value with the postcondition if all its events are of an assumed kind. -/
def Yields (program : Program Op Ans Fault σ α) (assumed : Event Ans → Prop) (post : α → Prop) :
    Prop :=
  ∀ state trace value state', (∀ event ∈ trace, assumed event) →
    (program.run state).Path trace (.done value state') → post value

section Yields

variable {assumed : Event Ans → Prop} {post : α → Prop}

theorem Yields.pure {value : α} (h : post value) :
    (Pure.pure value : Program Op Ans Fault σ α).Yields assumed post := by
  rintro state trace value' state' - ⟨-, heq⟩
  cases heq
  exact h

theorem Yields.crash (reason : Fault) :
    (Program.crash reason : Program Op Ans Fault σ α).Yields assumed post := by
  rintro state trace value state' - ⟨-, heq⟩
  cases heq

theorem Yields.ask {op : Op} {post : Ans op → Prop}
    (h : ∀ answer, assumed ⟨op, answer⟩ → post answer) :
    (Program.ask op : Program Op Ans Fault σ (Ans op)).Yields assumed post := by
  rintro state trace value state' hassumed ⟨answer, rest, rfl, -, heq⟩
  cases heq
  exact h _ (hassumed _ List.mem_cons_self)

/-- A postcondition that always holds. -/
theorem Yields.of_forall {program : Program Op Ans Fault σ α} (h : ∀ value, post value) :
    program.Yields assumed post :=
  fun _ _ value _ _ _ ↦ h value

theorem Yields.bind {first : Program Op Ans Fault σ α} {next : α → Program Op Ans Fault σ β}
    {mid : α → Prop} {post : β → Prop} (hfirst : first.Yields assumed mid)
    (hnext : ∀ middle, mid middle → (next middle).Yields assumed post) :
    (first >>= next).Yields assumed post := by
  intro state trace value state' hassumed hpath
  obtain ⟨middle, state₁, front, rest, hfront, hrest, rfl⟩ := path_bind_done.mp hpath
  rw [List.forall_mem_append] at hassumed
  exact hnext middle (hfirst state front middle state₁ hassumed.1 hfront) state₁ rest value state'
    hassumed.2 hrest

/-- A first part whose result does not matter. -/
theorem Yields.after {first : Program Op Ans Fault σ α} {next : α → Program Op Ans Fault σ β}
    {post : β → Prop} (hnext : ∀ middle, (next middle).Yields assumed post) :
    (first >>= next).Yields assumed post :=
  have hfirst : first.Yields assumed fun _ ↦ True := .of_forall fun _ ↦ trivial
  hfirst.bind fun middle _ ↦ hnext middle

theorem Yields.ite {condition : Prop} [Decidable condition] {yes no : Program Op Ans Fault σ α}
    (hyes : yes.Yields assumed post) (hno : no.Yields assumed post) :
    (if condition then yes else no).Yields assumed post := by
  by_cases h : condition
  · simpa only [if_pos h] using hyes
  · simpa only [if_neg h] using hno

end Yields

end Program

end NfsFuse.Lib
