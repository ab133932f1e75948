import NfsFuse.Lib.Server

/-!
# Visible events

Often only some of the events of a run matter: those that change a server, say, among all the
questions a program asks.  `Shows` says what these visible events are in every complete run of a
program from a given state.  A server that the other events leave alone goes through the visible
ones only.
-/

namespace NfsFuse.Lib

variable {Op : Type} {Ans : Op → Type} {Fault σ α β S : Type} {visible : Event Ans → Bool}

namespace Program

/-- No event of any run is visible. -/
def Hides (visible : Event Ans → Bool) (program : Program Op Ans Fault σ α) : Prop :=
  program.Emits fun event ↦ visible event = false

/-- In every complete run from the state, the visible events are as described. -/
def Shows (visible : Event Ans → Bool) (program : Program Op Ans Fault σ α) (state : σ)
    (described : List (Event Ans) → Prop) : Prop :=
  ∀ trace ending, (program.run state).Path trace ending → described (trace.filter visible)

section Shows

variable {program first : Program Op Ans Fault σ α} {next : α → Program Op Ans Fault σ β}
  {state : σ} {described : List (Event Ans) → Prop}

theorem Hides.filter_eq_nil (h : program.Hides visible) {trace : List (Event Ans)}
    {ending : Ending Fault σ α} (hpath : (program.run state).Path trace ending) :
    trace.filter visible = [] := by
  apply List.filter_eq_nil_iff.mpr
  intro event hmem
  rw [h state trace ending hpath event hmem]
  exact Bool.false_ne_true

theorem Hides.shows (h : program.Hides visible) (hnil : described []) :
    program.Shows visible state described := by
  intro trace ending hpath
  rw [h.filter_eq_nil hpath]
  exact hnil

theorem Shows.pure (value : α) (hnil : described []) :
    (Pure.pure value : Program Op Ans Fault σ α).Shows visible state described :=
  Hides.shows (.pure value) hnil

theorem Shows.mono {described' : List (Event Ans) → Prop}
    (h : program.Shows visible state described)
    (himp : ∀ events, described events → described' events) :
    program.Shows visible state described' :=
  fun trace ending hpath ↦ himp _ (h trace ending hpath)

/-- What comes after the visible part. -/
theorem Shows.bind_hides (hfirst : first.Shows visible state described)
    (hnext : ∀ value, (next value).Hides visible) :
    (first >>= next).Shows visible state described := by
  intro trace ending hpath
  rcases path_bind.mp hpath with ⟨value, state', front, rest, hfront, hrest, rfl⟩ |
    ⟨reason, state', hcrash, -⟩
  · rw [List.filter_append, (hnext value).filter_eq_nil hrest, List.append_nil]
    exact hfirst front _ hfront
  · exact hfirst trace _ hcrash

/-- What comes before the visible part. -/
theorem Hides.bind_shows (hfirst : first.Hides visible) (hnil : described [])
    (hnext : ∀ trace value state', (first.run state).Path trace (.done value state') →
      (next value).Shows visible state' described) :
    (first >>= next).Shows visible state described := by
  intro trace ending hpath
  rcases path_bind.mp hpath with ⟨value, state', front, rest, hfront, hrest, rfl⟩ |
    ⟨reason, state', hcrash, -⟩
  · rw [List.filter_append, hfirst.filter_eq_nil hfront, List.nil_append]
    exact hnext front value state' hfront rest ending hrest
  · rw [hfirst.filter_eq_nil hcrash]
    exact hnil

/-- A visible question. -/
theorem Shows.ask_bind {op : Op} {next : Ans op → Program Op Ans Fault σ β}
    (hvisible : ∀ answer, visible ⟨op, answer⟩ = true)
    (hnext : ∀ answer, (next answer).Shows visible state fun rest ↦
      described (⟨op, answer⟩ :: rest)) :
    ((Program.ask op : Program Op Ans Fault σ (Ans op)) >>= next).Shows visible state
      described := by
  rintro trace ending ⟨answer, rest, rfl, hrest⟩
  rw [List.filter_cons_of_pos (hvisible answer)]
  exact hnext answer rest ending hrest

theorem Shows.ite {condition : Prop} [Decidable condition] {yes no : Program Op Ans Fault σ α}
    (hyes : condition → yes.Shows visible state described)
    (hno : ¬ condition → no.Shows visible state described) :
    (if condition then yes else no).Shows visible state described := by
  by_cases h : condition
  · rw [if_pos h]
    exact hyes h
  · rw [if_neg h]
    exact hno h

end Shows

end Program

/-- Fewer events can be taken from the visible ones. -/
theorem filter_filter_of_imp {seen : Event Ans → Bool}
    (h : ∀ event, seen event = true → visible event = true) (trace : List (Event Ans)) :
    (trace.filter visible).filter seen = trace.filter seen := by
  rw [List.filter_filter]
  apply List.filter_congr
  intro event _
  cases hseen : seen event with
  | true => rw [h event hseen, Bool.true_and]
  | false => rfl

namespace Server

/-- A server that only visible events change. -/
def Ignores (server : Server Ans S) (visible : Event Ans → Bool) : Prop :=
  ∀ before event after, visible event = false → server before event after → after = before

/-- Such a server goes through the visible events. -/
theorem Gives.filter {server : Server Ans S} (h : server.Ignores visible)
    {trace : List (Event Ans)} {before after : S} (hgives : server.Gives before trace after) :
    server.Gives before (trace.filter visible) after := by
  induction trace generalizing before with
  | nil => exact hgives
  | cons event rest ih =>
    obtain ⟨middle, hfirst, hrest⟩ := hgives
    cases hvisible : visible event with
    | true =>
      rw [List.filter_cons_of_pos hvisible]
      exact ⟨middle, hfirst, ih hrest⟩
    | false =>
      obtain rfl := h before event middle hvisible hfirst
      rw [List.filter_cons_of_neg (by simp [hvisible])]
      exact ih hrest

end Server

end NfsFuse.Lib
