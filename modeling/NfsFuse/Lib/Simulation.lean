import NfsFuse.Lib.Interleaving

/-!
# Programs over two representations of a state

Two programs agree if they ask the same questions and return the same values or stop for the same
reason, as long as their states are related whenever they are started or resumed.  Agreement goes
through sequencing, and two interfaces whose programs agree call by call cannot be told apart by any
sequence of calls.

A transition relation refines another one if its configurations and labels can be viewed as those of
the other such that every step is one there; then so is every run.
-/

namespace NfsFuse.Lib

variable {Op : Type} {Ans : Op → Type} {Fault σ τ α β : Type}

/-- The same questions and the same ending; `related` holds at every question, `post` at the end. -/
inductive Resumption.Agrees (related : σ → τ → Prop) (post : α → σ → τ → Prop) :
    Resumption Op Ans Fault σ α → Resumption Op Ans Fault τ α → Prop where
  | ret {value : α} {left : σ} {right : τ} (h : post value left right) :
      Agrees related post (.ret value left) (.ret value right)
  | ask {op : Op} {left : σ} {right : τ} {resume : Ans op → σ → Resumption Op Ans Fault σ α}
      {resume' : Ans op → τ → Resumption Op Ans Fault τ α} (h : related left right)
      (hresume : ∀ answer current current', related current current' →
        Agrees related post (resume answer current) (resume' answer current')) :
      Agrees related post (.ask op left resume) (.ask op right resume')
  | fault {reason : Fault} {left : σ} {right : τ} :
      Agrees related post (.fault reason left) (.fault reason right)

namespace Resumption.Agrees

variable {related : σ → τ → Prop} {post : α → σ → τ → Prop} {post' : β → σ → τ → Prop}
  {left : Resumption Op Ans Fault σ α} {right : Resumption Op Ans Fault τ α}

theorem bind {next : α → σ → Resumption Op Ans Fault σ β}
    {next' : α → τ → Resumption Op Ans Fault τ β} (h : Agrees related post left right)
    (hnext : ∀ value current current', post value current current' →
      Agrees related post' (next value current) (next' value current')) :
    Agrees related post' (left.bind next) (right.bind next') := by
  induction h with
  | ret hpost => exact hnext _ _ _ hpost
  | ask hrelated _ ih => exact .ask hrelated ih
  | fault => exact .fault

theorem mono {weaker : α → σ → τ → Prop} (h : Agrees related post left right)
    (himp : ∀ value current current', post value current current' →
      weaker value current current') : Agrees related weaker left right := by
  induction h with
  | ret hpost => exact .ret (himp _ _ _ hpost)
  | ask hrelated _ ih => exact .ask hrelated ih
  | fault => exact .fault

theorem symm (h : Agrees related post left right) :
    Agrees (fun current current' ↦ related current' current)
      (fun value current current' ↦ post value current' current) right left := by
  induction h with
  | ret hpost => exact .ret hpost
  | ask hrelated _ ih => exact .ask hrelated fun answer _ _ h ↦ ih answer _ _ h
  | fault => exact .fault

/-- A returning run on one side is one on the other side. -/
theorem path_done (h : Agrees related post left right) {trace : List (Event Ans)} {value : α}
    {state : σ} (hpath : left.Path trace (.done value state)) :
    ∃ state', right.Path trace (.done value state') ∧ post value state state' := by
  induction h generalizing trace with
  | ret hpost =>
    obtain ⟨rfl, hending⟩ := hpath
    cases hending
    exact ⟨_, ⟨rfl, rfl⟩, hpost⟩
  | ask hrelated _ ih =>
    obtain ⟨answer, rest, rfl, hrest⟩ := hpath
    obtain ⟨state', hpath', hpost⟩ := ih answer _ _ hrelated hrest
    exact ⟨state', ⟨answer, rest, rfl, hpath'⟩, hpost⟩
  | fault =>
    obtain ⟨_, hending⟩ := hpath
    cases hending

/-- So is one that stops. -/
theorem path_crashed (h : Agrees related post left right) {trace : List (Event Ans)}
    {reason : Fault} {state : σ} (hpath : left.Path trace (.crashed reason state)) :
    ∃ state', right.Path trace (.crashed reason state') := by
  induction h generalizing trace with
  | ret hpost =>
    obtain ⟨_, hending⟩ := hpath
    cases hending
  | ask hrelated _ ih =>
    obtain ⟨answer, rest, rfl, hrest⟩ := hpath
    obtain ⟨state', hpath'⟩ := ih answer _ _ hrelated hrest
    exact ⟨state', answer, rest, rfl, hpath'⟩
  | fault =>
    obtain ⟨rfl, hending⟩ := hpath
    cases hending
    exact ⟨_, rfl, rfl⟩

end Resumption.Agrees

/-- The programs agree from related states, and end in related states. -/
def Program.Agrees (related : σ → τ → Prop) (left : Program Op Ans Fault σ α)
    (right : Program Op Ans Fault τ α) : Prop :=
  ∀ state state', related state state' →
    Resumption.Agrees related (fun _ ↦ related) (left.run state) (right.run state')

theorem Program.Agrees.symm {related : σ → τ → Prop} {left : Program Op Ans Fault σ α}
    {right : Program Op Ans Fault τ α} (h : Program.Agrees related left right) :
    Program.Agrees (fun state state' ↦ related state' state) right left :=
  fun state state' hrelated ↦ (h state' state hrelated).symm

/-! ## Programs about a part of the state -/

section Zoom

variable (view : τ → σ) (put : τ → σ → τ)

/-- A computation over a part of the state, carried out in the whole of it. -/
def Resumption.zoom : Resumption Op Ans Fault σ α → τ → Resumption Op Ans Fault τ α
  | .ret value state, whole => .ret value (put whole state)
  | .ask op state resume, whole =>
    .ask op (put whole state) fun answer current ↦ (resume answer (view current)).zoom current
  | .fault reason state, whole => .fault reason (put whole state)

/-- A program over a part of the state. -/
def Program.zoom (program : Program Op Ans Fault σ α) : Program Op Ans Fault τ α :=
  ⟨fun whole ↦ (program.run (view whole)).zoom view put whole⟩

variable {view : τ → σ} {put : τ → σ → τ}

/-- What the rest of the state was does not matter for the part. -/
theorem Resumption.zoom_put
    (hput : ∀ whole part part', put (put whole part) part' = put whole part')
    (reached : Resumption Op Ans Fault σ α) (whole : τ) (part : σ) :
    reached.zoom view put (put whole part) = reached.zoom view put whole := by
  cases reached <;> simp only [Resumption.zoom, hput]

theorem Program.zoom_bind (hview : ∀ whole part, view (put whole part) = part)
    (hput : ∀ whole part part', put (put whole part) part' = put whole part')
    (first : Program Op Ans Fault σ α) (next : α → Program Op Ans Fault σ β) :
    (first >>= next).zoom view put = first.zoom view put >>= fun value ↦
      (next value).zoom view put := by
  have hbind (reached : Resumption Op Ans Fault σ α) (whole : τ) :
      (reached.bind fun value ↦ (next value).run).zoom view put whole =
        (reached.zoom view put whole).bind fun value ↦ ((next value).zoom view put).run := by
    induction reached generalizing whole with
    | ret value state =>
      change _ = ((next value).run (view (put whole state))).zoom view put (put whole state)
      rw [hview, Resumption.zoom_put hput]
      rfl
    | ask op state resume ih =>
      simp only [Resumption.bind, Resumption.zoom, ih]
    | fault reason state => rfl
  exact congrArg Program.mk (funext fun whole ↦ hbind _ whole)

end Zoom

/-! ## Sequences of calls -/

section Calls

variable {C : Type}

/-- What can be seen of a call: its name and arguments, its events, and its value or the reason why
it has stopped. -/
structure CallRecord (C : Type) {Op : Type} (Ans : Op → Type) (Fault α : Type) where
  call : C
  trace : List (Event Ans)
  result : Except Fault α

/-- One call; nothing is called after one that has stopped. -/
inductive CallStep (code : C → Program Op Ans Fault σ α) :
    Option σ → CallRecord C Ans Fault α → Option σ → Prop where
  | done {call : C} {state state' : σ} {trace : List (Event Ans)} {value : α}
      (h : ((code call).run state).Path trace (.done value state')) :
      CallStep code (some state) ⟨call, trace, .ok value⟩ (some state')
  | crashed {call : C} {state state' : σ} {trace : List (Event Ans)} {reason : Fault}
      (h : ((code call).run state).Path trace (.crashed reason state')) :
      CallStep code (some state) ⟨call, trace, .error reason⟩ none

variable {related : σ → τ → Prop} {code : C → Program Op Ans Fault σ α}
  {code' : C → Program Op Ans Fault τ α}

/-- Programs that agree call by call admit the same sequences of calls. -/
theorem exists_run_of_agrees (hagrees : ∀ call, (code call).Agrees related (code' call))
    {initial : σ} {initial' : τ} (hinitial : related initial initial')
    {records : List (CallRecord C Ans Fault α)} {last : Option σ}
    (hrun : Run (CallStep code) (some initial) records last) :
    ∃ last', Run (CallStep code') (some initial') records last' ∧
      Option.Rel related last last' := by
  induction hrun with
  | nil => exact ⟨some initial', .nil, .some hinitial⟩
  | snoc _ hstep ih =>
    obtain ⟨config', hrun', hconfig⟩ := ih
    cases hstep with
    | done hpath =>
      cases hconfig with
      | some hrelated =>
        obtain ⟨state', hpath', hpost⟩ := (hagrees _ _ _ hrelated).path_done hpath
        exact ⟨some state', hrun'.snoc (.done hpath'), .some hpost⟩
    | crashed hpath =>
      cases hconfig with
      | some hrelated =>
        obtain ⟨state', hpath'⟩ := (hagrees _ _ _ hrelated).path_crashed hpath
        exact ⟨none, hrun'.snoc (.crashed hpath'), .none⟩

end Calls

/-- A run is one of a second relation if every allowed step from a configuration with the invariant
is a step there and keeps the invariant. -/
theorem Run.refines {C L C' L' : Type} {step : C → L → C → Prop} {step' : C' → L' → C' → Prop}
    {invariant : C → Prop} {allowed : L → Prop} (view : C → C') (read : L → L')
    (hstep : ∀ config label config', invariant config → allowed label → step config label config' →
      invariant config' ∧ step' (view config) (read label) (view config'))
    {initial last : C} {labels : List L} (hinitial : invariant initial)
    (hallowed : ∀ label ∈ labels, allowed label) (hrun : Run step initial labels last) :
    invariant last ∧ Run step' (view initial) (labels.map read) (view last) := by
  induction hrun with
  | nil => exact ⟨hinitial, .nil⟩
  | snoc _ hlast ih =>
    rw [List.forall_mem_append, List.forall_mem_singleton] at hallowed
    obtain ⟨hbefore, hviewed⟩ := ih hallowed.1
    obtain ⟨hafter, hlast'⟩ := hstep _ _ _ hbefore hallowed.2 hlast
    rw [List.map_append]
    exact ⟨hafter, hviewed.snoc hlast'⟩

end NfsFuse.Lib
