import NfsFuse.Lib.Resumption

/-!
# Servers

A server is a labelled transition relation whose labels are the events of a resumption: it relates
its state before and after it has given an answer.  It may refuse, lose or reorder whatever its
relation allows, so a statement about every run of a program with a server covers all of that.
-/

namespace NfsFuse.Lib

variable {Op : Type} {Ans : Op → Type} {S : Type}

/-- How the state of a server may change while it answers a question. -/
def Server (Ans : Op → Type) (S : Type) := S → Event Ans → S → Prop

namespace Server

/-- The server gives the answers of a trace, one after the other. -/
def Gives (server : Server Ans S) : S → List (Event Ans) → S → Prop
  | state, [], state' => state' = state
  | state, event :: rest, state' =>
    ∃ middle, server state event middle ∧ server.Gives middle rest state'

variable {server : Server Ans S} {state state' : S}

@[simp]
theorem gives_nil : server.Gives state [] state' ↔ state' = state := Iff.rfl

@[simp]
theorem gives_cons {event : Event Ans} {rest : List (Event Ans)} :
    server.Gives state (event :: rest) state' ↔
      ∃ middle, server state event middle ∧ server.Gives middle rest state' := Iff.rfl

theorem gives_append {front rest : List (Event Ans)} :
    server.Gives state (front ++ rest) state' ↔
      ∃ middle, server.Gives state front middle ∧ server.Gives middle rest state' := by
  induction front generalizing state with
  | nil => simp
  | cons event front ih =>
    simp only [List.cons_append, gives_cons, ih]
    constructor
    · rintro ⟨first, hfirst, middle, hmiddle, hrest⟩
      exact ⟨middle, ⟨first, hfirst, hmiddle⟩, hrest⟩
    · rintro ⟨middle, ⟨first, hfirst, hmiddle⟩, hrest⟩
      exact ⟨first, hfirst, middle, hmiddle, hrest⟩

/-- A relation that every allowed step keeps is kept by every trace of allowed events. -/
theorem Gives.respects {relation : S → S → Prop} [Std.Refl relation] [IsTrans S relation]
    {allowed : Event Ans → Prop}
    (hstep : ∀ state event state', allowed event → server state event state' →
      relation state state')
    {trace : List (Event Ans)} (hallowed : ∀ event ∈ trace, allowed event)
    (h : server.Gives state trace state') : relation state state' := by
  induction trace generalizing state with
  | nil =>
    rw [gives_nil.mp h]
    exact Std.Refl.refl state
  | cons event rest ih =>
    obtain ⟨middle, hfirst, hrest⟩ := h
    rw [List.forall_mem_cons] at hallowed
    exact IsTrans.trans _ _ _ (hstep _ _ _ hallowed.1 hfirst) (ih hallowed.2 hrest)

end Server

end NfsFuse.Lib
