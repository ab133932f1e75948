import NfsFuse.Lib.Resumption

/-!
# Footprints

What a program is put together from: the faults it may end with, the questions it may ask, and the
changes of the state it may make, each under a label.  One derivation that a program stays within a
footprint serves every frame property, since each of them need only be checked on the labels.
-/

namespace NfsFuse.Lib

/-- The parts a program may be made of. -/
structure Footprint (Op Fault Label : Type) where
  faults : Fault → Prop
  ops : Op → Prop
  labels : Label → Prop

variable {Op : Type} {Ans : Op → Type} {Fault σ Label : Type}

namespace Program

/-- The program is built from the parts of a footprint. -/
inductive Within (effect : Label → σ → σ) (footprint : Footprint Op Fault Label) :
    {α : Type} → Program Op Ans Fault σ α → Prop
  | pure {α : Type} (value : α) : Within effect footprint (Pure.pure value)
  | get : Within effect footprint Program.get
  | crash {α : Type} {reason : Fault} (h : footprint.faults reason) :
      Within effect footprint (Program.crash reason : Program Op Ans Fault σ α)
  | ask {op : Op} (h : footprint.ops op) : Within effect footprint (Program.ask op)
  | modify {label : Label} (h : footprint.labels label) :
      Within effect footprint (Program.modify (effect label))
  | bind {α β : Type} {first : Program Op Ans Fault σ α} {next : α → Program Op Ans Fault σ β}
      (hfirst : Within effect footprint first)
      (hnext : ∀ middle, Within effect footprint (next middle)) :
      Within effect footprint (first >>= next)

namespace Within

variable {α : Type} {effect : Label → σ → σ} {footprint : Footprint Op Fault Label}
  {program : Program Op Ans Fault σ α}

theorem ite {condition : Prop} [Decidable condition] {yes no : Program Op Ans Fault σ α}
    (hyes : yes.Within effect footprint) (hno : no.Within effect footprint) :
    (if condition then yes else no).Within effect footprint := by
  by_cases h : condition
  · simpa only [if_pos h] using hyes
  · simpa only [if_neg h] using hno

/-- Only questions of the footprint are asked. -/
theorem emits (h : program.Within effect footprint) {allowed : Event Ans → Prop}
    (hops : ∀ op, footprint.ops op → ∀ answer, allowed ⟨op, answer⟩) : program.Emits allowed := by
  induction h with
  | pure value => exact .pure value
  | get => exact .get
  | crash _ => exact .crash _
  | ask h => exact .ask (hops _ h)
  | modify _ => exact .modify _
  | bind _ _ ihfirst ihnext => exact .bind ihfirst ihnext

/-- What no change of the footprint touches stays as it was. -/
theorem fixes (h : program.Within effect footprint) {τ : Type} {part : σ → τ}
    (hlabels : ∀ label, footprint.labels label → ∀ state, part (effect label state) = part state) :
    program.Fixes part := by
  induction h with
  | pure value => exact .pure value
  | get => exact .get
  | crash _ => exact .crash _
  | ask _ => exact .ask _
  | modify h => exact .modify (hlabels _ h)
  | bind _ _ ihfirst ihnext => exact .bind ihfirst ihnext

/-- A run that crashes does so with a fault of the footprint. -/
theorem faults (h : program.Within effect footprint) {state state' : σ} {trace : List (Event Ans)}
    {reason : Fault} (hpath : (program.run state).Path trace (.crashed reason state')) :
    footprint.faults reason := by
  induction h generalizing state trace with
  | pure value => cases hpath.2
  | get => cases hpath.2
  | crash h =>
    cases hpath.2
    exact h
  | ask _ =>
    obtain ⟨answer, rest, -, -, heq⟩ := hpath
    cases heq
  | modify _ => cases hpath.2
  | bind _ _ ihfirst ihnext =>
    rcases path_bind.mp hpath with ⟨middle, state₁, front, rest, -, hrest, -⟩ |
      ⟨reason₁, state₁, hcrash, heq⟩
    · exact ihnext middle hrest
    · cases heq
      exact ihfirst hcrash

/-- A preorder that every change of the footprint respects. -/
theorem respects (h : program.Within effect footprint) {relation : σ → σ → Prop} [Std.Refl relation]
    [IsTrans σ relation]
    (hlabels : ∀ label, footprint.labels label → ∀ state, relation state (effect label state)) :
    program.Respects relation := by
  induction h with
  | pure value => exact .pure value
  | get => exact .get
  | crash _ => exact .crash _
  | ask _ => exact .ask _
  | modify h => exact .modify (hlabels _ h)
  | bind _ _ ihfirst ihnext => exact .bind ihfirst ihnext

end Within

end Program

end NfsFuse.Lib
