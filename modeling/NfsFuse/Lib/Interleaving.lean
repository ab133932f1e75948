import Mathlib.Algebra.Ring.Nat
import Mathlib.Data.List.Forall2
import Mathlib.Data.List.Perm.Basic
import Mathlib.Logic.Function.Basic
import NfsFuse.Lib.Footprint
import NfsFuse.Lib.Server

/-!
# Interleaved programs

Any number of programs in progress at several sites.  The programs of one site share its local
state, and all of them talk to one server.  Between two questions a program runs undisturbed; while
it waits, anything may happen to the state of its site.  A question is answered in one step and the
answer consumed in another, so the server's order and the order of the answers are independent.

A discipline says what a program relies on when it is resumed and what each of its segments
guarantees.  Programs are shown to obey it one at a time, by weakest preconditions of segments;
every interleaved run is then a run of the much smaller sketch, in which a program is no more than
the question it waits for and a mark.  A program that crashes leaves the net, whose other programs
may go on.
-/

namespace NfsFuse.Lib

variable {μ R Op : Type} {Ans : Op → Type} {Fault σ α β γ S : Type}

/-- A run of a labelled transition relation. -/
inductive Run {C L : Type} (step : C → L → C → Prop) (initial : C) : List L → C → Prop where
  | nil : Run step initial [] initial
  | snoc {labels : List L} {config config' : C} {label : L} (h : Run step initial labels config)
      (hstep : step config label config') : Run step initial (labels ++ [label]) config'

/-- What every step keeps, for some reading of the labels so far, is kept by every run. -/
theorem Run.invariant {C L : Type} {step : C → L → C → Prop} {initial config : C} {labels : List L}
    {holds : List L → C → Prop} (h : Run step initial labels config) (hinitial : holds [] initial)
    (hstep : ∀ labels config label config', holds labels config → step config label config' →
      holds (labels ++ [label]) config') : holds labels config := by
  induction h with
  | nil => exact hinitial
  | snoc h hlast ih => exact hstep _ _ _ _ ih hlast

namespace Resumption

/-- The local state at the point that has been reached. -/
def state : Resumption Op Ans Fault σ α → σ
  | .ret _ state => state
  | .ask _ state _ => state
  | .fault _ state => state

/-- The question that is being asked, if any. -/
def question : Resumption Op Ans Fault σ α → Option Op
  | .ask op _ _ => some op
  | _ => none

end Resumption

/-- A program in progress: its question is on the way, the answer is on the way back, or it is
over. -/
inductive Thread (μ : Type) (Op : Type) (Ans : Op → Type) (Fault σ α : Type) where
  | waiting (site : μ) (op : Op) (resume : Ans op → σ → Resumption Op Ans Fault σ α)
  | answered (site : μ) (event : Event Ans) (resume : σ → Resumption Op Ans Fault σ α)
  | ended (site : μ)

/-- The thread of a program that has got this far. -/
def Resumption.thread (site : μ) : Resumption Op Ans Fault σ α → Thread μ Op Ans Fault σ α
  | .ask op _ resume => .waiting site op resume
  | _ => .ended site

/-- The sites, the server and the programs, in the order in which they were started. -/
structure Net (μ : Type) (Op : Type) (Ans : Op → Type) (Fault σ α S : Type) where
  sites : μ → σ
  server : S
  threads : List (Thread μ Op Ans Fault σ α)

/-- What can be seen of a step: the request, the event, the next question and what is sent out. -/
inductive Label (μ R : Type) {Op : Type} (Ans : Op → Type) (β : Type) where
  | start (site : μ) (request : R) (next : Option Op) (sent : List β)
  | execute (thread : ℕ) (event : Event Ans)
  | deliver (thread : ℕ) (event : Event Ans) (next : Option Op) (sent : List β)

/-- What a net is made of: the code of the requests, the server, and the log of what a site has
sent. -/
structure System (R : Type) (Op : Type) (Ans : Op → Type) (Fault σ α β S : Type) where
  code : R → Program Op Ans Fault σ α
  server : Server Ans S
  log : σ → List β

/-- What has been sent between two states. -/
def System.sent (system : System R Op Ans Fault σ α β S) (before after : σ) : List β :=
  (system.log after).drop (system.log before).length

theorem System.sent_eq {system : System R Op Ans Fault σ α β S} {before after : σ} {sent : List β}
    (h : system.log after = system.log before ++ sent) : system.sent before after = sent := by
  rw [System.sent, h, List.drop_left]

/-- A request starts and runs to its first question, the server answers a question, or an answer is
consumed and the program runs to its next question. -/
inductive Net.Step [DecidableEq μ] (system : System R Op Ans Fault σ α β S) :
    Net μ Op Ans Fault σ α S → Label μ R Ans β → Net μ Op Ans Fault σ α S → Prop where
  | start {net : Net μ Op Ans Fault σ α S} {reached : Resumption Op Ans Fault σ α} (site : μ)
      (request : R) (hrun : (system.code request).run (net.sites site) = reached) :
      Step system net
        (.start site request reached.question (system.sent (net.sites site) reached.state))
        ⟨Function.update net.sites site reached.state, net.server,
          net.threads ++ [reached.thread site]⟩
  | execute {net : Net μ Op Ans Fault σ α S} {site : μ} {op : Op}
      {resume : Ans op → σ → Resumption Op Ans Fault σ α} {server' : S} (thread : ℕ)
        (answer : Ans op)
      (hthread : net.threads[thread]? = some (.waiting site op resume))
      (hserver : system.server net.server ⟨op, answer⟩ server') :
      Step system net (.execute thread ⟨op, answer⟩)
        ⟨net.sites, server', net.threads.set thread (.answered site ⟨op, answer⟩ (resume answer))⟩
  | deliver {net : Net μ Op Ans Fault σ α S} {site : μ} {event : Event Ans}
      {resume : σ → Resumption Op Ans Fault σ α} {reached : Resumption Op Ans Fault σ α}
        (thread : ℕ)
      (hthread : net.threads[thread]? = some (.answered site event resume))
      (hrun : resume (net.sites site) = reached) :
      Step system net
        (.deliver thread event reached.question (system.sent (net.sites site) reached.state))
        ⟨Function.update net.sites site reached.state, net.server,
          net.threads.set thread (reached.thread site)⟩

/-! ## No answer is lost or duplicated -/

/-- The event of a step of the server. -/
def Label.executed : Label μ R Ans β → Option (Event Ans)
  | .execute _ event => some event
  | _ => none

/-- The event of a step that consumes an answer. -/
def Label.delivered : Label μ R Ans β → Option (Event Ans)
  | .deliver _ event _ _ => some event
  | _ => none

/-- What a step sends out. -/
def Label.emitted : Label μ R Ans β → List β
  | .start _ _ _ sent => sent
  | .execute _ _ => []
  | .deliver _ _ _ sent => sent

/-- The site at which a step starts a request. -/
def Label.started : Label μ R Ans β → Option μ
  | .start site _ _ _ => some site
  | _ => none

/-- An answer that is on its way. -/
def Thread.pending : Thread μ Op Ans Fault σ α → Option (Event Ans)
  | .answered _ event _ => some event
  | _ => none

theorem Resumption.pending_thread (site : μ) (reached : Resumption Op Ans Fault σ α) :
    (reached.thread site).pending = none := by
  cases reached <;> rfl

theorem filterMap_perm_eraseIdx {τ υ : Type} (f : τ → Option υ) {list : List τ} {index : ℕ}
    {item : τ} (h : list[index]? = some item) :
    (list.filterMap f).Perm ((f item).toList ++ (list.eraseIdx index).filterMap f) := by
  obtain ⟨hlt, rfl⟩ := List.getElem?_eq_some_iff.mp h
  have hperm := (List.getElem_cons_eraseIdx_perm hlt).symm.filterMap f
  rw [List.filterMap_cons] at hperm
  cases hitem : f list[index] with
  | none => simpa [hitem] using hperm
  | some value => simpa [hitem] using hperm

/-- Replacing an entry exchanges its contribution. -/
theorem filterMap_set_perm {τ υ : Type} (f : τ → Option υ) {list : List τ} {index : ℕ} {item : τ}
    (h : list[index]? = some item) (item' : τ) :
    ((f item).toList ++ (list.set index item').filterMap f).Perm
      ((f item').toList ++ list.filterMap f) := by
  have hlt := (List.getElem?_eq_some_iff.mp h).1
  have hself : (list.set index item')[index]? = some item' := List.getElem?_set_self hlt
  have hset := filterMap_perm_eraseIdx f hself
  rw [List.eraseIdx_set_eq] at hset
  have hold := filterMap_perm_eraseIdx f h
  have hswap : ((f item).toList ++ ((f item').toList ++ (list.eraseIdx index).filterMap f)).Perm
      ((f item').toList ++ ((f item).toList ++ (list.eraseIdx index).filterMap f)) := by
    rw [← List.append_assoc, ← List.append_assoc]
    exact List.perm_append_comm.append_right _
  exact ((hset.append_left _).trans hswap).trans (hold.symm.append_left _)

/-- The same for a sum over the entries. -/
theorem sum_map_set {τ : Type} (f : τ → ℕ) {list : List τ} {index : ℕ} {item : τ}
    (h : list[index]? = some item) (item' : τ) :
    f item + ((list.set index item').map f).sum = f item' + (list.map f).sum := by
  obtain ⟨hlt, rfl⟩ := List.getElem?_eq_some_iff.mp h
  have hold := ((List.getElem_cons_eraseIdx_perm hlt).map f).sum_nat
  have hset : index < (list.set index item').length := by rwa [List.length_set]
  have hnew := ((List.getElem_cons_eraseIdx_perm hset).map f).sum_nat
  rw [List.getElem_set_self, List.eraseIdx_set_eq, List.map_cons, List.sum_cons] at hnew
  rw [List.map_cons, List.sum_cons] at hold
  omega

/-- The answers given are those consumed and those on their way. -/
theorem Net.run_perm [DecidableEq μ] {system : System R Op Ans Fault σ α β S}
    {initial net : Net μ Op Ans Fault σ α S} {labels : List (Label μ R Ans β)}
    (hrun : Run (Net.Step system) initial labels net) (hidle : initial.threads = []) :
    (labels.filterMap Label.executed).Perm
      (labels.filterMap Label.delivered ++ net.threads.filterMap Thread.pending) := by
  induction hrun with
  | nil => simp [hidle]
  | snoc _ hstep ih =>
    cases hstep with
    | @start reached site request hrun =>
      have hnone : [reached.thread site].filterMap Thread.pending = [] :=
        List.filterMap_eq_nil_iff.mpr (by simp [Resumption.pending_thread])
      simpa only [List.filterMap_append, hnone, List.filterMap_cons, List.filterMap_nil,
        Label.executed, Label.delivered, List.append_nil] using ih
    | @execute site op resume _ thread answer hthread hserver =>
      have hset := filterMap_set_perm Thread.pending hthread
        (.answered site ⟨op, answer⟩ (resume answer))
      simp only [List.filterMap_append, List.filterMap_cons, List.filterMap_nil, Label.executed,
        Label.delivered, List.append_nil]
      refine (ih.append_right [⟨op, answer⟩]).trans ?_
      rw [List.append_assoc]
      exact (List.perm_append_comm.trans hset.symm).append_left _
    | @deliver site event resume reached thread hthread hrun =>
      have hset := filterMap_set_perm Thread.pending hthread (reached.thread site)
      rw [Resumption.pending_thread] at hset
      simp only [List.filterMap_append, List.filterMap_cons, List.filterMap_nil, Label.executed,
        Label.delivered, List.append_nil]
      rw [List.append_assoc]
      exact ih.trans (hset.symm.append_left _)

/-! ## Disciplines -/

/-- What the programs of a site agree on: an invariant of its state, the answers they rely on, and
what each segment does between consuming an answer and the next question. -/
structure Discipline (Op : Type) (Ans : Op → Type) (σ γ : Type) where
  inv : σ → Prop
  allowed : Event Ans → Prop
  segment : γ → Event Ans → σ → Option (γ × Op) → σ → Prop

/-- Where a segment may stop: with the next question and its mark, or for good. -/
abbrev Stop (Op σ γ : Type) := Option (γ × Op) → σ → Prop

namespace Discipline

/-- Where the segment that consumes an answer may stop. -/
def stops (discipline : Discipline Op Ans σ γ) (mark : γ) (event : Event Ans) (before : σ) :
    Stop Op σ γ :=
  fun next after ↦ discipline.inv after ∧ discipline.segment mark event before next after

end Discipline

/-- The weakest precondition of a resumption: its present segment and all later ones stop where they
may, and what it returns goes on in the segment that has been reached. -/
def Resumption.Wp (discipline : Discipline Op Ans σ γ) : Resumption Op Ans Fault σ α →
    Stop Op σ γ → (α → σ → Stop Op σ γ → Prop) → Prop
  | .ret value state, stop, next => next value state stop
  | .fault _ state, stop, _ => stop none state
  | .ask op state resume, stop, next => ∃ mark, stop (some (mark, op)) state ∧
      ∀ answer current, discipline.allowed ⟨op, answer⟩ → discipline.inv current →
        (resume answer current).Wp discipline (discipline.stops mark ⟨op, answer⟩ current) next

/-- All segments of a complete program stop where they may. -/
def Resumption.Obeys (discipline : Discipline Op Ans σ γ) (resumption : Resumption Op Ans Fault σ α)
    (stop : Stop Op σ γ) : Prop :=
  resumption.Wp discipline stop fun _ state stop ↦ stop none state

section Wp

variable {discipline : Discipline Op Ans σ γ} {stop : Stop Op σ γ}

theorem Resumption.wp_ask (op : Op) (state : σ) (resume : Ans op → σ → Resumption Op Ans Fault σ α)
    (post : α → σ → Stop Op σ γ → Prop) :
    (ask op state resume).Wp discipline stop post ↔ ∃ mark, stop (some (mark, op)) state ∧
      ∀ answer current, discipline.allowed ⟨op, answer⟩ → discipline.inv current →
        (resume answer current).Wp discipline (discipline.stops mark ⟨op, answer⟩ current) post :=
  Iff.rfl

/-- The precondition of a sequence. -/
theorem Resumption.wp_bind (first : Resumption Op Ans Fault σ α)
    (next : α → σ → Resumption Op Ans Fault σ β) (post : β → σ → Stop Op σ γ → Prop) :
    (first.bind next).Wp discipline stop post ↔
      first.Wp discipline stop fun value state stop ↦ (next value state).Wp discipline stop
        post := by
  induction first generalizing stop with
  | ret value state => exact Iff.rfl
  | fault reason state => exact Iff.rfl
  | ask op state resume ih =>
    rw [bind, Wp, Wp]
    refine exists_congr fun mark ↦ and_congr_right fun _ ↦ ?_
    exact forall_congr' fun answer ↦ forall_congr' fun current ↦ forall_congr' fun _ ↦
      forall_congr' fun _ ↦ ih answer current

theorem Program.wp_bind (first : Program Op Ans Fault σ α) (next : α → Program Op Ans Fault σ β)
    (state : σ) (post : β → σ → Stop Op σ γ → Prop) :
    ((first >>= next).run state).Wp discipline stop post ↔
      (first.run state).Wp discipline stop fun value state stop ↦
        ((next value).run state).Wp discipline stop post :=
  Resumption.wp_bind _ _ _

end Wp

section Frames

variable {τ Mark : Type}

/-- The segment leaves a value in a part of the state, and any question that follows is one of those
given, with the mark of an idle program. -/
def Keeps (part : σ → τ) (idle : γ) (ops : Op → Prop) (value : τ) : Stop Op σ γ :=
  fun next after ↦ part after = value ∧ ∀ pair ∈ next, pair.1 = idle ∧ ops pair.2

theorem keeps_none {part : σ → τ} {idle : γ} {ops : Op → Prop} {value : τ} {state : σ}
    (h : part state = value) : Keeps part idle ops value none state :=
  ⟨h, by simp⟩

/-- A program whose footprint leaves a part of the state alone is idle, if the segments of idle
programs may stop where they leave it alone. -/
theorem Program.Within.wp {effect : Mark → σ → σ} {footprint : Footprint Op Fault Mark}
    {program : Program Op Ans Fault σ α} (h : program.Within effect footprint) {part : σ → τ}
    {idle : γ} {discipline : Discipline Op Ans σ γ}
    (hlabels : ∀ label, footprint.labels label → ∀ state, part (effect label state) = part state)
    (hstops : ∀ event before, footprint.ops event.op →
      discipline.stops idle event before = Keeps part idle footprint.ops (part before))
    {state : σ} {value : τ} (hstate : part state = value) {post : α → σ → Stop Op σ γ → Prop}
    (hpost : ∀ result after, post result after (Keeps part idle footprint.ops (part after))) :
    (program.run state).Wp discipline (Keeps part idle footprint.ops value) post := by
  induction h generalizing state value with
  | pure result =>
    subst hstate
    exact hpost result state
  | get =>
    subst hstate
    exact hpost state state
  | crash _ => exact keeps_none hstate
  | ask hop =>
    refine ⟨idle, ⟨hstate, by simpa using hop⟩, fun answer current _ _ ↦ ?_⟩
    rw [hstops _ current hop]
    exact hpost answer current
  | @modify label hlabel =>
    subst hstate
    rw [← hlabels label hlabel state]
    exact hpost () (effect label state)
  | bind _ _ ihfirst ihnext =>
    exact (Program.wp_bind _ _ _ _).mpr (ihfirst hstate fun middle after ↦ ihnext middle rfl hpost)

end Frames

/-- A thread, up to its code. -/
inductive Phase (μ : Type) (Op : Type) (Ans : Op → Type) (γ : Type) where
  | waiting (site : μ) (mark : γ) (op : Op)
  | answered (site : μ) (mark : γ) (event : Event Ans)
  | ended (site : μ)

/-- The phase after a segment. -/
def Phase.of (site : μ) : Option (γ × Op) → Phase μ Op Ans γ
  | some (mark, op) => .waiting site mark op
  | none => .ended site

/-- A net, up to its code. -/
structure Sketch (μ : Type) (Op : Type) (Ans : Op → Type) (σ γ S : Type) where
  sites : μ → σ
  server : S
  phases : List (Phase μ Op Ans γ)

/-- The steps of a sketch.  What a request does up to its first question is given by `begins`. -/
inductive Sketch.Step [DecidableEq μ] (system : System R Op Ans Fault σ α β S)
    (discipline : μ → Discipline Op Ans σ γ) (begins : μ → R → σ → Stop Op σ γ) :
    Sketch μ Op Ans σ γ S → Label μ R Ans β → Sketch μ Op Ans σ γ S → Prop where
  | start {sketch : Sketch μ Op Ans σ γ S} {next : Option (γ × Op)} {after : σ} (site : μ)
      (request : R) (hinv : (discipline site).inv (sketch.sites site))
      (hbegins : begins site request (sketch.sites site) next after) :
      Step system discipline begins sketch
        (.start site request (next.map Prod.snd) (system.sent (sketch.sites site) after))
        ⟨Function.update sketch.sites site after, sketch.server, sketch.phases ++ [.of site next]⟩
  | execute {sketch : Sketch μ Op Ans σ γ S} {site : μ} {mark : γ} {op : Op} {server' : S}
      (thread : ℕ) (answer : Ans op)
        (hphase : sketch.phases[thread]? = some (.waiting site mark op))
      (hserver : system.server sketch.server ⟨op, answer⟩ server') :
      Step system discipline begins sketch (.execute thread ⟨op, answer⟩)
        ⟨sketch.sites, server', sketch.phases.set thread (.answered site mark ⟨op, answer⟩)⟩
  | deliver {sketch : Sketch μ Op Ans σ γ S} {site : μ} {mark : γ} {event : Event Ans}
      {next : Option (γ × Op)} {after : σ} (thread : ℕ)
      (hphase : sketch.phases[thread]? = some (.answered site mark event))
      (hinv : (discipline site).inv (sketch.sites site))
      (hsegment : (discipline site).segment mark event (sketch.sites site) next after) :
      Step system discipline begins sketch
        (.deliver thread event (next.map Prod.snd) (system.sent (sketch.sites site) after))
        ⟨Function.update sketch.sites site after, sketch.server,
          sketch.phases.set thread (.of site next)⟩

/-- The rest of a thread obeys its discipline in the phase it is in. -/
inductive Thread.InPhase (discipline : μ → Discipline Op Ans σ γ) :
    Thread μ Op Ans Fault σ α → Phase μ Op Ans γ → Prop where
  | waiting {site : μ} {op : Op} {resume : Ans op → σ → Resumption Op Ans Fault σ α} (mark : γ)
      (h : ∀ answer current, (discipline site).allowed ⟨op, answer⟩ →
        (discipline site).inv current →
        (resume answer current).Obeys (discipline site)
          ((discipline site).stops mark ⟨op, answer⟩ current)) :
      InPhase discipline (.waiting site op resume) (.waiting site mark op)
  | answered {site : μ} {event : Event Ans} {resume : σ → Resumption Op Ans Fault σ α} (mark : γ)
      (h : ∀ current, (discipline site).inv current →
        (resume current).Obeys (discipline site) ((discipline site).stops mark event current)) :
      InPhase discipline (.answered site event resume) (.answered site mark event)
  | ended (site : μ) : InPhase discipline (.ended site) (.ended site)

/-- A segment stops where it may, and what is left obeys the discipline. -/
theorem Resumption.Obeys.next {discipline : μ → Discipline Op Ans σ γ} {site : μ}
    {stop : Stop Op σ γ}
    {resumption : Resumption Op Ans Fault σ α} (h : resumption.Obeys (discipline site) stop) :
    ∃ next, stop next resumption.state ∧ next.map Prod.snd = resumption.question ∧
      (resumption.thread site).InPhase discipline (.of site next) := by
  cases resumption with
  | ret value state => exact ⟨none, h, rfl, .ended site⟩
  | fault reason state => exact ⟨none, h, rfl, .ended site⟩
  | ask op state resume =>
    obtain ⟨mark, hstop, hresume⟩ := h
    exact ⟨some (mark, op), hstop, rfl, .waiting mark hresume⟩

section Threads

variable {τ υ : Type} {relation : τ → υ → Prop} {first : List τ} {second : List υ}

theorem forall₂_getElem? (h : List.Forall₂ relation first second) {index : ℕ} {item : τ}
    (hitem : first[index]? = some item) :
    ∃ other, second[index]? = some other ∧ relation item other := by
  obtain ⟨hlt, rfl⟩ := List.getElem?_eq_some_iff.mp hitem
  have hlt' : index < second.length := h.length_eq ▸ hlt
  exact ⟨second[index], List.getElem?_eq_getElem hlt', h.get hlt hlt'⟩

theorem forall₂_set (h : List.Forall₂ relation first second) (index : ℕ) {item : τ} {other : υ}
    (hitem : relation item other) :
    List.Forall₂ relation (first.set index item) (second.set index other) := by
  induction h generalizing index with
  | nil => exact .nil
  | cons hhead htail ih =>
    cases index with
    | zero => exact .cons hitem htail
    | succ index => exact .cons hhead (ih index)

end Threads

/-- A net and its sketch. -/
structure Net.Sketched (discipline : μ → Discipline Op Ans σ γ) (net : Net μ Op Ans Fault σ α S)
    (sketch : Sketch μ Op Ans σ γ S) : Prop where
  sites : sketch.sites = net.sites
  server : sketch.server = net.server
  phases : List.Forall₂ (Thread.InPhase discipline) net.threads sketch.phases
  inv : ∀ site, (discipline site).inv (net.sites site)

section Simulation

variable [DecidableEq μ] {system : System R Op Ans Fault σ α β S}
  {discipline : μ → Discipline Op Ans σ γ} {begins : μ → R → σ → Stop Op σ γ}
  {admitted : μ → R → Prop}

theorem inv_update {sites : μ → σ} (h : ∀ site, (discipline site).inv (sites site)) {site : μ}
    {after : σ} (hafter : (discipline site).inv after) (other : μ) :
    (discipline other).inv (Function.update sites site after other) := by
  rw [Function.update_apply]
  split_ifs with heq
  · exact heq ▸ hafter
  · exact h other

variable (hcode : ∀ site request state, admitted site request → (discipline site).inv state →
    ((system.code request).run state).Obeys (discipline site) fun next after ↦
      (discipline site).inv after ∧ begins site request state next after)
  (hserver : ∀ site before event after, system.server before event after →
    (discipline site).allowed event)

include hcode hserver

/-- A step of a net is a step of its sketch. -/
theorem Net.Sketched.step {net net' : Net μ Op Ans Fault σ α S} {sketch : Sketch μ Op Ans σ γ S}
    {label : Label μ R Ans β} (h : net.Sketched discipline sketch)
    (hstep : Net.Step system net label net')
    (hadmitted : ∀ site request next sent, label = .start site request next sent →
      admitted site request) :
    ∃ sketch', Sketch.Step system discipline begins sketch label sketch' ∧
      net'.Sketched discipline sketch' := by
  obtain ⟨sites, server, phases⟩ := sketch
  obtain ⟨rfl, rfl, hphases, hinv⟩ := h
  cases hstep with
  | start site request hrun =>
    subst hrun
    have hobeys := hcode site request _ (hadmitted site request _ _ rfl) (hinv site)
    obtain ⟨next, ⟨hafter, hbegins⟩, hquestion, hphase⟩ := hobeys.next
    rw [← hquestion]
    exact ⟨_, .start site request (hinv site) hbegins, rfl, rfl,
      List.rel_append hphases (.cons hphase .nil), inv_update hinv hafter⟩
  | @execute site _ _ _ thread answer hthread hanswer =>
    obtain ⟨phase, hphase, hin⟩ := forall₂_getElem? hphases hthread
    cases hin with
    | waiting mark hresume =>
      have hallowed := hserver site _ _ _ hanswer
      exact ⟨_, .execute thread answer hphase hanswer, rfl, rfl,
        forall₂_set hphases thread
          (.answered mark fun current ↦ hresume answer current hallowed), hinv⟩
  | deliver thread hthread hrun =>
    subst hrun
    obtain ⟨phase, hphase, hin⟩ := forall₂_getElem? hphases hthread
    cases hin with
    | answered mark hresume =>
      obtain ⟨next, ⟨hafter, hsegment⟩, hquestion, hnext⟩ := (hresume _ (hinv _)).next
      rw [← hquestion]
      exact ⟨_, .deliver thread hphase (hinv _) hsegment, rfl, rfl,
        forall₂_set hphases thread hnext, inv_update hinv hafter⟩

/-- A run of a net is a run of its sketch. -/
theorem Net.run_sketch {initial net : Net μ Op Ans Fault σ α S} {labels : List (Label μ R Ans β)}
    (hrun : Run (Net.Step system) initial labels net) (hidle : initial.threads = [])
    (hinv : ∀ site, (discipline site).inv (initial.sites site))
    (hadmitted : ∀ site request next sent, .start site request next sent ∈ labels →
      admitted site request) :
    ∃ sketch, Run (Sketch.Step system discipline begins) ⟨initial.sites, initial.server, []⟩ labels
      sketch ∧ net.Sketched discipline sketch := by
  induction hrun with
  | nil => exact ⟨_, .nil, rfl, rfl, hidle ▸ .nil, hinv⟩
  | @snoc labels net net' label _ hstep ih =>
    obtain ⟨sketch, hsketch, hsketched⟩ := ih fun site request next sent hmem ↦
      hadmitted site request next sent (List.mem_append_left _ hmem)
    obtain ⟨sketch', hstep', hsketched'⟩ := hsketched.step hcode hserver hstep
      fun site request next sent heq ↦ hadmitted site request next sent (by simp [heq])
    exact ⟨sketch', hsketch.snoc hstep', hsketched'⟩

end Simulation

end NfsFuse.Lib
