import NfsFuse.Lib.Holding
import NfsFuse.Mount.Outcome
import NfsFuse.Fuse.Serving

/-!
# The whole program

`main` mounts the export, sets up a session of the FUSE library, serves requests until the session
ends, and takes everything down again in the opposite order.  Its labels `err_out3`, `err_out2` and
`err_out1` release what has been acquired when a step of the setup fails, so that every run releases
what it holds of the library, the latest first.

`main` is taken behind the command line; the options `-h` and `-V` make it exit with 0 before there
is a session.  The loop is `fuse_session_loop`, which serves one request after the other.  The loop
with several threads, `fuse_session_loop_mt`, is the default and is left out; its requests would not
touch what is held of the library either.  A call is one question here.  What a reconnection does to
the clients, and one that fails above all, is not seen at this level.
-/

namespace NfsFuse

open Lib

/-- What `main` asks of the FUSE library.  The library hands no request on before `INIT`. -/
inductive FuseOp where
  | sessionNew
  | setSignalHandlers
  | sessionMount
  | daemonize
  | awaitInit
  | receive
  | sessionUnmount
  | removeSignalHandlers
  | sessionDestroy
  deriving DecidableEq

/-- Its answers.  Waiting ends with `INIT` or a request, or with the result of the session loop. -/
@[reducible]
def FuseAns : FuseOp → Type
  | .sessionNew => Bool
  | .setSignalHandlers | .sessionMount | .daemonize => ℤ
  | .awaitInit => Option ℤ
  | .receive => Request ⊕ ℤ
  | .sessionUnmount | .removeSignalHandlers | .sessionDestroy => Unit

/-- The questions of the daemon and of `main`. -/
abbrev MainAns : EnvOp ⊕ FuseOp → Type := SumAns EnvAns FuseAns

/-- Code of `main`. -/
abbrev MainProg := Program (EnvOp ⊕ FuseOp) MainAns Fault Daemon

/-- A run of `main`. -/
abbrev MainTrace := List (Event MainAns)

/-- Ask the FUSE library. -/
def MainProg.library (op : FuseOp) : MainProg (FuseAns op) := Program.ask (Sum.inr op)

/-- The session loop after `INIT`. -/
def serveRequests (plat : Platform) (fuel : ℕ) : ℕ → MainProg ℤ
  | 0 => Program.crash .outOfFuel
  | rounds + 1 => do
      match ← MainProg.library .receive with
      | .inl request =>
          (handle plat fuel request).widen
          serveRequests plat fuel rounds
      | .inr err => return err

/-- `fuse_session_loop`, the loop that a single thread runs -/
def fuseSessionLoop (plat : Platform) (fuel rounds : ℕ) : MainProg ℤ := do
  match ← MainProg.library .awaitInit with
  | some err => return err
  | none =>
      hsxFuseInit.widen
      serveRequests plat fuel rounds

/-- From `fuse_session_mount` to the label `err_out3`. -/
def mountedSession (plat : Platform) (fuel rounds : ℕ) : MainProg ℤ := do
  if (← MainProg.library .sessionMount) = 0 then
    -- a failure to become a daemon is ignored
    let _ ← MainProg.library .daemonize
    let err ← fuseSessionLoop plat fuel rounds
    MainProg.library .sessionUnmount
    return err
  else
    return -1

/-- From `fuse_set_signal_handlers` to the label `err_out2`. -/
def handledSession (plat : Platform) (fuel rounds : ℕ) : MainProg ℤ := do
  if (← MainProg.library .setSignalHandlers) = 0 then
    let err ← mountedSession plat fuel rounds
    MainProg.library .removeSignalHandlers
    return err
  else
    return -1

/-- From `fuse_session_new` to the label `err_out1`. -/
def runSession (plat : Platform) (fuel rounds : ℕ) : MainProg ℤ := do
  if ← MainProg.library .sessionNew then
    let err ← handledSession plat fuel rounds
    MainProg.library .sessionDestroy
    return err
  else
    return -1

/-- `main` behind the command line, without `-h` and `-V`: the exit status. -/
def main (plat : Platform) (fuel rounds : ℕ) (opts : CmdlineOpts) : MainProg ℤ := do
  let err ← (hsfsDoMount plat fuel opts).widen
  if err ≠ 0 then
    return 1
  else
    let err ← runSession plat fuel rounds
    let _ ← (hsfsDoUnmount opts).widen
    return if err ≠ 0 then 1 else 0

/-! ## What is held of the library -/

/-- What `main` acquires from the library. -/
inductive SessionResource where
  | session
  | signalHandlers
  | mountpoint
  deriving DecidableEq

/-- What the library's answers do to it. -/
def sessionHolding : Event MainAns → Holding SessionResource
  | ⟨.inr .sessionNew, created⟩ => if created = true then .acquire .session else .keep
  | ⟨.inr .setSignalHandlers, ret⟩ => if ret = (0 : ℤ) then .acquire .signalHandlers else .keep
  | ⟨.inr .sessionMount, ret⟩ => if ret = (0 : ℤ) then .acquire .mountpoint else .keep
  | ⟨.inr .sessionUnmount, _⟩ => .release .mountpoint
  | ⟨.inr .removeSignalHandlers, _⟩ => .release .signalHandlers
  | ⟨.inr .sessionDestroy, _⟩ => .release .session
  | _ => .keep

section Nesting

variable {held : List SessionResource}

theorem nests_widen {α : Type} (program : Prog α) :
    (program.widen : MainProg α).Nests sessionHolding held fun _ ↦ held := by
  apply Program.Nests.of_emits
  intro state trace ending hpath event hmem
  obtain ⟨inner, -, rfl⟩ := Resumption.path_widen.mp hpath
  obtain ⟨event, -, rfl⟩ := List.mem_map.mp hmem
  rfl

/-- A question to the library. -/
theorem nests_library {op : FuseOp} {left : FuseAns op → List SessionResource}
    (h : ∀ answer, (sessionHolding ⟨.inr op, answer⟩).apply held = some (left answer)) :
    (MainProg.library op).Nests sessionHolding held left :=
  .ask h

theorem nests_serveRequests (plat : Platform) (fuel rounds : ℕ) :
    (serveRequests plat fuel rounds).Nests sessionHolding held fun _ ↦ held := by
  induction rounds with
  | zero => exact .of_emits (.crash _) held
  | succ rounds ih =>
    have hreceive : (MainProg.library .receive).Nests sessionHolding held fun _ ↦ held :=
      nests_library fun _ ↦ rfl
    apply Program.Nests.bind hreceive
    intro delivery
    cases delivery with
    | inl request => exact .bind (nests_widen _) fun _ ↦ ih
    | inr err => exact .pure err _ rfl

theorem nests_fuseSessionLoop (plat : Platform) (fuel rounds : ℕ) :
    (fuseSessionLoop plat fuel rounds).Nests sessionHolding held fun _ ↦ held := by
  have hinit : (MainProg.library .awaitInit).Nests sessionHolding held fun _ ↦ held :=
    nests_library fun _ ↦ rfl
  apply Program.Nests.bind hinit
  intro delivery
  cases delivery with
  | some err => exact .pure err _ rfl
  | none => exact .bind (nests_widen _) fun _ ↦ nests_serveRequests plat fuel rounds

/-- A step of the setup that goes on to a part which releases what the step has acquired. -/
theorem nests_step {op : FuseOp} {resource : SessionResource} {succeeded : FuseAns op → Prop}
    [DecidablePred succeeded] {inside : MainProg ℤ}
    (h : ∀ answer, sessionHolding ⟨.inr op, answer⟩ =
      if succeeded answer then .acquire resource else .keep)
    (hinside : inside.Nests sessionHolding (resource :: held) fun _ ↦ held) :
    (MainProg.library op >>= fun answer ↦ if succeeded answer then inside else pure (-1)).Nests
      sessionHolding held fun _ ↦ held := by
  have hop : (MainProg.library op).Nests sessionHolding held fun answer ↦
      if succeeded answer then resource :: held else held := by
    apply nests_library
    intro answer
    rw [h answer]
    split_ifs <;> rfl
  apply Program.Nests.bind hop
  intro answer
  apply Program.Nests.ite
  · intro hsucceeded
    rw [if_pos hsucceeded]
    exact hinside
  · intro hfailed
    rw [if_neg hfailed]
    exact .pure _ _ rfl

/-- A part of the setup and the release behind it. -/
theorem nests_release {op : FuseOp} {resource : SessionResource} {inside : MainProg ℤ}
    (h : ∀ answer, sessionHolding ⟨.inr op, answer⟩ = .release resource)
    (hinside : inside.Nests sessionHolding (resource :: held) fun _ ↦ resource :: held) :
    (inside >>= fun err ↦ MainProg.library op >>= fun _ ↦ pure err).Nests sessionHolding
      (resource :: held) fun _ ↦ held := by
  apply Program.Nests.bind hinside
  intro err
  have hop : (MainProg.library op).Nests sessionHolding (resource :: held) fun _ ↦ held := by
    apply nests_library
    intro answer
    rw [h answer]
    exact if_pos rfl
  exact .bind hop fun _ ↦ .pure err _ rfl

theorem nests_mountedSession (plat : Platform) (fuel rounds : ℕ) :
    (mountedSession plat fuel rounds).Nests sessionHolding held fun _ ↦ held := by
  have hdaemonize : (MainProg.library .daemonize).Nests sessionHolding (.mountpoint :: held)
      fun _ ↦ .mountpoint :: held := nests_library fun _ ↦ rfl
  apply nests_step (fun _ ↦ rfl)
  exact .bind hdaemonize fun _ ↦ nests_release (fun _ ↦ rfl) (nests_fuseSessionLoop _ _ _)

theorem nests_handledSession (plat : Platform) (fuel rounds : ℕ) :
    (handledSession plat fuel rounds).Nests sessionHolding held fun _ ↦ held :=
  nests_step (fun _ ↦ rfl) (nests_release (fun _ ↦ rfl) (nests_mountedSession _ _ _))

theorem nests_runSession (plat : Platform) (fuel rounds : ℕ) :
    (runSession plat fuel rounds).Nests sessionHolding held fun _ ↦ held :=
  nests_step (fun _ ↦ rfl) (nests_release (fun _ ↦ rfl) (nests_handledSession _ _ _))

theorem nests_main (plat : Platform) (fuel rounds : ℕ) (opts : CmdlineOpts) :
    (main plat fuel rounds opts).Nests sessionHolding held fun _ ↦ held := by
  apply Program.Nests.bind (nests_widen _)
  intro err
  apply Program.Nests.ite
  · intro _
    exact .pure _ _ rfl
  · intro _
    apply Program.Nests.bind (nests_runSession _ _ _)
    intro err
    exact .bind (nests_widen _) fun _ ↦ .pure _ _ rfl

end Nesting

/-! ## The exit status -/

/-- The result with which the session loop ends. -/
def loopResult : Event MainAns → Option ℤ
  | ⟨.inr .awaitInit, ended⟩ => ended
  | ⟨.inr .receive, .inr err⟩ => some err
  | _ => none

/-- The code returns 0 in exactly the runs in which the session loop ended with 0. -/
def ReportsLoop (program : MainProg ℤ) : Prop :=
  ∀ daemon trace err daemon', (program.run daemon).Path trace (.done err daemon') →
    (err = 0 ↔ 0 ∈ trace.filterMap loopResult)

/-- Code without an end of the session loop. -/
abbrev LoopFree {α : Type} (program : MainProg α) : Prop :=
  program.Emits fun event ↦ loopResult event = none

theorem loopFree_widen {α : Type} (program : Prog α) : LoopFree (program.widen : MainProg α) := by
  intro daemon trace ending hpath event hmem
  obtain ⟨inner, -, rfl⟩ := Resumption.path_widen.mp hpath
  obtain ⟨event, -, rfl⟩ := List.mem_map.mp hmem
  rfl

theorem loopFree_library {op : FuseOp} (h : ∀ answer, loopResult ⟨.inr op, answer⟩ = none) :
    LoopFree (MainProg.library op) :=
  .ask h

namespace ReportsLoop

theorem pure {err : ℤ} (h : err ≠ 0) : ReportsLoop (Pure.pure err) := by
  rintro daemon trace err' daemon' ⟨rfl, heq⟩
  cases heq
  exact iff_of_false h List.not_mem_nil

theorem after {α : Type} {first : MainProg α} {next : α → MainProg ℤ} (hfirst : LoopFree first)
    (hnext : ∀ value, ReportsLoop (next value)) : ReportsLoop (first >>= next) := by
  intro daemon trace err daemon' hpath
  obtain ⟨value, daemon₁, front, rest, hfront, hrest, rfl⟩ := Program.path_bind_done.mp hpath
  rw [List.filterMap_append, List.filterMap_eq_nil_iff.mpr (hfirst _ _ _ hfront), List.nil_append]
  exact hnext value _ _ _ _ hrest

/-- What comes behind the loop keeps whether it ended with 0. -/
theorem before {inside : MainProg ℤ} {next : ℤ → MainProg ℤ} (hinside : ReportsLoop inside)
    (hfree : ∀ err, LoopFree (next err))
    (hnext : ∀ err, (next err).Ensures fun _ err' _ ↦ (err' = 0 ↔ err = 0)) :
    ReportsLoop (inside >>= next) := by
  intro daemon trace err' daemon' hpath
  obtain ⟨err, daemon₁, front, rest, hfront, hrest, rfl⟩ := Program.path_bind_done.mp hpath
  rw [List.filterMap_append, List.filterMap_eq_nil_iff.mpr (hfree err _ _ _ hrest),
    List.append_nil, ← hinside _ _ _ _ hfront]
  exact hnext err _ _ _ _ hrest

theorem release {inside : MainProg ℤ} {op : FuseOp} (hinside : ReportsLoop inside)
    (hop : ∀ answer, loopResult ⟨.inr op, answer⟩ = none) :
    ReportsLoop (inside >>= fun err ↦ MainProg.library op >>= fun _ ↦ Pure.pure err) := by
  apply hinside.before
  · intro err
    exact .bind (loopFree_library hop) fun _ ↦ .pure err
  · rintro err daemon trace err' daemon' ⟨answer, rest, -, -, heq⟩
    cases heq
    exact Iff.rfl

theorem ite {condition : Prop} [Decidable condition] {yes no : MainProg ℤ}
    (hyes : ReportsLoop yes) (hno : ReportsLoop no) :
    ReportsLoop (if condition then yes else no) := by
  by_cases h : condition
  · simpa only [if_pos h] using hyes
  · simpa only [if_neg h] using hno

end ReportsLoop

theorem reportsLoop_serveRequests (plat : Platform) (fuel rounds : ℕ) :
    ReportsLoop (serveRequests plat fuel rounds) := by
  induction rounds with
  | zero =>
    intro daemon trace err daemon' hpath
    cases hpath.2
  | succ rounds ih =>
    rintro daemon trace err daemon' ⟨delivery, rest, rfl, hrest⟩
    cases delivery with
    | inl request =>
      rw [List.filterMap_cons_none rfl]
      exact ReportsLoop.after (loopFree_widen _) (fun _ ↦ ih) _ _ _ _ hrest
    | inr ended =>
      obtain ⟨rfl, heq⟩ := hrest
      cases heq
      simp [loopResult, eq_comm]

theorem reportsLoop_fuseSessionLoop (plat : Platform) (fuel rounds : ℕ) :
    ReportsLoop (fuseSessionLoop plat fuel rounds) := by
  rintro daemon trace err daemon' ⟨delivery, rest, rfl, hrest⟩
  cases delivery with
  | some ended =>
    obtain ⟨rfl, heq⟩ := hrest
    cases heq
    simp [loopResult, eq_comm]
  | none =>
    have hserve := reportsLoop_serveRequests plat fuel rounds
    rw [List.filterMap_cons_none rfl]
    exact ReportsLoop.after (loopFree_widen _) (fun _ ↦ hserve) _ _ _ _ hrest

theorem reportsLoop_runSession (plat : Platform) (fuel rounds : ℕ) :
    ReportsLoop (runSession plat fuel rounds) := by
  have hminus : (-1 : ℤ) ≠ 0 := by decide
  have hmounted : ReportsLoop (mountedSession plat fuel rounds) := by
    refine .after (loopFree_library fun _ ↦ rfl) fun _ ↦ .ite ?_ (.pure hminus)
    refine .after (loopFree_library fun _ ↦ rfl) fun _ ↦ ?_
    exact (reportsLoop_fuseSessionLoop plat fuel rounds).release fun _ ↦ rfl
  have hhandled : ReportsLoop (handledSession plat fuel rounds) :=
    .after (loopFree_library fun _ ↦ rfl) fun _ ↦ .ite (hmounted.release fun _ ↦ rfl) (.pure hminus)
  exact .after (loopFree_library fun _ ↦ rfl) fun _ ↦
    .ite (hhandled.release fun _ ↦ rfl) (.pure hminus)

theorem reportsLoop_main (plat : Platform) (fuel rounds : ℕ) (opts : CmdlineOpts) :
    ReportsLoop (main plat fuel rounds opts) := by
  refine .after (loopFree_widen _) fun _ ↦ .ite (.pure (by decide)) ?_
  apply (reportsLoop_runSession plat fuel rounds).before
  · intro err
    exact .bind (loopFree_widen _) fun _ ↦ .pure _
  · intro err daemon trace status daemon' hpath
    obtain ⟨ret, daemon₁, front, rest, -, ⟨-, heq⟩, -⟩ := Program.path_bind_done.mp hpath
    cases heq
    split_ifs with herr
    · exact iff_of_false (by decide) herr
    · exact iff_of_true rfl (not_not.mp herr)

/-- **Every run of `main` releases what it holds of the FUSE library, the latest first; one that
exits holds nothing, and exits with 0 exactly when the session loop has ended with 0.**  `main` is
taken behind the command line and with the loop of a single thread. -/
theorem main_releases_session (plat : Platform) (fuel rounds : ℕ) (opts : CmdlineOpts)
    (trace : MainTrace) (ending : Ending Fault Daemon ℤ)
    (hpath : ((main plat fuel rounds opts).run .initial).Path trace ending) :
    ∃ held, heldAfter sessionHolding [] trace = some held ∧
      ∀ status daemon, ending = .done status daemon →
        held = [] ∧ (status = 0 ↔ 0 ∈ trace.filterMap loopResult) := by
  have hnests := @nests_main [] plat fuel rounds opts _ _ _ hpath
  cases ending with
  | done status daemon =>
    refine ⟨[], hnests, ?_⟩
    intro status' daemon' heq
    cases heq
    exact ⟨rfl, reportsLoop_main plat fuel rounds opts _ _ _ _ hpath⟩
  | crashed reason daemon =>
    obtain ⟨held, hheld⟩ := Option.isSome_iff_exists.mp hnests
    refine ⟨held, hheld, ?_⟩
    intro status daemon' heq
    cases heq

/-- `INIT` has arrived. -/
def initArrived : Event MainAns := ⟨.inr .awaitInit, none⟩

/-- The calls of `hsi_fill_super` when `PATHCONF` fails, and the label `umnt_fail`. -/
def pathconfFailed : Trace :=
  [⟨.call (.fsinfo [1]), RpcOutcome.done (.ok rootFsinfo)⟩,
    ⟨.malloc .nfsInode, true⟩,
    ⟨.call (.pathconf [1]), RpcOutcome.done (.fail 10004 (by decide))⟩,
    ⟨.host (.openClient (tcpService 100005)), true⟩, ⟨.host (.umnt [47, 120]), (0 : ℤ)⟩]

/-- A session without requests. -/
def idleSession : MainTrace :=
  [⟨.inr .sessionNew, true⟩, ⟨.inr .setSignalHandlers, (0 : ℤ)⟩, ⟨.inr .sessionMount, (0 : ℤ)⟩,
    ⟨.inr .daemonize, (0 : ℤ)⟩, initArrived, ⟨.inr .receive, .inr 0⟩, ⟨.inr .sessionUnmount, ()⟩,
    ⟨.inr .removeSignalHandlers, ()⟩, ⟨.inr .sessionDestroy, ()⟩]

/-- The events of `hsfs_do_unmount`, which goes by the flags to UDP. -/
def plainUnmount : Trace :=
  [⟨.malloc .devname, true⟩, ⟨.malloc .hostname, true⟩, ⟨.malloc .pathname, true⟩,
    ⟨.host (.openClient ⟨100005, 3, ipprotoUdp, 0⟩), true⟩, ⟨.host (.umnt [47, 120]), (0 : ℤ)⟩]

/-- The run of `main` made of these. -/
def pathconfRun : MainTrace :=
  (mountAttempt (.ok ⟨[1], by decide⟩) ++ clientsCreated ++ pathconfFailed).map Event.inl ++
    (idleSession ++ plainUnmount.map Event.inl)

theorem exists_pathconfRun : ∃ last,
    ((main linuxHost 1 1 plainOpts).run .initial).Path pathconfRun (.done 0 last) :=
  ⟨_, true, _, rfl, true, _, rfl, true, _, rfl, .found 0x7f000001, _, rfl, (0 : ℤ), _, rfl,
    true, _, rfl, _, _, rfl, true, _, rfl, true, _, rfl, (0 : ℤ), _, rfl, true, _, rfl,
    (0 : ℤ), _, rfl, _, _, rfl, true, _, rfl, _, _, rfl, true, _, rfl, (0 : ℤ), _, rfl,
    true, _, rfl, (0 : ℤ), _, rfl, (0 : ℤ), _, rfl, (0 : ℤ), _, rfl, none, _, rfl, .inr 0, _, rfl,
    (), _, rfl, (), _, rfl, (), _, rfl, true, _, rfl, true, _, rfl, true, _, rfl, true, _, rfl,
    (0 : ℤ), _, rfl, rfl, rfl⟩

/-- It releases everything and exits with 0. -/
theorem main_releases_session_pathconfRun : ∃ last,
    ((main linuxHost 1 1 plainOpts).run .initial).Path pathconfRun (.done 0 last) ∧
    heldAfter sessionHolding [] pathconfRun = some [] := by
  obtain ⟨last, hpath⟩ := exists_pathconfRun
  obtain ⟨held, hheld, hdone⟩ := main_releases_session linuxHost 1 1 plainOpts _ _ hpath
  obtain ⟨rfl, -⟩ := hdone 0 last rfl
  exact ⟨last, hpath, hheld⟩

end NfsFuse
