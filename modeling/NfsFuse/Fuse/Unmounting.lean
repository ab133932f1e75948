import NfsFuse.Fuse.Connections
import NfsFuse.Fuse.Main
import NfsFuse.Mount.Rooted

/-!
# The client that is destroyed at the end

`hsfs_do_unmount` hands `super->clntp` to `clnt_destroy`.  Nothing checks that this client is live.
It is not after a mount in which a call has failed, since the label `umnt_fail` has destroyed it and
`hsfs_do_mount` returns 0 all the same.  It is not either after a request in which a reconnection of
the NFS service has failed, since `hsi_nfs3_clnt_reconnect` has closed it and leaves it in the
superblock.  In all other runs it is.

The session is carried out with the clients of the finer model, in which a call is made of attempts
and reconnections.  A request that makes use of a client that has been destroyed is undefined, so
the runs in question are those in which no request does.
-/

namespace NfsFuse

open Lib

/-! ## What a session does to the client -/

/-- An event of a session, with the questions about clients that it takes. -/
structure SessionCarried where
  event : Event MainAns
  segment : ClientTrace

/-- The event of a handler that comes next, if there is one before the library is asked again. -/
def nextEvent : List SessionCarried → Option (Event EnvAns)
  | ⟨⟨.inl op, answer⟩, _⟩ :: _ => some ⟨op, answer⟩
  | _ => none

/-- The clients carry out an event.  Whenever the library is asked, the request before has ended and
another one may begin. -/
def SessionCarriedOut (clients : Clients) (carried : SessionCarried)
    (next : Option (Event EnvAns)) (clients' : Clients) : Prop :=
  match carried.event with
  | ⟨.inl op, answer⟩ => CarriedOut clients ⟨⟨op, answer⟩, carried.segment⟩ next clients'
  | ⟨.inr _, _⟩ => carried.segment = [] ∧ clients' = clients.ended.entered

/-- The clients carry out the events of a session. -/
def SessionCarries : Clients → List SessionCarried → Clients → Prop
  | clients, [], clients' => clients' = clients
  | clients, carried :: rest, clients' =>
      ∃ middle, SessionCarriedOut clients carried (nextEvent rest) middle ∧
        SessionCarries middle rest clients'

/-- A call of the NFS service in which a reconnection fails. -/
def LosesNfs (carried : SessionCarried) : Prop :=
  match carried.event with
  | ⟨.inl (.call procedure), _⟩ =>
      procedure.service = .nfs ∧ carried.segment.any Clients.isLoss = true
  | _ => False

namespace Clients

variable {clients clients' : Clients}

theorem undisturbed_release {kind : Release} {client : ℕ}
    (hpath : ((release kind client).run clients).Path [] (.done () clients')) :
    Undisturbed clients clients' ∧ clients'.aclSaved = clients.aclSaved := by
  cases kind with
  | nothing | copy | later =>
    cases hpath.2
    exact ⟨⟨rfl, rfl, rfl, rfl⟩, rfl⟩
  | current =>
    rw [release, Program.get_bind] at hpath
    cases hclntp : clients.clntp with
    | none =>
      rw [hclntp] at hpath
      cases hpath.2
    | some current =>
      rw [hclntp] at hpath
      cases hpath.2
      exact ⟨⟨rfl, rfl, rfl, rfl⟩, rfl⟩

/-- The client that a procedure calls with, if it is used while it is live. -/
theorem Placed.serves_loaded (h : clients.Placed) {procedure : Call} {client : ℕ}
    (hloaded : clients.loaded procedure = some client) (hlive : client ∈ clients.pool.live) :
    clients.Serves client procedure.service := by
  cases procedure with
  | getacl fh mask => exact h.aclClntp_apart client hloaded
  | setacl fh acl => exact h.aclSaved_apart client hloaded
  | _ => exact ⟨hloaded, hlive⟩

/-- A call with all that is done with its client. -/
theorem Placed.carryOut (h : clients.Placed) {procedure : Call} {next : Option (Event EnvAns)}
    {segment : ClientTrace} {outcome : RpcOutcome procedure.Body}
    (hpath : ((carryOut procedure next).run clients).Path segment (.done outcome clients'))
    (hclean : clients'.pool.Clean) :
    clients'.Placed ∧ (clients'.NfsLive ↔
      clients.NfsLive ∧ ¬ (procedure.service = .nfs ∧ segment.any isLoss = true)) := by
  obtain ⟨client, called, hloaded, hcall, hrelease⟩ := carryOut_path hpath
  have hcleanCalled := (advances_release _ client _ _ _ _ hrelease).grows.clean hclean
  have hserves := h.serves_loaded hloaded (hsiNfs3ClntCall_clean hcall hcleanCalled)
  obtain ⟨hplaced, hlive⟩ := h.call hserves hcall
  obtain ⟨hsame, haclSaved⟩ := undisturbed_release hrelease
  refine ⟨hsame.placed hplaced fun other hother ↦ ?_, hsame.nfsLive_iff.trans hlive⟩
  exact hplaced.aclSaved_apart other (haclSaved ▸ hother)

theorem undisturbed_entered (clients : Clients) : Undisturbed clients clients.ended.entered :=
  ⟨Pool.useAll_created _ _ _, Pool.useAll_live _ _ _, rfl, rfl⟩

end Clients

section Session

variable {clients clients' : Clients} {carried : SessionCarried} {next : Option (Event EnvAns)}

theorem SessionCarriedOut.clean (h : SessionCarriedOut clients carried next clients')
    (hclean : clients'.pool.Clean) : clients.pool.Clean := by
  obtain ⟨⟨op, answer⟩, segment⟩ := carried
  cases op with
  | inl op => exact (Clients.advances_carriedOut h).grows.clean hclean
  | inr op =>
    rw [h.2] at hclean
    exact (Pool.clean_useAll_iff.mp hclean).1

theorem SessionCarries.clean {served : List SessionCarried}
    (h : SessionCarries clients served clients') (hclean : clients'.pool.Clean) :
    clients.pool.Clean := by
  induction served generalizing clients with
  | nil => exact h ▸ hclean
  | cons carried rest ih =>
    obtain ⟨middle, hstep, hrest⟩ := h
    exact hstep.clean (ih hrest)

/-- One event of a session. -/
theorem Clients.Placed.step (h : clients.Placed)
    (hstep : SessionCarriedOut clients carried next clients') (hclean : clients'.pool.Clean) :
    clients'.Placed ∧ (clients'.NfsLive ↔ clients.NfsLive ∧ ¬ LosesNfs carried) := by
  obtain ⟨⟨op, answer⟩, segment⟩ := carried
  cases op with
  | inl op =>
    cases op with
    | call procedure => exact h.carryOut hstep hclean
    | malloc site | host question =>
      obtain rfl : clients' = clients := hstep.2
      exact ⟨h, (and_iff_left not_false).symm⟩
  | inr op =>
    obtain rfl : clients' = clients.ended.entered := hstep.2
    have hsame := clients.undisturbed_entered
    exact ⟨hsame.placed h h.aclClntp_apart,
      hsame.nfsLive_iff.trans (and_iff_left not_false).symm⟩

/-- A whole session in which nothing is applied to a client that has been destroyed. -/
theorem SessionCarries.nfsLive_iff {served : List SessionCarried} (h : clients.Placed)
    (hcarries : SessionCarries clients served clients') (hclean : clients'.pool.Clean) :
    clients'.NfsLive ↔ clients.NfsLive ∧ ∀ carried ∈ served, ¬ LosesNfs carried := by
  induction served generalizing clients with
  | nil =>
    obtain rfl := hcarries
    simp
  | cons carried rest ih =>
    obtain ⟨middle, hstep, hrest⟩ := hcarries
    obtain ⟨hplaced, hlive⟩ := h.step hstep (hrest.clean hclean)
    rw [ih hplaced hrest, hlive, List.forall_mem_cons, and_assoc]

end Session

/-! ## The end of a run -/

/-- A run of `main` that has mounted the export: the mount, the session and `hsfs_do_unmount`. -/
structure MountedRun (plat : Platform) (fuel rounds : ℕ) (opts : CmdlineOpts) (trace : MainTrace)
    (last : Daemon) where
  mounting : Trace
  session : MainTrace
  unmounting : Trace
  mounted : Daemon
  daemon : Daemon
  ended : ℤ
  ret : ℤ
  trace_eq : trace = mounting.map Event.inl ++ (session ++ unmounting.map Event.inl)
  mounts : ((hsfsDoMount plat fuel opts).run .initial).Path mounting (.done 0 mounted)
  serves : ((runSession plat fuel rounds).run mounted).Path session (.done ended daemon)
  unmounts : ((hsfsDoUnmount opts).run daemon).Path unmounting (.done ret last)

/-- Its parts make up a run of `main`. -/
theorem MountedRun.path {plat : Platform} {fuel rounds : ℕ} {opts : CmdlineOpts} {trace : MainTrace}
    {last : Daemon} (run : MountedRun plat fuel rounds opts trace last) :
    ((main plat fuel rounds opts).run .initial).Path trace
      (.done (if run.ended ≠ 0 then 1 else 0) last) := by
  have hunmount : (((hsfsDoUnmount opts).widen : MainProg ℤ).run run.daemon).Path
      (run.unmounting.map Event.inl) (.done run.ret last) :=
    Resumption.path_widen.mpr ⟨_, run.unmounts, rfl⟩
  have hmount : (((hsfsDoMount plat fuel opts).widen : MainProg ℤ).run .initial).Path
      (run.mounting.map Event.inl) (.done 0 run.mounted) :=
    Resumption.path_widen.mpr ⟨_, run.mounts, rfl⟩
  refine Program.path_bind_done.mpr ⟨0, run.mounted, _, _, hmount, ?_, run.trace_eq⟩
  rw [if_neg (not_not.mpr rfl)]
  refine Program.path_bind_done.mpr ⟨_, _, _, _, run.serves, ?_, rfl⟩
  exact Program.path_bind_done.mpr ⟨_, _, _, [], hunmount, ⟨rfl, rfl⟩, (List.append_nil _).symm⟩

theorem initArrived_notMem (inner : Trace) : initArrived ∉ inner.map Event.inl := by
  intro hmem
  obtain ⟨event, -, heq⟩ := List.mem_map.mp hmem
  cases heq

/-- The code returns from a run with `INIT` only where there is a root. -/
def InitNeedsRoot (program : MainProg ℤ) : Prop :=
  ∀ daemon trace err daemon', (program.run daemon).Path trace (.done err daemon') →
    initArrived ∈ trace → daemon.sb.root ≠ .null

theorem initNeedsRoot_fuseSessionLoop (plat : Platform) (fuel rounds : ℕ) :
    InitNeedsRoot (fuseSessionLoop plat fuel rounds) := by
  rintro daemon trace err daemon' ⟨delivery, rest, rfl, hrest⟩ hmem hnull
  cases delivery with
  | some ended =>
    obtain ⟨rfl, -⟩ := hrest
    cases List.mem_singleton.mp hmem
  | none =>
    obtain ⟨⟨⟩, daemon₁, front, last, hinit, -, -⟩ := Program.path_bind_done.mp hrest
    obtain ⟨inner, hinner, -⟩ := Resumption.path_widen.mp hinit
    rw [hsxFuseInit, Program.get_bind, hnull] at hinner
    cases hinner.2

namespace InitNeedsRoot

theorem pure (err : ℤ) : InitNeedsRoot (Pure.pure err) := by
  rintro daemon trace err' daemon' ⟨rfl, -⟩ hmem
  cases hmem

theorem ite {condition : Prop} [Decidable condition] {yes no : MainProg ℤ}
    (hyes : InitNeedsRoot yes) (hno : InitNeedsRoot no) :
    InitNeedsRoot (if condition then yes else no) := by
  by_cases h : condition
  · simpa only [if_pos h] using hyes
  · simpa only [if_neg h] using hno

theorem library {op : FuseOp} {next : FuseAns op → MainProg ℤ} (hop : op ≠ .awaitInit)
    (hnext : ∀ answer, InitNeedsRoot (next answer)) :
    InitNeedsRoot (MainProg.library op >>= next) := by
  rintro daemon trace err daemon' ⟨answer, rest, rfl, hrest⟩ hmem
  rcases List.mem_cons.mp hmem with heq | hmem
  · cases heq
    exact absurd rfl hop
  · exact hnext answer _ _ _ _ hrest hmem

theorem release {inside : MainProg ℤ} {op : FuseOp} (hinside : InitNeedsRoot inside)
    (hop : op ≠ .awaitInit) :
    InitNeedsRoot (inside >>= fun err ↦ MainProg.library op >>= fun _ ↦ Pure.pure err) := by
  intro daemon trace err' daemon' hpath hmem
  obtain ⟨err, daemon₁, front, rest, hfront, hrest, rfl⟩ := Program.path_bind_done.mp hpath
  obtain ⟨answer, last, rfl, rfl, -⟩ := hrest
  rcases List.mem_append.mp hmem with hmem | hmem
  · exact hinside _ _ _ _ hfront hmem
  · cases List.mem_singleton.mp hmem
    exact absurd rfl hop

end InitNeedsRoot

theorem initNeedsRoot_runSession (plat : Platform) (fuel rounds : ℕ) :
    InitNeedsRoot (runSession plat fuel rounds) := by
  have hmounted : InitNeedsRoot (mountedSession plat fuel rounds) := by
    refine .library (by decide) fun _ ↦ .ite (.library (by decide) fun _ ↦ ?_) (.pure _)
    exact (initNeedsRoot_fuseSessionLoop plat fuel rounds).release (by decide)
  have hhandled : InitNeedsRoot (handledSession plat fuel rounds) :=
    .library (by decide) fun _ ↦ .ite (hmounted.release (by decide)) (.pure _)
  exact .library (by decide) fun _ ↦ .ite (hhandled.release (by decide)) (.pure _)

/-- A run that gets past `INIT` and exits has mounted the export. -/
theorem nonempty_mountedRun {plat : Platform} {fuel rounds : ℕ} {opts : CmdlineOpts}
    {trace : MainTrace} {status : ℤ} {last : Daemon}
    (hpath : ((main plat fuel rounds opts).run .initial).Path trace (.done status last))
    (hinit : initArrived ∈ trace) : Nonempty (MountedRun plat fuel rounds opts trace last) := by
  obtain ⟨err, mounted, front, rest, hmount, hrest, rfl⟩ := Program.path_bind_done.mp hpath
  obtain ⟨mounting, hmounting, rfl⟩ := Resumption.path_widen.mp hmount
  replace hinit := (List.mem_append.mp hinit).resolve_left (initArrived_notMem mounting)
  split_ifs at hrest with herr
  · obtain ⟨rfl, -⟩ := hrest
    cases hinit
  obtain ⟨ended, daemon, session, close, hsession, hclose, rfl⟩ := Program.path_bind_done.mp hrest
  obtain ⟨ret, daemon₁, back, nothing, hunmount, ⟨rfl, heq⟩, rfl⟩ :=
    Program.path_bind_done.mp hclose
  cases heq
  obtain ⟨unmounting, hunmounting, rfl⟩ := Resumption.path_widen.mp hunmount
  rw [not_not.mp herr] at hmounting
  rw [List.append_nil]
  exact ⟨⟨mounting, session, unmounting, mounted, daemon, ended, ret, rfl, hmounting, hsession,
    hunmounting⟩⟩

/-- **In every run of `main` that gets past `INIT` and exits, the server had accepted the mount, and
the client that `hsfs_do_unmount` hands to `clnt_destroy` is live exactly when every call of the
mount had succeeded and no reconnection of the NFS service failed in the session.**  `main` is taken
behind the command line and with the loop of a single thread, and no request applies anything to a
client that has been destroyed. -/
theorem unmounted_client_live_iff (plat : Platform) (fuel rounds : ℕ) (opts : CmdlineOpts)
    (trace : MainTrace) (status : ℤ) (last : Daemon)
    (hpath : ((main plat fuel rounds opts).run .initial).Path trace (.done status last))
    (hinit : initArrived ∈ trace) :
    Nonempty (MountedRun plat fuel rounds opts trace last) ∧
    ∀ run : MountedRun plat fuel rounds opts trace last, MountAccepted run.mounting ∧
      ∀ served clients, served.map SessionCarried.event = run.session →
        SessionCarries (.ofMount run.mounted) served clients → clients.pool.Clean →
        (clients.NfsLive ↔
          CallsSucceed run.mounting ∧ ∀ carried ∈ served, ¬ LosesNfs carried) := by
  refine ⟨nonempty_mountedRun hpath hinit, fun run ↦ ?_⟩
  rw [run.trace_eq] at hinit
  replace hinit := (List.mem_append.mp hinit).resolve_left (initArrived_notMem _)
  replace hinit := (List.mem_append.mp hinit).resolve_right (initArrived_notMem _)
  have hstored := initNeedsRoot_runSession _ _ _ _ _ _ _ run.serves hinit
  obtain ⟨haccepted, hplaced, hlive⟩ := hsfsDoMount_rooted run.mounts hstored
  refine ⟨haccepted, fun served clients _ hcarries hclean ↦ ?_⟩
  rw [← hlive]
  exact hcarries.nfsLive_iff hplaced hclean

theorem econnreset_ne_zero : econnreset ≠ 0 := by
  decide

/-- A `GETATTR` of the root that finds its connection reset and cannot open another one. -/
def lostGetattr : SessionCarried :=
  ⟨⟨.inl (.call (.getattr [1])), RpcOutcome.fail econnreset econnreset_ne_zero⟩,
    [⟨.clntCall 0 (.getattr [1]), none⟩, ⟨.clntGeterr 0, econnreset⟩, ⟨.openclnt .nfs, false⟩]⟩

/-- A session with this request. -/
def lostSession : List SessionCarried :=
  [⟨⟨.inr .sessionNew, true⟩, []⟩, ⟨⟨.inr .setSignalHandlers, (0 : ℤ)⟩, []⟩,
    ⟨⟨.inr .sessionMount, (0 : ℤ)⟩, []⟩, ⟨⟨.inr .daemonize, (0 : ℤ)⟩, []⟩, ⟨initArrived, []⟩,
    ⟨⟨.inr .receive, .inl (.getattr 1)⟩, []⟩, lostGetattr, ⟨⟨.inr .receive, .inr 0⟩, []⟩,
    ⟨⟨.inr .sessionUnmount, ()⟩, []⟩, ⟨⟨.inr .removeSignalHandlers, ()⟩, []⟩,
    ⟨⟨.inr .sessionDestroy, ()⟩, []⟩]

/-- The mount in front of it, in which all calls succeed. -/
def soundMount : Trace :=
  mountAttempt (.ok ⟨[1], rootHandle_fits⟩) ++ clientsCreated ++ rootFilled

theorem exists_lostRun : ∃ mounted daemon last,
    ((hsfsDoMount linuxHost 1 plainOpts).run .initial).Path soundMount (.done 0 mounted) ∧
    ((runSession linuxHost 1 2).run mounted).Path (lostSession.map SessionCarried.event)
      (.done 0 daemon) ∧
    ((hsfsDoUnmount plainOpts).run daemon).Path plainUnmount (.done 0 last) ∧
    Clients.ofMount mounted = mountedClients := by
  refine ⟨_, _, _, ⟨true, _, rfl, true, _, rfl, true, _, rfl, .found 0x7f000001, _, rfl, (0 : ℤ), _,
    rfl, true, _, rfl, _, _, rfl, true, _, rfl, true, _, rfl, (0 : ℤ), _, rfl, true, _, rfl,
    (0 : ℤ), _, rfl, _, _, rfl, true, _, rfl, _, _, rfl, rfl, rfl⟩,
    ⟨true, _, rfl, (0 : ℤ), _, rfl, (0 : ℤ), _, rfl, (0 : ℤ), _, rfl, none, _, rfl,
      .inl (.getattr 1), _, rfl, _, _, rfl, .inr 0, _, rfl, (), _, rfl, (), _, rfl, (), _, rfl,
      rfl, rfl⟩,
    ⟨true, _, rfl, true, _, rfl, true, _, rfl, true, _, rfl, (0 : ℤ), _, rfl, rfl, rfl⟩, rfl⟩

/-- After the failed reconnection the closed client is still in the superblock, and
`hsfs_do_unmount` destroys it once more. -/
theorem unmounted_client_dead_lostSession :
    ∃ trace last clients, ∃ run : MountedRun linuxHost 1 2 plainOpts trace last,
      CallsSucceed run.mounting ∧ run.session = lostSession.map SessionCarried.event ∧
      SessionCarries (.ofMount run.mounted) lostSession clients ∧ clients.pool.Clean ∧
      ¬ clients.NfsLive := by
  obtain ⟨mounted, daemon, last, hmount, hsession, hunmount, hclients⟩ := exists_lostRun
  let run : MountedRun linuxHost 1 2 plainOpts _ last :=
    ⟨soundMount, lostSession.map SessionCarried.event, plainUnmount, mounted, daemon, 0, 0, rfl,
      hmount, hsession, hunmount⟩
  obtain ⟨clients, hcarries, hclean⟩ : ∃ clients,
      SessionCarries (.ofMount mounted) lostSession clients ∧ clients.pool.Clean := by
    rw [hclients]
    refine ⟨_, ⟨_, ⟨rfl, rfl⟩, _, ⟨rfl, rfl⟩, _, ⟨rfl, rfl⟩, _, ⟨rfl, rfl⟩, _, ⟨rfl, rfl⟩,
      _, ⟨rfl, rfl⟩, _, ⟨_, _, rfl, _, _, rfl, _, _, rfl, rfl, rfl⟩, _, ⟨rfl, rfl⟩, _, ⟨rfl, rfl⟩,
      _, ⟨rfl, rfl⟩, _, ⟨rfl, rfl⟩, rfl⟩, ?_⟩
    change ∀ use ∈ [(⟨.clntCall, 0, true⟩ : Use ClientUse), ⟨.clntGeterr, 0, true⟩,
      ⟨.closeclnt, 0, true⟩], use.live = true
    simp
  have hinit : initArrived ∈ soundMount.map Event.inl ++
      (lostSession.map SessionCarried.event ++ plainUnmount.map Event.inl) := by
    simp [lostSession]
  have hcalls : CallsSucceed soundMount := by
    simp [soundMount, mountAttempt, clientsCreated, rootFilled, CallSucceeded, statusOf]
  obtain ⟨-, hruns⟩ := unmounted_client_live_iff linuxHost 1 2 plainOpts _ _ last run.path hinit
  obtain ⟨-, hlive⟩ := hruns run
  refine ⟨_, last, clients, run, hcalls, rfl, hcarries, hclean, ?_⟩
  rw [hlive lostSession clients rfl hcarries hclean]
  rintro ⟨-, hkept⟩
  exact hkept lostGetattr (by simp [lostSession]) ⟨rfl, rfl⟩

end NfsFuse
