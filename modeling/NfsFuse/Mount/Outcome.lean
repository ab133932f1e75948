import NfsFuse.Lib.Footprint
import NfsFuse.Mount.FillSuper

/-!
# What a mount reports

`hsfs_do_mount` should return 0 exactly when the server accepted the mount, the NFS client is alive
and the root is cached as inode 1.  Once the clients exist it always returns 0, so the result tells
the truth exactly on the runs in which the `MNT` reply was not a refusal and every remote call of
`hsi_fill_super` succeeded.
-/

namespace NfsFuse

open Lib

/-- The answer to a `MNT` call. -/
def mntAnswer : Event EnvAns → Option (RpcOutcome NfsFh3)
  | ⟨.host (.mnt _), answer⟩ => some answer
  | _ => none

/-- The last answer to a `MNT` call. -/
def mountReply (trace : Trace) : Option (RpcOutcome NfsFh3) :=
  (trace.filterMap mntAnswer).getLast?

/-- The question is the `NULL` call that ends the creation of a client. -/
def EnvOp.isPing : EnvOp → Bool
  | .host (.ping _) => true
  | _ => false

/-- The question is a remote call of the file system. -/
def EnvOp.isCall : EnvOp → Bool
  | .call _ => true
  | _ => false

theorem mountReply_append (front rest : Trace) :
    mountReply (front ++ rest) = (mountReply rest).or (mountReply front) := by
  rw [mountReply, List.filterMap_append, List.getLast?_append]
  rfl

theorem mountReply_eq_none {trace : Trace} (h : ∀ event ∈ trace, mntAnswer event = none) :
    mountReply trace = none := by
  rw [mountReply, List.filterMap_eq_nil_iff.mpr h, List.getLast?_nil]

/-- The server accepted the mount. -/
def MountAccepted (trace : Trace) : Prop := ∃ fh, mountReply trace = some (.done (.ok fh))

/-- `super->clntp` is a live client. -/
def Daemon.ClientLive (daemon : Daemon) : Prop :=
  ∃ client ∈ daemon.liveClients, daemon.sb.clntp = some client

/-- `super->root` is a cached inode with number 1. -/
def Daemon.RootCached (daemon : Daemon) : Prop :=
  ∃ index, daemon.sb.root = .obj index ∧ index ∉ daemon.freed ∧ daemon.findIno 1 = some index

/-- The result tells the truth. -/
def MountTruthful (ret : ℤ) (trace : Trace) (daemon : Daemon) : Prop :=
  ret = 0 ↔ MountAccepted trace ∧ daemon.ClientLive ∧ daemon.RootCached

/-- Once a client has been created, the `MNT` reply was no refusal and every remote call
succeeded. -/
def MountSucceeds (trace : Trace) : Prop :=
  (∃ event ∈ trace, event.op.isPing = true) → MountAccepted trace ∧ CallsSucceed trace

/-- Questions asked before the first client exists. -/
abbrev Preparing (event : Event EnvAns) : Prop :=
  event.op.isPing = false ∧ event.op.isCall = false

/-- These questions, with the servers to which clients are opened. -/
inductive PreparingOp (servers : Pmap → Prop) : EnvOp → Prop
  | malloc (site : MallocSite) : PreparingOp servers (.malloc site)
  | resolve (host : CString) : PreparingOp servers (.host (.resolve host))
  | openClient {server : Pmap} (h : servers server) : PreparingOp servers
    (.host (.openClient server))
  | mnt (dirname : CString) : PreparingOp servers (.host (.mnt dirname))
  | time : PreparingOp servers (.host .time)
  | rpcCreateerr : PreparingOp servers (.host .rpcCreateerr)

/-- What asks only such questions and changes nothing. -/
def preparingParts (servers : Pmap → Prop) : Footprint EnvOp Fault Empty where
  faults _ := True
  ops := PreparingOp servers
  labels _ := False

/-- A program that only prepares. -/
abbrev Prog.Prepares {α : Type} (program : Prog α) (servers : Pmap → Prop) : Prop :=
  program.Within Empty.elim (preparingParts servers)

theorem Prog.Prepares.emits {α : Type} {program : Prog α} {servers : Pmap → Prop}
    (h : program.Prepares servers) : program.Emits Preparing := by
  refine Program.Within.emits h ?_
  rintro _ (site | host | _ | dirname | _ | _) answer <;> exact ⟨rfl, rfl⟩

theorem Prog.Prepares.untouched {α : Type} {program : Prog α} {servers : Pmap → Prop}
    (h : program.Prepares servers) : program.Respects Untouched :=
  Program.Within.respects h fun label ↦ label.elim

section Preparing

variable {servers : Pmap → Prop}

theorem prepares_malloc (site : MallocSite) : (Prog.malloc site).Prepares servers :=
  .ask (.malloc site)

theorem prepares_copyDevname (host path : CString) : (copyDevname host path).Prepares servers := by
  refine .ite (.pure _) (.ite (.pure _) (.bind (prepares_malloc _) fun _ ↦ .ite ?_ (.pure _)))
  exact .bind (prepares_malloc _) fun _ ↦ .ite (.pure _) (.pure _)

theorem prepares_nfsParseDevname (devname : CString) :
    (nfsParseDevname devname).Prepares servers := by
  refine .bind (prepares_malloc _) fun _ ↦ .ite ?_ (.pure _)
  split
  · unfold nfsParseSquareBracket
    split
    · exact prepares_copyDevname _ _
    · exact .pure _
  · refine .ite (.pure _) ?_
    unfold nfsParseSimpleHostname
    split
    · exact .pure _
    · exact .ite (.pure _) (.ite (prepares_copyDevname _ _) (prepares_copyDevname _ _))

theorem prepares_hsiGethostbyname (hostname : CString) :
    (hsiGethostbyname hostname).Prepares servers := by
  refine .bind (.ask (.resolve hostname)) fun resolution ↦ ?_
  split <;> exact .pure _

theorem prepares_hsiNfs3ParseOptions (oldOpts : CString) (data : MountData) (optSize : ℕ) :
    (hsiNfs3ParseOptions oldOpts data optSize).Prepares servers := by
  unfold hsiNfs3ParseOptions
  split
  · exact .crash trivial
  · exact .pure _
  · exact .pure _
  · split
    · exact .pure _
    · exact .bind (prepares_hsiGethostbyname _) fun _ ↦ .ite (.pure _) (.pure _)

theorem prepares_hsiNfs3Mount {server : Pmap} (hserver : servers server) (dirname : CString) :
    (hsiNfs3Mount server dirname).Prepares servers := by
  refine .bind (.ite (.ask (.openClient hserver)) (.pure _)) fun _ ↦ .ite ?_ (.pure _)
  refine .bind (.ask (.mnt dirname)) fun outcome ↦ .bind (prepares_malloc _) fun _ ↦
    .ite ?_ (.pure _)
  split <;> exact .pure _

theorem prepares_mountLoop (fg : Bool) {server : Pmap} (hserver : servers server)
    (dirname : CString) (timeout : ℤ) (fuel : ℕ) :
    (mountLoop fg server dirname timeout fuel).Prepares servers := by
  induction fuel with
  | zero => exact .crash trivial
  | succ fuel ih =>
    refine .bind (prepares_hsiNfs3Mount hserver dirname) fun result ↦ .ite (.pure _) (.ite ?_ ih)
    refine .bind (.ask .rpcCreateerr) fun reason ↦ .ite ?_ (.pure _)
    exact .bind (.ask .time) fun _ ↦ .ite (.pure _) ih

end Preparing

/-- A result of the `MNT` call: success comes with the reply that was received last. -/
def MountResult (trace : Trace) : ℤ × Option (NfsRes NfsFh3) → Prop
  | (ret, some reply) => ret = 0 ∧ mountReply trace = some (.done reply)
  | (ret, none) => ret ≠ 0

/-- What happened before a result does not matter to it. -/
theorem MountResult.append {rest : Trace} {result : ℤ × Option (NfsRes NfsFh3)}
    (h : MountResult rest result) (front : Trace) : MountResult (front ++ rest) result := by
  obtain ⟨ret, _ | reply⟩ := result
  · exact h
  · refine ⟨h.1, ?_⟩
    rw [mountReply_append, h.2]
    rfl

theorem hsiNfs3Mount_done {server : Pmap} {dirname : CString} {daemon daemon' : Daemon}
    {trace : Trace} {result : ℤ × Option (NfsRes NfsFh3)}
    (hpath : ((hsiNfs3Mount server dirname).run daemon).Path trace (.done result daemon')) :
    MountResult trace result := by
  obtain ⟨opened, daemon₁, front, rest, -, hrest, rfl⟩ := Program.path_bind_done.mp hpath
  apply MountResult.append
  cases opened with
  | false =>
    cases hrest.2
    exact (by decide : (-1 : ℤ) ≠ 0)
  | true =>
    obtain ⟨outcome, rest, rfl, allocated, rest, rfl, hrest⟩ := hrest
    cases allocated with
    | false =>
      cases hrest.2
      exact (by decide : enomem ≠ 0)
    | true =>
      cases outcome with
      | fail err hne =>
        cases hrest.2
        exact hne
      | done reply =>
        obtain ⟨rfl, heq⟩ := hrest
        cases heq
        exact ⟨rfl, rfl⟩

/-- The retry loop hands on the reply that ended it, or an error. -/
theorem mountLoop_done {fg : Bool} {server : Pmap} {dirname : CString} {timeout : ℤ} {fuel : ℕ}
    {daemon daemon' : Daemon} {trace : Trace} {result : ℤ × Option (NfsRes NfsFh3)}
    (hpath : ((mountLoop fg server dirname timeout fuel).run daemon).Path trace
      (.done result daemon')) : MountResult trace result := by
  induction fuel generalizing daemon trace with
  | zero => cases hpath.2
  | succ fuel ih =>
    obtain ⟨⟨ret, res⟩, daemon₁, front, rest, hfront, hrest, rfl⟩ :=
      Program.path_bind_done.mp hpath
    have hmount := hsiNfs3Mount_done hfront
    dsimp only at hrest
    split_ifs at hrest with hret hfg
    · obtain ⟨rfl, heq⟩ := hrest
      cases heq
      rw [List.append_nil]
      exact hmount
    · obtain ⟨⟨cfStat, errno⟩, rest, rfl, hreason⟩ := Prog.path_host_bind.mp hrest
      apply MountResult.append
      split_ifs at hreason with htimeout
      · obtain ⟨t, rest, rfl, htime⟩ := Prog.path_host_bind.mp hreason
        split_ifs at htime with hlate
        · cases htime.2
          exact hret
        · exact (ih htime).append [_, _]
      · cases hreason.2
        exact hret
    · exact (ih hrest).append front

/-- How a mount ends: with an error before any client exists, or in the part behind the retry
loop. -/
inductive MountEnds (plat : Platform) (daemon : Daemon) (trace : Trace) (ret : ℤ)
    (daemon' : Daemon) : Prop where
  | failed (hret : ret ≠ 0) (hquiet : ∀ event ∈ trace, Preparing event)
      (huntouched : Untouched daemon daemon')
  | finished {daemon₁ : Daemon} {front rest : Trace} {mnt nfs : Pmap} {dirname : CString}
      {mntres : NfsRes NfsFh3} (htrace : trace = front ++ rest)
      (hquiet : ∀ event ∈ front, Preparing event)
      (hreply : mountReply front = some (.done mntres)) (huntouched : Untouched daemon daemon₁)
      (hpath : ((finishMount plat mnt nfs dirname mntres).run daemon₁).Path rest
        (.done ret daemon'))

/-- A step before the client exists. -/
theorem MountEnds.after {plat : Platform} {daemon daemon₁ daemon' : Daemon} {front rest : Trace}
    {ret : ℤ} (hquiet : ∀ event ∈ front, Preparing event)
    (huntouched : Untouched daemon daemon₁) (h : MountEnds plat daemon₁ rest ret daemon') :
    MountEnds plat daemon (front ++ rest) ret daemon' := by
  have happend {more : Trace} (hmore : ∀ event ∈ more, Preparing event) :
      ∀ event ∈ front ++ more, Preparing event := by
    intro event hmem
    rcases List.mem_append.mp hmem with hmem | hmem
    · exact hquiet event hmem
    · exact hmore event hmem
  cases h with
  | failed hret hquiet' huntouched' =>
    exact .failed hret (happend hquiet') (IsTrans.trans _ _ _ huntouched huntouched')
  | @finished _ front' rest' _ _ _ _ htrace hquiet' hreply huntouched' hpath =>
    have htrace' : front ++ rest = (front ++ front') ++ rest' := by
      rw [htrace, List.append_assoc]
    refine .finished htrace' (happend hquiet') ?_ (IsTrans.trans _ _ _ huntouched huntouched') hpath
    rw [mountReply_append, hreply]
    rfl

/-- Every returning run of the program ends a mount. -/
def Prog.EndsMount (program : Prog ℤ) (plat : Platform) : Prop :=
  ∀ daemon trace ret daemon', (program.run daemon).Path trace (.done ret daemon') →
    MountEnds plat daemon trace ret daemon'

theorem Prog.EndsMount.pure {plat : Platform} {ret : ℤ} (h : ret ≠ 0) :
    (Pure.pure ret : Prog ℤ).EndsMount plat := by
  rintro daemon trace ret daemon' ⟨rfl, heq⟩
  cases heq
  exact .failed h (by simp) (Std.Refl.refl _)

theorem Prog.EndsMount.bind {α : Type} {plat : Platform} {first : Prog α} {next : α → Prog ℤ}
    (hemits : first.Emits Preparing) (huntouched : first.Respects Untouched)
    (hnext : ∀ value, (next value).EndsMount plat) : (first >>= next).EndsMount plat := by
  intro daemon trace ret daemon' hpath
  obtain ⟨value, daemon₁, front, rest, hfirst, hrest, rfl⟩ := Program.path_bind_done.mp hpath
  exact .after (hemits _ _ _ hfirst) (huntouched _ _ _ _ hfirst) (hnext _ _ _ _ _ hrest)

theorem Prog.EndsMount.prepare {α : Type} {plat : Platform} {first : Prog α} {next : α → Prog ℤ}
    (hfirst : first.Prepares fun _ ↦ True) (hnext : ∀ value, (next value).EndsMount plat) :
    (first >>= next).EndsMount plat :=
  .bind hfirst.emits hfirst.untouched hnext

theorem Prog.EndsMount.ite {plat : Platform} {condition : Prop} [Decidable condition]
    {yes no : Prog ℤ} (hyes : yes.EndsMount plat) (hno : no.EndsMount plat) :
    (if condition then yes else no).EndsMount plat := by
  by_cases h : condition
  · simpa only [if_pos h] using hyes
  · simpa only [if_neg h] using hno

theorem endsMount_mountServer (plat : Platform) (fuel : ℕ) (fg : Bool) (data : MountData)
    (dirname : CString) : (mountServer plat fuel fg data dirname).EndsMount plat := by
  refine .ite ?_ (.bind (.host fun _ ↦ ⟨rfl, rfl⟩) (.host _) fun now ↦ ?_)
  · intro daemon trace ret daemon' hpath
    cases hpath.2
  · intro daemon trace ret daemon' hpath
    obtain ⟨⟨ret₁, res⟩, daemon₁, front, rest, hloop, hrest, rfl⟩ :=
      Program.path_bind_done.mp hpath
    have hprepares := @prepares_mountLoop (fun _ ↦ True) fg data.mnt trivial dirname
      (now + 60 * data.retry) fuel
    have hquiet := hprepares.emits _ _ _ hloop
    have huntouched := hprepares.untouched _ _ _ _ hloop
    have hresult := mountLoop_done hloop
    cases res with
    | none => exact .after hquiet huntouched (Prog.EndsMount.pure hresult _ _ _ _ hrest)
    | some mntres => exact .finished rfl hquiet hresult.2 huntouched hrest

theorem endsMount_hsfsDoMount (plat : Platform) (fuel : ℕ) (opts : CmdlineOpts) :
    (hsfsDoMount plat fuel opts).EndsMount plat := by
  have hminus : (-1 : ℤ) ≠ 0 := by decide
  have hsuper (update : HsfsSuper → HsfsSuper) : (Prog.modifySuper update).Emits Preparing :=
    .modify _
  refine .ite (.pure hminus) ?_
  refine .prepare (prepares_nfsParseDevname _) fun parts ↦ ?_
  split
  · exact .pure hminus
  · refine .prepare (prepares_hsiGethostbyname _) fun address ↦ ?_
    refine .bind (hsuper _) (untouched_modifySuper _) fun _ ↦ .ite (.pure hminus) ?_
    refine .prepare .get fun daemon ↦ .prepare (prepares_hsiNfs3ParseOptions _ _ _) fun parsed ↦ ?_
    refine .bind (hsuper _) (untouched_modifySuper _) fun _ ↦
      .ite (.pure hminus) (.ite (.pure hminus) ?_)
    exact .bind (hsuper _) (untouched_modifySuper _) fun _ ↦ endsMount_mountServer _ _ _ _ _

/-! ## Behind the retry loop -/

theorem Mounted.rootCached {daemon : Daemon} (h : Mounted daemon) : daemon.RootCached := by
  refine ⟨0, h.root_eq, by simp [h.coherent.freed_nil], ?_⟩
  rw [h.coherent.findIno_eq_some_iff, h.length_eq]
  exact ⟨Nat.zero_lt_one, h.ino_eq⟩

/-- What a client creation does: the questions are no calls, and a client it returns is new and
live. -/
theorem hsiNfs3ClntCreate_done {server : Pmap} {daemon daemon' : Daemon} {trace : Trace}
    {client : Option ℕ}
    (hpath : ((hsiNfs3ClntCreate server).run daemon).Path trace (.done client daemon')) :
    (daemon'.sb = daemon.sb ∧ daemon'.heap = daemon.heap ∧ daemon'.freed = daemon.freed ∧
        daemon.liveClients ⊆ daemon'.liveClients) ∧
      (∀ event ∈ trace, mntAnswer event = none ∧ CallSucceeded event) ∧
      ∀ created, client = some created → created ∈ daemon'.liveClients ∧
        ∃ event ∈ trace, event.op.isPing = true := by
  unfold hsiNfs3ClntCreate hsiMntOpenclnt at hpath
  split_ifs at hpath
  · obtain ⟨opened, rest, rfl, hrest⟩ := Prog.path_host_bind.mp hpath
    cases opened with
    | false =>
      obtain ⟨rfl, heq⟩ := hrest
      cases heq
      simp [mntAnswer, CallSucceeded]
    | true =>
      obtain ⟨ret, rest, rfl, hping⟩ := Prog.path_host_bind.mp hrest
      split_ifs at hping
      · obtain ⟨rfl, heq⟩ := hping
        cases heq
        simp [mntAnswer, CallSucceeded]
      · obtain ⟨rfl, heq⟩ := hping
        cases heq
        simp [mntAnswer, CallSucceeded, EnvOp.isPing]
  · obtain ⟨rfl, heq⟩ := hpath
    cases heq
    simp

theorem hsiNfs3Unmount_done {server : Pmap} {dirname : CString} {daemon daemon' : Daemon}
    {trace : Trace} {ret : ℤ}
    (hpath : ((hsiNfs3Unmount server dirname).run daemon).Path trace (.done ret daemon')) :
    daemon' = daemon ∧ ∀ event ∈ trace, mntAnswer event = none ∧ CallSucceeded event := by
  unfold hsiNfs3Unmount hsiMntOpenclnt at hpath
  split_ifs at hpath
  · obtain ⟨opened, rest, rfl, hrest⟩ := Prog.path_host_bind.mp hpath
    cases opened with
    | false =>
      obtain ⟨rfl, heq⟩ := hrest
      cases heq
      simp [mntAnswer, CallSucceeded]
    | true =>
      obtain ⟨ret, rest, rfl, rfl, heq⟩ := hrest
      cases heq
      simp [mntAnswer, CallSucceeded]
  · obtain ⟨rfl, heq⟩ := hpath
    cases heq
    simp

/-- Behind `umnt_fail` the NFS client is gone. -/
theorem umntFail_done {server : Pmap} {dirname : CString} {daemon daemon' : Daemon}
    {trace : Trace} (hpath : ((umntFail server dirname).run daemon).Path trace (.done () daemon')) :
    ¬ daemon'.ClientLive ∧ ∀ event ∈ trace, mntAnswer event = none ∧ CallSucceeded event := by
  -- Whatever happens to the other client, the run goes on to destroy `super->clntp`.
  have hdestroy : ∀ liveClients, ((do
      clntDestroy daemon.sb.clntp
      let _ ← hsiNfs3Unmount server dirname
      return () : Prog Unit).run { daemon with liveClients := liveClients }).Path trace
        (.done () daemon') →
      ¬ daemon'.ClientLive ∧ ∀ event ∈ trace, mntAnswer event = none ∧ CallSucceeded event := by
    intro liveClients hrest
    cases hclntp : daemon.sb.clntp with
    | none =>
      rw [hclntp] at hrest
      cases hrest.2
    | some client =>
      rw [hclntp, clntDestroy, Program.modify_bind] at hrest
      obtain ⟨ret, daemon₁, front, rest, hunmount, ⟨rfl, heq⟩, rfl⟩ :=
        Program.path_bind_done.mp hrest
      cases heq
      obtain ⟨rfl, hevents⟩ := hsiNfs3Unmount_done hunmount
      rw [List.append_nil]
      refine ⟨?_, hevents⟩
      rintro ⟨other, hmem, heq⟩
      rw [show daemon.sb.clntp = some client from hclntp] at heq
      cases heq
      simp at hmem
  unfold umntFail at hpath
  rw [Program.get_bind] at hpath
  cases haclClntp : daemon.sb.aclClntp with
  | none =>
    rw [haclClntp] at hpath
    exact hdestroy daemon.liveClients hpath
  | some client =>
    rw [haclClntp] at hpath
    exact hdestroy _ hpath

/-- The label `umnt_fail` goes through a missing NFS client. -/
theorem umntFail_none {server : Pmap} {dirname : CString} {daemon daemon' : Daemon}
    {trace : Trace} (hclntp : daemon.sb.clntp = none) :
    ¬ ((umntFail server dirname).run daemon).Path trace (.done () daemon') := by
  unfold umntFail
  rw [Program.get_bind]
  cases haclClntp : daemon.sb.aclClntp with
  | none =>
    rw [hclntp]
    exact fun hpath ↦ nomatch hpath.2
  | some client =>
    rw [hclntp]
    exact fun hpath ↦ nomatch hpath.2

/-- What `hsi_fill_super` and its error label leave behind: the client and the root are there
exactly when the calls succeeded. -/
theorem fillSuper_done {plat : Platform} {mnt : Pmap} {dirname : CString} {fh : NfsFh3}
    {daemon daemon' : Daemon} {trace : Trace} {ret : ℤ} (hheap : daemon.heap = [])
    (hfreed : daemon.freed = []) (hlive : daemon.ClientLive)
    (hpath : ((do
      let err ← hsiFillSuper plat fh
      if err ≠ 0 then
        umntFail mnt dirname
        return 0
      else
        return 0 : Prog ℤ).run daemon).Path trace (.done ret daemon')) :
    ret = 0 ∧ (∀ event ∈ trace, mntAnswer event = none) ∧
      (CallsSucceed trace ↔ daemon'.ClientLive ∧ daemon'.RootCached) := by
  obtain ⟨err, daemon₁, front, rest, hfill, hrest, rfl⟩ := Program.path_bind_done.mp hpath
  obtain ⟨hcalls, hmounted, hclients, hhost⟩ := hsiFillSuper_done hheap hfreed hfill
  have hfront : ∀ event ∈ front, mntAnswer event = none := by
    intro event hmem
    have hquiet := hhost event hmem
    unfold mntAnswer
    split
    · cases hquiet
    · rfl
  split_ifs at hrest with herr
  · obtain ⟨⟨⟩, daemon₂, middle, last, hfail, hdone, rfl⟩ := Program.path_bind_done.mp hrest
    obtain ⟨rfl, heq⟩ := hdone
    cases heq
    obtain ⟨hdead, hevents⟩ := umntFail_done hfail
    refine ⟨rfl, ?_, ?_⟩
    · rw [List.append_nil, List.forall_mem_append]
      exact ⟨hfront, fun event hmem ↦ (hevents event hmem).1⟩
    · refine iff_of_false ?_ fun h ↦ hdead h.1
      rw [callsSucceed_append, ← hcalls]
      exact fun h ↦ herr h.1
  · obtain ⟨rfl, heq⟩ := hrest
    cases heq
    rw [List.append_nil]
    refine ⟨rfl, hfront, ?_⟩
    refine iff_of_true (hcalls.mp (not_not.mp herr)) ⟨?_, (hmounted (not_not.mp herr)).rootCached⟩
    obtain ⟨client, hmem, hclntp⟩ := hlive
    exact ⟨client, hclients.liveClients_eq ▸ hmem, hclients.clntp_eq.trans hclntp⟩

/-- The part behind the retry loop always returns 0; after an accepted mount the client and the root
are there exactly when the calls of `hsi_fill_super` succeed. -/
theorem finishMount_done {plat : Platform} {mnt nfs : Pmap} {dirname : CString}
    {mntres : NfsRes NfsFh3} {daemon daemon' : Daemon} {trace : Trace} {ret : ℤ}
    (hheap : daemon.heap = []) (hfreed : daemon.freed = [])
    (hpath : ((finishMount plat mnt nfs dirname mntres).run daemon).Path trace
      (.done ret daemon')) :
    ret = 0 ∧ (∃ event ∈ trace, event.op.isPing = true) ∧
      (∀ event ∈ trace, mntAnswer event = none) ∧
      ∀ fh, mntres = .ok fh →
        (CallsSucceed trace ↔ daemon'.ClientLive ∧ daemon'.RootCached) := by
  unfold finishMount at hpath
  obtain ⟨clntp, daemon₁, front, rest, hcreate, hrest, rfl⟩ := Program.path_bind_done.mp hpath
  obtain ⟨⟨-, hheap₁, hfreed₁, -⟩, hquiet₁, hclient⟩ := hsiNfs3ClntCreate_done hcreate
  rw [Prog.modifySuper_bind] at hrest
  cases clntp with
  | none =>
    -- Destroying the missing client goes through `NULL`.
    rw [if_pos rfl] at hrest
    obtain ⟨⟨⟩, daemon₂, middle, last, hfail, -, -⟩ := Program.path_bind_done.mp hrest
    exact (umntFail_none rfl hfail).elim
  | some client =>
    obtain ⟨hlive₁, hping⟩ := hclient client rfl
    rw [if_neg (by simp)] at hrest
    obtain ⟨aclClntp, daemon₂, middle, last, hacl, hlast, rfl⟩ := Program.path_bind_done.mp hrest
    obtain ⟨⟨hsb₂, hheap₂, hfreed₂, hsubset⟩, hquiet₂, -⟩ := hsiNfs3ClntCreate_done hacl
    rw [Prog.modifySuper_bind] at hlast
    have hquiet : ∀ event ∈ front ++ middle, mntAnswer event = none ∧ CallSucceeded event := by
      rw [List.forall_mem_append]
      exact ⟨hquiet₁, hquiet₂⟩
    obtain ⟨event, hmem, hevent⟩ := hping
    have hping' : ∃ event ∈ front ++ (middle ++ last), event.op.isPing = true :=
      ⟨event, List.mem_append_left _ hmem, hevent⟩
    rw [← List.append_assoc] at hping' ⊢
    rw [callsSucceed_append, List.forall_mem_append]
    have hfront : ∀ event ∈ front ++ middle, mntAnswer event = none :=
      fun event hmem ↦ (hquiet event hmem).1
    have hcalls : CallsSucceed (front ++ middle) := fun event hmem ↦ (hquiet event hmem).2
    cases mntres with
    | fail status hne =>
      obtain ⟨rfl, heq⟩ := hlast
      cases heq
      exact ⟨rfl, hping', ⟨hfront, by simp⟩, fun _ h ↦ nomatch h⟩
    | ok fh =>
      have hfill := fun hheap hfreed hlive ↦ fillSuper_done hheap hfreed hlive hlast
      obtain ⟨hret, hevents, htruth⟩ := hfill (hheap₂.trans (hheap₁.trans hheap))
        (hfreed₂.trans (hfreed₁.trans hfreed))
        ⟨client, hsubset hlive₁, congrArg HsfsSuper.clntp hsb₂⟩
      refine ⟨hret, hping', ⟨hfront, hevents⟩, fun _ _ ↦ ?_⟩
      rw [← htruth]
      exact and_iff_right hcalls

/-! ## The result of `hsfs_do_mount` -/

/-- **`hsfs_do_mount` tells the truth exactly on the runs in which, once there is a client, the
`MNT` reply was no refusal and every remote call succeeded.** -/
theorem mount_truthful_iff (plat : Platform) (fuel : ℕ) (opts : CmdlineOpts) (trace : Trace)
    (ret : ℤ) (daemon : Daemon)
    (hpath : ((hsfsDoMount plat fuel opts).run .initial).Path trace (.done ret daemon)) :
    MountTruthful ret trace daemon ↔ MountSucceeds trace := by
  cases endsMount_hsfsDoMount plat fuel opts _ _ _ _ hpath with
  | failed hret hquiet huntouched =>
    have hlive : ¬ daemon.ClientLive := by
      rintro ⟨client, hmem, -⟩
      rw [huntouched.liveClients_eq] at hmem
      cases hmem
    refine iff_of_true (iff_of_false hret fun h ↦ hlive h.2.1) ?_
    rintro ⟨event, hmem, hping⟩
    rw [(hquiet event hmem).1] at hping
    cases hping
  | @finished daemon₁ front rest mnt nfs dirname mntres htrace hquiet hreply huntouched hfinish =>
    obtain ⟨rfl, hping, hnone, hclient⟩ :=
      finishMount_done huntouched.heap_eq huntouched.freed_eq hfinish
    have hlast : mountReply trace = some (.done mntres) := by
      rw [htrace, mountReply_append, mountReply_eq_none hnone, hreply]
      rfl
    have hcalls : CallsSucceed front := by
      intro event hmem
      have hcall := (hquiet event hmem).2
      unfold CallSucceeded
      split
      · cases hcall
      · trivial
    have hstarted : ∃ event ∈ trace, event.op.isPing = true := by
      obtain ⟨event, hmem, hevent⟩ := hping
      exact ⟨event, htrace ▸ List.mem_append_right _ hmem, hevent⟩
    rw [MountTruthful, MountSucceeds, imp_iff_right hstarted, iff_true_left rfl]
    refine and_congr_right fun ⟨fh, haccepted⟩ ↦ ?_
    rw [hlast] at haccepted
    cases haccepted
    rw [htrace, callsSucceed_append, ← hclient fh rfl]
    exact (and_iff_right hcalls).symm

/-- The command line `hsfs h:/x /mnt`. -/
def plainOpts : CmdlineOpts := ⟨[104, 58, 47, 120], none, true⟩

/-- The NFS service as `hsi_validate_mount_data` completes it. -/
def tcpService (program : UInt64) : Pmap := ⟨program, 3, ipprotoTcp, 0⟩

/-- The run of `hsfs h:/x /mnt` up to the reply to `MNT`. -/
def mountAttempt (reply : NfsRes NfsFh3) : Trace :=
  [⟨.malloc .devname, true⟩, ⟨.malloc .hostname, true⟩, ⟨.malloc .pathname, true⟩,
    ⟨.host (.resolve [104]), Resolution.found 0x7f000001⟩, ⟨.host .time, (0 : ℤ)⟩,
    ⟨.host (.openClient (tcpService 100005)), true⟩,
    ⟨.host (.mnt [47, 120]), RpcOutcome.done reply⟩, ⟨.malloc .mountFh, true⟩]

/-- The creation of both clients. -/
def clientsCreated : Trace :=
  [⟨.host (.openClient (tcpService 100003)), true⟩, ⟨.host (.ping (tcpService 100003)), (0 : ℤ)⟩,
    ⟨.host (.openClient (tcpService 100227)), true⟩, ⟨.host (.ping (tcpService 100227)), (0 : ℤ)⟩]

/-- Attributes of an exported directory. -/
def rootAttr : Fattr3 where
  type := nf3dir
  mode := 0o755
  nlink := 2
  uid := 0
  gid := 0
  size := 512
  used := 512
  rdev := ⟨0, 0⟩
  fsid := 1
  fileid := 1
  atime := ⟨1, 0⟩
  mtime := ⟨1, 0⟩
  ctime := ⟨1, 0⟩

/-- An `FSINFO` reply for it. -/
def rootFsinfo : Fsinfo3resok where
  objAttributes := some rootAttr
  rtmax := 65536
  rtpref := 65536
  rtmult := 512
  wtmax := 65536
  wtpref := 65536
  wtmult := 512
  dtpref := 4096
  maxfilesize := 0x7fffffffffffffff
  timeDelta := ⟨0, 1⟩
  properties := 0

theorem rootHandle_fits : [(1 : UInt8)].length ≤ 64 := by
  decide

/-- The calls of `hsi_fill_super` for a root with handle `[1]`, all successful. -/
def rootFilled : Trace :=
  [⟨.call (.fsinfo [1]), RpcOutcome.done (.ok rootFsinfo)⟩,
    ⟨.malloc .nfsInode, true⟩,
    ⟨.call (.pathconf [1]), RpcOutcome.done (.ok (⟨255⟩ : Pathconf3resok))⟩]

/-- A mount whose calls all succeed is reported as one. -/
theorem mount_truthful_plainOpts : ∃ daemon,
    ((hsfsDoMount linuxHost 1 plainOpts).run .initial).Path
      (mountAttempt (.ok ⟨[1], by decide⟩) ++ clientsCreated ++ rootFilled) (.done 0 daemon) ∧
    MountTruthful 0 (mountAttempt (.ok ⟨[1], by decide⟩) ++ clientsCreated ++ rootFilled)
      daemon := by
  have hpath : ∃ daemon, ((hsfsDoMount linuxHost 1 plainOpts).run .initial).Path
      (mountAttempt (.ok ⟨[1], by decide⟩) ++ clientsCreated ++ rootFilled) (.done 0 daemon) :=
    ⟨_, true, _, rfl, true, _, rfl, true, _, rfl, .found 0x7f000001, _, rfl, (0 : ℤ), _, rfl,
      true, _, rfl, _, _, rfl, true, _, rfl, true, _, rfl, (0 : ℤ), _, rfl, true, _, rfl,
      (0 : ℤ), _, rfl, _, _, rfl, true, _, rfl, _, _, rfl, rfl, rfl⟩
  obtain ⟨daemon, hpath⟩ := hpath
  refine ⟨daemon, hpath, (mount_truthful_iff linuxHost 1 plainOpts _ 0 daemon hpath).mpr ?_⟩
  intro _
  refine ⟨⟨_, rfl⟩, ?_⟩
  simp [mountAttempt, clientsCreated, rootFilled, CallSucceeded, statusOf]

/-- A refused mount is reported as a success. -/
theorem mount_refused_reported_as_success : ∃ daemon,
    ((hsfsDoMount linuxHost 1 plainOpts).run .initial).Path
      (mountAttempt (.fail 13 (by decide)) ++ clientsCreated) (.done 0 daemon) ∧
    ¬ MountTruthful 0 (mountAttempt (.fail 13 (by decide)) ++ clientsCreated) daemon := by
  refine ⟨_, ⟨true, _, rfl, true, _, rfl, true, _, rfl, .found 0x7f000001, _, rfl, (0 : ℤ), _, rfl,
    true, _, rfl, _, _, rfl, true, _, rfl, true, _, rfl, (0 : ℤ), _, rfl, true, _, rfl,
    (0 : ℤ), _, rfl, rfl, rfl⟩, ?_⟩
  intro htruth
  obtain ⟨⟨fh, haccepted⟩, -⟩ := htruth.mp rfl
  have hrefused : mountReply (mountAttempt (.fail 13 (by decide)) ++ clientsCreated) =
      some (.done (.fail 13 (by decide))) := rfl
  rw [hrefused] at haccepted
  cases haccepted

end NfsFuse
