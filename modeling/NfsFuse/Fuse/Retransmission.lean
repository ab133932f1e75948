import NfsFuse.Lib.Retry
import NfsFuse.Fuse.Connections
import NfsFuse.Fuse.Forwarding

/-!
# Calls that are sent again

`hsi_nfs3_clnt_call` sends a call again when an attempt ends with `EAGAIN` or when the connection is
lost, and it cannot know whether the server has executed the call before the reply was lost.  Over
any server, a call that comes back with a reply has therefore been executed between one and six
times, and the reply is that of the last time.  This counts the attempts of the daemon: `clnt_call`
itself is taken to deliver a message at most once, as it does over TCP, whereas over UDP the RPC
library may send a datagram again within one attempt.  If the call is idempotent on that server,
then this is the one execution that the model with a single question assumes, in every run of
requests.

A call such as `MKDIR` is not: the second execution finds the directory that the first one has made,
and the kernel is told that it existed before.
-/

namespace NfsFuse

open Lib

/-- What a server does when it executes a call. -/
abbrev Execution (S : Type) := (procedure : Call) → S → NfsRes procedure.Body → S → Prop

section Servers

variable {S : Type} (execution : Execution S)

/-- A server at the other end of a stream: an attempt delivers its message at most once, and without
a reply the call may have been executed or not. -/
def transport : Server ClientAns S
  | before, ⟨.clntCall _ procedure, some result⟩, after => execution procedure before result after
  | before, ⟨.clntCall _ procedure, none⟩, after => AtMostOnce (execution procedure) before after
  | before, _, after => after = before

/-- A call that is sent once. -/
def Sent {α : Type} (execute : S → NfsRes α → S → Prop) (before : S) : RpcOutcome α → S → Prop
  | .done result, after => execute before result after
  | .fail _ _, after => AtMostOnce execute before after

/-- A call with at most so many repetitions. -/
def Delivered {α : Type} (execute : S → NfsRes α → S → Prop) (left : ℕ) (before : S) :
    RpcOutcome α → S → Prop
  | .done result, after =>
    ∃ count ≤ left, ∃ middle, Repeats execute count before middle ∧ execute middle result after
  | .fail _ _, after => ∃ count ≤ left + 1, Repeats execute count before after

/-- The server as the daemon sees it: calls are executed up to six times. -/
def atLeastOnce : Server EnvAns S
  | before, ⟨.call procedure, outcome⟩, after =>
    Delivered (execution procedure) 5 before outcome after
  | before, _, after => after = before

/-- The server as the daemon would like to see it: a call that is answered is executed once, and one
that fails at most once. -/
def exactlyOnce : Server EnvAns S
  | before, ⟨.call procedure, outcome⟩, after => Sent (execution procedure) before outcome after
  | before, _, after => after = before

end Servers

variable {S : Type} {execution : Execution S}

section Delivered

variable {α : Type} {execute : S → NfsRes α → S → Prop} {left : ℕ} {before middle after : S}
  {outcome : RpcOutcome α}

theorem Delivered.lost (hlost : AtMostOnce execute before middle)
    (h : Delivered execute left middle outcome after) :
    Delivered execute (left + 1) before outcome after := by
  cases outcome with
  | done result =>
    obtain ⟨count, hcount, last, hrepeats, hlast⟩ := h
    obtain ⟨total, htotal, hall⟩ := hlost.repeats hrepeats
    exact ⟨total, by omega, last, hall, hlast⟩
  | fail err nonzero =>
    obtain ⟨count, hcount, hrepeats⟩ := h
    obtain ⟨total, htotal, hall⟩ := hlost.repeats hrepeats
    exact ⟨total, by omega, hall⟩

/-- The first attempt is the last one. -/
theorem Sent.delivered (h : Sent execute before outcome after) :
    Delivered execute left before outcome after := by
  cases outcome with
  | done result => exact ⟨0, Nat.zero_le left, before, rfl, h⟩
  | fail err nonzero =>
    obtain ⟨total, htotal, hall⟩ := AtMostOnce.repeats_le_one h
    exact ⟨total, by omega, hall⟩

theorem Delivered.of_idempotent (hidempotent : Idempotent execute)
    (h : Delivered execute left before outcome after) : Sent execute before outcome after := by
  cases outcome with
  | done result =>
    obtain ⟨count, -, last, hrepeats, hlast⟩ := h
    exact hidempotent.execute_repeats hrepeats hlast
  | fail err nonzero =>
    obtain ⟨count, -, hrepeats⟩ := h
    exact hidempotent.atMostOnce_repeats hrepeats

end Delivered

namespace Clients

variable {procedure : Call} {clients clients' : Clients} {client left : ℕ} {segment : ClientTrace}
  {outcome : RpcOutcome procedure.Body} {before after : S}

/-- What one attempt does to the server. -/
theorem attempt_gives
    (hpath : ((attempt procedure client).run clients).Path segment (.done outcome clients'))
    (hgives : (transport execution).Gives before segment after) :
    Sent (execution procedure) before outcome after := by
  obtain ⟨reply, rest, rfl, hrest⟩ := hpath
  obtain ⟨middle, hfirst, hlast⟩ := hgives
  cases reply with
  | some result =>
    obtain ⟨rfl, heq⟩ := hrest
    cases heq
    obtain rfl := hlast
    exact hfirst
  | none =>
    obtain ⟨reErrno, last, rfl, rfl, heq⟩ := hrest
    cases heq
    obtain ⟨final, rfl, rfl⟩ := hlast
    exact hfirst

/-- Not a call of a procedure of the server. -/
def isIdle : Event ClientAns → Prop
  | ⟨.clntCall _ _, _⟩ => False
  | _ => True

theorem gives_idle (hidle : ∀ event ∈ segment, isIdle event)
    (hgives : (transport execution).Gives before segment after) : after = before := by
  have heq : before = after := hgives.respects (fun _ event _ hevent hstep ↦ ?_) hidle
  · exact heq.symm
  · obtain ⟨op, answer⟩ := event
    cases op with
    | clntCall other procedure => exact hevent.elim
    | clntGeterr other => exact hstep.symm
    | openclnt service => exact hstep.symm
    | ping other => exact hstep.symm

theorem emits_hsiNfs3ClntCreate (service : Service) :
    (hsiNfs3ClntCreate service).Emits isIdle := by
  refine .bind (.ask fun _ ↦ trivial) fun _ ↦ .ite (.bind .get fun _ ↦ .bind (.modify _) fun _ ↦
    .bind (.modify _) fun _ ↦ .bind (.ask fun _ ↦ trivial) fun _ ↦ .ite ?_ (.pure _)) (.pure _)
  exact .bind (.bind (.modify _) fun _ ↦ .modify _) fun _ ↦ .pure _

/-- A reconnection is none of the server's business. -/
theorem emits_hsiNfs3ClntReconnect (client : ℕ) :
    (hsiNfs3ClntReconnect client).Emits isIdle := by
  refine .bind .get fun clients ↦ .bind (.bind (.modify _) fun _ ↦ .modify _) fun _ ↦ ?_
  cases clients.serviceOf client with
  | none => exact .crash _
  | some service =>
    refine .bind (emits_hsiNfs3ClntCreate service) fun created ↦ ?_
    cases created with
    | none => exact .pure _
    | some new => exact .bind (.modify _) fun _ ↦ .pure _

/-- All attempts of a call together.  The induction is on the attempts that are left: each one that
is lost before the last one adds at most one execution. -/
theorem hsiNfs3ClntCall_gives
    (hpath : ((hsiNfs3ClntCall procedure left client).run clients).Path segment
      (.done outcome clients'))
    (hgives : (transport execution).Gives before segment after) :
    Delivered (execution procedure) left before outcome after := by
  induction left generalizing client clients segment before with
  | zero => exact (attempt_gives hpath hgives).delivered
  | succ left ih =>
    obtain ⟨tried, between, front, rest, hfirst, hrest, rfl⟩ := Program.path_bind_done.mp hpath
    obtain ⟨middle, hfront, hback⟩ := Server.gives_append.mp hgives
    have hattempt := attempt_gives hfirst hfront
    cases tried with
    | done result =>
      obtain ⟨rfl, heq⟩ := hrest
      cases heq
      obtain rfl := hback
      exact hattempt.delivered
    | fail ret nonzero =>
      change ((if ret = eagain then _ else _ : ClientProg (RpcOutcome procedure.Body)).run
        between).Path rest _ at hrest
      split_ifs at hrest with hagain hgone
      · exact .lost hattempt (ih hrest hback)
      · obtain ⟨result, replaced, front', rest', hreconnect, hlast, rfl⟩ :=
          Program.path_bind_done.mp hrest
        obtain ⟨connected, hconnect, hlater⟩ := Server.gives_append.mp hback
        obtain rfl := gives_idle (emits_hsiNfs3ClntReconnect client _ _ _ hreconnect) hconnect
        cases result with
        | none =>
          obtain ⟨rfl, heq⟩ := hlast
          cases heq
          obtain rfl := hlater
          exact hattempt.delivered
        | some new => exact .lost hattempt (ih hlast hlater)
      · obtain ⟨rfl, heq⟩ := hrest
        cases heq
        obtain rfl := hback
        exact hattempt.delivered

/-- An attempt that is lost with some error. -/
theorem exists_attempt_lost (clients : Clients) (client : ℕ) (err : ℤ) (nonzero : err ≠ 0)
    (hlost : AtMostOnce (execution procedure) before after) :
    ∃ segment pool, ((attempt procedure client).run clients).Path segment
      (.done (.fail err nonzero) (clients.setPool pool)) ∧
        (transport execution).Gives before segment after := by
  have herrno : rpcErrno err = ⟨err, nonzero⟩ := dif_neg nonzero
  refine ⟨_, (clients.pool.use .clntCall client).use .clntGeterr client,
    ⟨none, _, rfl, err, [], rfl, rfl, ?_⟩, after, hlost, after, rfl, rfl⟩
  rw [herrno]
  rfl

theorem eagain_ne_zero : eagain ≠ 0 := by
  decide

/-- An attempt that is lost with `EAGAIN`, and what comes after it. -/
theorem exists_again {middle : S} (clients : Clients)
    (hlost : AtMostOnce (execution procedure) before middle)
    (hagain : ∀ clients : Clients, ∃ segment pool,
      ((hsiNfs3ClntCall procedure left client).run clients).Path segment
        (.done outcome (clients.setPool pool)) ∧
          (transport execution).Gives middle segment after) :
    ∃ segment pool, ((hsiNfs3ClntCall procedure (left + 1) client).run clients).Path segment
      (.done outcome (clients.setPool pool)) ∧
        (transport execution).Gives before segment after := by
  obtain ⟨front, between, hfirst, hfront⟩ :=
    exists_attempt_lost clients client eagain eagain_ne_zero hlost
  obtain ⟨rest, last, hrest, hback⟩ := hagain (clients.setPool between)
  refine ⟨front ++ rest, last, Program.path_bind_done.mpr ⟨_, _, front, rest, hfirst, ?_, rfl⟩,
    Server.gives_append.mpr ⟨middle, hfront, hback⟩⟩
  rw [afterAttempt, if_pos rfl]
  exact hrest

/-- Every number of executions is possible: all attempts but the last one fail with `EAGAIN`, which
changes no pointer to a client. -/
theorem exists_hsiNfs3ClntCall_gives (clients : Clients) (client : ℕ)
    (h : Delivered (execution procedure) left before outcome after) :
    ∃ segment pool, ((hsiNfs3ClntCall procedure left client).run clients).Path segment
      (.done outcome (clients.setPool pool)) ∧
        (transport execution).Gives before segment after := by
  cases outcome with
  | done result =>
    obtain ⟨count, hcount, middle, hrepeats, hlast⟩ := h
    have hnow : ∀ clients : Clients, ∃ segment pool,
        ((attempt procedure client).run clients).Path segment
          (.done (.done result) (clients.setPool pool)) ∧
            (transport execution).Gives middle segment after :=
      fun clients ↦ ⟨_, _, ⟨some result, [], rfl, rfl, rfl⟩, after, hlast, rfl⟩
    induction left generalizing before count clients with
    | zero =>
      obtain rfl := Nat.le_zero.mp hcount
      obtain rfl := hrepeats
      exact hnow clients
    | succ left ih =>
      cases count with
      | zero =>
        obtain rfl := hrepeats
        exact exists_again clients (.inl rfl) fun clients ↦ ih clients 0 (Nat.zero_le left) rfl
      | succ count =>
        obtain ⟨first, next, hfirst, hrest⟩ := hrepeats
        exact exists_again clients (.inr ⟨first, hfirst⟩) fun clients ↦
          ih clients count (Nat.le_of_succ_le_succ hcount) hrest
  | fail err nonzero =>
    obtain ⟨count, hcount, hrepeats⟩ := h
    induction left generalizing before count clients with
    | zero =>
      refine exists_attempt_lost clients client err nonzero ?_
      obtain rfl | rfl := Nat.le_one_iff_eq_zero_or_eq_one.mp hcount
      · exact .inl hrepeats
      · obtain ⟨first, _, hfirst, rfl⟩ := hrepeats
        exact .inr ⟨first, hfirst⟩
    | succ left ih =>
      cases count with
      | zero =>
        obtain rfl := hrepeats
        exact exists_again clients (.inl rfl) fun clients ↦ ih clients 0 (Nat.zero_le _) rfl
      | succ count =>
        obtain ⟨first, next, hfirst, hrest⟩ := hrepeats
        exact exists_again clients (.inr ⟨first, hfirst⟩) fun clients ↦
          ih clients count (Nat.le_of_succ_le_succ hcount) hrest

end Clients

/-- What `hsi_nfs3_clnt_call` can do to a server: over every server, the outcomes and the states it
may leave behind are those of executing the call up to six times, the last of them for the reply if
there is one. -/
theorem clnt_call_at_least_once_iff (execution : Execution S) (procedure : Call)
    (outcome : RpcOutcome procedure.Body) (clients : Clients) (client : ℕ) (before after : S) :
    (∃ segment clients', ((Clients.hsiNfs3ClntCall procedure 5 client).run clients).Path segment
      (.done outcome clients') ∧ (transport execution).Gives before segment after) ↔
    atLeastOnce execution before ⟨.call procedure, outcome⟩ after := by
  constructor
  · rintro ⟨segment, clients', hpath, hgives⟩
    exact Clients.hsiNfs3ClntCall_gives hpath hgives
  · intro h
    obtain ⟨segment, pool, hpath, hgives⟩ := Clients.exists_hsiNfs3ClntCall_gives clients client h
    exact ⟨segment, _, hpath, hgives⟩

/-! ## Runs of requests -/

/-- The questions about clients that a request takes. -/
def ClientMoment.segments (moment : ClientMoment) : ClientTrace :=
  moment.carried.flatMap Carried.segment

/-- The events of a request. -/
def ClientMoment.events (moment : ClientMoment) : Trace :=
  moment.carried.map Carried.event

theorem atLeastOnce_carriedOut {clients clients' : Clients} {carried : Carried}
    {next : Option (Event EnvAns)} {before after : S}
    (h : CarriedOut clients carried next clients')
    (hgives : (transport execution).Gives before carried.segment after) :
    atLeastOnce execution before carried.event after := by
  obtain ⟨⟨op, answer⟩, segment⟩ := carried
  cases op with
  | call procedure =>
    obtain ⟨client, called, -, hcall, -⟩ := Clients.carryOut_path h
    exact Clients.hsiNfs3ClntCall_gives hcall hgives
  | malloc site =>
    obtain ⟨rfl, -⟩ := h
    exact hgives
  | host question =>
    obtain ⟨rfl, -⟩ := h
    exact hgives

theorem atLeastOnce_carries {clients clients' : Clients} {carried : List Carried}
    {before after : S} (h : Carries clients carried clients')
    (hgives : (transport execution).Gives before (carried.flatMap Carried.segment) after) :
    (atLeastOnce execution).Gives before (carried.map Carried.event) after := by
  induction carried generalizing clients before with
  | nil => exact hgives
  | cons first rest ih =>
    obtain ⟨between, hfirst, hrest⟩ := h
    obtain ⟨middle, hfront, hback⟩ := Server.gives_append.mp hgives
    exact ⟨middle, atLeastOnce_carriedOut hfirst hfront, ih hrest hback⟩

/-- Calls that are idempotent might as well have been executed once. -/
theorem exactlyOnce_gives {trace : Trace} {before after : S}
    (hidempotent : ∀ procedure outcome, ⟨.call procedure, outcome⟩ ∈ trace →
      Idempotent (execution procedure))
    (h : (atLeastOnce execution).Gives before trace after) :
    (exactlyOnce execution).Gives before trace after := by
  induction trace generalizing before with
  | nil => exact h
  | cons event rest ih =>
    obtain ⟨middle, hfirst, hrest⟩ := h
    refine ⟨middle, ?_, ih (fun procedure outcome hmem ↦
      hidempotent procedure outcome (List.mem_cons_of_mem _ hmem)) hrest⟩
    obtain ⟨op, answer⟩ := event
    cases op with
    | call procedure =>
      exact Delivered.of_idempotent (hidempotent procedure answer List.mem_cons_self) hfirst
    | malloc site => exact hfirst
    | host question => exact hfirst

section Runs

variable {plat : Platform} {daemon : Daemon} {clients : Clients} {trail : List ClientMoment}
  {last : Daemon × Clients} {before after : S}

/-- A run with explicit attempts is a run with the server that a translation of its events makes of
the transport. -/
theorem exists_served {server : Server EnvAns S}
    (hcarries : ∀ moment ∈ trail, ∀ {clients clients' : Clients} {before after : S},
      Carries clients moment.carried clients' →
      (transport execution).Gives before moment.segments after →
      server.Gives before moment.events after)
    (hrun : Run (ClientStep plat) (daemon, clients) trail last)
    (hgives : (transport execution).Gives before (trail.flatMap ClientMoment.segments) after) :
    ∃ served, Run (ServedStep plat server) (daemon, before) served (last.1, after) ∧
      served.map ServedMoment.trace = trail.map ClientMoment.events := by
  induction hrun generalizing after with
  | nil =>
    obtain rfl := hgives
    exact ⟨[], .nil, rfl⟩
  | @snoc trail config config' moment _ hstep ih =>
    rw [List.flatMap_append, List.flatMap_singleton] at hgives
    obtain ⟨middle, hfront, hback⟩ := Server.gives_append.mp hgives
    obtain ⟨served, hserved, hevents⟩ := ih (fun other hmem ↦
      hcarries other (List.mem_append_left _ hmem)) hfront
    cases hstep with
    | mk hpath hmoment =>
      have hlast := hcarries _ (List.mem_append_right _ (List.mem_singleton_self _)) hmoment hback
      refine ⟨_, hserved.snoc (.mk hpath hlast), ?_⟩
      rw [List.map_append, hevents, List.map_append]
      rfl

/-- Every run of requests whose calls are idempotent, with all attempts and reconnections, is a run
in which each call is one question, to a server that executes it once. -/
theorem requests_exactly_once (hrun : Run (ClientStep plat) (daemon, clients) trail last)
    (hidempotent : ∀ moment ∈ trail, ∀ procedure outcome,
      ⟨.call procedure, outcome⟩ ∈ moment.events → Idempotent (execution procedure))
    (hgives : (transport execution).Gives before (trail.flatMap ClientMoment.segments) after) :
    ∃ served, Run (ServedStep plat (exactlyOnce execution)) (daemon, before) served
      (last.1, after) ∧ served.map ServedMoment.trace = trail.map ClientMoment.events :=
  exists_served (fun moment hmem _ _ _ _ hcarries hsegments ↦
    exactlyOnce_gives (hidempotent moment hmem) (atLeastOnce_carries hcarries hsegments))
    hrun hgives

end Runs

/-- A server that keeps the bytes of the last `WRITE`. -/
def lastWrite : Execution (List UInt8)
  | .write _ _ _ _ bytes, _, _, after => after = bytes
  | _, before, _, after => after = before

theorem idempotent_lastWrite (procedure : Call) : Idempotent (lastWrite procedure) := by
  intro before first middle second after hfirst hsecond
  cases procedure with
  | write file offset count stable data => exact hsecond
  | _ => exact hsecond.trans hfirst

/-- A `WRITE` that is executed, loses its reply with the connection and is executed again. -/
theorem requests_exactly_once_write : ∃ trail last,
    Run (ClientStep linuxHost) (smallChunks, mountedClients) trail last ∧
    trail.flatMap ClientMoment.segments = (resent (.write [7] 0 2 0 [1, 2]) (.ok 2)).segment ∧
    ∃ served, Run (ServedStep linuxHost (exactlyOnce lastWrite)) (smallChunks, []) served
      (last.1, [1, 2]) ∧ served.map ServedMoment.trace = trail.map ClientMoment.events := by
  obtain ⟨daemon', hpath⟩ : ∃ daemon',
      ((handle linuxHost 2 (.write 2 [1, 2] 0 false)).run smallChunks).Path
        [⟨.malloc .writeBuf, true⟩, ⟨.call (.write [7] 0 2 0 [1, 2]), RpcOutcome.done (.ok 2)⟩]
        (.done () daemon') :=
    ⟨_, _, _, rfl, _, _, rfl, rfl, rfl⟩
  obtain ⟨clients', hcarries⟩ : ∃ clients', Carries mountedClients.entered
      [⟨⟨.malloc .writeBuf, true⟩, []⟩, resent (.write [7] 0 2 0 [1, 2]) (.ok 2)] clients' :=
    ⟨_, _, ⟨rfl, rfl⟩, _, ⟨_, _, rfl, _, _, rfl, _, _, rfl, _, _, rfl, _, _, rfl, rfl, rfl⟩, rfl⟩
  have hrun : Run (ClientStep linuxHost) (smallChunks, mountedClients) _ _ :=
    Run.nil.snoc (.mk hpath hcarries)
  have hgives : (transport lastWrite).Gives [] (resent (.write [7] 0 2 0 [1, 2]) (.ok 2)).segment
      [1, 2] :=
    ⟨[1, 2], .inr ⟨.ok 2, rfl⟩, [1, 2], rfl, [1, 2], rfl, [1, 2], rfl, [1, 2], rfl, rfl⟩
  exact ⟨_, _, hrun, rfl, requests_exactly_once hrun
    (fun _ _ procedure _ _ ↦ idempotent_lastWrite procedure) hgives⟩

/-- A server that makes directories, by the entries it has. -/
def makesDirectories : Execution (Set Diropargs3)
  | .mkdir args _, before, .ok _, after => args ∉ before ∧ after = insert args before
  | .mkdir args _, before, .fail status _, after =>
      status = nfs3errExist ∧ args ∈ before ∧ after = before
  | _, before, _, after => after = before

/-- Whatever directory is to be made under a name that is free, there is a run in which it is made
and the kernel is told that it exists already: the reply to the first `MKDIR` is lost. -/
theorem repeated_mkdir_reports_existing {plat : Platform} {daemon : Daemon} {clients : Clients}
    {parent : UInt64} {index : ℕ} {entries : Set Diropargs3} (fuel : ℕ) (name : CString)
    (mode : UInt32) (hcoherent : Coherent daemon) (hready : clients.Ready)
    (hfind : daemon.findIno parent = some index)
    (hfree : (daemon.inode index).entry name ∉ entries) :
    ∃ carried clients', ((handle plat fuel (.mkdir parent name mode)).run daemon).Path
        (carried.map Carried.event)
        (.done () { daemon with replies := daemon.replies ++ [.err eexist] }) ∧
      Carries clients.entered carried clients' ∧
      (transport makesDirectories).Gives entries (carried.flatMap Carried.segment)
        (insert ((daemon.inode index).entry name) entries) := by
  let procedure : Call :=
    .mkdir ((daemon.inode index).entry name) { Sattr3.cleared with mode := some (mode &&& 0xfff) }
  -- the first execution makes the directory, the second one finds it
  have htwice : Delivered (makesDirectories procedure) 5 entries existReply
      (insert ((daemon.inode index).entry name) entries) :=
    ⟨1, by decide, _, ⟨.ok ⟨none, none⟩, _, ⟨hfree, rfl⟩, rfl⟩, rfl, Set.mem_insert _ _, rfl⟩
  obtain ⟨client, -, hclient⟩ := hready.clntp_live
  obtain ⟨segment, pool, hcall, hgives⟩ :=
    Clients.exists_hsiNfs3ClntCall_gives clients.entered client htwice
  have hcarryOut : ∃ clients', ((Clients.carryOut procedure none).run clients.entered).Path segment
      (.done existReply clients') := by
    have hloaded : clients.entered.loaded procedure = some client := hclient
    have hclntp : (clients.entered.setPool pool).clntp = some client := hclient
    rw [Clients.carryOut, Program.get_bind, hloaded]
    refine ⟨clients.entered.setPool (pool.use .clntFreeres client),
      Program.path_bind_done.mpr ⟨_, _, segment, [], hcall, ?_, (List.append_nil _).symm⟩⟩
    change ((Clients.release .current client >>= fun _ ↦ pure existReply).run _).Path _ _
    rw [Clients.release, Program.bind_run, Program.get_bind, hclntp]
    exact ⟨rfl, rfl⟩
  obtain ⟨clients', hcarryOut⟩ := hcarryOut
  refine ⟨[⟨⟨.call procedure, existReply⟩, segment⟩], _, ?_, ⟨clients', hcarryOut, rfl⟩, ?_⟩
  · change ((hsxFuseMkdir plat parent name mode).run daemon).Path _ _
    rw [hsxFuseMkdir, hcoherent.ilookup_bind, hfind]
    exact ⟨existReply, [], rfl, rfl, rfl⟩
  · rw [List.flatMap_singleton]
    exact hgives

/-- The root is given a directory `d`. -/
theorem repeated_mkdir_reports_existing_root :
    Coherent mountedCache ∧ mountedClients.Ready ∧
    ∃ carried clients', ((handle linuxHost 0 (.mkdir 1 [100] 0o755)).run mountedCache).Path
        (carried.map Carried.event)
        (.done () { mountedCache with replies := mountedCache.replies ++ [.err eexist] }) ∧
      Carries mountedClients.entered carried clients' ∧
      (transport makesDirectories).Gives ∅ (carried.flatMap Carried.segment)
        (insert ((mountedCache.inode 0).entry [100]) ∅) :=
  ⟨mounted_mountedCache.coherent, ready_mountedClients,
    repeated_mkdir_reports_existing 0 [100] 0o755 mounted_mountedCache.coherent
      ready_mountedClients (by decide) (Set.notMem_empty _)⟩

end NfsFuse
