import NfsFuse.Lib.Pool
import NfsFuse.Inode.Daemon

/-!
# RPC clients

`hsi_nfs3_clnt_call` tries a call up to six times.  When the connection is gone it destroys the
client, creates another one and stores that in the superblock, and it goes on with the new client.
If none can be created, the superblock keeps the pointer to the client that has been destroyed.

`Prog.clntCall` is one question about the outcome of all that.  Here the attempts and the
reconnections are explicit, over a state of its own: the clients and the pointers to them.
-/

namespace NfsFuse

open Lib

/-- The programs of the server to which there are clients. -/
inductive Service where
  | nfs
  | acl
  deriving DecidableEq, Repr

/-- What is applied to a client. -/
inductive ClientUse where
  | clntCall
  | clntGeterr
  | clntFreeres
  | closeclnt
  deriving DecidableEq, Repr

/-- The clients, and the pointers to them: those in the superblock, the copies that `hsi_nfs3_link`,
`hsi_nfs3_create` and `hsi_nfs3_fsinfo` keep across a nested call, and the one that
`hsi_nfs3_setxattr` makes when it begins. -/
structure Clients where
  pool : Pool ClientUse
  clntp : Option ℕ
  aclClntp : Option ℕ
  saved : List ℕ
  aclSaved : Option ℕ

namespace Clients

/-- The pointer in the superblock. -/
def pointer (clients : Clients) : Service → Option ℕ
  | .nfs => clients.clntp
  | .acl => clients.aclClntp

/-- Store a client in the superblock. -/
def setPointer (clients : Clients) : Service → ℕ → Clients
  | .nfs, client => { clients with clntp := some client }
  | .acl, client => { clients with aclClntp := some client }

/-- Change the clients and none of the pointers. -/
def setPool (clients : Clients) (pool : Pool ClientUse) : Clients := { clients with pool := pool }

@[simp]
theorem setPool_pointer (clients : Clients) (pool : Pool ClientUse) (service : Service) :
    (clients.setPool pool).pointer service = clients.pointer service := by
  cases service <;> rfl

@[simp]
theorem setPointer_pool (clients : Clients) (service : Service) (client : ℕ) :
    (clients.setPointer service client).pool = clients.pool := by
  cases service <;> rfl

@[simp]
theorem setPointer_saved (clients : Clients) (service : Service) (client : ℕ) :
    (clients.setPointer service client).saved = clients.saved := by
  cases service <;> rfl

@[simp]
theorem setPointer_aclSaved (clients : Clients) (service : Service) (client : ℕ) :
    (clients.setPointer service client).aclSaved = clients.aclSaved := by
  cases service <;> rfl

@[simp]
theorem setPointer_pointer_self (clients : Clients) (service : Service) (client : ℕ) :
    (clients.setPointer service client).pointer service = some client := by
  cases service <;> rfl

theorem setPointer_pointer_ne (clients : Clients) {service other : Service} (h : other ≠ service)
    (client : ℕ) : (clients.setPointer service client).pointer other = clients.pointer other := by
  cases service <;> cases other <;> first | rfl | exact absurd rfl h

end Clients

/-- What is asked about clients: the reply to `clnt_call`, the `re_errno` that `clnt_geterr` stores,
whether `hsi_mnt_openclnt` creates a client, and the result of the `NULL` call. -/
inductive ClientOp where
  | clntCall (client : ℕ) (procedure : Call)
  | clntGeterr (client : ℕ)
  | openclnt (service : Service)
  | ping (client : ℕ)
  deriving DecidableEq

/-- The answers; there is no reply unless `clnt_call` returns `RPC_SUCCESS`. -/
@[reducible]
def ClientAns : ClientOp → Type
  | .clntCall _ procedure => Option (NfsRes procedure.Body)
  | .clntGeterr _ => ℤ
  | .openclnt _ => Bool
  | .ping _ => ℤ

/-- Code that deals with clients. -/
abbrev ClientProg (α : Type) := Program ClientOp ClientAns Fault Clients α

/-- The events of a run of such code. -/
abbrev ClientTrace := List (Event ClientAns)

namespace ClientProg

/-- Ask about a client. -/
def ask (op : ClientOp) : ClientProg (ClientAns op) :=
  @Program.ask ClientOp ClientAns Fault Clients op

/-- Apply something to a client. -/
def use (kind : ClientUse) (client : ℕ) : ClientProg Unit :=
  Program.modify fun clients ↦ clients.setPool (clients.pool.use kind client)

end ClientProg

/-! ## Calls -/

namespace Clients

/-- `hsi_mnt_closeclnt` -/
def hsiMntCloseclnt (client : ℕ) : ClientProg Unit := do
  ClientProg.use .closeclnt client
  Program.modify fun clients ↦ clients.setPool (clients.pool.destroy client)

theorem hsiMntCloseclnt_run (client : ℕ) (clients : Clients) :
    (hsiMntCloseclnt client).run clients =
      .ret () (clients.setPool ((clients.pool.use .closeclnt client).destroy client)) := rfl

/-- `hsi_nfs3_clnt_create`: a new client that answers the `NULL` call, or `NULL`. -/
def hsiNfs3ClntCreate (service : Service) : ClientProg (Option ℕ) := do
  if ← ClientProg.ask (.openclnt service) then
    let clients ← Program.get
    let client := clients.pool.created
    Program.modify fun clients ↦ clients.setPool clients.pool.create
    ClientProg.use .clntCall client
    let ret ← ClientProg.ask (.ping client)
    if ret ≠ 0 then
      hsiMntCloseclnt client
      return none
    else
      return some client
  else
    return none

/-- The service whose client this is, as `hsi_nfs3_clnt_reconnect` finds it out. -/
def serviceOf (clients : Clients) (client : ℕ) : Option Service :=
  if clients.clntp = some client then some .nfs
  else if clients.aclClntp = some client then some .acl
  else none

/-- `hsi_nfs3_clnt_reconnect`.  For a client that is not in the superblock it goes through a `NULL`
address. -/
def hsiNfs3ClntReconnect (client : ℕ) : ClientProg (Option ℕ) := do
  let clients ← Program.get
  hsiMntCloseclnt client
  match clients.serviceOf client with
  | none => Program.crash .undefined
  | some service =>
      match ← hsiNfs3ClntCreate service with
      | none => return none
      | some new =>
          Program.modify fun clients ↦ clients.setPointer service new
          return some new

theorem eio_ne_zero : eio ≠ 0 := by
  decide

/-- The result of `hsi_rpc_stat_to_errno` for an `re_errno`. -/
def rpcErrno (reErrno : ℤ) : { err : ℤ // err ≠ 0 } :=
  if h : reErrno = 0 then ⟨eio, eio_ne_zero⟩ else ⟨reErrno, h⟩

/-- `hsi_rpc_stat_to_errno` -/
def hsiRpcStatToErrno (client : ℕ) : ClientProg { err : ℤ // err ≠ 0 } := do
  ClientProg.use .clntGeterr client
  let reErrno ← ClientProg.ask (.clntGeterr client)
  return rpcErrno reErrno

/-- One attempt of `hsi_nfs3_clnt_call`. -/
def attempt (procedure : Call) (client : ℕ) : ClientProg (RpcOutcome procedure.Body) := do
  ClientProg.use .clntCall client
  match ← ClientProg.ask (.clntCall client procedure) with
  | some res => return .done res
  | none =>
      let ret ← hsiRpcStatToErrno client
      return .fail ret.1 ret.2

/-- The branches of `hsi_nfs3_clnt_call` behind an attempt that is not the last one; `again` is the
label `retry`. -/
def afterAttempt {α : Type} (again : ℕ → ClientProg (RpcOutcome α)) (client : ℕ) :
    RpcOutcome α → ClientProg (RpcOutcome α)
  | .done res => return .done res
  | .fail ret nonzero => do
      if ret = eagain then
        again client
      else if ret = enotconn ∨ ret = econnreset then
        match ← hsiNfs3ClntReconnect client with
        | some new => again new
        | none => return .fail ret nonzero
      else
        return .fail ret nonzero

/-- `hsi_nfs3_clnt_call`, with the number of times it may still try again. -/
def hsiNfs3ClntCall (procedure : Call) : ℕ → ℕ → ClientProg (RpcOutcome procedure.Body)
  | 0, client => attempt procedure client
  | left + 1, client => do
      let outcome ← attempt procedure client
      afterAttempt (hsiNfs3ClntCall procedure left) client outcome

/-- One attempt may end in any way. -/
theorem exists_attempt {procedure : Call} (client : ℕ) (clients : Clients)
    (outcome : RpcOutcome procedure.Body) :
    ∃ segment pool, ((attempt procedure client).run clients).Path segment
      (.done outcome (clients.setPool pool)) := by
  cases outcome with
  | done res => exact ⟨_, _, some res, [], rfl, rfl, rfl⟩
  | fail err nonzero =>
    refine ⟨_, (clients.pool.use .clntCall client).use .clntGeterr client, none, _,
      rfl, err, [], rfl, rfl, ?_⟩
    have herrno : rpcErrno err = ⟨err, nonzero⟩ := dif_neg nonzero
    rw [herrno]
    rfl

/-- A reconnection may fail. -/
theorem exists_hsiNfs3ClntReconnect {client : ℕ} {clients : Clients} {service : Service}
    (hservice : clients.serviceOf client = some service) :
    ∃ segment clients', ((hsiNfs3ClntReconnect client).run clients).Path segment
      (.done none clients') := by
  rw [hsiNfs3ClntReconnect, Program.get_bind, hservice]
  exact ⟨_, _, false, [], rfl, rfl, rfl⟩

/-- Every outcome that `Prog.clntCall` may be given is one of a call with a client of the
superblock.  The induction is on the attempts that are left, all of which `EAGAIN` uses up. -/
theorem exists_hsiNfs3ClntCall {procedure : Call} {service : Service} (left client : ℕ)
    (clients : Clients) (hservice : clients.serviceOf client = some service)
    (outcome : RpcOutcome procedure.Body) :
    ∃ segment clients', ((hsiNfs3ClntCall procedure left client).run clients).Path segment
      (.done outcome clients') := by
  induction left generalizing clients with
  | zero =>
    obtain ⟨segment, pool, hpath⟩ := exists_attempt client clients outcome
    exact ⟨segment, _, hpath⟩
  | succ left ih =>
    obtain ⟨front, pool, hattempt⟩ := exists_attempt client clients outcome
    suffices hrest : ∃ rest clients',
      ((afterAttempt (hsiNfs3ClntCall procedure left) client outcome).run
        (clients.setPool pool)).Path rest (.done outcome clients') by
      obtain ⟨rest, clients', hrest⟩ := hrest
      exact ⟨front ++ rest, clients', Program.path_bind_done.mpr ⟨_, _, _, _, hattempt, hrest, rfl⟩⟩
    cases outcome with
    | done res => exact ⟨[], _, rfl, rfl⟩
    | fail err nonzero =>
      rw [afterAttempt]
      split_ifs
      · exact ih _ hservice
      · have hservice' : (clients.setPool pool).serviceOf client = some service := hservice
        obtain ⟨segment, clients', hpath⟩ := exists_hsiNfs3ClntReconnect hservice'
        exact ⟨_, clients', Program.path_bind_done.mpr ⟨_, _, _, _, hpath, ⟨rfl, rfl⟩, rfl⟩⟩
      · exact ⟨[], _, rfl, rfl⟩

/-- Uses stay recorded, clients that are dead stay dead, and a pointer to a dead client stays what
it is unless that client is used. -/
structure Advances (clients clients' : Clients) : Prop where
  grows : clients.pool.Grows clients'.pool
  pointer : ∀ service client, clients.pointer service = some client → clients.pool.Dead client →
    clients'.pool.Clean → clients'.pointer service = some client
  saved_subset : clients.saved ⊆ clients'.saved
  aclSaved_eq : clients'.aclSaved = clients.aclSaved

instance : Std.Refl Advances :=
  ⟨fun _ ↦ ⟨.rfl, fun _ _ h _ _ ↦ h, fun _ h ↦ h, rfl⟩⟩

instance : IsTrans Clients Advances where
  trans _ _ _ h h' := by
    refine ⟨h.grows.trans h'.grows, fun service client hpointer hdead hclean ↦ ?_,
      fun _ hmem ↦ h'.saved_subset (h.saved_subset hmem), h'.aclSaved_eq.trans h.aclSaved_eq⟩
    have hmiddle := h.pointer service client hpointer hdead (h'.grows.clean hclean)
    exact h'.pointer service client hmiddle (h.grows.dead client hdead) hclean

/-- A change of the clients and of no pointer. -/
theorem advances_setPool (clients : Clients) {pool : Pool ClientUse}
    (h : clients.pool.Grows pool) : Advances clients (clients.setPool pool) :=
  ⟨h, fun _ _ hpointer _ _ ↦ (setPool_pointer _ _ _).trans hpointer, fun _ h ↦ h, rfl⟩

theorem advances_use (kind : ClientUse) (client : ℕ) :
    (ClientProg.use kind client).Respects Advances :=
  .modify fun clients ↦ clients.advances_setPool (Pool.Grows.rfl.use kind client)

theorem advances_hsiMntCloseclnt (client : ℕ) : (hsiMntCloseclnt client).Respects Advances :=
  .bind (advances_use _ client) fun _ ↦
    .modify fun clients ↦ clients.advances_setPool (Pool.Grows.rfl.destroy client)

theorem advances_hsiNfs3ClntCreate (service : Service) :
    (hsiNfs3ClntCreate service).Respects Advances := by
  refine .bind (.ask _) fun _ ↦ .ite (.bind .get fun clients ↦ .bind ?_ fun _ ↦
    .bind (advances_use _ _) fun _ ↦ .bind (.ask _) fun _ ↦ .ite ?_ (.pure _)) (.pure _)
  · exact .modify fun clients ↦ clients.advances_setPool Pool.Grows.rfl.create
  · exact .bind (advances_hsiMntCloseclnt _) fun _ ↦ .pure _

theorem pointer_serviceOf {clients : Clients} {client : ℕ} {service : Service}
    (h : clients.serviceOf client = some service) : clients.pointer service = some client := by
  unfold serviceOf at h
  split_ifs at h with hclntp haclClntp <;> cases h <;> assumption

/-- The pointer that is replaced is the one to the client that has been closed. -/
theorem advances_hsiNfs3ClntReconnect (client : ℕ) :
    (hsiNfs3ClntReconnect client).Respects Advances := by
  intro clients trace result clients' hpath
  rw [hsiNfs3ClntReconnect, Program.get_bind] at hpath
  obtain ⟨_, closed, front, rest, hclose, hrest, rfl⟩ := Program.path_bind_done.mp hpath
  have hclosed := advances_hsiMntCloseclnt client clients front _ closed hclose
  have hused : closed.pool.Clean → client ∈ clients.pool.live := by
    cases hclose.2
    exact fun hclean ↦ (Pool.clean_use_iff.mp hclean).2
  cases hservice : clients.serviceOf client with
  | none =>
    rw [hservice] at hrest
    cases hrest.2
  | some service =>
    rw [hservice] at hrest
    obtain ⟨created, middle, front', rest', hcreate, hlast, rfl⟩ := Program.path_bind_done.mp hrest
    have hmiddle : Advances clients middle :=
      IsTrans.trans _ _ _ hclosed (advances_hsiNfs3ClntCreate service closed _ _ _ hcreate)
    cases created with
    | none =>
      cases hlast.2
      exact hmiddle
    | some new =>
      cases hlast.2
      refine ⟨by simpa using hmiddle.grows, fun other dead hpointer hdead hclean ↦ ?_,
        by simpa using hmiddle.saved_subset, by simpa using hmiddle.aclSaved_eq⟩
      rw [setPointer_pool] at hclean
      rcases eq_or_ne other service with rfl | hne
      · rw [pointer_serviceOf hservice] at hpointer
        cases hpointer
        have hcreated := advances_hsiNfs3ClntCreate other closed _ _ _ hcreate
        exact absurd (hused (hcreated.grows.clean hclean)) hdead.2
      · rw [setPointer_pointer_ne _ hne]
        exact hmiddle.pointer other dead hpointer hdead hclean

theorem advances_attempt (procedure : Call) (client : ℕ) :
    (attempt procedure client).Respects Advances := by
  refine .bind (advances_use _ client) fun _ ↦ .bind (.ask _) fun res ↦ ?_
  cases res with
  | none =>
    exact .bind (.bind (advances_use _ client) fun _ ↦ .bind (.ask _) fun _ ↦ .pure _) fun _ ↦
      .pure _
  | some res => exact .pure _

theorem advances_afterAttempt {α : Type} {again : ℕ → ClientProg (RpcOutcome α)}
    (h : ∀ client, (again client).Respects Advances) (client : ℕ) (outcome : RpcOutcome α) :
    (afterAttempt again client outcome).Respects Advances := by
  cases outcome with
  | done res => exact .pure _
  | fail ret nonzero =>
    refine .ite (h client) (.ite (.bind (advances_hsiNfs3ClntReconnect client) fun result ↦ ?_)
      (.pure _))
    cases result with
    | none => exact .pure _
    | some new => exact h new

theorem advances_hsiNfs3ClntCall (procedure : Call) (left client : ℕ) :
    (hsiNfs3ClntCall procedure left client).Respects Advances := by
  induction left generalizing client with
  | zero => exact advances_attempt procedure client
  | succ left ih =>
    exact .bind (advances_attempt procedure client) fun outcome ↦
      advances_afterAttempt ih client outcome

theorem attempt_clean {procedure : Call} {client : ℕ} {clients clients' : Clients}
    {segment : ClientTrace} {outcome : RpcOutcome procedure.Body}
    (hpath : ((attempt procedure client).run clients).Path segment (.done outcome clients'))
    (hclean : clients'.pool.Clean) : client ∈ clients.pool.live := by
  obtain ⟨res, rest, rfl, hrest⟩ := hpath
  cases res with
  | some res =>
    cases hrest.2
    exact (Pool.clean_use_iff.mp hclean).2
  | none =>
    obtain ⟨reErrno, last, -, -, heq⟩ := hrest
    cases heq
    exact (Pool.clean_use_iff.mp (Pool.clean_use_iff.mp hclean).1).2

/-- A call with a client that is not live is on the record. -/
theorem hsiNfs3ClntCall_clean {procedure : Call} {left client : ℕ} {clients clients' : Clients}
    {segment : ClientTrace} {outcome : RpcOutcome procedure.Body}
    (hpath : ((hsiNfs3ClntCall procedure left client).run clients).Path segment
      (.done outcome clients')) (hclean : clients'.pool.Clean) : client ∈ clients.pool.live := by
  cases left with
  | zero => exact attempt_clean hpath hclean
  | succ left =>
    obtain ⟨tried, middle, front, rest, hfirst, hrest, rfl⟩ := Program.path_bind_done.mp hpath
    have hlast := advances_afterAttempt (advances_hsiNfs3ClntCall procedure left)
      client tried middle
      rest outcome clients' hrest
    exact attempt_clean hfirst (hlast.grows.clean hclean)

/-! ## Calls with live clients -/

/-- Nothing has been applied to a client that was not live, and the superblock points to live
clients. -/
structure Live (clients : Clients) : Prop where
  clean : clients.pool.Clean
  clntp_live : ∃ client ∈ clients.pool.live, clients.clntp = some client
  aclClntp_live : ∀ client, clients.aclClntp = some client → client ∈ clients.pool.live

/-- Moreover the two pointers are to different clients, and what is live has been created. -/
structure Ready (clients : Clients) : Prop extends Live clients where
  bounded : clients.pool.Bounded
  aclClntp_ne : clients.aclClntp ≠ clients.clntp

/-- The superblock points to a client that has been destroyed. -/
def Lost (clients : Clients) : Prop :=
  ∃ service client, clients.pointer service = some client ∧ clients.pool.Dead client

section Ready

variable {clients : Clients} {service : Service} {client : ℕ}

theorem Ready.pointer_live (h : clients.Ready) (hpointer : clients.pointer service = some client) :
    client ∈ clients.pool.live := by
  cases service with
  | acl => exact h.aclClntp_live client hpointer
  | nfs =>
    obtain ⟨clntp, hmem, heq⟩ := h.clntp_live
    rwa [← Option.some.inj (heq.symm.trans hpointer)]

theorem Ready.pointer_ne (h : clients.Ready) {other : Service} (hne : other ≠ service)
    (hpointer : clients.pointer service = some client) : clients.pointer other ≠ some client := by
  intro hother
  cases service <;> cases other
  · exact hne rfl
  · exact h.aclClntp_ne (hother.trans hpointer.symm)
  · exact h.aclClntp_ne (hpointer.trans hother.symm)
  · exact hne rfl

theorem Ready.serviceOf_eq (h : clients.Ready) (hpointer : clients.pointer service = some client) :
    clients.serviceOf client = some service := by
  unfold serviceOf
  cases service with
  | nfs => exact if_pos hpointer
  | acl =>
    rw [if_neg fun hclntp ↦ h.aclClntp_ne (hpointer.trans hclntp.symm)]
    exact if_pos hpointer

/-- A superblock whose pointers are to live clients, by pointer. -/
theorem ready_of_pointers {clients : Clients} (hclean : clients.pool.Clean)
    (hbounded : clients.pool.Bounded) (hclntp : clients.clntp ≠ none)
    (hlive : ∀ service client, clients.pointer service = some client → client ∈ clients.pool.live)
    (hne : clients.aclClntp ≠ clients.clntp) : clients.Ready := by
  obtain ⟨client, hclient⟩ := Option.ne_none_iff_exists'.mp hclntp
  exact ⟨⟨hclean, ⟨client, hlive .nfs client hclient, hclient⟩, hlive .acl⟩, hbounded, hne⟩

theorem Ready.clntp_ne_none (h : clients.Ready) : clients.clntp ≠ none := by
  obtain ⟨client, -, hclient⟩ := h.clntp_live
  simp [hclient]

theorem Ready.use (h : clients.Ready) (kind : ClientUse) (hmem : client ∈ clients.pool.live) :
    (clients.setPool (clients.pool.use kind client)).Ready :=
  ⟨⟨Pool.clean_use_iff.mpr ⟨h.clean, hmem⟩, h.clntp_live, h.aclClntp_live⟩, h.bounded,
    h.aclClntp_ne⟩

/-- The clients after one of them has been replaced. -/
def reconnected (clients : Clients) (service : Service) (client : ℕ) : Clients :=
  (clients.setPool (((clients.pool.use .closeclnt client).destroy client).create.use .clntCall
    clients.pool.created)).setPointer service clients.pool.created

theorem Ready.reconnected (h : clients.Ready) (hpointer : clients.pointer service = some client) :
    (clients.reconnected service client).Ready := by
  have hmem := h.pointer_live hpointer
  have hother : ∀ other ≠ service, ∀ kept, clients.pointer other = some kept →
      kept ∈ clients.pool.live ∧ kept ≠ client ∧ kept ≠ clients.pool.created := by
    intro other hne kept hkept
    have hlive := h.pointer_live hkept
    refine ⟨hlive, ?_, (h.bounded kept hlive).ne⟩
    rintro rfl
    exact h.pointer_ne hne hpointer hkept
  have hnew : ∀ other ≠ service, clients.pointer other ≠ some clients.pool.created :=
    fun other hne hkept ↦ (hother other hne _ hkept).2.2 rfl
  refine ready_of_pointers ?_ ?_ ?_ ?_ ?_
  · rw [Clients.reconnected, setPointer_pool]
    refine Pool.clean_use_iff.mpr ⟨?_, List.mem_cons_self⟩
    exact Pool.clean_use_iff.mpr ⟨h.clean, hmem⟩
  · rw [Clients.reconnected, setPointer_pool]
    exact (h.bounded.destroy client).create
  · cases service with
    | nfs => exact Option.some_ne_none _
    | acl => exact h.clntp_ne_none
  · intro other kept hkept
    rw [Clients.reconnected, setPointer_pool]
    rcases eq_or_ne other service with rfl | hne
    · rw [Clients.reconnected, setPointer_pointer_self] at hkept
      cases hkept
      exact List.mem_cons_self
    · rw [Clients.reconnected, setPointer_pointer_ne _ hne, setPool_pointer] at hkept
      obtain ⟨hlive, hclosed, -⟩ := hother other hne kept hkept
      exact List.mem_cons_of_mem _ (Pool.mem_destroy_iff.mpr ⟨hlive, hclosed⟩)
  · cases service with
    | nfs => exact hnew .acl nofun
    | acl => exact (hnew .nfs nofun).symm

/-- A reconnection. -/
def isReconnect : Event ClientAns → Bool
  | ⟨.openclnt _, _⟩ => true
  | _ => false

/-- A reconnection that fails: no client is created, or the `NULL` call fails. -/
def isLoss : Event ClientAns → Bool
  | ⟨.openclnt _, opened⟩ => !opened
  | ⟨.ping _, ret⟩ => ret != 0
  | _ => false

/-- What holds after a call in which no reconnection has failed. -/
structure Called (service : Service) (clients clients' : Clients) : Prop where
  ready : clients'.Ready
  grows : clients.pool.Grows clients'.pool
  saved_eq : clients'.saved = clients.saved
  aclSaved_eq : clients'.aclSaved = clients.aclSaved
  pointer_eq : ∀ other ≠ service, clients'.pointer other = clients.pointer other

theorem Called.trans {clients' clients'' : Clients} (h : Called service clients clients')
    (h' : Called service clients' clients'') : Called service clients clients'' :=
  ⟨h'.ready, h.grows.trans h'.grows, h'.saved_eq.trans h.saved_eq,
    h'.aclSaved_eq.trans h.aclSaved_eq,
    fun other hne ↦ (h'.pointer_eq other hne).trans (h.pointer_eq other hne)⟩

/-- What a call does to the clients: a reconnection fails, the client is replaced, or all stays as
it is but for the record. -/
inductive CallEffect (service : Service) (client : ℕ) (clients : Clients) (segment : ClientTrace)
    (clients' : Clients) : Prop where
  | lost (hloss : segment.any isLoss = true) (hlost : clients'.Lost)
  | replaced (hloss : segment.any isLoss = false) (hreconnect : segment.any isReconnect = true)
      (hcalled : Called service clients clients') (hdead : clients'.pool.Dead client)
  | kept (hloss : segment.any isLoss = false) (hreconnect : segment.any isReconnect = false)
      (hcalled : Called service clients clients')
        (hpointer : clients'.pointer service = some client)

variable {segment : ClientTrace} {clients' : Clients}

/-- What comes after an effect that keeps the client. -/
theorem CallEffect.after {front : ClientTrace} {middle : Clients}
    (hloss : front.any isLoss = false) (hreconnect : front.any isReconnect = false)
    (hcalled : Called service clients middle)
    (h : CallEffect service client middle segment clients') :
    CallEffect service client clients (front ++ segment) clients' := by
  cases h with
  | lost hloss' hlost => exact .lost (by simp [hloss']) hlost
  | replaced hloss' hreconnect' hcalled' hdead =>
    exact .replaced (by simp [hloss, hloss']) (by simp [hreconnect']) (hcalled.trans hcalled') hdead
  | kept hloss' hreconnect' hcalled' hpointer =>
    exact .kept (by simp [hloss, hloss']) (by simp [hreconnect, hreconnect'])
      (hcalled.trans hcalled')
      hpointer

/-- What comes after the client has been replaced. -/
theorem CallEffect.afterReplaced {front : ClientTrace} {middle : Clients} {new : ℕ}
    (hloss : front.any isLoss = false) (hreconnect : front.any isReconnect = true)
    (hcalled : Called service clients middle) (hdead : middle.pool.Dead client)
    (h : CallEffect service new middle segment clients') :
    CallEffect service client clients (front ++ segment) clients' := by
  cases h with
  | lost hloss' hlost => exact .lost (by simp [hloss']) hlost
  | replaced hloss' _ hcalled' _ | kept hloss' _ hcalled' _ =>
    exact .replaced (by simp [hloss, hloss']) (by simp [hreconnect]) (hcalled.trans hcalled')
      (hcalled'.grows.dead client hdead)

theorem attempt_effect {procedure : Call} {outcome : RpcOutcome procedure.Body} (h : clients.Ready)
    (hpointer : clients.pointer service = some client)
    (hpath : ((attempt procedure client).run clients).Path segment (.done outcome clients')) :
    segment.any isLoss = false ∧ segment.any isReconnect = false ∧ Called service clients clients' ∧
      clients'.pointer service = some client := by
  have hmem := h.pointer_live hpointer
  obtain ⟨res, rest, rfl, hrest⟩ := hpath
  cases res with
  | some res =>
    obtain ⟨rfl, heq⟩ := hrest
    cases heq
    exact ⟨rfl, rfl, ⟨h.use _ hmem, Pool.Grows.rfl.use _ _, rfl, rfl,
      fun _ _ ↦ setPool_pointer _ _ _⟩, (setPool_pointer _ _ _).trans hpointer⟩
  | none =>
    obtain ⟨reErrno, last, rfl, rfl, heq⟩ := hrest
    cases heq
    refine ⟨rfl, rfl, ⟨(h.use _ hmem).use _ hmem, ?_, rfl, rfl, fun other _ ↦ ?_⟩, ?_⟩
    · exact (Pool.Grows.rfl.use _ _).use _ _
    · cases other <;> rfl
    · cases service <;> exact hpointer

/-- The clients after `hsi_nfs3_clnt_create`. -/
theorem hsiNfs3ClntCreate_effect {result : Option ℕ}
    (hpath : ((hsiNfs3ClntCreate service).run clients).Path segment (.done result clients')) :
    (result = none ∧ segment.any isLoss = true ∧ ∃ pool, clients.pool.Grows pool ∧
      clients.pool.Extends pool ∧ clients' = clients.setPool pool) ∨
    (result = some clients.pool.created ∧ segment.any isLoss = false ∧
      segment.any isReconnect = true ∧
      clients' = clients.setPool (clients.pool.create.use .clntCall clients.pool.created)) := by
  obtain ⟨opened, rest, rfl, hrest⟩ := hpath
  cases opened with
  | false =>
    obtain ⟨rfl, heq⟩ := hrest
    cases heq
    exact .inl ⟨rfl, rfl, clients.pool, .rfl, .rfl, rfl⟩
  | true =>
    obtain ⟨ret, last, rfl, hlast⟩ := hrest
    change (((if ret ≠ 0 then _ else _ : ClientProg (Option ℕ))).run _).Path last _ at hlast
    by_cases hret : ret ≠ 0
    · rw [if_pos hret] at hlast
      obtain ⟨rfl, heq⟩ := hlast
      cases heq
      refine .inl ⟨rfl, by simpa [isLoss] using hret, _, ?_, ?_, rfl⟩
      · exact ((Pool.Grows.rfl.create.use _ _).use _ _).destroy _
      · exact ((Pool.Extends.rfl.create.use _ _).use _ _).destroy le_rfl
    · rw [if_neg hret] at hlast
      obtain ⟨rfl, heq⟩ := hlast
      cases heq
      exact .inr ⟨rfl, by simpa [isLoss] using hret, rfl, rfl⟩

/-- The client is closed, and another one is stored in its place or not. -/
theorem hsiNfs3ClntReconnect_cases {result : Option ℕ}
    (hservice : clients.serviceOf client = some service)
    (hpath : ((hsiNfs3ClntReconnect client).run clients).Path segment (.done result clients')) :
    (result = none ∧ segment.any isLoss = true ∧
      ∃ pool, ((clients.pool.use .closeclnt client).destroy client).Grows pool ∧
        ((clients.pool.use .closeclnt client).destroy client).Extends pool ∧
        clients' = clients.setPool pool) ∨
    (result = some clients.pool.created ∧ segment.any isLoss = false ∧
      segment.any isReconnect = true ∧ clients' = clients.reconnected service client) := by
  rw [hsiNfs3ClntReconnect, Program.get_bind, hservice,
    Program.bind_run_of_ret (hsiMntCloseclnt_run client clients)] at hpath
  obtain ⟨created, middle, front, rest, hcreate, hrest, rfl⟩ := Program.path_bind_done.mp hpath
  rcases hsiNfs3ClntCreate_effect hcreate with ⟨rfl, hloss, pool, hgrows, hextends, rfl⟩ |
    ⟨rfl, hloss, hreconnect, rfl⟩
  · obtain ⟨rfl, heq⟩ := hrest
    cases heq
    exact .inl ⟨rfl, by simp [hloss], pool, hgrows, hextends, rfl⟩
  · obtain ⟨rfl, heq⟩ := hrest
    cases heq
    exact .inr ⟨rfl, by simp [hloss], by simp [hreconnect], rfl⟩

/-- The client that is closed is dead from then on. -/
theorem Ready.dead_closed (h : clients.Ready) (hpointer : clients.pointer service = some client) :
    ((clients.pool.use .closeclnt client).destroy client).Dead client :=
  Pool.Bounded.dead_destroy h.bounded (h.pointer_live hpointer)

theorem hsiNfs3ClntReconnect_effect {result : Option ℕ} (h : clients.Ready)
    (hpointer : clients.pointer service = some client)
    (hpath : ((hsiNfs3ClntReconnect client).run clients).Path segment (.done result clients')) :
    (result = none ∧ segment.any isLoss = true ∧ clients'.Lost) ∨
    (result = some clients.pool.created ∧ segment.any isLoss = false ∧
      segment.any isReconnect = true ∧ clients' = clients.reconnected service client) := by
  rcases hsiNfs3ClntReconnect_cases (h.serviceOf_eq hpointer) hpath with
    ⟨rfl, hloss, pool, hgrows, -, rfl⟩ | hreconnected
  · exact .inl ⟨rfl, hloss, service, client, by simpa using hpointer,
      hgrows.dead _ (h.dead_closed hpointer)⟩
  · exact .inr hreconnected

theorem Ready.called_reconnected (h : clients.Ready)
    (hpointer : clients.pointer service = some client) :
    Called service clients (clients.reconnected service client) ∧
      (clients.reconnected service client).pool.Dead client := by
  have hgrows : ((clients.pool.use .closeclnt client).destroy client).Grows
      (clients.reconnected service client).pool := by
    rw [Clients.reconnected, setPointer_pool]
    exact Pool.Grows.rfl.create.use _ _
  refine ⟨⟨h.reconnected hpointer, ?_, setPointer_saved _ _ _, setPointer_aclSaved _ _ _, ?_⟩,
    hgrows.dead _ (h.dead_closed hpointer)⟩
  · exact ((Pool.Grows.rfl.use _ _).destroy _).trans hgrows
  · intro other hne
    rw [Clients.reconnected, setPointer_pointer_ne _ hne, setPool_pointer]

/-- A call with the client in the superblock.  The induction is on the attempts that are left. -/
theorem hsiNfs3ClntCall_effect {procedure : Call} {left : ℕ} {outcome : RpcOutcome procedure.Body}
    (h : clients.Ready) (hpointer : clients.pointer service = some client)
    (hpath : ((hsiNfs3ClntCall procedure left client).run clients).Path segment
      (.done outcome clients')) : CallEffect service client clients segment clients' := by
  induction left generalizing client clients segment with
  | zero =>
    obtain ⟨hloss, hreconnect, hcalled, hpointer'⟩ := attempt_effect h hpointer hpath
    exact .kept hloss hreconnect hcalled hpointer'
  | succ left ih =>
    obtain ⟨tried, middle, front, rest, hattempt, hrest, rfl⟩ := Program.path_bind_done.mp hpath
    obtain ⟨hloss, hreconnect, hcalled, hpointer'⟩ := attempt_effect h hpointer hattempt
    refine .after hloss hreconnect hcalled ?_
    have hstop : ∀ {segment : ClientTrace}, segment = [] → middle = clients' →
        CallEffect service client middle segment clients' := by
      rintro _ rfl rfl
      exact .kept rfl rfl ⟨hcalled.ready, .rfl, rfl, rfl, fun _ _ ↦ rfl⟩ hpointer'
    cases tried with
    | done res =>
      obtain ⟨rfl, heq⟩ := hrest
      cases heq
      exact hstop rfl rfl
    | fail ret nonzero =>
      change ((if ret = eagain then _ else _ : ClientProg (RpcOutcome procedure.Body)).run
        middle).Path rest _ at hrest
      split_ifs at hrest with hagain hgone
      · exact ih hcalled.ready hpointer' hrest
      · obtain ⟨result, replaced, front', rest', hreconnected, hlast, rfl⟩ :=
          Program.path_bind_done.mp hrest
        rcases hsiNfs3ClntReconnect_effect hcalled.ready hpointer' hreconnected with
          ⟨rfl, hloss', hlost⟩ | ⟨rfl, hloss', hreconnect', rfl⟩
        · obtain ⟨rfl, heq⟩ := hlast
          cases heq
          exact .lost (by simp [hloss']) hlost
        · obtain ⟨hcalled', hdead⟩ := hcalled.ready.called_reconnected hpointer'
          exact .afterReplaced hloss' hreconnect' hcalled' hdead
            (ih hcalled'.ready (setPointer_pointer_self _ _ _) hlast)
      · obtain ⟨rfl, heq⟩ := hrest
        cases heq
        exact hstop rfl rfl

end Ready

end Clients

end NfsFuse
