import NfsFuse.Nfs3.Clients

/-!
# The client of the NFS service

The client in `super->clntp` is the one that `hsfs_do_unmount` destroys.  A call of the NFS service
leaves a live client there unless a reconnection fails: then the pointer is still the one to the
client that has been closed.  Calls of the ACL service have a client of their own, and what happens
to it leaves the other one alone.
-/

namespace NfsFuse

open Lib

namespace Clients

/-- `super->clntp` is a live client. -/
def NfsLive (clients : Clients) : Prop :=
  ∃ client ∈ clients.pool.live, clients.clntp = some client

/-- The client exists and is not the one of the NFS service. -/
def Apart (clients : Clients) (client : ℕ) : Prop :=
  client < clients.pool.created ∧ clients.clntp ≠ some client

/-- What is live has been created, and so has what the superblock points to; the client of the ACL
service and the copy of it are not the client of the NFS service. -/
structure Placed (clients : Clients) : Prop where
  bounded : clients.pool.Bounded
  clntp_lt : ∀ client, clients.clntp = some client → client < clients.pool.created
  aclClntp_apart : ∀ client, clients.aclClntp = some client → clients.Apart client
  aclSaved_apart : ∀ client, clients.aclSaved = some client → clients.Apart client

/-- A call of the service may be made with the client. -/
def Serves (clients : Clients) (client : ℕ) : Service → Prop
  | .nfs => clients.clntp = some client ∧ client ∈ clients.pool.live
  | .acl => clients.Apart client

/-- No client is created or destroyed, and the superblock points to the same ones. -/
structure Undisturbed (clients clients' : Clients) : Prop where
  created_eq : clients'.pool.created = clients.pool.created
  live_eq : clients'.pool.live = clients.pool.live
  clntp_eq : clients'.clntp = clients.clntp
  aclClntp_eq : clients'.aclClntp = clients.aclClntp

section Undisturbed

variable {clients clients' : Clients} (h : Undisturbed clients clients')

include h

theorem Undisturbed.nfsLive_iff : clients'.NfsLive ↔ clients.NfsLive := by
  rw [NfsLive, NfsLive, h.live_eq, h.clntp_eq]

theorem Undisturbed.apart_iff (client : ℕ) : clients'.Apart client ↔ clients.Apart client := by
  rw [Apart, Apart, h.created_eq, h.clntp_eq]

theorem Undisturbed.serves {client : ℕ} {service : Service}
    (hserves : clients.Serves client service) : clients'.Serves client service := by
  cases service with
  | nfs => exact ⟨h.clntp_eq.trans hserves.1, h.live_eq ▸ hserves.2⟩
  | acl => exact (h.apart_iff client).mpr hserves

theorem Undisturbed.placed (hplaced : clients.Placed)
    (haclSaved : ∀ client, clients'.aclSaved = some client → clients.Apart client) :
    clients'.Placed := by
  refine ⟨fun client hmem ↦ ?_, fun client hclient ↦ ?_, fun client hclient ↦ ?_,
    fun client hclient ↦ (h.apart_iff client).mpr (haclSaved client hclient)⟩
  · rw [h.live_eq] at hmem
    exact (hplaced.bounded client hmem).trans_eq h.created_eq.symm
  · rw [h.clntp_eq] at hclient
    exact (hplaced.clntp_lt client hclient).trans_eq h.created_eq.symm
  · rw [h.aclClntp_eq] at hclient
    exact (h.apart_iff client).mpr (hplaced.aclClntp_apart client hclient)

end Undisturbed

section Calls

variable {clients clients' : Clients} {pool : Pool ClientUse} {segment : ClientTrace}
  {procedure : Call} {outcome : RpcOutcome procedure.Body} {service : Service} {client left : ℕ}

theorem nfsLive_iff_mem (hclient : clients.clntp = some client) :
    clients.NfsLive ↔ client ∈ clients.pool.live := by
  simp [NfsLive, hclient]

/-- The pointers stay, and no client is forgotten. -/
theorem Placed.setPool (h : clients.Placed) (hbounded : pool.Bounded)
    (hle : clients.pool.created ≤ pool.created) : (clients.setPool pool).Placed :=
  ⟨hbounded, fun client hclient ↦ (h.clntp_lt client hclient).trans_le hle,
    fun client hclient ↦ (h.aclClntp_apart client hclient).imp_left fun hlt ↦ hlt.trans_le hle,
    fun client hclient ↦ (h.aclSaved_apart client hclient).imp_left fun hlt ↦ hlt.trans_le hle⟩

theorem attempt_undisturbed
    (hpath : ((attempt procedure client).run clients).Path segment (.done outcome clients')) :
    segment.any isLoss = false ∧ Undisturbed clients clients' ∧
      clients'.aclSaved = clients.aclSaved := by
  obtain ⟨res, rest, rfl, hrest⟩ := hpath
  cases res with
  | some res =>
    obtain ⟨rfl, heq⟩ := hrest
    cases heq
    exact ⟨rfl, ⟨rfl, rfl, rfl, rfl⟩, rfl⟩
  | none =>
    obtain ⟨reErrno, last, rfl, rfl, heq⟩ := hrest
    cases heq
    exact ⟨rfl, ⟨rfl, rfl, rfl, rfl⟩, rfl⟩

/-- The pool after a client has been closed. -/
theorem Placed.closed (h : clients.Placed) (kind : ClientUse)
    (hextends : ((clients.pool.use kind client).destroy client).Extends pool) :
    (clients.setPool pool).Placed ∧
      ((clients.setPool pool).NfsLive ↔ clients.NfsLive ∧ clients.clntp ≠ some client) := by
  refine ⟨h.setPool (hextends.bounded (Pool.Bounded.destroy h.bounded client)) hextends.created_le,
    ?_⟩
  cases hclntp : clients.clntp with
  | none => simp [NfsLive, Clients.setPool, hclntp]
  | some clntp =>
    have hpointer : (clients.setPool pool).clntp = some clntp := hclntp
    rw [nfsLive_iff_mem hpointer, nfsLive_iff_mem hclntp]
    refine (hextends.live_iff clntp (h.clntp_lt clntp hclntp)).trans ?_
    rw [Pool.mem_destroy_iff, ne_eq, ne_eq, Option.some_inj]
    rfl

/-- The superblock after a client of the service has been replaced. -/
theorem Placed.reconnected (h : clients.Placed) (hserves : clients.Serves client service) :
    (clients.reconnected service client).Placed ∧
      (clients.reconnected service client).Serves clients.pool.created service ∧
      ((clients.reconnected service client).NfsLive ↔ clients.NfsLive) := by
  have hextends : ((clients.pool.use .closeclnt client).destroy client).Extends
      (((clients.pool.use .closeclnt client).destroy client).create.use .clntCall
        clients.pool.created) :=
    Pool.Extends.rfl.create.use _ _
  obtain ⟨hplaced, hlive⟩ := h.closed .closeclnt hextends
  cases service with
  | nfs =>
    refine ⟨⟨hplaced.bounded, ?_, ?_, ?_⟩, ⟨rfl, List.mem_cons_self⟩, ?_⟩
    · rintro _ ⟨rfl⟩
      exact Nat.lt_succ_self _
    · intro other hother
      have hlt := (h.aclClntp_apart other hother).1
      exact ⟨Nat.lt_succ_of_lt hlt, fun heq ↦ hlt.ne' (Option.some.inj heq)⟩
    · intro other hother
      have hlt := (h.aclSaved_apart other hother).1
      exact ⟨Nat.lt_succ_of_lt hlt, fun heq ↦ hlt.ne' (Option.some.inj heq)⟩
    · exact iff_of_true ⟨_, List.mem_cons_self, rfl⟩ ⟨client, hserves.2, hserves.1⟩
  | acl =>
    have hnew : clients.clntp ≠ some clients.pool.created :=
      fun heq ↦ (h.clntp_lt _ heq).ne rfl
    refine ⟨⟨hplaced.bounded, hplaced.clntp_lt, ?_, hplaced.aclSaved_apart⟩,
      ⟨Nat.lt_succ_self _, hnew⟩, hlive.trans (and_iff_left hserves.2)⟩
    rintro _ ⟨rfl⟩
    exact ⟨Nat.lt_succ_self _, hnew⟩

theorem Serves.serviceOf_eq {found : Service} (hserves : clients.Serves client service)
    (hfound : clients.serviceOf client = some found) : found = service := by
  unfold serviceOf at hfound
  cases service with
  | nfs =>
    rw [if_pos hserves.1] at hfound
    exact (Option.some.inj hfound).symm
  | acl =>
    rw [if_neg hserves.2] at hfound
    split_ifs at hfound
    exact (Option.some.inj hfound).symm

/-- An attempt changes nothing about the clients. -/
theorem Placed.attempt (h : clients.Placed)
    (hpath : ((attempt procedure client).run clients).Path segment (.done outcome clients')) :
    segment.any isLoss = false ∧ Undisturbed clients clients' ∧ clients'.Placed := by
  obtain ⟨hloss, hsame, haclSaved⟩ := attempt_undisturbed hpath
  exact ⟨hloss, hsame, hsame.placed h fun other hother ↦
    h.aclSaved_apart other (haclSaved ▸ hother)⟩

/-- A reconnection that fails leaves no live client of its service.  Any other one puts a client of
the same service in the place of the old one. -/
theorem Placed.reconnect {result : Option ℕ} (h : clients.Placed)
    (hserves : clients.Serves client service)
    (hpath : ((hsiNfs3ClntReconnect client).run clients).Path segment (.done result clients')) :
    clients'.Placed ∧
      ((result = none ∧ segment.any isLoss = true ∧
          (clients'.NfsLive ↔ clients.NfsLive ∧ service ≠ .nfs)) ∨
        ∃ client', result = some client' ∧ segment.any isLoss = false ∧
          clients'.Serves client' service ∧ (clients'.NfsLive ↔ clients.NfsLive)) := by
  cases hfound : clients.serviceOf client with
  | none =>
    rw [hsiNfs3ClntReconnect, Program.get_bind, hfound] at hpath
    cases hpath.2
  | some found =>
    obtain rfl := hserves.serviceOf_eq hfound
    rcases hsiNfs3ClntReconnect_cases hfound hpath with
      ⟨rfl, hloss, pool, -, hextends, rfl⟩ | ⟨rfl, hloss, -, rfl⟩
    · obtain ⟨hplaced, hlive⟩ := h.closed .closeclnt hextends
      refine ⟨hplaced, .inl ⟨rfl, hloss, hlive.trans (and_congr_right fun _ ↦ ?_)⟩⟩
      cases found with
      | nfs => exact iff_of_false (not_not.mpr hserves.1) (not_not.mpr rfl)
      | acl => exact iff_of_true hserves.2 (by decide)
    · obtain ⟨hplaced, hserves', hlive⟩ := h.reconnected hserves
      exact ⟨hplaced, .inr ⟨_, rfl, hloss, hserves', hlive⟩⟩

/-- A call leaves a live client of the NFS service unless it is one of that service and a
reconnection fails.  The induction is on the attempts that are left. -/
theorem Placed.call (h : clients.Placed) (hserves : clients.Serves client service)
    (hpath : ((hsiNfs3ClntCall procedure left client).run clients).Path segment
      (.done outcome clients')) :
    clients'.Placed ∧
      (clients'.NfsLive ↔ clients.NfsLive ∧ ¬ (service = .nfs ∧ segment.any isLoss = true)) := by
  induction left generalizing client clients segment with
  | zero =>
    obtain ⟨hloss, hsame, hplaced⟩ := h.attempt hpath
    exact ⟨hplaced, by simp [hsame.nfsLive_iff, hloss]⟩
  | succ left ih =>
    obtain ⟨tried, middle, front, rest, hattempt, hrest, rfl⟩ := Program.path_bind_done.mp hpath
    obtain ⟨hloss, hsame, hmiddle⟩ := h.attempt hattempt
    have hserves' := hsame.serves hserves
    rw [← hsame.nfsLive_iff, List.any_append, hloss, Bool.false_or]
    have hstop : rest = [] → middle = clients' → clients'.Placed ∧ (clients'.NfsLive ↔
        middle.NfsLive ∧ ¬ (service = .nfs ∧ rest.any isLoss = true)) := by
      rintro rfl rfl
      exact ⟨hmiddle, by simp⟩
    cases tried with
    | done res =>
      obtain ⟨hnil, heq⟩ := hrest
      cases heq
      exact hstop hnil rfl
    | fail ret nonzero =>
      change ((if ret = eagain then _ else _ : ClientProg (RpcOutcome procedure.Body)).run
        middle).Path rest _ at hrest
      split_ifs at hrest with hagain hgone
      · exact ih hmiddle hserves' hrest
      · obtain ⟨result, replaced, front', rest', hreconnect, hlast, rfl⟩ :=
          Program.path_bind_done.mp hrest
        obtain ⟨hplaced, ⟨rfl, hlost, hlive⟩ | ⟨client', rfl, hkept, hserves'', hlive⟩⟩ :=
          hmiddle.reconnect hserves' hreconnect
        · obtain ⟨rfl, heq⟩ := hlast
          cases heq
          exact ⟨hplaced, by simp [hlive, hlost]⟩
        · rw [← hlive, List.any_append, hkept, Bool.false_or]
          exact ih hplaced hserves'' hlast
      · obtain ⟨hnil, heq⟩ := hrest
        cases heq
        exact hstop hnil rfl

end Calls

end Clients

end NfsFuse
