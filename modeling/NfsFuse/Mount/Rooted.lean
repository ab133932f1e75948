import NfsFuse.Mount.Outcome
import NfsFuse.Mount.Transport
import NfsFuse.Nfs3.NfsClient

/-!
# What a mount leaves to the session

`hsfs_do_mount` returns 0 after a refused mount and after a failed `hsi_fill_super`, too.  It has
stored a root only if the server has accepted the mount.  Then the root is cached, and the client in
the superblock is live exactly if every call of the mount has succeeded: `PATHCONF` comes after the
root has been stored, and when it fails the label `umnt_fail` destroys the client.

A call of the mount is one question here.  A reconnection that fails is part of a call that fails.
-/

namespace NfsFuse

open Lib

theorem NumberOption.root_set (val : ℤ) (data : MountData) (option : NumberOption) :
    (option.set val data).super.root = data.super.root := by
  cases option <;> rfl

theorem root_applyOptions (mark : TransportOption → UInt32 → UInt32) (data : MountData)
    (options : List MountOption) :
    (applyOptions mark data options).super.root = data.super.root := by
  induction options generalizing data with
  | nil => rfl
  | cons option options ih =>
    rw [applyOptions, List.foldl_cons]
    apply (ih _).trans
    cases option with
    | number option value => exact option.root_set (atoi value) data
    | _ => rfl

theorem Prog.Prepares.done {α : Type} {program : Prog α} (h : program.Prepares fun _ ↦ True)
    {daemon daemon' : Daemon} {trace : Trace} {value : α}
    (hpath : (program.run daemon).Path trace (.done value daemon')) :
    daemon' = daemon ∧ ∀ event ∈ trace, Preparing event := by
  have hfixes : program.Fixes id := Program.Within.fixes h fun label ↦ label.elim
  exact ⟨hfixes _ _ _ hpath, h.emits _ _ _ hpath⟩

/-- A mount from here on prepares until the server has answered, and goes on from the same state. -/
def FinishesFrom (plat : Platform) (daemon : Daemon) (trace : Trace) (daemon' : Daemon) : Prop :=
  ∃ front rest mnt nfs dirname mntres, trace = front ++ rest ∧
    (∀ event ∈ front, Preparing event) ∧ mountReply front = some (.done mntres) ∧
    ((finishMount plat mnt nfs dirname mntres).run daemon).Path rest (.done 0 daemon')

theorem FinishesFrom.after {plat : Platform} {daemon daemon' : Daemon} {front rest : Trace}
    (h : FinishesFrom plat daemon rest daemon') (hfront : ∀ event ∈ front, Preparing event) :
    FinishesFrom plat daemon (front ++ rest) daemon' := by
  obtain ⟨middle, last, mnt, nfs, dirname, mntres, rfl, hmiddle, hreply, hfinish⟩ := h
  refine ⟨front ++ middle, last, mnt, nfs, dirname, mntres, ?_, ?_, ?_, hfinish⟩
  · rw [List.append_assoc]
  · exact List.forall_mem_append.mpr ⟨hfront, hmiddle⟩
  · rw [mountReply_append, hreply]
    rfl

theorem mountServer_finish {plat : Platform} {fuel : ℕ} {fg : Bool} {data : MountData}
    {dirname : CString} {daemon daemon' : Daemon} {trace : Trace}
    (hpath : ((mountServer plat fuel fg data dirname).run daemon).Path trace (.done 0 daemon')) :
    FinishesFrom plat daemon trace daemon' := by
  unfold mountServer at hpath
  split_ifs at hpath
  · cases hpath.2
  · obtain ⟨now, rest, rfl, hrest⟩ := Prog.path_host_bind.mp hpath
    have htime : ∀ event ∈ [(⟨.host .time, now⟩ : Event EnvAns)], Preparing event :=
      List.forall_mem_singleton.mpr ⟨rfl, rfl⟩
    obtain ⟨⟨ret, res⟩, daemon₁, front, rest, hloop, hrest, rfl⟩ :=
      Program.path_bind_done.mp hrest
    obtain ⟨rfl, hfront⟩ := (prepares_mountLoop _ trivial _ _ _).done hloop
    have hresult := mountLoop_done hloop
    cases res with
    | none =>
      cases hrest.2
      exact absurd rfl hresult
    | some mntres =>
      have hfinish : FinishesFrom plat daemon₁ (front ++ rest) daemon' :=
        ⟨front, rest, _, _, _, mntres, rfl, hfront, hresult.2, hrest⟩
      exact hfinish.after htime

/-- Up to the server's answer the mount only prepares: there is no client, and no root is stored. -/
theorem hsfsDoMount_finish {plat : Platform} {fuel : ℕ} {opts : CmdlineOpts} {trace : Trace}
    {daemon' : Daemon}
    (hpath : ((hsfsDoMount plat fuel opts).run .initial).Path trace (.done 0 daemon')) :
    ∃ daemon, daemon.heap = [] ∧ daemon.freed = [] ∧ daemon.liveClients = [] ∧
      daemon.sb.root = .null ∧ FinishesFrom plat daemon trace daemon' := by
  unfold hsfsDoMount at hpath
  split_ifs at hpath with hlong
  · cases hpath.2
  obtain ⟨parts, daemon₁, front, rest, hparse, hrest, rfl⟩ := Program.path_bind_done.mp hpath
  obtain ⟨rfl, hfront⟩ := (prepares_nfsParseDevname _).done hparse
  cases parts with
  | none => cases hrest.2
  | some parts =>
    obtain ⟨⟨err, addr⟩, daemon₂, middle, rest, hresolve, hrest, rfl⟩ :=
      Program.path_bind_done.mp hrest
    obtain ⟨rfl, hmiddle⟩ := (prepares_hsiGethostbyname _).done hresolve
    dsimp only at hrest
    rw [Prog.modifySuper_bind] at hrest
    split_ifs at hrest with herr
    · cases hrest.2
    rw [Program.get_bind] at hrest
    obtain ⟨⟨bad, data⟩, daemon₃, options, rest, hoptions, hrest, rfl⟩ :=
      Program.path_bind_done.mp hrest
    obtain ⟨rfl, hoptional⟩ := (prepares_hsiNfs3ParseOptions _ _ _).done hoptions
    dsimp only at hrest
    rw [Prog.modifySuper_bind] at hrest
    split_ifs at hrest with hbad hcompat
    · cases hrest.2
    · cases hrest.2
    rw [Prog.modifySuper_bind] at hrest
    rw [not_not.mp hbad] at hoptions
    have hroom : ([] : CString).length < hostdirSize := by decide
    obtain ⟨mntAddr, rfl⟩ := hsiNfs3ParseOptions_accepted hroom hoptions
    have hfinish := mountServer_finish hrest
    refine ⟨_, ?_, ?_, ?_, ?_, ((hfinish.after hoptional).after hmiddle).after hfront⟩
    · rfl
    · rfl
    · rfl
    · exact root_applyOptions _ _ _

section FillSuper

-- `hsi_nfs_fhget` is only used through the list of its runs
attribute [local irreducible] hsiNfsFhget

/-- `hsi_fill_super` stores no root, or it leaves the file system mounted. -/
theorem hsiFillSuper_root {plat : Platform} {fh : NfsFh3} {daemon daemon' : Daemon} {trace : Trace}
    {err : ℤ} (hheap : daemon.heap = []) (hfreed : daemon.freed = [])
    (hroot : daemon.sb.root = .null)
    (hpath : ((hsiFillSuper plat fh).run daemon).Path trace (.done err daemon')) :
    daemon'.sb.root = .null ∨ Mounted daemon' := by
  unfold hsiFillSuper at hpath
  rw [Prog.modifySuper_bind] at hpath
  obtain ⟨⟨ret, fattr⟩, daemon₁, front, rest, hfsinfo, hrest, rfl⟩ :=
    Program.path_bind_done.mp hpath
  obtain ⟨hcoherent, hgrows⟩ := keeps_hsiNfs3Fsinfo _ _ _ _ _ _ _ hfsinfo
    ((coherent_emptyCache daemon.sb).congr rfl rfl rfl hheap hfreed)
  have hlength : daemon₁.heap.length = 0 := by
    rw [(untouched_hsiNfs3Fsinfo _ _ _ _ _ _ _ hfsinfo).heap_eq]
    exact List.length_eq_zero_iff.mpr hheap
  dsimp only at hrest
  split_ifs at hrest with hret
  · cases hrest.2
    exact .inl (hgrows.root_eq.trans hroot)
  · obtain ⟨root, daemon₂, middle, rest', hfhget, huse, rfl⟩ := Program.path_bind_done.mp hrest
    rw [hsiNfsFhget_path_iff plat hcoherent.live] at hfhget
    rw [if_neg (by rw [hfhget.isErr_eq_false plat]; decide)] at huse
    cases hfhget with
    | rejected _ => cases huse.2
    | noMemory _ _ => cases huse.2
    | hit _ hfind =>
      have hlt := ((hcoherent.findFile_eq_some_iff (nfsCopyFh3_wellFormed fh) _ _).mp hfind).1
      omega
    | entered hattr hfind hid =>
      have hmounted := mounted_enter hcoherent hlength (nfsCopyFh3_wellFormed fh) hattr hfind hid
      rw [hlength, useRoot_obj_run hmounted] at huse
      exact .inr (hmounted.pathconf huse)

end FillSuper

/-- Clients may be destroyed, and nothing else happens. -/
structure Closes (daemon daemon' : Daemon) : Prop where
  sb_eq : daemon'.sb = daemon.sb
  heap_eq : daemon'.heap = daemon.heap
  freed_eq : daemon'.freed = daemon.freed
  clients_eq : daemon'.clients = daemon.clients
  live_subset : daemon'.liveClients ⊆ daemon.liveClients

instance : Std.Refl Closes := ⟨fun _ ↦ ⟨rfl, rfl, rfl, rfl, fun _ h ↦ h⟩⟩

instance : IsTrans Daemon Closes where
  trans _ _ _ h h' := ⟨h'.sb_eq.trans h.sb_eq, h'.heap_eq.trans h.heap_eq,
    h'.freed_eq.trans h.freed_eq, h'.clients_eq.trans h.clients_eq,
    fun _ hmem ↦ h.live_subset (h'.live_subset hmem)⟩

theorem closes_umntFail (server : Pmap) (dirname : CString) :
    (umntFail server dirname).Respects Closes := by
  have hdestroy (client : Option ℕ) : (clntDestroy client).Respects Closes := by
    cases client with
    | none => exact .crash _
    | some client => exact .modify fun _ ↦ ⟨rfl, rfl, rfl, rfl, List.filter_subset_self _⟩
  have hunmount : (hsiNfs3Unmount server dirname).Respects Closes :=
    .bind (.ite (.ask _) (.pure _)) fun _ ↦ .ite (.ask _) (.pure _)
  refine .bind .get fun daemon ↦ ?_
  have hrest : (clntDestroy daemon.sb.clntp >>= fun _ ↦ hsiNfs3Unmount server dirname >>= fun _ ↦
      pure ()).Respects Closes :=
    .bind (hdestroy _) fun _ ↦ .bind hunmount fun _ ↦ .pure _
  exact .ite (.bind (hdestroy _) fun _ ↦ hrest) hrest

theorem Mounted.closes {daemon daemon' : Daemon} (h : Mounted daemon)
    (hcloses : Closes daemon daemon') : Mounted daemon' := by
  have hsb := hcloses.sb_eq
  have hinode : daemon'.inode 0 = daemon.inode 0 := by
    simp only [Daemon.inode, hcloses.heap_eq]
  constructor
  · exact h.coherent.congr (by rw [hsb]) (by rw [hsb]) (by rw [hsb]) hcloses.heap_eq
      hcloses.freed_eq
  · rw [hsb, h.root_eq]
  · rw [hcloses.heap_eq, h.length_eq]
  · rw [hinode, h.ino_eq]
  · rw [hinode, h.priv_eq]

/-- A client is created. -/
def Daemon.addClient (daemon : Daemon) : Daemon :=
  { daemon with clients := daemon.clients + 1, liveClients := daemon.clients :: daemon.liveClients }

theorem hsiNfs3ClntCreate_cases {server : Pmap} {daemon daemon' : Daemon} {trace : Trace}
    {client : Option ℕ}
    (hpath : ((hsiNfs3ClntCreate server).run daemon).Path trace (.done client daemon')) :
    (client = none ∧ daemon' = daemon) ∨
      (client = some daemon.clients ∧ daemon' = daemon.addClient) := by
  unfold hsiNfs3ClntCreate hsiMntOpenclnt at hpath
  split_ifs at hpath
  · obtain ⟨opened, rest, rfl, hrest⟩ := Prog.path_host_bind.mp hpath
    cases opened with
    | false =>
      cases hrest.2
      exact .inl ⟨rfl, rfl⟩
    | true =>
      obtain ⟨ret, rest, rfl, hping⟩ := Prog.path_host_bind.mp hrest
      split_ifs at hping
      · cases hping.2
        exact .inl ⟨rfl, rfl⟩
      · cases hping.2
        exact .inr ⟨rfl, rfl⟩
  · cases hpath.2
    exact .inl ⟨rfl, rfl⟩

/-- The clients that a mount has created, and the pointers to them. -/
def Clients.ofMount (daemon : Daemon) : Clients :=
  ⟨⟨daemon.clients, daemon.liveClients, []⟩, daemon.sb.clntp, daemon.sb.aclClntp, [], none⟩

theorem Clients.Placed.of_daemon {daemon daemon' : Daemon} (h : (Clients.ofMount daemon).Placed)
    (hclients : daemon'.clients = daemon.clients)
    (hlive : daemon'.liveClients ⊆ daemon.liveClients)
    (hclntp : daemon'.sb.clntp = daemon.sb.clntp)
    (haclClntp : daemon'.sb.aclClntp = daemon.sb.aclClntp) : (Clients.ofMount daemon').Placed := by
  refine ⟨fun client hmem ↦ ?_, fun client hclient ↦ ?_, fun client hclient ↦ ?_, nofun⟩
  · exact (h.bounded client (hlive hmem)).trans_eq hclients.symm
  · exact (h.clntp_lt client (hclntp.symm.trans hclient)).trans_eq hclients.symm
  · obtain ⟨hlt, hne⟩ := h.aclClntp_apart client (haclClntp.symm.trans hclient)
    exact ⟨hlt.trans_eq hclients.symm, fun heq ↦ hne (hclntp.symm.trans heq)⟩

/-- The client of the ACL service is created after that of the NFS service. -/
theorem placed_created {server : Pmap} {daemon daemon' : Daemon} {trace : Trace}
    {aclClntp : Option ℕ} (hlive : daemon.liveClients = [])
    (hpath : ((hsiNfs3ClntCreate server).run { daemon.addClient with
      sb := { daemon.sb with clntp := some daemon.clients } }).Path trace
        (.done aclClntp daemon')) :
    (Clients.ofMount { daemon' with sb := { daemon'.sb with aclClntp := aclClntp } }).Placed := by
  rcases hsiNfs3ClntCreate_cases hpath with ⟨rfl, rfl⟩ | ⟨rfl, rfl⟩
  · refine ⟨?_, ?_, nofun, nofun⟩
    · simp [Pool.Bounded, Clients.ofMount, Daemon.addClient, hlive]
    · rintro _ ⟨rfl⟩
      exact Nat.lt_succ_self _
  · refine ⟨?_, ?_, ?_, nofun⟩
    · simp [Pool.Bounded, Clients.ofMount, Daemon.addClient, hlive]
    · rintro _ ⟨rfl⟩
      exact Nat.lt_add_of_pos_right Nat.two_pos
    · rintro _ ⟨rfl⟩
      exact ⟨Nat.lt_succ_self _, fun heq ↦ (Nat.lt_succ_self _).ne (Option.some.inj heq)⟩

theorem Clients.Placed.closes {daemon daemon' : Daemon} (h : (Clients.ofMount daemon).Placed)
    (hcloses : Closes daemon daemon') : (Clients.ofMount daemon').Placed :=
  h.of_daemon hcloses.clients_eq hcloses.live_subset (congrArg HsfsSuper.clntp hcloses.sb_eq)
    (congrArg HsfsSuper.aclClntp hcloses.sb_eq)

/-- What `hsi_fill_super` and its error label leave behind once a root is stored: the file system is
mounted, with or without its client. -/
theorem fillSuper_root {plat : Platform} {mnt : Pmap} {dirname : CString} {fh : NfsFh3}
    {daemon daemon' : Daemon} {trace : Trace} {ret : ℤ} (hheap : daemon.heap = [])
    (hfreed : daemon.freed = []) (hroot : daemon.sb.root = .null)
    (hplaced : (Clients.ofMount daemon).Placed)
    (hpath : ((do
      let err ← hsiFillSuper plat fh
      if err ≠ 0 then
        umntFail mnt dirname
        return 0
      else
        return 0 : Prog ℤ).run daemon).Path trace (.done ret daemon'))
    (hstored : daemon'.sb.root ≠ .null) :
    Mounted daemon' ∧ (Clients.ofMount daemon').Placed := by
  obtain ⟨err, daemon₁, front, rest, hfill, hrest, rfl⟩ := Program.path_bind_done.mp hpath
  have hfilled := hsiFillSuper_root hheap hfreed hroot hfill
  obtain ⟨-, -, hsame, -⟩ := hsiFillSuper_done hheap hfreed hfill
  have hplaced₁ : (Clients.ofMount daemon₁).Placed := hplaced.of_daemon hsame.clients_eq
    (hsame.liveClients_eq ▸ fun _ h ↦ h) hsame.clntp_eq hsame.aclClntp_eq
  split_ifs at hrest with herr
  · obtain ⟨⟨⟩, daemon₂, middle, last, hfail, hdone, rfl⟩ := Program.path_bind_done.mp hrest
    cases hdone.2
    have hcloses := closes_umntFail _ _ _ _ _ _ hfail
    rw [hcloses.sb_eq] at hstored
    exact ⟨(hfilled.resolve_left hstored).closes hcloses, hplaced₁.closes hcloses⟩
  · cases hrest.2
    exact ⟨hfilled.resolve_left hstored, hplaced₁⟩

/-- Only an accepted mount stores a root, and then the file system is mounted, with or without its
client. -/
theorem finishMount_root {plat : Platform} {mnt nfs : Pmap} {dirname : CString}
    {mntres : NfsRes NfsFh3} {daemon daemon' : Daemon} {trace : Trace} {ret : ℤ}
    (hheap : daemon.heap = []) (hfreed : daemon.freed = []) (hlive : daemon.liveClients = [])
    (hroot : daemon.sb.root = .null)
    (hpath : ((finishMount plat mnt nfs dirname mntres).run daemon).Path trace
      (.done ret daemon')) (hstored : daemon'.sb.root ≠ .null) :
    (∃ fh, mntres = .ok fh) ∧ Mounted daemon' ∧ (Clients.ofMount daemon').Placed := by
  unfold finishMount at hpath
  obtain ⟨clntp, daemon₁, front, rest, hcreate, hrest, rfl⟩ := Program.path_bind_done.mp hpath
  rw [Prog.modifySuper_bind] at hrest
  rcases hsiNfs3ClntCreate_cases hcreate with ⟨rfl, -⟩ | ⟨rfl, rfl⟩
  · rw [if_pos rfl] at hrest
    obtain ⟨⟨⟩, daemon₂, middle, last, hfail, -, -⟩ := Program.path_bind_done.mp hrest
    exact (umntFail_none rfl hfail).elim
  rw [if_neg (by simp)] at hrest
  obtain ⟨aclClntp, daemon₂, middle, last, hacl, hlast, rfl⟩ := Program.path_bind_done.mp hrest
  rw [Prog.modifySuper_bind] at hlast
  obtain ⟨⟨hsb₂, hheap₂, hfreed₂, -⟩, -⟩ := hsiNfs3ClntCreate_done hacl
  have hroot₂ : daemon₂.sb.root = .null := by
    rw [hsb₂]
    exact hroot
  have hplaced := placed_created hlive hacl
  cases mntres with
  | fail status hne =>
    cases hlast.2
    exact absurd hroot₂ hstored
  | ok fh =>
    have hfill := fun hheap hfreed hroot ↦ fillSuper_root hheap hfreed hroot hplaced hlast hstored
    exact ⟨⟨fh, rfl⟩, hfill (hheap₂.trans hheap) (hfreed₂.trans hfreed) hroot₂⟩

/-- What a mount that returned 0 and stored a root has left. -/
theorem hsfsDoMount_rooted {plat : Platform} {fuel : ℕ} {opts : CmdlineOpts} {trace : Trace}
    {daemon : Daemon}
    (hpath : ((hsfsDoMount plat fuel opts).run .initial).Path trace (.done 0 daemon))
    (hstored : daemon.sb.root ≠ .null) :
    MountAccepted trace ∧ (Clients.ofMount daemon).Placed ∧
      ((Clients.ofMount daemon).NfsLive ↔ CallsSucceed trace) := by
  obtain ⟨daemon₁, hheap, hfreed, hlive, hroot, front, rest, mnt, nfs, dirname, mntres, rfl,
    hfront, hreply, hfinish⟩ := hsfsDoMount_finish hpath
  obtain ⟨⟨fh, rfl⟩, hmounted, hplaced⟩ :=
    finishMount_root hheap hfreed hlive hroot hfinish hstored
  obtain ⟨-, -, hnone, hclient⟩ := finishMount_done hheap hfreed hfinish
  have hcalls : CallsSucceed front := by
    intro event hmem
    have hcall := (hfront event hmem).2
    unfold CallSucceeded
    split
    · cases hcall
    · trivial
  refine ⟨⟨fh, ?_⟩, hplaced, ?_⟩
  · rw [mountReply_append, mountReply_eq_none hnone, hreply]
    rfl
  · rw [callsSucceed_append, and_iff_right hcalls, hclient fh rfl]
    exact (and_iff_left hmounted.rootCached).symm

end NfsFuse
