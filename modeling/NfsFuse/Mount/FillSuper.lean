import NfsFuse.Mount.Mount
import NfsFuse.Nfs3.Coherence

/-!
# Filling the superblock

`hsi_fill_super` succeeds exactly when all of its remote calls do.  A superblock it has filled
belongs to a coherent cache that holds one inode, the root, with number 1 and lookup count 0; this
is the state in which requests start to arrive.
-/

namespace NfsFuse

open Lib

-- `hsi_nfs_fhget` is only used through the list of its runs
attribute [local irreducible] hsiNfsFhget

/-- A remote call of the file system that returned with status `NFS3_OK`, or another question. -/
def CallSucceeded : Event EnvAns → Prop
  | ⟨.call _, outcome⟩ => statusOf outcome = 0
  | _ => True

/-- Every remote call of a run succeeded. -/
def CallsSucceed (trace : Trace) : Prop := ∀ event ∈ trace, CallSucceeded event

@[simp]
theorem callsSucceed_nil : CallsSucceed [] := by simp [CallsSucceed]

@[simp]
theorem callsSucceed_cons (event : Event EnvAns) (trace : Trace) :
    CallsSucceed (event :: trace) ↔ CallSucceeded event ∧ CallsSucceed trace :=
  List.forall_mem_cons

@[simp]
theorem callsSucceed_append (front rest : Trace) :
    CallsSucceed (front ++ rest) ↔ CallsSucceed front ∧ CallsSucceed rest :=
  List.forall_mem_append

/-- The question is asked of the host. -/
def EnvOp.isHost : EnvOp → Bool
  | .host _ => true
  | _ => false

/-- Nothing is allocated, freed or replied, and no client is created or destroyed. -/
structure Untouched (daemon daemon' : Daemon) : Prop where
  heap_eq : daemon'.heap = daemon.heap
  freed_eq : daemon'.freed = daemon.freed
  replies_eq : daemon'.replies = daemon.replies
  clients_eq : daemon'.clients = daemon.clients
  liveClients_eq : daemon'.liveClients = daemon.liveClients

instance : Std.Refl Untouched := ⟨fun _ ↦ ⟨rfl, rfl, rfl, rfl, rfl⟩⟩

instance : IsTrans Daemon Untouched where
  trans _ _ _ h h' := ⟨h'.heap_eq.trans h.heap_eq, h'.freed_eq.trans h.freed_eq,
    h'.replies_eq.trans h.replies_eq, h'.clients_eq.trans h.clients_eq,
    h'.liveClients_eq.trans h.liveClients_eq⟩

theorem untouched_modifySuper (update : HsfsSuper → HsfsSuper) :
    (Prog.modifySuper update).Respects Untouched :=
  .modify fun _ ↦ ⟨rfl, rfl, rfl, rfl, rfl⟩

theorem untouched_hsiNfs3Fsinfo (plat : Platform) (fh : NfsFh3) (fattr : NfsFattr) :
    (hsiNfs3Fsinfo plat fh fattr).Respects Untouched := by
  refine .bind (.clntCall _) fun outcome ↦ ?_
  split
  · exact .pure _
  · exact .pure _
  · refine .bind (untouched_modifySuper _) fun _ ↦ .ite (.bind ?_ fun _ ↦ .pure _) (.pure _)
    refine .bind (.clntCall _) fun outcome ↦ ?_
    split <;> exact .pure _

theorem keeps_hsiNfs3Fsinfo (plat : Platform) (fh : NfsFh3) (fattr : NfsFattr) :
    (hsiNfs3Fsinfo plat fh fattr).Respects KeepsCoherent := by
  refine .bind (.clntCall _) fun outcome ↦ ?_
  split
  · exact .pure _
  · exact .pure _
  · refine .bind ?_ fun _ ↦ .ite (.bind ?_ fun _ ↦ .pure _) (.pure _)
    · apply keeps_modifySuper <;> exact fun _ ↦ rfl
    · refine .bind (.clntCall _) fun outcome ↦ ?_
      split <;> exact .pure _

theorem keeps_hsiNfs3Pathconf (index : ℕ) :
    (hsiNfs3Pathconf index).Respects KeepsCoherent := by
  refine .bind (.getInode index) fun _ ↦ .bind (.clntCall _) fun outcome ↦ ?_
  split
  · exact .pure _
  · exact .pure _
  · refine .bind ?_ fun _ ↦ .pure _
    apply keeps_modifySuper <;> exact fun _ ↦ rfl

theorem untouched_hsiNfs3Pathconf (index : ℕ) :
    (hsiNfs3Pathconf index).Respects Untouched := by
  refine .bind (.getInode index) fun _ ↦ .bind (.clntCall _) fun outcome ↦ ?_
  split
  · exact .pure _
  · exact .pure _
  · exact .bind (untouched_modifySuper _) fun _ ↦ .pure _

theorem emits_hsiNfs3Fsinfo (plat : Platform) (fh : NfsFh3) (fattr : NfsFattr) :
    (hsiNfs3Fsinfo plat fh fattr).Emits fun event ↦ event.op.isHost = false := by
  refine .bind (.clntCall fun _ ↦ rfl) fun outcome ↦ ?_
  split
  · exact .pure _
  · exact .pure _
  · refine .bind (.modify _) fun _ ↦ .ite (.bind ?_ fun _ ↦ .pure _) (.pure _)
    refine .bind (.clntCall fun _ ↦ rfl) fun outcome ↦ ?_
    split <;> exact .pure _

theorem emits_hsiNfs3Pathconf (index : ℕ) :
    (hsiNfs3Pathconf index).Emits fun event ↦ event.op.isHost = false := by
  refine .bind (.bind .get fun _ ↦ .pure _) fun _ ↦ .bind (.clntCall fun _ ↦ rfl) fun outcome ↦ ?_
  split
  · exact .pure _
  · exact .pure _
  · exact .bind (.modify _) fun _ ↦ .pure _

theorem hsiNfs3DoGetattr_calls {fh : List UInt8} {fattr : NfsFattr} {st : Stat}
    {daemon daemon' : Daemon} {trace : Trace} {result : ℤ × NfsFattr × Stat}
    (hpath : ((hsiNfs3DoGetattr fh fattr st).run daemon).Path trace (.done result daemon')) :
    result.1 = 0 ↔ CallsSucceed trace := by
  obtain ⟨outcome, rest, rfl, hrest⟩ := hpath
  match outcome with
  | .fail err hne =>
    obtain ⟨rfl, heq⟩ := hrest
    cases heq
    simp [CallSucceeded, statusOf]
  | .done (.fail status hne) =>
    obtain ⟨rfl, heq⟩ := hrest
    cases heq
    simp [CallSucceeded, statusOf]
  | .done (.ok attr) =>
    obtain ⟨rfl, heq⟩ := hrest
    cases heq
    simp [CallSucceeded, statusOf]

theorem hsiNfs3Fsinfo_calls {plat : Platform} {fh : NfsFh3} {fattr : NfsFattr}
    {daemon daemon' : Daemon} {trace : Trace} {result : ℤ × NfsFattr}
    (hpath : ((hsiNfs3Fsinfo plat fh fattr).run daemon).Path trace (.done result daemon')) :
    result.1 = 0 ↔ CallsSucceed trace := by
  unfold hsiNfs3Fsinfo at hpath
  rw [Prog.clntCall_bind] at hpath
  obtain ⟨outcome, rest, rfl, hrest⟩ := hpath
  match outcome with
  | .fail err hne =>
    obtain ⟨rfl, heq⟩ := hrest
    cases heq
    simp [CallSucceeded, statusOf]
  | .done (.fail status hne) =>
    obtain ⟨rfl, heq⟩ := hrest
    cases heq
    simp [CallSucceeded, statusOf]
  | .done (.ok res) =>
    rw [callsSucceed_cons]
    dsimp only at hrest
    rw [Prog.modifySuper_bind] at hrest
    split_ifs at hrest
    · obtain ⟨⟨ret, fattr', st⟩, daemon₁, front, rest, hgetattr, hdone, rfl⟩ :=
        Program.path_bind_done.mp hrest
      obtain ⟨rfl, heq⟩ := hdone
      cases heq
      simpa [CallSucceeded, statusOf] using hsiNfs3DoGetattr_calls hgetattr
    · obtain ⟨rfl, heq⟩ := hrest
      cases heq
      simp [CallSucceeded, statusOf]

theorem hsiNfs3Pathconf_calls {index : ℕ} {daemon daemon' : Daemon} {trace : Trace} {ret : ℤ}
    (hpath : ((hsiNfs3Pathconf index).run daemon).Path trace (.done ret daemon')) :
    ret = 0 ↔ CallsSucceed trace := by
  unfold hsiNfs3Pathconf at hpath
  rw [Prog.getInode_bind, Prog.clntCall_bind] at hpath
  obtain ⟨outcome, rest, rfl, hrest⟩ := hpath
  match outcome with
  | .fail err hne =>
    obtain ⟨rfl, heq⟩ := hrest
    cases heq
    simp [CallSucceeded, statusOf]
  | .done (.fail status hne) =>
    obtain ⟨rfl, heq⟩ := hrest
    cases heq
    simp [CallSucceeded, statusOf]
  | .done (.ok res) =>
    obtain ⟨rfl, heq⟩ := hrest
    cases heq
    simp [CallSucceeded, statusOf]

/-! ## The filled superblock -/

/-- A freshly mounted file system. -/
structure Mounted (daemon : Daemon) : Prop where
  coherent : Coherent daemon
  root_eq : daemon.sb.root = .obj 0
  length_eq : daemon.heap.length = 1
  ino_eq : (daemon.inode 0).ino = 1
  priv_eq : (daemon.inode 0).priv = 0

/-- The clients and the replies stay what they are. -/
structure SameClients (daemon daemon' : Daemon) : Prop where
  clntp_eq : daemon'.sb.clntp = daemon.sb.clntp
  aclClntp_eq : daemon'.sb.aclClntp = daemon.sb.aclClntp
  clients_eq : daemon'.clients = daemon.clients
  liveClients_eq : daemon'.liveClients = daemon.liveClients
  replies_eq : daemon'.replies = daemon.replies

instance : IsTrans Daemon SameClients where
  trans _ _ _ h h' := ⟨h'.clntp_eq.trans h.clntp_eq, h'.aclClntp_eq.trans h.aclClntp_eq,
    h'.clients_eq.trans h.clients_eq, h'.liveClients_eq.trans h.liveClients_eq,
    h'.replies_eq.trans h.replies_eq⟩

theorem Grows.sameClients {daemon daemon' : Daemon} (h : Grows daemon daemon')
    (hclients : daemon'.clients = daemon.clients) : SameClients daemon daemon' :=
  ⟨h.clntp_eq, h.aclClntp_eq, hclients, h.liveClients_eq, h.replies_eq⟩

/-- The daemon after `super->root` has been stored. -/
def Daemon.setRoot (daemon : Daemon) (root : InodePtr) : Daemon :=
  { daemon with sb := daemon.sb.setRoot root }

/-- The root entered into an empty cache. -/
theorem mounted_enter {daemon : Daemon} (hcoherent : Coherent daemon)
    (hlength : daemon.heap.length = 0) {id : UInt64} {fh : NfsFh} {fattr : NfsFattr}
    (hfh : fh.WellFormed) (hattr : fattr.Acquirable) (hfind : daemon.findFile fh fattr = none)
    (hid : daemon.freeId = some id) :
    Mounted ((daemon.enter fattr.fileid id (daemon.newFile id fh fattr)).setRoot (.obj 0)) := by
  have hempty : daemon.hashed = ∅ := by
    rw [hcoherent.hashed_eq, hlength]
    ext index
    simp
  have hone : id = 1 := (hcoherent.numbered.freeId_eq_one_iff hid).mpr hempty
  obtain ⟨⟨hcoherent', -⟩, -, -⟩ := hcoherent.fhget hfh (.entered hattr hfind hid)
  have hself := Daemon.enter_inode_self daemon fattr.fileid id (daemon.newFile id fh fattr)
  rw [hlength] at hself
  have hroot : ((daemon.enter fattr.fileid id (daemon.newFile id fh fattr)).setRoot
      (.obj 0)).inode 0 = daemon.newFile id fh fattr := hself
  constructor
  · exact hcoherent'.congr rfl rfl rfl rfl rfl
  · rfl
  · have hlength' := Daemon.enter_length daemon fattr.fileid id (daemon.newFile id fh fattr)
    rw [hlength] at hlength'
    exact hlength'
  · rw [hroot, Daemon.newFile_eq, hone]
  · rw [hroot, Daemon.newFile_eq]
    rfl

/-- `PATHCONF` leaves a mounted file system mounted. -/
theorem Mounted.pathconf {daemon daemon' : Daemon} (h : Mounted daemon) {index : ℕ} {trace : Trace}
    {ret : ℤ} (hpath : ((hsiNfs3Pathconf index).run daemon).Path trace (.done ret daemon')) :
    Mounted daemon' := by
  obtain ⟨hcoherent, hgrows⟩ := keeps_hsiNfs3Pathconf index _ _ _ _ hpath h.coherent
  have huntouched := untouched_hsiNfs3Pathconf index _ _ _ _ hpath
  have hinode : daemon'.inode 0 = daemon.inode 0 := by
    simp only [Daemon.inode, huntouched.heap_eq]
  constructor
  · exact hcoherent
  · rw [hgrows.root_eq, h.root_eq]
  · rw [huntouched.heap_eq, h.length_eq]
  · rw [hinode, h.ino_eq]
  · rw [hinode, h.priv_eq]

/-- An error pointer is stored and then followed. -/
theorem useRoot_err_run (error : ℤ) (daemon : Daemon) :
    (useRoot (.err error)).run daemon = .fault .undefined (daemon.setRoot (.err error)) := rfl

theorem useRoot_obj_run {daemon : Daemon} (h : Mounted (daemon.setRoot (.obj 0))) :
    (useRoot (.obj 0)).run daemon = (hsiNfs3Pathconf 0).run (daemon.setRoot (.obj 0)) := by
  have hlive : 0 ∉ (daemon.setRoot (.obj 0)).freed := by simp [h.coherent.freed_nil]
  have hassert : Prog.assert (((daemon.setRoot (.obj 0)).inode 0).ino == 1) .rootIno =
      (pure () : Prog Unit) := by
    rw [h.ino_eq]
    rfl
  unfold useRoot
  rw [Prog.modifySuper_bind]
  change (Prog.deref (.obj 0) >>= _).run (daemon.setRoot (.obj 0)) = _
  rw [Program.bind_run_of_ret (deref_obj_run hlive), Prog.getInode_bind, hassert,
    Program.pure_bind']

/-- **`hsi_fill_super` succeeds exactly when its calls do, and then the file system is mounted.** -/
theorem hsiFillSuper_done {plat : Platform} {fh : NfsFh3} {daemon daemon' : Daemon} {trace : Trace}
    {err : ℤ} (hheap : daemon.heap = []) (hfreed : daemon.freed = [])
    (hpath : ((hsiFillSuper plat fh).run daemon).Path trace (.done err daemon')) :
    (err = 0 ↔ CallsSucceed trace) ∧ (err = 0 → Mounted daemon') ∧
      SameClients daemon daemon' ∧ ∀ event ∈ trace, event.op.isHost = false := by
  unfold hsiFillSuper at hpath
  rw [Prog.modifySuper_bind] at hpath
  obtain ⟨⟨ret, fattr⟩, daemon₁, front, rest, hfsinfo, hrest, rfl⟩ :=
    Program.path_bind_done.mp hpath
  have hcalls := hsiNfs3Fsinfo_calls hfsinfo
  obtain ⟨hcoherent, hgrows⟩ := keeps_hsiNfs3Fsinfo _ _ _ _ _ _ _ hfsinfo
    ((coherent_emptyCache daemon.sb).congr rfl rfl rfl hheap hfreed)
  have huntouched := untouched_hsiNfs3Fsinfo _ _ _ _ _ _ _ hfsinfo
  have hlength : daemon₁.heap.length = 0 := by
    rw [huntouched.heap_eq]
    exact List.length_eq_zero_iff.mpr hheap
  have hclients : SameClients daemon daemon₁ :=
    ⟨hgrows.clntp_eq, hgrows.aclClntp_eq, huntouched.clients_eq, hgrows.liveClients_eq,
      hgrows.replies_eq⟩
  have hhost := emits_hsiNfs3Fsinfo _ _ _ _ _ _ hfsinfo
  rw [callsSucceed_append, ← hcalls, List.forall_mem_append]
  dsimp only at hrest
  split_ifs at hrest with hret
  · obtain ⟨rfl, heq⟩ := hrest
    cases heq
    refine ⟨?_, fun hzero ↦ absurd hzero hret, hclients, hhost, ?_⟩ <;> simp
  · obtain ⟨root, daemon₂, middle, rest', hfhget, hroot, rfl⟩ := Program.path_bind_done.mp hrest
    rw [hsiNfsFhget_path_iff plat hcoherent.live] at hfhget
    rw [if_neg (by rw [hfhget.isErr_eq_false plat]; decide)] at hroot
    obtain ⟨⟨hcoherent₂, hgrows₂⟩, -, -⟩ := hcoherent.fhget (nfsCopyFh3_wellFormed fh) hfhget
    cases hfhget with
    | rejected _ => cases hroot.2
    | noMemory _ _ => cases hroot.2
    | hit _ hfind =>
      have hlt := ((hcoherent.findFile_eq_some_iff (nfsCopyFh3_wellFormed fh) _ _).mp hfind).1
      omega
    | entered hattr hfind hid =>
      have hmounted := mounted_enter hcoherent hlength (nfsCopyFh3_wellFormed fh) hattr hfind hid
      rw [hlength, useRoot_obj_run hmounted] at hroot
      have hpathconf := hsiNfs3Pathconf_calls hroot
      obtain ⟨-, hgrows₃⟩ := keeps_hsiNfs3Pathconf _ _ _ _ _ hroot hmounted.coherent
      have huntouched₃ := untouched_hsiNfs3Pathconf _ _ _ _ _ hroot
      have hclients₂ := IsTrans.trans _ _ _ hclients (hgrows₂.sameClients rfl)
      refine ⟨?_, fun _ ↦ hmounted.pathconf hroot, ?_, hhost, ?_⟩
      · rw [hpathconf]
        simp [not_not.mp hret, CallSucceeded]
      · exact IsTrans.trans _ _ _ hclients₂
          ⟨hgrows₃.clntp_eq, hgrows₃.aclClntp_eq, huntouched₃.clients_eq,
            hgrows₃.liveClients_eq, hgrows₃.replies_eq⟩
      · rw [List.forall_mem_append]
        exact ⟨by simp [EnvOp.isHost], emits_hsiNfs3Pathconf _ _ _ _ hroot⟩

end NfsFuse
