import NfsFuse.Inode.Identity
import NfsFuse.Nfs3.Readdir
import NfsFuse.Nfs3.Acl

/-!
# The procedures keep the cache coherent

Every procedure below the request handlers only refreshes attributes and enters new inodes, so it
keeps `Coherent` and lets the cache grow.  Each result is assembled from the rule for sequences and
the two steps that touch inodes: `hsi_nfs_fhget` and `nfs_refresh_inode`.  Abandoning a directory
listing also gives up references, which leaves everything but `i_count` alone.
-/

namespace NfsFuse

open Lib

-- `hsi_nfs_fhget` is only used through the list of its runs
attribute [local irreducible] hsiNfsFhget

instance : Std.Refl KeepsCoherent := ⟨KeepsCoherent.refl⟩

instance : IsTrans Daemon KeepsCoherent := ⟨KeepsCoherent.trans⟩

/-- An update that keeps what identifies and counts an inode. -/
theorem keeps_modifyInode (index : ℕ) {update : NfsInode → NfsInode}
    (hino : ∀ inode, (update inode).ino = inode.ino)
    (hfileid : ∀ inode, (update inode).fileid = inode.fileid)
    (hfh : ∀ inode, (update inode).fh = inode.fh)
    (hpriv : ∀ inode, (update inode).priv = inode.priv)
    (hok : ∀ inode, InodeOk inode → InodeOk (update inode)) :
    (Prog.modifyInode index update).Respects KeepsCoherent := by
  refine Program.Respects.modify fun daemon hcoherent ↦ ?_
  refine ⟨?_, Grows.setInode daemon index (hino _) (hfileid _) (hfh _) (hpriv _)⟩
  by_cases hlt : index < daemon.heap.length
  · exact hcoherent.setInode hlt (hino _) (hfileid _) (hfh _) (hok _ (hcoherent.inodeOk index hlt))
  · rwa [Daemon.setInode_of_le (not_lt.mp hlt)]

/-- A change of the superblock that leaves the cache alone. -/
theorem keeps_modifySuper {update : HsfsSuper → HsfsSuper}
    (hid : ∀ sb, (update sb).idTable = sb.idTable) (hfh : ∀ sb, (update sb).fhTable = sb.fhTable)
    (hcurrId : ∀ sb, (update sb).currId = sb.currId) (hroot : ∀ sb, (update sb).root = sb.root)
    (hclntp : ∀ sb, (update sb).clntp = sb.clntp)
    (haclClntp : ∀ sb, (update sb).aclClntp = sb.aclClntp) :
    (Prog.modifySuper update).Respects KeepsCoherent := by
  refine Program.Respects.modify fun daemon hcoherent ↦ ?_
  exact ⟨hcoherent.congr (hid _) (hfh _) (hcurrId _) rfl rfl,
    le_rfl, fun _ _ ↦ rfl, fun _ _ ↦ rfl, fun _ _ ↦ rfl, fun _ _ ↦ rfl,
    fun _ hlt hle ↦ absurd hlt (not_lt.mpr hle), hroot _, hclntp _, haclClntp _, rfl, rfl⟩

theorem keeps_errPtr (plat : Platform) (error : ℤ) : (errPtr plat error).Respects KeepsCoherent :=
  .bind (.ite (.pure _) (.crash _)) fun _ ↦ .pure _

theorem keeps_nfsRefreshInode (index : ℕ) (fattr : NfsFattr) :
    (nfsRefreshInode index fattr).Respects KeepsCoherent := by
  refine .bind (.getInode index) fun inode ↦ .bind ?_ fun _ ↦ .pure _
  apply keeps_modifyInode
  · exact fun inode ↦ (nfsRefresh_same fattr inode).1
  · exact fun inode ↦ (nfsRefresh_same fattr inode).2.1
  · exact fun inode ↦ (nfsRefresh_same fattr inode).2.2.1
  · exact fun inode ↦ (nfsRefresh_same fattr inode).2.2.2
  · exact fun inode hok ↦ hok.nfsRefresh fattr

theorem keeps_hsiNfsFhget (plat : Platform) {fh : NfsFh} (hfh : fh.WellFormed)
    (fattr : NfsFattr) : (hsiNfsFhget plat fh fattr).Respects KeepsCoherent := by
  intro daemon trace ptr daemon' hpath hcoherent
  exact (hcoherent.fhget hfh ((hsiNfsFhget_path_iff plat hcoherent.live fh fattr _ _).mp hpath)).1

/-- No reference count of a cached inode is positive, since nothing ever raises one. -/
theorem Coherent.iCount_le {daemon : Daemon} (h : Coherent daemon) (index : ℕ) :
    (daemon.inode index).iCount ≤ 0 := by
  by_cases hlt : index < daemon.heap.length
  · exact (h.inodeOk index hlt).iCount_le
  · rw [Daemon.inode_of_le (not_lt.mp hlt)]
    exact le_rfl

/-- Giving up a reference lowers `i_count`, which can never reach 0. -/
theorem hsfsIput_obj_run {daemon : Daemon} (h : Coherent daemon) (index : ℕ) :
    (hsfsIput (.obj index)).run daemon =
      if (daemon.inode index).iCount = intMin then .fault .undefined daemon
      else .ret () (daemon.setInode index
        { daemon.inode index with iCount := (daemon.inode index).iCount - 1 }) := by
  have hlive : index ∉ daemon.freed := by simp [h.freed_nil]
  have hdrop : ¬ (daemon.inode index).iCount - 1 = 0 := by
    have hle := h.iCount_le index
    omega
  unfold hsfsIput
  rw [Program.bind_run_of_ret (deref_obj_run hlive), Prog.getInode_bind]
  split_ifs with hmin
  · rfl
  · rw [Prog.modifyInode_bind]
    rfl

theorem keeps_hsfsIput (ptr : InodePtr) : (hsfsIput ptr).Respects KeepsCoherent := by
  intro daemon trace value daemon' hpath hcoherent
  cases ptr with
  | null =>
    cases hpath.2
    exact KeepsCoherent.refl daemon hcoherent
  | err _ => cases hpath.2
  | obj index =>
    rw [hsfsIput_obj_run hcoherent] at hpath
    split_ifs at hpath
    · cases hpath.2
    · cases hpath.2
      have hkeeps : (Prog.modifyInode index fun inode ↦
          { inode with iCount := inode.iCount - 1 }).Respects KeepsCoherent := by
        apply keeps_modifyInode
        · exact fun _ ↦ rfl
        · exact fun _ ↦ rfl
        · exact fun _ ↦ rfl
        · exact fun _ ↦ rfl
        · intro inode hok
          have hcount : inode.iCount - 1 ≤ 0 := by
            have hle := hok.iCount_le
            omega
          exact ⟨hok.fh_wellFormed, hok.realIno_eq, hok.flags_eq, hok.iState_eq, hok.iRdev_eq,
            hok.valid_eq, hcount⟩
      exact hkeeps daemon [] () _ ⟨rfl, rfl⟩ hcoherent

theorem keeps_hsiNfs3Getattr (index : ℕ) (st : Stat) :
    (hsiNfs3Getattr index st).Respects KeepsCoherent := by
  refine .bind (.getInode index) fun inode ↦ .bind ?_ fun result ↦ ?_
  · refine .bind (.clntCall _) fun outcome ↦ ?_
    split <;> exact .pure _
  · exact .ite (.pure _) (.bind (keeps_nfsRefreshInode index _) fun _ ↦ .pure _)

theorem keeps_hsiNfs3Setattr (index : ℕ) (attr : HsfsIattr) :
    (hsiNfs3Setattr index attr).Respects KeepsCoherent := by
  refine .bind (.getInode index) fun inode ↦ .bind (.clntCall _) fun outcome ↦ ?_
  split <;> exact .pure _

theorem keeps_hsiNfsSetattr (index : ℕ) (attr : HsfsIattr) :
    (hsiNfsSetattr index attr).Respects KeepsCoherent := by
  refine .bind (.getInode index) fun inode ↦ .ite (.pure _) ?_
  refine .bind (keeps_hsiNfs3Setattr index _) fun result ↦ ?_
  exact .ite (.bind (keeps_nfsRefreshInode index _) fun _ ↦ .pure _) (.pure _)

theorem keeps_hsiNfs3Access (index : ℕ) (mask : UInt32) :
    (hsiNfs3Access index mask).Respects KeepsCoherent :=
  .bind (.getInode index) fun _ ↦ .bind (.clntCall _) fun _ ↦ .pure _

theorem keeps_hsiNfs3Lookup (plat : Platform) (parent : ℕ) (name : CString) :
    (hsiNfs3Lookup plat parent name).Respects KeepsCoherent := by
  refine .bind (.getInode parent) fun inode ↦ .bind (.clntCall _) fun outcome ↦ ?_
  split
  · exact .pure _
  · exact .pure _
  · exact .bind (keeps_hsiNfsFhget plat (nfsCopyFh3_wellFormed _) _) fun _ ↦ .pure _

theorem keeps_hsiNfs3HandleCreate (plat : Platform) (dir : Diropres3ok) :
    (hsiNfs3HandleCreate plat dir).Respects KeepsCoherent := by
  unfold hsiNfs3HandleCreate
  split
  · exact keeps_errPtr plat _
  · exact keeps_hsiNfsFhget plat (nfsCopyFh3_wellFormed _) _

theorem keeps_finishCreate (plat : Platform) (outcome : RpcOutcome Diropres3ok) :
    (finishCreate plat outcome).Respects KeepsCoherent := by
  unfold finishCreate
  split
  · exact .pure _
  · exact .pure _
  · exact .bind (keeps_hsiNfs3HandleCreate plat _) fun _ ↦ .ite (.pure _) (.pure _)

theorem keeps_hsiNfs3Mkdir (plat : Platform) (parent : ℕ) (name : CString) (mode : UInt32) :
    (hsiNfs3Mkdir plat parent name mode).Respects KeepsCoherent :=
  .bind (.getInode parent) fun _ ↦ .bind (.clntCall _) fun _ ↦ keeps_finishCreate plat _

theorem keeps_hsiNfs3Symlink (plat : Platform) (parent : ℕ) (link name : CString) :
    (hsiNfs3Symlink plat parent link name).Respects KeepsCoherent :=
  .bind (.getInode parent) fun _ ↦ .bind (.clntCall _) fun _ ↦ keeps_finishCreate plat _

theorem keeps_copyName (site : MallocSite) (name : CString) :
    (copyName site name).Respects KeepsCoherent :=
  .bind (.malloc site) fun _ ↦ .ite (.ite (.pure _) (.crash _)) (.pure _)

theorem keeps_hsiNfs3Mknod (plat : Platform) (parent : ℕ) (name : CString) (mode : UInt32)
    (rdev : UInt64) : (hsiNfs3Mknod plat parent name mode rdev).Respects KeepsCoherent := by
  refine .ite (.pure _) (.bind (keeps_copyName _ name) fun _ ↦ .ite ?_ (.pure _))
  exact .bind (.getInode parent) fun _ ↦ .bind (.clntCall _) fun _ ↦ keeps_finishCreate plat _

theorem keeps_exclusiveSetattr (new : InodePtr) (mode : UInt32) :
    (exclusiveSetattr new mode).Respects KeepsCoherent :=
  .bind (.deref new) fun index ↦ .bind (.getInode index) fun _ ↦ keeps_hsiNfsSetattr index _

theorem keeps_hsiNfs3Create (plat : Platform) (parent : ℕ) (name : CString) (mode : UInt32) :
    (hsiNfs3Create plat parent name mode).Respects KeepsCoherent := by
  refine .bind (.getInode parent) fun hi ↦ .bind (.clntCall _) fun outcome ↦ ?_
  split
  · exact .pure _
  · exact .pure _
  · refine .bind (keeps_hsiNfs3HandleCreate plat _) fun new ↦ .ite (.pure _) (.ite ?_ (.pure _))
    exact .bind (keeps_exclusiveSetattr new mode) fun _ ↦ .pure _

theorem keeps_hsiNfs3Link (index newparent : ℕ) (name : CString) :
    (hsiNfs3Link index newparent name).Respects KeepsCoherent := by
  refine .ite (.pure _) (.bind (keeps_copyName _ name) fun _ ↦ .ite ?_ (.pure _))
  refine .bind (.getInode index) fun _ ↦ .bind (.getInode newparent) fun _ ↦
    .bind (.clntCall _) fun outcome ↦ ?_
  split
  · exact .pure _
  · exact .pure _
  · exact .ite (.bind (keeps_hsiNfs3Getattr index _) fun _ ↦ .pure _)
      (keeps_nfsRefreshInode index _)

theorem keeps_hsiNfs3Unlink (parent : ℕ) (name : CString) :
    (hsiNfs3Unlink parent name).Respects KeepsCoherent :=
  .bind (.getInode parent) fun _ ↦ .bind (.clntCall _) fun _ ↦ .pure _

theorem keeps_hsiNfs3Rmdir (parent : ℕ) (name : CString) :
    (hsiNfs3Rmdir parent name).Respects KeepsCoherent :=
  .bind (.getInode parent) fun _ ↦ .bind (.clntCall _) fun _ ↦ .pure _

theorem keeps_hsiNfs3Rename (parent : ℕ) (name : CString) (newparent : ℕ) (newname : CString) :
    (hsiNfs3Rename parent name newparent newname).Respects KeepsCoherent :=
  .bind (.getInode parent) fun _ ↦ .bind (.getInode newparent) fun _ ↦
    .bind (.clntCall _) fun _ ↦ .pure _

theorem keeps_hsiNfs3Readlink (index : ℕ) : (hsiNfs3Readlink index).Respects KeepsCoherent := by
  refine .bind (.getInode index) fun _ ↦ .bind (.clntCall _) fun outcome ↦ ?_
  split
  · exact .pure _
  · exact .pure _
  · exact .bind (.malloc _) fun _ ↦ .ite (.pure _) (.pure _)

theorem keeps_hsiNfs3Read (index : ℕ) (offset : UInt64) (size : ℕ) :
    (hsiNfs3Read index offset size).Respects KeepsCoherent := by
  refine .bind (.getInode index) fun _ ↦ .bind (.clntCall _) fun outcome ↦ ?_
  split <;> exact .pure _

theorem keeps_hsiNfs3Write (index : ℕ) (offset : UInt64) (stable : ℤ) (data : List UInt8) :
    (hsiNfs3Write index offset stable data).Respects KeepsCoherent := by
  refine .bind (.getInode index) fun _ ↦ .bind (.clntCall _) fun outcome ↦ ?_
  split <;> exact .pure _

theorem keeps_hsiNfs3Statfs (index : ℕ) : (hsiNfs3Statfs index).Respects KeepsCoherent := by
  refine .bind (.getInode index) fun _ ↦ .bind (.clntCall _) fun outcome ↦ ?_
  split
  · exact .pure _
  · exact .pure _
  · refine .bind ?_ fun _ ↦ .pure _
    apply keeps_modifySuper <;> exact fun _ ↦ rfl

theorem keeps_allocCopyName (name : CString) : (allocCopyName name).Respects KeepsCoherent :=
  .bind (.malloc _) fun _ ↦ .ite (.bind (.malloc _) fun _ ↦ .ite (.pure _) (.pure _)) (.pure _)

theorem keeps_freeCtx (chain : List ReaddirCtx) : (freeCtx chain).Respects KeepsCoherent := by
  induction chain with
  | nil => exact .pure _
  | cons ctx rest ih => exact .bind (keeps_hsfsIput ctx.inode) fun _ ↦ ih

theorem keeps_beginListing (parent : ℕ) (dirAttributes : Option Fattr3) (cookieverf : UInt64) :
    (beginListing parent dirAttributes cookieverf).Respects KeepsCoherent := by
  refine .bind (keeps_nfsRefreshInode parent _) fun _ ↦ .ite (.pure _) (.bind ?_ fun _ ↦ .pure _)
  apply keeps_modifyInode
  · exact fun _ ↦ rfl
  · exact fun _ ↦ rfl
  · exact fun _ ↦ rfl
  · exact fun _ ↦ rfl
  · exact fun _ hok ↦ ⟨hok.fh_wellFormed, hok.realIno_eq, hok.flags_eq, hok.iState_eq,
      hok.iRdev_eq, hok.valid_eq, hok.iCount_le⟩

theorem keeps_copyEntries (entries : List Entry3) (chain : List ReaddirCtx) :
    (copyEntries entries chain).Respects KeepsCoherent := by
  induction entries generalizing chain with
  | nil => exact .pure _
  | cons entry rest ih =>
    refine .bind (keeps_allocCopyName entry.name) fun name ↦ ?_
    split
    · exact .bind (keeps_freeCtx chain) fun _ ↦ .pure _
    · exact ih _

theorem keeps_hsiNfs3Readdir (parent : ℕ) (count : UInt32) (cookie : UInt64) :
    (hsiNfs3Readdir parent count cookie).Respects KeepsCoherent := by
  refine .bind (.getInode parent) fun _ ↦ .bind (.clntCall _) fun outcome ↦ ?_
  split
  · exact .pure _
  · exact .pure _
  · exact .bind (keeps_beginListing parent _ _) fun _ ↦ .ite (.pure _) (keeps_copyEntries _ _)

theorem keeps_copyEntriesPlus (plat : Platform) (entries : List Entryplus3)
    (chain : List ReaddirCtx) : (copyEntriesPlus plat entries chain).Respects KeepsCoherent := by
  induction entries generalizing chain with
  | nil => exact .pure _
  | cons entry rest ih =>
    refine .bind (keeps_allocCopyName entry.name) fun name ↦ ?_
    split
    · exact .bind (keeps_freeCtx chain) fun _ ↦ .pure _
    · split
      · exact .bind (keeps_freeCtx _) fun _ ↦ .pure _
      · refine .bind (keeps_hsiNfsFhget plat (nfsCopyFh3_wellFormed _) _) fun new ↦ ?_
        exact .ite (.bind (keeps_freeCtx _) fun _ ↦ .pure _) (ih _)

theorem keeps_hsiNfs3ReaddirPlus (plat : Platform) (parent : ℕ) (count : UInt32)
    (cookie : UInt64) (maxcount : UInt32) :
    (hsiNfs3ReaddirPlus plat parent count cookie maxcount).Respects KeepsCoherent := by
  refine .bind (.getInode parent) fun _ ↦ .bind (.clntCall _) fun outcome ↦ ?_
  split
  · exact .pure _
  · exact .pure _
  · exact .bind (keeps_beginListing parent _ _)
      fun _ ↦ .ite (.pure _) (keeps_copyEntriesPlus plat _ _)

theorem keeps_hsiNfs3Getxattr (index : ℕ) (mask : UInt32) (type : AclType) :
    (hsiNfs3Getxattr index mask type).Respects KeepsCoherent := by
  refine .bind (.getInode index) fun _ ↦ .bind .get fun _ ↦ .ite (.pure _)
    (.bind (.clntCall _) fun outcome ↦ ?_)
  split
  · exact .pure _
  · exact .pure _
  · refine .bind (.malloc _) fun _ ↦ .ite ?_ (.pure _)
    split <;> exact .pure _

theorem keeps_allocAclent (site : MallocSite) (acl : PosixAcl) :
    (allocAclent site acl).Respects KeepsCoherent :=
  .bind (.malloc site) fun _ ↦ .ite (.crash _) (.pure _)

theorem keeps_sendSetacl (index : ℕ) (acl : PosixAcl) (dfacl : Option PosixAcl) :
    (sendSetacl index acl dfacl).Respects KeepsCoherent := by
  refine .bind (.getInode index) fun _ ↦ .bind (keeps_allocAclent _ acl) fun _ ↦ ?_
  cases dfacl with
  | none => exact .bind (.pure _) fun _ ↦ .bind (.clntCall _) fun _ ↦ .pure _
  | some dfacl =>
    exact .bind (keeps_allocAclent _ dfacl)
      fun _ ↦ .bind (.pure _) fun _ ↦ .bind (.clntCall _) fun _ ↦ .pure _

theorem keeps_setxattrLists (index : ℕ) (acl dfacl : Option PosixAcl) :
    (setxattrLists index acl dfacl).Respects KeepsCoherent := by
  cases acl with
  | some acl => exact keeps_sendSetacl index acl dfacl
  | none =>
    refine .bind (.getInode index) fun _ ↦ .bind ?_ fun acl ↦ ?_
    · exact .bind (.malloc _) fun _ ↦ .ite (.pure _) (.pure _)
    · split
      · exact keeps_sendSetacl index _ dfacl
      · exact .pure _

theorem keeps_hsiNfs3Setxattr (index : ℕ) (value : List UInt8) (type : AclType) :
    (hsiNfs3Setxattr index value type).Respects KeepsCoherent := by
  refine .bind (.getInode index) fun _ ↦ .bind .get fun _ ↦ .ite (.pure _) ?_
  refine .bind (.ite (.bind (.malloc _) fun _ ↦ .ite (.pure _) (.pure _)) (.pure _)) fun acl ↦ ?_
  refine .ite (.bind (keeps_hsiNfs3Getxattr index _ type) fun other ↦ .ite (.pure _) ?_)
    (.ite (keeps_setxattrLists index _ _) (.pure _))
  split <;> exact keeps_setxattrLists index _ _

end NfsFuse
