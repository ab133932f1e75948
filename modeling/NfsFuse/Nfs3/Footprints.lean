import NfsFuse.Lib.Footprint
import NfsFuse.Nfs3.Readdir
import NfsFuse.Nfs3.Acl

/-!
# What the procedures are made of

Every change that the daemon makes to its state, under a name, and the footprint of each procedure
of `nfs_common` and `nfs3`.  That a procedure sends no reply, asks for memory only or leaves some
field of the inodes alone then follows by looking at the names.
-/

namespace NfsFuse

open Lib

/-- The changes of one inode. -/
inductive InodeChange where
  | number (id : UInt64)
  | init (fh : NfsFh) (fattr : NfsFattr)
  | lock
  | fhget (fattr : NfsFattr)
  | refresh (fattr : NfsFattr)
  | put
  | verifier (cookieverf : UInt64)
  | count (update : UInt64 → UInt64)
  | owner (uid gid : UInt32)

/-- What such a change does. -/
def InodeChange.apply : InodeChange → NfsInode → NfsInode
  | .number id => fun inode ↦ { inode with ino := id }
  | .init fh fattr => fun inode ↦ (nfsInitLocked fh fattr inode).1
  | .lock => fun inode ↦ { inode with iState := iNew }
  | .fhget fattr => fhgetUpdate fattr
  | .refresh fattr => fun inode ↦ (nfsRefresh fattr inode).1
  | .put => fun inode ↦ { inode with iCount := inode.iCount - 1 }
  | .verifier cookieverf => fun inode ↦ { inode with cookieverf := cookieverf }
  | .count update => fun inode ↦ { inode with priv := update inode.priv }
  | .owner uid gid => fun inode ↦ { inode with iattr := { inode.iattr with uid, gid } }

/-- The changes of the daemon's state. -/
inductive Change where
  | alloc
  | free (index : ℕ)
  | nextId
  | hashAdd (ino key : UInt64) (index : ℕ)
  | inode (index : ℕ) (change : InodeChange)
  | super (update : HsfsSuper → HsfsSuper)
  | reply (message : FuseReply)

def Change.apply : Change → Daemon → Daemon
  | .alloc =>
    fun daemon ↦ { daemon with heap := daemon.heap ++ [inodeInitAlways daemon.sb .cleared] }
  | .free index => fun daemon ↦ { daemon with freed := index :: daemon.freed }
  | .nextId => fun daemon ↦ daemon.setCurrId (NfsFuse.nextId daemon.sb.currId)
  | .hashAdd ino key index => fun daemon ↦ daemon.hashAdd ino key index
  | .inode index change => fun daemon ↦ daemon.setInode index (change.apply (daemon.inode index))
  | .super update => fun daemon ↦ { daemon with sb := update daemon.sb }
  | .reply message => fun daemon ↦ { daemon with replies := daemon.replies ++ [message] }

/-- The changes that keep the cache: entering an inode, updating it on the way, giving it back. -/
def Change.isCache : Change → Bool
  | .alloc | .free _ | .nextId | .hashAdd _ _ _ => true
  | .inode _ (.number _) | .inode _ (.init _ _) | .inode _ .lock | .inode _ (.fhget _) => true
  | .inode _ .put => true
  | _ => false

/-- The calls whose replies report attributes that the client enters into its cache. -/
def Call.reports : Call → Bool
  | .getattr .. | .setattr .. | .lookup .. | .create .. | .mkdir .. | .symlink .. | .mknod .. =>
    true
  | .link .. | .readdir .. | .readdirplus .. | .fsinfo .. => true
  | _ => false

/-- The memory is for an inode. -/
def MallocSite.isInode : MallocSite → Bool
  | .nfsInode => true
  | _ => false

/-- A footprint with what finding inodes and buffers needs. -/
structure BaseParts (footprint : Footprint EnvOp Fault Change) : Prop where
  undefined : footprint.faults .undefined
  malloc : ∀ site : MallocSite, site.isInode = false → footprint.ops (.malloc site)

/-- A footprint with what giving back inodes needs. -/
structure PutParts (footprint : Footprint EnvOp Fault Change) : Prop
    extends BaseParts footprint where
  put : ∀ index, footprint.labels (.inode index .put)
  free : ∀ index, footprint.labels (.free index)

/-- A footprint with what entering and giving back inodes needs. -/
structure CacheParts (footprint : Footprint EnvOp Fault Change) : Prop
    extends BaseParts footprint where
  outOfFuel : footprint.faults .outOfFuel
  alloc : footprint.ops (.malloc .nfsInode)
  errPtr : footprint.faults (.assertFailed .errPtr)
  cache : ∀ change : Change, change.isCache = true → footprint.labels change

/-- A footprint with what the procedures need that leave the inodes alone. -/
structure RpcParts (footprint : Footprint EnvOp Fault Change) : Prop
    extends BaseParts footprint where
  outOfFuel : footprint.faults .outOfFuel
  call : ∀ procedure : Call, procedure.reports = false → footprint.ops (.call procedure)
  super : ∀ update, footprint.labels (.super update)

/-- A footprint with what all procedures need. -/
structure CallParts (footprint : Footprint EnvOp Fault Change) : Prop
    extends CacheParts footprint where
  call : ∀ procedure, footprint.ops (.call procedure)
  refresh : ∀ index fattr, footprint.labels (.inode index (.refresh fattr))
  super : ∀ update, footprint.labels (.super update)

theorem CacheParts.toPutParts {footprint : Footprint EnvOp Fault Change}
    (h : CacheParts footprint) :
    PutParts footprint where
  toBaseParts := h.toBaseParts
  put _ := h.cache _ rfl
  free _ := h.cache _ rfl

theorem CallParts.toRpcParts {footprint : Footprint EnvOp Fault Change} (h : CallParts footprint) :
    RpcParts footprint where
  toBaseParts := h.toBaseParts
  outOfFuel := h.outOfFuel
  call procedure _ := h.call procedure
  super := h.super

/-! ## The inode cache -/

section Primitives

variable {footprint : Footprint EnvOp Fault Change}

theorem within_inode {index : ℕ} (change : InodeChange)
    (h : footprint.labels (.inode index change)) :
    (Prog.modifyInode index change.apply).Within Change.apply footprint :=
  .modify h

theorem within_getInode (index : ℕ) : (Prog.getInode index).Within Change.apply footprint :=
  .bind .get fun _ ↦ .pure _

theorem within_assert (condition : Bool) {site : AssertSite}
    (h : footprint.faults (.assertFailed site)) :
    (Prog.assert condition site).Within Change.apply footprint :=
  .ite (.pure _) (.crash h)

/-- A call and what is done with its outcome. -/
theorem within_call {α : Type} {procedure : Call} {next : RpcOutcome procedure.Body → Prog α}
    (hop : footprint.ops (.call procedure))
    (hrpc : ∀ err hne, (next (.fail err hne)).Within Change.apply footprint)
    (hstatus : ∀ status hne, (next (.done (.fail status hne))).Within Change.apply footprint)
    (hok : ∀ body, (next (.done (.ok body))).Within Change.apply footprint) :
    (Prog.clntCall procedure >>= next).Within Change.apply footprint := by
  have hcall : (Prog.clntCall procedure).Within Change.apply footprint := .ask hop
  refine .bind hcall fun outcome ↦ ?_
  rcases outcome with ⟨err, hne⟩ | body | ⟨status, hne⟩
  · exact hrpc err hne
  · exact hok body
  · exact hstatus status hne

theorem within_status {procedure : Call} (hop : footprint.ops (.call procedure)) :
    (Prog.clntCall procedure >>= fun outcome ↦ pure (statusOf outcome)).Within Change.apply
      footprint :=
  within_call hop (fun _ _ ↦ .pure _) (fun _ _ ↦ .pure _) fun _ ↦ .pure _

end Primitives

section Base

variable {footprint : Footprint EnvOp Fault Change} (h : BaseParts footprint)

include h

theorem within_malloc (site : MallocSite) (hsite : site.isInode = false) :
    (Prog.malloc site).Within Change.apply footprint :=
  .ask (h.malloc site hsite)

theorem within_deref (ptr : InodePtr) : (Prog.deref ptr).Within Change.apply footprint := by
  refine .bind .get fun daemon ↦ ?_
  cases ptr with
  | null => exact .crash h.undefined
  | err _ => exact .crash h.undefined
  | obj index => exact .ite (.crash h.undefined) (.pure _)

theorem within_walkChain (test : NfsInode → Bool) (chain : List ℕ) :
    (walkChain test chain).Within Change.apply footprint := by
  induction chain with
  | nil => exact .pure _
  | cons first rest ih =>
    exact .bind (within_deref h _) fun _ ↦ .bind (within_getInode _) fun _ ↦ .ite (.pure _) ih

theorem within_hsfsIlookup (ino : UInt64) : (hsfsIlookup ino).Within Change.apply footprint :=
  .bind .get fun _ ↦ within_walkChain h _ _

theorem within_copyName (site : MallocSite) (hsite : site.isInode = false) (name : CString) :
    (copyName site name).Within Change.apply footprint :=
  .bind (within_malloc h site hsite) fun _ ↦ .ite (.ite (.pure _) (.crash h.undefined)) (.pure _)

theorem within_allocCopyName (name : CString) :
    (allocCopyName name).Within Change.apply footprint :=
  .bind (within_malloc h .readdirCtx rfl) fun _ ↦ .ite
    (.bind (within_malloc h .readdirName rfl) fun _ ↦ .ite (.pure _) (.pure _)) (.pure _)

end Base

section Put

variable {footprint : Footprint EnvOp Fault Change} (h : PutParts footprint)

include h

theorem within_destroyInode (index : ℕ) : (destroyInode index).Within Change.apply footprint := by
  refine .bind (within_deref h.toBaseParts _) fun index ↦ ?_
  have hfree : (Program.modify (Change.free index).apply : Prog Unit).Within
    Change.apply footprint :=
    .modify (h.free index)
  exact hfree

theorem within_hsfsIput (ptr : InodePtr) : (hsfsIput ptr).Within Change.apply footprint := by
  have hput (ptr : InodePtr) : (do
      let index ← Prog.deref ptr
      let inode ← Prog.getInode index
      if inode.iCount = intMin then Program.crash .undefined
      else
        Prog.modifyInode index fun inode ↦ { inode with iCount := inode.iCount - 1 }
        if inode.iCount - 1 = 0 then genericDropInode index else return () : Prog Unit).Within
          Change.apply footprint := by
    refine .bind (within_deref h.toBaseParts _) fun index ↦ .bind (within_getInode _) fun _ ↦
      .ite (.crash h.undefined) (.bind (within_inode .put (h.put _)) fun _ ↦ .ite ?_ (.pure _))
    exact .bind (within_getInode _) fun _ ↦ .ite (.pure _) (within_destroyInode h _)
  cases ptr with
  | null => exact .pure _
  | err error => exact hput (.err error)
  | obj index => exact hput (.obj index)

theorem within_freeCtx (chain : List ReaddirCtx) :
    (freeCtx chain).Within Change.apply footprint := by
  induction chain with
  | nil => exact .pure _
  | cons ctx rest ih => exact .bind (within_hsfsIput h _) fun _ ↦ ih

theorem within_copyEntries (entries : List Entry3) (chain : List ReaddirCtx) :
    (copyEntries entries chain).Within Change.apply footprint := by
  induction entries generalizing chain with
  | nil => exact .pure _
  | cons entry rest ih =>
    refine .bind (within_allocCopyName h.toBaseParts _) fun copied ↦ ?_
    cases copied with
    | none => exact .bind (within_freeCtx h _) fun _ ↦ .pure _
    | some name => exact ih _

end Put

section Cache

variable {footprint : Footprint EnvOp Fault Change} (h : CacheParts footprint)

include h

theorem within_pickId (fuel : ℕ) : (pickId fuel).Within Change.apply footprint := by
  induction fuel with
  | zero => exact .crash h.outOfFuel
  | succ fuel ih =>
    have hnext : (Program.modify Change.nextId.apply : Prog Unit).Within Change.apply footprint :=
      .modify (h.cache .nextId rfl)
    refine .bind hnext fun _ ↦ .bind .get fun _ ↦
      .bind (within_hsfsIlookup h.toBaseParts _) fun ptr ↦ ?_
    cases ptr with
    | null => exact .pure _
    | err _ => exact ih
    | obj _ => exact ih

theorem within_errPtr (plat : Platform) (error : ℤ) :
    (errPtr plat error).Within Change.apply footprint :=
  .bind (within_assert _ h.errPtr) fun _ ↦ .pure _

theorem within_fillNewInode (key : UInt64) (fh : NfsFh) (fattr : NfsFattr) (index : ℕ) :
    (fillNewInode key (nfsInitLocked fh fattr) index).Within Change.apply footprint := by
  have hlists : (inodeAddToLists key index).Within Change.apply footprint := by
    refine .bind (within_pickId h _) fun id ↦
      .bind (within_inode (.number id) (h.cache _ rfl)) fun _ ↦ ?_
    have hadd : (Program.modify (Change.hashAdd id key index).apply : Prog Unit).Within Change.apply
      footprint := .modify (h.cache (.hashAdd id key index) rfl)
    exact hadd
  -- What is read of the inode is what it holds when it is filled in.
  change Program.Within Change.apply footprint (do
    let inode ← Prog.getInode index
    Prog.modifyInode index (InodeChange.init fh fattr).apply
    if (nfsInitLocked fh fattr inode).2 ≠ 0 then
      destroyInode index
      return .null
    else
      inodeAddToLists key index
      Prog.modifyInode index InodeChange.lock.apply
      return .obj index : Prog InodePtr)
  refine .bind (within_getInode _) fun _ ↦ .bind (within_inode _ (h.cache _ rfl)) fun _ ↦ .ite ?_ ?_
  · exact .bind (within_destroyInode h.toPutParts _) fun _ ↦ .pure _
  · exact .bind hlists fun _ ↦ .bind (within_inode .lock (h.cache _ rfl)) fun _ ↦ .pure _

theorem within_hsfsIget5Locked (fh : NfsFh) (fattr : NfsFattr) :
    (hsfsIget5Locked fattr.fileid (nfsFindActor fh fattr) (nfsInitLocked fh fattr)).Within
      Change.apply
      footprint := by
  have halloc : allocInode.Within Change.apply footprint := by
    have happend : (Program.modify Change.alloc.apply : Prog Unit).Within Change.apply footprint :=
      .modify (h.cache .alloc rfl)
    have hmalloc : (Prog.malloc .nfsInode).Within Change.apply footprint := .ask h.alloc
    exact .bind hmalloc fun _ ↦ .ite (.bind .get fun _ ↦ .bind happend fun _ ↦ .pure _) (.pure _)
  refine .bind (.bind .get fun _ ↦ within_walkChain h.toBaseParts _ _) fun ptr ↦ ?_
  cases ptr with
  | null =>
    refine .bind halloc fun ptr ↦ ?_
    cases ptr with
    | null => exact .pure _
    | err _ => exact .pure _
    | obj index => exact within_fillNewInode h _ fh fattr index
  | err _ => exact .pure _
  | obj _ => exact .pure _

theorem within_hsiNfsFhget (plat : Platform) (fh : NfsFh) (fattr : NfsFattr) :
    (hsiNfsFhget plat fh fattr).Within Change.apply footprint := by
  refine .bind (within_errPtr h plat _) fun _ ↦ .ite (.pure _) (.ite (.pure _) ?_)
  refine .bind (within_hsfsIget5Locked h fh fattr) fun ptr ↦ ?_
  have hupdate (ptr : InodePtr) : (do
      let index ← Prog.deref ptr
      Prog.modifyInode index (fhgetUpdate fattr)
      return ptr : Prog InodePtr).Within Change.apply footprint :=
    .bind (within_deref h.toBaseParts ptr) fun _ ↦
      .bind (within_inode (.fhget fattr) (h.cache _ rfl)) fun _ ↦ .pure _
  cases ptr with
  | null => exact within_errPtr h plat _
  | err error => exact hupdate (.err error)
  | obj index => exact hupdate (.obj index)

theorem within_copyEntriesPlus (plat : Platform) (entries : List Entryplus3)
    (chain : List ReaddirCtx) :
    (copyEntriesPlus plat entries chain).Within Change.apply footprint := by
  induction entries generalizing chain with
  | nil => exact .pure _
  | cons entry rest ih =>
    refine .bind (within_allocCopyName h.toBaseParts _) fun copied ↦ ?_
    cases copied with
    | none => exact .bind (within_freeCtx h.toPutParts _) fun _ ↦ .pure _
    | some name =>
      dsimp only
      split
      · exact .bind (within_freeCtx h.toPutParts _) fun _ ↦ .pure _
      · refine .bind (within_hsiNfsFhget h plat _ _) fun ptr ↦ .ite ?_ (ih _)
        exact .bind (within_freeCtx h.toPutParts _) fun _ ↦ .pure _

end Cache

section Rpc

variable {footprint : Footprint EnvOp Fault Change} (h : RpcParts footprint) (index parent : ℕ)
  (name : CString)

include h

theorem within_hsiNfs3Unlink : (hsiNfs3Unlink parent name).Within Change.apply footprint :=
  .bind (within_getInode _) fun _ ↦ within_status (h.call _ rfl)

theorem within_hsiNfs3Rmdir : (hsiNfs3Rmdir parent name).Within Change.apply footprint :=
  .bind (within_getInode _) fun _ ↦ within_status (h.call _ rfl)

theorem within_hsiNfs3Rename (newparent : ℕ) (newname : CString) :
    (hsiNfs3Rename parent name newparent newname).Within Change.apply footprint :=
  .bind (within_getInode _) fun _ ↦ .bind (within_getInode _) fun _ ↦ within_status (h.call _ rfl)

theorem within_hsiNfs3Access (mask : UInt32) :
    (hsiNfs3Access index mask).Within Change.apply footprint :=
  .bind (within_getInode _) fun _ ↦ within_status (h.call _ rfl)

theorem within_hsiNfs3Readlink : (hsiNfs3Readlink index).Within Change.apply footprint :=
  .bind (within_getInode _) fun _ ↦ within_call (h.call _ rfl) (fun _ _ ↦ .pure _)
    (fun _ _ ↦ .pure _) fun _ ↦
    .bind (within_malloc h.toBaseParts .readlinkText rfl) fun _ ↦ .ite (.pure _) (.pure _)

theorem within_hsiNfs3Read (offset : UInt64) (size : ℕ) :
    (hsiNfs3Read index offset size).Within Change.apply footprint :=
  .bind (within_getInode _) fun _ ↦
    within_call (h.call _ rfl) (fun _ _ ↦ .pure _) (fun _ _ ↦ .pure _) fun _ ↦ .pure _

theorem within_hsiNfs3Write (offset : UInt64) (stable : ℤ) (data : List UInt8) :
    (hsiNfs3Write index offset stable data).Within Change.apply footprint :=
  .bind (within_getInode _) fun _ ↦
    within_call (h.call _ rfl) (fun _ _ ↦ .pure _) (fun _ _ ↦ .pure _) fun _ ↦ .pure _

theorem within_hsiNfs3Statfs : (hsiNfs3Statfs index).Within Change.apply footprint := by
  refine .bind (within_getInode _) fun _ ↦
    within_call (h.call _ rfl) (fun _ _ ↦ .pure _) (fun _ _ ↦ .pure _) fun res ↦
      .bind ?_ fun _ ↦ .pure _
  have hsuper (update : HsfsSuper → HsfsSuper) :
      (Prog.modifySuper update).Within Change.apply footprint :=
    have hmodify : (Program.modify (Change.super update).apply : Prog Unit).Within Change.apply
      footprint := .modify (h.super update)
    hmodify
  exact hsuper _

theorem within_hsiNfs3Getxattr (mask : UInt32) (type : AclType) :
    (hsiNfs3Getxattr index mask type).Within Change.apply footprint := by
  refine .bind (within_getInode _) fun _ ↦ .bind .get fun _ ↦ .ite (.pure _) ?_
  refine within_call (h.call _ rfl) (fun _ _ ↦ .pure _) (fun _ _ ↦ .pure _) fun _ ↦ ?_
  refine .bind (within_malloc h.toBaseParts .posixAcl rfl) fun _ ↦ .ite ?_ (.pure _)
  cases type with
  | access => exact .pure _
  | default => exact .pure _

theorem within_setxattrLists (acl dfacl : Option PosixAcl) :
    (setxattrLists index acl dfacl).Within Change.apply footprint := by
  have halloc (site : MallocSite) (hsite : site.isInode = false) (acl : PosixAcl) :
      (allocAclent site acl).Within Change.apply footprint :=
    .bind (within_malloc h.toBaseParts site hsite) fun _ ↦ .ite (.crash h.undefined) (.pure _)
  have hsend (acl : PosixAcl) : (sendSetacl index acl dfacl).Within Change.apply footprint := by
    refine .bind (within_getInode _) fun _ ↦ .bind (halloc .aclent rfl _) fun _ ↦ ?_
    cases dfacl with
    | none => exact .bind (.pure _) fun _ ↦ within_status (h.call _ rfl)
    | some dfacl =>
      exact .bind (halloc .dfaclent rfl _) fun _ ↦ .bind (.pure _) fun _ ↦
        within_status (h.call _ rfl)
  unfold setxattrLists
  split
  · exact hsend _
  · refine .bind (within_getInode _) fun _ ↦ .bind ?_ fun list ↦ ?_
    · exact .bind (within_malloc h.toBaseParts .posixAcl rfl) fun _ ↦ .ite (.pure _) (.pure _)
    · cases list with
      | none => exact .pure _
      | some acl => exact hsend acl

theorem within_hsiNfs3Setxattr (value : List UInt8) (type : AclType) :
    (hsiNfs3Setxattr index value type).Within Change.apply footprint := by
  have hparse : (posixAclFromXattr value).Within Change.apply footprint :=
    .ite (.bind (within_malloc h.toBaseParts .posixAcl rfl) fun _ ↦ .ite (.pure _) (.pure _))
      (.pure _)
  refine .bind (within_getInode _) fun _ ↦ .bind .get fun _ ↦ .ite (.pure _)
    (.bind hparse fun acl ↦ ?_)
  refine .ite (.bind (within_hsiNfs3Getxattr h _ _ _) fun ⟨err, other⟩ ↦ .ite (.pure _) ?_)
    (.ite (within_setxattrLists h index _ _) (.pure _))
  cases type with
  | access => exact within_setxattrLists h index _ _
  | default => exact within_setxattrLists h index _ _

end Rpc

/-! ## Procedures with a call -/

section Calls

variable {footprint : Footprint EnvOp Fault Change} (h : CallParts footprint)

include h

theorem within_nfsRefreshInode (index : ℕ) (fattr : NfsFattr) :
    (nfsRefreshInode index fattr).Within Change.apply footprint :=
  .bind (within_getInode _) fun _ ↦ .bind (within_inode (.refresh fattr) (h.refresh _ _)) fun _ ↦
    .pure _

theorem within_hsiNfs3Getattr (index : ℕ) (st : Stat) :
    (hsiNfs3Getattr index st).Within Change.apply footprint := by
  refine .bind (within_getInode _) fun inode ↦ .bind ?_ fun ⟨err, fattr, st⟩ ↦ .ite (.pure _)
    (.bind (within_nfsRefreshInode h _ _) fun _ ↦ .pure _)
  exact within_call (h.call _) (fun _ _ ↦ .pure _) (fun _ _ ↦ .pure _) fun _ ↦ .pure _

theorem within_hsiNfsSetattr (index : ℕ) (attr : HsfsIattr) :
    (hsiNfsSetattr index attr).Within Change.apply footprint := by
  refine .bind (within_getInode _) fun _ ↦ .ite (.pure _) (.bind ?_ fun _ ↦ ?_)
  · refine .bind (within_getInode _) fun _ ↦ .bind (.ask (h.call _)) fun _ ↦ ?_
    split <;> exact .pure _
  · exact .ite (.bind (within_nfsRefreshInode h _ _) fun _ ↦ .pure _) (.pure _)

variable (plat : Platform) (index parent : ℕ) (name : CString)

theorem within_hsiNfs3Lookup : (hsiNfs3Lookup plat parent name).Within Change.apply footprint :=
  .bind (within_getInode _) fun _ ↦ within_call (h.call _) (fun _ _ ↦ .pure _)
    (fun _ _ ↦ .pure _) fun _ ↦
    .bind (within_hsiNfsFhget h.toCacheParts plat _ _) fun _ ↦ .pure _

theorem within_hsiNfs3HandleCreate (dir : Diropres3ok) :
    (hsiNfs3HandleCreate plat dir).Within Change.apply footprint := by
  unfold hsiNfs3HandleCreate
  split
  · exact within_errPtr h.toCacheParts plat _
  · exact within_hsiNfsFhget h.toCacheParts plat _ _

theorem within_finishCreate (outcome : RpcOutcome Diropres3ok) :
    (finishCreate plat outcome).Within Change.apply footprint := by
  rcases outcome with _ | res | _
  · exact .pure _
  · exact .bind (within_hsiNfs3HandleCreate h plat res) fun _ ↦ .ite (.pure _) (.pure _)
  · exact .pure _

theorem within_hsiNfs3Mkdir (mode : UInt32) :
    (hsiNfs3Mkdir plat parent name mode).Within Change.apply footprint :=
  .bind (within_getInode _) fun _ ↦ .bind (.ask (h.call _)) fun _ ↦ within_finishCreate h plat _

theorem within_hsiNfs3Symlink (link : CString) :
    (hsiNfs3Symlink plat parent link name).Within Change.apply footprint :=
  .bind (within_getInode _) fun _ ↦ .bind (.ask (h.call _)) fun _ ↦ within_finishCreate h plat _

theorem within_hsiNfs3Mknod (mode : UInt32) (rdev : UInt64) :
    (hsiNfs3Mknod plat parent name mode rdev).Within Change.apply footprint := by
  refine .ite (.pure _) (.bind (within_copyName h.toBaseParts _ rfl name) fun _ ↦ .ite ?_ (.pure _))
  exact .bind (within_getInode _) fun _ ↦ .bind (.ask (h.call _)) fun _ ↦
    within_finishCreate h plat _

theorem within_exclusiveSetattr (ptr : InodePtr) (mode : UInt32) :
    (exclusiveSetattr ptr mode).Within Change.apply footprint :=
  .bind (within_deref h.toBaseParts _) fun _ ↦ .bind (within_getInode _) fun _ ↦
    within_hsiNfsSetattr h _ _

theorem within_hsiNfs3Create (mode : UInt32) :
    (hsiNfs3Create plat parent name mode).Within Change.apply footprint :=
  .bind (within_getInode _) fun _ ↦ within_call (h.call _) (fun _ _ ↦ .pure _)
    (fun _ _ ↦ .pure _) fun res ↦
    .bind (within_hsiNfs3HandleCreate h plat res) fun _ ↦ .ite (.pure _) (.ite
      (.bind (within_exclusiveSetattr h _ _) fun _ ↦ .pure _) (.pure _))

theorem within_hsiNfs3Link (newparent : ℕ) :
    (hsiNfs3Link index newparent name).Within Change.apply footprint := by
  refine .ite (.pure _) (.bind (within_copyName h.toBaseParts _ rfl name) fun _ ↦ .ite ?_ (.pure _))
  refine .bind (within_getInode _) fun _ ↦ .bind (within_getInode _) fun _ ↦
    within_call (h.call _) (fun _ _ ↦ .pure _) (fun _ _ ↦ .pure _) fun attributes ↦ ?_
  exact .ite (.bind (within_hsiNfs3Getattr h index _) fun ⟨_, _⟩ ↦ .pure _)
    (within_nfsRefreshInode h _ _)

variable (hverifier : ∀ index cookieverf, footprint.labels (.inode index (.verifier cookieverf)))

include hverifier

theorem within_beginListing (dirAttributes : Option Fattr3) (cookieverf : UInt64) :
    (beginListing parent dirAttributes cookieverf).Within Change.apply footprint :=
  .bind (within_nfsRefreshInode h _ _) fun _ ↦ .ite (.pure _)
    (.bind (within_inode (.verifier cookieverf) (hverifier _ _)) fun _ ↦ .pure _)

theorem within_hsiNfs3Readdir (count : UInt32) (cookie : UInt64) :
    (hsiNfs3Readdir parent count cookie).Within Change.apply footprint :=
  .bind (within_getInode _) fun _ ↦ within_call (h.call _) (fun _ _ ↦ .pure _)
    (fun _ _ ↦ .pure _) fun _ ↦
    .bind (within_beginListing h _ hverifier _ _) fun _ ↦ .ite (.pure _)
      (within_copyEntries h.toPutParts _ _)

theorem within_hsiNfs3ReaddirPlus (count maxcount : UInt32) (cookie : UInt64) :
    (hsiNfs3ReaddirPlus plat parent count cookie maxcount).Within Change.apply footprint :=
  .bind (within_getInode _) fun _ ↦ within_call (h.call _) (fun _ _ ↦ .pure _)
    (fun _ _ ↦ .pure _) fun _ ↦
    .bind (within_beginListing h _ hverifier _ _) fun _ ↦ .ite (.pure _)
      (within_copyEntriesPlus h.toCacheParts plat _ _)

end Calls

end NfsFuse
