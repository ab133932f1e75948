import NfsFuse.Nfs3.Footprints
import NfsFuse.Fuse.Handlers

/-!
# What the handlers are made of

The footprint of each handler of `hsfs_oper`.  Only the two listing handlers touch a cookie
verifier, and only `hsx_fuse_create` touches an owner.
-/

namespace NfsFuse

open Lib

/-- A footprint with what counting references needs. -/
structure CountParts (footprint : Footprint EnvOp Fault Change) : Prop
    extends BaseParts footprint where
  refDec : footprint.faults (.assertFailed .refDec)
  refCreate : footprint.faults (.assertFailed .refCreate)
  count : ∀ index update, footprint.labels (.inode index (.count update))

/-- A footprint with what the handlers do around a procedure. -/
structure TailParts (footprint : Footprint EnvOp Fault Change) : Prop
    extends CountParts footprint, PutParts footprint where
  forgetNode : footprint.faults (.assertFailed .forgetNode)
  reply : ∀ message, footprint.labels (.reply message)

/-- A footprint with what the handlers need that leave the inodes alone. -/
structure ServeParts (footprint : Footprint EnvOp Fault Change) : Prop
    extends RpcParts footprint where
  reply : ∀ message, footprint.labels (.reply message)

/-- A footprint with what the handlers need. -/
structure HandlerParts (footprint : Footprint EnvOp Fault Change) : Prop
    extends CallParts footprint, TailParts footprint where
  readdirParent : footprint.faults (.assertFailed .readdirParent)

theorem HandlerParts.toServeParts {footprint : Footprint EnvOp Fault Change}
    (h : HandlerParts footprint) : ServeParts footprint where
  toRpcParts := h.toRpcParts
  reply := h.reply

section Base

variable {footprint : Footprint EnvOp Fault Change} (h : BaseParts footprint)

include h

theorem within_hsxFuseFillReply (ptr : InodePtr) :
    (hsxFuseFillReply ptr).Within Change.apply footprint :=
  .bind (within_deref h _) fun _ ↦ .bind (within_getInode _) fun _ ↦ .bind .get fun _ ↦ .pure _

/-- The branches of a handler on the result of `hsfs_ilookup`. -/
theorem within_ilookup {ino : UInt64} {found : ℕ → Prog Unit} {missing : Prog Unit}
    (hfound : ∀ index, (found index).Within Change.apply footprint)
    (hmissing : missing.Within Change.apply footprint) :
    (hsfsIlookup ino >>= fun ptr ↦ match ptr with
      | .obj index => found index
      | _ => missing).Within Change.apply footprint := by
  refine .bind (within_hsfsIlookup h ino) fun ptr ↦ ?_
  cases ptr with
  | null => exact hmissing
  | err _ => exact hmissing
  | obj index => exact hfound index

end Base

section Count

variable {footprint : Footprint EnvOp Fault Change} (h : CountParts footprint)

include h

theorem within_hsxFuseRefXchg (ptr : InodePtr) (val : UInt64) :
    (hsxFuseRefXchg ptr val).Within Change.apply footprint :=
  .bind (within_deref h.toBaseParts _) fun _ ↦ .bind (within_getInode _) fun _ ↦
    .bind (within_inode (.count fun _ ↦ val) (h.count _ _)) fun _ ↦ .pure _

theorem within_hsxFuseRefInc (ptr : InodePtr) (val : UInt64) :
    (hsxFuseRefInc ptr val).Within Change.apply footprint :=
  .bind (within_deref h.toBaseParts _) fun _ ↦ .bind (within_getInode _) fun _ ↦
    .bind (within_inode (.count (· + val)) (h.count _ _)) fun _ ↦ .pure _

theorem within_hsxFuseRefDec (ptr : InodePtr) (val : UInt64) :
    (hsxFuseRefDec ptr val).Within Change.apply footprint :=
  .bind (within_deref h.toBaseParts _) fun _ ↦ .bind (within_getInode _) fun _ ↦
    .bind (within_assert _ h.refDec) fun _ ↦
      .bind (within_inode (.count (· - val)) (h.count _ _)) fun _ ↦ .pure _

theorem within_countCreated (ptr : InodePtr) : (countCreated ptr).Within Change.apply footprint :=
  .bind (within_hsxFuseRefXchg h ptr 1) fun _ ↦ .bind (within_assert _ h.refCreate) fun _ ↦
    within_hsxFuseFillReply h.toBaseParts ptr

theorem within_packDirentsPlus (plat : Platform) (size : ℕ) (chain : List ReaddirCtx) (len : ℕ)
    (done : List DirentPlus) :
    (packDirentsPlus plat size chain len done).Within Change.apply footprint := by
  induction chain generalizing len done with
  | nil => exact .pure _
  | cons ctx rest ih =>
    exact .bind (within_hsxFuseFillReply h.toBaseParts _) fun _ ↦ .ite (.pure _)
      (.bind (within_hsxFuseRefInc h _ 1) fun _ ↦ ih _ _)

end Count

section Loops

variable {footprint : Footprint EnvOp Fault Change} (h : RpcParts footprint)

include h

theorem within_readLoop (index size : ℕ) (off : UInt64) (fuel cnt : ℕ) (buf : List (Option UInt8)) :
    (readLoop index size off fuel cnt buf).Within Change.apply footprint := by
  induction fuel generalizing cnt buf with
  | zero => exact .crash h.outOfFuel
  | succ fuel ih =>
    refine .ite (.bind .get fun _ ↦ .bind (within_hsiNfs3Read h _ _ _) fun ⟨err, res⟩ ↦ ?_)
      (.pure _)
    cases res with
    | none => exact .pure _
    | some res => exact .ite (.ite (.pure _) (ih _ _)) (.crash h.undefined)

theorem within_writeLoop (index : ℕ) (data : List UInt8) (off : UInt64) (stable : ℤ)
    (fuel cnt : ℕ) :
    (writeLoop index data off stable fuel cnt).Within Change.apply footprint := by
  induction fuel generalizing cnt with
  | zero => exact .crash h.outOfFuel
  | succ fuel ih =>
    exact .ite (.bind .get fun _ ↦ .bind (within_hsiNfs3Write h _ _ _ _) fun _ ↦
      .ite (.pure _) (ih _)) (.pure _)

end Loops

/-- Everything but a reply. -/
def silentParts : Footprint EnvOp Fault Change where
  faults _ := True
  ops _ := True
  labels change := ∀ message, change ≠ .reply message

theorem silentBase : BaseParts silentParts where
  undefined := trivial
  malloc _ _ := trivial

theorem silentCache : CacheParts silentParts where
  toBaseParts := silentBase
  outOfFuel := trivial
  alloc := trivial
  errPtr := trivial
  cache := by
    rintro change hcache message rfl
    cases hcache

theorem silentCalls : CallParts silentParts where
  toCacheParts := silentCache
  call _ := trivial
  refresh _ _ _ := nofun
  super _ _ := nofun

theorem silentRpc : RpcParts silentParts := silentCalls.toRpcParts

theorem silentCounts : CountParts silentParts where
  toBaseParts := silentBase
  refDec := trivial
  refCreate := trivial
  count _ _ _ := nofun

theorem silent_verifier (index : ℕ) (cookieverf : UInt64) :
    silentParts.labels (.inode index (.verifier cookieverf)) :=
  fun _ ↦ nofun

/-- A program without replies leaves those that have been sent. -/
theorem silent {α : Type} {program : Prog α} (h : program.Within Change.apply silentParts) :
    program.Fixes Daemon.replies := by
  refine h.fixes fun change hchange daemon ↦ ?_
  cases change with
  | reply message => exact absurd rfl (hchange message)
  | _ => rfl

/-- Everything but a call. -/
def localParts : Footprint EnvOp Fault Change where
  faults _ := True
  ops op := ∃ site, op = .malloc site
  labels _ := True

theorem localCache : CacheParts localParts where
  undefined := trivial
  outOfFuel := trivial
  errPtr := trivial
  malloc site _ := ⟨site, rfl⟩
  alloc := ⟨_, rfl⟩
  cache _ _ := trivial

theorem localCounts : CountParts localParts where
  toBaseParts := localCache.toBaseParts
  refDec := trivial
  refCreate := trivial
  count _ _ := trivial

/-- The events of a program without calls are allocations. -/
theorem emits_local {α : Type} {program : Prog α} (h : program.Within Change.apply localParts)
    {allowed : Event EnvAns → Prop} (hmalloc : ∀ site granted, allowed ⟨.malloc site, granted⟩) :
    program.Emits allowed := by
  refine h.emits fun op hop answer ↦ ?_
  obtain ⟨site, rfl⟩ := hop
  exact hmalloc site answer

/-! ## The handlers -/

/-- The requests that list a directory. -/
def Request.lists : Request → Bool
  | .readdir .. | .readdirplus .. => true
  | _ => false

/-- The requests that create a regular file. -/
def Request.opensNew : Request → Bool
  | .create .. => true
  | _ => false

theorem within_reply {footprint : Footprint EnvOp Fault Change}
    (h : ∀ message, footprint.labels (.reply message)) (message : FuseReply) :
    (Prog.reply message).Within Change.apply footprint :=
  have hmodify : (Program.modify (Change.reply message).apply : Prog Unit).Within Change.apply
    footprint := .modify (h message)
  hmodify

/-- The requests that neither enter nor change an inode. -/
def Request.inert : Request → Bool
  | .rmdir .. | .unlink .. | .rename .. | .readlink .. | .openFile .. | .opendir .. => true
  | .release .. | .read .. | .write .. | .access .. | .statfs .. | .getxattr .. | .setxattr .. =>
    true
  | _ => false

section Inert

variable {footprint : Footprint EnvOp Fault Change} (h : ServeParts footprint)

include h

theorem within_hsxFuseReadlink (ino : UInt64) :
    (hsxFuseReadlink ino).Within Change.apply footprint := by
  refine within_ilookup h.toBaseParts (fun index ↦ ?_) (.pure _)
  refine .bind (within_hsiNfs3Readlink h.toRpcParts index) fun ⟨st, link⟩ ↦
    .ite (within_reply h.reply _) ?_
  cases link with
  | none => exact .crash h.undefined
  | some link => exact within_reply h.reply _

theorem within_hsxFuseRename (parent : UInt64) (name : CString) (newparent : UInt64)
    (newname : CString) (flags : UInt32) :
    (hsxFuseRename parent name newparent newname flags).Within Change.apply footprint := by
  refine .ite (within_reply h.reply _) (.ite (within_reply h.reply _) (.ite (within_reply h.reply _)
    (.ite (within_reply h.reply _) (.ite (within_reply h.reply _) ?_))))
  refine within_ilookup h.toBaseParts (fun index ↦ ?_) (within_reply h.reply _)
  refine within_ilookup h.toBaseParts (fun newindex ↦ ?_) (within_reply h.reply _)
  exact .bind (within_hsiNfs3Rename h.toRpcParts index name newindex newname) fun _ ↦
    within_reply h.reply _

theorem within_hsxFuseStatfs : hsxFuseStatfs.Within Change.apply footprint := by
  refine .bind .get fun _ ↦ .bind (within_deref h.toBaseParts _) fun root ↦ ?_
  refine .bind (within_hsiNfs3Statfs h.toRpcParts root) fun _ ↦ .ite (within_reply h.reply _)
    (.bind .get fun daemon ↦ ?_)
  split <;> exact within_reply h.reply _

theorem within_hsxFuseGetxattr (ino : UInt64) (name : CString) (size : ℕ) :
    (hsxFuseGetxattr ino name size).Within Change.apply footprint := by
  unfold hsxFuseGetxattr
  split
  · exact within_reply h.reply _
  · refine within_ilookup h.toBaseParts (fun index ↦ ?_) (within_reply h.reply _)
    refine .bind (within_hsiNfs3Getxattr h.toRpcParts index _ _) fun ⟨err, acl⟩ ↦ ?_
    cases acl with
    | none => exact within_reply h.reply _
    | some acl =>
      refine .bind (within_malloc h.toBaseParts .xattrBuf rfl) fun _ ↦
        .ite (within_reply h.reply _) ?_
      exact .ite (within_reply h.reply _) (.ite (within_reply h.reply _) (within_reply h.reply _))

theorem within_hsxFuseSetxattr (ino : UInt64) (name : CString) (value : List UInt8) :
    (hsxFuseSetxattr ino name value).Within Change.apply footprint := by
  refine within_ilookup h.toBaseParts (fun index ↦ ?_) (within_reply h.reply _)
  split
  · exact .bind (within_hsiNfs3Setxattr h.toRpcParts index value _) fun _ ↦
      .bind (within_reply h.reply _) fun _ ↦ within_reply h.reply _
  · exact within_reply h.reply _

/-- The handlers that leave the inodes alone. -/
theorem within_handle_inert (plat : Platform) (fuel : ℕ) (request : Request)
    (hinert : request.inert = true) : (handle plat fuel request).Within Change.apply footprint := by
  cases request with
  | rmdir parent name =>
    exact within_ilookup h.toBaseParts (fun index ↦
      .bind (within_hsiNfs3Rmdir h.toRpcParts index name) fun _ ↦ within_reply h.reply _) (.pure _)
  | unlink parent name =>
    refine .ite (within_reply h.reply _) (.ite (within_reply h.reply _) ?_)
    exact within_ilookup h.toBaseParts (fun index ↦
      .bind (within_hsiNfs3Unlink h.toRpcParts index name) fun _ ↦ within_reply h.reply _)
        (within_reply h.reply _)
  | rename parent name newparent newname flags =>
    exact within_hsxFuseRename h parent name newparent newname flags
  | readlink ino => exact within_hsxFuseReadlink h ino
  | openFile ino =>
    exact .bind (within_malloc h.toBaseParts .openFh rfl) fun _ ↦
      .ite (within_reply h.reply _) (within_reply h.reply _)
  | opendir ino =>
    exact within_ilookup h.toBaseParts (fun _ ↦ within_reply h.reply _) (within_reply h.reply _)
  | release ino => exact within_reply h.reply _
  | read ino size off =>
    refine .bind (within_malloc h.toBaseParts .readBuf rfl) fun _ ↦ .ite ?_ (within_reply h.reply _)
    exact within_ilookup h.toBaseParts (fun index ↦
      .bind (within_readLoop h.toRpcParts index size off fuel 0 _) fun ⟨_, _, _⟩ ↦
        .ite (within_reply h.reply _) (within_reply h.reply _)) (within_reply h.reply _)
  | write ino data off directIo =>
    refine .bind (within_malloc h.toBaseParts .writeBuf rfl) fun _ ↦
      .ite ?_ (within_reply h.reply _)
    exact within_ilookup h.toBaseParts (fun index ↦
      .bind (within_writeLoop h.toRpcParts index data off _ fuel 0) fun ⟨_, _⟩ ↦
        .ite (within_reply h.reply _) (within_reply h.reply _)) (within_reply h.reply _)
  | access ino mask =>
    exact within_ilookup h.toBaseParts (fun index ↦ .bind (within_getInode _) fun _ ↦
      .bind (within_hsiNfs3Access h.toRpcParts index _) fun _ ↦ within_reply h.reply _) (.pure _)
  | statfs ino => exact within_hsxFuseStatfs h
  | getxattr ino name size => exact within_hsxFuseGetxattr h ino name size
  | setxattr ino name value => exact within_hsxFuseSetxattr h ino name value
  | _ => cases hinert

end Inert

section Tail

variable {footprint : Footprint EnvOp Fault Change} (h : TailParts footprint)

include h

theorem within_replyCreated (err : ℤ) (new : InodePtr) (success : FuseEntryParam → FuseReply) :
    (replyCreated err new success).Within Change.apply footprint := by
  refine .ite (within_reply h.reply _) ?_
  cases new with
  | null => exact within_reply h.reply _
  | err _ => exact .bind (within_countCreated h.toCountParts _) fun _ ↦ within_reply h.reply _
  | obj _ => exact .bind (within_countCreated h.toCountParts _) fun _ ↦ within_reply h.reply _

/-- The end of `hsx_fuse_lookup`. -/
theorem within_replyFound (err : ℤ) (child : InodePtr) :
    (if err ≠ 0 then Prog.reply (.err err) else match child with
      | .null => Prog.reply (.err enomem)
      | ptr => do
          let _ ← hsxFuseRefInc ptr 1
          let param ← hsxFuseFillReply ptr
          Prog.reply (.entry param) : Prog Unit).Within Change.apply footprint := by
  refine .ite (within_reply h.reply _) ?_
  have hfound (ptr : InodePtr) : (do
      let _ ← hsxFuseRefInc ptr 1
      let param ← hsxFuseFillReply ptr
      Prog.reply (.entry param)).Within Change.apply footprint :=
    .bind (within_hsxFuseRefInc h.toCountParts _ _) fun _ ↦
      .bind (within_hsxFuseFillReply h.toBaseParts _) fun _ ↦ within_reply h.reply _
  cases child with
  | null => exact within_reply h.reply _
  | err error => exact hfound (.err error)
  | obj index => exact hfound (.obj index)

theorem within_hsxFuseForget (ino nlookup : UInt64) :
    (hsxFuseForget ino nlookup).Within Change.apply footprint :=
  .bind (within_hsfsIlookup h.toBaseParts ino) fun _ ↦ .bind (within_assert _ h.forgetNode) fun _ ↦
    .bind (within_hsxFuseRefDec h.toCountParts _ _) fun _ ↦ .ite
      (.bind (within_hsfsIput h.toPutParts _) fun _ ↦ within_reply h.reply _)
        (within_reply h.reply _)

end Tail

section Handlers

variable {footprint : Footprint EnvOp Fault Change} (h : HandlerParts footprint)

include h

theorem within_hsxFuseLookup (plat : Platform) (ino : UInt64) (name : CString) :
    (hsxFuseLookup plat ino name).Within Change.apply footprint :=
  within_ilookup h.toBaseParts (fun index ↦
    .bind (within_hsiNfs3Lookup h.toCallParts plat index name) fun ⟨err, child⟩ ↦
      within_replyFound h.toTailParts err child) (within_reply h.reply _)

theorem within_hsxFuseLink (ino newparent : UInt64) (newname : CString) :
    (hsxFuseLink ino newparent newname).Within Change.apply footprint := by
  refine within_ilookup h.toBaseParts (fun parent ↦ ?_) (.pure _)
  refine within_ilookup h.toBaseParts (fun index ↦ ?_) (.pure _)
  refine .bind (within_hsiNfs3Link h.toCallParts index newname parent) fun _ ↦
    .ite ?_ (within_reply h.reply _)
  refine .bind (within_malloc h.toBaseParts .entryParam rfl) fun _ ↦
    .ite ?_ (within_reply h.reply _)
  exact .bind (within_hsxFuseFillReply h.toBaseParts _) fun _ ↦ within_reply h.reply _

theorem within_hsxFuseReaddir (plat : Platform) (ino : UInt64) (size : ℕ) (off : UInt64)
    (hverifier : ∀ index cookieverf, footprint.labels (.inode index (.verifier cookieverf))) :
    (hsxFuseReaddir plat ino size off).Within Change.apply footprint :=
  within_ilookup h.toBaseParts (fun parent ↦
    .bind (within_hsiNfs3Readdir h.toCallParts parent hverifier _ _) fun ⟨_, _⟩ ↦
      .ite (within_reply h.reply _) (.bind (within_malloc h.toBaseParts .readdirBuf rfl) fun _ ↦
        .ite (within_reply h.reply _) (within_reply h.reply _))) (.crash h.readdirParent)

theorem within_hsxFuseReaddirPlus (plat : Platform) (ino : UInt64) (size : ℕ) (off : UInt64)
    (hverifier : ∀ index cookieverf, footprint.labels (.inode index (.verifier cookieverf))) :
    (hsxFuseReaddirPlus plat ino size off).Within Change.apply footprint :=
  within_ilookup h.toBaseParts (fun parent ↦
    .bind (within_hsiNfs3ReaddirPlus h.toCallParts plat parent hverifier _ _ _) fun ⟨_, _⟩ ↦
      .ite (within_reply h.reply _)
        (.bind (within_malloc h.toBaseParts .readdirBuf rfl) fun _ ↦ .ite
        (.bind (within_packDirentsPlus h.toCountParts plat size _ 0 []) fun _ ↦
          within_reply h.reply _)
        (within_reply h.reply _))) (.crash h.readdirParent)

/-- Every handler stays within the parts of the handlers; a listing needs the cookie verifier too,
and a creation the owner. -/
theorem within_handle (plat : Platform) (fuel : ℕ) (request : Request)
    (hverifier : request.lists = true →
      ∀ index cookieverf, footprint.labels (.inode index (.verifier cookieverf)))
    (howner : request.opensNew = true →
      ∀ index uid gid, footprint.labels (.inode index (.owner uid gid))) :
    (handle plat fuel request).Within Change.apply footprint := by
  by_cases hinert : request.inert = true
  · exact within_handle_inert h.toServeParts plat fuel request hinert
  cases request with
  | getattr ino =>
    exact within_ilookup h.toBaseParts (fun index ↦
      .bind (within_hsiNfs3Getattr h.toCallParts index _) fun ⟨_, _⟩ ↦ .ite (within_reply h.reply _)
        (.bind (within_getInode _) fun _ ↦ .bind .get fun _ ↦ within_reply h.reply _))
      (within_reply h.reply _)
  | setattr ino attr toSet =>
    exact within_ilookup h.toBaseParts (fun index ↦
      .bind (within_hsiNfsSetattr h.toCallParts index _) fun _ ↦ .ite (within_reply h.reply _)
        (.bind (within_getInode _) fun _ ↦ .bind .get fun _ ↦ within_reply h.reply _))
      (within_reply h.reply _)
  | lookup parent name => exact within_hsxFuseLookup h plat parent name
  | forget ino nlookup => exact within_hsxFuseForget h.toTailParts ino nlookup
  | mkdir parent name mode =>
    exact within_ilookup h.toBaseParts (fun index ↦
      .bind (within_hsiNfs3Mkdir h.toCallParts plat index name mode) fun ⟨_, _⟩ ↦
        within_replyCreated h.toTailParts _ _ _) (.pure _)
  | symlink link parent name =>
    exact within_ilookup h.toBaseParts (fun index ↦
      .bind (within_hsiNfs3Symlink h.toCallParts plat index _ _) fun ⟨_, _⟩ ↦
        within_replyCreated h.toTailParts _ _ _) (within_reply h.reply _)
  | link ino newparent newname => exact within_hsxFuseLink h ino newparent newname
  | mknod parent name mode rdev =>
    exact within_ilookup h.toBaseParts (fun index ↦
      .bind (within_hsiNfs3Mknod h.toCallParts plat index name mode rdev) fun ⟨_, _⟩ ↦
        within_replyCreated h.toTailParts _ _ _) (within_reply h.reply _)
  | create parent name mode flags uid gid =>
    exact within_ilookup h.toBaseParts (fun index ↦
      .bind (within_inode (.owner uid gid) (howner rfl _ _ _)) fun _ ↦
        .bind (within_hsiNfs3Create h.toCallParts plat index name _) fun ⟨_, _⟩ ↦
          within_replyCreated h.toTailParts _ _ _) (.pure _)
  | readdir ino size off => exact within_hsxFuseReaddir h plat ino size off (hverifier rfl)
  | readdirplus ino size off => exact within_hsxFuseReaddirPlus h plat ino size off (hverifier rfl)
  | _ => exact absurd rfl hinert

end Handlers

end NfsFuse
