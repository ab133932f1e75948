import NfsFuse.Nfs3.Attributes

/-!
# The NFS procedures

The embedding of `nfs3/hsi_nfs3_*.c`, one definition for each function, apart from directory
reading and access control lists.  A function that returns an error number and an inode through a
pointer returns both; the pointer is `NULL` where the source leaves it unset.
-/

namespace NfsFuse

open Lib

/-- `hsi_nfs3_do_getattr` -/
def hsiNfs3DoGetattr (fh : List UInt8) (fattr : NfsFattr) (st : Stat) :
    Prog (ℤ × NfsFattr × Stat) := do
  match ← Prog.clntCall (.getattr fh) with
  | .fail err _ => return (err, fattr, st)
  | .done (.fail status _) => return (hsiNfs3StatToErrno status, fattr, st)
  | .done (.ok attr) =>
      return (0, hsiNfs3Fattr2fattr attr fattr, (hsiNfs3Fattr2stat attr st).2)

/-- `hsi_nfs3_getattr` -/
def hsiNfs3Getattr (index : ℕ) (st : Stat) : Prog (ℤ × Stat) := do
  let inode ← Prog.getInode index
  let (err, fattr, st) ← hsiNfs3DoGetattr (hsiNfs3Getfh3 inode) nfsInitFattr st
  if err ≠ 0 then
    return (err, st)
  else
    let err ← nfsRefreshInode index fattr
    return (err, st)

/-- `HSFS_ATTR_MODE` -/
def hsfsAttrMode : UInt32 := 1
def hsfsAttrUid : UInt32 := 2
def hsfsAttrGid : UInt32 := 4
def hsfsAttrSize : UInt32 := 8
def hsfsAttrAtime : UInt32 := 16
def hsfsAttrMtime : UInt32 := 32
def hsfsAttrAtimeSet : UInt32 := 128
def hsfsAttrMtimeSet : UInt32 := 256

/-- One time field of `hsi_nfs3_setattr`: a client time when `setBit` is on, which `nowBit` then
overrides. -/
def setTimeOf (valid setBit nowBit : UInt32) (time : Timespec) : SetTime :=
  if valid &&& nowBit ≠ 0 then .setToServerTime
  else if valid &&& setBit ≠ 0 then
    .setToClientTime ⟨UInt32.ofInt time.tvSec, UInt32.ofInt time.tvNsec⟩
  else .dontChange

/-- The `sattr3` that `hsi_nfs3_setattr` sends. -/
def sattrOfIattr (attr : HsfsIattr) : Sattr3 where
  mode := if attr.valid &&& hsfsAttrMode ≠ 0 then some attr.mode else none
  uid := if attr.valid &&& hsfsAttrUid ≠ 0 then some attr.uid else none
  gid := if attr.valid &&& hsfsAttrGid ≠ 0 then some attr.gid else none
  size := if attr.valid &&& hsfsAttrSize ≠ 0 then some (UInt64.ofInt attr.size) else none
  atime := setTimeOf attr.valid hsfsAttrAtimeSet hsfsAttrAtime attr.atime
  mtime := setTimeOf attr.valid hsfsAttrMtimeSet hsfsAttrMtime attr.mtime

/-- `hsi_nfs3_setattr`; a reply without attributes is turned into `EAGAIN`. -/
def hsiNfs3Setattr (index : ℕ) (attr : HsfsIattr) : Prog (ℤ × NfsFattr) := do
  let inode ← Prog.getInode index
  match ← Prog.clntCall (.setattr (hsiNfs3Getfh3 inode) (sattrOfIattr attr)) with
  | .fail err _ => return (err, nfsInitFattr)
  | .done (.fail status _) => return (hsiNfs3StatToErrno status, nfsInitFattr)
  | .done (.ok none) => return (eagain, nfsInitFattr)
  | .done (.ok (some attributes)) => return (0, postFattr (some attributes))

/-- `NFS_VALID_ATTRS` -/
def nfsValidAttrs : UInt32 := 0x1bf

/-- The attribute mask after `hsi_nfs_setattr` has dropped a size that is not a change. -/
def setattrValid (inode : NfsInode) (attr : HsfsIattr) : UInt32 :=
  if attr.valid &&& hsfsAttrSize ≠ 0 ∧
      (sIsreg inode.iattr.mode = false ∨ attr.size = inode.iattr.size) then
    attr.valid &&& ~~~hsfsAttrSize &&& nfsValidAttrs
  else
    attr.valid &&& nfsValidAttrs

/-- `hsi_nfs_setattr` -/
def hsiNfsSetattr (index : ℕ) (attr : HsfsIattr) : Prog ℤ := do
  let inode ← Prog.getInode index
  let attr := { attr with valid := setattrValid inode attr }
  if attr.valid = 0 then
    return 0
  else
    let (error, fattr) ← hsiNfs3Setattr index attr
    if error = 0 then
      let _ ← nfsRefreshInode index fattr
      return error
    else
      return error

/-- `hsi_nfs3_lookup` -/
def hsiNfs3Lookup (plat : Platform) (parent : ℕ) (name : CString) : Prog (ℤ × InodePtr) := do
  let inode ← Prog.getInode parent
  match ← Prog.clntCall (.lookup ⟨hsiNfs3Getfh3 inode, name⟩) with
  | .fail err _ => return (err, .null)
  | .done (.fail status _) => return (hsiNfs3StatToErrno status, .null)
  | .done (.ok res) =>
      let new ← hsiNfsFhget plat (nfsCopyFh3 res.object) (postFattr res.objAttributes)
      return (0, new)

/-- `hsi_nfs3_handle_create` -/
def hsiNfs3HandleCreate (plat : Platform) (dir : Diropres3ok) : Prog InodePtr :=
  match dir.obj with
  | none => errPtr plat enoent
  | some handle => hsiNfsFhget plat (nfsCopyFh3 handle) (postFattr dir.objAttributes)

/-- The end of `hsi_nfs3_mkdir`, `hsi_nfs3_mknod` and `hsi_nfs3_symlink`; the error is taken from
the pointer after it has been cleared. -/
def finishCreate (plat : Platform) (outcome : RpcOutcome Diropres3ok) : Prog (ℤ × InodePtr) := do
  match outcome with
  | .fail err _ => return (err, .null)
  | .done (.fail status _) => return (hsiNfs3StatToErrno status, .null)
  | .done (.ok res) =>
      let new ← hsiNfs3HandleCreate plat res
      if isErr plat new then return (toInt32 (ptrErr plat .null), .null) else return (0, new)

/-- `hsi_nfs3_mkdir` -/
def hsiNfs3Mkdir (plat : Platform) (parent : ℕ) (name : CString) (mode : UInt32) :
    Prog (ℤ × InodePtr) := do
  let inode ← Prog.getInode parent
  let outcome ← Prog.clntCall (.mkdir ⟨hsiNfs3Getfh3 inode, name⟩
    { Sattr3.cleared with mode := some (mode &&& 0xfff) })
  finishCreate plat outcome

/-- `hsi_nfs3_symlink` -/
def hsiNfs3Symlink (plat : Platform) (parent : ℕ) (link name : CString) :
    Prog (ℤ × InodePtr) := do
  let inode ← Prog.getInode parent
  let outcome ← Prog.clntCall (.symlink ⟨hsiNfs3Getfh3 inode, name⟩ .cleared link)
  finishCreate plat outcome

/-- `malloc(NAME_MAX)` followed by `strcpy`, which needs room for the terminator. -/
def copyName (site : MallocSite) (name : CString) : Prog Bool := do
  if ← Prog.malloc site then
    if name.length + 1 ≤ nameMax then return true else Program.crash .undefined
  else
    return false

/-- A program that begins with the copy of a name: without memory it goes on with `NULL`, and a name
that leaves no room for its terminator ends it. -/
theorem copyName_bind_run {α : Type} (site : MallocSite) (name : CString) (next : Bool → Prog α)
    (daemon : Daemon) :
    (copyName site name >>= next).run daemon =
      .ask (.malloc site) daemon fun answer current ↦
        if answer = true ∧ ¬ name.length + 1 ≤ nameMax then .fault .undefined current
        else (next answer).run current := by
  rw [copyName]
  refine congrArg (Resumption.ask _ _) (funext fun answer ↦ funext fun current ↦ ?_)
  cases answer with
  | false => rfl
  | true => by_cases hfits : name.length + 1 ≤ nameMax <;> simp [hfits]

/-- A run of such a program. -/
theorem path_copyName_bind {α : Type} {site : MallocSite} {name : CString} {next : Bool → Prog α}
    {daemon : Daemon} {trace : Trace} {ending : Ending Fault Daemon α} :
    ((copyName site name >>= next).run daemon).Path trace ending ↔
      ∃ copied rest, trace = ⟨.malloc site, copied⟩ :: rest ∧
        if copied = true ∧ ¬ name.length + 1 ≤ nameMax then
          rest = [] ∧ ending = .crashed .undefined daemon
        else ((next copied).run daemon).Path rest ending := by
  rw [copyName_bind_run]
  refine exists_congr fun copied ↦ exists_congr fun rest ↦ and_congr_right fun _ ↦ ?_
  dsimp only
  split_ifs <;> rfl

/-- The `mknoddata3` that `hsi_nfs3_mknod` sends. -/
def mknodData (mode : UInt32) (rdev : UInt64) : Mknoddata3 :=
  let attributes := { Sattr3.cleared with mode := some (mode &&& 0xfff) }
  let format := mode &&& sIfmt
  if format = sIfchr then .device nf3chr attributes ⟨major rdev, minor rdev⟩
  else if format = sIfblk then .device nf3blk attributes ⟨major rdev, minor rdev⟩
  else if format = sIfsock then .pipe nf3sock attributes
  else if format = sIfifo then .pipe nf3fifo attributes
  else .other 0

/-- `hsi_nfs3_mknod` -/
def hsiNfs3Mknod (plat : Platform) (parent : ℕ) (name : CString) (mode : UInt32)
    (rdev : UInt64) : Prog (ℤ × InodePtr) := do
  if name.length > nameMax then
    return (enametoolong, .null)
  else if ← copyName .mknodName name then
    let inode ← Prog.getInode parent
    let outcome ← Prog.clntCall (.mknod ⟨hsiNfs3Getfh3 inode, name⟩ (mknodData mode rdev))
    finishCreate plat outcome
  else
    return (enomem, .null)

/-- The `createhow3` that `hsi_nfs3_create` sends for the mode in bits 16 to 19; the verifier of an
exclusive create is the inode number of the directory. -/
def createHow (hi : NfsInode) (mode : UInt32) : Createhow3 :=
  let cmode := (mode &&& 0xf0000) >>> 16
  if cmode = 2 then .exclusive hi.ino
  else
    let attributes : Sattr3 :=
      { mode := some (mode &&& 0o777)
        uid := some hi.iattr.uid
        gid := some hi.iattr.gid
        size := none
        atime := .setToServerTime
        mtime := .setToServerTime }
    if cmode = 1 then .guarded attributes else .unchecked attributes

/-- The `SETATTR` that follows a successful exclusive create. -/
def exclusiveSetattr (new : InodePtr) (mode : UInt32) : Prog ℤ := do
  let index ← Prog.deref new
  let inode ← Prog.getInode index
  hsiNfsSetattr index { inode.iattr with
    mode := mode &&& 0o777
    valid := inode.iattr.valid ||| hsfsAttrMode }

/-- `hsi_nfs3_create` -/
def hsiNfs3Create (plat : Platform) (parent : ℕ) (name : CString) (mode : UInt32) :
    Prog (ℤ × InodePtr) := do
  let hi ← Prog.getInode parent
  match ← Prog.clntCall (.create ⟨hsiNfs3Getfh3 hi, name⟩ (createHow hi mode)) with
  | .fail err _ => return (err, .null)
  | .done (.fail status _) => return (hsiNfs3StatToErrno status, .null)
  | .done (.ok res) =>
      let new ← hsiNfs3HandleCreate plat res
      if isErr plat new then
        return (toInt32 (ptrErr plat new), .null)
      else if (mode &&& 0xf0000) >>> 16 = 2 then
        let status ← exclusiveSetattr new mode
        return (status, new)
      else
        return (0, new)

/-- `hsi_nfs3_link` -/
def hsiNfs3Link (index newparent : ℕ) (name : CString) : Prog ℤ := do
  if name.length > nameMax then
    return enametoolong
  else if ← copyName .linkName name then
    let inode ← Prog.getInode index
    let parent ← Prog.getInode newparent
    match ← Prog.clntCall (.link (hsiNfs3Getfh3 inode) ⟨hsiNfs3Getfh3 parent, name⟩) with
    | .fail err _ => return err
    | .done (.fail status _) => return hsiNfs3StatToErrno status
    | .done (.ok attributes) =>
        if (postFattr attributes).valid &&& nfsAttrFattr = 0 then
          let (err, _) ← hsiNfs3Getattr index .cleared
          return err
        else
          nfsRefreshInode index (postFattr attributes)
  else
    return enomem

/-- The result of a call of which only the status is used. -/
def statusOf {α : Type} (outcome : RpcOutcome α) : ℤ :=
  match outcome with
  | .fail err _ => err
  | .done (.fail status _) => hsiNfs3StatToErrno status
  | .done (.ok _) => 0

/-- A status of 0 and nothing else means success. -/
theorem statusOf_eq_zero_iff {α : Type} (outcome : RpcOutcome α) :
    statusOf outcome = 0 ↔ ∃ body, outcome = .done (.ok body) := by
  match outcome with
  | .fail err hne => simp [statusOf, hne]
  | .done (.fail status hne) => simp [statusOf, hsiNfs3StatToErrno_ne_zero hne]
  | .done (.ok body) => simp [statusOf]

/-- `hsi_nfs3_unlink` -/
def hsiNfs3Unlink (parent : ℕ) (name : CString) : Prog ℤ := do
  let inode ← Prog.getInode parent
  return statusOf (← Prog.clntCall (.remove ⟨hsiNfs3Getfh3 inode, name⟩))

/-- `hsi_nfs3_rmdir` -/
def hsiNfs3Rmdir (parent : ℕ) (name : CString) : Prog ℤ := do
  let inode ← Prog.getInode parent
  return statusOf (← Prog.clntCall (.rmdir ⟨hsiNfs3Getfh3 inode, name⟩))

/-- `hsi_nfs3_rename` -/
def hsiNfs3Rename (parent : ℕ) (name : CString) (newparent : ℕ) (newname : CString) :
    Prog ℤ := do
  let inode ← Prog.getInode parent
  let newInode ← Prog.getInode newparent
  return statusOf (← Prog.clntCall
    (.rename ⟨hsiNfs3Getfh3 inode, name⟩ ⟨hsiNfs3Getfh3 newInode, newname⟩))

/-- `hsi_nfs3_access`; the granted bits of the reply are not looked at. -/
def hsiNfs3Access (index : ℕ) (mask : UInt32) : Prog ℤ := do
  let inode ← Prog.getInode index
  return statusOf (← Prog.clntCall (.access (hsiNfs3Getfh3 inode) (mask &&& 0x3f)))

/-- `hsi_nfs3_readlink`: the error and the text, which is `NULL` when there is no memory for it. -/
def hsiNfs3Readlink (index : ℕ) : Prog (ℤ × Option CString) := do
  let inode ← Prog.getInode index
  match ← Prog.clntCall (.readlink (hsiNfs3Getfh3 inode)) with
  | .fail err _ => return (err, none)
  | .done (.fail status _) => return (hsiNfs3StatToErrno status, none)
  | .done (.ok text) =>
      if ← Prog.malloc .readlinkText then return (0, some (text.takeWhile (· != 0)))
      else return (0, none)

/-- `hsi_nfs3_read`: the error, or the decoded reply. -/
def hsiNfs3Read (index : ℕ) (offset : UInt64) (size : ℕ) : Prog (ℤ × Option Read3resok) := do
  let inode ← Prog.getInode index
  match ← Prog.clntCall (.read (hsiNfs3Getfh3 inode) offset size) with
  | .fail err _ => return (err, none)
  | .done (.fail status _) => return (hsiNfs3StatToErrno status, none)
  | .done (.ok res) => return (0, some res)

/-- `hsi_nfs3_write`: the error and the count of the reply. -/
def hsiNfs3Write (index : ℕ) (offset : UInt64) (stable : ℤ) (data : List UInt8) :
    Prog (ℤ × ℕ) := do
  let inode ← Prog.getInode index
  match ← Prog.clntCall (.write (hsiNfs3Getfh3 inode) offset data.length stable data) with
  | .fail err _ => return (err, 0)
  | .done (.fail status _) => return (hsiNfs3StatToErrno status, 0)
  | .done (.ok count) => return (0, count.toNat)

/-- `hsi_nfs3_statfs` -/
def hsiNfs3Statfs (index : ℕ) : Prog ℤ := do
  let inode ← Prog.getInode index
  match ← Prog.clntCall (.fsstat (hsiNfs3Getfh3 inode)) with
  | .fail err _ => return err
  | .done (.fail status _) => return hsiNfs3StatToErrno status
  | .done (.ok res) =>
      Prog.modifySuper fun sb ↦
        { sb with
          tbytes := res.tbytes
          fbytes := res.fbytes
          abytes := res.abytes
          tfiles := res.tfiles
          ffiles := res.ffiles
          afiles := res.afiles }
      return 0

end NfsFuse
