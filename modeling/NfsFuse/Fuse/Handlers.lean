import NfsFuse.Nfs3.Readdir
import NfsFuse.Nfs3.Acl

/-!
# The request handlers

The embedding of `fuse/hsx_fuse_*.c`: the handlers registered in `hsfs_oper`, their lookup counts
and their replies.  The session's user data is the superblock, so the tests for a missing one never
succeed and are left out.
-/

namespace NfsFuse

open Lib

/-- `hsx_fuse_ref_xchg` -/
def hsxFuseRefXchg (ptr : InodePtr) (val : UInt64) : Prog UInt64 := do
  let index ← Prog.deref ptr
  let inode ← Prog.getInode index
  Prog.modifyInode index fun inode ↦ { inode with priv := val }
  return inode.priv

/-- `hsx_fuse_ref_inc` -/
def hsxFuseRefInc (ptr : InodePtr) (val : UInt64) : Prog UInt64 := do
  let index ← Prog.deref ptr
  let inode ← Prog.getInode index
  Prog.modifyInode index fun inode ↦ { inode with priv := inode.priv + val }
  return inode.priv + val

/-- `hsx_fuse_ref_dec` -/
def hsxFuseRefDec (ptr : InodePtr) (val : UInt64) : Prog UInt64 := do
  let index ← Prog.deref ptr
  let inode ← Prog.getInode index
  Prog.assert (val ≤ inode.priv) .refDec
  Prog.modifyInode index fun inode ↦ { inode with priv := inode.priv - val }
  return inode.priv - val

/-- The `struct fuse_entry_param` that `hsx_fuse_fill_reply` writes for an inode. -/
def entryParam (sb : HsfsSuper) (inode : NfsInode) : FuseEntryParam where
  ino := inode.ino
  generation := 0
  attr := hsfsGenericFillattr inode
  attrTimeout := sb.acdirmin
  entryTimeout := sb.acregmin

/-- `hsx_fuse_fill_reply` -/
def hsxFuseFillReply (ptr : InodePtr) : Prog FuseEntryParam := do
  let index ← Prog.deref ptr
  let inode ← Prog.getInode index
  let daemon ← Program.get
  return entryParam daemon.sb inode

/-- The steps that `hsx_fuse_mkdir`, `hsx_fuse_mknod`, `hsx_fuse_symlink` and `hsx_fuse_create` take
before their success reply. -/
def countCreated (new : InodePtr) : Prog FuseEntryParam := do
  let ref ← hsxFuseRefXchg new 1
  Prog.assert (ref == 0) .refCreate
  hsxFuseFillReply new

/-- `hsx_fuse_init` -/
def hsxFuseInit : Prog Unit := do
  let daemon ← Program.get
  let ref ← hsxFuseRefXchg daemon.sb.root 1
  Prog.assert (ref == 0) .refInit

/-- The timeout of an attribute reply. -/
def attrTimeout (sb : HsfsSuper) (inode : NfsInode) : ℤ :=
  if sIsdir inode.iattr.mode then sb.acdirmin else sb.acregmin

/-- `hsx_fuse_getattr` -/
def hsxFuseGetattr (ino : UInt64) : Prog Unit := do
  match ← hsfsIlookup ino with
  | .obj index =>
      let (err, st) ← hsiNfs3Getattr index .cleared
      if err ≠ 0 then
        Prog.reply (.err err)
      else
        let inode ← Prog.getInode index
        let daemon ← Program.get
        Prog.reply (.attr st (attrTimeout daemon.sb inode))
  | _ => Prog.reply (.err enoent)

/-- A time field of `hsx_fuse_stat2iattr`: the bits it contributes. -/
def stat2iattrTime (toSet timeBit nowBit attrBit attrSetBit : UInt32) : UInt32 :=
  if toSet &&& timeBit ≠ 0 then
    if toSet &&& nowBit = 0 then attrBit ||| attrSetBit else attrBit
  else 0

/-- `hsx_fuse_stat2iattr`; a field whose bit is not set is never read. -/
def hsxFuseStat2iattr (st : Stat) (toSet : UInt32) : HsfsIattr where
  valid :=
    (if toSet &&& 1 ≠ 0 then hsfsAttrMode else 0) |||
    (if toSet &&& 2 ≠ 0 then hsfsAttrUid else 0) |||
    (if toSet &&& 4 ≠ 0 then hsfsAttrGid else 0) |||
    (if toSet &&& 8 ≠ 0 then hsfsAttrSize else 0) |||
    stat2iattrTime toSet 16 128 hsfsAttrAtime hsfsAttrAtimeSet |||
    stat2iattrTime toSet 32 256 hsfsAttrMtime hsfsAttrMtimeSet
  mode := st.stMode &&& ~~~sIfmt
  uid := st.stUid
  gid := st.stGid
  size := st.stSize
  atime := st.stAtim
  mtime := st.stMtim
  ctime := .zero

/-- `hsx_fuse_setattr` -/
def hsxFuseSetattr (ino : UInt64) (attr : Stat) (toSet : UInt32) : Prog Unit := do
  match ← hsfsIlookup ino with
  | .obj index =>
      let err ← hsiNfsSetattr index (hsxFuseStat2iattr attr toSet)
      if err ≠ 0 then
        Prog.reply (.err err)
      else
        let inode ← Prog.getInode index
        let daemon ← Program.get
        Prog.reply (.attr (hsfsGenericFillattr inode) (attrTimeout daemon.sb inode))
  | _ => Prog.reply (.err enoent)

/-- The bits of `ACCESS` that `hsx_fuse_access` asks for, given the mask of the request. -/
def accessMode (dir : Bool) (mask : UInt32) : UInt32 :=
  let read : UInt32 := if mask &&& 4 ≠ 0 then 0x01 else 0
  if dir then
    read ||| (if mask &&& 2 ≠ 0 then 0x04 ||| 0x08 ||| 0x10 else 0) |||
      (if mask &&& 1 ≠ 0 then 0x02 else 0)
  else
    read ||| (if mask &&& 2 ≠ 0 then 0x04 ||| 0x08 else 0) |||
      (if mask &&& 1 ≠ 0 then 0x20 else 0)

/-- `hsx_fuse_access` -/
def hsxFuseAccess (ino : UInt64) (mask : UInt32) : Prog Unit := do
  match ← hsfsIlookup ino with
  | .obj index =>
      let inode ← Prog.getInode index
      let err ← hsiNfs3Access index (accessMode (sIsdir inode.iattr.mode) mask)
      Prog.reply (.err err)
  | _ => return ()

/-- `hsx_fuse_lookup` -/
def hsxFuseLookup (plat : Platform) (ino : UInt64) (name : CString) : Prog Unit := do
  match ← hsfsIlookup ino with
  | .obj parent =>
      let (err, child) ← hsiNfs3Lookup plat parent name
      if err ≠ 0 then
        Prog.reply (.err err)
      else
        match child with
        | .null => Prog.reply (.err enomem)
        | child =>
            let _ ← hsxFuseRefInc child 1
            let param ← hsxFuseFillReply child
            Prog.reply (.entry param)
  | _ => Prog.reply (.err enoent)

/-- `hsx_fuse_forget` -/
def hsxFuseForget (ino : UInt64) (nlookup : UInt64) : Prog Unit := do
  let node ← hsfsIlookup ino
  Prog.assert (node != .null) .forgetNode
  let ilookup ← hsxFuseRefDec node nlookup
  if ilookup = 0 then
    hsfsIput node
    Prog.reply .noReply
  else
    Prog.reply .noReply

/-- The end of `hsx_fuse_mkdir`, `hsx_fuse_mknod`, `hsx_fuse_symlink` and `hsx_fuse_create`. -/
def replyCreated (err : ℤ) (new : InodePtr) (success : FuseEntryParam → FuseReply) :
    Prog Unit := do
  if err ≠ 0 then
    Prog.reply (.err err)
  else
    match new with
    | .null => Prog.reply (.err enomem)
    | new =>
        let param ← countCreated new
        Prog.reply (success param)

/-- `hsx_fuse_mkdir` -/
def hsxFuseMkdir (plat : Platform) (parent : UInt64) (name : CString) (mode : UInt32) :
    Prog Unit := do
  match ← hsfsIlookup parent with
  | .obj hiParent =>
      let (err, new) ← hsiNfs3Mkdir plat hiParent name mode
      replyCreated err new .entry
  | _ => return ()

/-- `hsx_fuse_mknod` -/
def hsxFuseMknod (plat : Platform) (parent : UInt64) (name : CString) (mode : UInt32)
    (rdev : UInt64) : Prog Unit := do
  match ← hsfsIlookup parent with
  | .obj parentp =>
      let (err, new) ← hsiNfs3Mknod plat parentp name mode rdev
      replyCreated err new .entry
  | _ => Prog.reply (.err enoent)

/-- `hsx_fuse_symlink` -/
def hsxFuseSymlink (plat : Platform) (link : CString) (parent : UInt64) (name : CString) :
    Prog Unit := do
  match ← hsfsIlookup parent with
  | .obj nfsParent =>
      let (err, new) ← hsiNfs3Symlink plat nfsParent link name
      replyCreated err new .entry
  | _ => Prog.reply (.err enoent)

/-- The mode that `hsx_fuse_create` passes on, with `O_EXCL` and `O_TRUNC` in its upper half. -/
def createMode (mode flags : UInt32) : UInt32 :=
  (mode &&& 0o777) |||
    (if flags &&& 0o200 ≠ 0 then 0x20000 else if flags &&& 0o1000 ≠ 0 then 0x10000 else 0)

/-- `hsx_fuse_create` -/
def hsxFuseCreate (plat : Platform) (parent : UInt64) (name : CString)
    (mode flags uid gid : UInt32) : Prog Unit := do
  match ← hsfsIlookup parent with
  | .obj hi =>
      Prog.modifyInode hi fun inode ↦ { inode with iattr := { inode.iattr with uid, gid } }
      let (err, newhi) ← hsiNfs3Create plat hi name (createMode mode flags)
      replyCreated err newhi .create
  | _ => return ()

/-- `hsx_fuse_link` -/
def hsxFuseLink (ino newparent : UInt64) (newname : CString) : Prog Unit := do
  match ← hsfsIlookup newparent with
  | .obj parent =>
      match ← hsfsIlookup ino with
      | .obj inop =>
          let err ← hsiNfs3Link inop parent newname
          if err = 0 then
            if ← Prog.malloc .entryParam then
              let param ← hsxFuseFillReply (.obj inop)
              Prog.reply (.entry param)
            else
              Prog.reply (.err enomem)
          else
            Prog.reply (.err err)
      | _ => return ()
  | _ => return ()

/-- `hsx_fuse_rmdir` -/
def hsxFuseRmdir (parent : UInt64) (name : CString) : Prog Unit := do
  match ← hsfsIlookup parent with
  | .obj hiParent =>
      let err ← hsiNfs3Rmdir hiParent name
      Prog.reply (.err err)
  | _ => return ()

/-- `hsx_fuse_unlink` -/
def hsxFuseUnlink (parent : UInt64) (name : CString) : Prog Unit := do
  if name = [] then Prog.reply (.err einval)
  else if name.length > nameMax then Prog.reply (.err enametoolong)
  else
    match ← hsfsIlookup parent with
    | .obj hi =>
        let err ← hsiNfs3Unlink hi name
        Prog.reply (.err err)
    | _ => Prog.reply (.err enoent)

/-- `hsx_fuse_rename` -/
def hsxFuseRename (parent : UInt64) (name : CString) (newparent : UInt64) (newname : CString)
    (flags : UInt32) : Prog Unit := do
  if flags ≠ 0 then Prog.reply (.err einval)
  else if name = [] then Prog.reply (.err einval)
  else if newname = [] then Prog.reply (.err einval)
  else if name.length > nameMax then Prog.reply (.err enametoolong)
  else if newname.length > nameMax then Prog.reply (.err enametoolong)
  else
    match ← hsfsIlookup parent with
    | .obj hi =>
        match ← hsfsIlookup newparent with
        | .obj newhi =>
            let err ← hsiNfs3Rename hi name newhi newname
            Prog.reply (.err err)
        | _ => Prog.reply (.err enoent)
    | _ => Prog.reply (.err enoent)

/-- `hsx_fuse_readlink`; replying with a `NULL` text is undefined. -/
def hsxFuseReadlink (ino : UInt64) : Prog Unit := do
  match ← hsfsIlookup ino with
  | .obj hi =>
      let (st, link) ← hsiNfs3Readlink hi
      if st ≠ 0 then
        Prog.reply (.err st)
      else
        match link with
        | some link => Prog.reply (.readlink link)
        | none => Program.crash .undefined
  | _ => return ()

/-- `hsx_fuse_open` -/
def hsxFuseOpen : Prog Unit := do
  if ← Prog.malloc .openFh then Prog.reply .opened else Prog.reply (.err enomem)

/-- `hsx_fuse_opendir` -/
def hsxFuseOpendir (ino : UInt64) : Prog Unit := do
  match ← hsfsIlookup ino with
  | .obj _ => Prog.reply .opened
  | _ => Prog.reply (.err enoent)

/-- `hsx_fuse_release` -/
def hsxFuseRelease : Prog Unit := Prog.reply (.err 0)

/-- `memcpy` of received bytes into a buffer. -/
def overwrite (buf : List (Option UInt8)) (at_ : ℕ) (data : List UInt8) : List (Option UInt8) :=
  buf.take at_ ++ data.map some ++ buf.drop (at_ + data.length)

/-- The loop of `hsx_fuse_read`: the error, the count and the buffer.  Copying past the end of the
buffer is undefined. -/
def readLoop (index size : ℕ) (off : UInt64) :
    ℕ → ℕ → List (Option UInt8) → Prog (ℤ × ℕ × List (Option UInt8))
  | 0, _, _ => Program.crash .outOfFuel
  | fuel + 1, cnt, buf => do
      if cnt < size then
        let daemon ← Program.get
        let (err, res) ← hsiNfs3Read index (off + UInt64.ofNat cnt)
          (min (size - cnt) daemon.sb.rsize.toNat)
        match res with
        | none => return (err, cnt, buf)
        | some res =>
            if cnt + res.data.length ≤ size then
              if res.eof then
                return (0, cnt + res.count.toNat, overwrite buf cnt res.data)
              else
                readLoop index size off fuel (cnt + res.count.toNat) (overwrite buf cnt res.data)
            else
              Program.crash .undefined
      else
        return (0, cnt, buf)

/-- What `fuse_reply_buf` sends: the first `count` bytes from the buffer's start, past its end
where the count exceeds it. -/
def bufferPrefix (buf : List (Option UInt8)) (count : ℕ) : List (Option UInt8) :=
  buf.take count ++ List.replicate (count - buf.length) none

/-- `hsx_fuse_read` -/
def hsxFuseRead (fuel : ℕ) (ino : UInt64) (size : ℕ) (off : UInt64) : Prog Unit := do
  if ← Prog.malloc .readBuf then
    match ← hsfsIlookup ino with
    | .obj index =>
        let (err, cnt, buf) ← readLoop index size off fuel 0 (List.replicate size none)
        if err ≠ 0 then Prog.reply (.err err) else Prog.reply (.buf (bufferPrefix buf cnt))
    | _ => Prog.reply (.err enoent)
  else
    Prog.reply (.err enomem)

/-- The loop of `hsx_fuse_write`: the error and the count. -/
def writeLoop (index : ℕ) (data : List UInt8) (off : UInt64) (stable : ℤ) :
    ℕ → ℕ → Prog (ℤ × ℕ)
  | 0, _ => Program.crash .outOfFuel
  | fuel + 1, cnt => do
      if cnt < data.length then
        let daemon ← Program.get
        let (err, count) ← hsiNfs3Write index (off + UInt64.ofNat cnt) stable
          ((data.drop cnt).take (min (data.length - cnt) daemon.sb.wsize.toNat))
        if err ≠ 0 then return (err, cnt) else writeLoop index data off stable fuel (cnt + count)
      else
        return (0, cnt)

/-- `hsx_fuse_write` -/
def hsxFuseWrite (fuel : ℕ) (ino : UInt64) (data : List UInt8) (off : UInt64) (directIo : Bool) :
    Prog Unit := do
  if ← Prog.malloc .writeBuf then
    match ← hsfsIlookup ino with
    | .obj index =>
        let (err, cnt) ← writeLoop index data off (if directIo then 2 else 0) fuel 0
        if err ≠ 0 then Prog.reply (.err err) else Prog.reply (.write cnt)
    | _ => Prog.reply (.err enoent)
  else
    Prog.reply (.err enomem)

/-- The loop of `hsx_fuse_readdir`: the entries that fit. -/
def packDirents (plat : Platform) (size : ℕ) : List ReaddirCtx → ℕ → List Dirent
  | [], _ => []
  | ctx :: rest, len =>
      if plat.direntSize ctx.name ≥ size - len then []
      else ⟨ctx.name, ctx.stIno, ctx.off⟩ ::
        packDirents plat size rest (len + plat.direntSize ctx.name)

/-- `hsx_fuse_readdir` -/
def hsxFuseReaddir (plat : Platform) (ino : UInt64) (size : ℕ) (off : UInt64) : Prog Unit := do
  match ← hsfsIlookup ino with
  | .obj parent =>
      let (err, chain) ← hsiNfs3Readdir parent (UInt32.ofNat size) off
      if err ≠ 0 then
        Prog.reply (.err err)
      else if ← Prog.malloc .readdirBuf then
        Prog.reply (.dirents (packDirents plat size chain 0))
      else
        Prog.reply (.err enomem)
  | _ => Program.crash (.assertFailed .readdirParent)

/-- The loop of `hsx_fuse_readdir_plus`: an entry that fits with room to spare is counted; one that
fills the buffer exactly ends the loop and is not delivered. -/
def packDirentsPlus (plat : Platform) (size : ℕ) :
    List ReaddirCtx → ℕ → List DirentPlus → Prog (List DirentPlus)
  | [], _, done => return done
  | ctx :: rest, len, done => do
      let param ← hsxFuseFillReply ctx.inode
      if plat.direntPlusSize ctx.name ≥ size - len then
        return done
      else
        let _ ← hsxFuseRefInc ctx.inode 1
        packDirentsPlus plat size rest (len + plat.direntPlusSize ctx.name)
          (done ++ [⟨ctx.name, param, ctx.off⟩])

/-- `hsx_fuse_readdir_plus` -/
def hsxFuseReaddirPlus (plat : Platform) (ino : UInt64) (size : ℕ) (off : UInt64) :
    Prog Unit := do
  match ← hsfsIlookup ino with
  | .obj parent =>
      let (err, chain) ← hsiNfs3ReaddirPlus plat parent (UInt32.ofNat size) off
        (UInt32.ofNat size)
      if err ≠ 0 then
        Prog.reply (.err err)
      else if ← Prog.malloc .readdirBuf then
        let entries ← packDirentsPlus plat size chain 0 []
        Prog.reply (.direntsPlus entries)
      else
        Prog.reply (.err enomem)
  | _ => Program.crash (.assertFailed .readdirParent)

/-- `hsi_super2statvfs` -/
def hsiSuper2statvfs (sp : HsfsSuper) : Option Statvfs :=
  let blockRes : UInt64 := (1 <<< sp.bsizeBits.toUInt64) - 1
  let blocks (bytes : UInt64) : UInt64 := (bytes + blockRes) >>> sp.bsizeBits.toUInt64
  if sp.bsizeBits = 0 then none
  else if sp.bsize = 0 then none
  else if sp.namlen = 0 then none
  else some
    { fBsize := sp.bsize.toUInt64
      fFrsize := sp.bsize.toUInt64
      fBlocks := blocks sp.tbytes
      fBfree := blocks sp.fbytes
      fBavail := blocks sp.abytes
      fFiles := sp.tfiles
      fFfree := sp.ffiles
      fFavail := sp.afiles
      fFsid := 0
      fFlag := sp.flags.toUInt64
      fNamemax := UInt64.ofInt sp.namlen }

/-- `hsx_fuse_statfs` -/
def hsxFuseStatfs : Prog Unit := do
  let daemon ← Program.get
  let root ← Prog.deref daemon.sb.root
  let err ← hsiNfs3Statfs root
  if err ≠ 0 then
    Prog.reply (.err err)
  else
    let daemon ← Program.get
    match hsiSuper2statvfs daemon.sb with
    | some stbuf => Prog.reply (.statfs stbuf)
    | none => Prog.reply (.err einval)

/-- The ACL type an extended attribute name stands for. -/
def xattrType (name : CString) : Option AclType :=
  if name = cstr "system.posix_acl_access" then some .access
  else if name = cstr "system.posix_acl_default" then some .default
  else none

/-- `hsx_fuse_getxattr` -/
def hsxFuseGetxattr (ino : UInt64) (name : CString) (size : ℕ) : Prog Unit := do
  match xattrType name with
  | none => Prog.reply (.err enotsup)
  | some type =>
      match ← hsfsIlookup ino with
      | .obj node =>
          let mask := match type with
            | .access => naAclcnt ||| naAcl
            | .default => naDfaclcnt ||| naDfacl
          let (err, acl) ← hsiNfs3Getxattr node mask type
          match acl with
          | none => Prog.reply (.err err)
          | some acl =>
              let buf ← Prog.malloc .xattrBuf
              if buf = false ∧ size ≠ 0 then
                Prog.reply (.err enomem)
              else
                let (realSize, bytes) := posixAclToXattr acl buf size
                if size = 0 then Prog.reply (.xattr realSize)
                else if realSize = erange then Prog.reply (.err erange)
                else Prog.reply (.buf (bytes.map some))
      | _ => Prog.reply (.err enoent)

/-- `hsx_fuse_setxattr`; after setting a list it replies and then falls through to the common
reply. -/
def hsxFuseSetxattr (ino : UInt64) (name : CString) (value : List UInt8) : Prog Unit := do
  match ← hsfsIlookup ino with
  | .obj hi =>
      match xattrType name with
      | some type =>
          let err ← hsiNfs3Setxattr hi value type
          Prog.reply (.err err)
          Prog.reply (.err err)
      | none => Prog.reply (.err 0)
  | _ => Prog.reply (.err 0)

/-- A request of the kernel with the arguments its handler looks at. -/
inductive Request where
  | getattr (ino : UInt64)
  | setattr (ino : UInt64) (attr : Stat) (toSet : UInt32)
  | lookup (parent : UInt64) (name : CString)
  | forget (ino nlookup : UInt64)
  | mkdir (parent : UInt64) (name : CString) (mode : UInt32)
  | rmdir (parent : UInt64) (name : CString)
  | unlink (parent : UInt64) (name : CString)
  | rename (parent : UInt64) (name : CString) (newparent : UInt64) (newname : CString)
      (flags : UInt32)
  | symlink (link : CString) (parent : UInt64) (name : CString)
  | readlink (ino : UInt64)
  | link (ino newparent : UInt64) (newname : CString)
  | mknod (parent : UInt64) (name : CString) (mode : UInt32) (rdev : UInt64)
  | create (parent : UInt64) (name : CString) (mode flags uid gid : UInt32)
  | openFile (ino : UInt64)
  | opendir (ino : UInt64)
  | release (ino : UInt64)
  | read (ino : UInt64) (size : ℕ) (off : UInt64)
  | write (ino : UInt64) (data : List UInt8) (off : UInt64) (directIo : Bool)
  | readdir (ino : UInt64) (size : ℕ) (off : UInt64)
  | readdirplus (ino : UInt64) (size : ℕ) (off : UInt64)
  | access (ino : UInt64) (mask : UInt32)
  | statfs (ino : UInt64)
  | getxattr (ino : UInt64) (name : CString) (size : ℕ)
  | setxattr (ino : UInt64) (name : CString) (value : List UInt8)

/-- `hsfs_oper`, with `fuel` for the loops of `read` and `write`. -/
def handle (plat : Platform) (fuel : ℕ) : Request → Prog Unit
  | .getattr ino => hsxFuseGetattr ino
  | .setattr ino attr toSet => hsxFuseSetattr ino attr toSet
  | .lookup parent name => hsxFuseLookup plat parent name
  | .forget ino nlookup => hsxFuseForget ino nlookup
  | .mkdir parent name mode => hsxFuseMkdir plat parent name mode
  | .rmdir parent name => hsxFuseRmdir parent name
  | .unlink parent name => hsxFuseUnlink parent name
  | .rename parent name newparent newname flags =>
      hsxFuseRename parent name newparent newname flags
  | .symlink link parent name => hsxFuseSymlink plat link parent name
  | .readlink ino => hsxFuseReadlink ino
  | .link ino newparent newname => hsxFuseLink ino newparent newname
  | .mknod parent name mode rdev => hsxFuseMknod plat parent name mode rdev
  | .create parent name mode flags uid gid => hsxFuseCreate plat parent name mode flags uid gid
  | .openFile _ => hsxFuseOpen
  | .opendir ino => hsxFuseOpendir ino
  | .release _ => hsxFuseRelease
  | .read ino size off => hsxFuseRead fuel ino size off
  | .write ino data off directIo => hsxFuseWrite fuel ino data off directIo
  | .readdir ino size off => hsxFuseReaddir plat ino size off
  | .readdirplus ino size off => hsxFuseReaddirPlus plat ino size off
  | .access ino mask => hsxFuseAccess ino mask
  | .statfs _ => hsxFuseStatfs
  | .getxattr ino name size => hsxFuseGetxattr ino name size
  | .setxattr ino name value => hsxFuseSetxattr ino name value

end NfsFuse
