import NfsFuse.Base.Posix

/-!
# What the daemon sends back to the kernel

One constructor for each `fuse_reply_*` function the handlers call, with the data they pass.
-/

namespace NfsFuse

/-- `struct fuse_entry_param` -/
structure FuseEntryParam where
  ino : UInt64
  generation : UInt64
  attr : Stat
  attrTimeout : ℤ
  entryTimeout : ℤ
  deriving DecidableEq, Repr

/-- One entry written by `fuse_add_direntry`. -/
structure Dirent where
  name : CString
  stIno : UInt64
  off : ℤ
  deriving DecidableEq, Repr

/-- One entry written by `fuse_add_direntry_plus`. -/
structure DirentPlus where
  name : CString
  entry : FuseEntryParam
  off : ℤ
  deriving DecidableEq, Repr

/-- `struct statvfs` -/
structure Statvfs where
  fBsize : UInt64
  fFrsize : UInt64
  fBlocks : UInt64
  fBfree : UInt64
  fBavail : UInt64
  fFiles : UInt64
  fFfree : UInt64
  fFavail : UInt64
  fFsid : UInt64
  fFlag : UInt64
  fNamemax : UInt64
  deriving DecidableEq, Repr

/-- A call of a reply function.  Buffer contents are lists of bytes in which `none` stands for a
byte that was never written. -/
inductive FuseReply where
  | err (error : ℤ)
  | noReply
  | entry (param : FuseEntryParam)
  | create (param : FuseEntryParam)
  | attr (st : Stat) (timeout : ℤ)
  | readlink (link : CString)
  | opened
  | write (count : ℕ)
  | buf (bytes : List (Option UInt8))
  | dirents (entries : List Dirent)
  | direntsPlus (entries : List DirentPlus)
  | statfs (stbuf : Statvfs)
  | xattr (count : ℤ)
  deriving DecidableEq, Repr

end NfsFuse
