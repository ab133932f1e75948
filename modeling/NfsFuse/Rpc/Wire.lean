import NfsFuse.Base.Posix

/-!
# The NFS version 3 and ACL protocols on the wire

The arguments and results of the procedures the client calls.  A result keeps the parts of the XDR
type that the client reads, together with the parts a server model needs in order to fill them in;
pre-operation attributes, directory attributes that are never looked at and the bodies of failed
results are left out.  Enumerations that XDR decodes without a range check (file types, status
codes) stay raw words.
-/

namespace NfsFuse

/-- `nfs_fh3`: at most `NFS3_FHSIZE` opaque bytes. -/
structure NfsFh3 where
  data : List UInt8
  length_le : data.length ≤ 64
  deriving DecidableEq

/-- `nfstime3` -/
structure Nfstime3 where
  seconds : UInt32
  nseconds : UInt32
  deriving DecidableEq, Repr, Inhabited

/-- `specdata3` -/
structure Specdata3 where
  major : UInt32
  minor : UInt32
  deriving DecidableEq, Repr, Inhabited

/-- `fattr3` -/
structure Fattr3 where
  type : UInt32
  mode : UInt32
  nlink : UInt32
  uid : UInt32
  gid : UInt32
  size : UInt64
  used : UInt64
  rdev : Specdata3
  fsid : UInt64
  fileid : UInt64
  atime : Nfstime3
  mtime : Nfstime3
  ctime : Nfstime3
  deriving DecidableEq, Repr, Inhabited

def nf3reg : UInt32 := 1
def nf3dir : UInt32 := 2
def nf3blk : UInt32 := 3
def nf3chr : UInt32 := 4
def nf3lnk : UInt32 := 5
def nf3sock : UInt32 := 6
def nf3fifo : UInt32 := 7

/-- `set_time` -/
inductive SetTime where
  | dontChange
  | setToServerTime
  | setToClientTime (time : Nfstime3)
  deriving DecidableEq, Repr

/-- `sattr3` -/
structure Sattr3 where
  mode : Option UInt32
  uid : Option UInt32
  gid : Option UInt32
  size : Option UInt64
  atime : SetTime
  mtime : SetTime
  deriving DecidableEq, Repr

/-- A `sattr3` cleared by `memset`. -/
def Sattr3.cleared : Sattr3 := ⟨none, none, none, none, .dontChange, .dontChange⟩

/-- `diropargs3`; a handle in an argument is the byte string the client stored. -/
structure Diropargs3 where
  dir : List UInt8
  name : CString
  deriving DecidableEq, Repr

/-- `createhow3` -/
inductive Createhow3 where
  | unchecked (attributes : Sattr3)
  | guarded (attributes : Sattr3)
  | exclusive (verf : UInt64)
  deriving DecidableEq, Repr

/-- `mknoddata3`, for the types the client sends. -/
inductive Mknoddata3 where
  | device (type : UInt32) (attributes : Sattr3) (spec : Specdata3)
  | pipe (type : UInt32) (attributes : Sattr3)
  | other (type : UInt32)
  deriving DecidableEq, Repr

/-- `aclent` -/
structure Aclent where
  type : Int32
  id : Int32
  perm : UInt16
  deriving DecidableEq, Repr

/-- `secattr` -/
structure Secattr where
  mask : UInt32
  aclcnt : ℤ
  aclent : List Aclent
  dfaclcnt : ℤ
  dfaclent : List Aclent
  deriving DecidableEq, Repr

/-- A result union discriminated by `nfsstat3`: the body of `NFS3_OK`, or another status. -/
inductive NfsRes (α : Type) where
  | ok (body : α)
  | fail (status : ℤ) (nonzero : status ≠ 0)

/-- `lookup3resok` -/
structure Lookup3resok where
  object : NfsFh3
  objAttributes : Option Fattr3

/-- `diropres3ok` -/
structure Diropres3ok where
  obj : Option NfsFh3
  objAttributes : Option Fattr3

/-- `read3resok`; the three parts are independent on the wire. -/
structure Read3resok where
  count : UInt32
  eof : Bool
  data : List UInt8

/-- `entry3` -/
structure Entry3 where
  fileid : UInt64
  name : CString
  cookie : UInt64

/-- `readdir3resok` -/
structure Readdir3resok where
  dirAttributes : Option Fattr3
  cookieverf : UInt64
  entries : List Entry3

/-- `entryplus3` -/
structure Entryplus3 where
  fileid : UInt64
  name : CString
  cookie : UInt64
  nameAttributes : Option Fattr3
  nameHandle : Option NfsFh3

/-- `readdirplus3resok` -/
structure Readdirplus3resok where
  dirAttributes : Option Fattr3
  cookieverf : UInt64
  entries : List Entryplus3

/-- `fsstat3resok` -/
structure Fsstat3resok where
  tbytes : UInt64
  fbytes : UInt64
  abytes : UInt64
  tfiles : UInt64
  ffiles : UInt64
  afiles : UInt64

/-- `fsinfo3resok` -/
structure Fsinfo3resok where
  objAttributes : Option Fattr3
  rtmax : UInt32
  rtpref : UInt32
  rtmult : UInt32
  wtmax : UInt32
  wtpref : UInt32
  wtmult : UInt32
  dtpref : UInt32
  maxfilesize : UInt64
  timeDelta : Nfstime3
  properties : UInt32

/-- `pathconf3resok` -/
structure Pathconf3resok where
  nameMax : UInt32

/-! ## Calls -/

/-- A remote procedure with its arguments. -/
inductive Call where
  | getattr (object : List UInt8)
  | setattr (object : List UInt8) (newAttributes : Sattr3)
  | lookup (args : Diropargs3)
  | access (object : List UInt8) (access : UInt32)
  | readlink (symlink : List UInt8)
  | read (file : List UInt8) (offset : UInt64) (count : ℕ)
  | write (file : List UInt8) (offset : UInt64) (count : ℕ) (stable : ℤ) (data : List UInt8)
  | create (args : Diropargs3) (how : Createhow3)
  | mkdir (args : Diropargs3) (attributes : Sattr3)
  | symlink (args : Diropargs3) (attributes : Sattr3) (data : CString)
  | mknod (args : Diropargs3) (what : Mknoddata3)
  | remove (args : Diropargs3)
  | rmdir (args : Diropargs3)
  | rename (source target : Diropargs3)
  | link (file : List UInt8) (link : Diropargs3)
  | readdir (dir : List UInt8) (cookie cookieverf : UInt64) (count : UInt32)
  | readdirplus (dir : List UInt8) (cookie cookieverf : UInt64) (dircount maxcount : UInt32)
  | fsstat (root : List UInt8)
  | fsinfo (root : List UInt8)
  | pathconf (object : List UInt8)
  | getacl (fh : List UInt8) (mask : UInt32)
  | setacl (fh : List UInt8) (acl : Secattr)
  deriving DecidableEq, Repr

/-- What a call's decoded reply carries when its status is `NFS3_OK`: post-operation attributes
where nothing else is read. -/
@[reducible]
def Call.Body : Call → Type
  | .getattr _ => Fattr3
  | .setattr _ _ => Option Fattr3
  | .lookup _ => Lookup3resok
  | .access _ _ => UInt32
  | .readlink _ => CString
  | .read _ _ _ => Read3resok
  | .write _ _ _ _ _ => UInt32
  | .create _ _ => Diropres3ok
  | .mkdir _ _ => Diropres3ok
  | .symlink _ _ _ => Diropres3ok
  | .mknod _ _ => Diropres3ok
  | .remove _ => Unit
  | .rmdir _ => Unit
  | .rename _ _ => Unit
  | .link _ _ => Option Fattr3
  | .readdir _ _ _ _ => Readdir3resok
  | .readdirplus _ _ _ _ _ => Readdirplus3resok
  | .fsstat _ => Fsstat3resok
  | .fsinfo _ => Fsinfo3resok
  | .pathconf _ => Pathconf3resok
  | .getacl _ _ => Secattr
  | .setacl _ _ => Unit

/-- How `hsi_nfs3_clnt_call` ends: the error number it returns, or a decoded reply. -/
inductive RpcOutcome (α : Type) where
  | fail (err : ℤ) (nonzero : err ≠ 0)
  | done (res : NfsRes α)

end NfsFuse
