import NfsFuse.Lib.Resumption
import NfsFuse.Lib.HashTable
import NfsFuse.Rpc.Wire
import NfsFuse.Fuse.Reply

/-!
# The state of the daemon

The superblock with its two hash tables, the inodes allocated so far, and the replies sent for the
request in progress.  Code that touches this state is a program over it that may ask its
environment questions: the outcome of a remote call, whether an allocation succeeds, and, while
mounting, what the resolver, the RPC library and the clock say.  It stops without returning when an
assertion fails, when it would go through a pointer that does not point to a live object, or when a
loop exceeds the fuel it is given.
-/

namespace NfsFuse

open Lib

/-- The values an inode pointer takes: `NULL`, an allocated inode, or the result of
`ERR_PTR(error)`, an address computed from that of `bad_hsfs_inode`. -/
inductive InodePtr where
  | null
  | obj (index : ℕ)
  | err (error : ℤ)
  deriving DecidableEq, Repr, Inhabited

/-- `sizeof(struct hsfs_inode)`, which is also `MAX_ERRNO`. -/
def sizeofHsfsInode : ℕ := 184

/-- Where the host places objects, its page size, and what libfuse needs for a directory entry.  The
inode inside a `struct nfs_inode` is followed by its eight-byte `cookieverf`, so it never ends at
the top of the address space; `bad_hsfs_inode` is an ordinary aligned object in the lower half. -/
structure Platform where
  badInode : UInt64
  inodeAddr : ℕ → UInt64
  direntSize : CString → ℕ
  direntPlusSize : CString → ℕ
  pageSize : UInt32
  badInode_pos : 0 < badInode.toNat
  badInode_aligned : badInode.toNat % 8 = 0
  badInode_lower : badInode.toNat < 2 ^ 63
  inodeAddr_pos : ∀ index, 0 < (inodeAddr index).toNat
  inodeAddr_fits : ∀ index, (inodeAddr index).toNat + sizeofHsfsInode + 8 ≤ 2 ^ 64
  inodeAddr_disjoint : ∀ index, (inodeAddr index).toNat + sizeofHsfsInode ≤ badInode.toNat ∨
    badInode.toNat + sizeofHsfsInode ≤ (inodeAddr index).toNat

/-- A heap address of a 64-bit Linux process. -/
def linuxInodeAddr (index : ℕ) : UInt64 := 0x7f2000000000 + UInt64.ofNat (index % 4096 * 368)

theorem linuxInodeAddr_toNat (index : ℕ) :
    (linuxInodeAddr index).toNat = 0x7f2000000000 + index % 4096 * 368 := by
  have hlt : index % 4096 < 4096 := Nat.mod_lt _ (by decide)
  have hbase : (0x7f2000000000 : UInt64).toNat = 0x7f2000000000 := rfl
  rw [linuxInodeAddr, UInt64.toNat_add, UInt64.toNat_ofNat', hbase]
  omega

/-- A 64-bit Linux host: static data low, the heap below the stack, and the entry sizes of libfuse,
which rounds header and name up to a multiple of eight. -/
def linuxHost : Platform where
  badInode := 0x4b2040
  inodeAddr := linuxInodeAddr
  direntSize name := (24 + name.length + 7) / 8 * 8
  direntPlusSize name := (152 + name.length + 7) / 8 * 8
  pageSize := 4096
  badInode_pos := by decide
  badInode_aligned := by decide
  badInode_lower := by decide
  inodeAddr_pos index := by
    rw [linuxInodeAddr_toNat]
    omega
  inodeAddr_fits index := by
    rw [linuxInodeAddr_toNat, sizeofHsfsInode]
    omega
  inodeAddr_disjoint index := by
    have hbad : (0x4b2040 : UInt64).toNat = 0x4b2040 := rfl
    right
    rw [linuxInodeAddr_toNat, sizeofHsfsInode, hbad]
    omega

/-- `struct nfs_fh` -/
structure NfsFh where
  size : UInt16
  data : List UInt8
  deriving DecidableEq, Repr, Inhabited

/-- `struct hsfs_iattr` -/
structure HsfsIattr where
  valid : UInt32
  mode : UInt32
  uid : UInt32
  gid : UInt32
  size : ℤ
  atime : Timespec
  mtime : Timespec
  ctime : Timespec
  deriving DecidableEq, Repr, Inhabited

/-- `struct nfs_inode` with the `struct hsfs_inode` inside it; `priv` is the field `private`. -/
structure NfsInode where
  fileid : UInt64
  fh : NfsFh
  flags : UInt64
  cookieverf : UInt64
  iattr : HsfsIattr
  iState : UInt32
  iNlink : UInt32
  iBlocks : UInt64
  priv : UInt64
  iCount : ℤ
  realIno : UInt64
  iBlkbits : UInt32
  ino : UInt64
  iRdev : UInt64
  generation : UInt64
  deriving DecidableEq, Repr, Inhabited

/-- A `struct nfs_inode` cleared by `bzero`. -/
def NfsInode.cleared : NfsInode where
  fileid := 0
  fh := ⟨0, []⟩
  flags := 0
  cookieverf := 0
  iattr := ⟨0, 0, 0, 0, 0, .zero, .zero, .zero⟩
  iState := 0
  iNlink := 0
  iBlocks := 0
  priv := 0
  iCount := 0
  realIno := 0
  iBlkbits := 0
  ino := 0
  iRdev := 0
  generation := 0

/-- The table type declared by `DECLARE_HASHTABLE(_, 10)`. -/
abbrev InodeTable := HashTable (Fin 1024) ℕ

/-- `struct hsfs_super` -/
structure HsfsSuper where
  fhTable : InodeTable
  idTable : InodeTable
  currId : UInt64
  clntp : Option ℕ
  aclClntp : Option ℕ
  flags : UInt32
  rsize : UInt32
  wsize : UInt32
  timeo : ℤ
  retrans : ℤ
  acregmin : ℤ
  acregmax : ℤ
  acdirmin : ℤ
  acdirmax : ℤ
  addr : UInt32
  namlen : ℤ
  dtsize : UInt32
  bsize : UInt32
  bsizeBits : UInt8
  root : InodePtr
  tbytes : UInt64
  fbytes : UInt64
  abytes : UInt64
  tfiles : UInt64
  ffiles : UInt64
  afiles : UInt64

/-- The superblock as `main` declares it, all zero. -/
def HsfsSuper.zeroed : HsfsSuper where
  fhTable := .empty
  idTable := .empty
  currId := 0
  clntp := none
  aclClntp := none
  flags := 0
  rsize := 0
  wsize := 0
  timeo := 0
  retrans := 0
  acregmin := 0
  acregmax := 0
  acdirmin := 0
  acdirmax := 0
  addr := 0
  namlen := 0
  dtsize := 0
  bsize := 0
  bsizeBits := 0
  root := .null
  tbytes := 0
  fbytes := 0
  abytes := 0
  tfiles := 0
  ffiles := 0
  afiles := 0

/-- The daemon's memory.  An inode is named by its position in the order of allocation, an RPC
client by its position in the order of creation. -/
structure Daemon where
  sb : HsfsSuper
  heap : List NfsInode
  freed : List ℕ
  replies : List FuseReply
  clients : ℕ
  liveClients : List ℕ

namespace Daemon

/-- The inode at an index. -/
def inode (daemon : Daemon) (index : ℕ) : NfsInode := daemon.heap.getD index .cleared

/-- There is no inode behind the last one. -/
theorem inode_of_le {daemon : Daemon} {index : ℕ} (h : daemon.heap.length ≤ index) :
    daemon.inode index = .cleared := by
  rw [Daemon.inode, List.getD_eq_getElem?_getD, List.getElem?_eq_none h, Option.getD_none]

/-- Overwrite one inode. -/
def setInode (daemon : Daemon) (index : ℕ) (inode : NfsInode) : Daemon :=
  { daemon with heap := daemon.heap.set index inode }

@[simp]
theorem setInode_sb (daemon : Daemon) (index : ℕ) (inode : NfsInode) :
    (daemon.setInode index inode).sb = daemon.sb := rfl

@[simp]
theorem setInode_freed (daemon : Daemon) (index : ℕ) (inode : NfsInode) :
    (daemon.setInode index inode).freed = daemon.freed := rfl

@[simp]
theorem setInode_replies (daemon : Daemon) (index : ℕ) (inode : NfsInode) :
    (daemon.setInode index inode).replies = daemon.replies := rfl

@[simp]
theorem setInode_length (daemon : Daemon) (index : ℕ) (inode : NfsInode) :
    (daemon.setInode index inode).heap.length = daemon.heap.length :=
  List.length_set

theorem inode_setInode_self {daemon : Daemon} {index : ℕ} (h : index < daemon.heap.length)
    (inode : NfsInode) : (daemon.setInode index inode).inode index = inode := by
  simp [Daemon.inode, setInode, List.getD_eq_getElem?_getD, h]

theorem inode_setInode_ne {daemon : Daemon} {index other : ℕ} (h : other ≠ index)
    (inode : NfsInode) : (daemon.setInode index inode).inode other = daemon.inode other := by
  simp [Daemon.inode, setInode, List.getD_eq_getElem?_getD, List.getElem?_set_ne (Ne.symm h)]

/-- Nothing is stored behind the last inode. -/
theorem setInode_of_le {daemon : Daemon} {index : ℕ} (h : daemon.heap.length ≤ index)
    (inode : NfsInode) : daemon.setInode index inode = daemon := by
  simp [setInode, List.set_eq_of_length_le h]

@[simp]
theorem setInode_inode (daemon : Daemon) (index : ℕ) :
    daemon.setInode index (daemon.inode index) = daemon := by
  by_cases hlt : index < daemon.heap.length
  · simp [setInode, Daemon.inode, List.getD_eq_getElem?_getD, hlt]
  · exact setInode_of_le (Nat.le_of_not_lt hlt) _

/-- Any field that an update keeps is kept at every index. -/
theorem inode_setInode_proj {α : Type} (field : NfsInode → α) {daemon : Daemon} {index : ℕ}
    {inode : NfsInode} (h : field inode = field (daemon.inode index)) (other : ℕ) :
    field ((daemon.setInode index inode).inode other) = field (daemon.inode other) := by
  rcases eq_or_ne other index with rfl | hne
  · by_cases hlt : other < daemon.heap.length
    · rw [inode_setInode_self hlt, h]
    · rw [setInode_of_le (Nat.le_of_not_lt hlt)]
  · rw [inode_setInode_ne hne]

end Daemon

/-! ## Questions, faults, programs -/

/-- The places that allocate memory. -/
inductive MallocSite where
  | nfsInode
  | posixAcl
  | aclent
  | dfaclent
  | linkName
  | mknodName
  | readdirCtx
  | readdirName
  | readlinkText
  | openFh
  | readBuf
  | readdirBuf
  | writeBuf
  | entryParam
  | xattrBuf
  | devname
  | hostname
  | pathname
  | mountFh
  deriving DecidableEq, Repr

/-- `struct pmap` -/
structure Pmap where
  pmProg : UInt64
  pmVers : UInt64
  pmProt : UInt64
  pmPort : UInt64
  deriving DecidableEq, Repr

/-- What `hsi_gethostbyname` learns: an address, or the value `errno` has after a failed lookup. -/
inductive Resolution where
  | found (addr : UInt32)
  | failed (errno : ℤ)
  deriving DecidableEq, Repr

/-- What is asked while mounting: a host address, a client with credentials for a server, the
`MNT`, `UMNT` and `NULL` calls, the time, and `rpc_createerr.cf_stat` with `errno`. -/
inductive HostOp where
  | resolve (host : CString)
  | openClient (server : Pmap)
  | mnt (dirpath : CString)
  | umnt (dirpath : CString)
  | ping (server : Pmap)
  | time
  | rpcCreateerr
  deriving DecidableEq

/-- The answers to questions asked while mounting. -/
@[reducible]
def HostAns : HostOp → Type
  | .resolve _ => Resolution
  | .openClient _ => Bool
  | .mnt _ => RpcOutcome NfsFh3
  | .umnt _ => ℤ
  | .ping _ => ℤ
  | .time => ℤ
  | .rpcCreateerr => ℤ × ℤ

/-- What the daemon asks its environment. -/
inductive EnvOp where
  | call (procedure : Call)
  | malloc (site : MallocSite)
  | host (question : HostOp)
  deriving DecidableEq

/-- The answer to a question: the outcome of the call, or whether memory was returned. -/
@[reducible]
def EnvAns : EnvOp → Type
  | .call procedure => RpcOutcome procedure.Body
  | .malloc _ => Bool
  | .host question => HostAns question

/-- The assertions of the source. -/
inductive AssertSite where
  | errPtr
  | refDec
  | refCreate
  | refInit
  | forgetNode
  | readdirParent
  | rootIno
  deriving DecidableEq, Repr

/-- Why a program stops without returning. -/
inductive Fault where
  | assertFailed (site : AssertSite)
  | undefined
  | outOfFuel
  deriving DecidableEq, Repr

/-- Daemon code. -/
abbrev Prog (α : Type) := Program EnvOp EnvAns Fault Daemon α

/-- The events of a run of daemon code. -/
abbrev Trace := List (Event EnvAns)

namespace Prog

/-- `hsi_nfs3_clnt_call` -/
def clntCall (procedure : Call) : Prog (RpcOutcome procedure.Body) :=
  @Program.ask EnvOp EnvAns Fault Daemon (.call procedure)

/-- `malloc`, up to whether it returns memory. -/
def malloc (site : MallocSite) : Prog Bool :=
  @Program.ask EnvOp EnvAns Fault Daemon (.malloc site)

/-- Ask the host. -/
def host (question : HostOp) : Prog (HostAns question) :=
  @Program.ask EnvOp EnvAns Fault Daemon (.host question)

/-- `assert` -/
def assert (condition : Bool) (site : AssertSite) : Prog Unit :=
  if condition then pure () else Program.crash (.assertFailed site)

@[simp]
theorem clntCall_bind {α : Type} (procedure : Call)
    (next : RpcOutcome procedure.Body → Prog α) (daemon : Daemon) :
    (clntCall procedure >>= next).run daemon =
      .ask (.call procedure) daemon fun outcome current ↦ (next outcome).run current := rfl

@[simp]
theorem malloc_bind {α : Type} (site : MallocSite) (next : Bool → Prog α) (daemon : Daemon) :
    (malloc site >>= next).run daemon =
      .ask (.malloc site) daemon fun answer current ↦ (next answer).run current := rfl

@[simp]
theorem host_bind {α : Type} (question : HostOp) (next : HostAns question → Prog α)
    (daemon : Daemon) : (host question >>= next).run daemon =
      .ask (.host question) daemon fun answer current ↦ (next answer).run current := rfl

section Paths

variable {α : Type} {daemon : Daemon} {trace : Trace} {ending : Ending Fault Daemon α}

/-- A run that begins with a remote call. -/
theorem path_clntCall_bind {procedure : Call} {next : RpcOutcome procedure.Body → Prog α} :
    ((clntCall procedure >>= next).run daemon).Path trace ending ↔
      ∃ outcome rest, trace = ⟨.call procedure, outcome⟩ :: rest ∧
        ((next outcome).run daemon).Path rest ending := Iff.rfl

/-- A run that begins with an allocation. -/
theorem path_malloc_bind {site : MallocSite} {next : Bool → Prog α} :
    ((malloc site >>= next).run daemon).Path trace ending ↔
      ∃ answer rest, trace = ⟨.malloc site, answer⟩ :: rest ∧
        ((next answer).run daemon).Path rest ending := Iff.rfl

/-- A run that begins with a question to the host. -/
theorem path_host_bind {question : HostOp} {next : HostAns question → Prog α} :
    ((host question >>= next).run daemon).Path trace ending ↔
      ∃ answer rest, trace = ⟨.host question, answer⟩ :: rest ∧
        ((next answer).run daemon).Path rest ending := Iff.rfl

end Paths

/-- Read an inode. -/
def getInode (index : ℕ) : Prog NfsInode := do
  let daemon ← Program.get
  return daemon.inode index

/-- Change an inode. -/
def modifyInode (index : ℕ) (update : NfsInode → NfsInode) : Prog Unit :=
  Program.modify fun daemon ↦ daemon.setInode index (update (daemon.inode index))

/-- Change the superblock. -/
def modifySuper (update : HsfsSuper → HsfsSuper) : Prog Unit :=
  Program.modify fun daemon ↦ { daemon with sb := update daemon.sb }

/-- The object behind a pointer that is about to be dereferenced. -/
def deref (ptr : InodePtr) : Prog ℕ := do
  let daemon ← Program.get
  match ptr with
  | .obj index => if index ∈ daemon.freed then Program.crash .undefined else pure index
  | _ => Program.crash .undefined

@[simp]
theorem getInode_bind {α : Type} (index : ℕ) (next : NfsInode → Prog α) (daemon : Daemon) :
    (getInode index >>= next).run daemon = (next (daemon.inode index)).run daemon := rfl

@[simp]
theorem modifyInode_bind {α : Type} (index : ℕ) (update : NfsInode → NfsInode)
    (next : Unit → Prog α) (daemon : Daemon) :
    (modifyInode index update >>= next).run daemon =
      (next ()).run (daemon.setInode index (update (daemon.inode index))) := rfl

@[simp]
theorem modifySuper_bind {α : Type} (update : HsfsSuper → HsfsSuper) (next : Unit → Prog α)
    (daemon : Daemon) : (modifySuper update >>= next).run daemon =
      (next ()).run { daemon with sb := update daemon.sb } := rfl

/-- Call a `fuse_reply_*` function. -/
def reply (message : FuseReply) : Prog Unit :=
  Program.modify fun daemon ↦ { daemon with replies := daemon.replies ++ [message] }

end Prog

/-- Calls come back with `NFS3_OK`, and memory is available. -/
def Favourable : Event EnvAns → Prop
  | ⟨.call _, .fail _ _⟩ => False
  | ⟨.call _, .done (.fail _ _)⟩ => False
  | ⟨.malloc _, false⟩ => False
  | _ => True

theorem favourable_call {procedure : Call} {outcome : RpcOutcome procedure.Body}
    (h : Favourable ⟨.call procedure, outcome⟩) : ∃ body, outcome = .done (.ok body) := by
  rcases outcome with ⟨err, hne⟩ | body | ⟨status, hne⟩
  · cases h
  · exact ⟨body, rfl⟩
  · cases h

theorem favourable_malloc {site : MallocSite} {granted : Bool}
    (h : Favourable ⟨.malloc site, granted⟩) : granted = true := by
  cases granted with
  | false => cases h
  | true => rfl

section Rules

variable {relation : Daemon → Daemon → Prop} {allowed : Event EnvAns → Prop}

theorem Lib.Program.Respects.clntCall [Std.Refl relation] (procedure : Call) :
    (Prog.clntCall procedure).Respects relation :=
  @Program.Respects.ask EnvOp EnvAns Fault Daemon relation _ (.call procedure)

theorem Lib.Program.Respects.malloc [Std.Refl relation] (site : MallocSite) :
    (Prog.malloc site).Respects relation :=
  @Program.Respects.ask EnvOp EnvAns Fault Daemon relation _ (.malloc site)

theorem Lib.Program.Respects.host [Std.Refl relation] (question : HostOp) :
    (Prog.host question).Respects relation :=
  @Program.Respects.ask EnvOp EnvAns Fault Daemon relation _ (.host question)

theorem Lib.Program.Respects.assert [Std.Refl relation] (condition : Bool) (site : AssertSite) :
    (Prog.assert condition site).Respects relation :=
  .ite (.pure _) (.crash _)

theorem Lib.Program.Respects.getInode [Std.Refl relation] [IsTrans Daemon relation] (index : ℕ) :
    (Prog.getInode index).Respects relation :=
  .bind .get fun _ ↦ .pure _

theorem Lib.Program.Respects.deref [Std.Refl relation] [IsTrans Daemon relation]
    (ptr : InodePtr) : (Prog.deref ptr).Respects relation := by
  refine .bind .get fun daemon ↦ ?_
  cases ptr with
  | null => exact .crash _
  | err _ => exact .crash _
  | obj index => exact .ite (.crash _) (.pure _)

theorem Lib.Program.Emits.getInode (index : ℕ) : (Prog.getInode index).Emits allowed :=
  .bind .get fun _ ↦ .pure _

theorem Lib.Program.Emits.deref (ptr : InodePtr) : (Prog.deref ptr).Emits allowed := by
  refine .bind .get fun daemon ↦ ?_
  cases ptr with
  | null => exact .crash _
  | err _ => exact .crash _
  | obj index => exact .ite (.crash _) (.pure _)

theorem Lib.Program.Emits.clntCall {procedure : Call}
    (h : ∀ answer, allowed ⟨.call procedure, answer⟩) : (Prog.clntCall procedure).Emits allowed :=
  @Program.Emits.ask EnvOp EnvAns Fault Daemon allowed (.call procedure) h

theorem Lib.Program.Emits.malloc {site : MallocSite}
    (h : ∀ answer, allowed ⟨.malloc site, answer⟩) : (Prog.malloc site).Emits allowed :=
  @Program.Emits.ask EnvOp EnvAns Fault Daemon allowed (.malloc site) h

theorem Lib.Program.Emits.host {question : HostOp}
    (h : ∀ answer, allowed ⟨.host question, answer⟩) : (Prog.host question).Emits allowed :=
  @Program.Emits.ask EnvOp EnvAns Fault Daemon allowed (.host question) h

end Rules

end NfsFuse
