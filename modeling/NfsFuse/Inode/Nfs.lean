import NfsFuse.Inode.Cache
import NfsFuse.Inode.ErrPtr

/-!
# NFS inodes

The embedding of `nfs_common/hsi_nfs_inode.c` and of the handle helpers in `hsfs/hsi_nfs.h`: how a
server object, named by its file id and handle, is found in the cache or entered into it, and how
the attributes of a reply are copied into a cached inode.
-/

namespace NfsFuse

open Lib

/-- `nfs_compare_fh`: true when the handles differ. -/
def nfsCompareFh (a b : NfsFh) : Bool :=
  a.size != b.size || a.data.take a.size.toNat != b.data.take a.size.toNat

/-- `nfs_copy_fh` -/
def nfsCopyFh (source : NfsFh) : NfsFh := ⟨source.size, source.data.take source.size.toNat⟩

/-- `nfs_copy_fh3` -/
def nfsCopyFh3 (source : NfsFh3) : NfsFh :=
  ⟨UInt16.ofNat source.data.length, source.data.take source.data.length⟩

/-- `hsi_nfs3_getfh3` -/
def hsiNfs3Getfh3 (inode : NfsInode) : List UInt8 := inode.fh.data.take inode.fh.size.toNat

/-- The size field is the number of stored bytes. -/
def NfsFh.WellFormed (fh : NfsFh) : Prop := fh.data.length = fh.size.toNat

theorem nfsCopyFh3_wellFormed (source : NfsFh3) : (nfsCopyFh3 source).WellFormed := by
  have hle := source.length_le
  simp only [NfsFh.WellFormed, nfsCopyFh3, List.take_length, UInt16.toNat_ofNat']
  omega

theorem nfsCopyFh_of_wellFormed {fh : NfsFh} (h : fh.WellFormed) : nfsCopyFh fh = fh := by
  rw [nfsCopyFh, ← h, List.take_length]

theorem nfsCompareFh_eq_false_iff {a b : NfsFh} (ha : a.WellFormed) (hb : b.WellFormed) :
    nfsCompareFh a b = false ↔ a = b := by
  simp only [nfsCompareFh, Bool.or_eq_false_iff, bne_eq_false_iff_eq]
  constructor
  · rintro ⟨hsize, hdata⟩
    rw [← ha, List.take_length, ha, hsize, ← hb, List.take_length] at hdata
    cases a
    cases b
    simp_all
  · rintro rfl
    exact ⟨rfl, rfl⟩

/-- Equal handles are handles of equal length with equal bytes. -/
theorem nfsCopyFh3_inj {a b : NfsFh3} : nfsCopyFh3 a = nfsCopyFh3 b ↔ a = b := by
  constructor
  · intro h
    have hdata := congrArg NfsFh.data h
    simp only [nfsCopyFh3, List.take_length] at hdata
    cases a
    cases b
    simp_all
  · rintro rfl
    rfl

/-- The handle that is sent back is the one that was received. -/
theorem hsiNfs3Getfh3_copied {inode : NfsInode} {handle : NfsFh3}
    (h : inode.fh = nfsCopyFh3 handle) :
    hsiNfs3Getfh3 inode = handle.data := by
  have hlength := handle.length_le
  rw [hsiNfs3Getfh3, h, nfsCopyFh3, List.take_length, UInt16.toNat_ofNat',
    Nat.mod_eq_of_lt (by omega), List.take_length]

/-- `struct nfs_fattr`, up to the fields that NFSv3 leaves alone. -/
structure NfsFattr where
  valid : UInt32
  mode : UInt32
  nlink : UInt32
  uid : UInt32
  gid : UInt32
  rdev : UInt64
  size : UInt64
  used : UInt64
  fsidMajor : UInt64
  fsidMinor : UInt64
  fileid : UInt64
  atime : Timespec
  mtime : Timespec
  ctime : Timespec
  deriving DecidableEq, Repr

/-- `NFS_ATTR_FATTR` -/
def nfsAttrFattr : UInt32 := 0x7c7f

/-- `NFS_ATTR_FATTR_V3` -/
def nfsAttrFattrV3 : UInt32 := 0x7e7f

/-- `NFS_ATTR_FATTR_V4` -/
def nfsAttrFattrV4 : UInt32 := 0x27e7f

/-- `nfs_init_fattr`; a field is read only when its bit in `valid` is set. -/
def nfsInitFattr : NfsFattr where
  valid := 0
  mode := 0
  nlink := 0
  uid := 0
  gid := 0
  rdev := 0
  size := 0
  used := 0
  fsidMajor := 0
  fsidMinor := 0
  fileid := 0
  atime := .zero
  mtime := .zero
  ctime := .zero

/-- `nfs_size_to_off_t` -/
def nfsSizeToOffT (size : UInt64) : ℤ :=
  if size > 0x7ffffffffffffffe then 0x7ffffffffffffffe else toOffT size

/-- `nfs_calc_block_size`, in units of 512 bytes. -/
def nfsCalcBlockSize (tsize : UInt64) : UInt64 := (tsize + 511) >>> 9

/-- The blocks of an inode; `du.nfs2.blocks` is the upper half of the union. -/
def fattrBlocks (fattr : NfsFattr) : UInt64 :=
  if fattr.valid &&& (nfsAttrFattrV3 ||| nfsAttrFattrV4) ≠ 0 then nfsCalcBlockSize fattr.used
  else fattr.used >>> 32

/-- The assignments that copy the attributes of a reply into an inode, the same for a new inode in
`hsi_nfs_fhget` and for a cached one in `nfs_update_inode`. -/
def copyFattr (fattr : NfsFattr) (inode : NfsInode) : NfsInode :=
  { inode with
    iattr := { inode.iattr with
      mode := fattr.mode
      uid := fattr.uid
      gid := fattr.gid
      size := nfsSizeToOffT fattr.size
      atime := fattr.atime
      mtime := fattr.mtime
      ctime := fattr.ctime }
    iNlink := fattr.nlink
    iBlocks := fattrBlocks fattr }

/-- `nfs_update_inode`: the inode afterwards and the status. -/
def nfsUpdateInode (fattr : NfsFattr) (inode : NfsInode) : NfsInode × ℤ :=
  if inode.fileid ≠ fattr.fileid then (inode, -estale)
  else if inode.iattr.mode &&& sIfmt ≠ fattr.mode &&& sIfmt then (inode, -estale)
  else (copyFattr fattr inode, 0)

/-- `nfs_refresh_inode`: the inode afterwards and the status. -/
def nfsRefresh (fattr : NfsFattr) (inode : NfsInode) : NfsInode × ℤ :=
  if fattr.valid &&& nfsAttrFattr = 0 then (inode, 0) else nfsUpdateInode fattr inode

/-- `nfs_refresh_inode` -/
def nfsRefreshInode (index : ℕ) (fattr : NfsFattr) : Prog ℤ := do
  let inode ← Prog.getInode index
  Prog.modifyInode index fun inode ↦ (nfsRefresh fattr inode).1
  return (nfsRefresh fattr inode).2

/-- `nfs_find_actor` -/
def nfsFindActor (fh : NfsFh) (fattr : NfsFattr) (inode : NfsInode) : Bool :=
  if inode.fileid ≠ fattr.fileid then false
  else if nfsCompareFh inode.fh fh then false
  else if inode.ino = 0 ∨ inode.flags &&& 2 ≠ 0 then false
  else true

/-- `set_nfs_fileid` -/
def setNfsFileid (fileid : UInt64) (inode : NfsInode) : NfsInode :=
  { inode with fileid := fileid, realIno := fileid }

/-- `nfs_init_locked` -/
def nfsInitLocked (fh : NfsFh) (fattr : NfsFattr) (inode : NfsInode) : NfsInode × ℤ :=
  ({ setNfsFileid fattr.fileid inode with fh := nfsCopyFh fh }, 0)

/-- What `hsi_nfs_fhget` does to the inode it got: a new one is filled in and unlocked, a cached
one is refreshed and the status ignored. -/
def fhgetUpdate (fattr : NfsFattr) (inode : NfsInode) : NfsInode :=
  if inode.iState &&& iNew ≠ 0 then
    { copyFattr fattr (setNfsFileid fattr.fileid inode) with iState := inode.iState &&& ~~~iNew }
  else
    (nfsRefresh fattr inode).1

@[simp]
theorem nfsRefresh_ino (fattr : NfsFattr) (inode : NfsInode) :
    (nfsRefresh fattr inode).1.ino = inode.ino := by
  unfold nfsRefresh nfsUpdateInode
  split_ifs <;> rfl

@[simp]
theorem fhgetUpdate_ino (fattr : NfsFattr) (inode : NfsInode) :
    (fhgetUpdate fattr inode).ino = inode.ino := by
  unfold fhgetUpdate
  split_ifs
  · rfl
  · exact nfsRefresh_ino fattr inode

/-- `hsi_nfs_fhget` -/
def hsiNfsFhget (plat : Platform) (fh : NfsFh) (fattr : NfsFattr) : Prog InodePtr := do
  let inode ← errPtr plat (-enoent)
  if fattr.valid &&& nfsAttrFattr = 0 then return inode
  else if fattr.nlink = 0 then return inode
  else
    match ← hsfsIget5Locked fattr.fileid (nfsFindActor fh fattr) (nfsInitLocked fh fattr) with
    | .null => errPtr plat (-enomem)
    | ptr => do
        let index ← Prog.deref ptr
        Prog.modifyInode index (fhgetUpdate fattr)
        return ptr

/-! ## What `hsi_nfs_fhget` can do -/

/-- The attributes pass the checks of `hsi_nfs_fhget`. -/
def NfsFattr.Acquirable (fattr : NfsFattr) : Prop :=
  fattr.valid &&& nfsAttrFattr ≠ 0 ∧ fattr.nlink ≠ 0

instance (fattr : NfsFattr) : Decidable fattr.Acquirable := by
  unfold NfsFattr.Acquirable
  infer_instance

/-- The cached inode for a server object. -/
def Daemon.findFile (daemon : Daemon) (fh : NfsFh) (fattr : NfsFattr) : Option ℕ :=
  daemon.findFh fattr.fileid (nfsFindActor fh fattr)

/-- The inode entered for a new object. -/
def Daemon.newFile (daemon : Daemon) (id : UInt64) (fh : NfsFh) (fattr : NfsFattr) : NfsInode :=
  fhgetUpdate fattr
    { (nfsInitLocked fh fattr daemon.freshInode).1 with ino := id, iState := iNew }

/-- A new inode is filled in and no longer marked as new. -/
theorem Daemon.newFile_eq (daemon : Daemon) (id : UInt64) (fh : NfsFh) (fattr : NfsFattr) :
    daemon.newFile id fh fattr =
      { copyFattr fattr (nfsInitLocked fh fattr daemon.freshInode).1 with
        ino := id, iState := 0 } := by
  have hnew : iNew &&& iNew ≠ 0 := by decide
  have hclear : iNew &&& ~~~iNew = 0 := by decide
  simp only [Daemon.newFile, fhgetUpdate, if_pos hnew, hclear]
  rfl

/-- The complete runs of `hsi_nfs_fhget`. -/
inductive FhgetPath (daemon : Daemon) (fh : NfsFh) (fattr : NfsFattr) :
    Trace → Ending Fault Daemon InodePtr → Prop where
  | rejected (hattr : ¬ fattr.Acquirable) :
      FhgetPath daemon fh fattr [] (.done (.err (-enoent)) daemon)
  | hit {index : ℕ} (hattr : fattr.Acquirable) (hfind : daemon.findFile fh fattr = some index) :
      FhgetPath daemon fh fattr [] (.done (.obj index)
        (daemon.setInode index (fhgetUpdate fattr (daemon.inode index))))
  | noMemory (hattr : fattr.Acquirable) (hfind : daemon.findFile fh fattr = none) :
      FhgetPath daemon fh fattr [⟨.malloc .nfsInode, false⟩] (.done (.err (-enomem)) daemon)
  | entered {id : UInt64} (hattr : fattr.Acquirable) (hfind : daemon.findFile fh fattr = none)
      (hid : daemon.freeId = some id) :
      FhgetPath daemon fh fattr [⟨.malloc .nfsInode, true⟩] (.done (.obj daemon.heap.length)
        (daemon.enter fattr.fileid id (daemon.newFile id fh fattr)))
  | spin {daemon' : Daemon} (hattr : fattr.Acquirable)
      (hfind : daemon.findFile fh fattr = none) (hid : daemon.freeId = none)
      (hstate : daemon' = (daemon.push (nfsInitLocked fh fattr daemon.freshInode).1).setCurrId
        (nextId^[2 ^ 64] daemon.sb.currId)) :
      FhgetPath daemon fh fattr [⟨.malloc .nfsInode, true⟩] (.crashed .outOfFuel daemon')

theorem hsiNfsFhget_run_rejected (plat : Platform) (daemon : Daemon) {fh : NfsFh}
    {fattr : NfsFattr} (h : ¬ fattr.Acquirable) :
    (hsiNfsFhget plat fh fattr).run daemon = .ret (.err (-enoent)) daemon := by
  rw [hsiNfsFhget, Program.bind_run_of_ret (errPtr_neg_enoent plat daemon)]
  by_cases hvalid : fattr.valid &&& nfsAttrFattr = 0
  · simp only [if_pos hvalid, Program.pure_run]
  · have hnlink : fattr.nlink = 0 := by
      by_contra hne
      exact h ⟨hvalid, hne⟩
    simp only [if_neg hvalid, if_pos hnlink, Program.pure_run]

/-- The part of `hsi_nfs_fhget` behind its checks. -/
theorem hsiNfsFhget_run_acquirable (plat : Platform) {daemon : Daemon} (h : daemon.Live)
    {fh : NfsFh} {fattr : NfsFattr} (hattr : fattr.Acquirable) :
    (hsiNfsFhget plat fh fattr).run daemon =
      match daemon.findFile fh fattr with
      | some index => .ret (.obj index)
          (daemon.setInode index (fhgetUpdate fattr (daemon.inode index)))
      | none => (getNewInode fattr.fileid (nfsInitLocked fh fattr) >>= fun ptr ↦
          match ptr with
          | .null => errPtr plat (-enomem)
          | ptr => do
              let index ← Prog.deref ptr
              Prog.modifyInode index (fhgetUpdate fattr)
              return ptr).run daemon := by
  rw [hsiNfsFhget, Program.bind_run_of_ret (errPtr_neg_enoent plat daemon)]
  simp only [if_neg hattr.1, if_neg hattr.2]
  rw [Program.bind_run, hsfsIget5Locked_run h, Daemon.findFile]
  cases hfind : daemon.findFh fattr.fileid (nfsFindActor fh fattr) with
  | none => rfl
  | some index =>
    have hlive := (h.findFh_lt hfind).2
    simp only [Resumption.bind_ret]
    rw [Program.bind_run_of_ret (deref_obj_run hlive)]
    rfl

/-- `nfs_init_locked` never fails, so the allocated inode is numbered and hashed. -/
theorem newInodeEnding_nfsInitLocked (daemon : Daemon) (key : UInt64) (fh : NfsFh)
    (fattr : NfsFattr) :
    newInodeEnding daemon key (nfsInitLocked fh fattr) =
      match daemon.freeId with
      | some id => .done (.obj daemon.heap.length) (daemon.enter key id
          { (nfsInitLocked fh fattr daemon.freshInode).1 with ino := id, iState := iNew })
      | none =>
        .crashed .outOfFuel ((daemon.push (nfsInitLocked fh fattr daemon.freshInode).1).setCurrId
          (nextId^[2 ^ 64] daemon.sb.currId)) := by
  have hret : ¬ (nfsInitLocked fh fattr daemon.freshInode).2 ≠ 0 := by simp [nfsInitLocked]
  unfold newInodeEnding
  refine (if_neg hret).trans ?_
  cases daemon.freeId with
  | none => rfl
  | some id => rfl

/-- The runs of `hsi_nfs_fhget` are exactly the listed ones. -/
theorem hsiNfsFhget_path_iff (plat : Platform) {daemon : Daemon} (h : daemon.Live) (fh : NfsFh)
    (fattr : NfsFattr) (trace : Trace) (ending : Ending Fault Daemon InodePtr) :
    ((hsiNfsFhget plat fh fattr).run daemon).Path trace ending ↔
      FhgetPath daemon fh fattr trace ending := by
  by_cases hattr : fattr.Acquirable
  swap
  · rw [hsiNfsFhget_run_rejected plat daemon hattr, Resumption.path_ret]
    constructor
    · rintro ⟨rfl, rfl⟩
      exact .rejected hattr
    · intro hpath
      cases hpath <;> first | exact ⟨rfl, rfl⟩ | exact absurd ‹fattr.Acquirable› hattr
  rw [hsiNfsFhget_run_acquirable plat h hattr]
  cases hfind : daemon.findFile fh fattr with
  | some index =>
    simp only [Resumption.path_ret]
    constructor
    · rintro ⟨rfl, rfl⟩
      exact .hit hattr hfind
    · intro hpath
      cases hpath with
      | rejected hnot => exact absurd hattr hnot
      | hit _ hfind' =>
        rw [hfind] at hfind'
        cases hfind'
        exact ⟨rfl, rfl⟩
      | noMemory _ hfind' => simp [hfind] at hfind'
      | entered _ hfind' _ => simp [hfind] at hfind'
      | spin _ hfind' _ _ => simp [hfind] at hfind'
  | none =>
    have hlength : daemon.heap.length ∉ daemon.freed := h.length_notMem_freed
    simp only [getNewInode_bind_path h, newInodeEnding_nfsInitLocked, errPtr_neg_enomem,
      Resumption.path_ret]
    cases hid : daemon.freeId with
    | none =>
      simp only [Ending.toResumption, Resumption.bind_fault, Resumption.path_fault]
      constructor
      · rintro (⟨_, rfl, rfl, rfl⟩ | ⟨_, rfl, rfl, rfl⟩)
        · exact .noMemory hattr hfind
        · exact .spin hattr hfind hid rfl
      · intro hpath
        cases hpath with
        | rejected hnot => exact absurd hattr hnot
        | hit _ hfind' => simp [hfind] at hfind'
        | noMemory _ _ => exact Or.inl ⟨[], rfl, rfl, rfl⟩
        | entered _ _ hid' => simp [hid] at hid'
        | spin _ _ _ hstate => exact Or.inr ⟨[], rfl, rfl, by rw [hstate]⟩
    | some id =>
      have hderef : (Prog.deref (.obj daemon.heap.length)).run (daemon.enter fattr.fileid id
          { (nfsInitLocked fh fattr daemon.freshInode).1 with ino := id, iState := iNew }) =
          .ret daemon.heap.length _ := deref_obj_run hlength
      simp only [Ending.toResumption, Resumption.bind_ret, Program.bind_run_of_ret hderef,
        Prog.modifyInode_bind, Program.pure_run, Resumption.path_ret, Daemon.enter_inode_self,
        Daemon.enter_setInode]
      constructor
      · rintro (⟨_, rfl, rfl, rfl⟩ | ⟨_, rfl, rfl, rfl⟩)
        · exact .noMemory hattr hfind
        · exact .entered hattr hfind hid
      · intro hpath
        cases hpath with
        | rejected hnot => exact absurd hattr hnot
        | hit _ hfind' => simp [hfind] at hfind'
        | noMemory _ _ => exact Or.inl ⟨[], rfl, rfl, rfl⟩
        | entered _ _ hid' =>
          rw [hid] at hid'
          cases hid'
          exact Or.inr ⟨[], rfl, rfl, rfl⟩
        | spin _ _ hid' _ => simp [hid] at hid'

/-- `IS_ERR` recognises nothing that `hsi_nfs_fhget` returns, error pointers included. -/
theorem FhgetPath.isErr_eq_false (plat : Platform) {daemon daemon' : Daemon} {fh : NfsFh}
    {fattr : NfsFattr} {trace : Trace} {ptr : InodePtr}
    (hpath : FhgetPath daemon fh fattr trace (.done ptr daemon')) : isErr plat ptr = false := by
  cases hpath with
  | rejected _ => exact isErr_err plat (by decide) (by decide)
  | hit _ _ => exact isErr_obj plat _
  | noMemory _ _ => exact isErr_err plat (by decide) (by decide)
  | entered _ _ _ => exact isErr_obj plat _

end NfsFuse
