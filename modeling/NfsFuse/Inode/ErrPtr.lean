import NfsFuse.Inode.Daemon

/-!
# Error pointers

`ERR_PTR` encodes an error number as an address near the static object `bad_hsfs_inode`, whereas
`IS_ERR` looks at the top of the address space.  With `bad_hsfs_inode` in the lower half the two
never meet: `IS_ERR` is false both on every allocated inode and on every error pointer.
-/

namespace NfsFuse

open Lib

/-- `MAX_ERRNO` -/
def maxErrno : UInt64 := 184

/-- The address held by an inode pointer. -/
def Platform.addr (plat : Platform) : InodePtr → UInt64
  | .null => 0
  | .obj index => plat.inodeAddr index
  | .err error => plat.badInode - UInt64.ofInt error

/-- `ERR_PTR` -/
def errPtr (plat : Platform) (error : ℤ) : Prog InodePtr := do
  Prog.assert (plat.addr (.err error) < plat.badInode + maxErrno) .errPtr
  return .err error

/-- `IS_ERR` -/
def isErr (plat : Platform) (ptr : InodePtr) : Bool := 0 - maxErrno ≤ plat.addr ptr

/-- `PTR_ERR` -/
def ptrErr (plat : Platform) (ptr : InodePtr) : ℤ :=
  (plat.addr ptr - plat.badInode).toInt64.toInt

variable (plat : Platform)

theorem Platform.eight_le_badInode : 8 ≤ plat.badInode.toNat := by
  have hpos := plat.badInode_pos
  have haligned := plat.badInode_aligned
  omega

/-- The errors the source encodes lie within eight bytes below and the object's size above. -/
theorem Platform.addr_err_toNat {error : ℤ} (hlow : -184 ≤ error) (hhigh : error ≤ 8) :
    ((plat.addr (.err error)).toNat : ℤ) = plat.badInode.toNat - error := by
  have height := plat.eight_le_badInode
  have hlower := plat.badInode_lower
  have hword : ((UInt64.ofInt error).toNat : ℤ) = error % 2 ^ 64 := by
    rw [UInt64.ofInt, UInt64.toNat_ofNat']
    omega
  have hsub : (plat.addr (.err error)).toNat =
      (2 ^ 64 - (UInt64.ofInt error).toNat + plat.badInode.toNat) % 2 ^ 64 :=
    UInt64.toNat_sub _ _
  have hlt := (UInt64.ofInt error).toNat_lt
  omega

/-- `IS_ERR` is a comparison with the last `MAX_ERRNO` addresses. -/
theorem isErr_iff (ptr : InodePtr) : isErr plat ptr = true ↔
    2 ^ 64 - 184 ≤ (plat.addr ptr).toNat := by
  rw [isErr, decide_eq_true_eq, UInt64.le_iff_toNat_le]
  rfl

/-- **`IS_ERR` misses error pointers.**  No error pointer the source builds is recognised. -/
theorem isErr_err {error : ℤ} (hlow : -184 ≤ error) (hhigh : error ≤ 8) :
    isErr plat (.err error) = false := by
  rw [← Bool.not_eq_true, isErr_iff]
  have haddr := plat.addr_err_toNat hlow hhigh
  have hlower := plat.badInode_lower
  omega

/-- `IS_ERR` is false on every allocated inode. -/
@[simp]
theorem isErr_obj (index : ℕ) : isErr plat (.obj index) = false := by
  rw [← Bool.not_eq_true, isErr_iff]
  have hfits := plat.inodeAddr_fits index
  change ¬ 2 ^ 64 - 184 ≤ (plat.inodeAddr index).toNat
  rw [sizeofHsfsInode] at hfits
  omega

@[simp]
theorem isErr_null : isErr plat .null = false := by
  rw [← Bool.not_eq_true, isErr_iff]
  change ¬ 2 ^ 64 - 184 ≤ 0
  omega

/-- The assertion in `ERR_PTR` holds for the errors the source encodes. -/
theorem errPtr_run {error : ℤ} (hlow : -184 < error) (hhigh : error ≤ 8) (daemon : Daemon) :
    (errPtr plat error).run daemon = .ret (.err error) daemon := by
  have haddr := plat.addr_err_toNat hlow.le hhigh
  have hlower := plat.badInode_lower
  have hend : (plat.badInode + maxErrno).toNat = plat.badInode.toNat + 184 := by
    rw [UInt64.toNat_add]
    change (plat.badInode.toNat + 184) % 2 ^ 64 = _
    omega
  have hassert : plat.addr (.err error) < plat.badInode + maxErrno := by
    rw [UInt64.lt_iff_toNat_lt, hend]
    omega
  simp [errPtr, Prog.assert, hassert]

@[simp]
theorem errPtr_neg_enoent (daemon : Daemon) :
    (errPtr plat (-enoent)).run daemon = .ret (.err (-enoent)) daemon :=
  errPtr_run plat (by decide) (by decide) daemon

@[simp]
theorem errPtr_enoent (daemon : Daemon) :
    (errPtr plat enoent).run daemon = .ret (.err enoent) daemon :=
  errPtr_run plat (by decide) (by decide) daemon

@[simp]
theorem errPtr_neg_enomem (daemon : Daemon) :
    (errPtr plat (-enomem)).run daemon = .ret (.err (-enomem)) daemon :=
  errPtr_run plat (by decide) (by decide) daemon

end NfsFuse
