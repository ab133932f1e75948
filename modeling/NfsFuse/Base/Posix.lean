import Mathlib.Tactic.Common
import Mathlib.Data.Int.Basic
import Mathlib.Algebra.Ring.Nat
import Mathlib.Algebra.Ring.Int.Defs

/-!
# C and POSIX vocabulary

Error numbers, file mode bits, device numbers and `struct stat`, as an LP64 Linux host with glibc
defines them.  Unsigned C types are fixed-width words; signed ones are integers, and a conversion
that can change a value is written out.
-/

namespace NfsFuse

/-- A C string: the bytes before its terminator. -/
abbrev CString := List UInt8

/-- The bytes of a string literal of the source. -/
def cstr (text : String) : CString := text.toList.map fun char ↦ char.toNat.toUInt8

/-- `NAME_MAX` -/
def nameMax : ℕ := 255

def eperm : ℤ := 1
def enoent : ℤ := 2
def eio : ℤ := 5
def enxio : ℤ := 6
def eagain : ℤ := 11
def enomem : ℤ := 12
def eacces : ℤ := 13
def eexist : ℤ := 17
def exdev : ℤ := 18
def enodev : ℤ := 19
def enotdir : ℤ := 20
def eisdir : ℤ := 21
def einval : ℤ := 22
def efbig : ℤ := 27
def enospc : ℤ := 28
def erofs : ℤ := 30
def emlink : ℤ := 31
def erange : ℤ := 34
def enametoolong : ℤ := 36
def enotempty : ℤ := 39
def eremote : ℤ := 66
def enotsup : ℤ := 95
def econnreset : ℤ := 104
def enotconn : ℤ := 107
def etimedout : ℤ := 110
def estale : ℤ := 116
def edquot : ℤ := 122

/-- `(off_t) size` of an unsigned 64-bit size. -/
def toOffT (size : UInt64) : ℤ := size.toInt64.toInt

/-- The conversion of a `long` to an `int`. -/
def toInt32 (value : ℤ) : ℤ := value.bmod (2 ^ 32)

/-- `INT_MIN` -/
def intMin : ℤ := -2 ^ 31

theorem toOffT_injective {size size' : UInt64} (h : toOffT size = toOffT size') :
    size = size' := by
  have hsigned : size.toInt64 = size'.toInt64 := Int64.toInt_inj.mp h
  simpa using congrArg Int64.toUInt64 hsigned

/-- `S_IFMT` -/
def sIfmt : UInt32 := 0o170000
def sIfsock : UInt32 := 0o140000
def sIflnk : UInt32 := 0o120000
def sIfreg : UInt32 := 0o100000
def sIfblk : UInt32 := 0o060000
def sIfdir : UInt32 := 0o040000
def sIfchr : UInt32 := 0o020000
def sIfifo : UInt32 := 0o010000

/-- `S_ISREG` -/
def sIsreg (mode : UInt32) : Bool := mode &&& sIfmt == sIfreg

/-- `S_ISDIR` -/
def sIsdir (mode : UInt32) : Bool := mode &&& sIfmt == sIfdir

/-- `makedev` of glibc. -/
def makedev (major minor : UInt32) : UInt64 :=
  ((major &&& 0x00000fff).toUInt64 <<< 8) ||| ((major &&& 0xfffff000).toUInt64 <<< 32) |||
    (minor &&& 0x000000ff).toUInt64 ||| ((minor &&& 0xffffff00).toUInt64 <<< 12)

/-- `major` of glibc. -/
def major (dev : UInt64) : UInt32 :=
  (((dev >>> 8) &&& (0x00000fff : UInt64)) ||| ((dev >>> 32) &&& (0xfffff000 : UInt64))).toUInt32

/-- `minor` of glibc. -/
def minor (dev : UInt64) : UInt32 :=
  ((dev &&& (0x000000ff : UInt64)) ||| ((dev >>> 12) &&& (0xffffff00 : UInt64))).toUInt32

/-- `struct timespec` -/
structure Timespec where
  tvSec : ℤ
  tvNsec : ℤ
  deriving DecidableEq, Repr, Inhabited

/-- The zero time. -/
def Timespec.zero : Timespec := ⟨0, 0⟩

/-- `struct stat`, without `st_dev`, which the FUSE library does not put into a reply -/
structure Stat where
  stIno : UInt64
  stMode : UInt32
  stNlink : UInt64
  stUid : UInt32
  stGid : UInt32
  stRdev : UInt64
  stSize : ℤ
  stBlksize : UInt32
  stBlocks : UInt64
  stAtim : Timespec
  stMtim : Timespec
  stCtim : Timespec
  deriving DecidableEq, Repr, Inhabited

/-- A `struct stat` cleared by `memset`. -/
def Stat.cleared : Stat where
  stIno := 0
  stMode := 0
  stNlink := 0
  stUid := 0
  stGid := 0
  stRdev := 0
  stSize := 0
  stBlksize := 0
  stBlocks := 0
  stAtim := .zero
  stMtim := .zero
  stCtim := .zero

theorem or_and_distrib (left right mask : UInt32) :
    (left ||| right) &&& mask = (left &&& mask) ||| (right &&& mask) := by
  apply UInt32.eq_of_toBitVec_eq
  ext bit
  simp [Bool.and_or_distrib_right]

end NfsFuse
