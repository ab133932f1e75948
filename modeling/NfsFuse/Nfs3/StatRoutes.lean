import NfsFuse.Nfs3.Coherence

/-!
# Two routes from the wire to a `struct stat`

`hsx_fuse_getattr` answers with the structure that `hsi_nfs3_fattr2stat` fills in; every other
handler answers with `hsfs_generic_fillattr` of an inode that `hsi_nfs_fhget` or
`nfs_refresh_inode` has updated.  The two structures agree exactly on attributes that avoid all the
differences between the conversions, which `StatRoutesAgree` lists.
-/

namespace NfsFuse

open Lib

/-- The structure that `hsx_fuse_getattr` replies. -/
def getattrStat (attr : Fattr3) : Stat := (hsiNfs3Fattr2stat attr .cleared).2

/-- Equality of two structures except for `st_dev` and `st_blksize`. -/
def Stat.SameAttributes (st st' : Stat) : Prop :=
  st.stIno = st'.stIno ∧ st.stMode = st'.stMode ∧ st.stNlink = st'.stNlink ∧
    st.stUid = st'.stUid ∧ st.stGid = st'.stGid ∧ st.stRdev = st'.stRdev ∧
    st.stSize = st'.stSize ∧ st.stBlocks = st'.stBlocks ∧ st.stAtim = st'.stAtim ∧
    st.stMtim = st'.stMtim ∧ st.stCtim = st'.stCtim

instance (st st' : Stat) : Decidable (st.SameAttributes st') := by
  unfold Stat.SameAttributes
  infer_instance

/-- The attributes on which the two routes agree: no mode bits above the type, no device number, a
size that needs no clamping, whole blocks, one nanosecond value for the access and the modification
time, and a change time without nanoseconds. -/
def StatRoutesAgree (attr : Fattr3) : Prop :=
  attr.mode &&& 0xffff0000 = 0 ∧ (attr.rdev.major = 0 ∧ attr.rdev.minor = 0) ∧
    attr.size.toNat ≤ 2 ^ 63 - 2 ∧ attr.used.toNat % 512 = 0 ∧
    attr.mtime.nseconds = attr.atime.nseconds ∧ attr.ctime.nseconds = 0

/-! ## Field by field -/

theorem and_or_distrib (x a b : UInt32) : x &&& (a ||| b) = (x &&& a) ||| (x &&& b) := by
  apply UInt32.eq_of_toBitVec_eq
  simp only [UInt32.toBitVec_and, UInt32.toBitVec_or, BitVec.and_or_distrib_left]

/-- The type bits of a file type leave the upper half of the mode alone. -/
theorem nfsType2fmt_and_upper (type : UInt32) : nfsType2fmt type &&& 0xffff0000 = 0 := by
  unfold nfsType2fmt
  split_ifs <;> decide

theorem mode_routes_iff (mode type : UInt32) :
    (mode &&& 0o7777) ||| nfsType2fmt type = (mode &&& ~~~sIfmt) ||| nfsType2fmt type ↔
      mode &&& 0xffff0000 = 0 := by
  have hmask : ~~~sIfmt = (0xffff0000 : UInt32) ||| 0o7777 := by decide
  rw [hmask, and_or_distrib]
  constructor
  · intro h
    -- Only the upper half of the mode survives a look at the upper half.
    have hmove (mask : UInt32) : 0xffff0000 &&& (mode &&& mask) =
        mode &&& (0xffff0000 &&& mask) := by
      rw [← UInt32.and_assoc, UInt32.and_comm 0xffff0000 mode, UInt32.and_assoc]
    have hlower : (0xffff0000 : UInt32) &&& 0o7777 = 0 := by decide
    have hself : (0xffff0000 : UInt32) &&& 0xffff0000 = 0xffff0000 := by decide
    have htype : 0xffff0000 &&& nfsType2fmt type = 0 := by
      rw [UInt32.and_comm, nfsType2fmt_and_upper]
    have hupper := congrArg (0xffff0000 &&& ·) h
    simp only [and_or_distrib, hmove, hlower, hself, htype, UInt32.and_zero, UInt32.or_zero]
      at hupper
    exact hupper.symm
  · intro h
    rw [h, UInt32.zero_or]

theorem toUInt64_shiftLeft_eq_zero_iff (x : UInt32) {shift : UInt64} (h : shift.toNat ≤ 32) :
    x.toUInt64 <<< shift = 0 ↔ x = 0 := by
  have hx := x.toNat_lt
  have hfits : x.toNat * 2 ^ shift.toNat < 2 ^ 64 := calc
    x.toNat * 2 ^ shift.toNat ≤ x.toNat * 2 ^ 32 := by gcongr; decide
    _ < 2 ^ 64 := by omega
  have hmod : shift.toNat % 64 = shift.toNat := Nat.mod_eq_of_lt (by omega)
  rw [← UInt64.toNat_inj, ← UInt32.toNat_inj, UInt64.toNat_shiftLeft, hmod, Nat.shiftLeft_eq,
    UInt32.toNat_toUInt64, Nat.mod_eq_of_lt hfits]
  simp

/-- A word is zero when two masks that cover it find nothing. -/
theorem and_masks_eq_zero_iff (x : UInt32) {low high : UInt32} (h : low ||| high = 0xffffffff) :
    (x &&& low = 0 ∧ x &&& high = 0) ↔ x = 0 := by
  have hall : (0xffffffff : UInt32) = -1 := by decide
  rw [← UInt32.or_eq_zero_iff, ← and_or_distrib, h, hall, UInt32.and_neg_one]

theorem makedev_eq_zero_iff (major minor : UInt32) :
    makedev major minor = 0 ↔ major = 0 ∧ minor = 0 := by
  have hzero (x : UInt32) : x.toUInt64 = 0 ↔ x = 0 := by
    rw [← UInt64.toNat_inj, ← UInt32.toNat_inj, UInt32.toNat_toUInt64]
    simp
  rw [makedev, UInt64.or_eq_zero_iff, UInt64.or_eq_zero_iff, UInt64.or_eq_zero_iff,
    toUInt64_shiftLeft_eq_zero_iff _ (by decide), toUInt64_shiftLeft_eq_zero_iff _ (by decide),
    toUInt64_shiftLeft_eq_zero_iff _ (by decide), hzero, and_masks_eq_zero_iff major (by decide),
    and_assoc, and_masks_eq_zero_iff minor (by decide)]

theorem size_routes_iff (size : UInt64) :
    toOffT size = nfsSizeToOffT size ↔ size.toNat ≤ 2 ^ 63 - 2 := by
  have hlimit : (0x7ffffffffffffffe : UInt64).toNat = 2 ^ 63 - 2 := rfl
  unfold nfsSizeToOffT
  split_ifs with hgt
  · rw [gt_iff_lt, UInt64.lt_iff_toNat_lt, hlimit] at hgt
    constructor
    · intro h
      have hsize : size = 0x7ffffffffffffffe := toOffT_injective (by rw [h]; decide)
      rw [hsize, hlimit]
    · intro h
      omega
  · rw [gt_iff_lt, UInt64.lt_iff_toNat_lt, hlimit] at hgt
    exact iff_of_true rfl (by omega)

theorem blocks_routes_iff (used : UInt64) :
    used / 512 = nfsCalcBlockSize used ↔ used.toNat % 512 = 0 := by
  have hlt := used.toNat_lt
  have hround : (511 : UInt64).toNat = 511 := rfl
  have hblock : (512 : UInt64).toNat = 512 := rfl
  have hshift : (9 : UInt64).toNat % 64 = 9 := rfl
  rw [nfsCalcBlockSize, ← UInt64.toNat_inj, UInt64.toNat_div, UInt64.toNat_shiftRight,
    UInt64.toNat_add, hround, hblock, hshift, Nat.shiftRight_eq_div_pow]
  omega

/-! ## The two structures -/

/-- The file type of the wire as mode bits. -/
theorem getattrStat_eq {attr : Fattr3} (htype : 1 ≤ attr.type ∧ attr.type ≤ nf3fifo) :
    getattrStat attr =
      { stIno := attr.fileid
        stMode := (attr.mode &&& 0o7777) ||| nfsType2fmt attr.type
        stNlink := attr.nlink.toUInt64
        stUid := attr.uid
        stGid := attr.gid
        stRdev := makedev attr.rdev.major attr.rdev.minor
        stSize := toOffT attr.size
        stBlksize := 0
        stBlocks := attr.used / 512
        stAtim := ⟨attr.atime.seconds.toNat, attr.atime.nseconds.toNat⟩
        stMtim := ⟨attr.mtime.seconds.toNat, attr.atime.nseconds.toNat⟩
        stCtim := ⟨attr.ctime.seconds.toNat, 0⟩ } := by
  have hvalid : ¬ (attr.type = 0 ∨ attr.type > nf3fifo) := by
    rw [not_or, gt_iff_lt, UInt32.not_lt]
    refine ⟨?_, htype.2⟩
    intro hzero
    rw [hzero] at htype
    exact absurd htype.1 (by decide)
  rw [getattrStat, hsiNfs3Fattr2stat, if_neg hvalid]
  rfl

/-- An inode into which converted attributes have just been copied. -/
theorem sameAttributes_copyFattr_iff {attr : Fattr3}
    (htype : 1 ≤ attr.type ∧ attr.type ≤ nf3fifo) {inode : NfsInode}
    (hreal : inode.realIno = attr.fileid) (hrdev : inode.iRdev = 0) :
    (getattrStat attr).SameAttributes
      (hsfsGenericFillattr (copyFattr (postFattr (some attr)) inode)) ↔ StatRoutesAgree attr := by
  have hknown : ¬ attr.type > nf3fifo := UInt32.not_lt.mpr htype.2
  have hmode : (postFattr (some attr)).mode = (attr.mode &&& ~~~sIfmt) ||| nfsType2fmt
      attr.type := by
    simp only [postFattr, hsiNfs3Post2fattr, hsiNfs3Fattr2fattr, if_neg hknown]
  have hblocks : fattrBlocks (postFattr (some attr)) = nfsCalcBlockSize attr.used := by
    have hv3 : (postFattr (some attr)).valid &&& (nfsAttrFattrV3 ||| nfsAttrFattrV4) ≠ 0 := by
      change (0 ||| nfsAttrFattrV3) &&& (nfsAttrFattrV3 ||| nfsAttrFattrV4) ≠ 0
      decide
    rw [fattrBlocks, if_pos hv3]
    rfl
  rw [getattrStat_eq htype, StatRoutesAgree, ← mode_routes_iff attr.mode attr.type,
    ← makedev_eq_zero_iff, ← size_routes_iff, ← blocks_routes_iff]
  simp only [Stat.SameAttributes, hsfsGenericFillattr, copyFattr, hmode, hblocks, hreal, hrdev]
  have hmtime : (attr.atime.nseconds.toNat : ℤ) = attr.mtime.nseconds.toNat ↔
      attr.mtime.nseconds = attr.atime.nseconds := by
    rw [Int.natCast_inj, UInt32.toNat_inj, eq_comm]
  have hctime : (0 : ℤ) = attr.ctime.nseconds.toNat ↔ attr.ctime.nseconds = 0 := by
    rw [eq_comm, ← UInt32.toNat_inj]
    simp
  simp only [postFattr, hsiNfs3Post2fattr, hsiNfs3Fattr2fattr, hsiNfs3Time2spec,
    Timespec.mk.injEq, hmtime, hctime, true_and]

/-- A converted mode carries the type of the wire. -/
theorem postFattr_mode_type {attr : Fattr3} (htype : 1 ≤ attr.type ∧ attr.type ≤ nf3fifo) :
    (postFattr (some attr)).mode &&& sIfmt = nfsType2fmt attr.type := by
  have hknown : ¬ attr.type > nf3fifo := UInt32.not_lt.mpr htype.2
  have hclear : sIfmt &&& ~~~sIfmt = 0 := by decide
  have hself : sIfmt &&& nfsType2fmt attr.type = nfsType2fmt attr.type := by
    unfold nfsType2fmt
    split_ifs <;> decide
  simp only [postFattr, hsiNfs3Post2fattr, hsiNfs3Fattr2fattr, if_neg hknown]
  rw [UInt32.and_comm, and_or_distrib, hself, UInt32.and_comm attr.mode, ← UInt32.and_assoc, hclear,
    UInt32.zero_and, UInt32.zero_or]

/-- **The two routes to a `struct stat` agree exactly on `StatRoutesAgree` attributes**, for a new
inode and for a cached inode of the same type; a cached inode must also have the file id of the
attributes, since others are refused. -/
theorem stat_routes_agree_iff (plat : Platform) (daemon : Daemon) (hcoherent : Coherent daemon)
    (attr : Fattr3) (htype : 1 ≤ attr.type ∧ attr.type ≤ nf3fifo) :
    (∀ handle trace index daemon',
      daemon.findFile (nfsCopyFh3 handle) (postFattr (some attr)) = none →
      ((hsiNfsFhget plat (nfsCopyFh3 handle) (postFattr (some attr))).run daemon).Path trace
        (.done (.obj index) daemon') →
      ((getattrStat attr).SameAttributes (hsfsGenericFillattr (daemon'.inode index)) ↔
        StatRoutesAgree attr)) ∧
    (∀ index < daemon.heap.length,
      (daemon.inode index).iattr.mode &&& sIfmt = nfsType2fmt attr.type →
      ∀ trace status daemon',
      ((nfsRefreshInode index (postFattr (some attr))).run daemon).Path trace
        (.done status daemon') →
      ((getattrStat attr).SameAttributes (hsfsGenericFillattr (daemon'.inode index)) ↔
        (daemon.inode index).fileid = attr.fileid ∧ StatRoutesAgree attr)) := by
  constructor
  · intro handle trace index daemon' hfind hpath
    rw [hsiNfsFhget_path_iff plat hcoherent.live] at hpath
    cases hpath with
    | hit _ hfind' => simp [hfind] at hfind'
    | entered _ _ _ =>
      rw [Daemon.enter_inode_self, Daemon.newFile_eq]
      exact @sameAttributes_copyFattr_iff attr htype
        (nfsInitLocked (nfsCopyFh3 handle) (postFattr (some attr)) daemon.freshInode).1 rfl rfl
  · intro index hlt hmode trace status daemon' hpath
    cases hpath.2
    have hok := hcoherent.inodeOk index hlt
    have hvalid := postFattr_valid_some attr
    have hsameType : ¬ (daemon.inode index).iattr.mode &&& sIfmt ≠
        (postFattr (some attr)).mode &&& sIfmt := by
      rw [not_not, hmode, postFattr_mode_type htype]
    simp only [Daemon.inode_setInode_self hlt, nfsRefresh, if_neg hvalid, nfsUpdateInode]
    by_cases hfileid : (daemon.inode index).fileid = attr.fileid
    · have hsame : ¬ (daemon.inode index).fileid ≠ (postFattr (some attr)).fileid :=
        not_not.mpr hfileid
      rw [if_neg hsame, if_neg hsameType,
        sameAttributes_copyFattr_iff htype (hok.realIno_eq.trans hfileid) hok.iRdev_eq]
      simp [hfileid]
    · have hother : (daemon.inode index).fileid ≠ (postFattr (some attr)).fileid := hfileid
      rw [if_pos hother]
      refine iff_of_false ?_ fun h ↦ hfileid h.1
      intro hstat
      rw [getattrStat_eq htype] at hstat
      exact hfileid (hok.realIno_eq.symm.trans hstat.1.symm)

/-- Attributes on which the routes agree: a regular file of one block. -/
def plainAttr : Fattr3 where
  type := nf3reg
  mode := 0o644
  nlink := 1
  uid := 0
  gid := 0
  size := 512
  used := 512
  rdev := ⟨0, 0⟩
  fsid := 1
  fileid := 7
  atime := ⟨1, 0⟩
  mtime := ⟨1, 0⟩
  ctime := ⟨1, 0⟩

/-- The cache after an unknown file with the given attributes has been looked up. -/
def lookedUp (attr : Fattr3) : Daemon :=
  (Daemon.emptyCache .zeroed).enter attr.fileid 1
    ((Daemon.emptyCache .zeroed).newFile 1 (nfsCopyFh3 ⟨[7], by decide⟩) (postFattr (some attr)))

theorem lookedUp_path {attr : Fattr3} (hnlink : attr.nlink ≠ 0) :
    ((hsiNfsFhget linuxHost (nfsCopyFh3 ⟨[7], by decide⟩) (postFattr (some attr))).run
      (.emptyCache .zeroed)).Path [⟨.malloc .nfsInode, true⟩] (.done (.obj 0) (lookedUp attr)) := by
  rw [hsiNfsFhget_path_iff linuxHost (coherent_emptyCache .zeroed).live]
  exact .entered ((postFattr_acquirable_iff _).mpr ⟨attr, rfl, hnlink⟩) rfl (by decide)

/-- The routes agree on a file that avoids all differences. -/
theorem stat_routes_agree_plainAttr : StatRoutesAgree plainAttr ∧
    (getattrStat plainAttr).SameAttributes
      (hsfsGenericFillattr ((lookedUp plainAttr).inode 0)) := by
  have hcond : StatRoutesAgree plainAttr := by
    unfold StatRoutesAgree
    decide
  have hroutes := (stat_routes_agree_iff linuxHost (.emptyCache .zeroed)
    (coherent_emptyCache .zeroed) plainAttr (by decide)).1 ⟨[7], by decide⟩ _ 0 (lookedUp plainAttr)
    rfl (lookedUp_path (by decide))
  exact ⟨hcond, hroutes.mpr hcond⟩

/-- A change time with nanoseconds is lost on the route of `hsx_fuse_getattr`. -/
theorem stat_routes_differ_on_ctime :
    ((hsiNfsFhget linuxHost (nfsCopyFh3 ⟨[7], by decide⟩)
        (postFattr (some { plainAttr with ctime := ⟨1, 5⟩ }))).run (.emptyCache .zeroed)).Path
      [⟨.malloc .nfsInode, true⟩] (.done (.obj 0) (lookedUp { plainAttr with ctime := ⟨1, 5⟩ })) ∧
    ¬ (getattrStat { plainAttr with ctime := ⟨1, 5⟩ }).SameAttributes
      (hsfsGenericFillattr ((lookedUp { plainAttr with ctime := ⟨1, 5⟩ }).inode 0)) :=
  ⟨lookedUp_path (by decide), by decide⟩

end NfsFuse
