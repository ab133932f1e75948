import NfsFuse.Inode.Nfs

/-!
# Status codes and attributes of replies

The table that maps NFS status codes to error numbers, and the two conversions of a wire `fattr3`:
to the `struct nfs_fattr` that is copied into inodes, and directly to a `struct stat`.
-/

namespace NfsFuse

/-- `nfs_errtbl` without its terminating entry. -/
def nfsErrtbl : List (ℤ × ℤ) :=
  [(0, 0), (1, eperm), (2, enoent), (5, eio), (6, enxio), (13, eacces), (17, eexist), (18, exdev),
    (19, enodev), (20, enotdir), (21, eisdir), (22, einval), (27, efbig), (28, enospc),
    (30, erofs), (31, emlink), (63, enametoolong), (66, enotempty), (69, edquot), (70, estale),
    (71, eremote)]

/-- `hsi_nfs3_stat_to_errno` -/
def hsiNfs3StatToErrno (stat : ℤ) : ℤ :=
  match nfsErrtbl.find? fun entry ↦ entry.1 == stat with
  | some entry => entry.2
  | none => eio

@[simp]
theorem hsiNfs3StatToErrno_zero : hsiNfs3StatToErrno 0 = 0 := by decide

/-- Only `NFS3_OK` maps to 0. -/
theorem hsiNfs3StatToErrno_ne_zero {stat : ℤ} (h : stat ≠ 0) : hsiNfs3StatToErrno stat ≠ 0 := by
  have htable : ∀ entry ∈ nfsErrtbl, entry.1 ≠ 0 → entry.2 ≠ 0 := by decide
  unfold hsiNfs3StatToErrno
  cases hfind : nfsErrtbl.find? fun entry ↦ entry.1 == stat with
  | none => decide
  | some entry =>
    have hkey : entry.1 = stat := by simpa using List.find?_some hfind
    exact htable entry (List.mem_of_find?_eq_some hfind) (by rw [hkey]; exact h)

/-! ## To `struct nfs_fattr` -/

/-- `nfs_type2fmt`, whose entry 0 is 0. -/
def nfsType2fmt (type : UInt32) : UInt32 :=
  if type = nf3reg then sIfreg
  else if type = nf3dir then sIfdir
  else if type = nf3blk then sIfblk
  else if type = nf3chr then sIfchr
  else if type = nf3lnk then sIflnk
  else if type = nf3sock then sIfsock
  else if type = nf3fifo then sIfifo
  else 0

/-- `hsi_nfs3_time2spec` -/
def hsiNfs3Time2spec (time : Nfstime3) : Timespec := ⟨time.seconds.toNat, time.nseconds.toNat⟩

/-- The device number kept by `hsi_nfs3_fattr2fattr`, 0 when it does not survive the round trip. -/
def fattrRdev (spec : Specdata3) : UInt64 :=
  let rdev := makedev spec.major spec.minor
  if major rdev ≠ spec.major ∨ minor rdev ≠ spec.minor then 0 else rdev

/-- `hsi_nfs3_fattr2fattr` -/
def hsiNfs3Fattr2fattr (f : Fattr3) (t : NfsFattr) : NfsFattr :=
  let type := if f.type > nf3fifo then 0 else f.type
  { mode := (f.mode &&& ~~~sIfmt) ||| nfsType2fmt type
    nlink := f.nlink
    uid := f.uid
    gid := f.gid
    size := f.size
    used := f.used
    rdev := fattrRdev f.rdev
    fsidMajor := f.fsid
    fsidMinor := 0
    fileid := f.fileid
    atime := hsiNfs3Time2spec f.atime
    mtime := hsiNfs3Time2spec f.mtime
    ctime := hsiNfs3Time2spec f.ctime
    valid := t.valid ||| nfsAttrFattrV3 }

/-- `hsi_nfs3_post2fattr`, without its result, which is whether attributes are present. -/
def hsiNfs3Post2fattr (post : Option Fattr3) (t : NfsFattr) : NfsFattr :=
  match post with
  | some attributes => hsiNfs3Fattr2fattr attributes t
  | none => t

/-- The attributes of a reply, converted into a freshly initialised `struct nfs_fattr`. -/
def postFattr (post : Option Fattr3) : NfsFattr := hsiNfs3Post2fattr post nfsInitFattr

@[simp]
theorem postFattr_none : postFattr none = nfsInitFattr := rfl

theorem postFattr_valid_some (attributes : Fattr3) :
    (postFattr (some attributes)).valid &&& nfsAttrFattr ≠ 0 := by
  change (0 ||| nfsAttrFattrV3) &&& nfsAttrFattr ≠ 0
  decide

/-- Converted attributes are acceptable to `hsi_nfs_fhget` when present with a link count. -/
theorem postFattr_acquirable_iff (post : Option Fattr3) :
    (postFattr post).Acquirable ↔ ∃ attributes, post = some attributes ∧ attributes.nlink ≠ 0 := by
  cases post with
  | none =>
    have hinvalid : ¬ nfsInitFattr.Acquirable := fun h ↦ h.1 (by decide)
    simp [hinvalid]
  | some attributes =>
    constructor
    · intro h
      exact ⟨attributes, rfl, h.2⟩
    · intro h
      obtain ⟨attributes', heq, hnlink⟩ := h
      cases heq
      exact ⟨postFattr_valid_some attributes, hnlink⟩

/-! ## To `struct stat` -/

/-- `hsi_nfs3_fattr2stat`: the error and the structure afterwards. -/
def hsiNfs3Fattr2stat (attr : Fattr3) (st : Stat) : ℤ × Stat :=
  let st := { st with stIno := attr.fileid, stMode := attr.mode &&& 0o7777 }
  if attr.type = 0 ∨ attr.type > nf3fifo then (einval, st)
  else
    (0, { st with
      stMode := st.stMode ||| nfsType2fmt attr.type
      stNlink := attr.nlink.toUInt64
      stUid := attr.uid
      stGid := attr.gid
      stRdev := makedev attr.rdev.major attr.rdev.minor
      stSize := toOffT attr.size
      stBlksize := 0
      stBlocks := attr.used / 512
      stAtim := ⟨attr.atime.seconds.toNat, attr.atime.nseconds.toNat⟩
      stMtim := ⟨attr.mtime.seconds.toNat, attr.atime.nseconds.toNat⟩
      stCtim := ⟨attr.ctime.seconds.toNat, st.stCtim.tvNsec⟩ })

end NfsFuse
