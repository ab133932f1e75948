import Mathlib.Algebra.Order.Floor.Div
import NfsFuse.Fuse.Acknowledged
import NfsFuse.Fuse.LookupCounts
import NfsFuse.Mount.Sizes

/-!
# File system statistics

`hsi_super2statvfs` converts the byte counts of an `FSSTAT` reply to blocks.  It rounds up by adding
the block size less one in 64 bits and shifting, so a count near the top of the range, such as the
one for no limit, wraps around to 0 blocks.
-/

namespace NfsFuse

open Lib

/-! ## Rounding up -/

/-- Rounding up in a word is right exactly if the sum fits. -/
theorem wrapped_div_eq_ceilDiv_iff {bytes bits width : ℕ} (hbytes : bytes < 2 ^ width)
    (hbits : bits ≤ width) :
    (bytes + (2 ^ bits - 1)) % 2 ^ width / 2 ^ bits = bytes ⌈/⌉ 2 ^ bits ↔
      bytes + (2 ^ bits - 1) < 2 ^ width := by
  have hpos : 0 < 2 ^ bits := Nat.two_pow_pos bits
  have hpow : 2 ^ bits ≤ 2 ^ width := Nat.pow_le_pow_right (by decide) hbits
  rw [Nat.ceilDiv_eq_add_pred_div, Nat.add_sub_assoc hpos]
  constructor
  · intro heq
    by_contra hwrap
    -- the sum exceeds the word by less than a block, so nothing is left of it
    have hrest : (bytes + (2 ^ bits - 1)) % 2 ^ width < 2 ^ bits := by
      rw [Nat.mod_eq_sub_mod (not_lt.mp hwrap), Nat.mod_eq_of_lt (by omega)]
      omega
    rw [Nat.div_eq_of_lt hrest] at heq
    exact absurd heq.symm (Nat.div_pos (hpow.trans (not_lt.mp hwrap)) hpos).ne'
  · intro hfits
    rw [Nat.mod_eq_of_lt hfits]

/-- The blocks for a number of bytes. -/
def blocksFor (bits : UInt8) (bytes : UInt64) : UInt64 :=
  (bytes + ((1 <<< bits.toUInt64) - 1)) >>> bits.toUInt64

theorem toNat_blocksFor {bits : UInt8} (hbits : bits.toNat < 64) (bytes : UInt64) :
    (blocksFor bits bytes).toNat =
      (bytes.toNat + (2 ^ bits.toNat - 1)) % 2 ^ 64 / 2 ^ bits.toNat := by
  have hpow : 2 ^ bits.toNat < 2 ^ 64 := Nat.pow_lt_pow_right (by decide) hbits
  have hone : (1 <<< bits.toUInt64 : UInt64).toNat = 2 ^ bits.toNat := by
    rw [UInt64.toNat_shiftLeft, UInt8.toNat_toUInt64, Nat.mod_eq_of_lt hbits, UInt64.toNat_one,
      Nat.one_shiftLeft, Nat.mod_eq_of_lt hpow]
  have hle : (1 : UInt64) ≤ 1 <<< bits.toUInt64 := by
    rw [UInt64.le_iff_toNat_le, hone]
    exact Nat.one_le_two_pow
  rw [blocksFor, UInt64.toNat_shiftRight, UInt8.toNat_toUInt64, Nat.mod_eq_of_lt hbits,
    UInt64.toNat_add, UInt64.toNat_sub_of_le _ _ hle, hone, UInt64.toNat_one,
      Nat.shiftRight_eq_div_pow]

/-- The block size that `hsi_validate_mount_data` sets, and its bits. -/
theorem block_hsiValidateMountData (data : MountData) :
    (hsiValidateMountData data).super.bsizeBits ≠ 0 ∧
      (hsiValidateMountData data).super.bsizeBits.toNat < 64 ∧
      (hsiValidateMountData data).super.bsize.toNat =
        2 ^ (hsiValidateMountData data).super.bsizeBits.toNat := by
  have hleast := (clampSize_bounds data.super.bsize.toUInt64).1
  have hmost := (clampSize_bounds data.super.bsize.toUInt64).2
  obtain ⟨-, hbits⟩ := hsfsBlockSize_spec data.super.bsize.toUInt64 true
  have hsize := toUInt32_hsfsBlockSize data.super.bsize.toUInt64 true
  change (hsiValidateMountData data).super.bsize.toNat = _ at hsize
  have hsuper : (hsiValidateMountData data).super.bsizeBits =
      (hsfsBlockSize data.super.bsize.toUInt64 true).2.getD data.super.bsizeBits := rfl
  rw [hbits, if_pos rfl, Option.getD_some] at hsuper
  generalize (clampSize data.super.bsize.toUInt64).toNat = clamped at *
  have hlog : 10 ≤ Nat.log 2 clamped := Nat.le_log_of_pow_le (by decide) hleast
  have hlog' : Nat.log 2 clamped < 21 := Nat.log_lt_of_lt_pow (by omega) (by omega)
  have hnat : (Nat.log 2 clamped).toUInt8.toNat = Nat.log 2 clamped :=
    UInt8.toNat_ofNat_of_lt' (by change _ < 256; omega)
  rw [hsuper, hsize, hnat]
  refine ⟨fun hzero ↦ ?_, by omega, rfl⟩
  rw [hzero] at hnat
  exact absurd hnat (by change ¬ 0 = _; omega)

/-! ## The reply -/

/-- The block counts of a reply are those of the server rounded up, and in the same order. -/
structure BlocksExact (res : Fsstat3resok) (bsize : UInt32) (stbuf : Statvfs) : Prop where
  blocks : stbuf.fBlocks.toNat = res.tbytes.toNat ⌈/⌉ bsize.toNat
  bfree : stbuf.fBfree.toNat = res.fbytes.toNat ⌈/⌉ bsize.toNat
  bavail : stbuf.fBavail.toNat = res.abytes.toNat ⌈/⌉ bsize.toNat
  ordered : res.abytes ≤ res.fbytes → res.fbytes ≤ res.tbytes →
    stbuf.fBavail ≤ stbuf.fBfree ∧ stbuf.fBfree ≤ stbuf.fBlocks

/-- The byte counts can be rounded up in 64 bits. -/
structure BytesFit (res : Fsstat3resok) (bsize : UInt32) : Prop where
  tbytes : res.tbytes.toNat + (bsize.toNat - 1) < 2 ^ 64
  fbytes : res.fbytes.toNat + (bsize.toNat - 1) < 2 ^ 64
  abytes : res.abytes.toNat + (bsize.toNat - 1) < 2 ^ 64

theorem blocksFor_eq_iff {bits : UInt8} {bsize : UInt32} (hbits : bits.toNat < 64)
    (hbsize : bsize.toNat = 2 ^ bits.toNat) (bytes : UInt64) :
    (blocksFor bits bytes).toNat = bytes.toNat ⌈/⌉ bsize.toNat ↔
      bytes.toNat + (bsize.toNat - 1) < 2 ^ 64 := by
  rw [toNat_blocksFor hbits, hbsize]
  exact wrapped_div_eq_ceilDiv_iff bytes.toNat_lt hbits.le

theorem ceilDiv_mono {bytes bytes' size : ℕ} (h : bytes ≤ bytes') :
    bytes ⌈/⌉ size ≤ bytes' ⌈/⌉ size := by
  rw [Nat.ceilDiv_eq_add_pred_div, Nat.ceilDiv_eq_add_pred_div]
  exact Nat.div_le_div_right (by omega)

/-- The superblock with the counts of a reply. -/
def HsfsSuper.counted (sb : HsfsSuper) (res : Fsstat3resok) : HsfsSuper :=
  { sb with
    tbytes := res.tbytes
    fbytes := res.fbytes
    abytes := res.abytes
    tfiles := res.tfiles
    ffiles := res.ffiles
    afiles := res.afiles }

theorem hsiNfs3Statfs_ok {α : Type} {root : ℕ} {res : Fsstat3resok} {next : ℤ → Prog α}
    {daemon : Daemon} {ending : Ending Fault Daemon α}
    (hpath : ((hsiNfs3Statfs root >>= next).run daemon).Path
      [⟨.call (.fsstat (hsiNfs3Getfh3 (daemon.inode root))), .done (.ok res)⟩] ending) :
    ((next 0).run { daemon with sb := daemon.sb.counted res }).Path [] ending := by
  obtain ⟨outcome, rest, heq, hrest⟩ := hpath
  cases heq
  exact hrest

theorem hsiSuper2statvfs_counted {sb : HsfsSuper} (hbits : sb.bsizeBits ≠ 0) (hbsize : sb.bsize ≠ 0)
    (hnamlen : sb.namlen ≠ 0) (res : Fsstat3resok) :
    ∃ stbuf, hsiSuper2statvfs (sb.counted res) = some stbuf ∧
      stbuf.fBlocks = blocksFor sb.bsizeBits res.tbytes ∧
      stbuf.fBfree = blocksFor sb.bsizeBits res.fbytes ∧
      stbuf.fBavail = blocksFor sb.bsizeBits res.abytes := by
  unfold hsiSuper2statvfs
  rw [if_neg (show (sb.counted res).bsizeBits ≠ 0 from hbits),
    if_neg (show (sb.counted res).bsize ≠ 0 from hbsize),
    if_neg (show (sb.counted res).namlen ≠ 0 from hnamlen)]
  exact ⟨_, rfl, rfl, rfl, rfl⟩

/-- The block counts are exact exactly if none of the sums wraps around. -/
theorem statfs_blocks_iff (daemon : Daemon) (root : ℕ) (data : MountData) (res : Fsstat3resok)
    (ending : Ending Fault Daemon Unit) (hcoherent : Coherent daemon)
    (hroot : daemon.sb.root = .obj root)
    (hbsize : daemon.sb.bsize = (hsiValidateMountData data).super.bsize)
    (hbits : daemon.sb.bsizeBits = (hsiValidateMountData data).super.bsizeBits)
    (hnamlen : daemon.sb.namlen ≠ 0)
    (hpath : (hsxFuseStatfs.run daemon).Path
      [⟨.call (.fsstat (hsiNfs3Getfh3 (daemon.inode root))), .done (.ok res)⟩] ending) :
    RepliedWith (fun message ↦ ∃ stbuf, message = .statfs stbuf ∧
      BlocksExact res daemon.sb.bsize stbuf) daemon ending ↔ BytesFit res daemon.sb.bsize := by
  obtain ⟨hne, hlt, hpow⟩ := block_hsiValidateMountData data
  rw [← hbits] at hne hlt hpow
  rw [← hbsize] at hpow
  have hsize : daemon.sb.bsize ≠ 0 := by
    intro hzero
    rw [hzero] at hpow
    exact absurd hpow.symm (Nat.two_pow_pos _).ne'
  have hlive : root ∉ daemon.freed := by simp [hcoherent.freed_nil]
  rw [hsxFuseStatfs, Program.get_bind, hroot,
    Program.bind_run_of_ret (deref_obj_run hlive)] at hpath
  have hreply := hsiNfs3Statfs_ok hpath
  obtain ⟨stbuf, hstbuf, hblocks, hbfree, hbavail⟩ := hsiSuper2statvfs_counted hne hsize hnamlen res
  rw [if_neg (not_not.mpr rfl), Program.get_bind] at hreply
  dsimp only at hreply
  rw [hstbuf] at hreply
  have hreplies : ({ daemon with sb := daemon.sb.counted res } : Daemon).replies = daemon.replies :=
    rfl
  rw [repliedWith_reply_iff hreplies hreply]
  have htbytes := blocksFor_eq_iff hlt hpow res.tbytes
  have hfbytes := blocksFor_eq_iff hlt hpow res.fbytes
  have habytes := blocksFor_eq_iff hlt hpow res.abytes
  rw [← hblocks] at htbytes
  rw [← hbfree] at hfbytes
  rw [← hbavail] at habytes
  constructor
  · rintro ⟨stbuf', hsame, hexact⟩
    cases hsame
    exact ⟨htbytes.mp hexact.blocks, hfbytes.mp hexact.bfree, habytes.mp hexact.bavail⟩
  · intro hfit
    have htotal := htbytes.mpr hfit.tbytes
    have hfree := hfbytes.mpr hfit.fbytes
    have havail := habytes.mpr hfit.abytes
    refine ⟨stbuf, rfl, htotal, hfree, havail, fun hle hle' ↦ ?_⟩
    rw [UInt64.le_iff_toNat_le, UInt64.le_iff_toNat_le, htotal, hfree, havail]
    exact ⟨ceilDiv_mono (UInt64.le_iff_toNat_le.mp hle),
      ceilDiv_mono (UInt64.le_iff_toNat_le.mp hle')⟩

/-- A mount whose block size is the least one. -/
def statfsCache : Daemon :=
  { mountedCache with sb := { mountedCache.sb with bsize := 1024, bsizeBits := 10, namlen := 255 } }

/-- Mount data that lead to this block size. -/
def smallBlocks : MountData :=
  { zeroedData with super := { zeroedData.super with bsize := 1024 } }

/-- A reply with these byte counts. -/
def byteCounts (tbytes fbytes abytes : UInt64) : Fsstat3resok := ⟨tbytes, fbytes, abytes, 0, 0, 0⟩

theorem statfsCache_path (res : Fsstat3resok) : ∃ stbuf,
    hsiSuper2statvfs (statfsCache.sb.counted res) = some stbuf ∧
    (hsxFuseStatfs.run statfsCache).Path [⟨.call (.fsstat [0]), .done (.ok res)⟩]
      (.done () { statfsCache with
        sb := statfsCache.sb.counted res
        replies := [.statfs stbuf] }) :=
  ⟨_, rfl, _, _, rfl, rfl, rfl⟩

/-- Counts in the middle of the range. -/
theorem statfs_blocks_small : ∃ ending,
    (hsxFuseStatfs.run statfsCache).Path
      [⟨.call (.fsstat [0]), .done (.ok (byteCounts 5000 3000 1))⟩] ending ∧
    RepliedWith (fun message ↦ ∃ stbuf, message = .statfs stbuf ∧
      BlocksExact (byteCounts 5000 3000 1) 1024 stbuf) statfsCache ending := by
  obtain ⟨stbuf, -, hpath⟩ := statfsCache_path (byteCounts 5000 3000 1)
  have hcoherent : Coherent statfsCache := mounted_mountedCache.coherent.congr rfl rfl rfl rfl rfl
  exact ⟨_, hpath, (statfs_blocks_iff statfsCache 0 smallBlocks _ _ hcoherent rfl
    (by decide) (by decide)
    (by decide) hpath).mpr ⟨by decide, by decide, by decide⟩⟩

/-- A file system without a limit has 0 blocks, fewer than it has free. -/
theorem unlimited_blocks_wrap : ∃ stbuf daemon',
    (hsxFuseStatfs.run statfsCache).Path
      [⟨.call (.fsstat [0]), .done (.ok (byteCounts 0xffffffffffffffff 3000 1))⟩]
      (.done () daemon') ∧
    daemon'.replies = [.statfs stbuf] ∧ stbuf.fBlocks = 0 ∧ stbuf.fBfree = 3 ∧
    ¬ BlocksExact (byteCounts 0xffffffffffffffff 3000 1) statfsCache.sb.bsize stbuf := by
  obtain ⟨stbuf, hstbuf, hpath⟩ := statfsCache_path (byteCounts 0xffffffffffffffff 3000 1)
  have hblocks : stbuf.fBlocks = 0 := by
    cases hstbuf
    decide
  have hbfree : stbuf.fBfree = 3 := by
    cases hstbuf
    decide
  refine ⟨stbuf, _, hpath, rfl, hblocks, hbfree, fun hexact ↦ ?_⟩
  have hordered := (hexact.ordered (by decide) (by decide)).2
  rw [hblocks, hbfree] at hordered
  exact absurd hordered (by decide)

end NfsFuse
