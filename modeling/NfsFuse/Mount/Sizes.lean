import Mathlib.Data.Nat.Bitwise
import Mathlib.Data.Nat.Log
import NfsFuse.Mount.Transport

/-!
# Block sizes and transfer sizes

`hsfs_block_bits` rounds down to a power of two, by a search from bit 31 downwards that a power of
two skips when the number of bits is not asked for.  `1 << 31` is a negative `int`, but only its low
32 bits are kept.  `hsfs_block_size` first brings its argument into the range of transfer sizes.
`hsi_validate_mount_data` and `hsi_fsinfo_to_super` apply them to the sizes of a mount.
-/

namespace NfsFuse

/-- The largest power of two that is not above a positive number. -/
def floorPow (number : ℕ) : ℕ := 2 ^ Nat.log 2 number

theorem floorPow_le {number : ℕ} (h : number ≠ 0) : floorPow number ≤ number :=
  Nat.pow_log_le_self 2 h

theorem pow_le_floorPow {number exponent : ℕ} (h : 2 ^ exponent ≤ number) :
    2 ^ exponent ≤ floorPow number :=
  Nat.pow_le_pow_right (by decide) (Nat.le_log_of_pow_le (by decide) h)

theorem floorPow_pow (exponent : ℕ) : floorPow (2 ^ exponent) = 2 ^ exponent := by
  rw [floorPow, Nat.log_pow (by decide)]

theorem floorPow_mono {number number' : ℕ} (h : number ≤ number') :
    floorPow number ≤ floorPow number' :=
  Nat.pow_le_pow_right (by decide) (Nat.log_mono_right h)

theorem toNat_intBit {nrbits : ℕ} (h : nrbits < 31) : (intBit nrbits).toNat = 2 ^ nrbits := by
  have hlt : nrbits < 2 ^ 64 := by omega
  have hsmall : 2 ^ nrbits < 2 ^ 64 := Nat.pow_lt_pow_right (by decide) (by omega)
  rw [intBit, if_neg h.ne, UInt64.toNat_shiftLeft, Nat.toUInt64_eq, UInt64.toNat_ofNat_of_lt' hlt,
    Nat.mod_eq_of_lt (by omega : nrbits < 64), UInt64.toNat_one, Nat.one_shiftLeft,
    Nat.mod_eq_of_lt hsmall]

/-- The bits of `1 << nrbits` below bit 32, which are all that a 32-bit value can have. -/
theorem testBit_intBit {nrbits bit : ℕ} (hnrbits : nrbits ≤ 31) (hbit : bit < 32) :
    (intBit nrbits).toNat.testBit bit = decide (nrbits = bit) := by
  rcases Nat.lt_or_eq_of_le hnrbits with hlt | rfl
  · rw [toNat_intBit hlt, Nat.testBit_two_pow]
  · have hmask : (intBit 31).toNat = 2 ^ 31 * (2 ^ 33 - 1) := by decide
    rw [hmask, Nat.testBit_two_pow_mul, Nat.testBit_two_pow_sub_one]
    by_cases h : 31 = bit
    · subst h
      rfl
    · have hlow : ¬ bit ≥ 31 := by omega
      simp [h, hlow]

/-- The test of the search, when all higher bits are known to be clear. -/
theorem and_intBit_eq_zero_iff {bsize : UInt64} {nrbits : ℕ} (hnrbits : nrbits ≤ 31)
    (hlt : bsize.toNat < 2 ^ (nrbits + 1)) :
    bsize &&& intBit nrbits = 0 ↔ bsize.toNat < 2 ^ nrbits := by
  have hand : (bsize &&& intBit nrbits).toNat = bsize.toNat &&& 2 ^ nrbits := by
    rw [UInt64.toNat_and]
    refine Nat.eq_of_testBit_eq fun bit ↦ ?_
    rw [Nat.testBit_and, Nat.testBit_and, Nat.testBit_two_pow]
    by_cases hbit : bit < 32
    · rw [testBit_intBit hnrbits hbit]
    · have hpow : 2 ^ (nrbits + 1) ≤ 2 ^ bit := Nat.pow_le_pow_right (by decide) (by omega)
      rw [Nat.testBit_lt_two_pow (hlt.trans_le hpow), Bool.false_and, Bool.false_and]
  rw [← UInt64.toNat_inj, hand, Nat.and_two_pow]
  constructor
  · intro hzero
    by_contra hle
    rw [Nat.testBit_of_two_pow_le_and_two_pow_add_one_gt (not_lt.mp hle) hlt] at hzero
    simp at hzero
  · intro hsmall
    rw [Nat.testBit_lt_two_pow hsmall, Bool.toNat_false, Nat.zero_mul, UInt64.toNat_zero]

/-- The search finds the highest bit. -/
theorem highestBit_eq_log {bsize : UInt64} (hpos : bsize ≠ 0) {nrbits : ℕ} (hnrbits : nrbits ≤ 31)
    (hlt : bsize.toNat < 2 ^ (nrbits + 1)) : highestBit bsize nrbits = Nat.log 2 bsize.toNat := by
  have hne : bsize.toNat ≠ 0 := fun h ↦ hpos (UInt64.toNat_inj.mp h)
  induction nrbits with
  | zero => exact (Nat.log_of_lt (by simpa using hlt)).symm
  | succ nrbits ih =>
    rw [highestBit]
    split_ifs with hbit
    · rw [ne_eq, and_intBit_eq_zero_iff hnrbits hlt, not_lt] at hbit
      exact ((Nat.log_eq_iff (.inl (Nat.succ_ne_zero _))).mpr ⟨hbit, hlt⟩).symm
    · rw [not_not, and_intBit_eq_zero_iff hnrbits hlt] at hbit
      exact ih (by omega) hbit

theorem log_lt_of_lt {number : ℕ} (hpos : number ≠ 0) (hlt : number < 2 ^ 32) :
    Nat.log 2 number ≤ 31 :=
  Nat.lt_succ_iff.mp (Nat.log_lt_of_lt_pow hpos hlt)

theorem toUInt32_intBit {nrbits : ℕ} (h : nrbits ≤ 31) :
    (intBit nrbits).toUInt32.toNat = 2 ^ nrbits := by
  rw [UInt64.toNat_toUInt32]
  refine Nat.eq_of_testBit_eq fun bit ↦ ?_
  rw [Nat.testBit_mod_two_pow, Nat.testBit_two_pow]
  by_cases hbit : bit < 32
  · rw [testBit_intBit h hbit, decide_eq_true hbit, Bool.true_and]
  · rw [decide_eq_false hbit, Bool.false_and, decide_eq_false (by omega)]

/-- The two paths of `hsfs_block_bits`; the one without a search is for powers of two. -/
theorem hsfsBlockBits_fst {bsize : UInt64} (hpos : bsize ≠ 0) (hlt : bsize.toNat < 2 ^ 32)
    (bits : Bool) :
    (hsfsBlockBits bsize bits).1 = intBit (Nat.log 2 bsize.toNat) ∨
      ((hsfsBlockBits bsize bits).1 = bsize ∧ bsize.toNat = floorPow bsize.toNat) := by
  unfold hsfsBlockBits
  by_cases hsearch : bsize &&& (bsize - 1) ≠ 0 ∨ bits = true
  · rw [if_pos hsearch]
    exact .inl (congrArg intBit (highestBit_eq_log hpos le_rfl hlt))
  · rw [if_neg hsearch]
    obtain ⟨hmask, -⟩ := not_or.mp hsearch
    have hne : bsize.toNat ≠ 0 := fun h ↦ hpos (UInt64.toNat_inj.mp h)
    have hone : (1 : UInt64) ≤ bsize := by
      rw [UInt64.le_iff_toNat_le, UInt64.toNat_one]
      omega
    have hand : bsize.toNat &&& (bsize.toNat - 1) = 0 := by
      have hzero := congrArg UInt64.toNat (not_not.mp hmask)
      rwa [UInt64.toNat_and, UInt64.toNat_sub_of_le _ _ hone, UInt64.toNat_one, UInt64.toNat_zero]
        at hzero
    obtain ⟨exponent, hpow⟩ := (Nat.and_sub_one_eq_zero_iff_isPowerOfTwo hne).mp hand
    exact .inr ⟨rfl, by rw [hpow, floorPow_pow]⟩

/-- In 32 bits the result is rounded down. -/
theorem toUInt32_hsfsBlockBits {bsize : UInt64} (hpos : bsize ≠ 0) (hlt : bsize.toNat < 2 ^ 32)
    (bits : Bool) : (hsfsBlockBits bsize bits).1.toUInt32.toNat = floorPow bsize.toNat := by
  have hne : bsize.toNat ≠ 0 := fun h ↦ hpos (UInt64.toNat_inj.mp h)
  rcases hsfsBlockBits_fst hpos hlt bits with hsearch | ⟨hsame, hpow⟩
  · rw [hsearch, toUInt32_intBit (log_lt_of_lt hne hlt), floorPow]
  · rw [hsame, UInt64.toNat_toUInt32, Nat.mod_eq_of_lt hlt]
    exact hpow

/-- Below bit 31 nothing is cut off. -/
theorem toNat_hsfsBlockBits {bsize : UInt64} (hpos : bsize ≠ 0) (hlt : bsize.toNat < 2 ^ 31)
    (bits : Bool) : (hsfsBlockBits bsize bits).1.toNat = floorPow bsize.toNat := by
  have hne : bsize.toNat ≠ 0 := fun h ↦ hpos (UInt64.toNat_inj.mp h)
  rcases hsfsBlockBits_fst hpos (hlt.trans (by decide)) bits with hsearch | ⟨hsame, hpow⟩
  · rw [hsearch, toNat_intBit (Nat.log_lt_of_lt_pow hne hlt), floorPow]
  · rw [hsame]
    exact hpow

/-- The bits that are stored are those of the result. -/
theorem hsfsBlockBits_snd {bsize : UInt64} (hpos : bsize ≠ 0) (hlt : bsize.toNat < 2 ^ 32)
    (bits : Bool) : (hsfsBlockBits bsize bits).2 =
      if bits then some (Nat.log 2 bsize.toNat).toUInt8 else none := by
  unfold hsfsBlockBits
  split_ifs with hsearch hbits hbits
  · rw [highestBit_eq_log hpos le_rfl hlt]
  · rfl
  · exact absurd (.inr hbits) hsearch
  · rfl

/-- What `hsfs_block_size` passes on. -/
def clampSize (bsize : UInt64) : UInt64 :=
  if bsize < 1024 then 4096 else if bsize ≥ 1048576 then 1048576 else bsize

theorem hsfsBlockSize_eq (bsize : UInt64) (bits : Bool) :
    hsfsBlockSize bsize bits = hsfsBlockBits (clampSize bsize) bits := by
  unfold hsfsBlockSize clampSize
  split_ifs <;> rfl

theorem clampSize_bounds (bsize : UInt64) :
    1024 ≤ (clampSize bsize).toNat ∧ (clampSize bsize).toNat ≤ 1048576 := by
  unfold clampSize
  split_ifs with hsmall hlarge
  · decide
  · decide
  · rw [UInt64.lt_iff_toNat_lt] at hsmall
    rw [ge_iff_le, UInt64.le_iff_toNat_le] at hlarge
    exact ⟨not_lt.mp hsmall, (not_le.mp hlarge).le⟩

theorem clampSize_of_le {bsize : UInt64} (h : 1024 ≤ bsize) :
    (clampSize bsize).toNat = min bsize.toNat 1048576 := by
  have hle : 1024 ≤ bsize.toNat := UInt64.le_iff_toNat_le.mp h
  unfold clampSize
  split_ifs with hsmall hlarge
  · exact absurd (UInt64.lt_iff_toNat_lt.mp hsmall) (not_lt.mpr hle)
  · exact (min_eq_right (UInt64.le_iff_toNat_le.mp hlarge)).symm
  · rw [ge_iff_le, UInt64.le_iff_toNat_le, not_le] at hlarge
    exact (min_eq_left hlarge.le).symm

/-- `hsfs_block_size` -/
theorem hsfsBlockSize_spec (bsize : UInt64) (bits : Bool) :
    (hsfsBlockSize bsize bits).1.toNat = floorPow (clampSize bsize).toNat ∧
      (hsfsBlockSize bsize bits).2 =
        if bits then some (Nat.log 2 (clampSize bsize).toNat).toUInt8 else none := by
  obtain ⟨hleast, hmost⟩ := clampSize_bounds bsize
  have hpos : clampSize bsize ≠ 0 := by
    intro hzero
    rw [hzero] at hleast
    exact absurd hleast (by decide)
  rw [hsfsBlockSize_eq]
  exact ⟨toNat_hsfsBlockBits hpos (by omega) bits, hsfsBlockBits_snd hpos (by omega) bits⟩

/-- The result is in the range, which starts and ends with a power of two. -/
theorem floorPow_clampSize_bounds (bsize : UInt64) :
    1024 ≤ floorPow (clampSize bsize).toNat ∧ floorPow (clampSize bsize).toNat ≤ 1048576 := by
  obtain ⟨hleast, hmost⟩ := clampSize_bounds bsize
  exact ⟨@pow_le_floorPow _ 10 hleast, (floorPow_le (by omega)).trans hmost⟩

/-- Rounding of block sizes. -/
theorem block_size_rounding :
    (∀ (bsize : UInt32) (bits : Bool), 0 < bsize → ∃ exponent,
      (hsfsBlockBits bsize.toUInt64 bits).1.toUInt32.toNat = 2 ^ exponent ∧
      2 ^ exponent ≤ bsize.toNat ∧ (∀ other, 2 ^ other ≤ bsize.toNat → 2 ^ other ≤ 2 ^ exponent) ∧
      (hsfsBlockBits bsize.toUInt64 bits).2 = if bits then some exponent.toUInt8 else none) ∧
    (∀ (bsize : UInt64) (bits : Bool), ∃ exponent,
      (hsfsBlockSize bsize bits).1.toNat = 2 ^ exponent ∧
      1024 ≤ 2 ^ exponent ∧ 2 ^ exponent ≤ 1048576 ∧
      (hsfsBlockSize bsize bits).2 = (if bits then some exponent.toUInt8 else none) ∧
      (1024 ≤ bsize → 2 ^ exponent ≤ bsize.toNat)) ∧
    ∀ (bsize bsize' : UInt64) (bits bits' : Bool), 1024 ≤ bsize → bsize ≤ bsize' →
      (hsfsBlockSize bsize bits).1 ≤ (hsfsBlockSize bsize' bits').1 := by
  refine ⟨fun bsize bits hpos ↦ ?_, fun bsize bits ↦ ?_,
    fun bsize bsize' bits bits' hleast hle ↦ ?_⟩
  · have hnat : bsize.toUInt64.toNat = bsize.toNat := UInt32.toNat_toUInt64 bsize
    have hne : bsize.toNat ≠ 0 := (UInt32.lt_iff_toNat_lt.mp hpos).ne'
    have hne' : bsize.toUInt64 ≠ 0 := fun h ↦ hne (hnat ▸ congrArg UInt64.toNat h)
    have hlt : bsize.toUInt64.toNat < 2 ^ 32 := hnat ▸ bsize.toNat_lt
    have hsize := toUInt32_hsfsBlockBits hne' hlt bits
    have hbits := hsfsBlockBits_snd hne' hlt bits
    rw [hnat] at hsize hbits
    exact ⟨_, hsize, floorPow_le hne, fun _ ↦ pow_le_floorPow, hbits⟩
  · obtain ⟨hsize, hbits⟩ := hsfsBlockSize_spec bsize bits
    obtain ⟨hleast, hmost⟩ := floorPow_clampSize_bounds bsize
    refine ⟨_, hsize, hleast, hmost, hbits, fun h ↦ ?_⟩
    have hclamp := clampSize_of_le h
    have hfloor : floorPow (clampSize bsize).toNat ≤ (clampSize bsize).toNat :=
      floorPow_le (by have := clampSize_bounds bsize; omega)
    exact hfloor.trans (hclamp.trans_le (min_le_left _ _))
  · rw [UInt64.le_iff_toNat_le, (hsfsBlockSize_spec bsize bits).1,
      (hsfsBlockSize_spec bsize' bits').1,
      clampSize_of_le hleast, clampSize_of_le (UInt64.le_trans hleast hle)]
    exact floorPow_mono (min_le_min_right _ (UInt64.le_iff_toNat_le.mp hle))

/-- At bit 31 both paths give the same 32 bits. -/
theorem block_size_rounding_bit31 :
    (∃ exponent, (hsfsBlockBits (0xc0000000 : UInt32).toUInt64 true).1.toUInt32.toNat =
      2 ^ exponent ∧
      2 ^ exponent ≤ (0xc0000000 : UInt32).toNat) ∧
    (hsfsBlockSize 1024 false).1 ≤ (hsfsBlockSize 5000 true).1 := by
  obtain ⟨exponent, hsize, hle, -⟩ := block_size_rounding.1 0xc0000000 true (by decide)
  exact ⟨⟨exponent, hsize, hle⟩,
    block_size_rounding.2.2 1024 5000 false true (by decide) (by decide)⟩

/-! ## Transfer sizes -/

/-- The number that a text starts with. -/
def writtenNumber (text : CString) : ℕ :=
  (text.takeWhile isDigit).foldl (fun total c ↦ total * 10 + (c.toNat - 48)) 0

/-- The number that the options give for a key, which is that of the last item with the key. -/
def givenNumber (key : NumberOption) (options : List MountOption) : Option ℕ :=
  (options.filterMap fun option ↦ match option with
    | .number option value => if option = key then some (writtenNumber value) else none
    | _ => none).getLast?

/-- The transfer size of the transport that the options choose. -/
def standardSize (options : List MountOption) : UInt32 :=
  if ((transports options).getLast?.map TransportOption.isTcp).getD true then 65536 else 8800

/-- A size keeps to the maximum of the server, to that of the client, and to what the options
give. -/
structure SizeRespected (max : UInt32) (given : Option ℕ) (size : UInt32) : Prop where
  pos : 0 < size
  le_max : size.toNat ≤ min max.toNat 1048576
  le_given : ∀ number, given = some number → 1024 ≤ number → size.toNat ≤ number

/-- The maximum of the server is not below the least size, and what the options give is not below
the standard size, or else not below the maximum rounded down. -/
structure SizeAdmissible (max : UInt32) (given : Option ℕ) (standard : UInt32) : Prop where
  least : 1024 ≤ max
  given : ∀ number, given = some number → 1024 ≤ number →
    (standard ≤ max → standard.toNat ≤ number) ∧ (max < standard → floorPow max.toNat ≤ number)

theorem toUInt32_hsfsBlockSize (bsize : UInt64) (bits : Bool) :
    (hsfsBlockSize bsize bits).1.toUInt32.toNat = floorPow (clampSize bsize).toNat := by
  have hmost := (floorPow_clampSize_bounds bsize).2
  rw [UInt64.toNat_toUInt32, (hsfsBlockSize_spec bsize bits).1, Nat.mod_eq_of_lt (by omega)]

/-- What is settled on, from a size that is known before. -/
theorem toNat_negotiate {size max : UInt32} (pref : UInt32) (hpos : size ≠ 0)
    (hsize : size.toNat ≤ 1048576) (hmax : 512 ≤ max) :
    (negotiate size pref max).toNat =
      if size ≤ max then size.toNat else floorPow (clampSize max.toUInt64).toNat := by
  have hcut {number : UInt32} (h : number.toNat ≤ 1048576) : ¬ number > hsfsMaxFileIoSize := by
    rw [gt_iff_lt, UInt32.lt_iff_toNat_lt, not_lt]
    exact h
  unfold negotiate
  rw [if_neg hpos]
  by_cases hle : size ≤ max
  · have hnot : ¬ (max ≥ 512 ∧ size > max) := fun h ↦ UInt32.not_lt.mpr hle h.2
    simp only [if_neg hnot, if_neg (hcut hsize), if_pos hle]
  · have hcond : max ≥ 512 ∧ size > max := ⟨hmax, UInt32.not_le.mp hle⟩
    have hround := toUInt32_hsfsBlockSize max.toUInt64 false
    have hsmall : (hsfsBlockSize max.toUInt64 false).1.toUInt32.toNat ≤ 1048576 :=
      hround.trans_le (floorPow_clampSize_bounds _).2
    simp only [if_pos hcond, if_neg (hcut hsmall), if_neg hle]
    exact hround

/-- A size is respected exactly if it is admissible. -/
theorem sizeRespected_negotiate_iff {standard max : UInt32} (given : Option ℕ) (pref : UInt32)
    (hleast : 1024 ≤ standard.toNat) (hmost : standard.toNat ≤ 1048576) (hmax : 512 ≤ max) :
    SizeRespected max given (negotiate standard pref max) ↔ SizeAdmissible max given standard := by
  have hpos : standard ≠ 0 := by
    rintro rfl
    exact absurd hleast (by decide)
  have hsettled := toNat_negotiate pref hpos hmost hmax
  by_cases hle : standard ≤ max
  · rw [if_pos hle] at hsettled
    have hle' := UInt32.le_iff_toNat_le.mp hle
    have hadmitted : 1024 ≤ max := UInt32.le_iff_toNat_le.mpr (hleast.trans hle')
    constructor
    · intro h
      refine ⟨hadmitted, fun number hgiven hnumber ↦ ⟨fun _ ↦ ?_, fun hlt ↦ ?_⟩⟩
      · exact hsettled ▸ h.le_given number hgiven hnumber
      · exact absurd hle (UInt32.not_le.mpr hlt)
    · intro h
      refine ⟨?_, ?_, fun number hgiven hnumber ↦ ?_⟩
      · rw [UInt32.lt_iff_toNat_lt, hsettled]
        exact Nat.lt_of_lt_of_le (by decide) hleast
      · rw [hsettled]
        exact le_min hle' hmost
      · rw [hsettled]
        exact (h.given number hgiven hnumber).1 hle
  · rw [if_neg hle] at hsettled
    have hlt : max < standard := UInt32.not_le.mp hle
    have hlt' := UInt32.lt_iff_toNat_lt.mp hlt
    have hnat : max.toUInt64.toNat = max.toNat := UInt32.toNat_toUInt64 max
    by_cases hadmitted : 1024 ≤ max
    · have hclamp : (clampSize max.toUInt64).toNat = max.toNat := by
        have hwide : (1024 : UInt64) ≤ max.toUInt64 := by
          rw [UInt64.le_iff_toNat_le, hnat]
          exact UInt32.le_iff_toNat_le.mp hadmitted
        rw [clampSize_of_le hwide, hnat, min_eq_left (by omega)]
      rw [hclamp] at hsettled
      have hne : max.toNat ≠ 0 := by
        have := UInt32.le_iff_toNat_le.mp hadmitted
        intro hzero
        rw [hzero] at this
        exact absurd this (by decide)
      constructor
      · intro h
        refine ⟨hadmitted, fun number hgiven hnumber ↦ ⟨fun hle' ↦ absurd hle' hle, fun _ ↦ ?_⟩⟩
        exact hsettled ▸ h.le_given number hgiven hnumber
      · intro h
        refine ⟨?_, ?_, fun number hgiven hnumber ↦ ?_⟩
        · rw [UInt32.lt_iff_toNat_lt, hsettled]
          exact Nat.two_pow_pos _
        · have hfloor := floorPow_le hne
          rw [hsettled]
          exact le_min hfloor (by omega)
        · rw [hsettled]
          exact (h.given number hgiven hnumber).2 hlt
    · -- a maximum below the least size is answered with the default of 4096
      refine iff_of_false (fun h ↦ ?_) fun h ↦ hadmitted h.least
      have hle_max := h.le_max
      rw [hsettled] at hle_max
      have hround := (floorPow_clampSize_bounds max.toUInt64).1
      rw [UInt32.le_iff_toNat_le] at hadmitted
      exact hadmitted (hround.trans (hle_max.trans (min_le_left _ _)))

/-- The sizes of a mount. -/
structure SizesRespected (fsinfo : Fsinfo3resok) (options : List MountOption) (super : HsfsSuper) :
    Prop where
  rsize : SizeRespected fsinfo.rtmax (givenNumber .rsize options) super.rsize
  wsize : SizeRespected fsinfo.wtmax (givenNumber .wsize options) super.wsize
  dtsize_pos : 0 < super.dtsize
  dtsize_le : super.dtsize ≤ super.rsize

/-- When they keep to all limits; eight pages must not wrap around to nothing. -/
structure SizesAdmissible (plat : Platform) (fsinfo : Fsinfo3resok) (options : List MountOption) :
    Prop where
  rsize : SizeAdmissible fsinfo.rtmax (givenNumber .rsize options) (standardSize options)
  wsize : SizeAdmissible fsinfo.wtmax (givenNumber .wsize options) (standardSize options)
  pages : plat.pageSize * 8 ≠ 0

/-- `hsi_validate_mount_data` forgets the sizes of the options. -/
theorem sizes_hsiValidateMountData {oldOpts : CString} {data data' : MountData} {optSize : ℕ}
    {daemon daemon' : Daemon} {trace : Trace} (hnew : data.newOpts.length < optSize)
    (hprot : data.nfs.pmProt = 0)
    (hpath : ((hsiNfs3ParseOptions oldOpts data optSize).run daemon).Path trace
      (.done (0, data') daemon')) :
    (hsiValidateMountData data').super.rsize =
        standardSize (takenOptions (splitItems false [] oldOpts)) ∧
      (hsiValidateMountData data').super.wsize =
        standardSize (takenOptions (splitItems false [] oldOpts)) := by
  obtain ⟨addr, rfl⟩ := hsiNfs3ParseOptions_accepted hnew hpath
  generalize takenOptions (splitItems false [] oldOpts) = options
  have hnfs := (prots_applyOptions parserMark data options).1
  rw [hprot] at hnfs
  have hsize : transferSize
    (if (applyOptions parserMark data options).nfs.pmProt = 0 then ipprotoTcp
      else (applyOptions parserMark data options).nfs.pmProt) = standardSize options := by
    rw [hnfs, standardSize]
    cases (transports options).getLast? with
    | none => rfl
    | some last => cases last <;> rfl
  exact ⟨hsize, hsize⟩

theorem standardSize_bounds (options : List MountOption) :
    1024 ≤ (standardSize options).toNat ∧ (standardSize options).toNat ≤ 1048576 := by
  unfold standardSize
  split_ifs <;> decide

/-- The size for listings is positive unless eight pages wrap around. -/
theorem dtsize_pos_iff (plat : Platform) (super : HsfsSuper) (fsinfo : Fsinfo3resok)
    (hrsize : 0 < (hsiFsinfoToSuper plat super fsinfo).rsize) :
    0 < (hsiFsinfoToSuper plat super fsinfo).dtsize ↔ plat.pageSize * 8 ≠ 0 := by
  change 0 < negotiate super.rsize fsinfo.rtpref fsinfo.rtmax at hrsize
  have hblock : 0 < (hsfsBlockSize fsinfo.dtpref.toUInt64 false).1.toUInt32 := by
    rw [UInt32.lt_iff_toNat_lt, toUInt32_hsfsBlockSize]
    exact Nat.two_pow_pos _
  simp only [hsiFsinfoToSuper]
  rw [← UInt32.pos_iff_ne_zero]
  split_ifs with hpages hcut hcut
  · exact iff_of_true hrsize (UInt32.lt_trans hrsize hcut)
  · exact Iff.rfl
  · exact iff_of_true hrsize (UInt32.lt_of_lt_of_le hblock (UInt32.not_lt.mp hpages))
  · exact iff_of_true hblock (UInt32.lt_of_lt_of_le hblock (UInt32.not_lt.mp hpages))

theorem dtsize_le_rsize (plat : Platform) (super : HsfsSuper) (fsinfo : Fsinfo3resok) :
    (hsiFsinfoToSuper plat super fsinfo).dtsize ≤ (hsiFsinfoToSuper plat super fsinfo).rsize := by
  simp only [hsiFsinfoToSuper]
  split_ifs with hpages hcut hcut
  · exact UInt32.le_refl _
  · exact UInt32.not_lt.mp hcut
  · exact UInt32.le_refl _
  · exact UInt32.not_lt.mp hcut

/-- The sizes of a mount keep to all limits exactly if they are admissible. -/
theorem transfer_sizes_iff (plat : Platform) (fsinfo : Fsinfo3resok) (oldOpts : CString)
    (data data' : MountData) (optSize : ℕ) (daemon daemon' : Daemon) (trace : Trace)
    (hnew : data.newOpts.length < optSize) (hprot : data.nfs.pmProt = 0)
    (hpath : ((hsiNfs3ParseOptions oldOpts data optSize).run daemon).Path trace
      (.done (0, data') daemon'))
    (hrtmax : 512 ≤ fsinfo.rtmax) (hwtmax : 512 ≤ fsinfo.wtmax) :
    SizesRespected fsinfo (takenOptions (splitItems false [] oldOpts))
        (hsiFsinfoToSuper plat (hsiValidateMountData data').super fsinfo) ↔
      SizesAdmissible plat fsinfo (takenOptions (splitItems false [] oldOpts)) := by
  obtain ⟨hrsize, hwsize⟩ := sizes_hsiValidateMountData hnew hprot hpath
  generalize takenOptions (splitItems false [] oldOpts) = options at *
  obtain ⟨hleast, hmost⟩ := standardSize_bounds options
  have hread := sizeRespected_negotiate_iff (givenNumber .rsize options) fsinfo.rtpref hleast hmost
    hrtmax
  have hwrite := sizeRespected_negotiate_iff (givenNumber .wsize options) fsinfo.wtpref hleast hmost
    hwtmax
  have hrsize' : (hsiFsinfoToSuper plat (hsiValidateMountData data').super fsinfo).rsize =
      negotiate (standardSize options) fsinfo.rtpref fsinfo.rtmax :=
    congrArg (negotiate · fsinfo.rtpref fsinfo.rtmax) hrsize
  have hwsize' : (hsiFsinfoToSuper plat (hsiValidateMountData data').super fsinfo).wsize =
      negotiate (standardSize options) fsinfo.wtpref fsinfo.wtmax :=
    congrArg (negotiate · fsinfo.wtpref fsinfo.wtmax) hwsize
  rw [← hrsize'] at hread
  rw [← hwsize'] at hwrite
  constructor
  · intro h
    exact ⟨hread.mp h.rsize, hwrite.mp h.wsize,
      (dtsize_pos_iff plat _ _ h.rsize.pos).mp h.dtsize_pos⟩
  · intro h
    have hrespected := hread.mpr h.rsize
    exact ⟨hrespected, hwrite.mpr h.wsize, (dtsize_pos_iff plat _ _ hrespected.pos).mpr h.pages,
      dtsize_le_rsize plat _ _⟩

/-- A size that is not below the standard one. -/
theorem transfer_sizes_large : ∃ data',
    ((hsiNfs3ParseOptions (cstr "rsize=65536") zeroedData hostdirSize).run .initial).Path []
      (.done (0, data') .initial) ∧
    SizesRespected rootFsinfo (takenOptions (splitItems false [] (cstr "rsize=65536")))
      (hsiFsinfoToSuper linuxHost (hsiValidateMountData data').super rootFsinfo) := by
  have hpath : ∃ data', ((hsiNfs3ParseOptions (cstr "rsize=65536") zeroedData hostdirSize).run
      .initial).Path [] (.done (0, data') .initial) := ⟨_, rfl, rfl⟩
  obtain ⟨data', hpath⟩ := hpath
  have htaken : takenOptions (splitItems false [] (cstr "rsize=65536")) =
      [.number .rsize (cstr "65536")] := by decide
  refine ⟨data', hpath, (transfer_sizes_iff linuxHost rootFsinfo (cstr "rsize=65536")
    zeroedData data'
    hostdirSize _ _ _ (by decide) rfl hpath (by decide) (by decide)).mpr ?_⟩
  rw [htaken]
  have hgiven : givenNumber .rsize [.number .rsize (cstr "65536")] = some 65536 := by decide
  refine ⟨⟨by decide, fun number hnumber _ ↦ ?_⟩, ⟨by decide, fun number hnumber _ ↦ ?_⟩, by decide⟩
  · rw [hgiven] at hnumber
    cases hnumber
    exact ⟨fun _ ↦ by decide, fun hlt ↦ absurd hlt (by decide)⟩
  · cases hnumber

/-- The size of the options is replaced by the standard one. -/
theorem given_size_exceeded : ∃ data',
    ((hsiNfs3ParseOptions (cstr "rsize=4096") zeroedData hostdirSize).run .initial).Path []
      (.done (0, data') .initial) ∧
    givenNumber .rsize (takenOptions (splitItems false [] (cstr "rsize=4096"))) = some 4096 ∧
    (hsiFsinfoToSuper linuxHost (hsiValidateMountData data').super rootFsinfo).rsize = 65536 ∧
    ¬ SizesRespected rootFsinfo (takenOptions (splitItems false [] (cstr "rsize=4096")))
      (hsiFsinfoToSuper linuxHost (hsiValidateMountData data').super rootFsinfo) := by
  refine ⟨_, ⟨rfl, rfl⟩, by decide, by decide, fun h ↦ ?_⟩
  exact absurd (h.rsize.le_given 4096 (by decide) (by decide)) (by decide)

end NfsFuse
