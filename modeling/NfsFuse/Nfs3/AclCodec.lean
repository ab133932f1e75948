import NfsFuse.Nfs3.SetAcl
import Mathlib.Tactic.Ring

/-!
# The encoding of access control lists

`posix_acl_to_xattr` and `posix_acl_from_xattr` are inverse to each other up to the identifiers of
entries that have none, which decoding sets to `ACL_UNDEFINED_ID`.  The number of entries is an
`int` on one side and a size an `unsigned int` on the other, so the round trips are stated for lists
whose length an `int` can hold.
-/

namespace NfsFuse

open Lib

/-- Disjoint bits are added. -/
theorem or_shiftLeft {low bits : ℕ} (h : low < 2 ^ bits) (high : ℕ) :
    low ||| high <<< bits = low + high * 2 ^ bits := by
  rw [Nat.or_comm, ← Nat.shiftLeft_add_eq_or_of_lt h, Nat.shiftLeft_eq, Nat.add_comm]

theorem toNat_le16 (low high : UInt8) : (le16 low high).toNat = low.toNat + high.toNat * 2 ^ 8 := by
  have hlow := low.toNat_lt
  have hhigh := high.toNat_lt
  have hshift : high.toNat <<< 8 % 2 ^ 16 = high.toNat <<< 8 := by
    rw [Nat.shiftLeft_eq]
    omega
  calc (le16 low high).toNat
      = low.toNat ||| high.toNat <<< 8 % 2 ^ 16 := by simp [le16]
    _ = low.toNat + high.toNat * 2 ^ 8 := by rw [hshift, or_shiftLeft hlow]

theorem toNat_le32 (b₀ b₁ b₂ b₃ : UInt8) : (le32 b₀ b₁ b₂ b₃).toNat =
    b₀.toNat + b₁.toNat * 2 ^ 8 + b₂.toNat * 2 ^ 16 + b₃.toNat * 2 ^ 24 := by
  have h₀ := b₀.toNat_lt
  have h₁ := b₁.toNat_lt
  have h₂ := b₂.toNat_lt
  have h₃ := b₃.toNat_lt
  have hshift {byte bits : ℕ} (hbyte : byte < 2 ^ 8) (hbits : bits ≤ 24) :
      byte <<< bits % 2 ^ 32 = byte <<< bits := by
    rw [Nat.shiftLeft_eq]
    refine Nat.mod_eq_of_lt ?_
    calc byte * 2 ^ bits < 2 ^ 8 * 2 ^ bits := Nat.mul_lt_mul_of_pos_right hbyte (Nat.two_pow_pos _)
      _ ≤ 2 ^ 8 * 2 ^ 24 := Nat.mul_le_mul_left _ (Nat.pow_le_pow_right (by decide) hbits)
      _ = 2 ^ 32 := by decide
  calc (le32 b₀ b₁ b₂ b₃).toNat
      = b₀.toNat ||| b₁.toNat <<< 8 % 2 ^ 32 ||| b₂.toNat <<< 16 % 2 ^ 32 |||
          b₃.toNat <<< 24 % 2 ^ 32 := by simp [le32]
    _ = b₀.toNat + b₁.toNat * 2 ^ 8 + b₂.toNat * 2 ^ 16 + b₃.toNat * 2 ^ 24 := by
      rw [hshift h₁ (by decide), hshift h₂ (by decide), hshift h₃ (by decide), or_shiftLeft h₀,
        @or_shiftLeft (b₀.toNat + b₁.toNat * 2 ^ 8) 16 (by omega), or_shiftLeft (by omega)]

theorem le16_bytes (word : UInt16) : le16 word.toUInt8 (word >>> 8).toUInt8 = word := by
  have hword := word.toNat_lt
  apply UInt16.toNat_inj.mp
  rw [toNat_le16]
  simp only [UInt16.toNat_toUInt8, UInt16.toNat_shiftRight]
  rw [show UInt16.toNat 8 % 16 = 8 from rfl, Nat.shiftRight_eq_div_pow]
  omega

theorem le32_bytes (word : UInt32) : le32 word.toUInt8 (word >>> 8).toUInt8 (word >>> 16).toUInt8
    (word >>> 24).toUInt8 = word := by
  have hword := word.toNat_lt
  apply UInt32.toNat_inj.mp
  rw [toNat_le32]
  simp only [UInt32.toNat_toUInt8, UInt32.toNat_shiftRight]
  rw [show UInt32.toNat 8 % 32 = 8 from rfl, show UInt32.toNat 16 % 32 = 16 from rfl,
    show UInt32.toNat 24 % 32 = 24 from rfl]
  simp only [Nat.shiftRight_eq_div_pow]
  omega

theorem bytes_le16 (low high : UInt8) : (le16 low high).toUInt8 = low ∧
    (le16 low high >>> 8).toUInt8 = high := by
  have hlow := low.toNat_lt
  have hhigh := high.toNat_lt
  constructor
  · apply UInt8.toNat_inj.mp
    rw [UInt16.toNat_toUInt8, toNat_le16]
    omega
  · apply UInt8.toNat_inj.mp
    rw [UInt16.toNat_toUInt8, UInt16.toNat_shiftRight, toNat_le16,
      show UInt16.toNat 8 % 16 = 8 from rfl, Nat.shiftRight_eq_div_pow]
    omega

theorem bytes_le32 (b₀ b₁ b₂ b₃ : UInt8) : (le32 b₀ b₁ b₂ b₃).toUInt8 = b₀ ∧
    (le32 b₀ b₁ b₂ b₃ >>> 8).toUInt8 = b₁ ∧ (le32 b₀ b₁ b₂ b₃ >>> 16).toUInt8 = b₂ ∧
    (le32 b₀ b₁ b₂ b₃ >>> 24).toUInt8 = b₃ := by
  have h₀ := b₀.toNat_lt
  have h₁ := b₁.toNat_lt
  have h₂ := b₂.toNat_lt
  have h₃ := b₃.toNat_lt
  refine ⟨?_, ?_, ?_, ?_⟩ <;> apply UInt8.toNat_inj.mp
  · rw [UInt32.toNat_toUInt8, toNat_le32]
    omega
  · rw [UInt32.toNat_toUInt8, UInt32.toNat_shiftRight, toNat_le32,
      show UInt32.toNat 8 % 32 = 8 from rfl, Nat.shiftRight_eq_div_pow]
    omega
  · rw [UInt32.toNat_toUInt8, UInt32.toNat_shiftRight, toNat_le32,
      show UInt32.toNat 16 % 32 = 16 from rfl, Nat.shiftRight_eq_div_pow]
    omega
  · rw [UInt32.toNat_toUInt8, UInt32.toNat_shiftRight, toNat_le32,
      show UInt32.toNat 24 % 32 = 24 from rfl, Nat.shiftRight_eq_div_pow]
    omega

/-- The tags of entries without an identifier. -/
def plainTag (tag : Int16) : Prop :=
  tag = aclUserObj ∨ tag = aclGroupObj ∨ tag = aclMask ∨ tag = aclOther

instance (tag : Int16) : Decidable (plainTag tag) := inferInstanceAs (Decidable (_ ∨ _))

/-- An entry with the identifier that decoding gives it. -/
def PosixAclEntry.normalised (entry : PosixAclEntry) : PosixAclEntry :=
  if plainTag entry.eTag then { entry with eId := aclUndefinedId } else entry

theorem PosixAclEntry.normalised_of_normal {entry : PosixAclEntry}
    (h : plainTag entry.eTag → entry.eId = aclUndefinedId) : entry.normalised = entry := by
  unfold PosixAclEntry.normalised
  split_ifs with hplain
  · rw [← h hplain]
  · rfl

theorem map_normalised_of_normal {acl : PosixAcl}
    (h : ∀ entry ∈ acl, plainTag entry.eTag → entry.eId = aclUndefinedId) :
    acl.map PosixAclEntry.normalised = acl :=
  calc acl.map PosixAclEntry.normalised
      = acl.map id := List.map_congr_left fun entry hmem ↦
        PosixAclEntry.normalised_of_normal (h entry hmem)
    _ = acl := List.map_id acl

/-- A tag is accepted exactly if it is one of the six. -/
theorem entryFromXattr_eq (tag : Int16) (perm : UInt16) (id : UInt32) :
    entryFromXattr tag perm id =
      if validTag tag then some (PosixAclEntry.normalised ⟨tag, perm, id⟩) else none := by
  unfold entryFromXattr
  change (if plainTag tag then some (PosixAclEntry.mk tag perm aclUndefinedId)
    else if tag = aclUser ∨ tag = aclGroup then some ⟨tag, perm, id⟩ else none) = _
  by_cases hplain : plainTag tag
  · have hvalid : validTag tag = true := by
      rw [validTag_iff]
      rcases hplain with rfl | rfl | rfl | rfl <;> decide
    rw [if_pos hplain, if_pos hvalid, PosixAclEntry.normalised, if_pos hplain]
  · rw [if_neg hplain, PosixAclEntry.normalised, if_neg hplain]
    refine if_congr ?_ rfl rfl
    rw [validTag_iff]
    constructor
    · rintro (rfl | rfl) <;> decide
    · intro hmem
      simp only [List.mem_cons, List.not_mem_nil, or_false] at hmem
      unfold plainTag at hplain
      tauto

/-- Decoding the bytes of an entry. -/
theorem entriesFromXattr_entryToXattr (entry : PosixAclEntry) (rest : List UInt8) :
    entriesFromXattr (entryToXattr entry ++ rest) =
      if validTag entry.eTag then (entriesFromXattr rest).map (entry.normalised :: ·)
        else none := by
  change (do
    let first ← entryFromXattr (le16 _ _).toInt16 (le16 _ _) (le32 _ _ _ _)
    let entries ← entriesFromXattr rest
    return first :: entries) = _
  rw [le16_bytes, le16_bytes, le32_bytes, Int16.toInt16_toUInt16, entryFromXattr_eq]
  by_cases hvalid : validTag entry.eTag = true
  · rw [if_pos hvalid, if_pos hvalid]
    cases entriesFromXattr rest <;> rfl
  · rw [if_neg hvalid, if_neg hvalid]
    rfl

/-- Decoding the bytes of a list. -/
theorem entriesFromXattr_flatMap {acl : PosixAcl} (h : ∀ entry ∈ acl, validTag entry.eTag = true) :
    entriesFromXattr (acl.flatMap entryToXattr) = some (acl.map PosixAclEntry.normalised) := by
  induction acl with
  | nil => rfl
  | cons entry acl ih =>
    rw [List.forall_mem_cons] at h
    rw [List.flatMap_cons, entriesFromXattr_entryToXattr, if_pos h.1, ih h.2]
    rfl

/-- The bytes of entries with the identifiers that decoding gives them. -/
def normaliseEntries : List UInt8 → List UInt8
  | t₀ :: t₁ :: p₀ :: p₁ :: i₀ :: i₁ :: i₂ :: i₃ :: rest =>
      (if plainTag (le16 t₀ t₁).toInt16 then [t₀, t₁, p₀, p₁, 0xff, 0xff, 0xff, 0xff]
        else [t₀, t₁, p₀, p₁, i₀, i₁, i₂, i₃]) ++ normaliseEntries rest
  | rest => rest

/-- The bytes of a decoded entry. -/
theorem entryToXattr_normalised (t₀ t₁ p₀ p₁ i₀ i₁ i₂ i₃ : UInt8) :
    entryToXattr (PosixAclEntry.normalised ⟨(le16 t₀ t₁).toInt16, le16 p₀ p₁, le32 i₀ i₁ i₂ i₃⟩) =
      if plainTag (le16 t₀ t₁).toInt16 then [t₀, t₁, p₀, p₁, 0xff, 0xff, 0xff, 0xff]
      else [t₀, t₁, p₀, p₁, i₀, i₁, i₂, i₃] := by
  obtain ⟨ht₀, ht₁⟩ := bytes_le16 t₀ t₁
  obtain ⟨hp₀, hp₁⟩ := bytes_le16 p₀ p₁
  obtain ⟨hi₀, hi₁, hi₂, hi₃⟩ := bytes_le32 i₀ i₁ i₂ i₃
  unfold PosixAclEntry.normalised
  split_ifs with hplain
  · simp only [entryToXattr, UInt16.toUInt16_toInt16, ht₀, ht₁, hp₀, hp₁]
    rfl
  · simp only [entryToXattr, UInt16.toUInt16_toInt16, ht₀, ht₁, hp₀, hp₁, hi₀, hi₁, hi₂, hi₃]

/-- Encoding a decoded list gives the normalised bytes. -/
theorem flatMap_entriesFromXattr {bytes : List UInt8} {acl : PosixAcl}
    (h : entriesFromXattr bytes = some acl) :
    acl.flatMap entryToXattr = normaliseEntries bytes := by
  fun_induction entriesFromXattr bytes generalizing acl with
  | case1 =>
    cases h
    rfl
  | case2 t₀ t₁ p₀ p₁ i₀ i₁ i₂ i₃ rest ih =>
    obtain ⟨entry, hentry, hrest⟩ := Option.bind_eq_some_iff.mp h
    obtain ⟨entries, hentries, heq⟩ := Option.bind_eq_some_iff.mp hrest
    cases heq
    rw [entryFromXattr_eq] at hentry
    split_ifs at hentry
    cases hentry
    rw [List.flatMap_cons, ih hentries, entryToXattr_normalised, normaliseEntries]
  | case3 => cases h

theorem length_flatMap_entryToXattr (acl : PosixAcl) :
    (acl.flatMap entryToXattr).length = 8 * acl.length := by
  induction acl with
  | nil => rfl
  | cons entry acl ih =>
    rw [List.flatMap_cons, List.length_append, ih, List.length_cons]
    change 8 + 8 * acl.length = _
    ring

/-- The tag of an entry in the bytes behind a header. -/
def tagAt (bytes : List UInt8) (position : ℕ) : Int16 :=
  (le16 (bytes.getD (8 * position) 0) (bytes.getD (8 * position + 1) 0)).toInt16

/-- Whole entries with valid tags are accepted, and nothing else. -/
theorem entriesFromXattr_isSome_iff (bytes : List UInt8) :
    (entriesFromXattr bytes).isSome = true ↔ bytes.length % 8 = 0 ∧
      ∀ position < bytes.length / 8, validTag (tagAt bytes position) = true := by
  fun_induction entriesFromXattr bytes with
  | case1 => simp
  | case2 t₀ t₁ p₀ p₁ i₀ i₁ i₂ i₃ rest ih =>
    have hlength : (t₀ :: t₁ :: p₀ :: p₁ :: i₀ :: i₁ :: i₂ :: i₃ :: rest).length / 8 =
        rest.length / 8 + 1 := by
      simp only [List.length_cons]
      omega
    have hmod : (t₀ :: t₁ :: p₀ :: p₁ :: i₀ :: i₁ :: i₂ :: i₃ :: rest).length % 8 =
        rest.length % 8 := by
      simp only [List.length_cons]
      omega
    have htag : entryFromXattr (le16 t₀ t₁).toInt16 (le16 p₀ p₁) (le32 i₀ i₁ i₂ i₃) =
        if validTag (tagAt (t₀ :: t₁ :: p₀ :: p₁ :: i₀ :: i₁ :: i₂ :: i₃ :: rest) 0) then
          some (PosixAclEntry.normalised ⟨(le16 t₀ t₁).toInt16, le16 p₀ p₁, le32 i₀ i₁ i₂ i₃⟩)
        else none := entryFromXattr_eq _ _ _
    rw [hlength, hmod, Nat.forall_lt_succ_left, and_left_comm, htag]
    split_ifs with hvalid
    · rw [and_iff_right hvalid]
      exact Iff.trans (by cases entriesFromXattr rest <;> rfl) ih
    · exact iff_of_false (by simp) fun h ↦ hvalid h.1
  | case3 bytes hnil hcons =>
    refine iff_of_false (by simp) ?_
    rintro ⟨hmod, -⟩
    rcases bytes with
      _ | ⟨t₀, _ | ⟨t₁, _ | ⟨p₀, _ | ⟨p₁, _ | ⟨i₀, _ | ⟨i₁, _ | ⟨i₂, _ | ⟨i₃, rest⟩⟩⟩⟩⟩⟩⟩⟩
    · exact hnil rfl
    -- A value with one to seven bytes left does not have a length that is a multiple of 8.
    iterate 7 · cases hmod
    · exact hcons _ _ _ _ _ _ _ _ _ rfl

/-- A positive `int` made from a count is at most the count. -/
theorem toInt32_toNat_le {count : ℕ} (h : 0 < toInt32 count) : (toInt32 count).toNat ≤ count := by
  rw [toInt32, Int.bmod_def] at *
  split_ifs at h ⊢ <;> omega

theorem toInt32_of_lt {count : ℕ} (h : count < 2 ^ 31) : toInt32 count = count := by
  rw [toInt32, Int.bmod_def]
  split_ifs <;> omega

/-- The version word of a value. -/
def xattrVersion (value : List UInt8) : UInt32 :=
  le32 (value.getD 0 0) (value.getD 1 0) (value.getD 2 0) (value.getD 3 0)

/-- The values that `posix_acl_from_xattr` accepts: whole entries behind a header of version 2, at
least one of them when their number is converted to an `int`, and all that it reads with a tag of an
access control list. -/
def WellFormedXattr (value : List UInt8) : Prop :=
  ∃ count : ℕ, value.length = 4 + 8 * count ∧ xattrVersion value = 2 ∧ 0 < toInt32 count ∧
    ∀ position < (toInt32 count).toNat, validTag (tagAt (value.drop 4) position) = true

theorem xattrHeaderOk_iff (value : List UInt8) : xattrHeaderOk value = true ↔
    ∃ count : ℕ, value.length = 4 + 8 * count ∧ xattrVersion value = 2 ∧ 0 < toInt32 count := by
  match value with
  | [] | [_] | [_, _] | [_, _, _] =>
    refine iff_of_false (by simp [xattrHeaderOk]) ?_
    rintro ⟨count, hlength, -⟩
    simp only [List.length_cons, List.length_nil] at hlength
    omega
  | v₀ :: v₁ :: v₂ :: v₃ :: entries =>
    have hok : xattrHeaderOk (v₀ :: v₁ :: v₂ :: v₃ :: entries) = true ↔
        (le32 v₀ v₁ v₂ v₃ = 2 ∧ entries.length % 8 = 0) ∧ 0 < xattrCount entries := by
      simp [xattrHeaderOk]
    rw [hok]
    constructor
    · rintro ⟨⟨hversion, hmod⟩, hcount⟩
      refine ⟨entries.length / 8, ?_, hversion, hcount⟩
      simp only [List.length_cons]
      omega
    · rintro ⟨count, hlength, hversion, hcount⟩
      have hentries : entries.length = 8 * count := by
        simp only [List.length_cons] at hlength
        omega
      refine ⟨⟨hversion, by omega⟩, ?_⟩
      rwa [xattrCount, hentries, Nat.mul_div_cancel_left _ (by decide)]

/-- The tags in front of a cut. -/
theorem tagAt_take {bytes : List UInt8} {count position : ℕ} (h : position < count) :
    tagAt (bytes.take (8 * count)) position = tagAt bytes position := by
  have hbyte {index : ℕ} (hindex : index < 8 * count) :
      (bytes.take (8 * count)).getD index 0 = bytes.getD index 0 := by
    rw [List.getD_eq_getElem?_getD, List.getD_eq_getElem?_getD, List.getElem?_take_of_lt hindex]
  rw [tagAt, tagAt, hbyte (by omega), hbyte (by omega)]

/-- The bytes read behind a good header. -/
theorem length_xattrEntries {value : List UInt8} {count : ℕ}
    (hlength : value.length = 4 + 8 * count) (hcount : 0 < toInt32 count) :
    xattrCount (value.drop 4) = toInt32 count ∧
      (xattrEntries value).length = 8 * (toInt32 count).toNat := by
  have hdrop : (value.drop 4).length = 8 * count := by
    rw [List.length_drop, hlength]
    omega
  have heq : xattrCount (value.drop 4) = toInt32 count := by
    rw [xattrCount, hdrop, Nat.mul_div_cancel_left _ (by decide)]
  refine ⟨heq, ?_⟩
  have hle := toInt32_toNat_le hcount
  rw [xattrEntries, List.length_take, hdrop, heq]
  omega

/-- The accepted values. -/
theorem parseXattr_isSome_iff (value : List UInt8) :
    (parseXattr value).isSome = true ↔ WellFormedXattr value := by
  by_cases hheader : xattrHeaderOk value = true
  · obtain ⟨count, hlength, hversion, hcount⟩ := (xattrHeaderOk_iff value).mp hheader
    obtain ⟨heq, hentries⟩ := length_xattrEntries hlength hcount
    rw [parseXattr_of_header hheader, entriesFromXattr_isSome_iff, hentries,
      Nat.mul_div_cancel_left _ (by decide)]
    constructor
    · rintro ⟨-, htags⟩
      refine ⟨count, hlength, hversion, hcount, fun position hposition ↦ ?_⟩
      rw [← htags position hposition, xattrEntries, heq, tagAt_take hposition]
    · rintro ⟨count', hlength', -, -, htags⟩
      obtain rfl : count' = count := by omega
      refine ⟨Nat.mul_mod_right 8 _, fun position hposition ↦ ?_⟩
      rw [xattrEntries, heq, tagAt_take hposition]
      exact htags position hposition
  · rw [parseXattr_of_not_header hheader]
    refine iff_of_false (by simp) ?_
    rintro ⟨count, hlength, hversion, hcount, -⟩
    exact hheader ((xattrHeaderOk_iff value).mpr ⟨count, hlength, hversion, hcount⟩)

/-! ## Round trips -/

/-- A value with the identifiers that decoding gives its entries. -/
def normaliseXattr (value : List UInt8) : List UInt8 :=
  value.take 4 ++ normaliseEntries (value.drop 4)

/-- A buffer that is large enough receives the encoding. -/
theorem posixAclToXattr_bytes {acl : PosixAcl} {size : ℕ}
    (h : posixAclXattrSize acl.length ≤ size) :
    (posixAclToXattr acl true size).2 = [2, 0, 0, 0] ++ acl.flatMap entryToXattr := by
  have hsize : ¬ posixAclXattrSize acl.length % 2 ^ 32 > size :=
    Nat.not_lt.mpr ((Nat.mod_le _ _).trans h)
  unfold posixAclToXattr
  rw [if_neg (by decide)]
  simp only [hsize, if_false]

theorem posixAclToXattr_size {acl : PosixAcl} {size : ℕ}
    (h : posixAclXattrSize acl.length ≤ size) (hsmall : posixAclXattrSize acl.length < 2 ^ 31) :
    (posixAclToXattr acl true size).1 = (posixAclXattrSize acl.length : ℕ) := by
  have hmod : posixAclXattrSize acl.length % 2 ^ 32 = posixAclXattrSize acl.length :=
    Nat.mod_eq_of_lt (by omega)
  simp only [posixAclToXattr, hmod, if_neg (Nat.not_lt.mpr h), Bool.true_eq_false, if_false]
  exact toInt32_of_lt hsmall

theorem length_of_entriesFromXattr {bytes : List UInt8} {acl : PosixAcl}
    (h : entriesFromXattr bytes = some acl) : bytes.length = 8 * acl.length := by
  fun_induction entriesFromXattr bytes generalizing acl with
  | case1 =>
    cases h
    rfl
  | case2 t₀ t₁ p₀ p₁ i₀ i₁ i₂ i₃ rest ih =>
    obtain ⟨entry, -, hrest⟩ := Option.bind_eq_some_iff.mp h
    obtain ⟨entries, hentries, heq⟩ := Option.bind_eq_some_iff.mp hrest
    cases heq
    simp only [List.length_cons, ih hentries]
    ring
  | case3 => cases h

/-- Decoding an encoded list gives the list with the identifiers of decoding. -/
theorem parseXattr_encoded {acl : PosixAcl} (hpos : 1 ≤ acl.length) (hlt : acl.length < 2 ^ 31)
    (hvalid : ∀ entry ∈ acl, validTag entry.eTag = true) :
    parseXattr ([2, 0, 0, 0] ++ acl.flatMap entryToXattr) =
      some (acl.map PosixAclEntry.normalised) := by
  have hlength : ([2, 0, 0, 0] ++ acl.flatMap entryToXattr).length = 4 + 8 * acl.length := by
    rw [List.length_append, length_flatMap_entryToXattr]
    rfl
  have hcount : toInt32 acl.length = acl.length := toInt32_of_lt hlt
  have hpositive : 0 < toInt32 acl.length := by omega
  have hheader : xattrHeaderOk ([2, 0, 0, 0] ++ acl.flatMap entryToXattr) = true :=
    (xattrHeaderOk_iff _).mpr ⟨acl.length, hlength, show le32 2 0 0 0 = 2 by decide, hpositive⟩
  obtain ⟨heq, -⟩ := length_xattrEntries hlength hpositive
  have hentries : xattrEntries ([2, 0, 0, 0] ++ acl.flatMap entryToXattr) =
      acl.flatMap entryToXattr := by
    rw [xattrEntries, heq, hcount]
    refine List.take_of_length_le ?_
    change (acl.flatMap entryToXattr).length ≤ _
    rw [length_flatMap_entryToXattr, Int.toNat_natCast]
  rw [parseXattr_of_header hheader, hentries, entriesFromXattr_flatMap hvalid]

/-- A version word of 2 has only one encoding. -/
theorem take_of_xattrVersion {value : List UInt8} (hlength : 4 ≤ value.length)
    (hversion : xattrVersion value = 2) : value.take 4 = [2, 0, 0, 0] := by
  match value, hlength with
  | v₀ :: v₁ :: v₂ :: v₃ :: entries, _ =>
    obtain ⟨h₀, h₁, h₂, h₃⟩ := bytes_le32 v₀ v₁ v₂ v₃
    have hword : le32 v₀ v₁ v₂ v₃ = 2 := hversion
    rw [hword] at h₀ h₁ h₂ h₃
    rw [← h₀, ← h₁, ← h₂, ← h₃]
    rfl

/-- Encoding a decoded value gives the normalised value. -/
theorem encoded_parseXattr {value : List UInt8} {acl : PosixAcl}
    (hlength : value.length < 4 + 8 * 2 ^ 31) (h : parseXattr value = some acl) :
    value.length = posixAclXattrSize acl.length ∧
      [2, 0, 0, 0] ++ acl.flatMap entryToXattr = normaliseXattr value := by
  obtain ⟨hheader, hentries, -⟩ := parseXattr_eq_some h
  obtain ⟨count, hcount, hversion, hpositive⟩ := (xattrHeaderOk_iff value).mp hheader
  obtain ⟨heq, -⟩ := length_xattrEntries hcount hpositive
  have hall : xattrEntries value = value.drop 4 := by
    rw [xattrEntries, heq, toInt32_of_lt (by omega)]
    refine List.take_of_length_le ?_
    rw [List.length_drop, hcount, Int.toNat_natCast]
    omega
  rw [hall] at hentries
  constructor
  · have hbytes := length_of_entriesFromXattr hentries
    rw [List.length_drop] at hbytes
    rw [posixAclXattrSize]
    omega
  · rw [normaliseXattr, take_of_xattrVersion (by omega) hversion, flatMap_entriesFromXattr hentries]

/-! ## Through the server -/

/-- A server that stores the entries of an access list as it receives them.  A call that the client
takes for lost may have been carried out. -/
def verbatimServer : Server EnvAns (List Aclent) := fun stored event stored' ↦
  match event with
  | ⟨.call (.getacl _ mask), .done (.ok reply)⟩ =>
      (mask &&& naAcl ≠ 0 → reply.aclent = stored) ∧ stored' = stored
  | ⟨.call (.setacl _ acl), .done (.ok _)⟩ =>
      stored' = if acl.mask &&& naAcl ≠ 0 then acl.aclent else stored
  | ⟨.call (.setacl _ acl), .fail _ _⟩ => stored' = stored ∨
      stored' = if acl.mask &&& naAcl ≠ 0 then acl.aclent else stored
  | _ => stored' = stored

/-- Allocating copies changes nothing on the server. -/
theorem verbatimServer_copies {front : Trace} {stored stored' : List Aclent}
    (h : ∀ event ∈ front, event.op.isCopy = true)
    (hgives : verbatimServer.Gives stored front stored') :
    stored' = stored := by
  induction front generalizing stored with
  | nil => exact hgives
  | cons event front ih =>
    rw [List.forall_mem_cons] at h
    obtain ⟨middle, hstep, hrest⟩ := hgives
    rw [ih h.2 hrest]
    obtain ⟨op, answer⟩ := event
    rcases EnvOp.eq_of_isCopy h.1 with rfl | rfl
    · exact hstep
    · exact hstep

/-- With favourable answers `hsi_nfs3_setxattr` on a file that is no directory succeeds and stores
the decoded list. -/
theorem setxattr_stores {daemon : Daemon} {index : ℕ} {value : List UInt8} {acl : PosixAcl}
    {stored stored' : List Aclent} {trace : Trace} {ending : Ending Fault Daemon ℤ}
    (hclient : daemon.sb.aclClntp ≠ none) (hmode : sIsdir (daemon.inode index).iattr.mode = false)
    (hvalue : parseXattr value = some acl)
    (hpath : ((hsiNfs3Setxattr index value .access).run daemon).Path trace ending)
    (hfavourable : ∀ event ∈ trace, Favourable event)
    (hgives : verbatimServer.Gives stored trace stored') :
    ending = .done 0 daemon ∧ stored' = acl.map aclentOfEntry := by
  unfold hsiNfs3Setxattr at hpath
  rw [Prog.getInode_bind, Program.get_bind, if_neg hclient] at hpath
  obtain ⟨granted, rest, rfl, hrest⟩ := path_posixAclFromXattr_bind hvalue hpath
  obtain ⟨hgranted, hgood⟩ := List.forall_mem_cons.mp hfavourable
  obtain rfl : granted = true := favourable_malloc hgranted
  rw [if_pos rfl, hmode, if_neg (by decide), if_pos rfl] at hrest
  change ((sendSetacl index acl none).run daemon).Path rest ending at hrest
  obtain ⟨front, hcopies, ⟨rfl, ⟨event, hmem, hrefused⟩, -⟩ |
    ⟨fh, args, outcome, hargs, rfl, rfl⟩⟩ := sendSetacl_path hrest
  · exact absurd (hgood event hmem) hrefused
  · obtain ⟨⟨⟩, rfl⟩ := favourable_call (hgood _ (List.mem_append_right front List.mem_cons_self))
    obtain ⟨stored₁, hmalloc, hsending⟩ := hgives
    cases hmalloc
    obtain ⟨stored₂, hfront, stored₃, hstep, rfl⟩ := Server.gives_append.mp hsending
    rw [verbatimServer_copies hcopies hfront] at hstep
    refine ⟨rfl, ?_⟩
    have hmask : args.mask &&& naAcl ≠ 0 := by
      rw [hargs]
      simp only [setaclArgs, hmode]
      decide
    calc stored' = if args.mask &&& naAcl ≠ 0 then args.aclent else stored := hstep
      _ = args.aclent := if_pos hmask
      _ = acl.map aclentOfEntry := by
        rw [hargs]
        rfl

/-- With favourable answers `hsi_nfs3_getxattr` returns the stored entries. -/
theorem getxattr_reads {daemon : Daemon} {index : ℕ} {mask : UInt32} {stored stored' : List Aclent}
    {trace : Trace} {ending : Ending Fault Daemon (ℤ × Option PosixAcl)}
    (hclient : daemon.sb.aclClntp ≠ none) (hmask : mask &&& naAcl ≠ 0)
    (hpath : ((hsiNfs3Getxattr index mask .access).run daemon).Path trace ending)
    (hfavourable : ∀ event ∈ trace, Favourable event)
    (hgives : verbatimServer.Gives stored trace stored') :
    ending = .done (0, some (stored.map entryOfAclent)) daemon := by
  obtain ⟨err, list, rfl, fh, outcome, rest, rfl, hcases⟩ := hsiNfs3Getxattr_path hclient hpath
  obtain ⟨hcall, hrest⟩ := List.forall_mem_cons.mp hfavourable
  rcases hcases with ⟨hfailed, -⟩ | ⟨reply, granted, rfl, rfl, ⟨rfl, -⟩ | ⟨-, rfl, rfl⟩⟩
  · exact absurd ((statusOf_eq_zero_iff outcome).mpr (favourable_call hcall)) hfailed
  · exact absurd (hrest _ List.mem_cons_self) id
  · obtain ⟨stored₁, ⟨hreply, -⟩, -⟩ := hgives
    rw [Secattr.list, hreply hmask]

/-- Every run of `posix_acl_from_xattr` with memory returns this. -/
def Decodes (value : List UInt8) (result : Option PosixAcl) : Prop :=
  ∀ daemon trace ending, ((posixAclFromXattr value).run daemon).Path trace ending →
    (∀ event ∈ trace, Favourable event) → ending = .done result daemon

theorem decodes_parseXattr (value : List UInt8) : Decodes value (parseXattr value) := by
  intro daemon trace ending hpath hfavourable
  unfold posixAclFromXattr at hpath
  by_cases hheader : xattrHeaderOk value = true
  · rw [if_pos hheader, ← parseXattr_of_header hheader] at hpath
    obtain ⟨granted, rest, rfl, hrest⟩ := hpath
    obtain rfl : granted = true := favourable_malloc (hfavourable _ List.mem_cons_self)
    exact hrest.2
  · rw [if_neg hheader] at hpath
    rw [parseXattr_of_not_header hheader]
    exact hpath.2

theorem decodes_iff {value : List UInt8} {result : Option PosixAcl} :
    Decodes value result ↔ parseXattr value = result := by
  constructor
  · intro h
    have hrun : ∃ trace ending, ((posixAclFromXattr value).run aclCache).Path trace ending ∧
        ∀ event ∈ trace, Favourable event := by
      unfold posixAclFromXattr
      by_cases hheader : xattrHeaderOk value = true
      · rw [if_pos hheader]
        exact ⟨_, _, ⟨true, [], rfl, rfl, rfl⟩, by simp [Favourable]⟩
      · rw [if_neg hheader]
        exact ⟨_, _, ⟨rfl, rfl⟩, by simp⟩
    obtain ⟨trace, ending, hpath, hfavourable⟩ := hrun
    exact (Ending.done.inj ((decodes_parseXattr value _ _ _ hpath hfavourable).symm.trans
      (h _ _ _ hpath hfavourable))).1
  · rintro rfl
    exact decodes_parseXattr value

theorem not_sIsdir_of_sIsreg {mode : UInt32} (h : sIsreg mode = true) : sIsdir mode = false := by
  rw [sIsreg, beq_iff_eq] at h
  rw [sIsdir, h]
  decide

/-- **Round trips of the encoding.** The accepted values; a list that is encoded and decoded; a
value that is decoded and encoded; and a value that is set on a file, read back and encoded. -/
theorem acl_round_trips :
    (∀ value, ∃ result, Decodes value result ∧ (result.isSome = true ↔ WellFormedXattr value)) ∧
    (∀ (acl : PosixAcl) size, 1 ≤ acl.length → acl.length < 2 ^ 31 →
      (∀ entry ∈ acl, validTag entry.eTag = true) →
      (∀ entry ∈ acl, plainTag entry.eTag → entry.eId = aclUndefinedId) →
      posixAclXattrSize acl.length ≤ size →
      Decodes (posixAclToXattr acl true size).2 (some acl)) ∧
    (∀ value acl size, value.length < 4 + 8 * 2 ^ 31 → Decodes value (some acl) →
      value.length ≤ size → (posixAclToXattr acl true size).2 = normaliseXattr value) ∧
    (∀ daemon index value acl stored stored' set ending,
      sIsreg (daemon.inode index).iattr.mode = true → daemon.sb.aclClntp ≠ none →
      value.length ≤ 4 + 8 * 1024 → Decodes value (some acl) →
      ((hsiNfs3Setxattr index value .access).run daemon).Path set ending →
      (∀ event ∈ set, Favourable event) → verbatimServer.Gives stored set stored' →
      ending = .done 0 daemon ∧
      ∀ mask stored'' get ending' size, mask &&& naAcl ≠ 0 →
        ((hsiNfs3Getxattr index mask .access).run daemon).Path get ending' →
        (∀ event ∈ get, Favourable event) → verbatimServer.Gives stored' get stored'' →
        value.length ≤ size →
        ∃ list, ending' = .done (0, some list) daemon ∧
          posixAclToXattr list true size = ((value.length : ℤ), normaliseXattr value)) := by
  refine ⟨fun value ↦ ⟨_, decodes_parseXattr value, parseXattr_isSome_iff value⟩, ?_, ?_, ?_⟩
  · intro acl size hpos hlt hvalid hnormal hsize
    rw [decodes_iff, posixAclToXattr_bytes hsize, parseXattr_encoded hpos hlt hvalid,
      map_normalised_of_normal hnormal]
  · intro value acl size hlength hvalue hsize
    obtain ⟨hlen, hbytes⟩ := encoded_parseXattr hlength (decodes_iff.mp hvalue)
    rw [posixAclToXattr_bytes (hlen ▸ hsize), hbytes]
  · intro daemon index value acl stored stored' set ending hreg hclient hlength hvalue hset hgoodSet
      hstores
    have hparsed := decodes_iff.mp hvalue
    obtain ⟨hending, rfl⟩ :=
      setxattr_stores hclient (not_sIsdir_of_sIsreg hreg) hparsed hset hgoodSet
      hstores
    refine ⟨hending, fun mask stored'' get ending' size hmask hget hgoodGet hreads hsize ↦
      ⟨acl, ?_, ?_⟩⟩
    · rw [getxattr_reads hclient hmask hget hgoodGet hreads, map_entryOfAclent]
    · obtain ⟨hlen, hbytes⟩ := encoded_parseXattr (by omega) hparsed
      have hfits : posixAclXattrSize acl.length ≤ size := hlen ▸ hsize
      refine Prod.ext ?_ ((posixAclToXattr_bytes hfits).trans hbytes)
      rw [hlen]
      exact posixAclToXattr_size hfits (by omega)

/-- A regular file and a client for the ACL protocol. -/
def aclFile : Daemon :=
  aclCache.setInode 0 { aclCache.inode 0 with
    iattr := { (aclCache.inode 0).iattr with mode := sIfreg ||| 0o644 } }

/-- A list with an entry for a user. -/
def namedAcl : PosixAcl :=
  [⟨aclUserObj, 7, aclUndefinedId⟩, ⟨aclUser, 6, 1000⟩, ⟨aclGroupObj, 5, aclUndefinedId⟩,
    ⟨aclMask, 7, aclUndefinedId⟩, ⟨aclOther, 4, aclUndefinedId⟩]

/-- A value for it, in which the entry of the owner has an id. -/
def namedValue : List UInt8 :=
  [2, 0, 0, 0, 1, 0, 7, 0, 5, 0, 0, 0, 2, 0, 6, 0, 232, 3, 0, 0, 4, 0, 5, 0, 255, 255, 255, 255,
    16, 0, 7, 0, 255, 255, 255, 255, 32, 0, 4, 0, 255, 255, 255, 255]

/-- The list is set, read back and encoded, and the id of the owner is gone. -/
theorem named_acl_round_trip :
    (∃ result, Decodes namedValue result ∧ (result.isSome = true ↔ WellFormedXattr namedValue)) ∧
    Decodes (posixAclToXattr namedAcl true 44).2 (some namedAcl) ∧
    (posixAclToXattr namedAcl true 44).2 = normaliseXattr namedValue ∧
    normaliseXattr namedValue ≠ namedValue ∧
    ∃ list, posixAclToXattr list true 44 = (44, normaliseXattr namedValue) := by
  have hdecodes : Decodes namedValue (some namedAcl) := decodes_iff.mpr (by decide)
  have hset : ((hsiNfs3Setxattr 0 namedValue .access).run aclFile).Path
      [⟨.malloc .posixAcl, true⟩, ⟨.malloc .aclent, true⟩,
        ⟨.call (.setacl [0] (setaclArgs sIfreg namedAcl none)), .done (.ok ())⟩]
      (.done 0 aclFile) :=
    ⟨_, _, rfl, _, _, rfl, _, _, rfl, rfl, rfl⟩
  have hget : ((hsiNfs3Getxattr 0 naAcl .access).run aclFile).Path
      [⟨.call (.getacl [0] naAcl), .done (.ok (sentAcl namedAcl none))⟩, ⟨.malloc .posixAcl, true⟩]
      (.done (0, some namedAcl) aclFile) :=
    ⟨_, _, rfl, _, _, rfl, rfl, rfl⟩
  obtain ⟨haccepts, hdecode, hencode, hserver⟩ := acl_round_trips
  refine ⟨haccepts namedValue,
    hdecode namedAcl 44 (by decide) (by decide) (by decide) (by decide) (by decide),
    hencode namedValue namedAcl 44 (by decide) hdecodes (by decide), by decide, ?_⟩
  obtain ⟨-, hreads⟩ := hserver aclFile 0 namedValue namedAcl [] (namedAcl.map aclentOfEntry)
    _ _ (by decide) (by decide) (by decide) hdecodes hset (by simp [Favourable])
    ⟨_, rfl, _, rfl, _, rfl, rfl⟩
  obtain ⟨list, -, hlist⟩ := hreads naAcl _ _ _ 44 (by decide) hget (by simp [Favourable])
    ⟨_, ⟨fun _ ↦ rfl, rfl⟩, _, rfl, rfl⟩ (by decide)
  exact ⟨list, hlist⟩

/-- A value with many entries. -/
def repeatedValue (count : ℕ) : List UInt8 :=
  [2, 0, 0, 0] ++ (List.replicate count (⟨aclUserObj, 7, aclUndefinedId⟩ : PosixAclEntry)).flatMap
    entryToXattr

theorem length_repeatedValue (count : ℕ) : (repeatedValue count).length = 4 + 8 * count := by
  rw [repeatedValue, List.length_append, length_flatMap_entryToXattr, List.length_replicate]
  rfl

theorem validTag_repeatedValue {count position : ℕ} (h : position < count) :
    validTag (tagAt ((repeatedValue count).drop 4) position) = true := by
  have hvalid : ∀ entry ∈ List.replicate count (⟨aclUserObj, 7, aclUndefinedId⟩ : PosixAclEntry),
      validTag entry.eTag = true := by
    intro entry hmem
    rw [List.eq_of_mem_replicate hmem]
    decide
  have haccepted := (entriesFromXattr_isSome_iff _).mp
    (Option.isSome_iff_exists.mpr ⟨_, entriesFromXattr_flatMap hvalid⟩)
  refine haccepted.2 position ?_
  rw [length_flatMap_entryToXattr, List.length_replicate]
  omega

/-- A value with `2 ^ 31` entries is rejected, though its size, version and tags are right: the
number of entries is negative as an `int`. -/
theorem acl_count_overflows :
    (repeatedValue (2 ^ 31)).length = 4 + 8 * 2 ^ 31 ∧ xattrVersion (repeatedValue (2 ^ 31)) = 2 ∧
    (∀ position < 2 ^ 31, validTag (tagAt ((repeatedValue (2 ^ 31)).drop 4) position) = true) ∧
    Decodes (repeatedValue (2 ^ 31)) none := by
  refine ⟨length_repeatedValue _, rfl, fun _ h ↦ validTag_repeatedValue h, ?_⟩
  rw [decodes_iff, ← Option.not_isSome_iff_eq_none, parseXattr_isSome_iff]
  rintro ⟨count, hlength, -, hcount, -⟩
  rw [length_repeatedValue] at hlength
  obtain rfl : count = 2 ^ 31 := by omega
  exact absurd hcount (by decide)

end NfsFuse
