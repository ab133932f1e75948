import NfsFuse.Fuse.LookupCounts
import NfsFuse.Nfs3.Runs

/-!
# Attributes that are set and rights that are checked

What `SETATTR` carries for a request of the kernel, and what `hsx_fuse_access` makes of the reply to
`ACCESS`.  The bits of a request pass through the attribute mask of `hsx_fuse_stat2iattr`, where the
bit for a time stands for the server's clock and the bit for a given time is an addition to it;
`hsi_nfs3_setattr` lets the first override the second.
-/

namespace NfsFuse

open Lib

theorem or_and_ne_zero (left right mask : UInt32) :
    (left ||| right) &&& mask ≠ 0 ↔ left &&& mask ≠ 0 ∨ right &&& mask ≠ 0 := by
  rw [or_and_distrib, ne_eq, UInt32.or_eq_zero_iff]
  exact not_and_or

theorem ite_and_ne_zero {condition : Prop} [Decidable condition] (bits mask : UInt32) :
    (if condition then bits else 0) &&& mask ≠ 0 ↔ condition ∧ bits &&& mask ≠ 0 := by
  by_cases h : condition <;> simp [h]

/-- `FUSE_SET_ATTR_MODE` -/
abbrev fuseSetAttrMode : UInt32 := 1
abbrev fuseSetAttrUid : UInt32 := 2
abbrev fuseSetAttrGid : UInt32 := 4
abbrev fuseSetAttrSize : UInt32 := 8
abbrev fuseSetAttrAtime : UInt32 := 16
abbrev fuseSetAttrMtime : UInt32 := 32
abbrev fuseSetAttrAtimeNow : UInt32 := 128
abbrev fuseSetAttrMtimeNow : UInt32 := 256

theorem stat2iattrTime_and_ne_zero (toSet timeBit nowBit attrBit attrSetBit mask : UInt32) :
    stat2iattrTime toSet timeBit nowBit attrBit attrSetBit &&& mask ≠ 0 ↔
      toSet &&& timeBit ≠ 0 ∧
        (attrBit &&& mask ≠ 0 ∨ toSet &&& nowBit = 0 ∧ attrSetBit &&& mask ≠ 0) := by
  unfold stat2iattrTime
  by_cases hnow : toSet &&& nowBit = 0
  · simp only [hnow, if_true, ite_and_ne_zero, or_and_ne_zero, true_and]
  · simp only [hnow, if_false, ite_and_ne_zero, false_and, or_false]

/-- The bits of a request in the mask of `hsx_fuse_stat2iattr`. -/
theorem stat2iattr_valid_and_ne_zero (st : Stat) (toSet mask : UInt32) :
    (hsxFuseStat2iattr st toSet).valid &&& mask ≠ 0 ↔
      toSet &&& fuseSetAttrMode ≠ 0 ∧ hsfsAttrMode &&& mask ≠ 0 ∨
      toSet &&& fuseSetAttrUid ≠ 0 ∧ hsfsAttrUid &&& mask ≠ 0 ∨
      toSet &&& fuseSetAttrGid ≠ 0 ∧ hsfsAttrGid &&& mask ≠ 0 ∨
      toSet &&& fuseSetAttrSize ≠ 0 ∧ hsfsAttrSize &&& mask ≠ 0 ∨
      (toSet &&& fuseSetAttrAtime ≠ 0 ∧ (hsfsAttrAtime &&& mask ≠ 0 ∨
        toSet &&& fuseSetAttrAtimeNow = 0 ∧ hsfsAttrAtimeSet &&& mask ≠ 0)) ∨
      toSet &&& fuseSetAttrMtime ≠ 0 ∧ (hsfsAttrMtime &&& mask ≠ 0 ∨
        toSet &&& fuseSetAttrMtimeNow = 0 ∧ hsfsAttrMtimeSet &&& mask ≠ 0) := by
  unfold hsxFuseStat2iattr
  simp only [or_and_ne_zero, ite_and_ne_zero, stat2iattrTime_and_ne_zero, or_assoc]

/-- The shortcut of `hsi_nfs_setattr` drops a size. -/
def SizeDropped (inode : NfsInode) (size : ℤ) : Prop :=
  sIsreg inode.iattr.mode = false ∨ size = inode.iattr.size

instance (inode : NfsInode) (size : ℤ) : Decidable (SizeDropped inode size) :=
  inferInstanceAs (Decidable (_ ∨ _))

/-- The shortcut does not touch the other bits. -/
theorem setattrValid_and {inode : NfsInode} {attr : HsfsIattr} {mask : UInt32}
    (hvalid : nfsValidAttrs &&& mask = mask) (hsize : ~~~hsfsAttrSize &&& mask = mask) :
    setattrValid inode attr &&& mask = attr.valid &&& mask := by
  unfold setattrValid
  split_ifs
  · rw [UInt32.and_assoc, hvalid, UInt32.and_assoc, hsize]
  · rw [UInt32.and_assoc, hvalid]

theorem setattrValid_and_size (inode : NfsInode) (attr : HsfsIattr) :
    setattrValid inode attr &&& hsfsAttrSize ≠ 0 ↔
      attr.valid &&& hsfsAttrSize ≠ 0 ∧ ¬ SizeDropped inode attr.size := by
  unfold setattrValid
  by_cases hdropped : SizeDropped inode attr.size
  · by_cases hsize : attr.valid &&& hsfsAttrSize ≠ 0
    · rw [if_pos ⟨hsize, hdropped⟩, UInt32.and_assoc, UInt32.and_assoc,
        show ~~~hsfsAttrSize &&& (nfsValidAttrs &&& hsfsAttrSize) = 0 by decide]
      simp [hdropped]
    · rw [if_neg fun h ↦ hsize h.1, UInt32.and_assoc,
        show nfsValidAttrs &&& hsfsAttrSize = hsfsAttrSize by decide]
      simp [hdropped, not_not.mp hsize]
  · rw [if_neg fun h ↦ hdropped h.2, UInt32.and_assoc,
      show nfsValidAttrs &&& hsfsAttrSize = hsfsAttrSize by decide]
    simp [hdropped]

/-! ## What `SETATTR` carries -/

/-- A time on the wire is the one asked for: the given one, the server's, or none. -/
def TimeAsked (set now : Prop) (time : Timespec) : SetTime → Prop
  | .setToClientTime sent => set ∧ ¬ now ∧ (sent.seconds.toNat : ℤ) = time.tvSec ∧
      (sent.nseconds.toNat : ℤ) = time.tvNsec
  | .setToServerTime => now
  | .dontChange => ¬ set ∧ ¬ now

/-- The attributes on the wire are the ones a request asks for. -/
structure Asked (inode : NfsInode) (st : Stat) (toSet : UInt32) (sent : Sattr3) : Prop where
  mode : sent.mode =
    if toSet &&& fuseSetAttrMode ≠ 0 then some (st.stMode &&& ~~~sIfmt) else none
  uid : sent.uid = if toSet &&& fuseSetAttrUid ≠ 0 then some st.stUid else none
  gid : sent.gid = if toSet &&& fuseSetAttrGid ≠ 0 then some st.stGid else none
  size_sent : toSet &&& fuseSetAttrSize ≠ 0 → ¬ SizeDropped inode st.stSize →
    sent.size = some (UInt64.ofInt st.stSize)
  size_none : ¬ (toSet &&& fuseSetAttrSize ≠ 0 ∧ ¬ SizeDropped inode st.stSize) → sent.size = none
  atime : TimeAsked (toSet &&& fuseSetAttrAtime ≠ 0) (toSet &&& fuseSetAttrAtimeNow ≠ 0) st.stAtim
    sent.atime
  mtime : TimeAsked (toSet &&& fuseSetAttrMtime ≠ 0) (toSet &&& fuseSetAttrMtimeNow ≠ 0) st.stMtim
    sent.mtime

/-- The attributes that the chain of `hsx_fuse_stat2iattr`, `hsi_nfs_setattr` and `hsi_nfs3_setattr`
puts on the wire. -/
def sentSattr (inode : NfsInode) (st : Stat) (toSet : UInt32) : Sattr3 :=
  sattrOfIattr (passedIattr inode (hsxFuseStat2iattr st toSet))

/-- A bit that the shortcut does not touch reaches `hsi_nfs3_setattr` when it was set. -/
theorem passed_and_ne_zero (inode : NfsInode) (st : Stat) (toSet : UInt32) {mask : UInt32}
    {asked : Prop} (hvalid : nfsValidAttrs &&& mask = mask)
    (hsize : ~~~hsfsAttrSize &&& mask = mask)
    (hasked : (hsxFuseStat2iattr st toSet).valid &&& mask ≠ 0 ↔ asked) :
    (passedIattr inode (hsxFuseStat2iattr st toSet)).valid &&& mask ≠ 0 ↔ asked := by
  rw [passedIattr, setattrValid_and hvalid hsize]
  exact hasked

theorem passed_atime (inode : NfsInode) (st : Stat) (toSet : UInt32) :
    (passedIattr inode (hsxFuseStat2iattr st toSet)).valid &&& hsfsAttrAtime ≠ 0 ↔
      toSet &&& fuseSetAttrAtime ≠ 0 :=
  passed_and_ne_zero inode st toSet (by decide) (by decide)
    ((stat2iattr_valid_and_ne_zero st toSet _).trans (by simp +decide))

theorem passed_mtime (inode : NfsInode) (st : Stat) (toSet : UInt32) :
    (passedIattr inode (hsxFuseStat2iattr st toSet)).valid &&& hsfsAttrMtime ≠ 0 ↔
      toSet &&& fuseSetAttrMtime ≠ 0 :=
  passed_and_ne_zero inode st toSet (by decide) (by decide)
    ((stat2iattr_valid_and_ne_zero st toSet _).trans (by simp +decide))

/-- A given time whose bit comes with the bit of the server's clock is not sent. -/
theorem setTimeOf_eq {valid setBit nowBit : UInt32} (time : Timespec)
    (h : valid &&& setBit ≠ 0 → valid &&& nowBit ≠ 0) :
    setTimeOf valid setBit nowBit time =
      if valid &&& nowBit ≠ 0 then .setToServerTime else .dontChange := by
  unfold setTimeOf
  by_cases hnow : valid &&& nowBit ≠ 0
  · rw [if_pos hnow, if_pos hnow]
  · rw [if_neg hnow, if_neg hnow, if_neg fun hset ↦ hnow (h hset)]

/-- No given time reaches the wire. -/
theorem sentSattr_eq (inode : NfsInode) (st : Stat) (toSet : UInt32) :
    sentSattr inode st toSet =
      { mode := if toSet &&& fuseSetAttrMode ≠ 0 then some (st.stMode &&& ~~~sIfmt) else none
        uid := if toSet &&& fuseSetAttrUid ≠ 0 then some st.stUid else none
        gid := if toSet &&& fuseSetAttrGid ≠ 0 then some st.stGid else none
        size :=
          if toSet &&& fuseSetAttrSize ≠ 0 ∧ ¬ SizeDropped inode st.stSize then
            some (UInt64.ofInt st.stSize)
          else none
        atime := if toSet &&& fuseSetAttrAtime ≠ 0 then .setToServerTime else .dontChange
        mtime := if toSet &&& fuseSetAttrMtime ≠ 0 then .setToServerTime else .dontChange } := by
  have hbit (mask : UInt32) := stat2iattr_valid_and_ne_zero st toSet mask
  have hpassed {mask : UInt32} {asked : Prop} (hvalid : nfsValidAttrs &&& mask = mask)
      (hsize : ~~~hsfsAttrSize &&& mask = mask) :=
    @passed_and_ne_zero inode st toSet mask asked hvalid hsize
  have hatime := passed_atime inode st toSet
  have hatimeSet : (passedIattr inode (hsxFuseStat2iattr st toSet)).valid &&& hsfsAttrAtimeSet ≠ 0 ↔
      toSet &&& fuseSetAttrAtime ≠ 0 ∧ toSet &&& fuseSetAttrAtimeNow = 0 :=
    hpassed (by decide) (by decide) ((hbit _).trans (by simp +decide))
  have hmtime := passed_mtime inode st toSet
  have hmtimeSet : (passedIattr inode (hsxFuseStat2iattr st toSet)).valid &&& hsfsAttrMtimeSet ≠ 0 ↔
      toSet &&& fuseSetAttrMtime ≠ 0 ∧ toSet &&& fuseSetAttrMtimeNow = 0 :=
    hpassed (by decide) (by decide) ((hbit _).trans (by simp +decide))
  have hsize := setattrValid_and_size inode (hsxFuseStat2iattr st toSet)
  rw [sentSattr, sattrOfIattr, setTimeOf_eq _ fun hset ↦ hatime.mpr (hatimeSet.mp hset).1,
    setTimeOf_eq _ fun hset ↦ hmtime.mpr (hmtimeSet.mp hset).1]
  congr 1
  · exact if_congr (hpassed (by decide) (by decide) ((hbit _).trans (by simp +decide))) rfl rfl
  · exact if_congr (hpassed (by decide) (by decide) ((hbit _).trans (by simp +decide))) rfl rfl
  · exact if_congr (hpassed (by decide) (by decide) ((hbit _).trans (by simp +decide))) rfl rfl
  · refine if_congr (hsize.trans (and_congr_left' ((hbit _).trans ?_))) rfl rfl
    simp +decide
  · exact if_congr hatime rfl rfl
  · exact if_congr hmtime rfl rfl

/-- A time that is set is asked for in the way it is sent exactly if it is the server's. -/
theorem timeAsked_sent_iff {set now : Prop} [Decidable set] (hnow : now → set) (time : Timespec) :
    TimeAsked set now time (if set then .setToServerTime else .dontChange) ↔ (set → now) := by
  by_cases hset : set
  · rw [if_pos hset]
    exact ⟨fun h _ ↦ h, fun h ↦ h hset⟩
  · rw [if_neg hset]
    exact ⟨fun _ h ↦ absurd h hset, fun _ ↦ ⟨hset, fun h ↦ hset (hnow h)⟩⟩

/-- The attributes sent are the ones asked for exactly if no time is given by the client. -/
theorem asked_sentSattr_iff (inode : NfsInode) (st : Stat) {toSet : UInt32}
    (hatime : toSet &&& fuseSetAttrAtimeNow ≠ 0 → toSet &&& fuseSetAttrAtime ≠ 0)
    (hmtime : toSet &&& fuseSetAttrMtimeNow ≠ 0 → toSet &&& fuseSetAttrMtime ≠ 0) :
    Asked inode st toSet (sentSattr inode st toSet) ↔
      (toSet &&& fuseSetAttrAtime ≠ 0 → toSet &&& fuseSetAttrAtimeNow ≠ 0) ∧
      (toSet &&& fuseSetAttrMtime ≠ 0 → toSet &&& fuseSetAttrMtimeNow ≠ 0) := by
  rw [sentSattr_eq]
  constructor
  · intro h
    exact ⟨(timeAsked_sent_iff hatime st.stAtim).mp h.atime,
      (timeAsked_sent_iff hmtime st.stMtim).mp h.mtime⟩
  · rintro ⟨hatime', hmtime'⟩
    exact
      { mode := rfl
        uid := rfl
        gid := rfl
        size_sent := fun hset hkept ↦ if_pos ⟨hset, hkept⟩
        size_none := fun h ↦ if_neg h
        atime := (timeAsked_sent_iff hatime st.stAtim).mpr hatime'
        mtime := (timeAsked_sent_iff hmtime st.stMtim).mpr hmtime' }

/-- **What `setattr` sends.** Every `SETATTR` of the chain carries what was asked for exactly if the
request gives no time of the client. -/
theorem setattr_sends_asked_iff (daemon : Daemon) (index : ℕ) (st : Stat) (toSet : UInt32)
    (trace : Trace) (ending : Ending Fault Daemon ℤ)
    (hatime : toSet &&& fuseSetAttrAtimeNow ≠ 0 → toSet &&& fuseSetAttrAtime ≠ 0)
    (hmtime : toSet &&& fuseSetAttrMtimeNow ≠ 0 → toSet &&& fuseSetAttrMtime ≠ 0)
    (hpath : ((hsiNfsSetattr index (hsxFuseStat2iattr st toSet)).run daemon).Path trace ending) :
    (∀ fh sent outcome, (⟨.call (.setattr fh sent), outcome⟩ : Event EnvAns) ∈ trace →
      Asked (daemon.inode index) st toSet sent) ↔
      (toSet &&& fuseSetAttrAtime ≠ 0 → toSet &&& fuseSetAttrAtimeNow ≠ 0) ∧
      (toSet &&& fuseSetAttrMtime ≠ 0 → toSet &&& fuseSetAttrMtimeNow ≠ 0) := by
  rw [← asked_sentSattr_iff (daemon.inode index) st hatime hmtime]
  rcases hsiNfsSetattr_path hpath with ⟨hvalid, rfl, -⟩ | ⟨-, outcome, rfl, -⟩
  · refine iff_of_true (fun _ _ _ hmem ↦ absurd hmem List.not_mem_nil) ?_
    -- without a call no time is set
    have hnone : (passedIattr (daemon.inode index) (hsxFuseStat2iattr st toSet)).valid = 0 := hvalid
    rw [asked_sentSattr_iff (daemon.inode index) st hatime hmtime,
      ← passed_atime (daemon.inode index) st, ← passed_mtime (daemon.inode index) st, hnone]
    simp
  · constructor
    · intro h
      exact h _ _ outcome (List.mem_singleton.mpr rfl)
    · intro h fh sent outcome' hmem
      cases List.mem_singleton.mp hmem
      exact h

/-- A change of the root's mode and of its times to the server's clock is sent as asked. -/
theorem setattr_sends_touch : ∃ sent ending,
    ((hsiNfsSetattr 0 (hsxFuseStat2iattr { Stat.cleared with stMode := 0o40700 } 0x1b1)).run
      mountedCache).Path [⟨.call (.setattr [0] sent), RpcOutcome.fail 5 (by decide)⟩] ending ∧
      Asked (mountedCache.inode 0) { Stat.cleared with stMode := 0o40700 } 0x1b1 sent := by
  have hpath : ((hsiNfsSetattr 0
    (hsxFuseStat2iattr { Stat.cleared with stMode := 0o40700 } 0x1b1)).run
      mountedCache).Path [⟨.call (.setattr [0] _), RpcOutcome.fail 5 (by decide)⟩] _ :=
    ⟨_, _, rfl, rfl, rfl⟩
  exact ⟨_, _, hpath, (setattr_sends_asked_iff mountedCache 0 _ _ _ _ (by decide) (by decide)
    hpath).mpr (by decide) _ _ _ List.mem_cons_self⟩

/-- An access time of 5 s is replaced by the clock of the server. -/
theorem given_atime_not_sent : ∃ ending,
    ((hsiNfsSetattr 0 (hsxFuseStat2iattr { Stat.cleared with stAtim := ⟨5, 0⟩ }
      fuseSetAttrAtime)).run
      mountedCache).Path
      [⟨.call (.setattr [0] { Sattr3.cleared with atime := .setToServerTime }),
        RpcOutcome.fail 5 (by decide)⟩] ending ∧
      ¬ Asked (mountedCache.inode 0) { Stat.cleared with stAtim := ⟨5, 0⟩ } fuseSetAttrAtime
        { Sattr3.cleared with atime := .setToServerTime } :=
  ⟨_, ⟨_, _, rfl, rfl, rfl⟩, fun h ↦ h.atime (by decide)⟩

/-! ## What `access` answers -/

/-- The server has answered `NFS3_OK` and granted all bits of a word. -/
def Granted (word : UInt32) (outcome : RpcOutcome UInt32) : Prop :=
  ∃ granted, outcome = .done (.ok granted) ∧ granted &&& word = word

/-- The server has answered `NFS3_OK` and denied a bit of a word. -/
def Denied (word : UInt32) (outcome : RpcOutcome UInt32) : Prop :=
  ∃ granted, outcome = .done (.ok granted) ∧ granted &&& word ≠ word

/-- An error number of 0 says that the server grants the requested bits, and a denial is
`EACCES`. -/
def AccessTruthful (word : UInt32) (outcome : RpcOutcome UInt32) (err : ℤ) : Prop :=
  (err = 0 ↔ Granted word outcome) ∧ (Denied word outcome → err = eacces)

/-- The bits that `hsx_fuse_access` asks for are among those `hsi_nfs3_access` lets through. -/
theorem accessMode_and (dir : Bool) (mask : UInt32) :
    accessMode dir mask &&& 0x3f = accessMode dir mask := by
  unfold accessMode
  by_cases hread : mask &&& 4 = 0 <;> by_cases hwrite : mask &&& 2 = 0 <;>
    by_cases hexec : mask &&& 1 = 0 <;> cases dir <;>
    simp only [hread, hwrite, hexec, ne_eq, not_true, not_false_eq_true, if_true, if_false] <;>
      decide

/-- The word of the call is never compared with the granted one. -/
theorem hsxFuseAccess_path {daemon : Daemon} {ino : UInt64} {index : ℕ} {mask : UInt32}
    {trace : Trace} {ending : Ending Fault Daemon Unit} (hcoherent : Coherent daemon)
    (hfind : daemon.findIno ino = some index)
    (hpath : ((hsxFuseAccess ino mask).run daemon).Path trace ending) :
    ∃ outcome, trace = [⟨.call (.access (hsiNfs3Getfh3 (daemon.inode index))
        (accessMode (sIsdir (daemon.inode index).iattr.mode) mask)), outcome⟩] ∧
      ending = .done () { daemon with replies := daemon.replies ++ [.err (statusOf outcome)] } := by
  rw [hsxFuseAccess, hcoherent.ilookup_bind, hfind] at hpath
  change ((hsiNfs3Access index (accessMode (sIsdir (daemon.inode index).iattr.mode) mask) >>=
    fun err ↦ Prog.reply (.err err)).run daemon).Path trace ending at hpath
  rw [hsiNfs3Access, accessMode_and] at hpath
  obtain ⟨outcome, rest, rfl, rfl, rfl⟩ := hpath
  exact ⟨outcome, rfl, rfl⟩

/-- Only a denial is misreported. -/
theorem accessTruthful_statusOf_iff (word : UInt32) (outcome : RpcOutcome UInt32) :
    AccessTruthful word outcome (statusOf outcome) ↔ ¬ Denied word outcome := by
  constructor
  · rintro ⟨-, hdenied⟩ hdenial
    have heacces := hdenied hdenial
    obtain ⟨granted, rfl, -⟩ := hdenial
    exact absurd heacces (show (0 : ℤ) ≠ eacces by decide)
  · intro hgranted
    refine ⟨?_, fun hdenial ↦ absurd hdenial hgranted⟩
    rw [statusOf_eq_zero_iff]
    constructor
    · rintro ⟨granted, rfl⟩
      exact ⟨granted, rfl, not_not.mp fun hne ↦ hgranted ⟨granted, rfl, hne⟩⟩
    · rintro ⟨granted, rfl, -⟩
      exact ⟨granted, rfl⟩

/-- **What `access` grants.** The handler sends one `ACCESS` with the bits for the mask and the type
of the file and one reply, and the reply is truthful exactly if the server denies none of the
bits. -/
theorem access_truthful_iff (daemon : Daemon) (ino : UInt64) (index : ℕ) (mask : UInt32)
    (trace : Trace) (ending : Ending Fault Daemon Unit) (hcoherent : Coherent daemon)
    (hfind : daemon.findIno ino = some index)
    (hpath : ((hsxFuseAccess ino mask).run daemon).Path trace ending) :
    ∃ word outcome err, word = accessMode (sIsdir (daemon.inode index).iattr.mode) mask ∧
      trace = [⟨.call (.access (hsiNfs3Getfh3 (daemon.inode index)) word), outcome⟩] ∧
      ending = .done () { daemon with replies := daemon.replies ++ [.err err] } ∧
      (AccessTruthful word outcome err ↔ ¬ Denied word outcome) := by
  obtain ⟨outcome, rfl, rfl⟩ := hsxFuseAccess_path hcoherent hfind hpath
  exact ⟨_, outcome, statusOf outcome, rfl, rfl, rfl, accessTruthful_statusOf_iff _ outcome⟩

/-- The right to search the root, which the server grants. -/
theorem access_granted : ∃ err,
    ((hsxFuseAccess 1 1).run mountedCache).Path
      [⟨.call (.access [0] 2), RpcOutcome.done (.ok (2 : UInt32))⟩]
      (.done () { mountedCache with replies := mountedCache.replies ++ [.err err] }) ∧
    AccessTruthful 2 (.done (.ok 2)) err := by
  have hcoherent := mounted_mountedCache.coherent
  have hpath : ((hsxFuseAccess 1 1).run mountedCache).Path
      [⟨.call (.access [0] 2), RpcOutcome.done (.ok (2 : UInt32))⟩]
      (.done () { mountedCache with replies := mountedCache.replies ++ [.err 0] }) := by
    rw [hsxFuseAccess, hcoherent.ilookup_bind]
    exact ⟨_, _, rfl, rfl, rfl⟩
  obtain ⟨word, outcome, err, rfl, htrace, hending, htruthful⟩ :=
    access_truthful_iff mountedCache 1 0 1 _ _ hcoherent (by decide) hpath
  cases htrace
  cases hending
  refine ⟨0, hpath, htruthful.mpr ?_⟩
  rintro ⟨granted, heq, hne⟩
  cases heq
  exact hne (by decide)

/-- The right to write the root, which the server denies in a successful reply, is granted. -/
theorem denied_access_granted : Coherent mountedCache ∧ mountedCache.findIno 1 = some 0 ∧
    ((hsxFuseAccess 1 2).run mountedCache).Path
      [⟨.call (.access [0] 0x1c), RpcOutcome.done (.ok (0 : UInt32))⟩]
      (.done () { mountedCache with replies := mountedCache.replies ++ [.err 0] }) ∧
    ¬ AccessTruthful 0x1c (.done (.ok 0)) 0 := by
  have hcoherent := mounted_mountedCache.coherent
  refine ⟨hcoherent, by decide, ?_, ?_⟩
  · rw [hsxFuseAccess, hcoherent.ilookup_bind]
    exact ⟨_, _, rfl, rfl, rfl⟩
  · rintro ⟨-, hdenied⟩
    exact absurd (hdenied ⟨0, rfl, by decide⟩) (by decide)

end NfsFuse
