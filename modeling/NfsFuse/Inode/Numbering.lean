import NfsFuse.Inode.Nfs
import Mathlib.Data.Set.Card
import Mathlib.Order.Interval.Set.Nat

/-!
# Inode numbers

Every inode entered into the cache gets a number from a 64-bit counter that skips 0 always and 1
after its first turn.  `Numbered` is the invariant: the number table holds exactly the hashed
inodes, their numbers are distinct and non-zero, and number 1 belongs to the inode entered first.
It holds after every sequence of `hsfs_iget5_locked` and `hsi_nfs_fhget` calls, whatever their
callbacks, handles and attributes, also once the counter has wrapped around.
-/

namespace NfsFuse

open Lib

theorem nextId_toNat_of_lt {current : UInt64} (h : current.toNat + 1 < 2 ^ 64) :
    (nextId current).toNat = current.toNat + 1 := by
  have hadd : (current + 1).toNat = current.toNat + 1 := by
    rw [UInt64.toNat_add]
    change (current.toNat + 1) % 2 ^ 64 = _
    omega
  have hne : current + 1 ≠ 0 := by
    intro hzero
    rw [hzero] at hadd
    simp at hadd
  rw [nextId, if_neg hne, hadd]

theorem nextId_of_last {current : UInt64} (h : current.toNat = 2 ^ 64 - 1) :
    nextId current = 2 := by
  have hzero : current + 1 = 0 := by
    rw [← UInt64.toNat_inj, UInt64.toNat_add]
    change (current.toNat + 1) % 2 ^ 64 = 0
    omega
  rw [nextId, if_pos hzero]

theorem nextId_cases (current : UInt64) :
    (nextId current).toNat = current.toNat + 1 ∨ nextId current = 2 := by
  have hlt := current.toNat_lt
  by_cases hlast : current.toNat = 2 ^ 64 - 1
  · exact Or.inr (nextId_of_last hlast)
  · exact Or.inl (nextId_toNat_of_lt (by omega))

theorem nextId_ne_zero (current : UInt64) : nextId current ≠ 0 := by
  rcases nextId_cases current with h | h
  · intro hzero
    rw [hzero] at h
    simp at h
  · rw [h]
    decide

theorem nextId_ne_one {current : UInt64} (h : current ≠ 0) : nextId current ≠ 1 := by
  rcases nextId_cases current with hnext | hnext
  · intro hone
    rw [hone] at hnext
    exact h (UInt64.toNat_inj.mp (by simpa using hnext.symm))
  · rw [hnext]
    decide

theorem nextId_iterate_toNat {steps : ℕ} {current : UInt64}
    (h : current.toNat + steps < 2 ^ 64) :
    (nextId^[steps] current).toNat = current.toNat + steps := by
  induction steps with
  | zero => rfl
  | succ steps ih =>
    have hprev := ih (by omega)
    rw [Function.iterate_succ_apply', nextId_toNat_of_lt (by omega), hprev]
    omega

/-- Every number from 2 on comes round within 2^64 steps. -/
theorem exists_nextId_iterate (current : UInt64) {target : UInt64} (h : 2 ≤ target.toNat) :
    ∃ steps < 2 ^ 64, nextId^[steps + 1] current = target := by
  have hcurrent := current.toNat_lt
  have htarget := target.toNat_lt
  by_cases hlt : current.toNat < target.toNat
  · refine ⟨target.toNat - current.toNat - 1, by omega, UInt64.toNat_inj.mp ?_⟩
    rw [nextId_iterate_toNat (by omega)]
    omega
  · have hlast : nextId^[2 ^ 64 - 1 - current.toNat + 1] current = 2 := by
      rw [Function.iterate_succ_apply']
      exact nextId_of_last (by rw [nextId_iterate_toNat (by omega)]; omega)
    refine ⟨target.toNat - 2 + (2 ^ 64 - 1 - current.toNat), by omega, UInt64.toNat_inj.mp ?_⟩
    rw [Nat.add_assoc, Function.iterate_add_apply, hlast]
    have htwo : (2 : UInt64).toNat = 2 := rfl
    rw [nextId_iterate_toNat (by omega)]
    omega

/-- The inodes in the number table. -/
def Daemon.hashed (daemon : Daemon) : Set ℕ :=
  { index | ∃ bucket, index ∈ daemon.sb.idTable.chain bucket }

/-- What the numbering keeps true. -/
structure Numbered (daemon : Daemon) : Prop where
  live : daemon.Live
  holds : daemon.sb.idTable.Holds hashMin (fun index ↦ (daemon.inode index).ino) daemon.hashed
  ino_ne_zero : ∀ index ∈ daemon.hashed, (daemon.inode index).ino ≠ 0
  ino_inj : ∀ index ∈ daemon.hashed, ∀ other ∈ daemon.hashed,
    (daemon.inode index).ino = (daemon.inode other).ino → index = other
  ino_one : ∀ index ∈ daemon.hashed,
    ((daemon.inode index).ino = 1 ↔ ∀ other ∈ daemon.hashed, index ≤ other)
  start : daemon.sb.currId = 0 ↔ daemon.hashed = ∅

variable {daemon : Daemon}

theorem Daemon.Live.lt_of_hashed (h : daemon.Live) {index : ℕ} (hmem : index ∈ daemon.hashed) :
    index < daemon.heap.length := by
  obtain ⟨bucket, hchain⟩ := hmem
  exact (h.idTable bucket index hchain).1

/-- A lookup by number finds exactly the hashed inode with that number. -/
theorem Numbered.findIno_eq_some_iff (h : Numbered daemon) (ino : UInt64) (index : ℕ) :
    daemon.findIno ino = some index ↔ index ∈ daemon.hashed ∧ (daemon.inode index).ino = ino := by
  rw [Daemon.findIno, h.holds.find_eq_some_iff]
  · simp
  · simp
  · intro index hmem other hother hindex hother'
    simp only [beq_iff_eq] at hindex hother'
    exact h.ino_inj index hmem other hother (hindex.trans hother'.symm)

theorem Numbered.findIno_eq_none_iff (h : Numbered daemon) (ino : UInt64) :
    daemon.findIno ino = none ↔ ∀ index ∈ daemon.hashed, (daemon.inode index).ino ≠ ino := by
  rw [Daemon.findIno, h.holds.find_eq_none_iff]
  · simp
  · simp

theorem Numbered.freeId_unused (h : Numbered daemon) {id : UInt64} (hid : daemon.freeId = some id) :
    ∀ index ∈ daemon.hashed, (daemon.inode index).ino ≠ id := by
  rw [← h.findIno_eq_none_iff]
  simpa [Daemon.idInUse] using searchOrbit_unused hid

theorem Daemon.freeId_ne_zero {id : UInt64} (hid : daemon.freeId = some id) : id ≠ 0 := by
  obtain ⟨value, -, rfl⟩ := searchOrbit_exists_pred (fun _ ↦ True) hid trivial
    fun _ _ ↦ trivial
  exact nextId_ne_zero value

/-- Number 1 is given exactly to the inode entered into the empty cache. -/
theorem Numbered.freeId_eq_one_iff (h : Numbered daemon) {id : UInt64}
    (hid : daemon.freeId = some id) : id = 1 ↔ daemon.hashed = ∅ := by
  rw [← h.start]
  constructor
  · intro hone
    by_contra hne
    obtain ⟨value, hvalue, rfl⟩ := searchOrbit_exists_pred (fun id ↦ id ≠ 0) hid hne
      fun value _ ↦ nextId_ne_zero value
    exact nextId_ne_one hvalue hone
  · intro hzero
    have hempty : daemon.hashed = ∅ := h.start.mp hzero
    have hunused : daemon.idInUse (nextId daemon.sb.currId) = false := by
      simp [Daemon.idInUse, (h.findIno_eq_none_iff _).mpr (by simp [hempty])]
    rw [Daemon.freeId, searchOrbit_of_unused (by decide) hunused, hzero] at hid
    exact (Option.some.inj hid).symm

/-- The numbers from 2 on. -/
theorem ncard_two_le : { id : UInt64 | 2 ≤ id.toNat }.ncard = 2 ^ 64 - 2 := by
  have himage : { id : UInt64 | 2 ≤ id.toNat } = Set.image UInt64.ofNat (Set.Ico 2 (2 ^ 64)) := by
    ext id
    constructor
    · intro hle
      exact ⟨id.toNat, ⟨hle, id.toNat_lt⟩, UInt64.ofNat_toNat⟩
    · rintro ⟨value, ⟨hle, hlt⟩, rfl⟩
      change 2 ≤ (UInt64.ofNat value).toNat
      rwa [UInt64.toNat_ofNat_of_lt' hlt]
  have hinj : Set.InjOn UInt64.ofNat (Set.Ico 2 (2 ^ 64)) := by
    intro a ha b hb hab
    have := congrArg UInt64.toNat hab
    rwa [UInt64.toNat_ofNat_of_lt' ha.2, UInt64.toNat_ofNat_of_lt' hb.2] at this
  rw [himage, hinj.ncard_image, Set.ncard_Ico_nat]

theorem Daemon.Live.hashed_finite (h : daemon.Live) : daemon.hashed.Finite :=
  (Set.finite_lt_nat daemon.heap.length).subset fun _ hmem ↦ h.lt_of_hashed hmem

theorem two_le_toNat {id : UInt64} (hzero : id ≠ 0) (hone : id ≠ 1) : 2 ≤ id.toNat := by
  rw [ne_eq, ← UInt64.toNat_inj] at hzero hone
  have htoNat : (0 : UInt64).toNat = 0 ∧ (1 : UInt64).toNat = 1 := ⟨rfl, rfl⟩
  omega

/-- A number that is not in use is found. -/
theorem Numbered.freeId_isSome (h : Numbered daemon) {id : UInt64}
    (hid : 2 ≤ id.toNat) (hfree : ∀ index ∈ daemon.hashed, (daemon.inode index).ino ≠ id) :
    daemon.freeId.isSome = true := by
  obtain ⟨steps, hsteps, horbit⟩ := exists_nextId_iterate daemon.sb.currId hid
  refine searchOrbit_isSome hsteps ?_
  rw [horbit, Daemon.idInUse, (h.findIno_eq_none_iff id).mpr hfree]
  rfl

/-- While fewer than 2^64 - 2 inodes are hashed, the loop finds a number. -/
theorem Numbered.exists_freeId (h : Numbered daemon) (hcard : daemon.hashed.ncard < 2 ^ 64 - 2) :
    ∃ id, daemon.freeId = some id := by
  have hfinite := h.live.hashed_finite
  have hused : (Set.image (fun index ↦ (daemon.inode index).ino) daemon.hashed).ncard <
      { id : UInt64 | 2 ≤ id.toNat }.ncard := by
    rw [ncard_two_le]
    exact lt_of_le_of_lt (Set.ncard_image_le hfinite) hcard
  obtain ⟨id, hid, hfree⟩ := Set.exists_mem_notMem_of_ncard_lt_ncard hused (hfinite.image _)
  exact Option.isSome_iff_exists.mp
    (h.freeId_isSome hid fun index hmem heq ↦ hfree ⟨index, hmem, heq⟩)

@[simp]
theorem Daemon.setInode_hashed (daemon : Daemon) (index : ℕ) (inode : NfsInode) :
    (daemon.setInode index inode).hashed = daemon.hashed := rfl

theorem Daemon.Live.setInode (h : daemon.Live) (index : ℕ) (inode : NfsInode) :
    (daemon.setInode index inode).Live where
  idTable bucket other hmem := by
    simpa [Daemon.Allocated] using h.idTable bucket other hmem
  fhTable bucket other hmem := by
    simpa [Daemon.Allocated] using h.fhTable bucket other hmem
  freed_lt other hmem := by
    simpa using h.freed_lt other hmem

/-- The invariant looks at the tables, the counter and the numbers only. -/
theorem Numbered.congr (h : Numbered daemon) {daemon' : Daemon} (hlive : daemon'.Live)
    (htable : daemon'.sb.idTable = daemon.sb.idTable)
    (hcurrId : daemon'.sb.currId = daemon.sb.currId)
    (hino : ∀ index ∈ daemon.hashed, (daemon'.inode index).ino = (daemon.inode index).ino) :
    Numbered daemon' := by
  have hhashed : daemon'.hashed = daemon.hashed := by
    simp only [Daemon.hashed, htable]
  constructor
  · exact hlive
  · rw [hhashed, htable]
    exact h.holds.congr_key _ hino
  · rw [hhashed]
    intro index hmem
    rw [hino index hmem]
    exact h.ino_ne_zero index hmem
  · rw [hhashed]
    intro index hmem other hother
    rw [hino index hmem, hino other hother]
    exact h.ino_inj index hmem other hother
  · rw [hhashed]
    intro index hmem
    rw [hino index hmem]
    exact h.ino_one index hmem
  · rw [hhashed, hcurrId]
    exact h.start

theorem Numbered.setInode (h : Numbered daemon) (index : ℕ) {inode : NfsInode}
    (hino : inode.ino = (daemon.inode index).ino) : Numbered (daemon.setInode index inode) :=
  h.congr (h.live.setInode index inode) rfl rfl
    fun other _ ↦ Daemon.inode_setInode_proj NfsInode.ino hino other

/-- A failed callback leaves a freed inode that was never hashed. -/
theorem Numbered.push_freed (h : Numbered daemon) (inode : NfsInode) :
    Numbered (daemon.pushFreed inode) := by
  have hpush := h.live.push inode
  have hne {index : ℕ} (hlt : index < daemon.heap.length) (hfreed : index ∉ daemon.freed) :
      index ∉ daemon.heap.length :: daemon.freed := by
    simp only [List.mem_cons, not_or]
    exact ⟨hlt.ne, hfreed⟩
  refine h.congr ⟨fun bucket index hmem ↦ ?_, fun bucket index hmem ↦ ?_, ?_⟩ rfl rfl ?_
  · exact ⟨(hpush.idTable bucket index hmem).1,
      hne (h.live.idTable bucket index hmem).1 (h.live.idTable bucket index hmem).2⟩
  · exact ⟨(hpush.fhTable bucket index hmem).1,
      hne (h.live.fhTable bucket index hmem).1 (h.live.fhTable bucket index hmem).2⟩
  · intro index hmem
    rcases List.mem_cons.mp hmem with rfl | hmem
    · simp [Daemon.pushFreed]
    · exact hpush.freed_lt index hmem
  · intro index hmem
    exact congrArg NfsInode.ino (Daemon.push_inode_lt (h.live.lt_of_hashed hmem) inode)

theorem Daemon.enter_hashed (daemon : Daemon) (key id : UInt64) (inode : NfsInode) :
    (daemon.enter key id inode).hashed = insert daemon.heap.length daemon.hashed := by
  have hchain (bucket : Fin 1024) : (daemon.enter key id inode).sb.idTable.chain bucket =
      if bucket = hashMin id then daemon.heap.length :: daemon.sb.idTable.chain bucket
      else daemon.sb.idTable.chain bucket := HashTable.chain_add _ _ _ _
  ext index
  constructor
  · rintro ⟨bucket, hmem⟩
    rw [hchain] at hmem
    split_ifs at hmem
    · rcases List.mem_cons.mp hmem with rfl | hmem
      · exact Set.mem_insert _ _
      · exact Set.mem_insert_of_mem _ ⟨bucket, hmem⟩
    · exact Set.mem_insert_of_mem _ ⟨bucket, hmem⟩
  · rintro (rfl | ⟨bucket, hmem⟩)
    · exact ⟨hashMin id, by rw [hchain, if_pos rfl]; exact List.mem_cons_self⟩
    · refine ⟨bucket, ?_⟩
      rw [hchain]
      split_ifs
      · exact List.mem_cons_of_mem _ hmem
      · exact hmem

theorem Daemon.Live.enter (h : daemon.Live) (key id : UInt64) (inode : NfsInode) :
    (daemon.enter key id inode).Live := by
  have hpush := h.push inode
  have hnew : (daemon.push inode).Allocated daemon.heap.length :=
    ⟨by simp [Daemon.push], h.length_notMem_freed⟩
  have hchain (table : InodeTable) (target bucket : Fin 1024) (index : ℕ)
      (hall : ∀ index ∈ table.chain bucket, (daemon.push inode).Allocated index)
      (hmem : index ∈ (table.add target daemon.heap.length).chain bucket) :
      (daemon.push inode).Allocated index := by
    rw [HashTable.chain_add] at hmem
    split_ifs at hmem
    · rcases List.mem_cons.mp hmem with rfl | hmem
      · exact hnew
      · exact hall index hmem
    · exact hall index hmem
  exact ⟨fun bucket index hmem ↦ hchain _ _ bucket index (hpush.idTable bucket) hmem,
    fun bucket index hmem ↦ hchain _ _ bucket index (hpush.fhTable bucket) hmem, hpush.freed_lt⟩

/-- Entering an inode under the next free number. -/
theorem Numbered.enter (h : Numbered daemon) {id : UInt64} (hid : daemon.freeId = some id)
    (key : UInt64) {inode : NfsInode} (hino : inode.ino = id) :
    Numbered (daemon.enter key id inode) := by
  have hold : ∀ index ∈ daemon.hashed,
      (daemon.enter key id inode).inode index = daemon.inode index :=
    fun index hmem ↦ Daemon.enter_inode_lt (h.live.lt_of_hashed hmem) key id inode
  have hself : ((daemon.enter key id inode).inode daemon.heap.length).ino = id := by
    rw [Daemon.enter_inode_self, hino]
  have hnotMem : daemon.heap.length ∉ daemon.hashed :=
    fun hmem ↦ absurd (h.live.lt_of_hashed hmem) (lt_irrefl _)
  have hunused := h.freeId_unused hid
  refine ⟨h.live.enter key id inode, ?_, ?_, ?_, ?_, ?_⟩
  · have hholds := (h.holds.congr_key (fun index ↦ ((daemon.enter key id inode).inode index).ino)
      fun index hmem ↦ by rw [hold index hmem]).add hnotMem
    rw [hself] at hholds
    rw [Daemon.enter_hashed]
    exact hholds
  · rw [Daemon.enter_hashed]
    rintro index (rfl | hmem)
    · rw [hself]
      exact Daemon.freeId_ne_zero hid
    · rw [hold index hmem]
      exact h.ino_ne_zero index hmem
  · rw [Daemon.enter_hashed]
    rintro index (rfl | hmem) other (rfl | hother) heq
    · rfl
    · rw [hself, hold other hother] at heq
      exact absurd heq.symm (hunused other hother)
    · rw [hself, hold index hmem] at heq
      exact absurd heq (hunused index hmem)
    · rw [hold index hmem, hold other hother] at heq
      exact h.ino_inj index hmem other hother heq
  · rw [Daemon.enter_hashed]
    rintro index (rfl | hmem)
    · rw [hself, h.freeId_eq_one_iff hid]
      constructor
      · rintro hempty other (rfl | hother)
        · exact le_rfl
        · simp [hempty] at hother
      · intro hle
        refine Set.eq_empty_iff_forall_notMem.mpr fun other hother ↦ ?_
        exact absurd (hle other (Or.inr hother)) (not_le.mpr (h.live.lt_of_hashed hother))
    · rw [hold index hmem, h.ino_one index hmem]
      constructor
      · rintro hle other (rfl | hother)
        · exact (h.live.lt_of_hashed hmem).le
        · exact hle other hother
      · exact fun hle other hother ↦ hle other (Or.inr hother)
  · rw [Daemon.enter_hashed]
    constructor
    · intro hzero
      exact absurd hzero (Daemon.freeId_ne_zero hid)
    · intro hempty
      exact absurd hempty (Set.insert_nonempty _ _).ne_empty

/-! ## Runs -/

/-- The daemon with an initialised cache and nothing in it. -/
def Daemon.emptyCache (sb : HsfsSuper) : Daemon where
  sb := { hsfsInitIcache sb with currId := 0 }
  heap := []
  freed := []
  replies := []
  clients := 0
  liveClients := []

/-- One call into the cache that returns. -/
inductive CacheCall (plat : Platform) (daemon daemon' : Daemon) : Prop where
  | iget5 {hashval : UInt64} {test : NfsInode → Bool} {set : NfsInode → NfsInode × ℤ}
      {trace : Trace} {ptr : InodePtr}
      (hpath : ((hsfsIget5Locked hashval test set).run daemon).Path trace (.done ptr daemon'))
  | fhget {fh : NfsFh} {fattr : NfsFattr} {trace : Trace} {ptr : InodePtr}
      (hpath : ((hsiNfsFhget plat fh fattr).run daemon).Path trace (.done ptr daemon'))

/-- The states reached from an initialised cache by any sequence of calls. -/
inductive CacheRun (plat : Platform) : Daemon → Prop where
  | init (sb : HsfsSuper) : CacheRun plat (.emptyCache sb)
  | call {daemon daemon' : Daemon} (hrun : CacheRun plat daemon)
      (hcall : CacheCall plat daemon daemon') : CacheRun plat daemon'

/-- Everything one call can do to the cache, as far as numbers are concerned. -/
theorem CacheCall.cases {plat : Platform} {daemon' : Daemon} (hlive : daemon.Live)
    (hcall : CacheCall plat daemon daemon') :
    (∃ index inode, inode.ino = (daemon.inode index).ino ∧
      daemon' = daemon.setInode index inode) ∨
    daemon' = daemon ∨
    (∃ inode, daemon' = daemon.pushFreed inode) ∨
    (∃ key id inode, daemon.freeId = some id ∧ inode.ino = id ∧
      daemon' = daemon.enter key id inode) := by
  cases hcall with
  | @iget5 hashval test set trace ptr hpath =>
    rw [hsfsIget5Locked_run hlive] at hpath
    cases hfind : daemon.findFh hashval test with
    | some index =>
      simp only [hfind, Resumption.path_ret, Ending.done.injEq] at hpath
      exact Or.inr (Or.inl hpath.2.2)
    | none =>
      rw [hfind, getNewInode_path hlive] at hpath
      rcases hpath with ⟨_, _, _, heq⟩ | ⟨_, _, _, heq⟩
      · cases heq
        exact Or.inr (Or.inl rfl)
      · unfold newInodeEnding at heq
        split_ifs at heq with hret
        · cases heq
          exact Or.inr (Or.inr (Or.inl ⟨_, rfl⟩))
        · cases hid : daemon.freeId with
          | none =>
            rw [hid] at heq
            cases heq
          | some id =>
            rw [hid] at heq
            cases heq
            exact Or.inr (Or.inr (Or.inr ⟨hashval, id, _, rfl, rfl, rfl⟩))
  | @fhget fh fattr trace ptr hpath =>
    rw [hsiNfsFhget_path_iff plat hlive] at hpath
    cases hpath with
    | rejected _ => exact Or.inr (Or.inl rfl)
    | hit _ _ => exact Or.inl ⟨_, _, fhgetUpdate_ino fattr _, rfl⟩
    | noMemory _ _ => exact Or.inr (Or.inl rfl)
    | @entered id _ _ hid =>
      exact Or.inr (Or.inr (Or.inr ⟨fattr.fileid, id, _, hid, fhgetUpdate_ino fattr _, rfl⟩))

theorem numbered_emptyCache (sb : HsfsSuper) : Numbered (.emptyCache sb) := by
  have hhashed : (Daemon.emptyCache sb).hashed = ∅ :=
    Set.eq_empty_iff_forall_notMem.mpr fun _ ⟨_, hmem⟩ ↦ by cases hmem
  refine ⟨⟨fun _ _ hmem ↦ ?_, fun _ _ hmem ↦ ?_, fun _ hmem ↦ ?_⟩, ?_, ?_, ?_, ?_, ?_⟩
  · cases hmem
  · cases hmem
  · cases hmem
  · rw [hhashed]
    exact HashTable.holds_empty _ _
  · simp [hhashed]
  · simp [hhashed]
  · simp [hhashed]
  · exact ⟨fun _ ↦ hhashed, fun _ ↦ rfl⟩

theorem Numbered.cacheCall {plat : Platform} {daemon' : Daemon} (h : Numbered daemon)
    (hcall : CacheCall plat daemon daemon') : Numbered daemon' := by
  rcases hcall.cases h.live with ⟨index, inode, hino, rfl⟩ | rfl | ⟨inode, rfl⟩ |
    ⟨key, id, inode, hid, hino, rfl⟩
  · exact h.setInode index hino
  · exact h
  · exact h.push_freed inode
  · exact h.enter hid key hino

theorem CacheRun.numbered {plat : Platform} (hrun : CacheRun plat daemon) : Numbered daemon := by
  induction hrun with
  | init sb => exact numbered_emptyCache sb
  | call _ hcall ih => exact ih.cacheCall hcall

/-- One call keeps every hashed inode under its number, and an inode it enters gets number 1
exactly when the cache was empty. -/
theorem Numbered.cacheCall_hashed {plat : Platform} {daemon' : Daemon} (h : Numbered daemon)
    (hcall : CacheCall plat daemon daemon') :
    (∀ index ∈ daemon.hashed, index ∈ daemon'.hashed ∧
      (daemon'.inode index).ino = (daemon.inode index).ino) ∧
    (∀ index ∈ daemon'.hashed, index ∉ daemon.hashed →
      ((daemon'.inode index).ino = 1 ↔ daemon.hashed = ∅)) := by
  rcases hcall.cases h.live with ⟨index, inode, hino, rfl⟩ | rfl | ⟨inode, rfl⟩ |
    ⟨key, id, inode, hid, hino, rfl⟩
  · exact ⟨fun other hmem ↦ ⟨hmem, Daemon.inode_setInode_proj NfsInode.ino hino other⟩,
      fun other hmem hnew ↦ absurd hmem hnew⟩
  · exact ⟨fun other hmem ↦ ⟨hmem, rfl⟩, fun other hmem hnew ↦ absurd hmem hnew⟩
  · exact ⟨fun other hmem ↦ ⟨hmem, congrArg NfsInode.ino
      (Daemon.push_inode_lt (h.live.lt_of_hashed hmem) inode)⟩,
      fun other hmem hnew ↦ absurd hmem hnew⟩
  · rw [Daemon.enter_hashed]
    refine ⟨fun other hmem ↦ ⟨Or.inr hmem, ?_⟩, ?_⟩
    · rw [Daemon.enter_inode_lt (h.live.lt_of_hashed hmem)]
    · rintro other (rfl | hmem) hnew
      · rw [Daemon.enter_inode_self, hino]
        exact h.freeId_eq_one_iff hid
      · exact absurd hmem hnew

/-- **Inode numbers.**  After any sequence of calls into an initialised cache the numbers in the
table are distinct and non-zero; the inode entered first has number 1 and keeps it, and no later
one gets it; a lookup returns exactly the inode with the number asked for; and while fewer than
2^64 - 2 inodes are hashed the numbering loop ends with a number that is not in use. -/
theorem inode_numbering (plat : Platform) (daemon : Daemon) (hrun : CacheRun plat daemon) :
    (∀ index ∈ daemon.hashed, ∀ other ∈ daemon.hashed,
      (daemon.inode index).ino = (daemon.inode other).ino → index = other) ∧
    (∀ index ∈ daemon.hashed, (daemon.inode index).ino ≠ 0) ∧
    (∀ index ∈ daemon.hashed,
      ((daemon.inode index).ino = 1 ↔ ∀ other ∈ daemon.hashed, index ≤ other)) ∧
    (∀ daemon', CacheCall plat daemon daemon' →
      (∀ index ∈ daemon.hashed, index ∈ daemon'.hashed ∧
        (daemon'.inode index).ino = (daemon.inode index).ino) ∧
      (∀ index ∈ daemon'.hashed, index ∉ daemon.hashed →
        ((daemon'.inode index).ino = 1 ↔ daemon.hashed = ∅))) ∧
    (∀ ino, ∃ ptr, (hsfsIlookup ino).run daemon = .ret ptr daemon ∧
      (∀ index, ptr = .obj index ↔ index ∈ daemon.hashed ∧ (daemon.inode index).ino = ino) ∧
      (ptr = .null ↔ ∀ index ∈ daemon.hashed, (daemon.inode index).ino ≠ ino)) ∧
    (daemon.hashed.ncard < 2 ^ 64 - 2 → ∃ fuel id,
      (pickId fuel).run daemon = .ret id (daemon.setCurrId id) ∧
      ∀ index ∈ daemon.hashed, (daemon.inode index).ino ≠ id) := by
  have h := hrun.numbered
  refine ⟨h.ino_inj, h.ino_ne_zero, h.ino_one, fun daemon' hcall ↦ h.cacheCall_hashed hcall,
    fun ino ↦ ⟨_, hsfsIlookup_run h.live ino, fun index ↦ ?_, ?_⟩, fun hcard ↦ ?_⟩
  · rw [InodePtr.ofOption_eq_obj, h.findIno_eq_some_iff]
  · rw [InodePtr.ofOption_eq_null, h.findIno_eq_none_iff]
  · obtain ⟨id, hid⟩ := h.exists_freeId hcard
    have hpick := pickId_run h.live (2 ^ 64) daemon.sb.currId
    rw [← Daemon.freeId, hid] at hpick
    exact ⟨2 ^ 64, id, hpick, h.freeId_unused hid⟩

/-- Attributes of an export's root directory. -/
def rootFattr : NfsFattr :=
  { nfsInitFattr with valid := nfsAttrFattrV3, mode := 0o40755, nlink := 2, fileid := 2 }

/-- The cache of a fresh mount, holding the export's root. -/
def rootCache : Daemon :=
  (Daemon.emptyCache .zeroed).enter 2 1
    ((Daemon.emptyCache .zeroed).newFile 1 ⟨1, [0]⟩ rootFattr)

theorem rootCache_run : CacheRun linuxHost rootCache := by
  have hlive := (numbered_emptyCache .zeroed).live
  have hpath : FhgetPath (.emptyCache .zeroed) ⟨1, [0]⟩ rootFattr
      [⟨.malloc .nfsInode, true⟩] (.done (.obj 0) rootCache) :=
    .entered (by decide) (by decide) (by decide)
  exact .call (.init .zeroed) (.fhget ((hsiNfsFhget_path_iff linuxHost hlive _ _ _ _).mpr hpath))

/-- Attributes of a file in it. -/
def fileFattr : NfsFattr :=
  { nfsInitFattr with valid := nfsAttrFattrV3, mode := 0o100644, nlink := 1, fileid := 7 }

/-- The cache after the file has been entered, too. -/
def fileCache : Daemon := rootCache.enter 7 2 (rootCache.newFile 2 ⟨1, [7]⟩ fileFattr)

theorem fileCache_run : CacheRun linuxHost fileCache := by
  have hlive := rootCache_run.numbered.live
  have hpath : FhgetPath rootCache ⟨1, [7]⟩ fileFattr [⟨.malloc .nfsInode, true⟩]
      (.done (.obj 1) fileCache) :=
    .entered (by decide) (by decide) (by decide)
  exact .call rootCache_run (.fhget ((hsiNfsFhget_path_iff linuxHost hlive _ _ _ _).mpr hpath))

/-- The two have different numbers, the first one has number 1, and the second one is found under
its number. -/
theorem inode_numbering_fileCache :
    CacheRun linuxHost fileCache ∧ 0 ∈ fileCache.hashed ∧ 1 ∈ fileCache.hashed ∧
      (fileCache.inode 0).ino ≠ (fileCache.inode 1).ino ∧
      (fileCache.inode 1).ino ≠ 0 ∧ (fileCache.inode 1).ino ≠ 1 ∧
      ∃ ptr, (hsfsIlookup 2).run fileCache = .ret ptr fileCache ∧ ptr = .obj 1 := by
  have hfirst : 0 ∈ fileCache.hashed := ⟨hashMin 1, by decide⟩
  have hsecond : 1 ∈ fileCache.hashed := ⟨hashMin 2, by decide⟩
  obtain ⟨hinj, hzero, hone, -, hlookup, -⟩ := inode_numbering linuxHost fileCache fileCache_run
  obtain ⟨ptr, hrun, hptr, -⟩ := hlookup 2
  refine ⟨fileCache_run, hfirst, hsecond, fun heq ↦ ?_, hzero 1 hsecond, fun heq ↦ ?_,
    ptr, hrun, (hptr 1).mpr ⟨hsecond, by decide⟩⟩
  · exact absurd (hinj 0 hfirst 1 hsecond heq) (by decide)
  · exact absurd ((hone 1 hsecond).mp heq 0 hfirst) (by decide)

end NfsFuse
