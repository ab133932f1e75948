import NfsFuse.Inode.Numbering

/-!
# One inode per server object

`Coherent` is the invariant of the daemon's memory between two pieces of handler code: every inode
ever allocated is live and in both tables exactly once, under its number and under its file id, and
no two inodes agree on file id and handle.  Entering an inode for an unknown object keeps it, and so
does every update that leaves the identity of the inode alone.
-/

namespace NfsFuse

open Lib

/-- What holds of every cached inode on its own. -/
structure InodeOk (inode : NfsInode) : Prop where
  fh_wellFormed : inode.fh.WellFormed
  realIno_eq : inode.realIno = inode.fileid
  flags_eq : inode.flags = 0
  iState_eq : inode.iState = 0
  iRdev_eq : inode.iRdev = 0
  valid_eq : inode.iattr.valid = 0
  iCount_le : inode.iCount ≤ 0

theorem InodeOk.copyFattr {inode : NfsInode} (h : InodeOk inode) (fattr : NfsFattr) :
    InodeOk (copyFattr fattr inode) :=
  ⟨h.fh_wellFormed, h.realIno_eq, h.flags_eq, h.iState_eq, h.iRdev_eq, h.valid_eq, h.iCount_le⟩

theorem InodeOk.setPriv {inode : NfsInode} (h : InodeOk inode) (priv : UInt64) :
    InodeOk { inode with priv := priv } :=
  ⟨h.fh_wellFormed, h.realIno_eq, h.flags_eq, h.iState_eq, h.iRdev_eq, h.valid_eq, h.iCount_le⟩

theorem InodeOk.nfsRefresh {inode : NfsInode} (h : InodeOk inode) (fattr : NfsFattr) :
    InodeOk (nfsRefresh fattr inode).1 := by
  unfold NfsFuse.nfsRefresh nfsUpdateInode
  split_ifs
  · exact h
  · exact h
  · exact h
  · exact h.copyFattr fattr

/-- A cached inode is never marked as new, so `hsi_nfs_fhget` refreshes it. -/
theorem InodeOk.fhgetUpdate_eq {inode : NfsInode} (h : InodeOk inode) (fattr : NfsFattr) :
    fhgetUpdate fattr inode = (NfsFuse.nfsRefresh fattr inode).1 := by
  have hstate : ¬ inode.iState &&& iNew ≠ 0 := by simp [h.iState_eq]
  rw [fhgetUpdate, if_neg hstate]

theorem Daemon.newFile_ok (daemon : Daemon) (id : UInt64) {fh : NfsFh} (hfh : fh.WellFormed)
    (fattr : NfsFattr) : InodeOk (daemon.newFile id fh fattr) := by
  rw [Daemon.newFile_eq]
  have hcopy : (nfsCopyFh fh).WellFormed := by rwa [nfsCopyFh_of_wellFormed hfh]
  exact ⟨hcopy, rfl, rfl, rfl, rfl, rfl, le_rfl⟩

theorem Daemon.newFile_fh (daemon : Daemon) (id : UInt64) {fh : NfsFh} (hfh : fh.WellFormed)
    (fattr : NfsFattr) : (daemon.newFile id fh fattr).fh = fh := by
  rw [Daemon.newFile_eq]
  exact nfsCopyFh_of_wellFormed hfh

/-- The invariant of the cache. -/
structure Coherent (daemon : Daemon) : Prop where
  numbered : Numbered daemon
  freed_nil : daemon.freed = []
  hashed_eq : daemon.hashed = { index | index < daemon.heap.length }
  fhHolds : daemon.sb.fhTable.Holds hashMin (fun index ↦ (daemon.inode index).fileid)
    { index | index < daemon.heap.length }
  identity_inj : ∀ index < daemon.heap.length, ∀ other < daemon.heap.length,
    (daemon.inode index).fileid = (daemon.inode other).fileid →
    (daemon.inode index).fh = (daemon.inode other).fh → index = other
  inodeOk : ∀ index < daemon.heap.length, InodeOk (daemon.inode index)

variable {daemon : Daemon}

namespace Coherent

theorem live (h : Coherent daemon) : daemon.Live := h.numbered.live

theorem mem_hashed_iff (h : Coherent daemon) (index : ℕ) :
    index ∈ daemon.hashed ↔ index < daemon.heap.length := by
  rw [h.hashed_eq]
  exact Iff.rfl

/-- No two inodes have one number. -/
theorem ino_inj (h : Coherent daemon) {index other : ℕ} (hlt : index < daemon.heap.length)
    (hother : other < daemon.heap.length)
    (hino : (daemon.inode index).ino = (daemon.inode other).ino) :
    index = other :=
  h.numbered.ino_inj index ((h.mem_hashed_iff index).mpr hlt) other
    ((h.mem_hashed_iff other).mpr hother) hino

/-- A lookup by number succeeds exactly on the numbers of allocated inodes. -/
theorem findIno_eq_some_iff (h : Coherent daemon) (ino : UInt64) (index : ℕ) :
    daemon.findIno ino = some index ↔
      index < daemon.heap.length ∧ (daemon.inode index).ino = ino := by
  rw [h.numbered.findIno_eq_some_iff, h.mem_hashed_iff]

/-- `nfs_find_actor` compares file ids and handles. -/
theorem nfsFindActor_iff (h : Coherent daemon) {fh : NfsFh} (hfh : fh.WellFormed)
    (fattr : NfsFattr) {index : ℕ} (hlt : index < daemon.heap.length) :
    nfsFindActor fh fattr (daemon.inode index) = true ↔
      (daemon.inode index).fileid = fattr.fileid ∧ (daemon.inode index).fh = fh := by
  have hok := h.inodeOk index hlt
  have hino := h.numbered.ino_ne_zero index ((h.mem_hashed_iff index).mpr hlt)
  have hgood : ¬ ((daemon.inode index).ino = 0 ∨ (daemon.inode index).flags &&& 2 ≠ 0) := by
    simp [hino, hok.flags_eq]
  have hcompare := nfsCompareFh_eq_false_iff hok.fh_wellFormed hfh
  unfold nfsFindActor
  by_cases hfileid : (daemon.inode index).fileid = fattr.fileid
  · cases hdiff : nfsCompareFh (daemon.inode index).fh fh with
    | false => simp [hfileid, hgood, hcompare.mp hdiff]
    | true =>
      have hne : (daemon.inode index).fh ≠ fh := fun heq ↦ by
        rw [hcompare.mpr heq] at hdiff
        cases hdiff
      simp [hne]
  · simp [hfileid]

/-- An object is found exactly when an inode with its file id and handle is cached. -/
theorem findFile_eq_some_iff (h : Coherent daemon) {fh : NfsFh} (hfh : fh.WellFormed)
    (fattr : NfsFattr) (index : ℕ) :
    daemon.findFile fh fattr = some index ↔ index < daemon.heap.length ∧
      (daemon.inode index).fileid = fattr.fileid ∧ (daemon.inode index).fh = fh := by
  have hkey : ∀ ref ∈ { index | index < daemon.heap.length },
      nfsFindActor fh fattr (daemon.inode ref) = true →
      (daemon.inode ref).fileid = fattr.fileid :=
    fun ref hlt htest ↦ ((h.nfsFindActor_iff hfh fattr hlt).mp htest).1
  rw [Daemon.findFile, Daemon.findFh, h.fhHolds.find_eq_some_iff hkey]
  · constructor
    · intro hfound
      exact ⟨hfound.1, (h.nfsFindActor_iff hfh fattr hfound.1).mp hfound.2⟩
    · intro hfound
      exact ⟨hfound.1, (h.nfsFindActor_iff hfh fattr hfound.1).mpr hfound.2⟩
  · intro ref hlt other hother htest htest'
    have hid := (h.nfsFindActor_iff hfh fattr hlt).mp htest
    have hid' := (h.nfsFindActor_iff hfh fattr hother).mp htest'
    exact h.identity_inj ref hlt other hother (hid.1.trans hid'.1.symm) (hid.2.trans hid'.2.symm)

theorem findFile_eq_none_iff (h : Coherent daemon) {fh : NfsFh} (hfh : fh.WellFormed)
    (fattr : NfsFattr) :
    daemon.findFile fh fattr = none ↔ ∀ index < daemon.heap.length,
      (daemon.inode index).fileid = fattr.fileid → (daemon.inode index).fh ≠ fh := by
  rw [Option.eq_none_iff_forall_not_mem]
  constructor
  · intro hnone index hlt hfileid heq
    exact hnone index ((h.findFile_eq_some_iff hfh fattr index).mpr ⟨hlt, hfileid, heq⟩)
  · intro hnone index hmem
    have hfound := (h.findFile_eq_some_iff hfh fattr index).mp hmem
    exact hnone index hfound.1 hfound.2.1 hfound.2.2

/-- The invariant looks at the inodes, the tables and the counter only. -/
theorem congr (h : Coherent daemon) {daemon' : Daemon}
    (hid : daemon'.sb.idTable = daemon.sb.idTable) (hfh : daemon'.sb.fhTable = daemon.sb.fhTable)
    (hcurrId : daemon'.sb.currId = daemon.sb.currId) (hheap : daemon'.heap = daemon.heap)
    (hfreed : daemon'.freed = daemon.freed) : Coherent daemon' := by
  have hinode (index : ℕ) : daemon'.inode index = daemon.inode index := by
    simp only [Daemon.inode, hheap]
  have hhashed : daemon'.hashed = daemon.hashed := by
    simp only [Daemon.hashed, hid]
  have hlive : daemon'.Live := by
    constructor
    · simpa only [Daemon.Allocated, hid, hheap, hfreed] using h.live.idTable
    · simpa only [Daemon.Allocated, hfh, hheap, hfreed] using h.live.fhTable
    · simpa only [hheap, hfreed] using h.live.freed_lt
  constructor
  · exact h.numbered.congr hlive hid hcurrId fun index _ ↦ by rw [hinode]
  · rw [hfreed, h.freed_nil]
  · rw [hhashed, hheap, h.hashed_eq]
  · simpa only [hfh, hheap, hinode] using h.fhHolds
  · simpa only [hheap, hinode] using h.identity_inj
  · simpa only [hheap, hinode] using h.inodeOk

/-- Overwriting an inode without touching its identity. -/
theorem setInode (h : Coherent daemon) {index : ℕ} (hlt : index < daemon.heap.length)
    {inode : NfsInode} (hino : inode.ino = (daemon.inode index).ino)
    (hfileid : inode.fileid = (daemon.inode index).fileid)
    (hfh : inode.fh = (daemon.inode index).fh) (hok : InodeOk inode) :
    Coherent (daemon.setInode index inode) := by
  have hfileid' := Daemon.inode_setInode_proj NfsInode.fileid hfileid
  have hfh' := Daemon.inode_setInode_proj NfsInode.fh hfh
  constructor
  · exact h.numbered.setInode index hino
  · exact h.freed_nil
  · rw [Daemon.setInode_hashed, Daemon.setInode_length, h.hashed_eq]
  · simpa only [Daemon.setInode_length, Daemon.setInode_sb, hfileid'] using h.fhHolds
  · simpa only [Daemon.setInode_length, hfileid', hfh'] using h.identity_inj
  · intro other hother
    rw [Daemon.setInode_length] at hother
    by_cases heq : other = index
    · rw [heq, Daemon.inode_setInode_self hlt]
      exact hok
    · rw [Daemon.inode_setInode_ne heq]
      exact h.inodeOk other hother

/-- Entering an inode for an object that is not cached. -/
theorem enter (h : Coherent daemon) {id : UInt64} (hid : daemon.freeId = some id)
    {inode : NfsInode} (hino : inode.ino = id) (hok : InodeOk inode)
    (hnew : ∀ index < daemon.heap.length, (daemon.inode index).fileid = inode.fileid →
      (daemon.inode index).fh ≠ inode.fh) :
    Coherent (daemon.enter inode.fileid id inode) := by
  have hold : ∀ index < daemon.heap.length,
      (daemon.enter inode.fileid id inode).inode index = daemon.inode index :=
    fun index hlt ↦ Daemon.enter_inode_lt hlt inode.fileid id inode
  have hself := Daemon.enter_inode_self daemon inode.fileid id inode
  have hmembers : { index | index < (daemon.enter inode.fileid id inode).heap.length } =
      insert daemon.heap.length { index | index < daemon.heap.length } := by
    ext index
    rw [Daemon.enter_length]
    change index < daemon.heap.length + 1 ↔
      index = daemon.heap.length ∨ index < daemon.heap.length
    omega
  have hsplit : ∀ index < (daemon.enter inode.fileid id inode).heap.length,
      index = daemon.heap.length ∨ index < daemon.heap.length := by
    intro index hlt
    rw [Daemon.enter_length] at hlt
    omega
  constructor
  · exact h.numbered.enter hid inode.fileid hino
  · exact h.freed_nil
  · rw [Daemon.enter_hashed, hmembers, h.hashed_eq]
  · rw [hmembers]
    have hholds := (h.fhHolds.congr_key
      (fun index ↦ ((daemon.enter inode.fileid id inode).inode index).fileid)
      fun index hlt ↦ by rw [hold index hlt]).add (lt_irrefl daemon.heap.length)
    rw [hself] at hholds
    exact hholds
  · intro index hlt other hother hfileid hfh
    rcases hsplit index hlt with rfl | hlt' <;> rcases hsplit other hother with rfl | hother'
    · rfl
    · rw [hself, hold other hother'] at hfileid hfh
      exact absurd hfh.symm (hnew other hother' hfileid.symm)
    · rw [hself, hold index hlt'] at hfileid hfh
      exact absurd hfh (hnew index hlt' hfileid)
    · rw [hold index hlt', hold other hother'] at hfileid hfh
      exact h.identity_inj index hlt' other hother' hfileid hfh
  · intro index hlt
    rcases hsplit index hlt with rfl | hlt'
    · rw [hself]
      exact hok
    · rw [hold index hlt']
      exact h.inodeOk index hlt'

end Coherent

/-! ## Growth of the cache -/

/-- What code below the request handlers may do to the daemon: refresh attributes and enter new
inodes.  Identities, lookup counts, clients and replies stay, and a new inode has lookup count 0. -/
structure Grows (daemon daemon' : Daemon) : Prop where
  length_le : daemon.heap.length ≤ daemon'.heap.length
  ino_eq : ∀ index < daemon.heap.length, (daemon'.inode index).ino = (daemon.inode index).ino
  fileid_eq : ∀ index < daemon.heap.length,
    (daemon'.inode index).fileid = (daemon.inode index).fileid
  fh_eq : ∀ index < daemon.heap.length, (daemon'.inode index).fh = (daemon.inode index).fh
  priv_eq : ∀ index < daemon.heap.length, (daemon'.inode index).priv = (daemon.inode index).priv
  priv_new : ∀ index < daemon'.heap.length, daemon.heap.length ≤ index →
    (daemon'.inode index).priv = 0
  root_eq : daemon'.sb.root = daemon.sb.root
  clntp_eq : daemon'.sb.clntp = daemon.sb.clntp
  aclClntp_eq : daemon'.sb.aclClntp = daemon.sb.aclClntp
  liveClients_eq : daemon'.liveClients = daemon.liveClients
  replies_eq : daemon'.replies = daemon.replies

theorem Grows.refl (daemon : Daemon) : Grows daemon daemon :=
  ⟨le_rfl, fun _ _ ↦ rfl, fun _ _ ↦ rfl, fun _ _ ↦ rfl, fun _ _ ↦ rfl,
    fun _ hlt hle ↦ absurd hlt (not_lt.mpr hle), rfl, rfl, rfl, rfl, rfl⟩

theorem Grows.trans {daemon₁ daemon₂ daemon₃ : Daemon} (h : Grows daemon₁ daemon₂)
    (h' : Grows daemon₂ daemon₃) : Grows daemon₁ daemon₃ where
  length_le := h.length_le.trans h'.length_le
  ino_eq index hlt := (h'.ino_eq index (hlt.trans_le h.length_le)).trans (h.ino_eq index hlt)
  fileid_eq index hlt :=
    (h'.fileid_eq index (hlt.trans_le h.length_le)).trans (h.fileid_eq index hlt)
  fh_eq index hlt := (h'.fh_eq index (hlt.trans_le h.length_le)).trans (h.fh_eq index hlt)
  priv_eq index hlt := (h'.priv_eq index (hlt.trans_le h.length_le)).trans (h.priv_eq index hlt)
  priv_new index hlt hle := by
    by_cases hmid : index < daemon₂.heap.length
    · exact (h'.priv_eq index hmid).trans (h.priv_new index hmid hle)
    · exact h'.priv_new index hlt (not_lt.mp hmid)
  root_eq := h'.root_eq.trans h.root_eq
  clntp_eq := h'.clntp_eq.trans h.clntp_eq
  aclClntp_eq := h'.aclClntp_eq.trans h.aclClntp_eq
  liveClients_eq := h'.liveClients_eq.trans h.liveClients_eq
  replies_eq := h'.replies_eq.trans h.replies_eq

/-- Overwriting an inode without touching its identity or lookup count. -/
theorem Grows.setInode (daemon : Daemon) (index : ℕ) {inode : NfsInode}
    (hino : inode.ino = (daemon.inode index).ino)
    (hfileid : inode.fileid = (daemon.inode index).fileid)
    (hfh : inode.fh = (daemon.inode index).fh) (hpriv : inode.priv = (daemon.inode index).priv) :
    Grows daemon (daemon.setInode index inode) where
  length_le := (Daemon.setInode_length daemon index inode).ge
  ino_eq other _ := Daemon.inode_setInode_proj NfsInode.ino hino other
  fileid_eq other _ := Daemon.inode_setInode_proj NfsInode.fileid hfileid other
  fh_eq other _ := Daemon.inode_setInode_proj NfsInode.fh hfh other
  priv_eq other _ := Daemon.inode_setInode_proj NfsInode.priv hpriv other
  priv_new other hlt hle := by
    rw [Daemon.setInode_length] at hlt
    omega
  root_eq := rfl
  clntp_eq := rfl
  aclClntp_eq := rfl
  liveClients_eq := rfl
  replies_eq := rfl

theorem Grows.enter (daemon : Daemon) (key id : UInt64) {inode : NfsInode}
    (hpriv : inode.priv = 0) : Grows daemon (daemon.enter key id inode) where
  length_le := by
    rw [Daemon.enter_length]
    exact Nat.le_succ _
  ino_eq index hlt := by rw [Daemon.enter_inode_lt hlt]
  fileid_eq index hlt := by rw [Daemon.enter_inode_lt hlt]
  fh_eq index hlt := by rw [Daemon.enter_inode_lt hlt]
  priv_eq index hlt := by rw [Daemon.enter_inode_lt hlt]
  priv_new index hlt hle := by
    rw [Daemon.enter_length] at hlt
    have heq : index = daemon.heap.length := by omega
    rw [heq, Daemon.enter_inode_self, hpriv]
  root_eq := rfl
  clntp_eq := rfl
  aclClntp_eq := rfl
  liveClients_eq := rfl
  replies_eq := rfl

/-- `nfs_refresh_inode` keeps what identifies and counts an inode. -/
theorem nfsRefresh_same (fattr : NfsFattr) (inode : NfsInode) :
    (nfsRefresh fattr inode).1.ino = inode.ino ∧ (nfsRefresh fattr inode).1.fileid = inode.fileid ∧
      (nfsRefresh fattr inode).1.fh = inode.fh ∧ (nfsRefresh fattr inode).1.priv = inode.priv := by
  unfold nfsRefresh nfsUpdateInode
  split_ifs <;> exact ⟨rfl, rfl, rfl, rfl⟩

/-- Coherence is kept and the cache only grows. -/
def KeepsCoherent (daemon daemon' : Daemon) : Prop :=
  Coherent daemon → Coherent daemon' ∧ Grows daemon daemon'

theorem KeepsCoherent.refl (daemon : Daemon) : KeepsCoherent daemon daemon :=
  fun h ↦ ⟨h, Grows.refl daemon⟩

theorem KeepsCoherent.trans (daemon₁ daemon₂ daemon₃ : Daemon)
    (h : KeepsCoherent daemon₁ daemon₂) (h' : KeepsCoherent daemon₂ daemon₃) :
    KeepsCoherent daemon₁ daemon₃ := by
  intro hcoherent
  obtain ⟨hcoherent₂, hgrows⟩ := h hcoherent
  obtain ⟨hcoherent₃, hgrows'⟩ := h' hcoherent₂
  exact ⟨hcoherent₃, hgrows.trans hgrows'⟩

theorem keepsCoherent_refresh {index : ℕ} (hlt : index < daemon.heap.length) (fattr : NfsFattr) :
    KeepsCoherent daemon
      (daemon.setInode index (nfsRefresh fattr (daemon.inode index)).1) := by
  intro h
  obtain ⟨hino, hfileid, hfh, hpriv⟩ := nfsRefresh_same fattr (daemon.inode index)
  exact ⟨h.setInode hlt hino hfileid hfh ((h.inodeOk index hlt).nfsRefresh fattr),
    Grows.setInode daemon index hino hfileid hfh hpriv⟩

/-- What a returning call of `hsi_nfs_fhget` guarantees: an inode it returns is cached under the
file id and handle of the call, and any new inode is the one it returns. -/
theorem Coherent.fhget (h : Coherent daemon) {fh : NfsFh} (hfh : fh.WellFormed)
    {fattr : NfsFattr} {trace : Trace} {ptr : InodePtr} {daemon' : Daemon}
    (hpath : FhgetPath daemon fh fattr trace (.done ptr daemon')) :
    (Coherent daemon' ∧ Grows daemon daemon') ∧
    (∀ index, ptr = .obj index → index < daemon'.heap.length ∧
      (daemon'.inode index).fileid = fattr.fileid ∧ (daemon'.inode index).fh = fh) ∧
    (∀ index < daemon'.heap.length, daemon.heap.length ≤ index → ptr = .obj index) := by
  have hsame : Coherent daemon ∧ Grows daemon daemon := ⟨h, Grows.refl daemon⟩
  cases hpath with
  | rejected _ =>
    exact ⟨hsame, fun _ heq ↦ (nomatch heq), fun _ hlt hle ↦ absurd hlt (not_lt.mpr hle)⟩
  | noMemory _ _ =>
    exact ⟨hsame, fun _ heq ↦ (nomatch heq), fun _ hlt hle ↦ absurd hlt (not_lt.mpr hle)⟩
  | @hit index _ hfind =>
    obtain ⟨hlt, hfileid, hhandle⟩ := (h.findFile_eq_some_iff hfh fattr index).mp hfind
    obtain ⟨-, hfileid', hhandle', -⟩ := nfsRefresh_same fattr (daemon.inode index)
    rw [(h.inodeOk index hlt).fhgetUpdate_eq]
    refine ⟨keepsCoherent_refresh hlt fattr h, ?_, ?_⟩
    · intro other heq
      cases heq
      rw [Daemon.setInode_length, Daemon.inode_setInode_self hlt, hfileid', hhandle']
      exact ⟨hlt, hfileid, hhandle⟩
    · intro other hother hle
      rw [Daemon.setInode_length] at hother
      omega
  | @entered id _ hfind hid =>
    have hnew := (h.findFile_eq_none_iff hfh fattr).mp hfind
    have hfileid : (daemon.newFile id fh fattr).fileid = fattr.fileid := by
      rw [Daemon.newFile_eq]
      rfl
    have hpriv : (daemon.newFile id fh fattr).priv = 0 := by
      rw [Daemon.newFile_eq]
      rfl
    have hhandle := daemon.newFile_fh id hfh fattr
    have henter := h.enter hid (fhgetUpdate_ino fattr _) (daemon.newFile_ok id hfh fattr)
      (by rw [hfileid, hhandle]; exact hnew)
    rw [hfileid] at henter
    refine ⟨⟨henter, Grows.enter daemon fattr.fileid id hpriv⟩, ?_, ?_⟩
    · intro other heq
      cases heq
      rw [Daemon.enter_length, Daemon.enter_inode_self]
      exact ⟨Nat.lt_succ_self _, hfileid, hhandle⟩
    · intro other hother hle
      rw [Daemon.enter_length] at hother
      have heq : other = daemon.heap.length := by omega
      rw [heq]

/-- The numbers in use other than the root's. -/
def Daemon.laterInos (daemon : Daemon) : Set UInt64 :=
  Set.image (fun index ↦ (daemon.inode index).ino) (Set.Ico 1 daemon.heap.length)

theorem Coherent.ino_eq_one_iff (h : Coherent daemon) {index : ℕ}
    (hlt : index < daemon.heap.length) :
    (daemon.inode index).ino = 1 ↔ index = 0 := by
  rw [h.numbered.ino_one index ((h.mem_hashed_iff index).mpr hlt)]
  constructor
  · exact fun hle ↦ Nat.le_zero.mp (hle 0 ((h.mem_hashed_iff 0).mpr (Nat.zero_lt_of_lt hlt)))
  · rintro rfl other -
    exact Nat.zero_le other

theorem Coherent.laterInos_subset (h : Coherent daemon) :
    daemon.laterInos ⊆ { id : UInt64 | 2 ≤ id.toNat } := by
  rintro id ⟨index, ⟨hpos, hlt⟩, rfl⟩
  have hzero := h.numbered.ino_ne_zero index ((h.mem_hashed_iff index).mpr hlt)
  have hone : (daemon.inode index).ino ≠ 1 := fun heq ↦ by
    have := (h.ino_eq_one_iff hlt).mp heq
    omega
  exact two_le_toNat hzero hone

theorem Coherent.ncard_laterInos (h : Coherent daemon) :
    daemon.laterInos.ncard = daemon.heap.length - 1 := by
  have hinj : Set.InjOn (fun index ↦ (daemon.inode index).ino) (Set.Ico 1 daemon.heap.length) :=
    fun index hindex other hother heq ↦ h.ino_inj hindex.2 hother.2 heq
  rw [Daemon.laterInos, hinj.ncard_image, Set.ncard_Ico_nat]

/-- There are fewer inodes than numbers. -/
theorem Coherent.length_lt (h : Coherent daemon) : daemon.heap.length < 2 ^ 64 := by
  have hle := Set.ncard_le_ncard h.laterInos_subset
    (Set.finite_of_ncard_ne_zero (by rw [ncard_two_le]; decide))
  rw [h.ncard_laterInos, ncard_two_le] at hle
  omega

/-- A cache that is not empty runs out of numbers exactly when all of them but 0 are in use. -/
theorem Coherent.freeId_isSome_iff (h : Coherent daemon) (hpos : 0 < daemon.heap.length) :
    daemon.freeId.isSome = true ↔ daemon.heap.length + 1 < 2 ^ 64 := by
  have hfinite : daemon.laterInos.Finite := (Set.finite_Ico _ _).image _
  have hcard := h.ncard_laterInos
  constructor
  · intro hsome
    obtain ⟨id, hid⟩ := Option.isSome_iff_exists.mp hsome
    have hunused := h.numbered.freeId_unused hid
    have hone : id ≠ 1 := by
      rw [ne_eq, h.numbered.freeId_eq_one_iff hid, h.hashed_eq]
      exact fun hempty ↦ Set.eq_empty_iff_forall_notMem.mp hempty 0 hpos
    have hnot : id ∉ daemon.laterInos := by
      rintro ⟨index, ⟨-, hlt⟩, heq⟩
      exact hunused index ((h.mem_hashed_iff index).mpr hlt) heq
    have hless := Set.ncard_lt_ncard ((Set.ssubset_iff_of_subset h.laterInos_subset).mpr
      ⟨id, two_le_toNat (Daemon.freeId_ne_zero hid) hone, hnot⟩)
      (Set.finite_of_ncard_ne_zero (by rw [ncard_two_le]; decide))
    rw [hcard, ncard_two_le] at hless
    omega
  · intro hlt
    have hless : daemon.laterInos.ncard < { id : UInt64 | 2 ≤ id.toNat }.ncard := by
      rw [hcard, ncard_two_le]
      omega
    obtain ⟨id, hid, hfree⟩ := Set.exists_mem_notMem_of_ncard_lt_ncard hless hfinite
    refine h.numbered.freeId_isSome hid fun index hmem heq ↦ ?_
    have hindex := (h.mem_hashed_iff index).mp hmem
    by_cases hroot : index = 0
    · rw [(h.ino_eq_one_iff hindex).mpr hroot] at heq
      subst heq
      exact absurd hid (by decide)
    · exact hfree ⟨index, ⟨Nat.one_le_iff_ne_zero.mpr hroot, hindex⟩, heq⟩

theorem coherent_emptyCache (sb : HsfsSuper) : Coherent (.emptyCache sb) where
  numbered := numbered_emptyCache sb
  freed_nil := rfl
  hashed_eq := by
    ext index
    constructor
    · intro hmem
      obtain ⟨bucket, hchain⟩ := hmem
      cases hchain
    · intro hlt
      cases hlt
  fhHolds := by
    have hnone : { index | index < (Daemon.emptyCache sb).heap.length } = (∅ : Set ℕ) :=
      Set.eq_empty_iff_forall_notMem.mpr fun index hlt ↦ absurd hlt (Nat.not_lt_zero index)
    rw [hnone]
    exact HashTable.holds_empty _ _
  identity_inj := fun index hlt ↦ absurd hlt (Nat.not_lt_zero index)
  inodeOk := fun index hlt ↦ absurd hlt (Nat.not_lt_zero index)

/-! ## Sequences of calls -/

/-- A call of `hsi_nfs_fhget` and what it returned. -/
structure FhgetCall where
  fh : NfsFh3
  fattr : NfsFattr
  ptr : InodePtr

/-- Sequences of returning calls whose attributes pass the checks, from an initialised cache. -/
inductive FhgetRun (plat : Platform) : List FhgetCall → Daemon → Prop where
  | init (sb : HsfsSuper) : FhgetRun plat [] (.emptyCache sb)
  | call {log : List FhgetCall} {daemon daemon' : Daemon} {fh : NfsFh3} {fattr : NfsFattr}
      {trace : Trace} {ptr : InodePtr} (hrun : FhgetRun plat log daemon)
      (hattr : fattr.Acquirable)
      (hpath : ((hsiNfsFhget plat (nfsCopyFh3 fh) fattr).run daemon).Path trace
        (.done ptr daemon')) :
      FhgetRun plat (log ++ [⟨fh, fattr, ptr⟩]) daemon'

/-- What the log of calls says about the cache. -/
structure Logged (log : List FhgetCall) (daemon : Daemon) : Prop where
  coherent : Coherent daemon
  sound : ∀ call ∈ log, ∀ index, call.ptr = .obj index → index < daemon.heap.length ∧
    (daemon.inode index).fileid = call.fattr.fileid ∧
    (daemon.inode index).fh = nfsCopyFh3 call.fh
  complete : ∀ index < daemon.heap.length, ∃ call ∈ log, call.ptr = .obj index

theorem FhgetRun.logged {plat : Platform} {log : List FhgetCall}
    (hrun : FhgetRun plat log daemon) : Logged log daemon := by
  induction hrun with
  | init sb =>
    exact ⟨coherent_emptyCache sb, fun call hmem ↦ (nomatch hmem),
      fun index hlt ↦ absurd hlt (Nat.not_lt_zero index)⟩
  | @call log daemon daemon' fh fattr trace ptr _ _ hpath ih =>
    rw [hsiNfsFhget_path_iff plat ih.coherent.live] at hpath
    obtain ⟨⟨hcoherent, hgrows⟩, hreturned, honly⟩ :=
      ih.coherent.fhget (nfsCopyFh3_wellFormed fh) hpath
    refine ⟨hcoherent, ?_, ?_⟩
    · intro call hmem index hptr
      rcases List.mem_append.mp hmem with hmem | hmem
      · obtain ⟨hlt, hfileid, hhandle⟩ := ih.sound call hmem index hptr
        rw [hgrows.fileid_eq index hlt, hgrows.fh_eq index hlt]
        exact ⟨hlt.trans_le hgrows.length_le, hfileid, hhandle⟩
      · rw [List.mem_singleton.mp hmem] at hptr ⊢
        exact hreturned index hptr
    · intro index hlt
      by_cases hold : index < daemon.heap.length
      · obtain ⟨call, hmem, hptr⟩ := ih.complete index hold
        exact ⟨call, List.mem_append_left _ hmem, hptr⟩
      · exact ⟨⟨fh, fattr, ptr⟩, List.mem_append_right _ (List.mem_singleton_self _),
          honly index hlt (not_lt.mp hold)⟩

/-- A reference is in a table exactly once: in one bucket only, and once in its chain. -/
def OnceIn (table : InodeTable) (index : ℕ) : Prop :=
  ∃ bucket, (table.chain bucket).count index = 1 ∧ ∀ other, other ≠ bucket →
    index ∉ table.chain other

theorem onceIn_of_holds {table : InodeTable} {key : ℕ → UInt64} {members : Set ℕ}
    (h : table.Holds hashMin key members) {index : ℕ} (hmem : index ∈ members) :
    OnceIn table index := by
  refine ⟨hashMin (key index), ?_, ?_⟩
  · exact List.count_eq_one_of_mem (h.nodup _) ((h.mem_iff _ index).mpr ⟨hmem, rfl⟩)
  · intro other hne hother
    exact hne ((h.mem_iff other index).mp hother).2.symm

/-- **One inode per server object.**  In every sequence of calls of `hsi_nfs_fhget`, two calls
return the same inode exactly when they name the same object; no two inodes agree on file id and
handle; and every inode is in both tables exactly once, with the file id and handle of the call
that created it. -/
theorem one_inode_per_object (plat : Platform) (log : List FhgetCall) (daemon : Daemon)
    (hrun : FhgetRun plat log daemon) :
    (∀ call ∈ log, ∀ call' ∈ log, ∀ index index', call.ptr = .obj index →
      call'.ptr = .obj index' →
      (index = index' ↔ call.fattr.fileid = call'.fattr.fileid ∧
        call.fh.data.length = call'.fh.data.length ∧ call.fh.data = call'.fh.data)) ∧
    (∀ bucket bucket' index index', index ∈ daemon.sb.fhTable.chain bucket →
      index' ∈ daemon.sb.fhTable.chain bucket' →
      (daemon.inode index).fileid = (daemon.inode index').fileid →
      (daemon.inode index).fh = (daemon.inode index').fh → index = index') ∧
    (∀ index < daemon.heap.length,
      OnceIn daemon.sb.idTable index ∧ OnceIn daemon.sb.fhTable index ∧
      (∃ call ∈ log, call.ptr = .obj index) ∧
      ∀ call ∈ log, call.ptr = .obj index →
        (daemon.inode index).fileid = call.fattr.fileid ∧
        (daemon.inode index).realIno = call.fattr.fileid ∧
        (daemon.inode index).fh = nfsCopyFh3 call.fh) := by
  have h := hrun.logged
  have hcoherent := h.coherent
  refine ⟨?_, ?_, ?_⟩
  · intro call hmem call' hmem' index index' hptr hptr'
    obtain ⟨hlt, hfileid, hhandle⟩ := h.sound call hmem index hptr
    obtain ⟨hlt', hfileid', hhandle'⟩ := h.sound call' hmem' index' hptr'
    constructor
    · intro heq
      rw [heq] at hfileid hhandle
      have hfh := nfsCopyFh3_inj.mp (hhandle.symm.trans hhandle')
      exact ⟨hfileid.symm.trans hfileid', by rw [hfh], by rw [hfh]⟩
    · intro hkey
      have hfh : call.fh = call'.fh := by
        cases hcall : call.fh
        cases hcall' : call'.fh
        simpa [hcall, hcall'] using hkey.2.2
      exact hcoherent.identity_inj index hlt index' hlt'
        (by rw [hfileid, hfileid', hkey.1]) (by rw [hhandle, hhandle', hfh])
  · intro bucket bucket' index index' hmem hmem' hfileid hhandle
    exact hcoherent.identity_inj index (hcoherent.live.fhTable bucket index hmem).1 index'
      (hcoherent.live.fhTable bucket' index' hmem').1 hfileid hhandle
  · intro index hlt
    have hhashed : index ∈ daemon.hashed := (hcoherent.mem_hashed_iff index).mpr hlt
    refine ⟨onceIn_of_holds hcoherent.numbered.holds hhashed,
      onceIn_of_holds hcoherent.fhHolds hlt, h.complete index hlt, ?_⟩
    intro call hmem hptr
    obtain ⟨-, hfileid, hhandle⟩ := h.sound call hmem index hptr
    exact ⟨hfileid, (hcoherent.inodeOk index hlt).realIno_eq.trans hfileid, hhandle⟩

theorem rootCache_fhgetPath :
    FhgetPath (.emptyCache .zeroed) (nfsCopyFh3 ⟨[0], by decide⟩) rootFattr
    [⟨.malloc .nfsInode, true⟩] (.done (.obj 0) rootCache) :=
  .entered (by decide) (by decide) (by decide)

theorem coherent_rootCache : Coherent rootCache :=
  ((coherent_emptyCache .zeroed).fhget (nfsCopyFh3_wellFormed _) rootCache_fhgetPath).1.1

theorem rootCache_fhgetRun :
    FhgetRun linuxHost [⟨⟨[0], by decide⟩, rootFattr, .obj 0⟩] rootCache :=
  .call (.init .zeroed) (by decide) ((hsiNfsFhget_path_iff linuxHost
    (numbered_emptyCache .zeroed).live _ _ _ _).mpr rootCache_fhgetPath)

theorem exportHandle_fits : [(0 : UInt8)].length ≤ 64 := by
  decide

theorem fileHandle_fits : [(7 : UInt8)].length ≤ 64 := by
  decide

/-- Three calls: for the root, for a file in it, and for the root again. -/
def objectLog : List FhgetCall :=
  [⟨⟨[0], exportHandle_fits⟩, rootFattr, .obj 0⟩, ⟨⟨[7], fileHandle_fits⟩, fileFattr, .obj 1⟩,
    ⟨⟨[0], exportHandle_fits⟩, rootFattr, .obj 0⟩]

theorem objectLog_run : ∃ daemon, FhgetRun linuxHost objectLog daemon ∧
    daemon.heap.length = 2 := by
  have hfile : FhgetPath rootCache (nfsCopyFh3 ⟨[7], by decide⟩) fileFattr
      [⟨.malloc .nfsInode, true⟩] (.done (.obj 1) fileCache) :=
    .entered (by decide) (by decide) (by decide)
  have hagain : FhgetPath fileCache (nfsCopyFh3 ⟨[0], by decide⟩) rootFattr [] (.done (.obj 0) _) :=
    .hit (by decide) (by decide)
  have htwo := rootCache_fhgetRun.call (by decide)
    ((hsiNfsFhget_path_iff linuxHost coherent_rootCache.live _ _ _ _).mpr hfile)
  exact ⟨_, htwo.call (by decide)
    ((hsiNfsFhget_path_iff linuxHost htwo.logged.coherent.live _ _ _ _).mpr hagain), rfl⟩

/-- The first and the last call name one object and get one inode, the other one gets another. -/
theorem one_inode_per_object_objectLog : ∃ daemon, FhgetRun linuxHost objectLog daemon ∧
    (∀ index < 2, OnceIn daemon.sb.idTable index ∧ OnceIn daemon.sb.fhTable index) ∧
    ∀ call ∈ objectLog, ∀ call' ∈ objectLog, call.ptr = call'.ptr ↔
      call.fattr.fileid = call'.fattr.fileid ∧ call.fh.data = call'.fh.data := by
  obtain ⟨daemon, hrun, hlength⟩ := objectLog_run
  obtain ⟨hsame, -, honce⟩ := one_inode_per_object linuxHost objectLog daemon hrun
  refine ⟨daemon, hrun, fun index hlt ↦ ?_, fun call hmem call' hmem' ↦ ?_⟩
  · obtain ⟨hid, hfh, -⟩ := honce index (hlength ▸ hlt)
    exact ⟨hid, hfh⟩
  · have hobj : ∀ call ∈ objectLog, ∃ index, call.ptr = .obj index := by
      simp [objectLog]
    obtain ⟨index, hptr⟩ := hobj call hmem
    obtain ⟨index', hptr'⟩ := hobj call' hmem'
    rw [hptr, hptr', InodePtr.obj.injEq, hsame call hmem call' hmem' index index' hptr hptr']
    refine and_congr_right fun _ ↦ ⟨And.right, fun hdata ↦ ⟨congrArg List.length hdata, hdata⟩⟩

end NfsFuse
