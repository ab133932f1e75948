import NfsFuse.Fuse.Frames
import NfsFuse.Nfs3.Acquisition

/-!
# Counting references

`Counts given` relates two states of the daemon between which the lookup counts have gone up by at
least the number of times each inode number occurs in `given`.  The handlers that reply with
entries count what they give, except for `hsx_fuse_link`; `hsx_fuse_forget` takes back what it is
told to.
-/

namespace NfsFuse

open Lib

-- `hsi_nfs_fhget` is only used through the list of its runs
attribute [local irreducible] hsiNfsFhget

/-- From a coherent cache to a larger one whose lookup counts cover the given references. -/
structure Counts (given : List UInt64) (daemon daemon' : Daemon) : Prop where
  coherent : Coherent daemon'
  length_le : daemon.heap.length ≤ daemon'.heap.length
  ino_eq : ∀ index < daemon.heap.length, (daemon'.inode index).ino = (daemon.inode index).ino
  counted : ∀ index < daemon'.heap.length,
    (daemon.inode index).priv.toNat + given.count (daemon'.inode index).ino ≤
      (daemon'.inode index).priv.toNat
  known : ∀ ino ∈ given, ∃ index < daemon'.heap.length, (daemon'.inode index).ino = ino

/-- Nothing is counted behind the last inode. -/
theorem Daemon.priv_of_le {daemon : Daemon} {index : ℕ} (h : daemon.heap.length ≤ index) :
    (daemon.inode index).priv = 0 := by
  simp [Daemon.inode, List.getD_eq_getElem?_getD, h, NfsInode.cleared]

namespace Counts

variable {given given' : List UInt64} {daemon daemon₁ daemon' : Daemon}

theorem of_grows (hcoherent : Coherent daemon') (h : Grows daemon daemon') :
    Counts [] daemon daemon' where
  coherent := hcoherent
  length_le := h.length_le
  ino_eq := h.ino_eq
  counted index hlt := by
    rw [List.count_nil, Nat.add_zero]
    by_cases hold : index < daemon.heap.length
    · rw [h.priv_eq index hold]
    · rw [Daemon.priv_of_le (not_lt.mp hold)]
      exact Nat.zero_le _
  known _ hmem := (List.not_mem_nil hmem).elim

/-- References given in a first part are not to inodes that are entered in a second part. -/
theorem trans (h : Counts given daemon daemon₁) (h' : Counts given' daemon₁ daemon') :
    Counts (given ++ given') daemon daemon' where
  coherent := h'.coherent
  length_le := h.length_le.trans h'.length_le
  ino_eq index hlt := (h'.ino_eq index (hlt.trans_le h.length_le)).trans (h.ino_eq index hlt)
  counted index hlt := by
    have hsecond := h'.counted index hlt
    rw [List.count_append]
    by_cases hold : index < daemon₁.heap.length
    · have hfirst := h.counted index hold
      rw [h'.ino_eq index hold] at hsecond ⊢
      omega
    · have hnot : (daemon'.inode index).ino ∉ given := by
        intro hmem
        obtain ⟨other, hother, hino⟩ := h.known _ hmem
        rw [← h'.ino_eq other hother] at hino
        have heq := h'.coherent.ino_inj (hother.trans_le h'.length_le) hlt hino
        omega
      rw [List.count_eq_zero_of_not_mem hnot,
        Daemon.priv_of_le ((h.length_le).trans (not_lt.mp hold))]
      have hzero : (0 : UInt64).toNat = 0 := rfl
      omega
  known ino hmem := by
    rcases List.mem_append.mp hmem with hmem | hmem
    · obtain ⟨index, hlt, hino⟩ := h.known ino hmem
      exact ⟨index, hlt.trans_le h'.length_le, (h'.ino_eq index hlt).trans hino⟩
    · exact h'.known ino hmem

theorem sublist (h : Counts given daemon daemon') (hsub : given'.Sublist given) :
    Counts given' daemon daemon' where
  coherent := h.coherent
  length_le := h.length_le
  ino_eq := h.ino_eq
  counted index hlt := by
    have hcount := hsub.count_le (daemon'.inode index).ino
    have hcounted := h.counted index hlt
    omega
  known ino hmem := h.known ino (hsub.subset hmem)

end Counts

/-- What is cached does not depend on the lookup counts. -/
theorem Coherent.setPriv {daemon : Daemon} (h : Coherent daemon) {index : ℕ}
    (hlt : index < daemon.heap.length) (priv : UInt64) :
    Coherent (daemon.setInode index { daemon.inode index with priv := priv }) :=
  h.setInode hlt rfl rfl rfl ((h.inodeOk index hlt).setPriv priv)

/-- A higher count for one inode. -/
theorem Coherent.counts_setPriv {daemon : Daemon} (h : Coherent daemon) {index : ℕ}
    (hlt : index < daemon.heap.length) {priv : UInt64}
    (hpriv : (daemon.inode index).priv.toNat + 1 ≤ priv.toNat) :
    Counts [(daemon.inode index).ino] daemon
      (daemon.setInode index { daemon.inode index with priv := priv }) := by
  have hino (other : ℕ) : ((daemon.setInode index { daemon.inode index with priv := priv }).inode
      other).ino = (daemon.inode other).ino := by
    apply Daemon.inode_setInode_proj NfsInode.ino
    rfl
  constructor
  · exact h.setPriv hlt priv
  · exact (Daemon.setInode_length _ _ _).ge
  · exact fun other _ ↦ hino other
  · intro other hother
    rw [Daemon.setInode_length] at hother
    rw [hino]
    rcases eq_or_ne other index with rfl | hne
    · rw [Daemon.inode_setInode_self hlt, List.count_singleton_self]
      exact hpriv
    · have hnot : (daemon.inode other).ino ∉ [(daemon.inode index).ino] := by
        rw [List.mem_singleton]
        exact fun heq ↦ hne (h.ino_inj hother hlt heq)
      rw [Daemon.inode_setInode_ne hne, List.count_eq_zero_of_not_mem hnot, Nat.add_zero]
  · intro ino hmem
    rw [List.mem_singleton.mp hmem]
    exact ⟨index, by rwa [Daemon.setInode_length], hino index⟩

/-- There is room for that many more references to every inode. -/
def Daemon.HasRoom (daemon : Daemon) (count : ℕ) : Prop :=
  ∀ index, (daemon.inode index).priv.toNat + count < 2 ^ 64

theorem Daemon.HasRoom.mono {daemon : Daemon} {count count' : ℕ} (h : daemon.HasRoom count)
    (hle : count' ≤ count) : daemon.HasRoom count' :=
  fun index ↦ (Nat.add_le_add_left hle _).trans_lt (h index)

theorem Daemon.HasRoom.grows {daemon daemon' : Daemon} {count : ℕ} (h : daemon.HasRoom count)
    (hgrows : Grows daemon daemon') : daemon'.HasRoom count := by
  intro index
  by_cases hold : index < daemon.heap.length
  · rw [hgrows.priv_eq index hold]
    exact h index
  · have hroom := h index
    rw [Daemon.priv_of_le (not_lt.mp hold)] at hroom
    by_cases hnew : index < daemon'.heap.length
    · rw [hgrows.priv_new index hnew (not_lt.mp hold)]
      exact hroom
    · rw [Daemon.priv_of_le (not_lt.mp hnew)]
      exact hroom

theorem Daemon.HasRoom.toNat_add_one {daemon : Daemon} {count : ℕ} (h : daemon.HasRoom (count + 1))
    (index : ℕ) : ((daemon.inode index).priv + 1).toNat = (daemon.inode index).priv.toNat + 1 := by
  have hroom := h index
  have hone : (1 : UInt64).toNat = 1 := rfl
  rw [UInt64.toNat_add, hone, Nat.mod_eq_of_lt (by omega)]

theorem hsxFuseRefInc_obj_run {daemon : Daemon} (h : Coherent daemon) (index : ℕ) (val : UInt64) :
    (hsxFuseRefInc (.obj index) val).run daemon = .ret ((daemon.inode index).priv + val)
      (daemon.setInode index
        { daemon.inode index with priv := (daemon.inode index).priv + val }) := by
  have hlive : index ∉ daemon.freed := by simp [h.freed_nil]
  rw [hsxFuseRefInc, Program.bind_run_of_ret (deref_obj_run hlive)]
  rfl

theorem hsxFuseRefXchg_obj_run {daemon : Daemon} (h : Coherent daemon) (index : ℕ) (val : UInt64) :
    (hsxFuseRefXchg (.obj index) val).run daemon = .ret (daemon.inode index).priv
      (daemon.setInode index { daemon.inode index with priv := val }) := by
  have hlive : index ∉ daemon.freed := by simp [h.freed_nil]
  rw [hsxFuseRefXchg, Program.bind_run_of_ret (deref_obj_run hlive)]
  rfl

theorem hsxFuseFillReply_obj_run {daemon : Daemon} (h : Coherent daemon) (index : ℕ) :
    (hsxFuseFillReply (.obj index)).run daemon =
      .ret (entryParam daemon.sb (daemon.inode index)) daemon := by
  have hlive : index ∉ daemon.freed := by simp [h.freed_nil]
  rw [hsxFuseFillReply, Program.bind_run_of_ret (deref_obj_run hlive)]
  rfl

/-- A created object gets its first reference; one that already has references fails the
assertion. -/
theorem countCreated_obj_run {daemon : Daemon} (h : Coherent daemon) {index : ℕ}
    (hlt : index < daemon.heap.length) :
    (countCreated (.obj index)).run daemon =
      if (daemon.inode index).priv = 0 then
        .ret (entryParam daemon.sb { daemon.inode index with priv := 1 })
          (daemon.setInode index { daemon.inode index with priv := 1 })
      else .fault (.assertFailed .refCreate)
        (daemon.setInode index { daemon.inode index with priv := 1 }) := by
  have hfill := hsxFuseFillReply_obj_run (h.setPriv hlt 1) index
  rw [Daemon.inode_setInode_self hlt] at hfill
  rw [countCreated, Program.bind_run_of_ret (hsxFuseRefXchg_obj_run h index 1), Prog.assert]
  by_cases hzero : (daemon.inode index).priv = 0
  · rw [if_pos (beq_iff_eq.mpr hzero), if_pos hzero]
    exact hfill
  · rw [if_neg (beq_iff_eq.not.mpr hzero), if_neg hzero]
    rfl

/-- The replies to one request give references that have been counted. -/
def Answered (daemon daemon' : Daemon) : Prop := Counts daemon'.given daemon daemon'

/-- A quiet part in front of counting. -/
theorem Answered.after {daemon daemon₁ daemon' : Daemon} (hcoherent : Coherent daemon₁)
    (hgrows : Grows daemon daemon₁) (h : Answered daemon₁ daemon') : Answered daemon daemon' :=
  (Counts.of_grows hcoherent hgrows).trans h

/-- A handler that gives nothing has counted all it gave. -/
theorem answered_of_quiet {program : Prog Unit} (h : program.Respects Quiet) {daemon : Daemon}
    (hcoherent : Coherent daemon) (hreplies : daemon.replies = []) {trace : Trace}
    {daemon' : Daemon}
    (hpath : (program.run daemon).Path trace (.done () daemon')) : Answered daemon daemon' := by
  obtain ⟨hcoherent', hgrows, hgiven⟩ := h _ _ _ _ hpath hcoherent
  have hcounts := Counts.of_grows (hcoherent'.setReplies daemon.replies) hgrows
  rw [Answered, hgiven, Daemon.given, hreplies]
  exact ⟨hcoherent', hcounts.length_le, hcounts.ino_eq, hcounts.counted, hcounts.known⟩

/-- An entry reply for an inode that has been counted. -/
theorem answered_entry {daemon daemon' : Daemon} {ino : UInt64} (h : Counts [ino] daemon daemon')
    (hreplies : daemon'.replies = []) {message : FuseReply} (hgiven : message.given = [ino]) :
    Answered daemon (daemon'.setReplies (daemon'.replies ++ [message])) := by
  have hall : (daemon'.setReplies (daemon'.replies ++ [message])).given = [ino] := by
    simp [Daemon.given, Daemon.setReplies, hreplies, hgiven]
  rw [Answered, hall]
  exact ⟨h.coherent.setReplies _, h.length_le, h.ino_eq, h.counted, h.known⟩

/-- A pointer to an inode points to a cached one. -/
def InodePtr.Cached (ptr : InodePtr) (daemon : Daemon) : Prop :=
  ∀ index, ptr = .obj index → index < daemon.heap.length

theorem InodePtr.Cached.grows {ptr : InodePtr} {daemon daemon' : Daemon} (h : ptr.Cached daemon)
    (hgrows : Grows daemon daemon') : ptr.Cached daemon' :=
  fun index heq ↦ (h index heq).trans_le hgrows.length_le

/-- The pointer that a program returns is to a cached inode. -/
def ReturnsCached {α : Type} (ptr : α → InodePtr) (program : Prog α) : Prop :=
  program.Ensures fun daemon value daemon' ↦ Coherent daemon → (ptr value).Cached daemon'

theorem ReturnsCached.pure {α : Type} {ptr : α → InodePtr} {value : α}
    (h : ∀ index, ptr value ≠ .obj index) : ReturnsCached ptr (Pure.pure value) :=
  fun _ _ _ _ hpath _ index heq ↦ absurd (by cases hpath.2; exact heq) (h index)

/-- What comes before does not matter as long as it keeps the cache coherent. -/
theorem ReturnsCached.bind {α β : Type} {ptr : β → InodePtr} {first : Prog α} {next : α → Prog β}
    (hfirst : first.Respects KeepsCoherent) (hnext : ∀ value, ReturnsCached ptr (next value)) :
    ReturnsCached ptr (first >>= next) := by
  intro daemon trace value daemon' hpath hcoherent
  obtain ⟨middle, daemon₁, front, rest, hfront, hrest, -⟩ := Program.path_bind_done.mp hpath
  exact hnext middle _ _ _ _ hrest (hfirst _ _ _ _ hfront hcoherent).1

theorem cached_hsiNfsFhget (plat : Platform) (handle : NfsFh3) (fattr : NfsFattr) :
    ReturnsCached id (hsiNfsFhget plat (nfsCopyFh3 handle) fattr) := by
  intro daemon trace ptr daemon' hpath hcoherent index heq
  rw [hsiNfsFhget_path_iff plat hcoherent.live] at hpath
  exact ((hcoherent.fhget (nfsCopyFh3_wellFormed handle) hpath).2.1 index heq).1

theorem cached_hsiNfs3HandleCreate (plat : Platform) (dir : Diropres3ok) :
    ReturnsCached id (hsiNfs3HandleCreate plat dir) := by
  unfold hsiNfs3HandleCreate
  split
  · intro daemon trace ptr daemon' hpath _ index heq
    rw [errPtr_enoent plat daemon] at hpath
    cases hpath.2
    cases heq
  · exact cached_hsiNfsFhget plat _ _

/-- A pointer is handed on after work that keeps the cache. -/
theorem cached_bind {acquire : Prog InodePtr} {next : InodePtr → Prog (ℤ × InodePtr)}
    (hacquire : ReturnsCached id acquire) (hkeeps : acquire.Respects KeepsCoherent)
    (hnext : ∀ ptr, (next ptr).Ensures fun daemon value daemon' ↦
      Coherent daemon → Grows daemon daemon' ∧ (value.2 = ptr ∨ value.2 = .null)) :
    ReturnsCached Prod.snd (acquire >>= next) := by
  intro daemon trace value daemon' hpath hcoherent
  obtain ⟨ptr, daemon₁, front, rest, hfront, hrest, -⟩ := Program.path_bind_done.mp hpath
  obtain ⟨hcoherent₁, -⟩ := hkeeps _ _ _ _ hfront hcoherent
  obtain ⟨hgrows, heq | heq⟩ := hnext ptr _ _ _ _ hrest hcoherent₁
  · rw [heq]
    exact (hacquire _ _ _ _ hfront hcoherent).grows hgrows
  · rw [heq]
    exact fun index heq ↦ (nomatch heq)

theorem cached_hsiNfs3Lookup (plat : Platform) (parent : ℕ) (name : CString) :
    ReturnsCached Prod.snd (hsiNfs3Lookup plat parent name) := by
  refine .bind (.getInode parent) fun inode ↦ .bind (.clntCall _) fun outcome ↦ ?_
  split
  · exact .pure nofun
  · exact .pure nofun
  · refine cached_bind (cached_hsiNfsFhget plat _ _)
      (keeps_hsiNfsFhget plat (nfsCopyFh3_wellFormed _) _) fun ptr ↦ ?_
    rintro daemon trace value daemon' ⟨-, heq⟩ -
    cases heq
    exact ⟨Grows.refl _, Or.inl rfl⟩

theorem cached_finishCreate (plat : Platform) (outcome : RpcOutcome Diropres3ok) :
    ReturnsCached Prod.snd (finishCreate plat outcome) := by
  unfold finishCreate
  split
  · exact .pure nofun
  · exact .pure nofun
  · refine cached_bind (cached_hsiNfs3HandleCreate plat _) (keeps_hsiNfs3HandleCreate plat _)
      fun ptr ↦ ?_
    intro daemon trace value daemon' hpath _
    split_ifs at hpath
    · cases hpath.2
      exact ⟨Grows.refl _, Or.inr rfl⟩
    · cases hpath.2
      exact ⟨Grows.refl _, Or.inl rfl⟩

theorem cached_hsiNfs3Mkdir (plat : Platform) (parent : ℕ) (name : CString) (mode : UInt32) :
    ReturnsCached Prod.snd (hsiNfs3Mkdir plat parent name mode) :=
  .bind (.getInode parent) fun _ ↦ .bind (.clntCall _) fun _ ↦ cached_finishCreate plat _

theorem cached_hsiNfs3Symlink (plat : Platform) (parent : ℕ) (link name : CString) :
    ReturnsCached Prod.snd (hsiNfs3Symlink plat parent link name) :=
  .bind (.getInode parent) fun _ ↦ .bind (.clntCall _) fun _ ↦ cached_finishCreate plat _

theorem cached_hsiNfs3Mknod (plat : Platform) (parent : ℕ) (name : CString) (mode : UInt32)
    (rdev : UInt64) : ReturnsCached Prod.snd (hsiNfs3Mknod plat parent name mode rdev) := by
  unfold hsiNfs3Mknod
  split_ifs
  · exact .pure nofun
  · refine .bind (keeps_copyName _ name) fun copied ↦ ?_
    split_ifs
    · exact .bind (.getInode parent) fun _ ↦ .bind (.clntCall _) fun _ ↦ cached_finishCreate plat _
    · exact .pure nofun

theorem cached_hsiNfs3Create (plat : Platform) (parent : ℕ) (name : CString) (mode : UInt32) :
    ReturnsCached Prod.snd (hsiNfs3Create plat parent name mode) := by
  refine .bind (.getInode parent) fun hi ↦ .bind (.clntCall _) fun outcome ↦ ?_
  split
  · exact .pure nofun
  · exact .pure nofun
  · refine cached_bind (cached_hsiNfs3HandleCreate plat _) (keeps_hsiNfs3HandleCreate plat _)
      fun ptr ↦ ?_
    intro daemon trace value daemon' hpath hcoherent
    split_ifs at hpath
    · cases hpath.2
      exact ⟨Grows.refl _, Or.inr rfl⟩
    · obtain ⟨status, daemon₁, front, rest, hsetattr, ⟨-, heq⟩, -⟩ :=
        Program.path_bind_done.mp hpath
      cases heq
      exact ⟨(keeps_exclusiveSetattr ptr mode _ _ _ _ hsetattr hcoherent).2, Or.inl rfl⟩
    · cases hpath.2
      exact ⟨Grows.refl _, Or.inl rfl⟩

/-! ## The handlers -/

/-- How many references an answer leads to at most. -/
def objectsIn : Event EnvAns → ℕ
  | ⟨.call (.lookup _), .done (.ok _)⟩ => 1
  | ⟨.call (.readdirplus _ _ _ _ _), .done (.ok res)⟩ => res.entries.length
  | _ => 0

/-- How many references the answers of a run lead to at most. -/
def objectCount (trace : Trace) : ℕ := (trace.map objectsIn).sum

theorem objectCount_append (front rest : Trace) :
    objectCount (front ++ rest) = objectCount front + objectCount rest := by
  simp [objectCount]

/-- A lookup that returns 0 has received an object. -/
theorem hsiNfs3Lookup_objectCount {plat : Platform} {parent : ℕ} {name : CString}
    {daemon daemon' : Daemon} {trace : Trace} {ptr : InodePtr}
    (hpath : ((hsiNfs3Lookup plat parent name).run daemon).Path trace (.done (0, ptr) daemon')) :
    1 ≤ objectCount trace := by
  unfold hsiNfs3Lookup at hpath
  rw [Prog.getInode_bind] at hpath
  obtain ⟨outcome, rest, rfl, hrest⟩ := Prog.path_clntCall_bind.mp hpath
  match outcome with
  | .fail err hne =>
    cases hrest.2
    exact absurd rfl hne
  | .done (.fail status hne) =>
    have heq := hrest.2
    simp only [Ending.done.injEq, Prod.mk.injEq] at heq
    exact absurd heq.1.1.symm (hsiNfs3StatToErrno_ne_zero hne)
  | .done (.ok res) =>
    rw [objectCount, List.map_cons, List.sum_cons]
    exact Nat.le_add_right 1 _

theorem answered_hsxFuseLookup {plat : Platform} {ino : UInt64} {name : CString}
    {daemon daemon' : Daemon} {trace : Trace} (hcoherent : Coherent daemon)
    (hreplies : daemon.replies = []) (hroom : daemon.HasRoom (objectCount trace))
    (hpath : ((hsxFuseLookup plat ino name).run daemon).Path trace (.done () daemon')) :
    Answered daemon daemon' := by
  rw [hsxFuseLookup] at hpath
  rcases hcoherent.path_ilookup hpath with ⟨-, hpath⟩ | ⟨parent, -, hpath⟩
  · exact answered_of_quiet (quiet_err _) hcoherent hreplies hpath
  · obtain ⟨⟨err, child⟩, daemon₁, front, rest, hlookup, hrest, rfl⟩ :=
      Program.path_bind_done.mp hpath
    obtain ⟨hcoherent₁, hgrows⟩ := keeps_hsiNfs3Lookup _ _ _ _ _ _ _ hlookup hcoherent
    have hreplies₁ : daemon₁.replies = [] := hgrows.replies_eq.trans hreplies
    refine Answered.after hcoherent₁ hgrows ?_
    dsimp only at hrest
    split_ifs at hrest with herr
    · exact answered_of_quiet (quiet_err _) hcoherent₁ hreplies₁ hrest
    · cases child with
      | null => exact answered_of_quiet (quiet_err _) hcoherent₁ hreplies₁ hrest
      | err error => cases hrest.2
      | obj index =>
        rw [not_not.mp herr] at hlookup
        have hlt := cached_hsiNfs3Lookup _ _ _ _ _ _ _ hlookup hcoherent index rfl
        have hroom₁ : daemon₁.HasRoom (0 + 1) := by
          refine (hroom.grows hgrows).mono ?_
          rw [objectCount_append]
          exact (hsiNfs3Lookup_objectCount hlookup).trans (Nat.le_add_right _ _)
        have hcounts := hcoherent₁.counts_setPriv hlt (hroom₁.toNat_add_one index).ge
        rw [Program.bind_run_of_ret (hsxFuseRefInc_obj_run hcoherent₁ index 1),
          Program.bind_run_of_ret (hsxFuseFillReply_obj_run hcounts.coherent index)] at hrest
        cases hrest.2
        refine answered_entry hcounts hreplies₁ ?_
        rw [FuseReply.given, entryParam, Daemon.inode_setInode_self hlt]

/-- The end of the creating handlers counts the reference it gives. -/
theorem answered_replyCreated {err : ℤ} {new : InodePtr} {success : FuseEntryParam → FuseReply}
    (hsuccess : ∀ param, (success param).given = [param.ino]) {daemon daemon' : Daemon}
    {trace : Trace} (hcoherent : Coherent daemon) (hreplies : daemon.replies = [])
    (hnew : new.Cached daemon)
    (hpath : ((replyCreated err new success).run daemon).Path trace (.done () daemon')) :
    Answered daemon daemon' := by
  unfold replyCreated at hpath
  split_ifs at hpath with herr
  · exact answered_of_quiet (quiet_err _) hcoherent hreplies hpath
  · cases new with
    | null => exact answered_of_quiet (quiet_err _) hcoherent hreplies hpath
    | err error => cases hpath.2
    | obj index =>
      have hlt := hnew index rfl
      obtain ⟨param, daemon₁, front, rest, hcount, ⟨-, heq⟩, -⟩ := Program.path_bind_done.mp hpath
      cases heq
      rw [countCreated_obj_run hcoherent hlt] at hcount
      split_ifs at hcount with hzero
      · cases hcount.2
        have hpriv : (daemon.inode index).priv.toNat + 1 ≤ (1 : UInt64).toNat := by
          rw [hzero]
          exact le_rfl
        refine answered_entry (hcoherent.counts_setPriv hlt hpriv) hreplies ?_
        rw [hsuccess, entryParam]
      · cases hcount.2

/-- The shape of `hsx_fuse_mkdir`, `hsx_fuse_mknod` and `hsx_fuse_symlink` behind `hsfs_ilookup`. -/
theorem answered_created {procedure : Prog (ℤ × InodePtr)} {success : FuseEntryParam → FuseReply}
    (hkeeps : procedure.Respects KeepsCoherent) (hcached : ReturnsCached Prod.snd procedure)
    (hsuccess : ∀ param, (success param).given = [param.ino]) {daemon daemon' : Daemon}
    {trace : Trace} (hcoherent : Coherent daemon) (hreplies : daemon.replies = [])
    (hpath : ((procedure >>= fun result ↦ replyCreated result.1 result.2 success).run daemon).Path
      trace (.done () daemon')) : Answered daemon daemon' := by
  obtain ⟨⟨err, new⟩, daemon₁, front, rest, hcreate, hrest, -⟩ := Program.path_bind_done.mp hpath
  obtain ⟨hcoherent₁, hgrows⟩ := hkeeps _ _ _ _ hcreate hcoherent
  exact Answered.after hcoherent₁ hgrows (answered_replyCreated hsuccess hcoherent₁
    (hgrows.replies_eq.trans hreplies) (hcached _ _ _ _ hcreate hcoherent) hrest)

theorem answered_hsxFuseMkdir {plat : Platform} {parent : UInt64} {name : CString} {mode : UInt32}
    {daemon daemon' : Daemon} {trace : Trace} (hcoherent : Coherent daemon)
    (hreplies : daemon.replies = [])
    (hpath : ((hsxFuseMkdir plat parent name mode).run daemon).Path trace (.done () daemon')) :
    Answered daemon daemon' := by
  rw [hsxFuseMkdir] at hpath
  rcases hcoherent.path_ilookup hpath with ⟨-, hpath⟩ | ⟨index, -, hpath⟩
  · exact answered_of_quiet (.pure ()) hcoherent hreplies hpath
  · exact answered_created (keeps_hsiNfs3Mkdir _ _ _ _) (cached_hsiNfs3Mkdir _ _ _ _)
      (fun _ ↦ rfl) hcoherent hreplies hpath

theorem answered_hsxFuseMknod {plat : Platform} {parent : UInt64} {name : CString} {mode : UInt32}
    {rdev : UInt64} {daemon daemon' : Daemon} {trace : Trace} (hcoherent : Coherent daemon)
    (hreplies : daemon.replies = [])
    (hpath : ((hsxFuseMknod plat parent name mode rdev).run daemon).Path trace
      (.done () daemon')) : Answered daemon daemon' := by
  rw [hsxFuseMknod] at hpath
  rcases hcoherent.path_ilookup hpath with ⟨-, hpath⟩ | ⟨index, -, hpath⟩
  · exact answered_of_quiet (quiet_err _) hcoherent hreplies hpath
  · exact answered_created (keeps_hsiNfs3Mknod _ _ _ _ _) (cached_hsiNfs3Mknod _ _ _ _ _)
      (fun _ ↦ rfl) hcoherent hreplies hpath

theorem answered_hsxFuseSymlink {plat : Platform} {link : CString} {parent : UInt64}
    {name : CString} {daemon daemon' : Daemon} {trace : Trace} (hcoherent : Coherent daemon)
    (hreplies : daemon.replies = [])
    (hpath : ((hsxFuseSymlink plat link parent name).run daemon).Path trace (.done () daemon')) :
    Answered daemon daemon' := by
  rw [hsxFuseSymlink] at hpath
  rcases hcoherent.path_ilookup hpath with ⟨-, hpath⟩ | ⟨index, -, hpath⟩
  · exact answered_of_quiet (quiet_err _) hcoherent hreplies hpath
  · exact answered_created (keeps_hsiNfs3Symlink _ _ _ _) (cached_hsiNfs3Symlink _ _ _ _)
      (fun _ ↦ rfl) hcoherent hreplies hpath

/-- Storing the caller's identity in the directory keeps the cache coherent. -/
theorem keeps_setOwner (index : ℕ) (uid gid : UInt32) :
    (Prog.modifyInode index fun inode ↦
      { inode with iattr := { inode.iattr with uid, gid } }).Respects KeepsCoherent := by
  apply keeps_modifyInode
  · exact fun _ ↦ rfl
  · exact fun _ ↦ rfl
  · exact fun _ ↦ rfl
  · exact fun _ ↦ rfl
  · exact fun inode hok ↦ ⟨hok.fh_wellFormed, hok.realIno_eq, hok.flags_eq, hok.iState_eq,
      hok.iRdev_eq, hok.valid_eq, hok.iCount_le⟩

theorem answered_hsxFuseCreate {plat : Platform} {parent : UInt64} {name : CString}
    {mode flags uid gid : UInt32} {daemon daemon' : Daemon} {trace : Trace}
    (hcoherent : Coherent daemon) (hreplies : daemon.replies = [])
    (hpath : ((hsxFuseCreate plat parent name mode flags uid gid).run daemon).Path trace
      (.done () daemon')) : Answered daemon daemon' := by
  rw [hsxFuseCreate] at hpath
  rcases hcoherent.path_ilookup hpath with ⟨-, hpath⟩ | ⟨index, -, hpath⟩
  · exact answered_of_quiet (.pure ()) hcoherent hreplies hpath
  · obtain ⟨⟨⟩, daemon₁, front, rest, howner, hrest, -⟩ := Program.path_bind_done.mp hpath
    obtain ⟨hcoherent₁, hgrows⟩ := keeps_setOwner _ _ _ _ _ _ _ howner hcoherent
    exact Answered.after hcoherent₁ hgrows (answered_created (keeps_hsiNfs3Create _ _ _ _)
      (cached_hsiNfs3Create _ _ _ _) (fun _ ↦ rfl) hcoherent₁
      (hgrows.replies_eq.trans hreplies) hrest)

/-- A listing that returns 0 consists of cached inodes, not more than the server named. -/
theorem hsiNfs3ReaddirPlus_done {plat : Platform} {parent : ℕ} {count maxcount : UInt32}
    {cookie : UInt64} {daemon daemon' : Daemon} {trace : Trace} {chain : List ReaddirCtx}
    (hcoherent : Coherent daemon)
    (hpath : ((hsiNfs3ReaddirPlus plat parent count cookie maxcount).run daemon).Path trace
      (.done (0, chain) daemon')) :
    chain.length ≤ objectCount trace ∧ ∀ ctx ∈ chain, ctx.inode.Cached daemon' := by
  unfold hsiNfs3ReaddirPlus at hpath
  rw [Prog.getInode_bind] at hpath
  obtain ⟨outcome, rest, rfl, hrest⟩ := Prog.path_clntCall_bind.mp hpath
  match outcome with
  | .fail err hne =>
    cases hrest.2
    exact absurd rfl hne
  | .done (.fail status hne) =>
    have heq := hrest.2
    simp only [Ending.done.injEq, Prod.mk.injEq] at heq
    exact absurd heq.1.1.symm (hsiNfs3StatToErrno_ne_zero hne)
  | .done (.ok res) =>
    obtain ⟨err, daemon₁, front, back, hbegin, hloop, rfl⟩ := Program.path_bind_done.mp hrest
    obtain ⟨hcoherent₁, -⟩ := keeps_beginListing _ _ _ _ _ _ _ hbegin hcoherent
    split_ifs at hloop with herr
    · cases hloop.2
      exact absurd rfl herr
    · obtain ⟨acquired, stop, daemon₂, t, t', hacquiring, hfinish, rfl⟩ :=
        copyEntriesPlus_path hcoherent₁ hloop
      cases stop with
      | completed =>
        cases hfinish.2
        refine ⟨?_, fun ctx hmem index ↦
          hacquiring.lt_length ListingStop.noConfusion hcoherent₁ ctx hmem index⟩
        rw [objectCount, List.map_cons, List.sum_cons]
        exact hacquiring.length_le.trans (Nat.le_add_right _ _)
      | noMemory =>
        obtain ⟨⟨⟩, daemon₃, _, _, -, ⟨-, heq⟩, -⟩ := Program.path_bind_done.mp hfinish
        cases heq
      | noHandle ctx =>
        obtain ⟨⟨⟩, daemon₃, _, _, -, ⟨-, heq⟩, -⟩ := Program.path_bind_done.mp hfinish
        cases heq
      | spin => cases hfinish.2

/-- The loop of `hsx_fuse_readdir_plus` counts every entry it packs. -/
theorem packDirentsPlus_done {plat : Platform} {size : ℕ} {chain : List ReaddirCtx} {len : ℕ}
    {done entries : List DirentPlus} {daemon daemon' : Daemon} {trace : Trace}
    (hcoherent : Coherent daemon) (hcached : ∀ ctx ∈ chain, ctx.inode.Cached daemon)
    (hroom : daemon.HasRoom chain.length)
    (hpath : ((packDirentsPlus plat size chain len done).run daemon).Path trace
      (.done entries daemon')) :
    ∃ new, entries = done ++ new ∧ Counts (new.map (·.entry.ino)) daemon daemon' ∧
      daemon'.replies = daemon.replies := by
  induction chain generalizing daemon len done trace with
  | nil =>
    cases hpath.2
    exact ⟨[], (List.append_nil _).symm, Counts.of_grows hcoherent (Grows.refl _), rfl⟩
  | cons ctx rest ih =>
    rw [List.forall_mem_cons] at hcached
    unfold packDirentsPlus at hpath
    cases hinode : ctx.inode with
    | null =>
      rw [hinode] at hpath
      cases hpath.2
    | err error =>
      rw [hinode] at hpath
      cases hpath.2
    | obj index =>
      have hlt := hcached.1 index hinode
      rw [hinode, Program.bind_run_of_ret (hsxFuseFillReply_obj_run hcoherent index)] at hpath
      split_ifs at hpath
      · cases hpath.2
        exact ⟨[], (List.append_nil _).symm, Counts.of_grows hcoherent (Grows.refl _), rfl⟩
      · have hcounts := hcoherent.counts_setPriv hlt (hroom.toNat_add_one index).ge
        rw [Program.bind_run_of_ret (hsxFuseRefInc_obj_run hcoherent index 1)] at hpath
        have hcached₁ : ∀ ctx ∈ rest, ctx.inode.Cached (daemon.setInode index
            { daemon.inode index with priv := (daemon.inode index).priv + 1 }) := by
          intro ctx hmem other heq
          rw [Daemon.setInode_length]
          exact hcached.2 ctx hmem other heq
        have hroom₁ : (daemon.setInode index { daemon.inode index with
            priv := (daemon.inode index).priv + 1 }).HasRoom rest.length := by
          intro other
          have hother := hroom other
          rw [List.length_cons] at hother
          rcases eq_or_ne other index with rfl | hne
          · rw [Daemon.inode_setInode_self hlt, hroom.toNat_add_one]
            omega
          · rw [Daemon.inode_setInode_ne hne]
            omega
        obtain ⟨new, rfl, hnew, hreplies⟩ := ih hcounts.coherent hcached₁ hroom₁ hpath
        refine ⟨⟨ctx.name, entryParam daemon.sb (daemon.inode index), ctx.off⟩ :: new, by simp, ?_,
          hreplies⟩
        exact hcounts.trans hnew

theorem answered_hsxFuseReaddirPlus {plat : Platform} {ino : UInt64} {size : ℕ} {off : UInt64}
    {daemon daemon' : Daemon} {trace : Trace} (hcoherent : Coherent daemon)
    (hreplies : daemon.replies = []) (hroom : daemon.HasRoom (objectCount trace))
    (hpath : ((hsxFuseReaddirPlus plat ino size off).run daemon).Path trace (.done () daemon')) :
    Answered daemon daemon' := by
  rw [hsxFuseReaddirPlus] at hpath
  rcases hcoherent.path_ilookup hpath with ⟨-, hpath⟩ | ⟨parent, -, hpath⟩
  · cases hpath.2
  · obtain ⟨⟨err, chain⟩, daemon₁, front, rest, hlist, hrest, rfl⟩ :=
      Program.path_bind_done.mp hpath
    obtain ⟨hcoherent₁, hgrows⟩ := keeps_hsiNfs3ReaddirPlus _ _ _ _ _ _ _ _ _ hlist hcoherent
    have hreplies₁ : daemon₁.replies = [] := hgrows.replies_eq.trans hreplies
    refine Answered.after hcoherent₁ hgrows ?_
    dsimp only at hrest
    split_ifs at hrest with herr
    · exact answered_of_quiet (quiet_err _) hcoherent₁ hreplies₁ hrest
    · rw [not_not.mp herr] at hlist
      obtain ⟨hlength, hcached⟩ := hsiNfs3ReaddirPlus_done hcoherent hlist
      obtain ⟨granted, rest, rfl, hpack⟩ := Prog.path_malloc_bind.mp hrest
      cases granted with
      | false => exact answered_of_quiet (quiet_err _) hcoherent₁ hreplies₁ hpack
      | true =>
        obtain ⟨entries, daemon₂, t, t', hloop, ⟨-, heq⟩, -⟩ := Program.path_bind_done.mp hpack
        cases heq
        have hroom₁ : daemon₁.HasRoom chain.length := by
          refine (hroom.grows hgrows).mono (hlength.trans ?_)
          rw [objectCount_append]
          exact Nat.le_add_right _ _
        obtain ⟨_, rfl, hcounts, hreplies₂⟩ :=
          packDirentsPlus_done hcoherent₁ hcached hroom₁ hloop
        have hgiven : (daemon₂.setReplies (daemon₂.replies ++ [.direntsPlus entries])).given =
            (entries.filter (!isDot ·.name)).map (·.entry.ino) := by
          simp [Daemon.given, Daemon.setReplies, hreplies₂, hreplies₁, FuseReply.given]
        have hsub := hcounts.sublist
          ((List.filter_sublist (p := fun dirent : DirentPlus ↦ !isDot dirent.name)).map
            (·.entry.ino))
        change Counts (daemon₂.setReplies _).given daemon₁ _
        rw [hgiven]
        exact ⟨hsub.coherent.setReplies _, hsub.length_le, hsub.ino_eq, hsub.counted, hsub.known⟩

/-- The memory for the entry with which `hsx_fuse_link` replies once the server has made the link;
nothing else asks for it. -/
def isLinkEntry : Event EnvAns → Bool
  | ⟨.malloc .entryParam, memory⟩ => memory
  | _ => false

/-- Without an entry a link gives no reference. -/
theorem answered_hsxFuseLink {ino newparent : UInt64} {newname : CString}
    {daemon daemon' : Daemon} {trace : Trace} (hcoherent : Coherent daemon)
    (hreplies : daemon.replies = []) (hlink : ∀ event ∈ trace, isLinkEntry event = false)
    (hpath : ((hsxFuseLink ino newparent newname).run daemon).Path trace (.done () daemon')) :
    Answered daemon daemon' := by
  rw [hsxFuseLink] at hpath
  rcases hcoherent.path_ilookup hpath with ⟨-, hpath⟩ | ⟨parent, -, hpath⟩
  · exact answered_of_quiet (.pure ()) hcoherent hreplies hpath
  · rcases hcoherent.path_ilookup hpath with ⟨-, hpath⟩ | ⟨index, -, hpath⟩
    · exact answered_of_quiet (.pure ()) hcoherent hreplies hpath
    · obtain ⟨err, daemon₁, front, rest, hcall, hrest, rfl⟩ := Program.path_bind_done.mp hpath
      obtain ⟨hcoherent₁, hgrows⟩ := keeps_hsiNfs3Link _ _ _ _ _ _ _ hcall hcoherent
      have hreplies₁ := hgrows.replies_eq.trans hreplies
      refine Answered.after hcoherent₁ hgrows ?_
      split_ifs at hrest with herr
      · obtain ⟨memory, last, rfl, hlast⟩ := hrest
        cases memory with
        | true =>
          have hentry := hlink ⟨.malloc .entryParam, true⟩
            (List.mem_append_right _ List.mem_cons_self)
          cases hentry
        | false => exact answered_of_quiet (quiet_err _) hcoherent₁ hreplies₁ hlast
      · exact answered_of_quiet (quiet_err _) hcoherent₁ hreplies₁ hrest

/-! ## Forgetting -/

/-- A cached inode without `nlookup` of its references; the last one also drops the cache's own. -/
def Daemon.forgot (daemon : Daemon) (index : ℕ) (nlookup : UInt64) : Daemon :=
  let inode := daemon.inode index
  daemon.setInode index
    { inode with
      priv := inode.priv - nlookup
      iCount := if inode.priv - nlookup = 0 then inode.iCount - 1 else inode.iCount }

theorem hsxFuseRefDec_obj_run {daemon : Daemon} (h : Coherent daemon) (index : ℕ) (val : UInt64) :
    (hsxFuseRefDec (.obj index) val).run daemon =
      if val ≤ (daemon.inode index).priv then
        .ret ((daemon.inode index).priv - val) (daemon.setInode index
          { daemon.inode index with priv := (daemon.inode index).priv - val })
      else .fault (.assertFailed .refDec) daemon := by
  have hlive : index ∉ daemon.freed := by simp [h.freed_nil]
  rw [hsxFuseRefDec, Program.bind_run_of_ret (deref_obj_run hlive), Prog.getInode_bind, Prog.assert]
  by_cases hle : val ≤ (daemon.inode index).priv
  · rw [if_pos (decide_eq_true hle), if_pos hle]
    rfl
  · rw [if_neg (by simpa using hle), if_neg hle]
    rfl

/-- A lower count for one inode leaves the cache coherent. -/
theorem Coherent.forgot {daemon : Daemon} (h : Coherent daemon) {index : ℕ}
    (hlt : index < daemon.heap.length) (nlookup : UInt64) :
    Coherent (daemon.forgot index nlookup) := by
  have hok := h.inodeOk index hlt
  have hle := hok.iCount_le
  refine h.setInode hlt rfl rfl rfl ⟨hok.fh_wellFormed, hok.realIno_eq, hok.flags_eq,
    hok.iState_eq, hok.iRdev_eq, hok.valid_eq, ?_⟩
  dsimp only
  split_ifs
  · omega
  · exact hle

/-- `hsx_fuse_forget` on a coherent cache. -/
theorem hsxFuseForget_run {daemon : Daemon} (h : Coherent daemon) (ino nlookup : UInt64) :
    (hsxFuseForget ino nlookup).run daemon =
      match daemon.findIno ino with
      | none => .fault (.assertFailed .forgetNode) daemon
      | some index =>
          if nlookup ≤ (daemon.inode index).priv then
            if (daemon.inode index).priv - nlookup = 0 ∧ (daemon.inode index).iCount = intMin then
              .fault .undefined (daemon.setInode index
                { daemon.inode index with priv := (daemon.inode index).priv - nlookup })
            else
              .ret () ((daemon.forgot index nlookup).setReplies (daemon.replies ++ [.noReply]))
          else .fault (.assertFailed .refDec) daemon := by
  rw [hsxFuseForget, h.ilookup_bind]
  cases hfind : daemon.findIno ino with
  | none => rfl
  | some index =>
    obtain ⟨hlt, -⟩ := (h.findIno_eq_some_iff ino index).mp hfind
    have hassert : (Prog.assert (InodePtr.ofOption (some index) != .null) .forgetNode).run daemon =
      .ret () daemon := rfl
    rw [Program.bind_run_of_ret hassert]
    by_cases hle : nlookup ≤ (daemon.inode index).priv
    · have hdec := hsxFuseRefDec_obj_run h index nlookup
      have hcoherent := h.setPriv hlt ((daemon.inode index).priv - nlookup)
      rw [if_pos hle] at hdec
      rw [InodePtr.ofOption, Program.bind_run_of_ret hdec]
      dsimp only
      rw [if_pos hle]
      by_cases hzero : (daemon.inode index).priv - nlookup = 0
      · have hput := hsfsIput_obj_run hcoherent index
        rw [Daemon.inode_setInode_self hlt] at hput
        rw [if_pos hzero]
        by_cases hmin : (daemon.inode index).iCount = intMin
        · rw [if_pos hmin] at hput
          rw [if_pos ⟨hzero, hmin⟩, Program.bind_run, hput]
          rfl
        · rw [if_neg hmin] at hput
          rw [if_neg (fun hand ↦ hmin hand.2), Program.bind_run_of_ret hput, Daemon.forgot]
          simp [Prog.reply, Daemon.setInode, Daemon.setReplies, hzero]
      · rw [if_neg hzero, if_neg (fun hand ↦ hzero hand.1), Daemon.forgot]
        simp [Prog.reply, Daemon.setInode, Daemon.setReplies, hzero]
    · have hdec := hsxFuseRefDec_obj_run h index nlookup
      rw [if_neg hle] at hdec
      rw [InodePtr.ofOption, Program.bind_run, hdec]
      dsimp only
      rw [if_neg hle]
      rfl

end NfsFuse
