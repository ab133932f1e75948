import NfsFuse.Fuse.ObjectReplies

/-!
# Replies with attributes of a directory

`hsx_fuse_readdir_plus` acquires an object for every entry of a reply.  If it cannot go on it gives
back what it has acquired, and otherwise it fills its buffer from the acquired objects; either way
it goes through the pointers without looking at them.  The events of a run and the entries it
received show whether a reply is reached.
-/

namespace NfsFuse

open Lib

attribute [local irreducible] hsiNfsFhget

/-- The object behind a pointer. -/
def InodePtr.index? : InodePtr → Option ℕ
  | .obj index => some index
  | _ => none

/-- The objects of a chain. -/
def chainObjects (chain : List ReaddirCtx) : List ℕ := chain.filterMap (·.inode.index?)

/-- A chain can be given back: it holds no error pointers, and no count of an object is at its least
value when it is decremented. -/
structure Releasable (daemon : Daemon) (chain : List ReaddirCtx) : Prop where
  noError : ∀ ctx ∈ chain, ∀ error, ctx.inode ≠ .err error
  counted : ∀ index, ∀ taken < (chainObjects chain).count index,
    (daemon.inode index).iCount - taken ≠ intMin

theorem releasable_nil (daemon : Daemon) : Releasable daemon [] :=
  ⟨List.forall_mem_nil _, fun _ _ hlt ↦ absurd hlt (Nat.not_lt_zero _)⟩

theorem releasable_cons_null {daemon : Daemon} {ctx : ReaddirCtx} {rest : List ReaddirCtx}
    (hnull : ctx.inode = .null) : Releasable daemon (ctx :: rest) ↔ Releasable daemon rest := by
  have hobjects : chainObjects (ctx :: rest) = chainObjects rest := by
    rw [chainObjects, List.filterMap_cons_none (by rw [hnull]; rfl)]
    rfl
  constructor
  · intro h
    exact ⟨fun other hmem ↦ h.noError other (List.mem_cons_of_mem _ hmem), hobjects ▸ h.counted⟩
  · intro h
    refine ⟨List.forall_mem_cons.mpr ⟨fun error ↦ ?_, h.noError⟩, hobjects ▸ h.counted⟩
    rw [hnull]
    exact nofun

theorem releasable_append_null {daemon : Daemon} {ctx : ReaddirCtx} {chain : List ReaddirCtx}
    (hnull : ctx.inode = .null) : Releasable daemon (chain ++ [ctx]) ↔ Releasable daemon chain := by
  have hobjects : chainObjects (chain ++ [ctx]) = chainObjects chain := by
    rw [chainObjects, List.filterMap_append, List.filterMap_cons_none (by rw [hnull]; rfl)]
    exact List.append_nil _
  constructor
  · intro h
    exact ⟨fun other hmem ↦ h.noError other (List.mem_append_left _ hmem), hobjects ▸ h.counted⟩
  · intro h
    refine ⟨List.forall_mem_append.mpr ⟨h.noError, List.forall_mem_singleton.mpr fun error ↦ ?_⟩,
      hobjects ▸ h.counted⟩
    rw [hnull]
    exact nofun

/-- Giving back the first object of a chain leaves one decrement less to do. -/
theorem releasable_cons_obj {daemon : Daemon} {ctx : ReaddirCtx} {rest : List ReaddirCtx}
    {index : ℕ} (hobj : ctx.inode = .obj index) (hlt : index < daemon.heap.length) :
    Releasable daemon (ctx :: rest) ↔ (daemon.inode index).iCount ≠ intMin ∧
      Releasable (daemon.setInode index
        { daemon.inode index with iCount := (daemon.inode index).iCount - 1 }) rest := by
  have hobjects : chainObjects (ctx :: rest) = index :: chainObjects rest := by
    rw [chainObjects, List.filterMap_cons_some (by rw [hobj]; rfl)]
    rfl
  constructor
  · intro h
    have hcounted := h.counted
    rw [hobjects] at hcounted
    refine ⟨?_, fun other hmem ↦ h.noError other (List.mem_cons_of_mem _ hmem),
      fun other taken htaken ↦ ?_⟩
    · have hfirst := hcounted index 0 (by rw [List.count_cons_self]; omega)
      rwa [Int.natCast_zero, Int.sub_zero] at hfirst
    · rcases eq_or_ne other index with rfl | hne
      · have hnext := hcounted other (taken + 1) (by rw [List.count_cons_self]; omega)
        rw [Daemon.inode_setInode_self hlt]
        dsimp only
        omega
      · rw [Daemon.inode_setInode_ne hne]
        exact hcounted other taken (by rwa [List.count_cons_of_ne (Ne.symm hne)])
  · rintro ⟨hfirst, h⟩
    refine ⟨List.forall_mem_cons.mpr ⟨fun error ↦ ?_, h.noError⟩, fun other taken htaken ↦ ?_⟩
    · rw [hobj]
      exact nofun
    · rw [hobjects] at htaken
      rcases eq_or_ne other index with rfl | hne
      · rw [List.count_cons_self] at htaken
        cases taken with
        | zero => rwa [Int.natCast_zero, Int.sub_zero]
        | succ taken =>
          have hnext := h.counted other taken (by omega)
          rw [Daemon.inode_setInode_self hlt] at hnext
          dsimp only at hnext
          omega
      · rw [List.count_cons_of_ne (Ne.symm hne)] at htaken
        have hnext := h.counted other taken htaken
        rwa [Daemon.inode_setInode_ne hne] at hnext

/-- `__free_ctx` returns exactly if the chain can be given back. -/
theorem freeCtx_ending {chain : List ReaddirCtx} {daemon : Daemon} (hcoherent : Coherent daemon)
    (hcached : ∀ ctx ∈ chain, ctx.inode.Cached daemon) {trace : Trace}
    {ending : Ending Fault Daemon Unit} (hpath : ((freeCtx chain).run daemon).Path trace ending) :
    (Releasable daemon chain ∧ ∃ daemon', ending = .done () daemon' ∧
      daemon'.replies = daemon.replies) ∨
    (¬ Releasable daemon chain ∧ ∃ reason daemon', ending = .crashed reason daemon') := by
  induction chain generalizing daemon trace with
  | nil => exact Or.inl ⟨releasable_nil daemon, daemon, hpath.2, rfl⟩
  | cons ctx rest ih =>
    rw [List.forall_mem_cons] at hcached
    unfold freeCtx at hpath
    cases hptr : ctx.inode with
    | null =>
      rw [releasable_cons_null hptr]
      rw [hptr] at hpath
      exact ih hcoherent hcached.2 hpath
    | err error =>
      rw [hptr] at hpath
      exact Or.inr ⟨fun h ↦ h.noError ctx List.mem_cons_self error hptr, _, _, hpath.2⟩
    | obj index =>
      have hlt := hcached.1 index hptr
      rw [releasable_cons_obj hptr hlt]
      rw [hptr, Program.bind_run, hsfsIput_obj_run hcoherent] at hpath
      split_ifs at hpath with hmin
      · exact Or.inr ⟨fun h ↦ h.1 hmin, _, _, hpath.2⟩
      · rw [Resumption.bind_ret] at hpath
        have hkept : Coherent (daemon.setInode index
            { daemon.inode index with iCount := (daemon.inode index).iCount - 1 }) := by
          refine (keeps_hsfsIput (.obj index) daemon [] () _ ?_ hcoherent).1
          rw [hsfsIput_obj_run hcoherent, if_neg hmin]
          exact ⟨rfl, rfl⟩
        have hnext := ih hkept (fun other hmem ↦ ?_) hpath
        · rcases hnext with ⟨h, hdone⟩ | ⟨h, hcrash⟩
          · exact Or.inl ⟨⟨hmin, h⟩, hdone⟩
          · exact Or.inr ⟨fun h' ↦ h h'.2, hcrash⟩
        · intro index' heq
          rw [Daemon.setInode_length]
          exact hcached.2 other hmem index' heq

/-- How many names of a chain are looked at until the buffer is full. -/
def visitedCount (plat : Platform) (size : ℕ) : List CString → ℕ → ℕ
  | [], _ => 0
  | name :: rest, len =>
      if plat.direntPlusSize name ≥ size - len then 1
      else visitedCount plat size rest (len + plat.direntPlusSize name) + 1

/-- The buffer is filled exactly if every object that is looked at was acquired. -/
theorem packDirentsPlus_ending {plat : Platform} {size : ℕ} {chain : List ReaddirCtx} {len : ℕ}
    {done : List DirentPlus} {daemon : Daemon} (hcoherent : Coherent daemon)
    (hcached : ∀ ctx ∈ chain, ctx.inode.Cached daemon) {trace : Trace}
    {ending : Ending Fault Daemon (List DirentPlus)}
    (hpath : ((packDirentsPlus plat size chain len done).run daemon).Path trace ending) :
    trace = [] ∧
    (((∀ ok ∈ (chain.map (·.inode.isObj)).take (visitedCount plat size (chain.map (·.name)) len),
        ok = true) ∧
      ∃ entries daemon', ending = .done entries daemon' ∧ daemon'.replies = daemon.replies) ∨
    (¬ (∀ ok ∈ (chain.map (·.inode.isObj)).take (visitedCount plat size (chain.map (·.name)) len),
        ok = true) ∧ ∃ reason daemon', ending = .crashed reason daemon')) := by
  induction chain generalizing len done daemon trace with
  | nil => exact ⟨hpath.1, Or.inl ⟨List.forall_mem_nil _, done, daemon, hpath.2, rfl⟩⟩
  | cons ctx rest ih =>
    rw [List.forall_mem_cons] at hcached
    have hvisited : 0 < visitedCount plat size ((ctx :: rest).map (·.name)) len := by
      rw [List.map_cons, visitedCount]
      split_ifs
      · exact Nat.one_pos
      · exact Nat.succ_pos _
    have hpoisoned (hptr : ctx.inode.isObj = false) : ¬ ∀ ok ∈ ((ctx :: rest).map
        (·.inode.isObj)).take (visitedCount plat size ((ctx :: rest).map (·.name)) len),
            ok = true := by
      intro hall
      have hfirst := hall _ (List.mem_take_iff_getElem.mpr ⟨0, by simpa using hvisited, rfl⟩)
      simp [hptr] at hfirst
    unfold packDirentsPlus at hpath
    cases hptr : ctx.inode with
    | null =>
      rw [hptr] at hpath
      exact ⟨hpath.1, Or.inr ⟨hpoisoned (by rw [hptr]; rfl), _, _, hpath.2⟩⟩
    | err error =>
      rw [hptr] at hpath
      exact ⟨hpath.1, Or.inr ⟨hpoisoned (by rw [hptr]; rfl), _, _, hpath.2⟩⟩
    | obj index =>
      have hlt := hcached.1 index hptr
      rw [hptr, Program.bind_run_of_ret (hsxFuseFillReply_obj_run hcoherent index)] at hpath
      simp only [List.map_cons, visitedCount, hptr]
      split_ifs at hpath ⊢ with hfull
      · refine ⟨hpath.1, Or.inl ⟨?_, done, daemon, hpath.2, rfl⟩⟩
        simp [InodePtr.isObj]
      · rw [Program.bind_run_of_ret (hsxFuseRefInc_obj_run hcoherent index 1)] at hpath
        have hnext := ih (hcoherent.setPriv hlt _) (fun other hmem ↦ ?_) hpath
        · simp only [List.take_succ_cons, List.forall_mem_cons, InodePtr.isObj, true_and]
          exact hnext
        · intro index' heq
          rw [Daemon.setInode_length]
          exact hcached.2 other hmem index' heq

/-! ## The objects of a listing -/

/-- Acquiring leaves the counts of cached inodes alone, and a new one starts at 0. -/
structure KeepsCount (daemon daemon' : Daemon) : Prop where
  length_le : daemon.heap.length ≤ daemon'.heap.length
  iCount_eq : ∀ index < daemon.heap.length,
    (daemon'.inode index).iCount = (daemon.inode index).iCount
  iCount_new : ∀ index < daemon'.heap.length, daemon.heap.length ≤ index →
    (daemon'.inode index).iCount = 0

theorem KeepsCount.refl (daemon : Daemon) : KeepsCount daemon daemon :=
  ⟨le_rfl, fun _ _ ↦ rfl, fun _ hlt hle ↦ absurd hlt hle.not_gt⟩

theorem KeepsCount.trans {daemon₁ daemon₂ daemon₃ : Daemon} (h : KeepsCount daemon₁ daemon₂)
    (h' : KeepsCount daemon₂ daemon₃) : KeepsCount daemon₁ daemon₃ := by
  refine ⟨h.length_le.trans h'.length_le, fun index hlt ↦ ?_, fun index hlt hle ↦ ?_⟩
  · rw [h'.iCount_eq index (hlt.trans_le h.length_le), h.iCount_eq index hlt]
  · by_cases hmid : index < daemon₂.heap.length
    · rw [h'.iCount_eq index hmid, h.iCount_new index hmid hle]
    · exact h'.iCount_new index hlt (not_lt.mp hmid)

theorem KeepsCount.setInode (daemon : Daemon) (index : ℕ) {inode : NfsInode}
    (h : inode.iCount = (daemon.inode index).iCount) :
    KeepsCount daemon (daemon.setInode index inode) := by
  refine ⟨(Daemon.setInode_length daemon index inode).ge, fun other _ ↦ ?_, fun other hlt hle ↦ ?_⟩
  · exact Daemon.inode_setInode_proj NfsInode.iCount h other
  · rw [Daemon.setInode_length] at hlt
    exact absurd hlt hle.not_gt

theorem nfsRefresh_iCount (fattr : NfsFattr) (inode : NfsInode) :
    (nfsRefresh fattr inode).1.iCount = inode.iCount := by
  unfold nfsRefresh nfsUpdateInode
  split_ifs <;> rfl

theorem fhgetUpdate_iCount (fattr : NfsFattr) (inode : NfsInode) :
    (fhgetUpdate fattr inode).iCount = inode.iCount := by
  unfold fhgetUpdate
  split_ifs
  · rfl
  · exact nfsRefresh_iCount fattr inode

theorem FhgetPath.keepsCount {daemon daemon' : Daemon} {fh : NfsFh} {fattr : NfsFattr}
    {trace : Trace} {ptr : InodePtr} (hpath : FhgetPath daemon fh fattr trace (.done ptr daemon')) :
    KeepsCount daemon daemon' := by
  cases hpath with
  | rejected _ => exact .refl daemon
  | noMemory _ _ => exact .refl daemon
  | hit _ _ => exact .setInode daemon _ (fhgetUpdate_iCount _ _)
  | @entered id hattr hfind hid =>
    refine ⟨?_, fun index hlt ↦ ?_, fun index hlt hle ↦ ?_⟩
    · rw [Daemon.enter_length]
      exact Nat.le_succ _
    · rw [Daemon.enter_inode_lt hlt]
    · rw [Daemon.enter_length] at hlt
      obtain rfl : index = daemon.heap.length := by omega
      rw [Daemon.enter_inode_self, Daemon.newFile_eq]
      rfl

theorem Acquiring.keepsCount {daemon daemon' : Daemon} {entries : List Entryplus3} {trace : Trace}
    {acquired : List ReaddirCtx} {stop : ListingStop}
    (h : Acquiring daemon entries trace acquired stop daemon') (hstop : stop ≠ .spin) :
    KeepsCount daemon daemon' := by
  induction h with
  | completed => exact .refl _
  | noCtx => exact .refl _
  | noName => exact .refl _
  | noHandle _ => exact .refl _
  | spin _ _ => exact absurd rfl hstop
  | step _ hpath _ ih => exact hpath.keepsCount.trans (ih hstop)

/-- How often an inode was allocated in a run of `hsi_nfs_fhget`. -/
theorem FhgetPath.length_eq {daemon daemon' : Daemon} {fh : NfsFh} {fattr : NfsFattr}
    {trace : Trace} {ptr : InodePtr} (hpath : FhgetPath daemon fh fattr trace (.done ptr daemon')) :
    daemon'.heap.length = daemon.heap.length + grantedCount trace := by
  cases hpath with
  | rejected _ => rfl
  | noMemory _ _ => rfl
  | hit _ _ => exact Daemon.setInode_length _ _ _
  | entered _ _ _ => exact Daemon.enter_length _ _ _ _

theorem grantedCount_append (front back : Trace) :
    grantedCount (front ++ back) = grantedCount front + grantedCount back :=
  List.countP_append

/-- A listing runs out of numbers exactly if the cache would grow too large. -/
theorem Acquiring.room {daemon daemon' : Daemon} {entries : List Entryplus3} {trace : Trace}
    {acquired : List ReaddirCtx} {stop : ListingStop}
    (h : Acquiring daemon entries trace acquired stop daemon') (hcoherent : Coherent daemon)
    (hpos : 0 < daemon.heap.length) :
    (stop ≠ .spin ∧ daemon'.heap.length = daemon.heap.length + grantedCount trace) ∨
      (stop = .spin ∧ 2 ^ 64 ≤ daemon.heap.length + grantedCount trace) := by
  induction h with
  | completed => exact Or.inl ⟨nofun, rfl⟩
  | noCtx => exact Or.inl ⟨nofun, rfl⟩
  | noName => exact Or.inl ⟨nofun, rfl⟩
  | noHandle _ => exact Or.inl ⟨nofun, rfl⟩
  | @spin daemon daemon' entry rest handle trace hhandle hpath =>
    refine Or.inr ⟨rfl, ?_⟩
    obtain ⟨-, rfl, hid⟩ := hpath.crashed
    have hfull := (hcoherent.freeId_isSome_iff hpos).not.mp (by rw [hid]; exact Bool.false_ne_true)
    have hone : grantedCount (⟨.malloc .readdirCtx, true⟩ :: ⟨.malloc .readdirName, true⟩ ::
      [inodeGranted]) = 1 := rfl
    omega
  | @step daemon daemon₁ daemon' entry rest handle front back ptr acquired stop hhandle
    hpath hrest ih =>
    obtain ⟨⟨hcoherent₁, hgrows⟩, -⟩ := hcoherent.fhget (nfsCopyFh3_wellFormed handle) hpath
    have hlength := hpath.length_eq
    have hcount : grantedCount (⟨.malloc .readdirCtx, true⟩ :: ⟨.malloc .readdirName, true⟩ ::
        (front ++ back)) = grantedCount front + grantedCount back := grantedCount_append front back
    rcases ih hcoherent₁ (by omega) with ⟨hstop, hnext⟩ | ⟨hstop, hnext⟩
    · exact Or.inl ⟨hstop, by omega⟩
    · exact Or.inr ⟨hstop, by omega⟩

/-- A listing is complete exactly if every entry was acquired. -/
theorem Acquiring.completed_iff {daemon daemon' : Daemon} {entries : List Entryplus3}
    {trace : Trace} {acquired : List ReaddirCtx} {stop : ListingStop}
    (h : Acquiring daemon entries trace acquired stop daemon') :
    stop = .completed ↔ acquired.length = entries.length := by
  induction h with
  | completed => simp
  | noCtx => simp
  | noName => simp
  | noHandle _ => simp
  | spin _ _ => simp
  | step _ _ _ ih => simpa using ih

/-- No buffer is allocated while the objects of a listing are acquired. -/
theorem Acquiring.notMem_readdirBuf {daemon daemon' : Daemon} {entries : List Entryplus3}
    {trace : Trace} {acquired : List ReaddirCtx} {stop : ListingStop}
    (h : Acquiring daemon entries trace acquired stop daemon') (granted : Bool) :
    (⟨.malloc .readdirBuf, granted⟩ : Event EnvAns) ∉ trace := by
  have hfhget {daemon : Daemon} {ending : Ending Fault Daemon InodePtr} {fh : NfsFh}
      {fattr : NfsFattr} {trace : Trace} (hpath : FhgetPath daemon fh fattr trace ending) :
      (⟨.malloc .readdirBuf, granted⟩ : Event EnvAns) ∉ trace := by
    cases hpath <;> simp
  induction h with
  | completed => exact List.not_mem_nil
  | noCtx => simp
  | noName => simp
  | noHandle _ => simp
  | spin _ hpath => simpa using hfhget hpath
  | step _ hpath _ ih => simpa using ⟨hfhget hpath, ih⟩

/-- The names of a complete listing. -/
theorem Acquiring.map_name {daemon daemon' : Daemon} {entries : List Entryplus3} {trace : Trace}
    {acquired : List ReaddirCtx} {stop : ListingStop}
    (h : Acquiring daemon entries trace acquired stop daemon') :
    acquired.map (·.name) = (entries.take acquired.length).map fun entry ↦
      copiedName entry.name := by
  induction h with
  | step _ _ _ ih => simpa [entryCtx] using ih
  | _ => simp

/-- Two entries name the same object. -/
def sameObject (entry other : Entryplus3) : Bool :=
  entry.nameHandle = other.nameHandle &&
    entry.nameAttributes.map (·.fileid) = other.nameAttributes.map (·.fileid)

/-- The count of the object of an entry; that of a new inode is 0. -/
def heldCount (daemon : Daemon) (entry : Entryplus3) : ℤ :=
  (entry.nameHandle.bind fun handle ↦ daemon.findFile (nfsCopyFh3 handle)
    (postFattr entry.nameAttributes)).elim 0 fun index ↦ (daemon.inode index).iCount

/-- No count is at its least value when these entries are given back. -/
def ReleaseFits (daemon : Daemon) (entries : List Entryplus3) : Prop :=
  ∀ entry ∈ entries, ∀ taken < entries.countP (sameObject entry),
    heldCount daemon entry - taken ≠ intMin

/-- The inode that an entry was given. -/
structure StandsFor (daemon : Daemon) (entry : Entryplus3) (ctx : ReaddirCtx) (index : ℕ) :
    Prop where
  ptr_eq : ctx.inode = .obj index
  lt_length : index < daemon.heap.length
  handle_eq : entry.nameHandle.map nfsCopyFh3 = some (daemon.inode index).fh
  fileid_eq : entry.nameAttributes.map (·.fileid) = some (daemon.inode index).fileid

/-- The entries of a listing and the inodes they were given. -/
def AllStandFor (daemon : Daemon) : List Entryplus3 → List ReaddirCtx → Prop :=
  List.Forall₂ fun entry ctx ↦ ∃ index, StandsFor daemon entry ctx index

section Identity

variable {daemon daemon' : Daemon} {entry other : Entryplus3} {ctx ctx' : ReaddirCtx}
  {index index' : ℕ}

theorem StandsFor.grows (h : StandsFor daemon entry ctx index) (hgrows : Grows daemon daemon') :
    StandsFor daemon' entry ctx index where
  ptr_eq := h.ptr_eq
  lt_length := h.lt_length.trans_le hgrows.length_le
  handle_eq := by rw [hgrows.fh_eq index h.lt_length, h.handle_eq]
  fileid_eq := by rw [hgrows.fileid_eq index h.lt_length, h.fileid_eq]

theorem StandsFor.sameObject_iff (hcoherent : Coherent daemon)
    (h : StandsFor daemon entry ctx index)
    (h' : StandsFor daemon other ctx' index') : sameObject entry other = true ↔ index' = index := by
  rw [sameObject, Bool.and_eq_true, decide_eq_true_iff, decide_eq_true_iff]
  constructor
  · rintro ⟨hhandle, hfileid⟩
    refine hcoherent.identity_inj index' h'.lt_length index h.lt_length ?_ ?_
    · rw [← Option.some.injEq, ← h'.fileid_eq, ← hfileid, h.fileid_eq]
    · rw [← Option.some.injEq, ← h'.handle_eq, ← hhandle, h.handle_eq]
  · rintro rfl
    refine ⟨Option.map_injective (fun _ _ ↦ nfsCopyFh3_inj.mp) ?_, ?_⟩
    · rw [h.handle_eq, h'.handle_eq]
    · rw [h.fileid_eq, h'.fileid_eq]

/-- The count of an acquired inode is the one its object had before. -/
theorem StandsFor.iCount_eq (hcoherent : Coherent daemon) (hgrows : Grows daemon daemon')
    (hcount : KeepsCount daemon daemon') (hcoherent' : Coherent daemon')
    (h : StandsFor daemon' entry ctx index) :
    (daemon'.inode index).iCount = heldCount daemon entry := by
  obtain ⟨handle, hhandle, hfh⟩ := Option.map_eq_some_iff.mp h.handle_eq
  obtain ⟨attributes, hattr, hfileid⟩ := Option.map_eq_some_iff.mp h.fileid_eq
  have hwell := nfsCopyFh3_wellFormed handle
  have hfattr : (postFattr (some attributes)).fileid = attributes.fileid := rfl
  rw [heldCount, hhandle, hattr, Option.bind_some]
  by_cases hold : index < daemon.heap.length
  · have hfind : daemon.findFile (nfsCopyFh3 handle) (postFattr (some attributes)) =
        some index := by
      rw [hcoherent.findFile_eq_some_iff hwell, hfattr, hfileid, hfh]
      exact ⟨hold, (hgrows.fileid_eq index hold).symm, (hgrows.fh_eq index hold).symm⟩
    rw [hfind]
    exact hcount.iCount_eq index hold
  · have hfind : daemon.findFile (nfsCopyFh3 handle) (postFattr (some attributes)) = none := by
      rw [hcoherent.findFile_eq_none_iff hwell]
      intro other hlt hsame hfh'
      refine hold ?_
      rw [hcoherent'.identity_inj index h.lt_length other (hlt.trans_le hgrows.length_le) ?_ ?_]
      · exact hlt
      · rw [hgrows.fileid_eq other hlt, hsame, hfattr, hfileid]
      · rw [hgrows.fh_eq other hlt, hfh', hfh]
    rw [hfind]
    exact hcount.iCount_new index h.lt_length (not_lt.mp hold)

theorem AllStandFor.exists_index {entries : List Entryplus3} {chain : List ReaddirCtx}
    (hall : AllStandFor daemon entries chain) (hmem : entry ∈ entries) :
    ∃ ctx index, StandsFor daemon entry ctx index := by
  induction hall with
  | nil => cases hmem
  | cons hfirst hrest ih =>
    rcases List.mem_cons.mp hmem with rfl | hmem
    · exact ⟨_, hfirst⟩
    · exact ih hmem

theorem AllStandFor.exists_entry {entries : List Entryplus3} {chain : List ReaddirCtx}
    (hall : AllStandFor daemon entries chain) (hmem : ctx ∈ chain) :
    ∃ entry ∈ entries, ∃ index, StandsFor daemon entry ctx index := by
  induction hall with
  | nil => cases hmem
  | cons hfirst hrest ih =>
    rcases List.mem_cons.mp hmem with rfl | hmem
    · exact ⟨_, List.mem_cons_self, hfirst⟩
    · obtain ⟨entry, hentry, hstands⟩ := ih hmem
      exact ⟨entry, List.mem_cons_of_mem _ hentry, hstands⟩

/-- As often as an object occurs among the entries it occurs in the chain. -/
theorem AllStandFor.count_eq {entries : List Entryplus3} {chain : List ReaddirCtx}
    (hall : AllStandFor daemon entries chain) (hcoherent : Coherent daemon)
    (h : StandsFor daemon entry ctx index) :
    (chainObjects chain).count index = entries.countP (sameObject entry) := by
  induction hall with
  | nil => rfl
  | @cons other ctx' rest chain hother hrest ih =>
    obtain ⟨index', hother⟩ := hother
    have hobjects : chainObjects (ctx' :: chain) = index' :: chainObjects chain := by
      rw [chainObjects, List.filterMap_cons_some (by rw [hother.ptr_eq]; rfl)]
      rfl
    have hsame := h.sameObject_iff hcoherent hother
    rw [hobjects, List.count_cons, List.countP_cons, ih]
    simp only [beq_iff_eq, hsame]

/-- The chain of a listing can be given back exactly if the entries say so. -/
theorem AllStandFor.releasable_iff {entries : List Entryplus3} {chain : List ReaddirCtx}
    (hall : AllStandFor daemon' entries chain) (hcoherent : Coherent daemon)
    (hgrows : Grows daemon daemon') (hcount : KeepsCount daemon daemon')
    (hcoherent' : Coherent daemon') :
    Releasable daemon' chain ↔ ReleaseFits daemon entries := by
  constructor
  · intro h entry hmem taken htaken
    obtain ⟨ctx, index, hstands⟩ := hall.exists_index hmem
    rw [← hstands.iCount_eq hcoherent hgrows hcount hcoherent']
    exact h.counted index taken (by rwa [hall.count_eq hcoherent' hstands])
  · intro h
    refine ⟨fun ctx hmem error heq ↦ ?_, fun index taken htaken ↦ ?_⟩
    · obtain ⟨entry, -, index, hstands⟩ := hall.exists_entry hmem
      rw [hstands.ptr_eq] at heq
      cases heq
    · have hmem := List.count_pos_iff.mp (Nat.zero_lt_of_lt htaken)
      obtain ⟨ctx, hctx, hindex⟩ := List.mem_filterMap.mp hmem
      obtain ⟨entry, hentry, index', hstands⟩ := hall.exists_entry hctx
      rw [hstands.ptr_eq] at hindex
      cases hindex
      rw [hstands.iCount_eq hcoherent hgrows hcount hcoherent']
      exact h entry hentry taken (by rwa [← hall.count_eq hcoherent' hstands])

/-- Every acquired entry stands for its object. -/
theorem Acquiring.allStandFor {daemon daemon' : Daemon} {entries : List Entryplus3} {trace : Trace}
    {acquired : List ReaddirCtx} {stop : ListingStop}
    (h : Acquiring daemon entries trace acquired stop daemon') (hstop : stop ≠ .spin)
    (hcoherent : Coherent daemon) (hobj : ∀ ctx ∈ acquired, ctx.inode.isObj = true) :
    AllStandFor daemon' (entries.take acquired.length) acquired := by
  induction h with
  | @step daemon daemon₁ daemon' entry rest handle front back ptr acquired stop hhandle hpath hrest
      ih =>
    rw [List.forall_mem_cons] at hobj
    obtain ⟨⟨hcoherent₁, -⟩, hptr, -⟩ := hcoherent.fhget (nfsCopyFh3_wellFormed handle) hpath
    obtain ⟨-, hgrows⟩ := hrest.keeps hstop hcoherent₁
    refine .cons ?_ (ih hstop hcoherent₁ hobj.2)
    rcases hpath.ptr_cases with ⟨index, rfl, husable, -⟩ | ⟨error, rfl, -⟩
    · obtain ⟨hlt, hfileid, hfh⟩ := hptr index rfl
      obtain ⟨attributes, hattr, -⟩ :=
        (postFattr_acquirable_iff _).mp ((acquirable_iff_usableAttrs _).mpr husable)
      refine ⟨index, StandsFor.grows ⟨rfl, hlt, ?_, ?_⟩ hgrows⟩
      · rw [hhandle, hfh]
        rfl
      · rw [hfileid, hattr]
        rfl
    · exact absurd hobj.1 Bool.false_ne_true
  | _ => exact .nil

end Identity

/-! ## The handler -/

/-- The head of a listing leaves the counts alone. -/
theorem KeepsCount.listing (daemon : Daemon) (parent : ℕ) (dirAttributes : Option Fattr3)
    (cookieverf : UInt64) : KeepsCount daemon (daemon.listing parent dirAttributes cookieverf) :=
  (KeepsCount.setInode daemon parent (nfsRefresh_iCount _ _)).trans (.setInode _ parent rfl)

theorem Coherent.listing {daemon : Daemon} (h : Coherent daemon) {parent : ℕ}
    {dirAttributes : Option Fattr3} (hstatus : daemon.listingStatus parent dirAttributes = 0)
    (cookieverf : UInt64) : Coherent (daemon.listing parent dirAttributes cookieverf) ∧
      Grows daemon (daemon.listing parent dirAttributes cookieverf) := by
  refine keeps_beginListing parent dirAttributes cookieverf daemon [] 0 _ ?_ h
  rw [beginListing_run, if_neg (not_not.mpr hstatus)]
  exact ⟨rfl, rfl⟩

/-- The runs of `hsi_nfs3_readdir_plus`. -/
theorem hsiNfs3ReaddirPlus_path {plat : Platform} {parent : ℕ} {count maxcount : UInt32}
    {cookie : UInt64} {daemon : Daemon} (hcoherent : Coherent daemon) {trace : Trace}
    {ending : Ending Fault Daemon (ℤ × List ReaddirCtx)}
    (hpath : ((hsiNfs3ReaddirPlus plat parent count cookie maxcount).run daemon).Path trace
      ending) :
    ∃ outcome rest, trace = ⟨.call (.readdirplus (hsiNfs3Getfh3 (daemon.inode parent)) cookie
        (daemon.inode parent).cookieverf count maxcount), outcome⟩ :: rest ∧
      ((rest = [] ∧ (∀ res, outcome = .done (.ok res) →
          daemon.listingStatus parent res.dirAttributes ≠ 0) ∧
        ∃ err, err ≠ 0 ∧ ending = .done (err, []) daemon) ∨
      (∃ res acquired stop daemon₁, outcome = .done (.ok res) ∧
        daemon.listingStatus parent res.dirAttributes = 0 ∧
        Acquiring (daemon.listing parent res.dirAttributes res.cookieverf) res.entries rest acquired
          stop daemon₁ ∧ ((stop.finish acquired).run daemon₁).Path [] ending)) := by
  unfold hsiNfs3ReaddirPlus at hpath
  rw [Prog.getInode_bind] at hpath
  obtain ⟨outcome, rest, rfl, hrest⟩ := Prog.path_clntCall_bind.mp hpath
  refine ⟨outcome, rest, rfl, ?_⟩
  rcases outcome with ⟨err, hne⟩ | ⟨res | ⟨status, hne⟩⟩
  · obtain ⟨rfl, rfl⟩ := hrest
    exact Or.inl ⟨rfl, nofun, err, hne, rfl⟩
  · dsimp only at hrest
    rw [Program.bind_run, beginListing_run] at hrest
    by_cases hstatus : daemon.listingStatus parent res.dirAttributes ≠ 0
    · rw [if_pos hstatus, Resumption.bind_ret, if_pos hstatus] at hrest
      obtain ⟨rfl, rfl⟩ := hrest
      refine Or.inl ⟨rfl, ?_, _, hstatus, rfl⟩
      rintro res' heq
      cases heq
      exact hstatus
    · rw [if_neg hstatus, Resumption.bind_ret, if_neg (not_not.mpr rfl)] at hrest
      rw [not_not] at hstatus
      obtain ⟨acquired, stop, daemon₁, front, back, hacquiring, hfinish, rfl⟩ :=
        copyEntriesPlus_path (hcoherent.listing hstatus res.cookieverf).1 hrest
      obtain rfl := ListingStop.finish_trace hfinish
      rw [List.append_nil]
      exact Or.inr ⟨res, acquired, stop, daemon₁, rfl, hstatus, hacquiring, hfinish⟩
  · obtain ⟨rfl, rfl⟩ := hrest
    exact Or.inl ⟨rfl, nofun, _, hsiNfs3StatToErrno_ne_zero hne, rfl⟩

/-- The entries of a reply get the request answered: there are numbers for new inodes; a complete
listing fills the buffer from acquired objects only; and the objects of an incomplete one can be
given back. -/
def EntriesReplied (plat : Platform) (daemon : Daemon) (size : ℕ) (entries : List Entryplus3)
    (trace : Trace) : Prop :=
  daemon.heap.length + grantedCount trace < 2 ^ 64 ∧
    if (acquiredEntries entries trace).length = entries.length then
      (⟨.malloc .readdirBuf, true⟩ : Event EnvAns) ∈ trace →
        ∀ ok ∈ (acquiredEntries entries trace).take
          (visitedCount plat size (entries.map fun entry ↦ copiedName entry.name) 0), ok = true
    else (∀ ok ∈ acquiredEntries entries trace, ok = true) ∧
      ReleaseFits daemon (entries.take (acquiredEntries entries trace).length)

/-- The reply to a `READDIRPLUS` gets the request answered. -/
def PlusReplied (plat : Platform) (daemon : Daemon) (parent size : ℕ) : Trace → Prop
  | ⟨.call (.readdirplus _ _ _ _ _), .done (.ok res)⟩ :: rest =>
      daemon.listingStatus parent res.dirAttributes = 0 →
        EntriesReplied plat daemon size res.entries rest
  | _ => True

theorem ListingStop.completed_ne_spin : ListingStop.completed ≠ .spin := by
  intro h
  cases h

section Listing

variable {plat : Platform} {daemon daemon' : Daemon} {entries : List Entryplus3} {trace : Trace}
  {acquired : List ReaddirCtx} {stop : ListingStop}

/-- The entry without a handle has no inode. -/
theorem Acquiring.noHandle_inode {ctx : ReaddirCtx}
    (h : Acquiring daemon entries trace acquired stop daemon') (hstop : stop = .noHandle ctx) :
    ctx.inode = .null := by
  induction h with
  | noHandle _ =>
    cases hstop
    rfl
  | step _ _ _ ih => exact ih hstop
  | completed => cases hstop
  | noCtx => cases hstop
  | noName => cases hstop
  | spin _ _ => cases hstop

/-- A pointer that is not an error points to an object. -/
theorem Acquiring.isObj_of_ne_err (h : Acquiring daemon entries trace acquired stop daemon') :
    ∀ ctx ∈ acquired, (∀ error, ctx.inode ≠ .err error) → ctx.inode.isObj = true := by
  induction h with
  | step _ hpath _ ih =>
    refine List.forall_mem_cons.mpr ⟨fun hne ↦ ?_, ih⟩
    rcases hpath.ptr_cases with ⟨index, rfl, -⟩ | ⟨error, rfl, -⟩
    · rfl
    · exact absurd rfl (hne error)
  | _ => exact List.forall_mem_nil _

/-- How a listing ends that gives back a chain. -/
theorem freeCtx_bind_ending {chain : List ReaddirCtx} (hcoherent : Coherent daemon)
    (hcached : ∀ ctx ∈ chain, ctx.inode.Cached daemon) {err : ℤ}
    {ending : Ending Fault Daemon (ℤ × List ReaddirCtx)}
    (hpath : ((freeCtx chain >>= fun _ ↦ pure (err, [])).run daemon).Path trace ending) :
    (Releasable daemon chain ∧ ∃ daemon', ending = .done (err, []) daemon' ∧
      daemon'.replies = daemon.replies) ∨
    (¬ Releasable daemon chain ∧ ∃ reason daemon', ending = .crashed reason daemon') := by
  rcases Program.path_bind.mp hpath with ⟨⟨⟩, daemon₁, front, rest, hfirst, hrest, -⟩ |
    ⟨reason, daemon₁, hcrash, rfl⟩
  · rcases freeCtx_ending hcoherent hcached hfirst with ⟨hreleased, _, heq, hreplies⟩ |
      ⟨-, _, _, heq⟩
    · cases heq
      exact Or.inl ⟨hreleased, _, hrest.2, hreplies⟩
    · cases heq
  · rcases freeCtx_ending hcoherent hcached hcrash with ⟨-, _, heq, -⟩ | ⟨hnot, -⟩
    · cases heq
    · exact Or.inr ⟨hnot, reason, daemon₁, rfl⟩

/-- A listing that stops early ends with an error if it can give back what it has acquired. -/
theorem Acquiring.finish_ending (h : Acquiring daemon entries trace acquired stop daemon')
    (hcoherent : Coherent daemon) (hstop : stop ≠ .completed) {back : Trace}
    {ending : Ending Fault Daemon (ℤ × List ReaddirCtx)}
    (hpath : ((stop.finish acquired).run daemon').Path back ending) :
    ((stop ≠ .spin ∧ Releasable daemon' acquired) ∧ ∃ err daemon'', err ≠ 0 ∧
      ending = .done (err, []) daemon'' ∧ daemon''.replies = daemon'.replies) ∨
    (¬ (stop ≠ .spin ∧ Releasable daemon' acquired) ∧
      ∃ reason daemon'', ending = .crashed reason daemon'') := by
  cases stop with
  | completed => exact absurd rfl hstop
  | spin => exact Or.inr ⟨fun h' ↦ h'.1 rfl, _, _, hpath.2⟩
  | noMemory =>
    have hcached : ∀ ctx ∈ acquired, ctx.inode.Cached daemon' := h.lt_length nofun hcoherent
    rcases freeCtx_bind_ending (h.keeps nofun hcoherent).1 hcached hpath with
      ⟨hreleased, daemon'', hend, hreplies⟩ | ⟨hnot, hcrash⟩
    · exact Or.inl ⟨⟨nofun, hreleased⟩, enomem, daemon'', by decide, hend, hreplies⟩
    · exact Or.inr ⟨fun h' ↦ hnot h'.2, hcrash⟩
  | noHandle ctx =>
    have hnull := h.noHandle_inode rfl
    have hcached : ∀ other ∈ acquired ++ [ctx], other.inode.Cached daemon' := by
      rw [List.forall_mem_append, List.forall_mem_singleton]
      refine ⟨h.lt_length nofun hcoherent, fun index heq ↦ ?_⟩
      rw [hnull] at heq
      cases heq
    rcases freeCtx_bind_ending (h.keeps nofun hcoherent).1 hcached hpath with
      ⟨hreleased, daemon'', hend, hreplies⟩ | ⟨hnot, hcrash⟩
    · rw [releasable_append_null hnull] at hreleased
      exact Or.inl ⟨⟨nofun, hreleased⟩, enoent, daemon'', by decide, hend, hreplies⟩
    · rw [releasable_append_null hnull] at hnot
      exact Or.inr ⟨fun h' ↦ hnot h'.2, hcrash⟩

/-- Whether an incomplete listing is answered. -/
theorem Acquiring.entriesReplied_incomplete {daemon₀ : Daemon}
    (h : Acquiring daemon entries trace acquired stop daemon') (hcoherent₀ : Coherent daemon₀)
    (hpos : 0 < daemon₀.heap.length) (hcoherent : Coherent daemon) (hgrows : Grows daemon₀ daemon)
    (hcount : KeepsCount daemon₀ daemon) (hlength : daemon.heap.length = daemon₀.heap.length)
    (hstop : stop ≠ .completed) (size : ℕ) :
    EntriesReplied plat daemon₀ size entries trace ↔
      stop ≠ .spin ∧ Releasable daemon' acquired := by
  rcases h.room hcoherent (by omega) with ⟨hspin, hroom⟩ | ⟨hspin, hroom⟩
  · obtain ⟨hcoherent', hgrows'⟩ := h.keeps hspin hcoherent
    have hflags : acquiredEntries entries (trace ++ []) = acquired.map (·.inode.isObj) :=
      h.acquiredEntries_eq hspin rfl
    rw [List.append_nil] at hflags
    have hlt := hcoherent'.length_lt
    rw [EntriesReplied, hflags, List.length_map, if_neg (h.completed_iff.not.mp hstop),
      and_iff_right (by omega), List.forall_mem_map, and_iff_right hspin]
    constructor
    · rintro ⟨hobj, hfits⟩
      exact ((h.allStandFor hspin hcoherent hobj).releasable_iff hcoherent₀ (hgrows.trans hgrows')
        (hcount.trans (h.keepsCount hspin)) hcoherent').mpr hfits
    · intro hreleased
      have hobj : ∀ ctx ∈ acquired, ctx.inode.isObj = true :=
        fun ctx hmem ↦ h.isObj_of_ne_err ctx hmem (hreleased.noError ctx hmem)
      exact ⟨hobj, ((h.allStandFor hspin hcoherent hobj).releasable_iff hcoherent₀
        (hgrows.trans hgrows') (hcount.trans (h.keepsCount hspin)) hcoherent').mp hreleased⟩
  · refine iff_of_false (fun h' ↦ ?_) fun h' ↦ h'.1 hspin
    have := h'.1
    omega

/-- Whether a complete listing is answered. -/
theorem Acquiring.entriesReplied_complete {daemon₀ : Daemon}
    (h : Acquiring daemon entries trace acquired .completed daemon')
    (hpos : 0 < daemon₀.heap.length) (hcoherent : Coherent daemon)
    (hlength : daemon.heap.length = daemon₀.heap.length) (size : ℕ) (granted : Bool) :
    EntriesReplied plat daemon₀ size entries (trace ++ [⟨.malloc .readdirBuf, granted⟩]) ↔
      (granted = true → ∀ ok ∈ (acquired.map (·.inode.isObj)).take
        (visitedCount plat size (acquired.map (·.name)) 0), ok = true) := by
  rcases h.room hcoherent (by omega) with ⟨hspin, hroom⟩ | ⟨hspin, -⟩
  · have hflags : acquiredEntries entries (trace ++ [⟨.malloc .readdirBuf, granted⟩]) =
        acquired.map (·.inode.isObj) := h.acquiredEntries_eq hspin rfl
    have hlt := (h.keeps hspin hcoherent).1.length_lt
    have hall := h.completed_iff.mp rfl
    have hnames := h.map_name
    rw [hall, List.take_length] at hnames
    have hcount : grantedCount (trace ++ [⟨.malloc .readdirBuf, granted⟩]) = grantedCount trace :=
      grantedCount_append trace _
    rw [EntriesReplied, hflags, List.length_map, if_pos hall, hcount,
      and_iff_right (by omega), hnames,
      List.mem_append, or_iff_right (h.notMem_readdirBuf true), List.mem_singleton]
    simp
  · cases hspin

/-- A call that fails, or whose directory cannot be refreshed, is answered with an error. -/
theorem plusReplied_of_refused {parent size : ℕ} {dir : List UInt8} {cookie cookieverf : UInt64}
    {count maxcount : UInt32} {outcome : RpcOutcome Readdirplus3resok} (rest : Trace)
    (hstatus : ∀ res, outcome = .done (.ok res) →
      daemon.listingStatus parent res.dirAttributes ≠ 0) :
    PlusReplied plat daemon parent size
      (⟨.call (.readdirplus dir cookie cookieverf count maxcount), outcome⟩ :: rest) := by
  match outcome with
  | .fail err hne => exact trivial
  | .done (.fail status hne) => exact trivial
  | .done (.ok res) => exact fun hzero ↦ absurd hzero (hstatus res rfl)

/-- The end of `hsx_fuse_readdir_plus` after a complete listing. -/
theorem packed_repliedOnce_iff {daemon₀ : Daemon}
    (h : Acquiring daemon entries trace acquired .completed daemon')
    (hpos : 0 < daemon₀.heap.length) (hcoherent : Coherent daemon)
    (hlength : daemon.heap.length = daemon₀.heap.length) (hcoherent' : Coherent daemon')
    (hreplies : daemon'.replies = daemon₀.replies) {size : ℕ} {back : Trace}
    {ending : Ending Fault Daemon Unit}
    (hpath : (((if (0 : ℤ) ≠ 0 then Prog.reply (.err 0)
      else do
        if ← Prog.malloc .readdirBuf then
          let entries ← packDirentsPlus plat size acquired 0 []
          Prog.reply (.direntsPlus entries)
        else Prog.reply (.err enomem)) : Prog Unit).run daemon').Path back ending) :
    RepliedOnce daemon₀ ending ↔ EntriesReplied plat daemon₀ size entries (trace ++ back) := by
  rw [if_neg (not_not.mpr rfl)] at hpath
  obtain ⟨granted, rest, rfl, hrest⟩ := Prog.path_malloc_bind.mp hpath
  cases granted with
  | false =>
    rw [if_neg Bool.false_ne_true] at hrest
    obtain rfl : rest = [] := hrest.1
    rw [h.entriesReplied_complete hpos hcoherent hlength]
    exact iff_of_true (repliedOnce_reply hreplies hrest) nofun
  | true =>
    have hcached : ∀ ctx ∈ acquired, ctx.inode.Cached daemon' := h.lt_length nofun hcoherent
    rw [if_pos rfl] at hrest
    rcases Program.path_bind.mp hrest with ⟨dirents, daemon₁, front, last, hfirst, hlast, rfl⟩ |
      ⟨reason, daemon₁, hcrash, rfl⟩
    · obtain ⟨rfl, ⟨hall, _, _, heq, hsame⟩ | ⟨-, _, _, heq⟩⟩ :=
        packDirentsPlus_ending hcoherent' hcached hfirst
      · cases heq
        obtain rfl : last = [] := hlast.1
        rw [List.append_nil, h.entriesReplied_complete hpos hcoherent hlength]
        exact iff_of_true (repliedOnce_reply (hsame.trans hreplies) hlast) fun _ ↦ hall
      · cases heq
    · obtain ⟨rfl, ⟨-, _, _, heq, -⟩ | ⟨hnot, -⟩⟩ :=
        packDirentsPlus_ending hcoherent' hcached hcrash
      · cases heq
      · rw [h.entriesReplied_complete hpos hcoherent hlength]
        exact iff_of_false not_repliedOnce_crashed fun h' ↦ hnot (h' rfl)

/-- `hsx_fuse_readdir_plus` answers exactly if its directory is cached and the reply to its call
gets it answered. -/
theorem hsxFuseReaddirPlus_repliedOnce_iff (hcoherent : Coherent daemon)
    (hpos : 0 < daemon.heap.length) {ino : UInt64} {size : ℕ} {off : UInt64}
    {ending : Ending Fault Daemon Unit}
    (hpath : ((hsxFuseReaddirPlus plat ino size off).run daemon).Path trace ending) :
    RepliedOnce daemon ending ↔
      ∃ parent, daemon.findIno ino = some parent ∧ PlusReplied plat daemon parent size trace := by
  rw [hsxFuseReaddirPlus] at hpath
  rcases hcoherent.path_ilookup hpath with ⟨hfind, hpath⟩ | ⟨parent, hfind, hpath⟩
  · refine iff_of_false (not_repliedOnce_crash _ _ _ _ hpath) ?_
    rintro ⟨parent, heq, -⟩
    cases hfind.symm.trans heq
  · simp only [hfind, Option.some.injEq, exists_eq_left']
    rcases Program.path_bind.mp hpath with
      ⟨⟨err, chain⟩, daemon₁, front, rest, hfirst, hrest, rfl⟩ |
      ⟨reason, daemon₁, hcrash, rfl⟩
    · dsimp only at hrest
      obtain ⟨outcome, rest₁, rfl, ⟨rfl, hstatus, _, hne, heq⟩ |
        ⟨res, acquired, stop, daemon₂, rfl, hstatus, hacquiring, hfinish⟩⟩ :=
          hsiNfs3ReaddirPlus_path hcoherent hfirst
      · cases heq
        rw [if_pos hne] at hrest
        exact iff_of_true (repliedOnce_reply rfl hrest) (plusReplied_of_refused _ hstatus)
      · obtain ⟨hcoherent₀, hgrows₀⟩ := hcoherent.listing hstatus res.cookieverf
        have hlength := daemon.listing_length parent res.dirAttributes res.cookieverf
        rw [List.cons_append, PlusReplied, imp_iff_right hstatus]
        by_cases hstop : stop = .completed
        · subst hstop
          cases hfinish.2
          obtain ⟨hcoherent₂, hgrows₂⟩ := hacquiring.keeps ListingStop.completed_ne_spin hcoherent₀
          exact packed_repliedOnce_iff hacquiring hpos hcoherent₀ hlength hcoherent₂
            (hgrows₂.replies_eq.trans hgrows₀.replies_eq) hrest
        · rcases hacquiring.finish_ending hcoherent₀ hstop hfinish with
            ⟨hreleased, _, _, hne, heq, hreplies⟩ | ⟨-, _, _, heq⟩
          · cases heq
            rw [if_pos hne] at hrest
            obtain rfl : rest = [] := hrest.1
            have hgrows₂ := (hacquiring.keeps hreleased.1 hcoherent₀).2
            rw [List.append_nil]
            refine iff_of_true (repliedOnce_reply ?_ hrest)
              ((hacquiring.entriesReplied_incomplete hcoherent hpos hcoherent₀ hgrows₀
                (.listing daemon parent _ _) hlength hstop size).mpr hreleased)
            rw [hreplies, hgrows₂.replies_eq, hgrows₀.replies_eq]
          · cases heq
    · refine iff_of_false not_repliedOnce_crashed fun hreplied ↦ ?_
      obtain ⟨outcome, rest, rfl, ⟨-, -, _, -, heq⟩ |
        ⟨res, acquired, stop, daemon₂, rfl, hstatus, hacquiring, hfinish⟩⟩ :=
          hsiNfs3ReaddirPlus_path hcoherent hcrash
      · cases heq
      · obtain ⟨hcoherent₀, hgrows₀⟩ := hcoherent.listing hstatus res.cookieverf
        have hlength := daemon.listing_length parent res.dirAttributes res.cookieverf
        have hstop : stop ≠ .completed := by
          rintro rfl
          cases hfinish.2
        rw [PlusReplied, imp_iff_right hstatus, hacquiring.entriesReplied_incomplete hcoherent hpos
          hcoherent₀ hgrows₀ (.listing daemon parent _ _) hlength hstop] at hreplied
        rcases hacquiring.finish_ending hcoherent₀ hstop hfinish with ⟨-, _, _, -, heq, -⟩ |
          ⟨hnot, -⟩
        · cases heq
        · exact hnot hreplied

end Listing

end NfsFuse
