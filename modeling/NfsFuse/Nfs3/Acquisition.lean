import NfsFuse.Nfs3.Coherence

/-!
# Acquiring inodes from replies

Whether an inode can be acquired for the object of a reply is decided by the environment: by the
attributes and the handle in the reply, and by the answer to the allocation when the object is not
cached yet.  This file reads that decision off the events of a run, for the replies that carry one
object and for the loop of `hsi_nfs3_readdir_plus`, whose runs are listed by `Acquiring`.
-/

namespace NfsFuse

open Lib

-- `hsi_nfs_fhget` is only used through the list of its runs
attribute [local irreducible] hsiNfsFhget

/-- Attributes that `hsi_nfs_fhget` accepts. -/
def usableAttrs (attributes : Option Fattr3) : Bool := attributes.any (·.nlink != 0)

/-- There was no memory for a new inode. -/
def inodeDenied : Event EnvAns := ⟨.malloc .nfsInode, false⟩

/-- There was memory for a new inode. -/
def inodeGranted : Event EnvAns := ⟨.malloc .nfsInode, true⟩

theorem inodeGranted_ne_inodeDenied : inodeGranted ≠ inodeDenied := by
  simp [inodeGranted, inodeDenied]

theorem acquirable_iff_usableAttrs (attributes : Option Fattr3) :
    (postFattr attributes).Acquirable ↔ usableAttrs attributes = true := by
  rw [postFattr_acquirable_iff]
  cases attributes <;> simp [usableAttrs]

/-- What `hsi_nfs_fhget` returns is decided by the attributes and the allocation. -/
theorem FhgetPath.ptr_cases {daemon daemon' : Daemon} {fh : NfsFh} {attributes : Option Fattr3}
    {trace : Trace} {ptr : InodePtr}
    (hpath : FhgetPath daemon fh (postFattr attributes) trace (.done ptr daemon')) :
    (∃ index, ptr = .obj index ∧ usableAttrs attributes = true ∧ inodeDenied ∉ trace) ∨
      (∃ error, ptr = .err error ∧ daemon' = daemon ∧
        (usableAttrs attributes = false ∨ inodeDenied ∈ trace)) := by
  cases hpath with
  | rejected hattr =>
    rw [acquirable_iff_usableAttrs, Bool.not_eq_true] at hattr
    exact Or.inr ⟨_, rfl, rfl, Or.inl hattr⟩
  | noMemory hattr _ => exact Or.inr ⟨_, rfl, rfl, Or.inr (List.mem_singleton.mpr rfl)⟩
  | hit hattr _ =>
    exact Or.inl ⟨_, rfl, (acquirable_iff_usableAttrs _).mp hattr, List.not_mem_nil⟩
  | entered hattr _ _ =>
    refine Or.inl ⟨_, rfl, (acquirable_iff_usableAttrs _).mp hattr, ?_⟩
    exact fun hmem ↦ inodeGranted_ne_inodeDenied (List.mem_singleton.mp hmem).symm

/-- `hsi_nfs_fhget` stops only in the search for a free number, after a successful allocation. -/
theorem FhgetPath.crashed {daemon daemon' : Daemon} {fh : NfsFh} {attributes : Option Fattr3}
    {trace : Trace} {reason : Fault}
    (hpath : FhgetPath daemon fh (postFattr attributes) trace (.crashed reason daemon')) :
    usableAttrs attributes = true ∧ trace = [inodeGranted] ∧ daemon.freeId = none := by
  cases hpath with
  | spin hattr _ hid _ => exact ⟨(acquirable_iff_usableAttrs _).mp hattr, rfl, hid⟩

/-- The object and the attributes of a creation's reply can be used. -/
def Diropres3ok.usable (res : Diropres3ok) : Bool := res.obj.isSome && usableAttrs res.objAttributes

/-- The reply makes the acquisition of its object fail. -/
def unusable : Event EnvAns → Bool
  | ⟨.call (.lookup _), .done (.ok res)⟩ => !usableAttrs res.objAttributes
  | ⟨.call (.create _ _), .done (.ok res)⟩ => !res.usable
  | ⟨.call (.mkdir _ _), .done (.ok res)⟩ => !res.usable
  | ⟨.call (.symlink _ _ _), .done (.ok res)⟩ => !res.usable
  | ⟨.call (.mknod _ _), .done (.ok res)⟩ => !res.usable
  | ⟨.call (.fsinfo _), .done (.ok res)⟩ => res.objAttributes.any (·.nlink == 0)
  | ⟨.call (.getattr _), .done (.ok attributes)⟩ => attributes.nlink == 0
  | _ => false

/-! ## The entries of a directory -/

/-- The text of a name that `__alloc_copy_name` copies. -/
def copiedName (name : CString) : CString := (name.takeWhile (· != 0)).take 255

/-- A run that begins with `__alloc_copy_name`. -/
theorem path_allocCopyName_bind {α : Type} {name : CString} {next : Option CString → Prog α}
    {daemon : Daemon} {trace : Trace} {ending : Ending Fault Daemon α} :
    ((allocCopyName name >>= next).run daemon).Path trace ending ↔
      (∃ rest, trace = ⟨.malloc .readdirCtx, false⟩ :: rest ∧
        ((next none).run daemon).Path rest ending) ∨
      (∃ rest, trace = ⟨.malloc .readdirCtx, true⟩ :: ⟨.malloc .readdirName, false⟩ :: rest ∧
        ((next none).run daemon).Path rest ending) ∨
      (∃ rest, trace = ⟨.malloc .readdirCtx, true⟩ :: ⟨.malloc .readdirName, true⟩ :: rest ∧
        ((next (some (copiedName name))).run daemon).Path rest ending) := by
  constructor
  · rintro ⟨ctxOk, rest, rfl, hrest⟩
    cases ctxOk with
    | false => exact Or.inl ⟨rest, rfl, hrest⟩
    | true =>
      obtain ⟨nameOk, rest, rfl, hrest⟩ := hrest
      cases nameOk with
      | false => exact Or.inr (Or.inl ⟨rest, rfl, hrest⟩)
      | true => exact Or.inr (Or.inr ⟨rest, rfl, hrest⟩)
  · rintro (⟨rest, rfl, hrest⟩ | ⟨rest, rfl, hrest⟩ | ⟨rest, rfl, hrest⟩)
    · exact ⟨false, rest, rfl, hrest⟩
    · exact ⟨true, _, rfl, false, rest, rfl, hrest⟩
    · exact ⟨true, _, rfl, true, rest, rfl, hrest⟩

/-- The copy of an entry with the pointer acquired for it. -/
def entryCtx (entry : Entryplus3) (ptr : InodePtr) : ReaddirCtx :=
  ⟨toOffT entry.cookie, copiedName entry.name, entry.fileid, ptr⟩

/-- Why the loop of `hsi_nfs3_readdir_plus` stops. -/
inductive ListingStop where
  | completed
  | noMemory
  | noHandle (ctx : ReaddirCtx)
  | spin

/-- The runs of the loop of `hsi_nfs3_readdir_plus` up to the point where it stops: the entries
copied, each with the pointer that `hsi_nfs_fhget` returned for it. -/
inductive Acquiring : Daemon → List Entryplus3 → Trace → List ReaddirCtx → ListingStop → Daemon →
    Prop where
  | completed {daemon : Daemon} : Acquiring daemon [] [] [] .completed daemon
  | noCtx {daemon : Daemon} {entry : Entryplus3} {rest : List Entryplus3} :
      Acquiring daemon (entry :: rest) [⟨.malloc .readdirCtx, false⟩] [] .noMemory daemon
  | noName {daemon : Daemon} {entry : Entryplus3} {rest : List Entryplus3} :
      Acquiring daemon (entry :: rest) [⟨.malloc .readdirCtx, true⟩, ⟨.malloc .readdirName, false⟩]
        [] .noMemory daemon
  | noHandle {daemon : Daemon} {entry : Entryplus3} {rest : List Entryplus3}
      (hhandle : entry.nameHandle = none) :
      Acquiring daemon (entry :: rest) [⟨.malloc .readdirCtx, true⟩, ⟨.malloc .readdirName, true⟩]
        [] (.noHandle (entryCtx entry .null)) daemon
  | spin {daemon daemon' : Daemon} {entry : Entryplus3} {rest : List Entryplus3} {handle : NfsFh3}
      {trace : Trace} (hhandle : entry.nameHandle = some handle)
      (hpath : FhgetPath daemon (nfsCopyFh3 handle) (postFattr entry.nameAttributes) trace
        (.crashed .outOfFuel daemon')) :
      Acquiring daemon (entry :: rest)
        (⟨.malloc .readdirCtx, true⟩ :: ⟨.malloc .readdirName, true⟩ :: trace) [] .spin daemon'
  | step {daemon daemon₁ daemon' : Daemon} {entry : Entryplus3} {rest : List Entryplus3}
      {handle : NfsFh3} {front back : Trace} {ptr : InodePtr}
      {acquired : List ReaddirCtx} {stop : ListingStop} (hhandle : entry.nameHandle = some handle)
      (hpath : FhgetPath daemon (nfsCopyFh3 handle) (postFattr entry.nameAttributes) front
        (.done ptr daemon₁))
      (hrest : Acquiring daemon₁ rest back acquired stop daemon') :
      Acquiring daemon (entry :: rest)
        (⟨.malloc .readdirCtx, true⟩ :: ⟨.malloc .readdirName, true⟩ :: (front ++ back))
        (entryCtx entry ptr :: acquired) stop daemon'

/-- What the loop does where it stops, given the chain it has built. -/
def ListingStop.finish (chain : List ReaddirCtx) : ListingStop → Prog (ℤ × List ReaddirCtx)
  | .completed => return (0, chain)
  | .noMemory => do
      freeCtx chain
      return (enomem, [])
  | .noHandle ctx => do
      freeCtx (chain ++ [ctx])
      return (enoent, [])
  | .spin => Program.crash .outOfFuel

/-- The runs of the loop of `hsi_nfs3_readdir_plus`. -/
theorem copyEntriesPlus_path {plat : Platform} {entries : List Entryplus3}
    {chain : List ReaddirCtx} {daemon : Daemon} (hcoherent : Coherent daemon) {trace : Trace}
    {ending : Ending Fault Daemon (ℤ × List ReaddirCtx)}
    (hpath : ((copyEntriesPlus plat entries chain).run daemon).Path trace ending) :
    ∃ acquired stop daemon₁ front back, Acquiring daemon entries front acquired stop daemon₁ ∧
      ((stop.finish (chain ++ acquired)).run daemon₁).Path back ending ∧ trace = front ++ back := by
  induction entries generalizing chain daemon trace with
  | nil =>
    refine ⟨[], .completed, daemon, [], trace, .completed, ?_, rfl⟩
    rw [List.append_nil]
    exact hpath
  | cons entry rest ih =>
    rcases path_allocCopyName_bind.mp hpath with
      ⟨t, rfl, hloop⟩ | ⟨t, rfl, hloop⟩ | ⟨t, rfl, hloop⟩ <;> clear hpath
    · refine ⟨[], .noMemory, daemon, [_], t, .noCtx, ?_, rfl⟩
      rw [List.append_nil]
      exact hloop
    · refine ⟨[], .noMemory, daemon, [_, _], t, .noName, ?_, rfl⟩
      rw [List.append_nil]
      exact hloop
    cases hhandle : entry.nameHandle with
    | none =>
      refine ⟨[], .noHandle _, daemon, [_, _], t, .noHandle hhandle, ?_, rfl⟩
      simp only [hhandle] at hloop
      rw [List.append_nil]
      exact hloop
    | some handle =>
      simp only [hhandle] at hloop
      rcases Program.path_bind.mp hloop with
        ⟨ptr, daemon₁, front, back, hfhget, hrest, rfl⟩ | ⟨reason, daemon₁, hcrash, rfl⟩ <;>
        clear hloop
      · rw [hsiNfsFhget_path_iff plat hcoherent.live] at hfhget
        obtain ⟨⟨hcoherent₁, -⟩, -, -⟩ := hcoherent.fhget (nfsCopyFh3_wellFormed handle) hfhget
        rw [if_neg (by rw [hfhget.isErr_eq_false plat]; decide)] at hrest
        obtain ⟨acquired, stop, daemon₂, t₃, t₄, hacquiring, hfinish, rfl⟩ := ih hcoherent₁ hrest
        refine ⟨entryCtx entry ptr :: acquired, stop, daemon₂, _, t₄,
          .step hhandle hfhget hacquiring, ?_, by simp⟩
        rwa [List.append_assoc] at hfinish
      · rw [hsiNfsFhget_path_iff plat hcoherent.live] at hcrash
        cases hcrash with
        | spin hattr hfind hid hstate =>
          exact ⟨[], .spin, daemon₁, _, [], .spin hhandle (.spin hattr hfind hid hstate),
            ⟨rfl, rfl⟩, (List.append_nil _).symm⟩

/-- The loop keeps the cache coherent. -/
theorem Acquiring.keeps {daemon daemon' : Daemon} {entries : List Entryplus3} {trace : Trace}
    {acquired : List ReaddirCtx} {stop : ListingStop}
    (h : Acquiring daemon entries trace acquired stop daemon') (hstop : stop ≠ .spin)
    (hcoherent : Coherent daemon) : Coherent daemon' ∧ Grows daemon daemon' := by
  induction h with
  | spin _ _ => exact absurd rfl hstop
  | @step _ _ _ _ _ handle _ _ _ _ _ hhandle hpath hrest ih =>
    obtain ⟨⟨hcoherent₁, hgrows⟩, -, -⟩ := hcoherent.fhget (nfsCopyFh3_wellFormed handle) hpath
    obtain ⟨hcoherent', hgrows'⟩ := ih hstop hcoherent₁
    exact ⟨hcoherent', hgrows.trans hgrows'⟩
  | _ => exact ⟨hcoherent, Grows.refl _⟩

/-- The inodes acquired by the loop are cached when it stops. -/
theorem Acquiring.lt_length {daemon daemon' : Daemon} {entries : List Entryplus3} {trace : Trace}
    {acquired : List ReaddirCtx} {stop : ListingStop}
    (h : Acquiring daemon entries trace acquired stop daemon') (hstop : stop ≠ .spin)
    (hcoherent : Coherent daemon) : ∀ ctx ∈ acquired, ∀ index, ctx.inode = .obj index →
      index < daemon'.heap.length := by
  induction h with
  | spin _ _ => exact absurd rfl hstop
  | @step _ _ _ _ _ handle _ _ _ _ _ hhandle hpath hrest ih =>
    obtain ⟨⟨hcoherent₁, -⟩, hptr, -⟩ := hcoherent.fhget (nfsCopyFh3_wellFormed handle) hpath
    obtain ⟨-, hgrows⟩ := hrest.keeps hstop hcoherent₁
    rw [List.forall_mem_cons]
    exact ⟨fun index heq ↦ (hptr index heq).1.trans_le hgrows.length_le, ih hstop hcoherent₁⟩
  | _ => simp

theorem Acquiring.length_le {daemon daemon' : Daemon} {entries : List Entryplus3} {trace : Trace}
    {acquired : List ReaddirCtx} {stop : ListingStop}
    (h : Acquiring daemon entries trace acquired stop daemon') :
    acquired.length ≤ entries.length := by
  induction h with
  | step _ _ _ ih => exact Nat.succ_le_succ ih
  | _ => exact Nat.zero_le _

theorem emits_hsfsIput (ptr : InodePtr) {allowed : Event EnvAns → Prop} :
    (hsfsIput ptr).Emits allowed := by
  have hiput (ptr : InodePtr) : (do
      let index ← Prog.deref ptr
      let inode ← Prog.getInode index
      if inode.iCount = intMin then
        Program.crash .undefined
      else
        Prog.modifyInode index fun inode ↦ { inode with iCount := inode.iCount - 1 }
        if inode.iCount - 1 = 0 then genericDropInode index else return () :
        Prog Unit).Emits allowed := by
    refine .bind (.deref ptr) fun index ↦ .bind (.getInode index) fun inode ↦ .ite (.crash _) ?_
    refine .bind (.modify _) fun _ ↦
      .ite (.bind (.getInode index) fun _ ↦ .ite (.pure _) ?_) (.pure _)
    exact .bind (.deref _) fun _ ↦ .modify _
  cases ptr with
  | null => exact .pure _
  | obj index => exact hiput (.obj index)
  | err error => exact hiput (.err error)

theorem emits_freeCtx (chain : List ReaddirCtx) {allowed : Event EnvAns → Prop} :
    (freeCtx chain).Emits allowed := by
  induction chain with
  | nil => exact .pure _
  | cons ctx rest ih => exact .bind (emits_hsfsIput _) fun _ ↦ ih

/-- Nothing is asked where the loop stops. -/
theorem ListingStop.finish_trace {stop : ListingStop} {chain : List ReaddirCtx} {daemon : Daemon}
    {trace : Trace} {ending : Ending Fault Daemon (ℤ × List ReaddirCtx)}
    (hpath : ((stop.finish chain).run daemon).Path trace ending) : trace = [] := by
  refine Program.Emits.trace_eq_nil ?_ hpath
  cases stop with
  | completed => exact .pure _
  | noMemory => exact .bind (emits_freeCtx _) fun _ ↦ .pure _
  | noHandle ctx => exact .bind (emits_freeCtx _) fun _ ↦ .pure _
  | spin => exact .crash _

/-- The answer to the allocation of an inode in front of a trace; where none is asked for, the
object was cached. -/
def takeInode : Trace → Bool × Trace
  | ⟨.malloc .nfsInode, granted⟩ :: rest => (granted, rest)
  | trace => (true, trace)

/-- For each entry of a reply that `hsi_nfs_fhget` is called for, whether its inode was acquired. -/
def acquiredEntries : List Entryplus3 → Trace → List Bool
  | entry :: rest, ⟨.malloc .readdirCtx, true⟩ :: ⟨.malloc .readdirName, true⟩ :: trace =>
      if entry.nameHandle.isNone then []
      else if usableAttrs entry.nameAttributes then
        (takeInode trace).1 :: acquiredEntries rest (takeInode trace).2
      else false :: acquiredEntries rest trace
  | _, _ => []

/-- The pointer is an allocated inode. -/
def InodePtr.isObj : InodePtr → Bool
  | .obj _ => true
  | _ => false

theorem FhgetPath.takeInode_append {daemon daemon' : Daemon} {fh : NfsFh}
    {attributes : Option Fattr3} {front : Trace} {ptr : InodePtr}
    (hpath : FhgetPath daemon fh (postFattr attributes) front (.done ptr daemon'))
    (husable : usableAttrs attributes = true) {back : Trace}
    (hback : takeInode back = (true, back)) : takeInode (front ++ back) = (ptr.isObj, back) := by
  cases hpath with
  | rejected hattr => exact absurd ((acquirable_iff_usableAttrs _).mpr husable) hattr
  | hit _ _ => exact hback
  | noMemory _ _ => rfl
  | entered _ _ _ => rfl

/-- Nothing is allocated between two entries. -/
theorem Acquiring.takeInode_eq {daemon daemon' : Daemon} {entries : List Entryplus3} {front : Trace}
    {acquired : List ReaddirCtx} {stop : ListingStop}
    (h : Acquiring daemon entries front acquired stop daemon') {back : Trace}
    (hback : takeInode back = (true, back)) :
    takeInode (front ++ back) = (true, front ++ back) := by
  cases h with
  | completed => exact hback
  | _ => rfl

/-- The events of a listing tell which inodes were acquired. -/
theorem Acquiring.acquiredEntries_eq {daemon daemon' : Daemon} {entries : List Entryplus3}
    {front : Trace} {acquired : List ReaddirCtx} {stop : ListingStop}
    (h : Acquiring daemon entries front acquired stop daemon') (hstop : stop ≠ .spin) {back : Trace}
    (hback : takeInode back = (true, back)) :
    acquiredEntries entries (front ++ back) = acquired.map (·.inode.isObj) := by
  induction h with
  | completed => simp [acquiredEntries]
  | noCtx => rfl
  | noName => rfl
  | noHandle hhandle => simp [acquiredEntries, hhandle]
  | spin _ _ => exact absurd rfl hstop
  | @step daemon daemon₁ daemon' entry rest handle front back' ptr acquired stop hhandle hpath hrest
      ih =>
    have hsome : entry.nameHandle.isNone = false := by rw [hhandle]; rfl
    rw [List.cons_append, List.cons_append, List.append_assoc]
    simp only [acquiredEntries, hsome, Bool.false_eq_true, if_false, List.map_cons]
    by_cases husable : usableAttrs entry.nameAttributes = true
    · rw [if_pos husable, hpath.takeInode_append husable (hrest.takeInode_eq hback), ih hstop]
      rfl
    · cases hpath with
      | rejected _ =>
        rw [if_neg husable, List.nil_append, ih hstop]
        rfl
      | hit hattr _ => exact absurd ((acquirable_iff_usableAttrs _).mp hattr) husable
      | noMemory hattr _ => exact absurd ((acquirable_iff_usableAttrs _).mp hattr) husable
      | entered hattr _ _ => exact absurd ((acquirable_iff_usableAttrs _).mp hattr) husable

end NfsFuse
