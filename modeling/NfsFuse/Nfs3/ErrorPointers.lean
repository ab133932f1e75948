import NfsFuse.Nfs3.Acquisition
import NfsFuse.Mount.FillSuper

/-!
# Failed acquisitions

A reply with status `NFS3_OK` whose object cannot be acquired should make the procedure return an
error.  None of the seven procedures that acquire inodes ever does: `IS_ERR` is false on every
error pointer, so the pointer is handed on as a success, stored as the root, or followed.
-/

namespace NfsFuse

open Lib

section Runs

-- `hsi_nfs_fhget` is only used through the list of its runs
attribute [local irreducible] hsiNfsFhget

/-- The procedures that acquire inodes, with their arguments. -/
inductive Acquirer where
  | lookup (parent : ℕ) (name : CString)
  | mkdir (parent : ℕ) (name : CString) (mode : UInt32)
  | mknod (parent : ℕ) (name : CString) (mode : UInt32) (rdev : UInt64)
  | symlink (parent : ℕ) (link name : CString)
  | create (parent : ℕ) (name : CString) (mode : UInt32)
  | readdirPlus (parent : ℕ) (count : UInt32) (cookie : UInt64) (maxcount : UInt32)
  | fillSuper (fh : NfsFh3)

/-- The result of a procedure and the inode pointer it returns. -/
def onePtr (program : Prog (ℤ × InodePtr)) : Prog (ℤ × List InodePtr) := do
  let (err, ptr) ← program
  return (err, [ptr])

/-- The procedure: its result and the inode pointers it hands to its caller. -/
def Acquirer.program (plat : Platform) : Acquirer → Prog (ℤ × List InodePtr)
  | .lookup parent name => onePtr (hsiNfs3Lookup plat parent name)
  | .mkdir parent name mode => onePtr (hsiNfs3Mkdir plat parent name mode)
  | .mknod parent name mode rdev => onePtr (hsiNfs3Mknod plat parent name mode rdev)
  | .symlink parent link name => onePtr (hsiNfs3Symlink plat parent link name)
  | .create parent name mode => onePtr (hsiNfs3Create plat parent name mode)
  | .readdirPlus parent count cookie maxcount => do
      let (err, chain) ← hsiNfs3ReaddirPlus plat parent count cookie maxcount
      return (err, chain.map (·.inode))
  | .fillSuper fh => do
      let err ← hsiFillSuper plat fh
      return (err, [])

/-- The answers of the run contain an `NFS3_OK` reply with an object that cannot be acquired. -/
def Acquirer.Fails : Acquirer → Trace → Prop
  | .readdirPlus _ _ _ _, ⟨.call (.readdirplus _ _ _ _ _), .done (.ok res)⟩ :: trace =>
      false ∈ acquiredEntries res.entries trace
  | .readdirPlus _ _ _ _, _ => False
  | _, trace => (∃ event ∈ trace, unusable event = true) ∨ inodeDenied ∈ trace

/-- The procedure returned an error, and no error pointer reached its caller or the superblock. -/
def FailureReported (ending : Ending Fault Daemon (ℤ × List InodePtr)) : Prop :=
  ∃ err ptrs daemon, ending = .done (err, ptrs) daemon ∧ err ≠ 0 ∧
    (∀ error, .err error ∉ ptrs) ∧ ∀ error, daemon.sb.root ≠ .err error

/-- The run was cut short, or it returned 0 together with an error pointer. -/
def Escapes {α : Type} (ptrs : α → List InodePtr) (ending : Ending Fault Daemon (ℤ × α)) : Prop :=
  (∃ reason daemon, ending = .crashed reason daemon) ∨
    ∃ value daemon error, ending = .done (0, value) daemon ∧ .err error ∈ ptrs value

theorem Escapes.not_reported {ending : Ending Fault Daemon (ℤ × List InodePtr)}
    (h : Escapes id ending) : ¬ FailureReported ending := by
  rintro ⟨err, ptrs, daemon, rfl, herr, -⟩
  rcases h with ⟨_, _, heq⟩ | ⟨_, _, _, heq, -⟩
  · cases heq
  · cases heq
    exact herr rfl

/-- The program acquires one inode, unless the flag says that the reply is of no use or there is no
memory: then it returns an error pointer, which `IS_ERR` does not recognise. -/
def Acquires (plat : Platform) (program : Prog InodePtr) (usable : Bool) (daemon : Daemon) : Prop :=
  ∀ trace ending, (program.run daemon).Path trace ending →
    (∀ event ∈ trace, unusable event = false) ∧ (usable = false ∨ inodeDenied ∈ trace →
      ∃ error, ending = .done (.err error) daemon ∧ isErr plat (.err error) = false)

theorem acquires_hsiNfsFhget (plat : Platform) {daemon : Daemon} (hlive : daemon.Live) (fh : NfsFh)
    (attributes : Option Fattr3) :
    Acquires plat (hsiNfsFhget plat fh (postFattr attributes)) (usableAttrs attributes) daemon := by
  intro trace ending hpath
  rw [hsiNfsFhget_path_iff plat hlive] at hpath
  refine ⟨by cases hpath <;> simp [unusable], fun hfails ↦ ?_⟩
  cases ending with
  | done ptr daemon' =>
    rcases hpath.ptr_cases with ⟨index, rfl, husable, hgranted⟩ | ⟨error, rfl, rfl, -⟩
    · rcases hfails with hunusable | hdenied
      · rw [husable] at hunusable
        cases hunusable
      · exact absurd hdenied hgranted
    · exact ⟨error, rfl, hpath.isErr_eq_false plat⟩
  | crashed reason daemon' =>
    obtain ⟨husable, rfl, -⟩ := hpath.crashed
    rcases hfails with hunusable | hdenied
    · rw [husable] at hunusable
      cases hunusable
    · exact absurd (List.mem_singleton.mp hdenied).symm inodeGranted_ne_inodeDenied

theorem acquires_hsiNfs3HandleCreate (plat : Platform) {daemon : Daemon} (hlive : daemon.Live)
    (res : Diropres3ok) : Acquires plat (hsiNfs3HandleCreate plat res) res.usable daemon := by
  intro trace ending hpath
  unfold hsiNfs3HandleCreate at hpath
  unfold Diropres3ok.usable
  split at hpath
  · rw [errPtr_enoent plat daemon] at hpath
    obtain ⟨rfl, rfl⟩ := hpath
    exact ⟨by simp, fun _ ↦ ⟨_, rfl, isErr_err plat (by decide) (by decide)⟩⟩
  · rename_i handle hobj
    rw [hobj]
    exact acquires_hsiNfsFhget plat hlive _ _ trace ending hpath

/-- An event that makes no acquisition fail. -/
abbrev Harmless (event : Event EnvAns) : Prop := unusable event = false ∧ event ≠ inodeDenied

theorem harmless_not_fails {trace : Trace} (h : ∀ event ∈ trace, Harmless event) :
    ¬ ((∃ event ∈ trace, unusable event = true) ∨ inodeDenied ∈ trace) := by
  rintro (⟨event, hmem, hunusable⟩ | hmem)
  · rw [(h event hmem).1] at hunusable
    cases hunusable
  · exact (h _ hmem).2 rfl

/-- Where a failing run fails, given that nothing goes wrong in its last part. -/
theorem fails_append {front back : Trace} (h : ∀ event ∈ back, Harmless event)
    (hfails : (∃ event ∈ front ++ back, unusable event = true) ∨ inodeDenied ∈ front ++ back) :
    (∃ event ∈ front, unusable event = true) ∨ inodeDenied ∈ front := by
  rcases hfails with ⟨event, hmem, hunusable⟩ | hmem
  · rcases List.mem_append.mp hmem with hmem | hmem
    · exact Or.inl ⟨event, hmem, hunusable⟩
    · exact absurd (Or.inl ⟨event, hmem, hunusable⟩) (harmless_not_fails h)
  · rcases List.mem_append.mp hmem with hmem | hmem
    · exact Or.inr hmem
    · exact absurd rfl (h _ hmem).2

theorem emits_hsiNfsSetattr (index : ℕ) (attr : HsfsIattr) :
    (hsiNfsSetattr index attr).Emits Harmless := by
  refine .bind (.getInode index) fun inode ↦ .ite (.pure _) (.bind ?_ fun result ↦ ?_)
  · refine .bind (.getInode index) fun _ ↦ .bind (.clntCall fun _ ↦ ⟨rfl, nofun⟩) fun outcome ↦ ?_
    split <;> exact .pure _
  · refine .ite (.bind ?_ fun _ ↦ .pure _) (.pure _)
    exact .bind (.getInode index) fun _ ↦ .bind (.modify _) fun _ ↦ .pure _

theorem emits_exclusiveSetattr (new : InodePtr) (mode : UInt32) :
    (exclusiveSetattr new mode).Emits Harmless :=
  .bind (.deref new) fun index ↦ .bind (.getInode index) fun _ ↦ emits_hsiNfsSetattr index _

/-- A procedure whose object cannot be acquired goes on with an error pointer. -/
theorem Acquires.fails {α : Type} {plat : Platform} {daemon : Daemon} {program : Prog InodePtr}
    {usable : Bool} (h : Acquires plat program usable daemon) {next : InodePtr → Prog α}
    (before : Trace) {trace : Trace} {ending : Ending Fault Daemon α}
    (hbefore : (∃ event ∈ before, unusable event = true) → usable = false)
    (hdenied : inodeDenied ∉ before) (hnext : ∀ ptr, (next ptr).Emits Harmless)
    (hpath : ((program >>= next).run daemon).Path trace ending)
    (hfails : (∃ event ∈ before ++ trace, unusable event = true) ∨ inodeDenied ∈ before ++ trace) :
    ∃ error back, isErr plat (.err error) = false ∧
      ((next (.err error)).run daemon).Path back ending := by
  have hpart : ∀ {front : Trace} {back : Trace}, (∀ event ∈ front, unusable event = false) →
      (∀ event ∈ back, Harmless event) → trace = front ++ back →
      usable = false ∨ inodeDenied ∈ front := by
    rintro front back hfront hback rfl
    rw [← List.append_assoc] at hfails
    rcases fails_append hback hfails with ⟨event, hmem, hunusable⟩ | hmem
    · rcases List.mem_append.mp hmem with hmem | hmem
      · exact Or.inl (hbefore ⟨event, hmem, hunusable⟩)
      · rw [hfront event hmem] at hunusable
        cases hunusable
    · exact Or.inr ((List.mem_append.mp hmem).resolve_left hdenied)
  rcases Program.path_bind.mp hpath with
    ⟨ptr, daemon₁, front, back, hfirst, hrest, htrace⟩ | ⟨reason, daemon₁, hcrash, rfl⟩
  · obtain ⟨hquiet, herror⟩ := h _ _ hfirst
    obtain ⟨error, heq, herr⟩ := herror (hpart hquiet (hnext ptr _ _ _ hrest) htrace)
    cases heq
    exact ⟨error, back, herr, hrest⟩
  · obtain ⟨hquiet, herror⟩ := h _ _ hcrash
    obtain ⟨error, heq, -⟩ := herror (hpart hquiet (by simp) (List.append_nil trace).symm)
    cases heq

/-! ## The procedures -/

theorem onePtr_escapes {program : Prog (ℤ × InodePtr)} {daemon : Daemon} {trace : Trace}
    {ending : Ending Fault Daemon (ℤ × List InodePtr)}
    (h : ∀ ending, (program.run daemon).Path trace ending → Escapes ([·]) ending)
    (hpath : ((onePtr program).run daemon).Path trace ending) : Escapes id ending := by
  rcases Program.path_bind.mp hpath with
    ⟨⟨err, ptr⟩, daemon₁, front, back, hprogram, ⟨rfl, rfl⟩, rfl⟩ | ⟨reason, daemon₁, -, rfl⟩
  · rw [List.append_nil] at h
    rcases h _ hprogram with ⟨_, _, heq⟩ | ⟨value, daemon', error, heq, hmem⟩
    · cases heq
    · cases heq
      exact Or.inr ⟨_, _, error, rfl, hmem⟩
  · exact Or.inl ⟨reason, daemon₁, rfl⟩

theorem lookup_escapes {plat : Platform} {daemon : Daemon} (hlive : daemon.Live) {parent : ℕ}
    {name : CString} {trace : Trace} {ending : Ending Fault Daemon (ℤ × InodePtr)}
    (hfails : (∃ event ∈ trace, unusable event = true) ∨ inodeDenied ∈ trace)
    (hpath : ((hsiNfs3Lookup plat parent name).run daemon).Path trace ending) :
    Escapes ([·]) ending := by
  unfold hsiNfs3Lookup at hpath
  rw [Prog.getInode_bind] at hpath
  obtain ⟨outcome, rest, rfl, hrest⟩ := Prog.path_clntCall_bind.mp hpath
  match outcome with
  | .fail err hne =>
    obtain ⟨rfl, -⟩ := hrest
    exact absurd hfails (harmless_not_fails (List.forall_mem_singleton.mpr ⟨rfl, nofun⟩))
  | .done (.fail status hne) =>
    obtain ⟨rfl, -⟩ := hrest
    exact absurd hfails (harmless_not_fails (List.forall_mem_singleton.mpr ⟨rfl, nofun⟩))
  | .done (.ok res) =>
    obtain ⟨error, back, -, hdone⟩ := (acquires_hsiNfsFhget plat hlive _ _).fails [_]
      (by simp [unusable]) (by simp [inodeDenied]) (fun _ ↦ .pure _) hrest hfails
    exact Or.inr ⟨_, _, error, hdone.2, List.mem_singleton.mpr rfl⟩

/-- The reply to a creating call decides whether its object can be acquired. -/
def Decides (event : Event EnvAns) (outcome : RpcOutcome Diropres3ok) : Prop :=
  event ≠ inodeDenied ∧ unusable event =
    match outcome with
    | .done (.ok res) => !res.usable
    | _ => false

theorem Decides.of (event : RpcOutcome Diropres3ok → Event EnvAns)
    (hdenied : ∀ outcome, event outcome ≠ inodeDenied)
    (hrpc : ∀ err hne, unusable (event (.fail err hne)) = false)
    (hstatus : ∀ status hne, unusable (event (.done (.fail status hne))) = false)
    (hok : ∀ res, unusable (event (.done (.ok res))) = !res.usable)
    (outcome : RpcOutcome Diropres3ok) : Decides (event outcome) outcome := by
  refine ⟨hdenied outcome, ?_⟩
  match outcome with
  | .fail err hne => exact hrpc err hne
  | .done (.fail status hne) => exact hstatus status hne
  | .done (.ok res) => exact hok res

/-- A creating call that fails makes no acquisition fail. -/
theorem Decides.not_fails {event : Event EnvAns} {outcome : RpcOutcome Diropres3ok}
    (h : Decides event outcome) (hok : ∀ res, outcome ≠ .done (.ok res)) {before : Trace}
    (hbefore : ∀ event ∈ before, Harmless event) :
    ¬ ((∃ event' ∈ before ++ [event], unusable event' = true) ∨
      inodeDenied ∈ before ++ [event]) := by
  apply harmless_not_fails
  rw [List.forall_mem_append, List.forall_mem_singleton]
  refine ⟨hbefore, ?_, h.1⟩
  rw [h.2]
  split
  · exact absurd rfl (hok _)
  · rfl

/-- A creating call whose object cannot be acquired is followed by work on an error pointer. -/
theorem Decides.fails {α : Type} {plat : Platform} {daemon : Daemon} (hlive : daemon.Live)
    {event : Event EnvAns} {res : Diropres3ok} (h : Decides event (.done (.ok res)))
    {next : InodePtr → Prog α} {before trace : Trace} {ending : Ending Fault Daemon α}
    (hbefore : ∀ event ∈ before, Harmless event) (hnext : ∀ ptr, (next ptr).Emits Harmless)
    (hfails : (∃ event' ∈ before ++ event :: trace, unusable event' = true) ∨
      inodeDenied ∈ before ++ event :: trace)
    (hpath : ((hsiNfs3HandleCreate plat res >>= next).run daemon).Path trace ending) :
    ∃ error back, isErr plat (.err error) = false ∧
      ((next (.err error)).run daemon).Path back ending := by
  refine (acquires_hsiNfs3HandleCreate plat hlive res).fails (before ++ [event]) ?_ ?_ hnext hpath
    (by simpa using hfails)
  · rintro ⟨event', hmem, hunusable⟩
    rcases List.mem_append.mp hmem with hmem | hmem
    · rw [(hbefore event' hmem).1] at hunusable
      cases hunusable
    · rw [List.mem_singleton.mp hmem, h.2, Bool.not_eq_true'] at hunusable
      exact hunusable
  · intro hmem
    rcases List.mem_append.mp hmem with hmem | hmem
    · exact (hbefore _ hmem).2 rfl
    · exact h.1 (List.mem_singleton.mp hmem).symm

/-- The end of the creating procedures hands the error pointer on as a success. -/
theorem finishCreate_escapes {plat : Platform} {daemon : Daemon} (hlive : daemon.Live)
    {outcome : RpcOutcome Diropres3ok} {before trace : Trace} {event : Event EnvAns}
    {ending : Ending Fault Daemon (ℤ × InodePtr)} (hevent : Decides event outcome)
    (hbefore : ∀ event ∈ before, Harmless event)
    (hfails : (∃ event' ∈ before ++ event :: trace, unusable event' = true) ∨
      inodeDenied ∈ before ++ event :: trace)
    (hpath : ((finishCreate plat outcome).run daemon).Path trace ending) :
    Escapes ([·]) ending := by
  match outcome with
  | .fail err hne =>
    obtain ⟨rfl, -⟩ := hpath
    exact absurd hfails (hevent.not_fails nofun hbefore)
  | .done (.fail status hne) =>
    obtain ⟨rfl, -⟩ := hpath
    exact absurd hfails (hevent.not_fails nofun hbefore)
  | .done (.ok res) =>
    obtain ⟨error, back, herr, hrest⟩ :=
      hevent.fails hlive hbefore (fun _ ↦ .ite (.pure _) (.pure _)) hfails hpath
    rw [if_neg (by rw [herr]; decide)] at hrest
    exact Or.inr ⟨_, _, error, hrest.2, List.mem_singleton.mpr rfl⟩

theorem mkdir_escapes {plat : Platform} {daemon : Daemon} (hlive : daemon.Live) {parent : ℕ}
    {name : CString} {mode : UInt32} {trace : Trace} {ending : Ending Fault Daemon (ℤ × InodePtr)}
    (hfails : (∃ event ∈ trace, unusable event = true) ∨ inodeDenied ∈ trace)
    (hpath : ((hsiNfs3Mkdir plat parent name mode).run daemon).Path trace ending) :
    Escapes ([·]) ending := by
  unfold hsiNfs3Mkdir at hpath
  rw [Prog.getInode_bind] at hpath
  obtain ⟨outcome, rest, rfl, hrest⟩ := Prog.path_clntCall_bind.mp hpath
  have hdecides : Decides ⟨.call (.mkdir _ _), outcome⟩ outcome :=
    .of (fun outcome ↦ ⟨.call (.mkdir _ _), outcome⟩) (fun _ ↦ nofun) (fun _ _ ↦ rfl)
      (fun _ _ ↦ rfl) (fun _ ↦ rfl) outcome
  exact @finishCreate_escapes _ _ hlive _ [] _ _ _ hdecides (by simp) hfails hrest

theorem symlink_escapes {plat : Platform} {daemon : Daemon} (hlive : daemon.Live) {parent : ℕ}
    {link name : CString} {trace : Trace} {ending : Ending Fault Daemon (ℤ × InodePtr)}
    (hfails : (∃ event ∈ trace, unusable event = true) ∨ inodeDenied ∈ trace)
    (hpath : ((hsiNfs3Symlink plat parent link name).run daemon).Path trace ending) :
    Escapes ([·]) ending := by
  unfold hsiNfs3Symlink at hpath
  rw [Prog.getInode_bind] at hpath
  obtain ⟨outcome, rest, rfl, hrest⟩ := Prog.path_clntCall_bind.mp hpath
  have hdecides : Decides ⟨.call (.symlink _ _ _), outcome⟩ outcome :=
    .of (fun outcome ↦ ⟨.call (.symlink _ _ _), outcome⟩) (fun _ ↦ nofun) (fun _ _ ↦ rfl)
      (fun _ _ ↦ rfl) (fun _ ↦ rfl) outcome
  exact @finishCreate_escapes _ _ hlive _ [] _ _ _ hdecides (by simp) hfails hrest

theorem mknod_escapes {plat : Platform} {daemon : Daemon} (hlive : daemon.Live) {parent : ℕ}
    {name : CString} {mode : UInt32} {rdev : UInt64} {trace : Trace}
    {ending : Ending Fault Daemon (ℤ × InodePtr)}
    (hfails : (∃ event ∈ trace, unusable event = true) ∨ inodeDenied ∈ trace)
    (hpath : ((hsiNfs3Mknod plat parent name mode rdev).run daemon).Path trace ending) :
    Escapes ([·]) ending := by
  unfold hsiNfs3Mknod at hpath
  split_ifs at hpath with hlong
  · obtain ⟨rfl, -⟩ := hpath
    simp at hfails
  · obtain ⟨copied, rest, rfl, hcopied⟩ := path_copyName_bind.mp hpath
    have hharmless : Harmless ⟨.malloc .mknodName, copied⟩ := ⟨rfl, nofun⟩
    split_ifs at hcopied with hfits hmemory
    · exact Or.inl ⟨_, _, hcopied.2⟩
    · rw [Prog.getInode_bind] at hcopied
      obtain ⟨outcome, rest, rfl, hrest⟩ := Prog.path_clntCall_bind.mp hcopied
      have hdecides : Decides ⟨.call (.mknod _ _), outcome⟩ outcome :=
        .of (fun outcome ↦ ⟨.call (.mknod _ _), outcome⟩) (fun _ ↦ nofun) (fun _ _ ↦ rfl)
          (fun _ _ ↦ rfl) (fun _ ↦ rfl) outcome
      exact @finishCreate_escapes _ _ hlive _ [_] _ _ _ hdecides
        (List.forall_mem_singleton.mpr hharmless) hfails hrest
    · obtain ⟨rfl, -⟩ := hcopied
      exact absurd hfails (harmless_not_fails (List.forall_mem_singleton.mpr hharmless))

theorem create_escapes {plat : Platform} {daemon : Daemon} (hlive : daemon.Live) {parent : ℕ}
    {name : CString} {mode : UInt32} {trace : Trace} {ending : Ending Fault Daemon (ℤ × InodePtr)}
    (hfails : (∃ event ∈ trace, unusable event = true) ∨ inodeDenied ∈ trace)
    (hpath : ((hsiNfs3Create plat parent name mode).run daemon).Path trace ending) :
    Escapes ([·]) ending := by
  unfold hsiNfs3Create at hpath
  rw [Prog.getInode_bind] at hpath
  obtain ⟨outcome, rest, rfl, hrest⟩ := Prog.path_clntCall_bind.mp hpath
  have hdecides : Decides ⟨.call (.create _ _), outcome⟩ outcome :=
    .of (fun outcome ↦ ⟨.call (.create _ _), outcome⟩) (fun _ ↦ nofun) (fun _ _ ↦ rfl)
      (fun _ _ ↦ rfl) (fun _ ↦ rfl) outcome
  match outcome with
  | .fail err hne =>
    obtain ⟨rfl, -⟩ := hrest
    exact absurd hfails (@Decides.not_fails _ _ hdecides nofun [] (by simp))
  | .done (.fail status hne) =>
    obtain ⟨rfl, -⟩ := hrest
    exact absurd hfails (@Decides.not_fails _ _ hdecides nofun [] (by simp))
  | .done (.ok res) =>
    obtain ⟨error, back, herr, hnext⟩ := @Decides.fails _ _ _ hlive _ _ hdecides _ [] _ _ (by simp)
      (fun ptr ↦ .ite (.pure _) (.ite (.bind (emits_exclusiveSetattr ptr mode) fun _ ↦ .pure _)
        (.pure _))) hfails hrest
    rw [if_neg (by rw [herr]; decide)] at hnext
    split_ifs at hnext
    · -- The mode of an exclusively created file is set through the pointer.
      exact Or.inl ⟨_, _, hnext.2⟩
    · exact Or.inr ⟨_, _, error, hnext.2, List.mem_singleton.mpr rfl⟩

theorem emits_beginListing (parent : ℕ) (dirAttributes : Option Fattr3) (cookieverf : UInt64)
    {allowed : Event EnvAns → Prop} :
    (beginListing parent dirAttributes cookieverf).Emits allowed := by
  refine .bind (.bind (.getInode parent) fun _ ↦ .bind (.modify _) fun _ ↦ .pure _) fun err ↦ ?_
  exact .ite (.pure _) (.bind (.modify _) fun _ ↦ .pure _)

/-- A chain with an error pointer in it. -/
def Poisoned (chain : List ReaddirCtx) : Prop := ∃ error, .err error ∈ chain.map (·.inode)

/-- Freeing such a chain goes through the error pointer. -/
theorem freeCtx_poisoned {chain : List ReaddirCtx} (h : Poisoned chain) {daemon daemon' : Daemon}
    {trace : Trace} : ¬ ((freeCtx chain).run daemon).Path trace (.done () daemon') := by
  obtain ⟨error, hmem⟩ := h
  induction chain generalizing daemon trace with
  | nil => simp at hmem
  | cons ctx rest ih =>
    intro hpath
    obtain ⟨⟨⟩, daemon₁, front, back, hiput, hrest, -⟩ := Program.path_bind_done.mp hpath
    rcases List.mem_cons.mp hmem with heq | hmem
    · rw [← show InodePtr.err error = ctx.inode from heq] at hiput
      cases hiput.2
    · exact ih hmem hrest

/-- Every entry is copied with an allocated inode or an error pointer. -/
theorem Acquiring.inode_cases {daemon daemon' : Daemon} {entries : List Entryplus3} {trace : Trace}
    {acquired : List ReaddirCtx} {stop : ListingStop}
    (h : Acquiring daemon entries trace acquired stop daemon')
    (hfalse : false ∈ acquired.map (·.inode.isObj)) :
    Poisoned acquired := by
  induction h with
  | step hhandle hpath hrest ih =>
    rcases List.mem_cons.mp hfalse with heq | hmem
    · rcases hpath.ptr_cases with ⟨index, rfl, -⟩ | ⟨error, rfl, -⟩
      · cases heq
      · exact ⟨error, List.mem_cons_self⟩
    · obtain ⟨error, hmem⟩ := ih hmem
      exact ⟨error, List.mem_cons_of_mem _ hmem⟩
  | _ => cases hfalse

theorem Poisoned.finish {chain : List ReaddirCtx} (h : Poisoned chain) {stop : ListingStop}
    {daemon : Daemon} {trace : Trace} {ending : Ending Fault Daemon (ℤ × List ReaddirCtx)}
    (hpath : ((stop.finish chain).run daemon).Path trace ending) :
    Escapes (·.map (·.inode)) ending := by
  have hfree : ∀ (more : List ReaddirCtx) (err : ℤ), ((do
      freeCtx (chain ++ more)
      return (err, []) : Prog (ℤ × List ReaddirCtx)).run daemon).Path trace ending →
      Escapes (·.map (·.inode)) ending := by
    intro more err hpath
    obtain ⟨error, hmem⟩ := h
    have hmore : Poisoned (chain ++ more) := ⟨error, by simp [List.mem_map.mp hmem]⟩
    rcases Program.path_bind.mp hpath with
      ⟨⟨⟩, daemon₁, front, back, hfirst, -, -⟩ | ⟨reason, daemon₁, -, rfl⟩
    · exact absurd hfirst (freeCtx_poisoned hmore)
    · exact Or.inl ⟨reason, daemon₁, rfl⟩
  cases stop with
  | completed =>
    obtain ⟨error, hmem⟩ := h
    exact Or.inr ⟨_, _, error, hpath.2, hmem⟩
  | noMemory =>
    rw [← List.append_nil chain] at hpath
    exact hfree [] _ hpath
  | noHandle ctx => exact hfree [ctx] _ hpath
  | spin => exact Or.inl ⟨_, _, hpath.2⟩

theorem readdirPlus_escapes {plat : Platform} {daemon : Daemon} (hcoherent : Coherent daemon)
    {parent : ℕ} {count maxcount : UInt32} {cookie : UInt64} {trace : Trace}
    {ending : Ending Fault Daemon (ℤ × List ReaddirCtx)}
    (hfails : (Acquirer.readdirPlus parent count cookie maxcount).Fails trace)
    (hpath : ((hsiNfs3ReaddirPlus plat parent count cookie maxcount).run daemon).Path trace
      ending) : Escapes (·.map (·.inode)) ending := by
  unfold hsiNfs3ReaddirPlus at hpath
  rw [Prog.getInode_bind] at hpath
  obtain ⟨outcome, rest, rfl, hrest⟩ := Prog.path_clntCall_bind.mp hpath
  match outcome with
  | .fail err hne => exact hfails.elim
  | .done (.fail status hne) => exact hfails.elim
  | .done (.ok res) =>
    rcases Program.path_bind.mp hrest with
      ⟨err, daemon₁, front, back, hbegin, hloop, rfl⟩ | ⟨reason, daemon₁, -, rfl⟩
    swap
    · exact Or.inl ⟨reason, daemon₁, rfl⟩
    have hquiet : (beginListing parent res.dirAttributes res.cookieverf).Emits fun _ ↦ False :=
      emits_beginListing _ _ _
    rw [hquiet.trace_eq_nil hbegin, List.nil_append] at hfails
    split_ifs at hloop with herr
    · obtain ⟨rfl, -⟩ := hloop
      change false ∈ acquiredEntries res.entries [] at hfails
      cases hentries : res.entries <;> simp [hentries, acquiredEntries] at hfails
    · obtain ⟨hcoherent₁, -⟩ := keeps_beginListing _ _ _ _ _ _ _ hbegin hcoherent
      obtain ⟨acquired, stop, daemon₂, t, t', hacquiring, hfinish, rfl⟩ :=
        copyEntriesPlus_path hcoherent₁ hloop
      by_cases hstop : stop = .spin
      · rw [hstop] at hfinish
        exact Or.inl ⟨_, _, hfinish.2⟩
      · rw [ListingStop.finish_trace hfinish] at hfails
        change false ∈ acquiredEntries res.entries (t ++ []) at hfails
        rw [hacquiring.acquiredEntries_eq hstop rfl] at hfails
        exact (hacquiring.inode_cases hfails).finish hfinish

/-- The same inodes are reachable and live. -/
def KeepsLive (daemon daemon' : Daemon) : Prop := daemon.Live → daemon'.Live

instance : Std.Refl KeepsLive := ⟨fun _ ↦ id⟩

instance : IsTrans Daemon KeepsLive := ⟨fun _ _ _ h h' ↦ h' ∘ h⟩

theorem keepsLive_hsiNfs3Fsinfo (plat : Platform) (fh : NfsFh3) (fattr : NfsFattr) :
    (hsiNfs3Fsinfo plat fh fattr).Respects KeepsLive := by
  refine .bind (.clntCall _) fun outcome ↦ ?_
  split
  · exact .pure _
  · exact .pure _
  · refine .bind (.modify fun _ hlive ↦ ⟨hlive.idTable, hlive.fhTable, hlive.freed_lt⟩) fun _ ↦
      .ite (.bind ?_ fun _ ↦ .pure _) (.pure _)
    refine .bind (.clntCall _) fun outcome ↦ ?_
    split <;> exact .pure _

/-- What `hsi_nfs3_fsinfo` learns about the root. -/
theorem hsiNfs3Fsinfo_usable {plat : Platform} {fh : NfsFh3} {daemon daemon' : Daemon}
    {trace : Trace} {ret : ℤ} {fattr : NfsFattr}
    (hpath : ((hsiNfs3Fsinfo plat fh nfsInitFattr).run daemon).Path trace
      (.done (ret, fattr) daemon')) :
    (ret ≠ 0 ∧ ∀ event ∈ trace, Harmless event) ∨
      (ret = 0 ∧ inodeDenied ∉ trace ∧ ∃ attributes, fattr = postFattr (some attributes) ∧
        ((∃ event ∈ trace, unusable event = true) → usableAttrs (some attributes) = false)) := by
  unfold hsiNfs3Fsinfo at hpath
  obtain ⟨outcome, rest, rfl, hrest⟩ := Prog.path_clntCall_bind.mp hpath
  match outcome with
  | .fail err hne =>
    obtain ⟨rfl, heq⟩ := hrest
    cases heq
    exact Or.inl ⟨hne, List.forall_mem_singleton.mpr ⟨rfl, nofun⟩⟩
  | .done (.fail status hne) =>
    obtain ⟨rfl, heq⟩ := hrest
    cases heq
    exact Or.inl ⟨hsiNfs3StatToErrno_ne_zero hne, List.forall_mem_singleton.mpr ⟨rfl, nofun⟩⟩
  | .done (.ok res) =>
    rw [Prog.modifySuper_bind] at hrest
    dsimp only at hrest
    cases hattr : res.objAttributes with
    | some attributes =>
      have hvalid : ¬ (hsiNfs3Post2fattr (some attributes) nfsInitFattr).valid &&& nfsAttrFattr =
        0 :=
        postFattr_valid_some attributes
      rw [hattr, if_neg hvalid] at hrest
      obtain ⟨rfl, heq⟩ := hrest
      cases heq
      exact Or.inr ⟨rfl, by simp [inodeDenied], attributes, rfl, by
        simp [unusable, usableAttrs, hattr]⟩
    | none =>
      rw [hattr] at hrest
      obtain ⟨outcome, rest, rfl, hgetattr⟩ := hrest
      rcases outcome with ⟨err, hne⟩ | ⟨attributes⟩ | ⟨status, hne⟩
      · obtain ⟨rfl, heq⟩ := hgetattr
        cases heq
        exact Or.inl ⟨hne, by simp [unusable, inodeDenied, hattr, Harmless]⟩
      · obtain ⟨rfl, heq⟩ := hgetattr
        cases heq
        exact Or.inr ⟨rfl, by simp [inodeDenied], attributes, rfl, by
          simp [unusable, usableAttrs, hattr]⟩
      · obtain ⟨rfl, heq⟩ := hgetattr
        cases heq
        exact Or.inl ⟨hsiNfs3StatToErrno_ne_zero hne,
          by simp [unusable, inodeDenied, hattr, Harmless]⟩

theorem emits_useRoot (root : InodePtr) : (useRoot root).Emits Harmless := by
  refine .bind (.modify _) fun _ ↦ .bind (.deref root) fun index ↦
    .bind (.getInode index) fun _ ↦ ?_
  refine .bind (.ite (.pure _) (.crash _)) fun _ ↦ .bind (.getInode index) fun _ ↦ ?_
  refine .bind (.clntCall fun _ ↦ ⟨rfl, nofun⟩) fun outcome ↦ ?_
  split
  · exact .pure _
  · exact .pure _
  · exact .bind (.modify _) fun _ ↦ .pure _

/-- `hsi_fill_super` stores the error pointer as the root and goes through it. -/
theorem fillSuper_escapes {plat : Platform} {daemon : Daemon} (hlive : daemon.Live) {fh : NfsFh3}
    {trace : Trace} {ending : Ending Fault Daemon ℤ}
    (hfails : (∃ event ∈ trace, unusable event = true) ∨ inodeDenied ∈ trace)
    (hpath : ((hsiFillSuper plat fh).run daemon).Path trace ending) :
    ∃ reason daemon', ending = .crashed reason daemon' := by
  unfold hsiFillSuper at hpath
  rw [Prog.modifySuper_bind] at hpath
  rcases Program.path_bind.mp hpath with
    ⟨⟨ret, fattr⟩, daemon₁, front, back, hfsinfo, hrest, rfl⟩ | ⟨reason, daemon₁, -, rfl⟩
  swap
  · exact ⟨reason, daemon₁, rfl⟩
  have hlive₁ : daemon₁.Live := by
    refine keepsLive_hsiNfs3Fsinfo _ _ _ _ _ _ _ hfsinfo ⟨?_, ?_, hlive.freed_lt⟩
    · exact fun _ _ hmem ↦ (nomatch hmem)
    · exact fun _ _ hmem ↦ (nomatch hmem)
  dsimp only at hrest
  rcases hsiNfs3Fsinfo_usable hfsinfo with ⟨hret, hharmless⟩ |
    ⟨hret, hdenied, attributes, rfl, hbad⟩
  · rw [if_pos hret] at hrest
    obtain ⟨rfl, -⟩ := hrest
    rw [List.append_nil] at hfails
    exact absurd hfails (harmless_not_fails hharmless)
  · rw [if_neg (not_not.mpr hret)] at hrest
    obtain ⟨error, back', herr, hroot⟩ := (acquires_hsiNfsFhget plat hlive₁ _ _).fails front hbad
      hdenied (fun root ↦ .ite (.pure _) (emits_useRoot root)) hrest hfails
    rw [if_neg (by rw [herr]; decide), useRoot_err_run] at hroot
    exact ⟨_, _, hroot.2⟩

/-- **No procedure reports a failed acquisition**, and `IS_ERR` is false on allocated inodes. -/
theorem failed_acquisition_never_reported (plat : Platform) (daemon : Daemon)
    (hcoherent : Coherent daemon) :
    (∀ index, isErr plat (.obj index) = false) ∧
    ∀ acquirer trace ending, ((Acquirer.program plat acquirer).run daemon).Path trace ending →
      acquirer.Fails trace → ¬ FailureReported ending := by
  refine ⟨isErr_obj plat, fun acquirer trace ending hpath hfails ↦ Escapes.not_reported ?_⟩
  have hlive := hcoherent.live
  cases acquirer with
  | lookup _ _ => exact onePtr_escapes (fun _ ↦ lookup_escapes hlive hfails) hpath
  | mkdir _ _ _ => exact onePtr_escapes (fun _ ↦ mkdir_escapes hlive hfails) hpath
  | mknod _ _ _ _ => exact onePtr_escapes (fun _ ↦ mknod_escapes hlive hfails) hpath
  | symlink _ _ _ => exact onePtr_escapes (fun _ ↦ symlink_escapes hlive hfails) hpath
  | create _ _ _ => exact onePtr_escapes (fun _ ↦ create_escapes hlive hfails) hpath
  | readdirPlus _ _ _ _ =>
    rcases Program.path_bind.mp hpath with
      ⟨⟨err, chain⟩, daemon₁, front, back, hlist, ⟨rfl, rfl⟩, rfl⟩ | ⟨reason, daemon₁, -, rfl⟩
    · rw [List.append_nil] at hfails
      rcases readdirPlus_escapes hcoherent hfails hlist with ⟨_, _, heq⟩ | ⟨_, _, error, heq, hmem⟩
      · cases heq
      · cases heq
        exact Or.inr ⟨_, _, error, rfl, hmem⟩
    · exact Or.inl ⟨reason, daemon₁, rfl⟩
  | fillSuper fh =>
    rcases Program.path_bind.mp hpath with
      ⟨err, daemon₁, front, back, hfill, ⟨rfl, rfl⟩, rfl⟩ | ⟨reason, daemon₁, -, rfl⟩
    · rw [List.append_nil] at hfails
      obtain ⟨_, _, heq⟩ := fillSuper_escapes hlive hfails hfill
      cases heq
    · exact Or.inl ⟨reason, daemon₁, rfl⟩

end Runs

/-- The reply to a creation that names no object. -/
def createdNothing : Trace :=
  [⟨.call (.mkdir ⟨[0], [100]⟩ { Sattr3.cleared with mode := some 0o755 }),
    .done (.ok ⟨none, none⟩)⟩]

theorem failed_acquisition_never_reported_mkdir :
    ((Acquirer.program linuxHost (.mkdir 0 [100] 0o755)).run rootCache).Path createdNothing
      (.done (0, [.err enoent]) rootCache) ∧
    (Acquirer.mkdir 0 [100] 0o755).Fails createdNothing ∧
    ¬ FailureReported (.done (0, [.err enoent]) rootCache) := by
  have hpath : ((Acquirer.program linuxHost (.mkdir 0 [100] 0o755)).run rootCache).Path
      createdNothing (.done (0, [.err enoent]) rootCache) := ⟨_, _, rfl, rfl, rfl⟩
  have hfails : (Acquirer.mkdir 0 [100] 0o755).Fails createdNothing :=
    Or.inl ⟨_, List.mem_singleton.mpr rfl, rfl⟩
  exact ⟨hpath, hfails, (failed_acquisition_never_reported linuxHost rootCache
    coherent_rootCache).2 _ _ _ hpath hfails⟩

/-- A lookup whose reply has no attributes returns 0 and an error pointer. -/
theorem lookup_without_attributes_succeeds :
    ((Acquirer.program linuxHost (.lookup 0 [102])).run rootCache).Path
      [⟨.call (.lookup ⟨[0], [102]⟩), .done (.ok ⟨⟨[7], by decide⟩, none⟩)⟩]
      (.done (0, [.err (-enoent)]) rootCache) ∧
    (Acquirer.lookup 0 [102]).Fails
      [⟨.call (.lookup ⟨[0], [102]⟩), .done (.ok ⟨⟨[7], by decide⟩, none⟩)⟩] ∧
    ¬ FailureReported (.done (0, [.err (-enoent)]) rootCache) := by
  refine ⟨⟨_, _, rfl, rfl, rfl⟩, Or.inl ⟨_, List.mem_singleton.mpr rfl, rfl⟩, ?_⟩
  rintro ⟨err, ptrs, daemon, heq, herr, -⟩
  cases heq
  exact herr rfl

end NfsFuse
