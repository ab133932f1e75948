import NfsFuse.Fuse.Footprints
import NfsFuse.Fuse.ListingReplies
import NfsFuse.Fuse.Serving
import NfsFuse.Mount.Outcome
import NfsFuse.Nfs3.Stamps

/-!
# Cached attributes over whole runs

Every handler changes the table of cached attributes by the replies it applies and by nothing else,
with one exception: `hsx_fuse_create` stores its caller as the owner of the directory.  So as long
as each file is created by the owner of its directory, the cached attributes of every inode are
those of the last reply that was applied to it.
-/

namespace NfsFuse

open Lib

section

-- `hsi_nfs_fhget` is only used through the list of its runs
attribute [local irreducible] hsiNfsFhget

variable {types : ServerObject → UInt32} {daemon : Daemon} {target : ServerObject}

/-- None of the events has a reply with attributes or is the allocation of an inode. -/
def Unreported (trace : Trace) : Prop :=
  ∀ event ∈ trace, event.op.reports = false ∧ event.op ≠ .malloc .nfsInode

theorem Unreported.applied_eq {trace : Trace} (h : Unreported trace) : applied target trace = [] :=
  applied_eq_nil target fun event hmem ↦ (h event hmem).1

theorem Unreported.takeInode_eq {trace : Trace} (h : Unreported trace) :
    takeInode trace = (true, trace) := by
  cases trace with
  | nil => rfl
  | cons event rest =>
    obtain ⟨op, answer⟩ := event
    have hop := (h _ List.mem_cons_self).2
    cases op with
    | call procedure => rfl
    | host question => rfl
    | malloc site =>
      cases site with
      | nfsInode => exact absurd rfl hop
      | _ => rfl

/-- Every returning run of the program from this state changes the table by the replies it applies;
what follows the run has none. -/
def Records (types : ServerObject → UInt32) (target : ServerObject) (daemon : Daemon) {α : Type}
    (program : Prog α) : Prop :=
  ∀ front value daemon' rest, (program.run daemon).Path front (.done value daemon') →
    Unreported rest → Honest types (applied target (front ++ rest)) →
    daemon'.view = overlay converted (applied target (front ++ rest)) daemon.view

theorem unreported_within {α : Type} {program : Prog α}
    (h : program.Within Change.apply stampParts) {trace : Trace} {ending : Ending Fault Daemon α}
    (hpath : (program.run daemon).Path trace ending) : Unreported trace :=
  h.emits (fun _ hop _ ↦ hop) _ _ _ hpath

theorem view_within {α : Type} {program : Prog α} (h : program.Within Change.apply stampParts)
    {trace : Trace} {ending : Ending Fault Daemon α}
    (hpath : (program.run daemon).Path trace ending) : ending.state.view = daemon.view :=
  Daemon.view_congr (fixes_stamps h _ _ _ hpath)

namespace Records

theorem of_within {α : Type} {program : Prog α} (h : program.Within Change.apply stampParts) :
    Records types target daemon program := by
  intro front value daemon' rest hpath hrest _
  have hnil : applied target (front ++ rest) = [] :=
    Unreported.applied_eq (List.forall_mem_append.mpr ⟨unreported_within h hpath, hrest⟩)
  rw [hnil, overlay_nil]
  exact view_within h hpath

/-- What follows a program and reports nothing. -/
theorem bind {α β : Type} {first : Prog α} {next : α → Prog β}
    (hfirst : Records types target daemon first)
    (hnext : ∀ value, (next value).Within Change.apply stampParts) :
    Records types target daemon (first >>= next) := by
  intro trace value daemon' rest hpath hrest hhonest
  obtain ⟨middle, daemon₁, front, back, hfront, hback, rfl⟩ := Program.path_bind_done.mp hpath
  rw [List.append_assoc] at hhonest ⊢
  have hunreported : Unreported (back ++ rest) :=
    List.forall_mem_append.mpr ⟨unreported_within (hnext middle) hback, hrest⟩
  exact (view_within (hnext middle) hback).trans
    (hfirst front middle daemon₁ (back ++ rest) hfront hunreported hhonest)

theorem of_run_eq {α : Type} {program program' : Prog α}
    (h : program'.run daemon = program.run daemon)
    (hprogram : Records types target daemon program) : Records types target daemon program' := by
  intro front value daemon' rest hpath
  rw [h] at hpath
  exact hprogram front value daemon' rest hpath

/-- A handler behind `hsfs_ilookup`. -/
theorem ilookup (hcoherent : Coherent daemon) {ino : UInt64} {found : ℕ → Prog Unit}
    {missing : Prog Unit}
    (hfound : ∀ index, daemon.findIno ino = some index → Records types target daemon (found index))
    (hmissing : missing.Within Change.apply stampParts) :
    Records types target daemon (hsfsIlookup ino >>= fun ptr ↦ match ptr with
      | .obj index => found index
      | _ => missing) := by
  have hrun := hcoherent.ilookup_bind ino fun ptr ↦ match ptr with
    | .obj index => found index
    | _ => missing
  cases hfind : daemon.findIno ino with
  | none =>
    rw [hfind] at hrun
    exact .of_run_eq hrun (.of_within hmissing)
  | some index =>
    rw [hfind] at hrun
    exact .of_run_eq hrun (hfound index hfind)

end Records

/-- A run whose first event is followed by nothing that reports. -/
theorem applied_cons {event : Event EnvAns} {rest : Trace}
    (h : ∀ event ∈ rest, event.op.reports = false) :
    applied target (event :: rest) = appliedBy target rest event := by
  rw [applied, applied_eq_nil _ h, List.append_nil]

section Procedures

variable (hcoherent : Coherent daemon) (htyped : Typed types daemon.view)

include hcoherent htyped

section Refreshing

variable {index : ℕ} (hlt : index < daemon.heap.length)

include hlt

theorem getattrEnding_view {fh : List UInt8} {st : Stat} {outcome : RpcOutcome Fattr3}
    {rest : Trace}
    (hhonest : Honest types
      (appliedBy (daemon.inode index).object rest ⟨.call (.getattr fh), outcome⟩)) :
    (getattrEnding daemon index st outcome).state.view = overlay converted
      (appliedBy (daemon.inode index).object rest ⟨.call (.getattr fh), outcome⟩) daemon.view := by
  rcases outcome with ⟨err, hne⟩ | attr | ⟨status, hne⟩
  · have herr : (getattrResult st (.fail err hne)).1 ≠ 0 := hne
    rw [getattrEnding, if_pos herr]
    rfl
  · have hzero : ¬ (getattrResult st (.done (.ok attr))).1 ≠ 0 := not_not.mpr rfl
    have hview : (daemon.refreshed index (postFattr (some attr))).view =
        overlay converted (refreshes (daemon.inode index).object (some attr)) daemon.view :=
      hcoherent.view_refreshed htyped hlt hhonest
    rw [getattrEnding, if_neg hzero]
    exact hview
  · have herr : (getattrResult st (.done (.fail status hne))).1 ≠ 0 :=
      hsiNfs3StatToErrno_ne_zero hne
    rw [getattrEnding, if_pos herr]
    rfl

theorem records_hsiNfs3Getattr (st : Stat) :
    Records types (daemon.inode index).object daemon (hsiNfs3Getattr index st) := by
  intro front value daemon' rest hpath hrest hhonest
  obtain ⟨outcome, rfl, hending⟩ := hsiNfs3Getattr_path hpath
  rw [List.singleton_append, applied_cons fun event hmem ↦ (hrest event hmem).1] at hhonest ⊢
  rw [← getattrEnding_view hcoherent htyped hlt hhonest, ← hending]
  rfl

theorem afterSetattr_view {fh : List UInt8} {attributes : Sattr3}
    (outcome : RpcOutcome (Option Fattr3)) {rest : Trace}
    (hhonest : Honest types (appliedBy (daemon.inode index).object rest
      ⟨.call (.setattr fh attributes), outcome⟩)) :
    (daemon.afterSetattr index outcome).view = overlay converted
      (appliedBy (daemon.inode index).object rest ⟨.call (.setattr fh attributes), outcome⟩)
        daemon.view := by
  rcases outcome with ⟨err, hne⟩ | attr | ⟨status, hne⟩
  · have herr : ¬ (setattrResult (.fail err hne)).1 = 0 := hne
    rw [Daemon.afterSetattr, if_neg herr]
    rfl
  · cases attr with
    | none => rfl
    | some attr => exact hcoherent.view_refreshed htyped hlt hhonest
  · have herr : ¬ (setattrResult (.done (.fail status hne))).1 = 0 := hsiNfs3StatToErrno_ne_zero hne
    rw [Daemon.afterSetattr, if_neg herr]
    rfl

theorem records_hsiNfsSetattr (attr : HsfsIattr) :
    Records types (daemon.inode index).object daemon (hsiNfsSetattr index attr) := by
  intro front value daemon' rest hpath hrest hhonest
  rcases hsiNfsSetattr_path hpath with ⟨-, rfl, heq⟩ | ⟨-, outcome, rfl, heq⟩
  · cases heq
    rw [List.nil_append, hrest.applied_eq, overlay_nil]
  · cases heq
    rw [List.singleton_append, applied_cons fun event hmem ↦ (hrest event hmem).1] at hhonest ⊢
    exact afterSetattr_view hcoherent htyped hlt outcome hhonest

theorem records_hsiNfs3Link (newparent : ℕ) (name : CString) :
    Records types (daemon.inode index).object daemon (hsiNfs3Link index newparent name) := by
  intro front value daemon' rest hpath hrest hhonest
  have hreports : ∀ event ∈ rest, event.op.reports = false := fun event hmem ↦ (hrest event hmem).1
  -- the copy of the name comes before every call
  have hskip (tail : Trace) : applied (daemon.inode index).object
      (⟨.malloc .linkName, true⟩ :: tail) = applied (daemon.inode index).object tail := rfl
  cases hsiNfs3Link_path hpath with
  | tooLong _ => rw [List.nil_append, hrest.applied_eq, overlay_nil]
  | noMemory _ =>
    rw [List.singleton_append, applied_cons hreports]
    rfl
  | failed _ outcome hstatus =>
    rw [List.cons_append, hskip, List.singleton_append, applied_cons hreports]
    rcases outcome with ⟨err, hne⟩ | attr | ⟨status, hne⟩
    · rfl
    · exact absurd rfl hstatus
    · rfl
  | refreshed _ attributes =>
    rw [List.cons_append, hskip, List.singleton_append, applied_cons hreports] at hhonest ⊢
    exact hcoherent.view_refreshed htyped hlt hhonest
  | reread _ outcome hread =>
    have hnone (tail : Trace) : applied (daemon.inode index).object
        (⟨.call (linkCall daemon index newparent name), .done (.ok none)⟩ :: tail) =
          applied (daemon.inode index).object tail := rfl
    rw [List.cons_append, hskip, List.cons_append, hnone, List.singleton_append,
      applied_cons hreports] at hhonest ⊢
    rw [← getattrEnding_view hcoherent htyped hlt hhonest, hread]
    rfl

end Refreshing

variable {plat : Platform}

/-- A run of `hsi_nfs_fhget` with what comes after it. -/
theorem fhget_view {handle : NfsFh3} {attributes : Option Fattr3} {front rest : Trace}
    {ptr : InodePtr} {daemon' : Daemon}
    (hpath : FhgetPath daemon (nfsCopyFh3 handle) (postFattr attributes) front (.done ptr daemon'))
    (hrest : takeInode rest = (true, rest))
    (hhonest : Honest types (acquires handle attributes (takeInode (front ++ rest)).1)) :
    daemon'.view =
      overlay converted (acquires handle attributes (takeInode (front ++ rest)).1) daemon.view := by
  have hgranted : acquires handle attributes (takeInode (front ++ rest)).1 =
      acquires handle attributes ptr.isObj := by
    by_cases husable : usableAttrs attributes = true
    · rw [hpath.takeInode_append husable hrest]
    · simp only [acquires, husable, Bool.false_and]
  rw [hgranted] at hhonest ⊢
  exact hpath.view_eq hcoherent htyped hhonest

omit hcoherent htyped in
theorem FhgetPath.not_reports {fh : NfsFh} {fattr : NfsFattr} {trace : Trace}
    {ending : Ending Fault Daemon InodePtr} (hpath : FhgetPath daemon fh fattr trace ending) :
    ∀ event ∈ trace, event.op.reports = false := by
  cases hpath with
  | rejected _ => exact List.forall_mem_nil _
  | hit _ _ => exact List.forall_mem_nil _
  | noMemory _ _ => exact List.forall_mem_singleton.mpr rfl
  | entered _ _ _ => exact List.forall_mem_singleton.mpr rfl
  | spin _ _ _ _ => exact List.forall_mem_singleton.mpr rfl

theorem records_hsiNfs3Lookup (parent : ℕ) (name : CString) :
    Records types target daemon (hsiNfs3Lookup plat parent name) := by
  intro trace value daemon' rest hpath hrest hhonest
  have hreports : ∀ event ∈ rest, event.op.reports = false := fun event hmem ↦ (hrest event hmem).1
  unfold hsiNfs3Lookup at hpath
  rw [Prog.getInode_bind] at hpath
  obtain ⟨outcome, back, rfl, hback⟩ := Prog.path_clntCall_bind.mp hpath
  rcases outcome with ⟨err, hne⟩ | res | ⟨status, hne⟩
  · obtain ⟨rfl, heq⟩ := hback
    cases heq
    rw [List.singleton_append, applied_cons hreports]
    rfl
  · obtain ⟨ptr, daemon₁, front, last, hfhget, hlast, rfl⟩ := Program.path_bind_done.mp hback
    obtain ⟨rfl, heq⟩ := hlast
    cases heq
    rw [hsiNfsFhget_path_iff plat hcoherent.live] at hfhget
    rw [List.append_nil, List.cons_append, applied_cons
      (List.forall_mem_append.mpr ⟨hfhget.not_reports, hreports⟩)] at hhonest ⊢
    exact fhget_view hcoherent htyped hfhget hrest.takeInode_eq hhonest
  · obtain ⟨rfl, heq⟩ := hback
    cases heq
    rw [List.singleton_append, applied_cons hreports]
    rfl

/-- What `hsi_nfs3_handle_create` returns and leaves behind. -/
structure CreatedAs (types : ServerObject → UInt32) (res : Diropres3ok) (daemon : Daemon)
    (front : Trace) (ptr : InodePtr) (daemon' : Daemon) : Prop where
  not_err : ∀ plat : Platform, isErr plat ptr = false
  not_reports : ∀ event ∈ front, event.op.reports = false
  coherent : Coherent daemon'
  view_eq : ∀ rest, takeInode rest = (true, rest) → Honest types (res.applied (front ++ rest)) →
    daemon'.view = overlay converted (res.applied (front ++ rest)) daemon.view
  object_eq : ∀ index, ptr = .obj index → index < daemon'.heap.length ∧ ∃ handle attr,
    res.obj = some handle ∧ res.objAttributes = some attr ∧
      (daemon'.inode index).object = ⟨attr.fileid, nfsCopyFh3 handle⟩

theorem handleCreate_createdAs {res : Diropres3ok} {front : Trace} {ptr : InodePtr}
    {daemon' : Daemon}
    (hpath : ((hsiNfs3HandleCreate plat res).run daemon).Path front (.done ptr daemon')) :
    CreatedAs types res daemon front ptr daemon' := by
  unfold hsiNfs3HandleCreate at hpath
  cases hobj : res.obj with
  | none =>
    rw [hobj, errPtr_enoent] at hpath
    obtain ⟨rfl, heq⟩ := hpath
    cases heq
    refine ⟨fun plat ↦ isErr_err plat (by decide) (by decide), List.forall_mem_nil _, hcoherent,
      fun rest _ _ ↦ ?_, nofun⟩
    rw [Diropres3ok.applied, hobj]
    rfl
  | some handle =>
    rw [hobj] at hpath
    have hfhget := (hsiNfsFhget_path_iff plat hcoherent.live _ _ _ _).mp hpath
    obtain ⟨⟨hcoherent', -⟩, hptr, -⟩ := hcoherent.fhget (nfsCopyFh3_wellFormed handle) hfhget
    refine ⟨fun plat ↦ hfhget.isErr_eq_false plat, hfhget.not_reports, hcoherent',
      fun rest hrest hhonest ↦ ?_, fun index heq ↦ ?_⟩
    · rw [Diropres3ok.applied, hobj] at hhonest ⊢
      exact fhget_view hcoherent htyped hfhget hrest hhonest
    · obtain ⟨hlt, hfileid, hfh⟩ := hptr index heq
      rcases hfhget.ptr_cases with ⟨_, -, husable, -⟩ | ⟨_, rfl, -, -⟩
      · obtain ⟨attr, hattr, -⟩ :=
          (postFattr_acquirable_iff _).mp ((acquirable_iff_usableAttrs _).mpr husable)
        rw [hattr] at hfileid
        refine ⟨hlt, handle, attr, hobj, hattr, ?_⟩
        rw [NfsInode.object, hfileid, hfh]
        rfl
      · cases heq

/-- What a creating procedure applies. -/
def createdLog (outcome : RpcOutcome Diropres3ok) (rest : Trace) : ReplyLog :=
  match outcome with
  | .done (.ok res) => res.applied rest
  | _ => []

/-- The end of the creating procedures. -/
theorem finishCreate_view {outcome : RpcOutcome Diropres3ok} {front rest : Trace}
    {value : ℤ × InodePtr} {daemon' : Daemon}
    (hpath : ((finishCreate plat outcome).run daemon).Path front (.done value daemon'))
    (hrest : Unreported rest) {event : Event EnvAns}
    (hevent : ∀ rest, appliedBy target rest event = createdLog outcome rest)
    (hhonest : Honest types (applied target (event :: (front ++ rest)))) :
    daemon'.view = overlay converted (applied target (event :: (front ++ rest))) daemon.view := by
  have hreports : ∀ event ∈ rest, event.op.reports = false := fun event hmem ↦ (hrest event hmem).1
  rcases outcome with ⟨err, hne⟩ | res | ⟨status, hne⟩
  · obtain ⟨rfl, heq⟩ := hpath
    cases heq
    rw [List.nil_append, applied_cons hreports, hevent]
    rfl
  · obtain ⟨ptr, daemon₁, front, last, hfirst, hlast, rfl⟩ := Program.path_bind_done.mp hpath
    have hcreated := handleCreate_createdAs hcoherent htyped hfirst
    rw [if_neg (by rw [hcreated.not_err plat]; decide)] at hlast
    obtain ⟨rfl, heq⟩ := hlast
    cases heq
    rw [List.append_nil, applied_cons (List.forall_mem_append.mpr ⟨hcreated.not_reports, hreports⟩),
      hevent] at hhonest ⊢
    exact hcreated.view_eq rest hrest.takeInode_eq hhonest
  · obtain ⟨rfl, heq⟩ := hpath
    cases heq
    rw [List.nil_append, applied_cons hreports, hevent]
    rfl

theorem records_hsiNfs3Mkdir (parent : ℕ) (name : CString) (mode : UInt32) :
    Records types target daemon (hsiNfs3Mkdir plat parent name mode) := by
  intro trace value daemon' rest hpath hrest hhonest
  unfold hsiNfs3Mkdir at hpath
  rw [Prog.getInode_bind] at hpath
  obtain ⟨outcome, back, rfl, hback⟩ := Prog.path_clntCall_bind.mp hpath
  refine finishCreate_view hcoherent htyped hback hrest (fun rest ↦ ?_) hhonest
  rcases outcome with _ | _ | _ <;> rfl

theorem records_hsiNfs3Symlink (parent : ℕ) (link name : CString) :
    Records types target daemon (hsiNfs3Symlink plat parent link name) := by
  intro trace value daemon' rest hpath hrest hhonest
  unfold hsiNfs3Symlink at hpath
  rw [Prog.getInode_bind] at hpath
  obtain ⟨outcome, back, rfl, hback⟩ := Prog.path_clntCall_bind.mp hpath
  refine finishCreate_view hcoherent htyped hback hrest (fun rest ↦ ?_) hhonest
  rcases outcome with _ | _ | _ <;> rfl

theorem records_hsiNfs3Mknod (parent : ℕ) (name : CString) (mode : UInt32) (rdev : UInt64) :
    Records types target daemon (hsiNfs3Mknod plat parent name mode rdev) := by
  intro trace value daemon' rest hpath hrest hhonest
  unfold hsiNfs3Mknod at hpath
  split_ifs at hpath with hlong
  · exact Records.of_within (.pure _) trace value daemon' rest hpath hrest hhonest
  obtain ⟨copied, back, rfl, hback⟩ := path_copyName_bind.mp hpath
  cases copied with
  | false =>
    rw [if_neg (fun h ↦ Bool.false_ne_true h.1), if_neg Bool.false_ne_true] at hback
    obtain ⟨rfl, heq⟩ := hback
    cases heq
    rw [List.singleton_append, applied_cons fun event hmem ↦ (hrest event hmem).1]
    rfl
  | true =>
    by_cases hfits : name.length + 1 ≤ nameMax
    swap
    · rw [if_pos ⟨rfl, hfits⟩] at hback
      cases hback.2
    · rw [if_neg (fun h ↦ h.2 hfits), if_pos rfl, Prog.getInode_bind] at hback
      obtain ⟨outcome, last, rfl, hlast⟩ := Prog.path_clntCall_bind.mp hback
      -- the copy of the name is applied to nothing
      refine finishCreate_view hcoherent htyped hlast hrest (fun rest ↦ ?_) hhonest
      rcases outcome with _ | _ | _ <;> rfl

omit htyped in
/-- The second step of an exclusive create is `hsi_nfs_setattr` on the new file. -/
theorem exclusiveSetattr_obj_run (index : ℕ) (mode : UInt32) :
    (exclusiveSetattr (.obj index) mode).run daemon = (hsiNfsSetattr index
      { (daemon.inode index).iattr with
        mode := mode &&& 0o777
        valid := (daemon.inode index).iattr.valid ||| hsfsAttrMode }).run daemon := by
  have hnot : index ∉ daemon.freed := by
    rw [hcoherent.freed_nil]
    exact List.not_mem_nil
  unfold exclusiveSetattr
  rw [Program.bind_run_of_ret (deref_obj_run hnot), Prog.getInode_bind]

theorem records_hsiNfs3Create (parent : ℕ) (name : CString) (mode : UInt32) :
    Records types target daemon (hsiNfs3Create plat parent name mode) := by
  intro trace value daemon' rest hpath hrest hhonest
  have hreports : ∀ event ∈ rest, event.op.reports = false := fun event hmem ↦ (hrest event hmem).1
  unfold hsiNfs3Create at hpath
  rw [Prog.getInode_bind] at hpath
  obtain ⟨outcome, back, rfl, hback⟩ := Prog.path_clntCall_bind.mp hpath
  rcases outcome with ⟨err, hne⟩ | res | ⟨status, hne⟩
  · obtain ⟨rfl, heq⟩ := hback
    cases heq
    rw [List.singleton_append, applied_cons hreports]
    rfl
  · obtain ⟨ptr, daemon₁, front, last, hfirst, hlast, rfl⟩ := Program.path_bind_done.mp hback
    have hcreated := handleCreate_createdAs hcoherent htyped hfirst
    rw [if_neg (by rw [hcreated.not_err plat]; decide)] at hlast
    rw [List.cons_append, List.append_assoc] at hhonest ⊢
    split_ifs at hlast with hexclusive
    · obtain ⟨status, daemon₂, middle, tail, hset, htail, rfl⟩ := Program.path_bind_done.mp hlast
      obtain ⟨rfl, heq⟩ := htail
      cases heq
      cases ptr with
      | null => cases hset.2
      | err _ => cases hset.2
      | obj index =>
        obtain ⟨hlt, handle, attr, hobj, hattr, hobject⟩ := hcreated.object_eq index rfl
        obtain ⟨obj, objAttributes⟩ := res
        subst hobj hattr
        rw [exclusiveSetattr_obj_run hcreated.coherent] at hset
        have hgranted : takeInode (middle ++ rest) = (true, middle ++ rest) := by
          rcases hsiNfsSetattr_path hset with ⟨-, rfl, -⟩ | ⟨-, outcome, rfl, -⟩
          · exact hrest.takeInode_eq
          · rfl
        rw [List.append_nil, applied, honest_append, appliedBy, nextTarget, ← hobject,
          applied_append_of_not_reports _ hcreated.not_reports] at hhonest
        rw [List.append_nil, applied, overlay_append, appliedBy, nextTarget, ← hobject,
          applied_append_of_not_reports _ hcreated.not_reports]
        have hview := hcreated.view_eq _ hgranted hhonest.1
        have htyped₁ := htyped.overlay hhonest.1
        rw [← hview] at htyped₁
        rw [← hview]
        exact records_hsiNfsSetattr hcreated.coherent htyped₁ hlt _ _ _ _ _ hset hrest hhonest.2
    · obtain ⟨rfl, heq⟩ := hlast
      cases heq
      rw [List.nil_append, applied_cons
        (List.forall_mem_append.mpr ⟨hcreated.not_reports, hreports⟩)] at hhonest ⊢
      exact hcreated.view_eq rest hrest.takeInode_eq hhonest
  · obtain ⟨rfl, heq⟩ := hback
    cases heq
    rw [List.singleton_append, applied_cons hreports]
    rfl

/-- The head of a listing. -/
theorem listing_view {parent : ℕ} (hlt : parent < daemon.heap.length)
    {dirAttributes : Option Fattr3} (cookieverf : UInt64)
    (hhonest : Honest types (refreshes (daemon.inode parent).object dirAttributes)) :
    (daemon.listing parent dirAttributes cookieverf).view = overlay converted
      (refreshes (daemon.inode parent).object dirAttributes) daemon.view := by
  rw [← hcoherent.view_refreshed htyped hlt hhonest]
  exact Daemon.view_congr (Daemon.stamps_setInode rfl rfl)

theorem listingStatus_eq_zero_iff {parent : ℕ} (hlt : parent < daemon.heap.length)
    {dirAttributes : Option Fattr3}
    (hhonest : Honest types (refreshes (daemon.inode parent).object dirAttributes)) :
    daemon.listingStatus parent dirAttributes = 0 ↔
      concerns (daemon.inode parent).object dirAttributes = true := by
  rw [Daemon.listingStatus, nfsRefresh_concerns (hcoherent.format_eq htyped hlt) hhonest]
  split_ifs with hconcerns
  · exact iff_of_true rfl hconcerns
  · exact iff_of_false (show -estale ≠ 0 by decide) hconcerns

omit hcoherent htyped in
theorem Acquiring.not_reports {daemon daemon' : Daemon} {entries : List Entryplus3} {trace : Trace}
    {acquired : List ReaddirCtx} {stop : ListingStop}
    (h : Acquiring daemon entries trace acquired stop daemon') :
    ∀ event ∈ trace, event.op.reports = false := by
  induction h with
  | completed => exact List.forall_mem_nil _
  | noCtx => exact List.forall_mem_singleton.mpr rfl
  | noName => exact List.forall_mem_cons.mpr ⟨rfl, List.forall_mem_singleton.mpr rfl⟩
  | noHandle _ => exact List.forall_mem_cons.mpr ⟨rfl, List.forall_mem_singleton.mpr rfl⟩
  | spin _ hpath =>
    exact List.forall_mem_cons.mpr ⟨rfl, List.forall_mem_cons.mpr ⟨rfl, hpath.not_reports⟩⟩
  | step _ hpath _ ih =>
    refine List.forall_mem_cons.mpr ⟨rfl, List.forall_mem_cons.mpr ⟨rfl, ?_⟩⟩
    exact List.forall_mem_append.mpr ⟨hpath.not_reports, ih⟩

omit hcoherent htyped in
theorem within_finish (stop : ListingStop) (chain : List ReaddirCtx) :
    (stop.finish chain).Within Change.apply stampParts := by
  cases stop with
  | completed => exact .pure _
  | noMemory => exact .bind (within_freeCtx stampPut _) fun _ ↦ .pure _
  | noHandle ctx => exact .bind (within_freeCtx stampPut _) fun _ ↦ .pure _
  | spin => exact .crash trivial

section Parent

variable {parent : ℕ} (hlt : parent < daemon.heap.length)

include hlt

theorem records_hsiNfs3Readdir (count : UInt32) (cookie : UInt64) :
    Records types (daemon.inode parent).object daemon (hsiNfs3Readdir parent count cookie) := by
  intro trace value daemon' rest hpath hrest hhonest
  have hreports : ∀ event ∈ rest, event.op.reports = false := fun event hmem ↦ (hrest event hmem).1
  unfold hsiNfs3Readdir at hpath
  rw [Prog.getInode_bind] at hpath
  obtain ⟨outcome, back, rfl, hback⟩ := Prog.path_clntCall_bind.mp hpath
  rcases outcome with ⟨err, hne⟩ | res | ⟨status, hne⟩
  · obtain ⟨rfl, heq⟩ := hback
    cases heq
    rw [List.singleton_append, applied_cons hreports]
    rfl
  · dsimp only at hback
    rw [Program.bind_run, beginListing_run] at hback
    by_cases hstatus : daemon.listingStatus parent res.dirAttributes = 0
    · rw [if_neg (not_not.mpr hstatus), Resumption.bind_ret, if_neg (not_not.mpr rfl)] at hback
      have hcopy := within_copyEntries stampPut res.entries []
      have hback' : ∀ event ∈ back ++ rest, event.op.reports = false :=
        List.forall_mem_append.mpr
          ⟨fun event hmem ↦ (unreported_within hcopy hback event hmem).1, hreports⟩
      rw [List.cons_append, applied_cons hback'] at hhonest ⊢
      exact (view_within hcopy hback).trans
        (listing_view hcoherent htyped hlt res.cookieverf hhonest)
    · rw [if_pos hstatus, Resumption.bind_ret, if_pos hstatus] at hback
      obtain ⟨rfl, heq⟩ := hback
      cases heq
      rw [List.singleton_append, applied_cons hreports, appliedBy] at hhonest ⊢
      rw [refreshes, if_neg fun h ↦ hstatus
        ((listingStatus_eq_zero_iff hcoherent htyped hlt hhonest).mpr h)]
      rfl
  · obtain ⟨rfl, heq⟩ := hback
    cases heq
    rw [List.singleton_append, applied_cons hreports]
    rfl

theorem records_hsiNfs3ReaddirPlus (count maxcount : UInt32) (cookie : UInt64) :
    Records types (daemon.inode parent).object daemon
      (hsiNfs3ReaddirPlus plat parent count cookie maxcount) := by
  intro trace value daemon' rest hpath hrest hhonest
  have hreports : ∀ event ∈ rest, event.op.reports = false := fun event hmem ↦ (hrest event hmem).1
  obtain ⟨outcome, back, rfl, hruns⟩ := hsiNfs3ReaddirPlus_path hcoherent hpath
  rcases hruns with ⟨rfl, hrefused, err, -, heq⟩ |
    ⟨res, acquired, stop, daemon₁, rfl, hstatus, hacquiring, hfinish⟩
  · cases heq
    rw [List.singleton_append, applied_cons hreports] at hhonest ⊢
    rcases outcome with ⟨err, hne⟩ | res | ⟨status, hne⟩
    · rfl
    · rw [appliedBy] at hhonest ⊢
      split_ifs at hhonest ⊢ with hconcerns
      · exact absurd ((listingStatus_eq_zero_iff hcoherent htyped hlt
          (honest_append.mp hhonest).1).mpr hconcerns) (hrefused res rfl)
      · rfl
    · rfl
  · have hstop : stop ≠ .spin := by
      rintro rfl
      cases hfinish.2
    have hback : ∀ event ∈ back ++ rest, event.op.reports = false :=
      List.forall_mem_append.mpr ⟨hacquiring.not_reports, hreports⟩
    rw [List.cons_append, applied_cons hback, appliedBy,
      hacquiring.acquiredEntries_eq hstop hrest.takeInode_eq] at hhonest ⊢
    have hrefreshes : Honest types (refreshes (daemon.inode parent).object res.dirAttributes) := by
      split_ifs at hhonest with hconcerns
      · exact (honest_append.mp hhonest).1
      · rw [refreshes, if_neg hconcerns]
        exact List.forall_mem_nil _
    rw [if_pos ((listingStatus_eq_zero_iff hcoherent htyped hlt hrefreshes).mp hstatus),
      honest_append] at hhonest
    rw [if_pos ((listingStatus_eq_zero_iff hcoherent htyped hlt hrefreshes).mp hstatus),
      overlay_append, ← listing_view hcoherent htyped hlt res.cookieverf hrefreshes]
    have htyped₁ := htyped.overlay hrefreshes
    rw [← listing_view hcoherent htyped hlt res.cookieverf hrefreshes] at htyped₁
    have hview := hacquiring.view_eq hstop (hcoherent.listing hstatus res.cookieverf).1
      htyped₁ hhonest.2
    exact (view_within (within_finish stop acquired) hfinish).trans hview

end Parent

end Procedures

/-! ## The handlers -/

/-- The object that a request is about if its reply carries attributes of a known object. -/
def Request.subject : Request → UInt64
  | .getattr ino | .setattr ino _ _ | .link ino _ _ | .readdir ino _ _ | .readdirplus ino _ _ => ino
  | _ => 0

/-- The object with an inode number. -/
def Daemon.objectOf (daemon : Daemon) (ino : UInt64) : ServerObject :=
  match daemon.findIno ino with
  | some index => (daemon.inode index).object
  | none => NfsInode.cleared.object

/-- The replies to a request that are applied. -/
def Request.applied (daemon : Daemon) (request : Request) (trace : Trace) : ReplyLog :=
  NfsFuse.applied (daemon.objectOf request.subject) trace

/-- A request to create a file comes from the owner of the directory as it is cached. -/
def OwnerKept (daemon : Daemon) (request : Request) : Prop :=
  ∀ parent name mode flags uid gid, request = .create parent name mode flags uid gid →
    ∀ index, daemon.findIno parent = some index →
      (daemon.inode index).iattr.uid = uid ∧ (daemon.inode index).iattr.gid = gid

theorem stampTail : TailParts stampParts where
  toPutParts := stampPut
  refDec := trivial
  refCreate := trivial
  count _ _ := rfl
  forgetNode := trivial
  reply _ := rfl

theorem stampServe : ServeParts stampParts where
  toRpcParts := stampRpc
  reply _ := rfl

/-- Every handler changes the table by the replies it applies. -/
theorem records_handle (hcoherent : Coherent daemon) (htyped : Typed types daemon.view)
    (plat : Platform) (fuel : ℕ) {request : Request} (howner : OwnerKept daemon request) :
    Records types (daemon.objectOf request.subject) daemon (handle plat fuel request) := by
  have hreply (message : FuseReply) : (Prog.reply message).Within Change.apply stampParts :=
    within_reply stampTail.reply message
  have hobject {ino : UInt64} {index : ℕ} (hfind : daemon.findIno ino = some index) :
      daemon.objectOf ino = (daemon.inode index).object := by
    rw [Daemon.objectOf, hfind]
  have hlt {ino : UInt64} {index : ℕ} (hfind : daemon.findIno ino = some index) :
      index < daemon.heap.length := ((hcoherent.findIno_eq_some_iff ino index).mp hfind).1
  by_cases hinert : request.inert = true
  · exact .of_within (within_handle_inert stampServe plat fuel request hinert)
  cases request with
  | getattr ino =>
    refine .ilookup hcoherent (fun index hfind ↦ ?_) (hreply _)
    rw [Request.subject, hobject hfind]
    exact .bind (records_hsiNfs3Getattr hcoherent htyped (hlt hfind) _) fun _ ↦ .ite (hreply _)
      (.bind (within_getInode _) fun _ ↦ .bind .get fun _ ↦ hreply _)
  | setattr ino attr toSet =>
    refine .ilookup hcoherent (fun index hfind ↦ ?_) (hreply _)
    rw [Request.subject, hobject hfind]
    exact .bind (records_hsiNfsSetattr hcoherent htyped (hlt hfind) _) fun _ ↦ .ite (hreply _)
      (.bind (within_getInode _) fun _ ↦ .bind .get fun _ ↦ hreply _)
  | lookup parent name =>
    exact .ilookup hcoherent
      (fun index _ ↦ .bind (records_hsiNfs3Lookup hcoherent htyped index name)
      fun value ↦ within_replyFound stampTail value.1 value.2) (hreply _)
  | forget ino nlookup => exact .of_within (within_hsxFuseForget stampTail ino nlookup)
  | mkdir parent name mode =>
    exact .ilookup hcoherent
      (fun index _ ↦ .bind (records_hsiNfs3Mkdir hcoherent htyped index name mode)
      fun _ ↦ within_replyCreated stampTail _ _ _) (.pure _)
  | symlink link parent name =>
    exact .ilookup hcoherent
      (fun index _ ↦ .bind (records_hsiNfs3Symlink hcoherent htyped index _ _)
      fun _ ↦ within_replyCreated stampTail _ _ _) (hreply _)
  | mknod parent name mode rdev =>
    exact .ilookup hcoherent (fun index _ ↦
      .bind (records_hsiNfs3Mknod hcoherent htyped index name mode rdev)
        fun _ ↦ within_replyCreated stampTail _ _ _) (hreply _)
  | create parent name mode flags uid gid =>
    refine .ilookup hcoherent (fun index hfind ↦ ?_) (.pure _)
    obtain ⟨huid, hgid⟩ := howner _ _ _ _ _ _ rfl index hfind
    -- the owner that is stored is the one already there
    have hsame : daemon.setInode index { daemon.inode index with
        iattr := { (daemon.inode index).iattr with uid, gid } } = daemon := by
      rw [← huid, ← hgid]
      exact daemon.setInode_inode index
    have hcreate : Records types (daemon.objectOf 0) daemon
        (hsiNfs3Create plat index name (createMode mode flags) >>= fun result ↦
          replyCreated result.1 result.2 .create) :=
      .bind (records_hsiNfs3Create hcoherent htyped index name _)
        fun _ ↦ within_replyCreated stampTail _ _ _
    refine .of_run_eq ?_ hcreate
    rw [Prog.modifyInode_bind, hsame]
  | link ino newparent newname =>
    refine .ilookup hcoherent (fun parent _ ↦ .ilookup hcoherent (fun index hfind ↦ ?_) (.pure _))
      (.pure _)
    rw [Request.subject, hobject hfind]
    refine .bind (records_hsiNfs3Link hcoherent htyped (hlt hfind) parent newname) fun _ ↦
      .ite (.bind (within_malloc stampBase .entryParam rfl) fun _ ↦ .ite ?_ (hreply _)) (hreply _)
    exact .bind (within_hsxFuseFillReply stampBase _) fun _ ↦ hreply _
  | readdir ino size off =>
    refine .ilookup hcoherent (fun parent hfind ↦ ?_) (.crash trivial)
    rw [Request.subject, hobject hfind]
    exact .bind (records_hsiNfs3Readdir hcoherent htyped (hlt hfind) _ _) fun _ ↦ .ite (hreply _)
      (.bind (within_malloc stampBase .readdirBuf rfl) fun _ ↦ .ite (hreply _) (hreply _))
  | readdirplus ino size off =>
    refine .ilookup hcoherent (fun parent hfind ↦ ?_) (.crash trivial)
    rw [Request.subject, hobject hfind]
    exact .bind (records_hsiNfs3ReaddirPlus hcoherent htyped (hlt hfind) _ _ _) fun _ ↦
      .ite (hreply _)
      (.bind (within_malloc stampBase .readdirBuf rfl) fun _ ↦ .ite
        (.bind (within_packDirentsPlus stampTail.toCountParts plat size _ 0 []) fun _ ↦ hreply _)
        (hreply _))
  | _ => exact absurd rfl hinert

/-! ## Runs -/

/-- The attributes of the root in a mount: those of the `FSINFO` reply, or else of the `GETATTR`
reply after it. -/
def rootReply : Trace → Option Fattr3
  | ⟨.call (.fsinfo _), .done (.ok res)⟩ :: rest => res.objAttributes.or (rootReply rest)
  | ⟨.call (.getattr _), .done (.ok attr)⟩ :: _ => some attr
  | _ => none

/-- The states a mounted daemon reaches by requests one at a time that meet the condition, with the
replies that have been applied. -/
inductive Recorded (plat : Platform) (condition : Daemon → Request → Prop) :
    Daemon → ReplyLog → Prop
  | mounted {fh : NfsFh3} {start daemon daemon' : Daemon} {mount trace : Trace}
      (hheap : start.heap = []) (hfreed : start.freed = [])
      (hfill : ((hsiFillSuper plat fh).run start).Path mount (.done 0 daemon))
      (hinit : (hsxFuseInit.run daemon).Path trace (.done () daemon')) :
      Recorded plat condition daemon' (acquires fh (rootReply mount) true)
  | step {daemon daemon' : Daemon} {log : ReplyLog} {fuel : ℕ} {request : Request} {trace : Trace}
      (hrun : Recorded plat condition daemon log) (hcondition : condition daemon request)
      (hpath : ((handle plat fuel request).run (daemon.setReplies [])).Path trace
        (.done () daemon')) :
      Recorded plat condition daemon' (log ++ request.applied daemon trace)

theorem hsiNfs3Fsinfo_rootReply {plat : Platform} {fh : NfsFh3} {daemon' : Daemon} {front : Trace}
    {fattr : NfsFattr}
    (hpath : ((hsiNfs3Fsinfo plat fh nfsInitFattr).run daemon).Path front
      (.done (0, fattr) daemon'))
    (rest : Trace) : ∃ attr, fattr = postFattr (some attr) ∧
      rootReply (front ++ rest) = some attr := by
  unfold hsiNfs3Fsinfo at hpath
  obtain ⟨outcome, back, rfl, hback⟩ := Prog.path_clntCall_bind.mp hpath
  rcases outcome with ⟨err, hne⟩ | res | ⟨status, hne⟩
  · injection hback.2 with hvalue
    exact absurd (congrArg Prod.fst hvalue).symm hne
  · dsimp only at hback
    rw [Prog.modifySuper_bind] at hback
    cases hattr : res.objAttributes with
    | none =>
      rw [hattr, if_pos (by decide)] at hback
      obtain ⟨outcome, last, rfl, hlast⟩ := hsiNfs3DoGetattr_bind_path hback
      obtain ⟨rfl, heq⟩ := hlast
      rcases outcome with ⟨err, hne⟩ | attr | ⟨status, hne⟩
      · injection heq with hvalue
        exact absurd (congrArg Prod.fst hvalue).symm hne
      · cases heq
        refine ⟨attr, rfl, ?_⟩
        rw [List.cons_append, rootReply, hattr]
        rfl
      · injection heq with hvalue
        exact absurd (congrArg Prod.fst hvalue).symm (hsiNfs3StatToErrno_ne_zero hne)
    | some attr =>
      have hvalid : ¬ (hsiNfs3Post2fattr (some attr) nfsInitFattr).valid &&& nfsAttrFattr = 0 :=
        postFattr_valid_some attr
      rw [hattr, if_neg hvalid] at hback
      obtain ⟨rfl, heq⟩ := hback
      cases heq
      refine ⟨attr, rfl, ?_⟩
      rw [List.cons_append, rootReply, hattr]
      rfl
  · injection hback.2 with hvalue
    exact absurd (congrArg Prod.fst hvalue).symm (hsiNfs3StatToErrno_ne_zero hne)

theorem within_useRoot {root : InodePtr} : (useRoot root).Within Change.apply stampParts := by
  have hsuper (update : HsfsSuper → HsfsSuper) :
      (Prog.modifySuper update).Within Change.apply stampParts :=
    have hmodify : (Program.modify (Change.super update).apply : Prog Unit).Within Change.apply
      stampParts := .modify rfl
    hmodify
  refine .bind (hsuper _) fun _ ↦ .bind (within_deref stampBase _) fun _ ↦
    .bind (within_getInode _) fun _ ↦ .bind (within_assert _ trivial) fun _ ↦ ?_
  refine .bind (within_getInode _) fun _ ↦ within_call ⟨rfl, nofun⟩ (fun _ _ ↦ .pure _)
    (fun _ _ ↦ .pure _) fun _ ↦ .bind (hsuper _) fun _ ↦ .pure _

/-- A mount writes the attributes of the root. -/
theorem hsiFillSuper_view {plat : Platform} {fh : NfsFh3} {start daemon : Daemon} {trace : Trace}
    (hheap : start.heap = []) (hfreed : start.freed = [])
    (hpath : ((hsiFillSuper plat fh).run start).Path trace (.done 0 daemon))
    (hhonest : Honest types (acquires fh (rootReply trace) true)) :
    daemon.view = overlay converted (acquires fh (rootReply trace) true) fun _ ↦ none := by
  unfold hsiFillSuper at hpath
  rw [Prog.modifySuper_bind] at hpath
  obtain ⟨⟨ret, fattr⟩, daemon₁, front, rest, hfsinfo, hrest, rfl⟩ :=
    Program.path_bind_done.mp hpath
  obtain ⟨hcoherent, -⟩ := keeps_hsiNfs3Fsinfo _ _ _ _ _ _ _ hfsinfo
    ((coherent_emptyCache start.sb).congr rfl rfl rfl hheap hfreed)
  have hempty : daemon₁.heap = [] :=
    (untouched_hsiNfs3Fsinfo _ _ _ _ _ _ _ hfsinfo).heap_eq.trans hheap
  have hnone : daemon₁.view = fun _ ↦ none := by
    funext object
    rw [Daemon.view, Daemon.stamps, hempty]
    rfl
  dsimp only at hrest
  split_ifs at hrest with hret
  · injection hrest.2 with hvalue
    exact absurd hvalue.symm hret
  rw [not_not] at hret
  subst hret
  obtain ⟨attr, rfl, hroot⟩ := hsiNfs3Fsinfo_rootReply hfsinfo rest
  rw [hroot] at hhonest ⊢
  obtain ⟨root, daemon₂, middle, last, hfhget, huse, rfl⟩ := Program.path_bind_done.mp hrest
  rw [hsiNfsFhget_path_iff plat hcoherent.live] at hfhget
  rw [if_neg (by rw [hfhget.isErr_eq_false plat]; decide)] at huse
  cases root with
  | null => cases huse.2
  | err _ => cases huse.2
  | obj index =>
    have hview := hfhget.view_eq hcoherent (fun object attrs h ↦ by rw [hnone] at h; cases h)
      hhonest
    rw [hnone] at hview
    exact (view_within within_useRoot huse).trans hview

/-- In every state of a run in which files are created by the owners of their directories, the table
holds what the last replies have written. -/
theorem Recorded.view_eq {plat : Platform} {log : ReplyLog}
    (hrun : Recorded plat OwnerKept daemon log) (hhonest : Honest types log) :
    Coherent daemon ∧ daemon.view = overlay converted log fun _ ↦ none := by
  induction hrun with
  | @mounted fh start daemon daemon' mount trace hheap hfreed hfill hinit =>
    have hmounted := (hsiFillSuper_done hheap hfreed hfill).2.1 rfl
    have hwithin : hsxFuseInit.Within Change.apply stampParts :=
      .bind .get fun _ ↦ .bind (within_hsxFuseRefXchg stampTail.toCountParts _ 1) fun _ ↦
        within_assert _ trivial
    have hview := (view_within hwithin hinit).trans (hsiFillSuper_view hheap hfreed hfill hhonest)
    exact ⟨(covered_init hmounted hinit).coherent, hview⟩
  | @step daemon daemon' log fuel request trace hprev howner hpath ih =>
    rw [honest_append] at hhonest
    obtain ⟨hcoherent, hview⟩ := ih hhonest.1
    have hnone : Typed types fun _ ↦ none := nofun
    have htyped : Typed types daemon.view := hview ▸ hnone.overlay hhonest.1
    have hcoherent₀ := hcoherent.setReplies []
    refine ⟨(kept_handle plat fuel request _ _ _ _ hpath hcoherent₀).1, ?_⟩
    have hrecords := records_handle hcoherent₀ htyped plat fuel howner trace () daemon' [] hpath
      (List.forall_mem_nil _)
    rw [List.append_nil] at hrecords
    rw [overlay_append, ← hview]
    exact hrecords hhonest.2

/-- The server has never reported two types for one object. -/
def TypesFixed (log : ReplyLog) : Prop :=
  ∀ entry ∈ log, ∀ other ∈ log, entry.1 = other.1 → entry.2.type = other.2.type

theorem TypesFixed.exists_honest {log : ReplyLog} (h : TypesFixed log) :
    ∃ types, Honest types log := by
  refine ⟨fun object ↦ (latest log object).elim 0 (·.type), fun entry hmem ↦ ?_⟩
  cases hlatest : latest log entry.1 with
  | none => exact absurd rfl (latest_eq_none_iff.mp hlatest entry hmem)
  | some attr =>
    dsimp only
    rw [hlatest]
    exact h entry hmem _ (mem_of_latest_eq_some hlatest) rfl

/-- A remote call that failed, or another question. -/
def CallFailed : Event EnvAns → Prop
  | ⟨.call _, outcome⟩ => statusOf outcome ≠ 0
  | _ => True

theorem appliedBy_of_failed {event : Event EnvAns} (h : CallFailed event) (target : ServerObject)
    (rest : Trace) : appliedBy target rest event = [] := by
  unfold appliedBy
  split <;> first | rfl | exact absurd rfl h

/-- A request whose calls all fail applies nothing. -/
theorem applied_of_failed {trace : Trace} (h : ∀ event ∈ trace, CallFailed event)
    (target : ServerObject) : applied target trace = [] := by
  induction trace generalizing target with
  | nil => rfl
  | cons event rest ih =>
    rw [List.forall_mem_cons] at h
    rw [applied, appliedBy_of_failed h.1, ih h.2, List.append_nil]

/-- What one request leaves of a cached inode: it stays the same object of the same format, and
nothing but a reply applied to it changes its attributes. -/
structure AttrsKept (daemon : Daemon) (request : Request) (trace : Trace) (daemon' : Daemon)
    (index : ℕ) : Prop where
  object_eq : (daemon'.inode index).object = (daemon.inode index).object
  format_eq : (daemon'.inode index).iattr.mode &&& sIfmt = (daemon.inode index).iattr.mode &&& sIfmt
  attrs_eq_of_not_applied : (∀ entry ∈ request.applied daemon trace,
    entry.1 ≠ (daemon.inode index).object) →
      (daemon'.inode index).attrs = (daemon.inode index).attrs
  attrs_eq_of_failed : (∀ event ∈ trace, CallFailed event) →
    (daemon'.inode index).attrs = (daemon.inode index).attrs

/-- A step that keeps what every inode caches. -/
def SameObjects (daemon daemon' : Daemon) : Prop :=
  Coherent daemon → Coherent daemon' ∧ daemon.heap.length ≤ daemon'.heap.length ∧
    ∀ index < daemon.heap.length, (daemon'.inode index).object = (daemon.inode index).object

instance : Std.Refl SameObjects := ⟨fun _ h ↦ ⟨h, le_rfl, fun _ _ ↦ rfl⟩⟩

instance : IsTrans Daemon SameObjects where
  trans daemon₁ daemon₂ daemon₃ h h' hcoherent := by
    obtain ⟨hcoherent₂, hle, hobject⟩ := h hcoherent
    obtain ⟨hcoherent₃, hle', hobject'⟩ := h' hcoherent₂
    refine ⟨hcoherent₃, hle.trans hle', fun index hlt ↦ ?_⟩
    exact (hobject' index (hlt.trans_le hle)).trans (hobject index hlt)

theorem allows_sameObjects : Allows SameObjects where
  quiet daemon daemon' hquiet hcoherent := by
    obtain ⟨hcoherent', hgrows, -⟩ := hquiet hcoherent
    refine ⟨hcoherent', hgrows.length_le, fun index hlt ↦ ?_⟩
    have hfileid := hgrows.fileid_eq index hlt
    have hfh := hgrows.fh_eq index hlt
    exact congrArg₂ ServerObject.mk hfileid hfh
  count daemon index priv hcoherent := by
    refine ⟨hcoherent.setCount index priv, (Daemon.setInode_length _ _ _).ge, fun other _ ↦ ?_⟩
    apply Daemon.inode_setInode_proj NfsInode.object
    rfl
  reply daemon replies hcoherent := ⟨hcoherent.setReplies replies, le_rfl, fun _ _ ↦ rfl⟩

/-- The last reply that was applied to a cached inode is where its attributes come from. -/
theorem Recorded.attrs_eq {plat : Platform} {log : ReplyLog}
    (hrun : Recorded plat OwnerKept daemon log) (hserver : TypesFixed log) {index : ℕ}
    (hlt : index < daemon.heap.length) :
    ∃ attr, latest log (daemon.inode index).object = some attr ∧
      (daemon.inode index).attrs = converted attr := by
  obtain ⟨types, hhonest⟩ := hserver.exists_honest
  obtain ⟨hcoherent, hview⟩ := hrun.view_eq hhonest
  have hcached := hcoherent.view_object hlt
  rw [hview, overlay, Option.or_none, Option.map_eq_some_iff] at hcached
  obtain ⟨attr, hlatest, heq⟩ := hcached
  exact ⟨attr, hlatest, heq.symm⟩

/-- In every run of requests of which those that create a file come from the owner of the directory,
against a server that never changes the type of an object: the attributes of every cached inode are
those of the last reply that was applied to it, and every further such request leaves each inode as
`AttrsKept` says. -/
theorem cached_attrs_from_replies (plat : Platform) (daemon : Daemon) (log : ReplyLog)
    (hrun : Recorded plat OwnerKept daemon log) (hserver : TypesFixed log) :
    (∀ index ∈ daemon.hashed, ∃ attr, latest log (daemon.inode index).object = some attr ∧
      (daemon.inode index).attrs = converted attr) ∧
    ∀ fuel request trace daemon', OwnerKept daemon request →
      ((handle plat fuel request).run (daemon.setReplies [])).Path trace (.done () daemon') →
      TypesFixed (log ++ request.applied daemon trace) →
      ∀ index ∈ daemon.hashed, AttrsKept daemon request trace daemon' index := by
  obtain ⟨types, hhonest⟩ := hserver.exists_honest
  obtain ⟨hcoherent, -⟩ := hrun.view_eq hhonest
  refine ⟨fun index hmem ↦ hrun.attrs_eq hserver ((hcoherent.mem_hashed_iff index).mp hmem), ?_⟩
  intro fuel request trace daemon' howner hpath hserver' index hmem
  have hlt := (hcoherent.mem_hashed_iff index).mp hmem
  obtain ⟨-, hle, hobjects⟩ := respects_handle allows_sameObjects plat fuel request _ _ _ _ hpath
    (hcoherent.setReplies [])
  have hobject : (daemon'.inode index).object = (daemon.inode index).object := hobjects index hlt
  obtain ⟨attr, hlatest, hattrs⟩ := hrun.attrs_eq hserver hlt
  obtain ⟨attr', hlatest', hattrs'⟩ := (hrun.step howner hpath).attrs_eq hserver' (hlt.trans_le hle)
  rw [hobject] at hlatest'
  have hunchanged (h : latest (request.applied daemon trace) (daemon.inode index).object = none) :
      (daemon'.inode index).attrs = (daemon.inode index).attrs := by
    rw [latest_append, h, Option.none_or, hlatest] at hlatest'
    cases hlatest'
    rw [hattrs, hattrs']
  refine ⟨hobject, ?_, fun h ↦ hunchanged (latest_eq_none_iff.mpr h), fun h ↦ hunchanged ?_⟩
  · have htype : attr'.type = attr.type := hserver' _ (mem_of_latest_eq_some hlatest') _
      (List.mem_append_left _ (mem_of_latest_eq_some hlatest)) rfl
    change (daemon'.inode index).attrs.mode &&& sIfmt = (daemon.inode index).attrs.mode &&& sIfmt
    rw [hattrs, hattrs', converted_format, converted_format, htype]
  · rw [Request.applied, applied_of_failed h]
    rfl

end

/-- The replies applied in the mount of `rootFilled`. -/
def rootLog : ReplyLog := [(⟨1, ⟨1, [1]⟩⟩, rootAttr)]

theorem typesFixed_rootLog : TypesFixed rootLog := by
  intro entry hentry other hother _
  rw [List.mem_singleton.mp hentry, List.mem_singleton.mp hother]

/-- After that mount the server denies a user to create `f` in the root. No reply is applied, and
the root takes the owner and the group of the request. -/
theorem denied_recorded (condition : Daemon → Request → Prop) (uid gid : UInt32)
    (hcondition : ∀ daemon : Daemon, daemon.findIno 1 = some 0 →
      (daemon.inode 0).attrs = converted rootAttr →
        condition daemon (.create 1 [102] 0o644 0 uid gid)) :
    ∃ daemon, Recorded linuxHost condition daemon rootLog ∧ 0 ∈ daemon.hashed ∧
      (daemon.inode 0).object = ⟨1, ⟨1, [1]⟩⟩ ∧
      (daemon.inode 0).attrs = { converted rootAttr with uid, gid } := by
  have hmounted := @Recorded.mounted linuxHost condition ⟨[1], rootHandle_fits⟩ .initial _ _
    rootFilled [] rfl rfl ⟨_, _, rfl, true, _, rfl, _, _, rfl, rfl, rfl⟩ ⟨rfl, rfl⟩
  have hdenied := @Recorded.step linuxHost condition _ _ _ 0 (.create 1 [102] 0o644 0 uid gid)
    [⟨.call (.create ⟨[1], [102]⟩ (.unchecked
      ⟨some 0o644, some uid, some gid, none, .setToServerTime, .setToServerTime⟩)),
      RpcOutcome.done (.fail 13 (by decide))⟩] hmounted (hcondition _ rfl rfl) ⟨_, _, rfl, rfl, rfl⟩
  exact ⟨_, hdenied, ⟨hashMin 1, List.mem_singleton_self 0⟩, rfl, rfl⟩

/-- A request of the owner of the root leaves the attributes that the mount has reported. -/
theorem owner_denied_attrs_kept :
    ∃ daemon, Recorded linuxHost OwnerKept daemon rootLog ∧ TypesFixed rootLog ∧
      0 ∈ daemon.hashed ∧ (daemon.inode 0).attrs = converted rootAttr := by
  obtain ⟨daemon, hrun, hmem, hobject, -⟩ := denied_recorded OwnerKept 0 0 <| by
    intro daemon hfind hattrs parent name mode flags uid gid hrequest index hindex
    cases hrequest
    rw [hfind] at hindex
    cases hindex
    exact ⟨congrArg CachedAttrs.uid hattrs, congrArg CachedAttrs.gid hattrs⟩
  obtain ⟨attr, hlatest, hattrs⟩ := (cached_attrs_from_replies linuxHost daemon rootLog hrun
    typesFixed_rootLog).1 0 hmem
  rw [hobject] at hlatest
  cases hlatest
  exact ⟨daemon, hrun, typesFixed_rootLog, hmem, hattrs⟩

/-- A request of user 1000 leaves the root with an owner that no reply has reported. -/
theorem denied_owner_unreported :
    ∃ daemon, Recorded linuxHost (fun _ _ ↦ True) daemon rootLog ∧ TypesFixed rootLog ∧
      0 ∈ daemon.hashed ∧ latest rootLog (daemon.inode 0).object = some rootAttr ∧
      (daemon.inode 0).attrs ≠ converted rootAttr := by
  obtain ⟨daemon, hrun, hmem, hobject, hattrs⟩ :=
    denied_recorded (fun _ _ ↦ True) 1000 1000 fun _ _ _ ↦ trivial
  refine ⟨daemon, hrun, typesFixed_rootLog, hmem, by rw [hobject]; rfl, ?_⟩
  rw [hattrs]
  decide

end NfsFuse
