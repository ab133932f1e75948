import Mathlib.Data.List.TakeWhile
import NfsFuse.Fuse.ObjectReplies
import NfsFuse.Fuse.Forwarding

/-!
# Inode numbers and the objects they stand for

The kernel speaks about files by the numbers that it has been given, the server by handles.  A
number that `hsx_fuse_lookup` or one of the creating handlers gives to the kernel stands for the
object whose handle the server has just returned, and it stands for that object in every state that
requests reach from there, whatever they are.  So a text that was stored in a symbolic link is what
`hsx_fuse_readlink` returns for its number, however many requests lie between.

Requests are handled one at a time; two lookups that overlap can give two numbers to one object.
-/

namespace NfsFuse

open Lib

section Numbers

-- `hsi_nfs_fhget` is only used through the list of its runs
attribute [local irreducible] hsiNfsFhget

/-- The number stands for the object with this handle and this file id. -/
def Daemon.Denotes (daemon : Daemon) (ino : UInt64) (object : NfsFh3) (fileid : UInt64) : Prop :=
  ∃ index < daemon.heap.length, (daemon.inode index).ino = ino ∧
    (daemon.inode index).fh = nfsCopyFh3 object ∧ (daemon.inode index).fileid = fileid

/-- The walk through the table finds the object. -/
theorem Daemon.Denotes.findIno {daemon : Daemon} {ino fileid : UInt64} {object : NfsFh3}
    (h : daemon.Denotes ino object fileid) (hcoherent : Coherent daemon) :
    ∃ index, daemon.findIno ino = some index ∧
      hsiNfs3Getfh3 (daemon.inode index) = object.data ∧ (daemon.inode index).fileid = fileid := by
  obtain ⟨index, hlt, hino, hfh, hfileid⟩ := h
  exact ⟨index, (hcoherent.findIno_eq_some_iff ino index).mpr ⟨hlt, hino⟩,
    hsiNfs3Getfh3_copied hfh, hfileid⟩

/-- The inodes keep their numbers, file ids and handles. -/
structure SameIdentities (daemon daemon' : Daemon) : Prop where
  length_le : daemon.heap.length ≤ daemon'.heap.length
  ino_eq : ∀ index < daemon.heap.length, (daemon'.inode index).ino = (daemon.inode index).ino
  fileid_eq : ∀ index < daemon.heap.length,
    (daemon'.inode index).fileid = (daemon.inode index).fileid
  fh_eq : ∀ index < daemon.heap.length, (daemon'.inode index).fh = (daemon.inode index).fh

theorem SameIdentities.trans {daemon₁ daemon₂ daemon₃ : Daemon} (h : SameIdentities daemon₁ daemon₂)
    (h' : SameIdentities daemon₂ daemon₃) : SameIdentities daemon₁ daemon₃ where
  length_le := h.length_le.trans h'.length_le
  ino_eq index hlt := (h'.ino_eq index (hlt.trans_le h.length_le)).trans (h.ino_eq index hlt)
  fileid_eq index hlt :=
    (h'.fileid_eq index (hlt.trans_le h.length_le)).trans (h.fileid_eq index hlt)
  fh_eq index hlt := (h'.fh_eq index (hlt.trans_le h.length_le)).trans (h.fh_eq index hlt)

/-- References are counted without touching what identifies an inode. -/
theorem sameIdentities_setCount (daemon : Daemon) (index : ℕ) (priv : UInt64) :
    SameIdentities daemon
      (daemon.setInode index { daemon.inode index with priv := priv }) where
  length_le := (Daemon.setInode_length _ _ _).ge
  ino_eq other _ := by
    apply Daemon.inode_setInode_proj NfsInode.ino
    rfl
  fileid_eq other _ := by
    apply Daemon.inode_setInode_proj NfsInode.fileid
    rfl
  fh_eq other _ := by
    apply Daemon.inode_setInode_proj NfsInode.fh
    rfl

/-- A number stands for its object as long as inodes keep what identifies them. -/
theorem Daemon.Denotes.mono {daemon daemon' : Daemon} {ino fileid : UInt64} {object : NfsFh3}
    (h : daemon.Denotes ino object fileid) (hsame : SameIdentities daemon daemon') :
    daemon'.Denotes ino object fileid := by
  obtain ⟨index, hlt, heq, hfh, hfileid⟩ := h
  exact ⟨index, hlt.trans_le hsame.length_le, (hsame.ino_eq index hlt).trans heq,
    (hsame.fh_eq index hlt).trans hfh, (hsame.fileid_eq index hlt).trans hfileid⟩

/-- A coherent cache stays one, and its inodes keep what identifies them. -/
def KeepsIdentities (daemon daemon' : Daemon) : Prop :=
  Coherent daemon → Coherent daemon' ∧ SameIdentities daemon daemon'

instance : Std.Refl KeepsIdentities :=
  ⟨fun _ h ↦ ⟨h, le_rfl, fun _ _ ↦ rfl, fun _ _ ↦ rfl, fun _ _ ↦ rfl⟩⟩

instance : IsTrans Daemon KeepsIdentities where
  trans daemon₁ daemon₂ daemon₃ h h' hcoherent := by
    obtain ⟨hcoherent₂, hsame⟩ := h hcoherent
    obtain ⟨hcoherent₃, hsame'⟩ := h' hcoherent₂
    exact ⟨hcoherent₃, hsame.trans hsame'⟩

theorem allows_keepsIdentities : Allows KeepsIdentities where
  quiet daemon daemon' hquiet hcoherent := by
    obtain ⟨hcoherent', hgrows, -⟩ := hquiet hcoherent
    exact ⟨hcoherent', hgrows.length_le, hgrows.ino_eq, hgrows.fileid_eq, hgrows.fh_eq⟩
  count daemon index priv hcoherent :=
    ⟨hcoherent.setCount index priv, sameIdentities_setCount daemon index priv⟩
  reply daemon replies hcoherent :=
    ⟨hcoherent.setReplies replies, le_rfl, fun _ _ ↦ rfl, fun _ _ ↦ rfl, fun _ _ ↦ rfl⟩

/-- No request changes what identifies an inode. -/
theorem keepsIdentities_handle (plat : Platform) (fuel : ℕ) (request : Request) :
    (handle plat fuel request).Respects KeepsIdentities :=
  respects_handle allows_keepsIdentities plat fuel request

/-- The inode behind the pointer is that of the object that the server's reply names. -/
structure HoldsNamed (trace : Trace) (index : ℕ) (daemon : Daemon) : Prop where
  coherent : Coherent daemon
  lt_length : index < daemon.heap.length
  named : ∃ object attributes, trace.findSome? namedObject = some (some object, some attributes) ∧
    (daemon.inode index).fh = nfsCopyFh3 object ∧ (daemon.inode index).fileid = attributes.fileid

/-- The procedure returns inodes of objects that the server's reply names. -/
def ReturnsNamed (program : Prog (ℤ × InodePtr)) : Prop :=
  ∀ daemon trace index daemon', Coherent daemon →
    (program.run daemon).Path trace (.done (0, .obj index) daemon') →
    HoldsNamed trace index daemon'

section Procedures

variable {plat : Platform} {daemon daemon' : Daemon} {trace : Trace} {index : ℕ}

/-- An inode is returned only for attributes that came with the handle. -/
theorem hsiNfsFhget_obj (hcoherent : Coherent daemon) {object : NfsFh3} {post : Option Fattr3}
    (hpath : ((hsiNfsFhget plat (nfsCopyFh3 object) (postFattr post)).run daemon).Path trace
      (.done (.obj index) daemon')) :
    ∃ attributes, post = some attributes ∧ Coherent daemon' ∧ index < daemon'.heap.length ∧
      (daemon'.inode index).fh = nfsCopyFh3 object ∧
      (daemon'.inode index).fileid = attributes.fileid := by
  rw [hsiNfsFhget_path_iff plat hcoherent.live] at hpath
  obtain ⟨⟨hcoherent', -⟩, hptr, -⟩ := hcoherent.fhget (nfsCopyFh3_wellFormed object) hpath
  obtain ⟨hlt, hfileid, hfh⟩ := hptr index rfl
  have hattr : (postFattr post).Acquirable := by
    cases hpath with
    | hit hattr => exact hattr
    | entered hattr => exact hattr
  obtain ⟨attributes, rfl, -⟩ := (postFattr_acquirable_iff post).mp hattr
  exact ⟨attributes, rfl, hcoherent', hlt, hfh, hfileid⟩

theorem hsiNfs3HandleCreate_obj (hcoherent : Coherent daemon) {res : Diropres3ok}
    (hpath : ((hsiNfs3HandleCreate plat res).run daemon).Path trace (.done (.obj index) daemon')) :
    ∃ object attributes, res.obj = some object ∧ res.objAttributes = some attributes ∧
      Coherent daemon' ∧ index < daemon'.heap.length ∧
      (daemon'.inode index).fh = nfsCopyFh3 object ∧
      (daemon'.inode index).fileid = attributes.fileid := by
  unfold hsiNfs3HandleCreate at hpath
  split at hpath
  · rw [errPtr_enoent plat daemon] at hpath
    cases hpath.2
  · rename_i object hobject
    obtain ⟨attributes, hpost, hrest⟩ := hsiNfsFhget_obj hcoherent hpath
    exact ⟨object, attributes, hobject, hpost, hrest⟩

/-- A procedure that ends without an object does not return one. -/
theorem not_path_null {err : ℤ} :
    ¬ ((pure (err, .null) : Prog (ℤ × InodePtr)).run daemon).Path trace
      (.done (0, .obj index) daemon') := by
  intro hpath
  cases (Prod.mk.inj (Ending.done.inj hpath.2).1).2

/-- The end of the creating procedures hands on the object of the call. -/
theorem finishCreate_holdsNamed (hcoherent : Coherent daemon) {event : Event EnvAns}
    {outcome : RpcOutcome Diropres3ok} (hevent : Names event outcome) {before : Trace}
    (hbefore : ∀ event ∈ before, namedObject event = none)
    (hpath : ((finishCreate plat outcome).run daemon).Path trace
      (.done (0, .obj index) daemon')) : HoldsNamed (before ++ event :: trace) index daemon' := by
  match outcome with
  | .fail err hne => exact (not_path_null hpath).elim
  | .done (.fail status hne) => exact (not_path_null hpath).elim
  | .done (.ok res) =>
    obtain ⟨new, daemon₁, front, rest, hcreate, hrest, rfl⟩ := Program.path_bind_done.mp hpath
    split_ifs at hrest with herr
    · exact (not_path_null hrest).elim
    · cases hrest.2
      obtain ⟨object, attributes, hobject, hpost, hcoherent', hlt, hsame⟩ :=
        hsiNfs3HandleCreate_obj hcoherent hcreate
      have hfound : (before ++ event :: (front ++ rest)).findSome? namedObject =
          some (res.obj, res.objAttributes) := hevent.findSome hbefore _
      rw [hobject, hpost] at hfound
      exact ⟨hcoherent', hlt, object, attributes, hfound, hsame⟩

end Procedures

theorem returnsNamed_hsiNfs3Lookup (plat : Platform) (parent : ℕ) (name : CString) :
    ReturnsNamed (hsiNfs3Lookup plat parent name) := by
  intro daemon trace index daemon' hcoherent hpath
  unfold hsiNfs3Lookup at hpath
  rw [Prog.getInode_bind] at hpath
  obtain ⟨outcome, rest, rfl, hrest⟩ := Prog.path_clntCall_bind.mp hpath
  match outcome with
  | .fail err hne => exact (not_path_null hrest).elim
  | .done (.fail status hne) => exact (not_path_null hrest).elim
  | .done (.ok res) =>
    obtain ⟨new, daemon₁, front, back, hfhget, hback, rfl⟩ := Program.path_bind_done.mp hrest
    cases hback.2
    obtain ⟨attributes, hpost, hcoherent', hlt, hsame⟩ := hsiNfsFhget_obj hcoherent hfhget
    refine ⟨hcoherent', hlt, res.object, attributes, ?_, hsame⟩
    rw [← hpost]
    rfl

theorem returnsNamed_hsiNfs3Mkdir (plat : Platform) (parent : ℕ) (name : CString) (mode : UInt32) :
    ReturnsNamed (hsiNfs3Mkdir plat parent name mode) := by
  intro daemon trace index daemon' hcoherent hpath
  unfold hsiNfs3Mkdir at hpath
  rw [Prog.getInode_bind] at hpath
  obtain ⟨outcome, rest, rfl, hrest⟩ := Prog.path_clntCall_bind.mp hpath
  have hnames : Names ⟨.call (.mkdir _ _), outcome⟩ outcome :=
    .of (fun outcome ↦ ⟨.call (.mkdir _ _), outcome⟩) (fun _ ↦ offCache_call _ _) (fun _ _ ↦ rfl)
      (fun _ _ ↦ rfl) (fun _ ↦ rfl) outcome
  exact finishCreate_holdsNamed hcoherent hnames (List.forall_mem_nil _) hrest

theorem returnsNamed_hsiNfs3Symlink (plat : Platform) (parent : ℕ) (link name : CString) :
    ReturnsNamed (hsiNfs3Symlink plat parent link name) := by
  intro daemon trace index daemon' hcoherent hpath
  unfold hsiNfs3Symlink at hpath
  rw [Prog.getInode_bind] at hpath
  obtain ⟨outcome, rest, rfl, hrest⟩ := Prog.path_clntCall_bind.mp hpath
  have hnames : Names ⟨.call (.symlink _ _ _), outcome⟩ outcome :=
    .of (fun outcome ↦ ⟨.call (.symlink _ _ _), outcome⟩) (fun _ ↦ offCache_call _ _)
      (fun _ _ ↦ rfl) (fun _ _ ↦ rfl) (fun _ ↦ rfl) outcome
  exact finishCreate_holdsNamed hcoherent hnames (List.forall_mem_nil _) hrest

theorem returnsNamed_hsiNfs3Mknod (plat : Platform) (parent : ℕ) (name : CString) (mode : UInt32)
    (rdev : UInt64) : ReturnsNamed (hsiNfs3Mknod plat parent name mode rdev) := by
  intro daemon trace index daemon' hcoherent hpath
  unfold hsiNfs3Mknod at hpath
  split_ifs at hpath with hlong
  · exact (not_path_null hpath).elim
  rw [copyName_bind_run] at hpath
  obtain ⟨granted, rest, rfl, hrest⟩ := hpath
  dsimp only at hrest
  split_ifs at hrest with hfits hgranted
  · cases hrest.2
  · rw [Prog.getInode_bind] at hrest
    obtain ⟨outcome, back, rfl, hback⟩ := Prog.path_clntCall_bind.mp hrest
    have hnames : Names ⟨.call (.mknod _ _), outcome⟩ outcome :=
      .of (fun outcome ↦ ⟨.call (.mknod _ _), outcome⟩) (fun _ ↦ offCache_call _ _)
        (fun _ _ ↦ rfl) (fun _ _ ↦ rfl) (fun _ ↦ rfl) outcome
    have hsilent : ∀ event ∈ [(⟨.malloc .mknodName, granted⟩ : Event EnvAns)],
        namedObject event = none := List.forall_mem_singleton.mpr rfl
    exact finishCreate_holdsNamed hcoherent hnames hsilent hback
  · exact (not_path_null hrest).elim

theorem returnsNamed_hsiNfs3Create (plat : Platform) (parent : ℕ) (name : CString) (mode : UInt32) :
    ReturnsNamed (hsiNfs3Create plat parent name mode) := by
  intro daemon trace index daemon' hcoherent hpath
  unfold hsiNfs3Create at hpath
  rw [Prog.getInode_bind] at hpath
  obtain ⟨outcome, rest, rfl, hrest⟩ := Prog.path_clntCall_bind.mp hpath
  match outcome with
  | .fail err hne => exact (not_path_null hrest).elim
  | .done (.fail status hne) => exact (not_path_null hrest).elim
  | .done (.ok res) =>
    obtain ⟨new, daemon₁, front, back, hcreate, hback, rfl⟩ := Program.path_bind_done.mp hrest
    split_ifs at hback with herr hexclusive
    · exact (not_path_null hback).elim
    · -- The attributes that follow an exclusive create leave number and handle alone.
      obtain ⟨status, daemon₂, middle, last, hsetattr, hdone, rfl⟩ :=
        Program.path_bind_done.mp hback
      cases hdone.2
      obtain ⟨object, attributes, hobject, hpost, hcoherent₁, hlt, hfh, hfileid⟩ :=
        hsiNfs3HandleCreate_obj hcoherent hcreate
      obtain ⟨hcoherent', hgrows⟩ := keeps_exclusiveSetattr _ _ _ _ _ _ hsetattr hcoherent₁
      refine ⟨hcoherent', hlt.trans_le hgrows.length_le, object, attributes, ?_,
        (hgrows.fh_eq index hlt).trans hfh, (hgrows.fileid_eq index hlt).trans hfileid⟩
      rw [← hobject, ← hpost]
      rfl
    · cases hback.2
      obtain ⟨object, attributes, hobject, hpost, hcoherent', hlt, hsame⟩ :=
        hsiNfs3HandleCreate_obj hcoherent hcreate
      refine ⟨hcoherent', hlt, object, attributes, ?_, hsame⟩
      rw [← hobject, ← hpost]
      rfl

/-- The entry of a reply that gives one. -/
def FuseReply.entered : FuseReply → Option FuseEntryParam
  | .entry param => some param
  | .create param => some param
  | _ => none

/-- A handler that gives the kernel an entry for the object that the server's reply names. -/
def EntersNamed (program : Prog Unit) : Prop :=
  ∀ daemon trace daemon' reply param, Coherent daemon →
    (program.run daemon).Path trace (.done () daemon') →
    daemon'.replies = daemon.replies ++ [reply] → reply.entered = some param →
    ∃ object attributes, trace.findSome? namedObject = some (some object, some attributes) ∧
      daemon'.Denotes param.ino object attributes.fileid

theorem entersNamed_pure : EntersNamed (pure ()) := by
  intro daemon trace daemon' reply param _ hpath hreplies
  cases hpath.2
  simp at hreplies

/-- An error gives no entry. -/
theorem not_entered_err {error : ℤ} {daemon daemon' : Daemon} {trace : Trace} {reply : FuseReply}
    {param : FuseEntryParam}
    (hpath : ((Prog.reply (.err error)).run daemon).Path trace (.done () daemon'))
    (hreplies : daemon'.replies = daemon.replies ++ [reply]) : reply.entered ≠ some param := by
  cases hpath.2
  cases List.append_cancel_left hreplies
  exact nofun

theorem entersNamed_err (error : ℤ) : EntersNamed (Prog.reply (.err error)) :=
  fun _ _ _ _ _ _ hpath hreplies hentered ↦
    (not_entered_err hpath hreplies hentered).elim

/-- A handler that begins by looking up its directory. -/
theorem entersNamed_ilookup {ino : UInt64} {found : ℕ → Prog Unit} {missing : Prog Unit}
    (hfound : ∀ index, EntersNamed (found index)) (hmissing : EntersNamed missing) :
    EntersNamed (hsfsIlookup ino >>= fun ptr ↦ match ptr with
      | .obj index => found index
      | _ => missing) := by
  intro daemon trace daemon' reply param hcoherent hpath
  rw [Program.bind_run, hsfsIlookup_run hcoherent.live] at hpath
  cases hfind : daemon.findIno ino with
  | none =>
    rw [hfind] at hpath
    exact hmissing daemon trace daemon' reply param hcoherent hpath
  | some index =>
    rw [hfind] at hpath
    exact hfound index daemon trace daemon' reply param hcoherent hpath

/-- The entry of an inode that holds a named object, after its references have been counted. -/
theorem HoldsNamed.entered {front rest : Trace} {index : ℕ} {daemon : Daemon}
    (h : HoldsNamed front index daemon) (priv : UInt64) (replies : List FuseReply) :
    ∃ object attributes,
      (front ++ rest).findSome? namedObject = some (some object, some attributes) ∧
      ((daemon.setInode index { daemon.inode index with priv := priv }).setReplies
        replies).Denotes (daemon.inode index).ino object attributes.fileid := by
  obtain ⟨object, attributes, hfound, hsame⟩ := h.named
  refine ⟨object, attributes, ?_, ?_⟩
  · rw [List.findSome?_append, hfound]
    rfl
  · have hdenotes : daemon.Denotes (daemon.inode index).ino object attributes.fileid :=
      ⟨index, h.lt_length, rfl, hsame⟩
    have hcounted := hdenotes.mono (sameIdentities_setCount daemon index priv)
    exact hcounted

/-- A handler behind a procedure that returns inodes of named objects: what it does with an inode
decides, because an error gives no entry. -/
theorem entersNamed_procedure {procedure : Prog (ℤ × InodePtr)} (hnamed : ReturnsNamed procedure)
    (hkeeps : procedure.Respects KeepsCoherent) {success : InodePtr → Prog Unit}
    (hobj : ∀ front index daemon rest daemon' reply param, HoldsNamed front index daemon →
      ((success (.obj index)).run daemon).Path rest (.done () daemon') →
      daemon'.replies = daemon.replies ++ [reply] → reply.entered = some param →
      ∃ object attributes,
        (front ++ rest).findSome? namedObject = some (some object, some attributes) ∧
        daemon'.Denotes param.ino object attributes.fileid)
    (herr : ∀ error daemon trace daemon',
      ¬ ((success (.err error)).run daemon).Path trace (.done () daemon')) :
    EntersNamed (procedure >>= fun result ↦
      if result.1 ≠ 0 then Prog.reply (.err result.1)
      else match result.2 with
        | .null => Prog.reply (.err enomem)
        | new => success new) := by
  intro daemon trace daemon' reply param hcoherent hpath hreplies hentered
  obtain ⟨⟨err, new⟩, daemon₁, front, rest, hfront, hrest, rfl⟩ :=
    Program.path_bind_done.mp hpath
  obtain ⟨hcoherent₁, hgrows⟩ := hkeeps _ _ _ _ hfront hcoherent
  rw [← hgrows.replies_eq] at hreplies
  dsimp only at hrest
  split_ifs at hrest with hstatus
  · exact (not_entered_err hrest hreplies hentered).elim
  rw [not_not.mp hstatus] at hfront
  cases new with
  | null => exact (not_entered_err hrest hreplies hentered).elim
  | err error => exact (herr _ _ _ _ hrest).elim
  | obj index =>
    exact hobj _ _ _ _ _ _ _ (hnamed _ _ _ _ hcoherent hfront) hrest hreplies hentered

/-- The end of the creating handlers behind a procedure. -/
theorem entersNamed_created {procedure : Prog (ℤ × InodePtr)} (hnamed : ReturnsNamed procedure)
    (hkeeps : procedure.Respects KeepsCoherent) (success : FuseEntryParam → FuseReply)
    (hsuccess : ∀ param, (success param).entered = some param) :
    EntersNamed (procedure >>= fun result ↦ match result with
      | (err, new) => replyCreated err new success) := by
  refine entersNamed_procedure hnamed hkeeps ?_ ?_
  · intro front index daemon rest daemon' reply param hholds hrest hreplies hentered
    rw [Program.bind_run, countCreated_obj_run hholds.coherent hholds.lt_length] at hrest
    split_ifs at hrest with hpriv
    · obtain ⟨rfl, heq⟩ := hrest
      cases heq
      cases List.append_cancel_left hreplies
      rw [hsuccess] at hentered
      cases hentered
      exact hholds.entered 1 _
    · cases hrest.2
  · intro error daemon trace daemon' hrest
    cases hrest.2

theorem entersNamed_hsxFuseLookup (plat : Platform) (parent : UInt64) (name : CString) :
    EntersNamed (hsxFuseLookup plat parent name) := by
  apply entersNamed_ilookup _ (entersNamed_err _)
  intro index
  refine entersNamed_procedure (returnsNamed_hsiNfs3Lookup plat index name)
    (keeps_hsiNfs3Lookup plat index name) ?_ ?_
  · intro front child daemon rest daemon' reply param hholds hrest hreplies hentered
    have hcounted := hholds.coherent.setCount child ((daemon.inode child).priv + 1)
    rw [Program.bind_run_of_ret (hsxFuseRefInc_obj_run hholds.coherent child 1),
      Program.bind_run_of_ret (hsxFuseFillReply_obj_run hcounted child),
      Daemon.inode_setInode_self hholds.lt_length] at hrest
    obtain ⟨rfl, heq⟩ := hrest
    cases heq
    cases List.append_cancel_left hreplies
    cases hentered
    exact hholds.entered _ _
  · intro error daemon trace daemon' hrest
    cases hrest.2

theorem entersNamed_hsxFuseMkdir (plat : Platform) (parent : UInt64) (name : CString)
    (mode : UInt32) : EntersNamed (hsxFuseMkdir plat parent name mode) :=
  entersNamed_ilookup (fun index ↦ entersNamed_created (returnsNamed_hsiNfs3Mkdir plat index name _)
    (keeps_hsiNfs3Mkdir plat index name _) _ fun _ ↦ rfl) entersNamed_pure

theorem entersNamed_hsxFuseMknod (plat : Platform) (parent : UInt64) (name : CString)
    (mode : UInt32) (rdev : UInt64) : EntersNamed (hsxFuseMknod plat parent name mode rdev) :=
  entersNamed_ilookup (fun index ↦
    entersNamed_created (returnsNamed_hsiNfs3Mknod plat index name mode rdev)
      (keeps_hsiNfs3Mknod plat index name mode rdev) _ fun _ ↦ rfl) (entersNamed_err _)

theorem entersNamed_hsxFuseSymlink (plat : Platform) (link : CString) (parent : UInt64)
    (name : CString) : EntersNamed (hsxFuseSymlink plat link parent name) :=
  entersNamed_ilookup (fun index ↦
    entersNamed_created (returnsNamed_hsiNfs3Symlink plat index link name)
      (keeps_hsiNfs3Symlink plat index link name) _ fun _ ↦ rfl) (entersNamed_err _)

theorem entersNamed_hsxFuseCreate (plat : Platform) (parent : UInt64) (name : CString)
    (mode flags uid gid : UInt32) :
    EntersNamed (hsxFuseCreate plat parent name mode flags uid gid) := by
  apply entersNamed_ilookup _ entersNamed_pure
  intro index daemon trace daemon' reply param hcoherent hpath hreplies
  obtain ⟨daemon₁, hcoherent₁, hgrows, -, hcreate⟩ := hcoherent.setOwner_bind hpath
  rw [← hgrows.replies_eq] at hreplies
  exact entersNamed_created (returnsNamed_hsiNfs3Create plat index name _)
    (keeps_hsiNfs3Create plat index name _) _ (fun _ ↦ rfl) _ _ _ _ _ hcoherent₁ hcreate hreplies

/-- The requests that ask for an object by name. -/
def Request.asksObject : Request → Bool
  | .lookup .. | .mkdir .. | .mknod .. | .symlink .. | .create .. => true
  | _ => false

theorem entersNamed_handle (plat : Platform) (fuel : ℕ) {request : Request}
    (h : request.asksObject = true) : EntersNamed (handle plat fuel request) := by
  cases request with
  | lookup parent name => exact entersNamed_hsxFuseLookup plat parent name
  | mkdir parent name mode => exact entersNamed_hsxFuseMkdir plat parent name mode
  | mknod parent name mode rdev => exact entersNamed_hsxFuseMknod plat parent name mode rdev
  | symlink link parent name => exact entersNamed_hsxFuseSymlink plat link parent name
  | create parent name mode flags uid gid =>
    exact entersNamed_hsxFuseCreate plat parent name mode flags uid gid
  | _ => cases h

/-! ## Runs of requests -/

/-- Requests on the number are sent with the handle of the object. -/
def Daemon.SendsFor (daemon : Daemon) (ino : UInt64) (object : NfsFh3) : Prop :=
  ∃ inode, daemon.cached ino = some inode ∧ hsiNfs3Getfh3 inode = object.data

theorem Daemon.Denotes.sendsFor {daemon : Daemon} {ino fileid : UInt64} {object : NfsFh3}
    (h : daemon.Denotes ino object fileid) (hcoherent : Coherent daemon) :
    daemon.SendsFor ino object := by
  obtain ⟨index, hfind, hhandle, -⟩ := h.findIno hcoherent
  exact ⟨daemon.inode index, cached_of_findIno hfind, hhandle⟩

section Runs

variable {S : Type} {plat : Platform} {server : Server EnvAns S} {daemon daemon' : Daemon}
  {before after : S} {trace : Trace} {reply : FuseReply} {param : FuseEntryParam}
  {moments : List ServedMoment} {last : Daemon × S}

/-- What a number stands for at the start of a run it stands for all along. -/
theorem denotes_run {ino fileid : UInt64} {object : NfsFh3} (hcoherent : Coherent daemon)
    (hdenotes : daemon.Denotes ino object fileid)
    (hrun : Run (ServedStep plat server) (daemon, before) moments last) :
    Coherent last.1 ∧ last.1.Denotes ino object fileid ∧
      ∀ moment ∈ moments, moment.before.SendsFor ino object := by
  let holds (moments : List ServedMoment) (config : Daemon × S) : Prop :=
    Coherent config.1 ∧ config.1.Denotes ino object fileid ∧
      ∀ moment ∈ moments, moment.before.SendsFor ino object
  have hinitial : holds [] (daemon, before) := ⟨hcoherent, hdenotes, List.forall_mem_nil _⟩
  refine hrun.invariant hinitial ?_
  rintro moments _ _ _ ⟨hcoherent, hdenotes, hall⟩ ⟨hpath, -⟩
  obtain ⟨hcoherent', hsame⟩ := keepsIdentities_handle plat _ _ _ _ _ _ hpath hcoherent
  refine ⟨hcoherent', hdenotes.mono hsame, ?_⟩
  rw [List.forall_mem_append, List.forall_mem_singleton]
  exact ⟨hall, hdenotes.sendsFor hcoherent⟩

/-- **A number that the kernel is given for an object that it asked for by name stands for the
object that the server named, in every state of every run that follows.** -/
theorem numbers_keep_objects {request : Request} (hcoherent : Coherent daemon)
    (hasks : request.asksObject = true)
    (hstep : ServedStep plat server (daemon, before) ⟨daemon, request, trace⟩ (daemon', after))
    (hreplies : daemon'.replies = daemon.replies ++ [reply]) (hentered : reply.entered = some param)
    (hrun : Run (ServedStep plat server) (daemon', after) moments last) :
    ∃ object attributes, trace.findSome? namedObject = some (some object, attributes) ∧
      last.1.SendsFor param.ino object ∧
      ∀ moment ∈ moments, moment.before.SendsFor param.ino object := by
  cases hstep with
  | mk hpath hgives =>
    obtain ⟨object, attributes, hfound, hdenotes⟩ :=
      entersNamed_handle plat _ hasks _ _ _ _ _ hcoherent hpath hreplies hentered
    have hcoherent' := (keepsIdentities_handle plat _ _ _ _ _ _ hpath hcoherent).1
    obtain ⟨hlast, hlastDenotes, hall⟩ := denotes_run hcoherent' hdenotes hrun
    exact ⟨object, attributes, hfound, hlastDenotes.sendsFor hlast, hall⟩

end Runs

section Emits

variable {allowed : Event EnvAns → Prop} (hmalloc : ∀ site granted, allowed ⟨.malloc site, granted⟩)

include hmalloc

theorem emits_hsiNfs3HandleCreate (plat : Platform) (res : Diropres3ok) :
    (hsiNfs3HandleCreate plat res).Emits allowed := by
  unfold hsiNfs3HandleCreate
  split
  · exact emits_local (within_errPtr localCache plat _) hmalloc
  · exact emits_local (within_hsiNfsFhget localCache plat _ _) hmalloc

theorem emits_finishCreate (plat : Platform) (outcome : RpcOutcome Diropres3ok) :
    (finishCreate plat outcome).Emits allowed := by
  rcases outcome with _ | res | _
  · exact .pure _
  · exact .bind (emits_hsiNfs3HandleCreate hmalloc plat res) fun _ ↦ .ite (.pure _) (.pure _)
  · exact .pure _

/-- Both branches on the result of `hsfs_ilookup`. -/
theorem emits_ilookup {ino : UInt64} {found : ℕ → Prog Unit} {missing : Prog Unit}
    (hfound : ∀ index, (found index).Emits allowed) (hmissing : missing.Emits allowed) :
    (hsfsIlookup ino >>= fun ptr ↦ match ptr with
      | .obj index => found index
      | _ => missing).Emits allowed := by
  refine .bind (emits_local (within_hsfsIlookup localCache.toBaseParts ino) hmalloc) fun ptr ↦ ?_
  cases ptr with
  | obj index => exact hfound index
  | null => exact hmissing
  | err error => exact hmissing

/-- The end of the creating handlers behind a procedure. -/
theorem emits_created {procedure : Prog (ℤ × InodePtr)} (h : procedure.Emits allowed)
    (success : FuseEntryParam → FuseReply) :
    (procedure >>= fun result ↦ match result with
      | (err, new) => replyCreated err new success).Emits allowed :=
  .bind h fun ⟨err, new⟩ ↦ emits_local (within_replyCreated localTail err new success) hmalloc

theorem emits_hsxFuseCreate
    (hcall : ∀ entry how outcome, allowed ⟨.call (.create entry how), outcome⟩)
    (hsetattr : ∀ new mode, (exclusiveSetattr new mode).Emits allowed) (plat : Platform)
    (parent : UInt64) (name : CString) (mode flags uid gid : UInt32) :
    (hsxFuseCreate plat parent name mode flags uid gid).Emits allowed := by
  have hcreate (index : ℕ) (mode : UInt32) :
      (hsiNfs3Create plat index name mode).Emits allowed := by
    refine .bind (.getInode index) fun _ ↦ .bind (.clntCall (hcall _ _)) fun outcome ↦ ?_
    rcases outcome with _ | res | _
    · exact .pure _
    · exact .bind (emits_hsiNfs3HandleCreate hmalloc plat res) fun new ↦ .ite (.pure _)
        (.ite (.bind (hsetattr new mode) fun _ ↦ .pure _) (.pure _))
    · exact .pure _
  exact emits_ilookup hmalloc (fun index ↦ .bind (.modify _) fun _ ↦
    emits_created hmalloc (hcreate index _) _) (.pure _)

end Emits

/-! ## Symbolic links -/

/-- The symbolic links of a server: which handles have been in use, and the texts of the links. -/
structure LinkStore where
  used : Set (List UInt8)
  text : List UInt8 → Option CString

/-- A server of symbolic links.  Handles are not used twice, and the text of a link does not change;
links may disappear, and others may come into being, at any time. -/
def linkServer : Server EnvAns LinkStore := fun before event after ↦
  (∀ handle ∈ before.used, handle ∈ after.used ∧
    (after.text handle = before.text handle ∨ after.text handle = none)) ∧
  match event with
  | ⟨.call (.symlink _ _ link), .done (.ok res)⟩ => ∀ handle, res.obj = some handle →
      handle.data ∉ before.used ∧ handle.data ∈ after.used ∧ after.text handle.data = some link
  | ⟨.call (.readlink handle), .done (.ok text)⟩ =>
      handle ∈ before.used ∧ before.text handle = some text
  | _ => True

/-- The object is a link with this text, if it still exists. -/
structure LinkStore.Stores (store : LinkStore) (handle : List UInt8) (link : CString) : Prop where
  used : handle ∈ store.used
  text_eq : store.text handle = some link ∨ store.text handle = none

theorem LinkStore.Stores.step {before after : LinkStore} {handle : List UInt8} {link : CString}
    (h : before.Stores handle link) {event : Event EnvAns} (hstep : linkServer before event after) :
    after.Stores handle link := by
  obtain ⟨hused, htext⟩ := hstep.1 handle h.used
  refine ⟨hused, ?_⟩
  rcases htext with heq | hnone
  · rw [heq]
    exact h.text_eq
  · exact .inr hnone

theorem LinkStore.Stores.gives {before after : LinkStore} {handle : List UInt8} {link : CString}
    (h : before.Stores handle link) {trace : Trace} (hgives : linkServer.Gives before trace after) :
    after.Stores handle link := by
  induction trace generalizing before with
  | nil =>
    rw [Server.gives_nil.mp hgives]
    exact h
  | cons event rest ih =>
    obtain ⟨middle, hfirst, hrest⟩ := hgives
    exact ih (h.step hfirst) hrest

/-- The event is a successful `SYMLINK` with this text, or it names no object. -/
def NamesLink (link : CString) (event : Event EnvAns) : Prop :=
  namedObject event = none ∨
    ∃ dir attributes res, event = ⟨.call (.symlink dir attributes link), .done (.ok res)⟩

theorem emits_hsxFuseSymlink (plat : Platform) (link : CString) (parent : UInt64) (name : CString) :
    (hsxFuseSymlink plat link parent name).Emits (NamesLink link) := by
  have hmalloc (site : MallocSite) (granted : Bool) : NamesLink link ⟨.malloc site, granted⟩ :=
    .inl rfl
  have hcall (dir : Diropargs3) (attributes : Sattr3) :
      (Prog.clntCall (.symlink dir attributes link)).Emits (NamesLink link) := by
    apply Program.Emits.clntCall
    intro outcome
    rcases outcome with _ | res | _
    · exact .inl rfl
    · exact .inr ⟨dir, attributes, res, rfl⟩
    · exact .inl rfl
  refine emits_ilookup hmalloc (fun index ↦ emits_created hmalloc ?_ _) (.modify _)
  exact .bind (.getInode index) fun _ ↦ .bind (hcall _ _) (emits_finishCreate hmalloc plat)

section Links

variable {plat : Platform} {daemon daemon' : Daemon} {before after : LinkStore} {trace : Trace}
  {link name : CString} {parent : UInt64} {param : FuseEntryParam}

/-- The link that the kernel is given an entry for is stored. -/
theorem symlink_stores {fuel : ℕ} (hcoherent : Coherent daemon)
    (hpath : ((handle plat fuel (.symlink link parent name)).run daemon).Path trace
      (.done () daemon'))
    (hgives : linkServer.Gives before trace after)
    (hreplies : daemon'.replies = daemon.replies ++ [.entry param]) :
    ∃ (object : NfsFh3) (fileid : UInt64), daemon'.Denotes param.ino object fileid ∧
      after.Stores object.data link := by
  obtain ⟨object, attributes, hfound, hdenotes⟩ :=
    entersNamed_hsxFuseSymlink plat link parent name _ _ _ _ _ hcoherent hpath hreplies rfl
  obtain ⟨event, hmem, hnamed⟩ := List.exists_of_findSome?_eq_some hfound
  rcases emits_hsxFuseSymlink plat link parent name _ _ _ hpath event hmem with
    hnone | ⟨dir, given, res, rfl⟩
  · rw [hnone] at hnamed
    cases hnamed
  obtain ⟨front, rest, rfl⟩ := List.append_of_mem hmem
  obtain ⟨middle, -, stored, hstored, hrest⟩ := Server.gives_append.mp hgives
  have hobject : res.obj = some object := (Prod.mk.inj (Option.some.inj hnamed)).1
  obtain ⟨-, hused, htext⟩ := hstored.2 object hobject
  have hstores : stored.Stores object.data link := ⟨hused, .inl htext⟩
  exact ⟨object, _, hdenotes, hstores.gives hrest⟩

/-- Reading a link that denotes a stored object gives its text. -/
theorem readlink_stored {fuel : ℕ} {ino fileid : UInt64} {object : NfsFh3} {text : CString}
    (hcoherent : Coherent daemon) (hdenotes : daemon.Denotes ino object fileid)
    (hstores : before.Stores object.data link)
    (hpath : ((handle plat fuel (.readlink ino)).run daemon).Path trace (.done () daemon'))
    (hgives : linkServer.Gives before trace after)
    (hreplies : daemon'.replies = daemon.replies ++ [.readlink text]) :
    text = link.takeWhile (· != 0) := by
  obtain ⟨index, hfind, hhandle, -⟩ := hdenotes.findIno hcoherent
  change ((hsxFuseReadlink ino).run daemon).Path trace (.done () daemon') at hpath
  rw [hsxFuseReadlink, Program.bind_run, hsfsIlookup_run hcoherent.live, hfind] at hpath
  rcases hsiNfs3Readlink_bind_path hpath with
    ⟨err, outcome, rest, hne, rfl, hrest⟩ | ⟨stored, granted, rest, rfl, hrest⟩
  · dsimp only at hrest
    rw [if_pos hne] at hrest
    cases hrest.2
    cases List.append_cancel_left hreplies
  · cases granted with
    | false => cases hrest.2
    | true =>
      cases hrest.2
      cases List.append_cancel_left hreplies
      obtain ⟨middle, hread, -⟩ := hgives
      rw [hhandle] at hread
      rcases hstores.text_eq with heq | hnone
      · rw [hread.2.2] at heq
        cases heq
        rfl
      · rw [hread.2.2] at hnone
        cases hnone

variable {fuel : ℕ} {moments : List ServedMoment} {reached : Daemon × LinkStore}
  {daemon₂ : Daemon} {last : LinkStore} {trace' : Trace} {text : CString}

/-- A stored link stays one. -/
theorem stores_run {handle : List UInt8} (hstores : after.Stores handle link)
    (hrun : Run (ServedStep plat linkServer) (daemon', after) moments reached) :
    reached.2.Stores handle link := by
  let holds (_ : List ServedMoment) (config : Daemon × LinkStore) : Prop :=
    config.2.Stores handle link
  have hinitial : holds [] (daemon', after) := hstores
  refine hrun.invariant hinitial ?_
  rintro moments _ _ _ hbefore ⟨-, hgives⟩
  exact LinkStore.Stores.gives hbefore hgives

/-- **What was stored in a symbolic link is what reading it returns, after any requests.** -/
theorem symlink_read_back (hcoherent : Coherent daemon) (hlink : 0 ∉ link)
    (hsymlink : ServedStep plat linkServer (daemon, before)
      ⟨daemon, .symlink link parent name, trace⟩ (daemon', after))
    (hentry : daemon'.replies = daemon.replies ++ [.entry param])
    (hrun : Run (ServedStep plat linkServer) (daemon', after) moments reached)
    (hreadlink : ServedStep plat linkServer reached
      ⟨reached.1, .readlink param.ino, trace'⟩ (daemon₂, last))
    (hreply : daemon₂.replies = reached.1.replies ++ [.readlink text]) : text = link := by
  obtain ⟨daemon₁, store⟩ := reached
  cases hsymlink with
  | mk hpath hgives =>
    obtain ⟨object, _, hdenotes, hstores⟩ := symlink_stores hcoherent hpath hgives hentry
    have hcoherent' := (keepsIdentities_handle plat _ _ _ _ _ _ hpath hcoherent).1
    obtain ⟨hcoherent₁, hdenotes₁, -⟩ := denotes_run hcoherent' hdenotes hrun
    have hstores₁ := stores_run hstores hrun
    cases hreadlink with
    | mk hpath' hgives' =>
      rw [readlink_stored hcoherent₁ hdenotes₁ hstores₁ hpath' hgives' hreply]
      apply List.takeWhile_eq_self_iff.mpr
      intro byte hmem
      rw [bne_iff_ne]
      rintro rfl
      exact hlink hmem

end Links

end Numbers

/-- The reply to a `SYMLINK`. -/
def linkCreated : Diropres3ok := ⟨some ⟨[9], by decide⟩, some plainAttr⟩

/-- The events of `symlink` below the root. -/
def symlinkTrace : Trace :=
  [⟨.call (.symlink ⟨[0], [108]⟩ .cleared [116]), RpcOutcome.done (.ok linkCreated)⟩,
    ⟨.malloc .nfsInode, true⟩]

/-- The events of `readlink` for it. -/
def readlinkTrace : Trace :=
  [⟨.call (.readlink [9]), RpcOutcome.done (.ok ([116] : CString))⟩, ⟨.malloc .readlinkText, true⟩]

theorem exists_symlink_step : ∃ daemon' param,
    ((handle linuxHost 2 (.symlink [116] 1 [108])).run mountedCache).Path symlinkTrace
      (.done () daemon') ∧ daemon'.replies = mountedCache.replies ++ [.entry param] ∧
    ∃ daemon₂, ((handle linuxHost 0 (.readlink param.ino)).run daemon').Path readlinkTrace
      (.done () daemon₂) ∧ daemon₂.replies = daemon'.replies ++ [.readlink [116]] := by
  refine ⟨_, _, ⟨_, _, rfl, true, _, rfl, rfl, rfl⟩, rfl, ?_⟩
  exact ⟨_, ⟨_, _, rfl, true, _, rfl, rfl, rfl⟩, rfl⟩

/-- A server without links. -/
def noLinks : LinkStore := ⟨∅, fun _ ↦ none⟩

/-- The server with this link. -/
def oneLink : LinkStore := ⟨{[9]}, fun handle ↦ if handle = [9] then some [116] else none⟩

theorem gives_symlinkTrace : linkServer.Gives noLinks symlinkTrace oneLink := by
  refine ⟨oneLink, ⟨fun _ hmem ↦ hmem.elim, ?_⟩, oneLink, ⟨?_, trivial⟩, rfl⟩
  · intro handle heq
    cases heq
    exact ⟨id, rfl, rfl⟩
  · exact fun _ hmem ↦ ⟨hmem, .inl rfl⟩

theorem gives_readlinkTrace : linkServer.Gives oneLink readlinkTrace oneLink := by
  have hkept : ∀ handle ∈ oneLink.used, handle ∈ oneLink.used ∧
      (oneLink.text handle = oneLink.text handle ∨ oneLink.text handle = none) :=
    fun _ hmem ↦ ⟨hmem, .inl rfl⟩
  exact ⟨oneLink, ⟨hkept, rfl, rfl⟩, oneLink, ⟨hkept, trivial⟩, rfl⟩

/-- The number of the link stands for the object that the server made. -/
theorem numbers_keep_objects_link : ∃ (daemon' : Daemon) (param : FuseEntryParam)
    (last : Daemon × LinkStore) (moment : ServedMoment),
    Run (ServedStep linuxHost linkServer) (daemon', oneLink) [moment] last ∧
    moment.request = .readlink param.ino ∧
    ∃ object attributes, symlinkTrace.findSome? namedObject = some (some object, attributes) ∧
      last.1.SendsFor param.ino object ∧
      ∀ other ∈ [moment], other.before.SendsFor param.ino object := by
  obtain ⟨daemon', param, hpath, hentry, daemon₂, hpath', -⟩ := exists_symlink_step
  have hrun : Run (ServedStep linuxHost linkServer) (daemon', oneLink)
      [⟨daemon', .readlink param.ino, readlinkTrace⟩] (daemon₂, oneLink) :=
    Run.nil.snoc (.mk hpath' gives_readlinkTrace)
  exact ⟨daemon', param, _, _, hrun, rfl, numbers_keep_objects mounted_mountedCache.coherent rfl
    (.mk hpath gives_symlinkTrace) hentry rfl hrun⟩

/-- Its text is read back. -/
theorem symlink_read_back_root : ∃ (daemon' daemon₂ : Daemon) (param : FuseEntryParam)
    (text : CString),
    ServedStep linuxHost linkServer (mountedCache, noLinks)
      ⟨mountedCache, .symlink [116] 1 [108], symlinkTrace⟩ (daemon', oneLink) ∧
    ServedStep linuxHost linkServer (daemon', oneLink)
      ⟨daemon', .readlink param.ino, readlinkTrace⟩ (daemon₂, oneLink) ∧
    daemon₂.replies = daemon'.replies ++ [.readlink text] ∧ text = [116] := by
  obtain ⟨daemon', param, hpath, hentry, daemon₂, hpath', hreply⟩ := exists_symlink_step
  have hsymlink : ServedStep linuxHost linkServer (mountedCache, noLinks)
      ⟨mountedCache, .symlink [116] 1 [108], symlinkTrace⟩ (daemon', oneLink) :=
    .mk hpath gives_symlinkTrace
  have hreadlink : ServedStep linuxHost linkServer (daemon', oneLink)
      ⟨daemon', .readlink param.ino, readlinkTrace⟩ (daemon₂, oneLink) :=
    .mk hpath' gives_readlinkTrace
  exact ⟨daemon', daemon₂, param, _, hsymlink, hreadlink, hreply,
    symlink_read_back mounted_mountedCache.coherent (by decide) hsymlink hentry Run.nil hreadlink
      hreply⟩

end NfsFuse
