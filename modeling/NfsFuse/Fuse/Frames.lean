import NfsFuse.Fuse.Handlers
import NfsFuse.Nfs3.Coherence

/-!
# Handlers that give the kernel no references

A reply gives the kernel references to inodes when it carries entries.  Sixteen of the handlers
never send such a reply: they keep the cache coherent, let it grow and leave every lookup count
alone.  Each result is assembled from the rule for sequences and the result for the procedure below
the handler.
-/

namespace NfsFuse

open Lib

/-! ## References in replies -/

/-- The names of the two entries that every directory has. -/
def isDot (name : CString) : Bool := name = cstr "." || name = cstr ".."

/-- The inode numbers that a reply gives the kernel a reference to. -/
def FuseReply.given : FuseReply → List UInt64
  | .entry param => [param.ino]
  | .create param => [param.ino]
  | .direntsPlus entries => (entries.filter (!isDot ·.name)).map (·.entry.ino)
  | _ => []

/-- The inode numbers that the replies sent so far give references to. -/
def Daemon.given (daemon : Daemon) : List UInt64 := daemon.replies.flatMap FuseReply.given

/-- The daemon with other replies. -/
def Daemon.setReplies (daemon : Daemon) (replies : List FuseReply) : Daemon :=
  { daemon with replies := replies }

/-- What is cached does not depend on the replies. -/
theorem Coherent.setReplies {daemon : Daemon} (h : Coherent daemon) (replies : List FuseReply) :
    Coherent (daemon.setReplies replies) :=
  h.congr rfl rfl rfl rfl rfl

theorem Grows.setReplies {daemon daemon' : Daemon} (h : Grows daemon daemon')
    (replies : List FuseReply) :
    Grows (daemon.setReplies replies) (daemon'.setReplies replies) where
  length_le := h.length_le
  ino_eq := h.ino_eq
  fileid_eq := h.fileid_eq
  fh_eq := h.fh_eq
  priv_eq := h.priv_eq
  priv_new := h.priv_new
  root_eq := h.root_eq
  clntp_eq := h.clntp_eq
  aclClntp_eq := h.aclClntp_eq
  liveClients_eq := h.liveClients_eq
  replies_eq := rfl

/-- From a coherent cache to a larger one, with replies that give no references. -/
def Quiet (daemon daemon' : Daemon) : Prop :=
  Coherent daemon → Coherent daemon' ∧ Grows daemon (daemon'.setReplies daemon.replies) ∧
    daemon'.given = daemon.given

instance : Std.Refl Quiet := ⟨fun daemon h ↦ ⟨h, Grows.refl daemon, rfl⟩⟩

instance : IsTrans Daemon Quiet where
  trans daemon₁ daemon₂ daemon₃ h h' hcoherent := by
    obtain ⟨hcoherent₂, hgrows, hgiven⟩ := h hcoherent
    obtain ⟨hcoherent₃, hgrows', hgiven'⟩ := h' hcoherent₂
    exact ⟨hcoherent₃, hgrows.trans (hgrows'.setReplies daemon₁.replies), hgiven'.trans hgiven⟩

theorem KeepsCoherent.quiet {daemon daemon' : Daemon} (h : KeepsCoherent daemon daemon') :
    Quiet daemon daemon' := by
  intro hcoherent
  obtain ⟨hcoherent', hgrows⟩ := h hcoherent
  refine ⟨hcoherent', ?_, ?_⟩
  · rw [← hgrows.replies_eq]
    exact hgrows
  · rw [Daemon.given, hgrows.replies_eq, Daemon.given]

/-- A procedure that keeps the cache coherent is quiet. -/
theorem quiet_of_keeps {α : Type} {program : Prog α} (h : program.Respects KeepsCoherent) :
    program.Respects Quiet :=
  h.mono fun _ _ _ ↦ KeepsCoherent.quiet

theorem quiet_reply {message : FuseReply} (h : message.given = []) :
    (Prog.reply message).Respects Quiet := by
  refine Program.Respects.modify fun daemon hcoherent ↦ ?_
  refine ⟨hcoherent.setReplies _, Grows.refl daemon, ?_⟩
  simp [Daemon.given, h]

theorem quiet_err (error : ℤ) : (Prog.reply (.err error)).Respects Quiet := quiet_reply rfl

theorem keeps_hsfsIlookup (ino : UInt64) : (hsfsIlookup ino).Respects KeepsCoherent := by
  intro daemon trace ptr daemon' hpath hcoherent
  rw [hsfsIlookup_run hcoherent.live] at hpath
  cases hpath.2
  exact ⟨hcoherent, Grows.refl daemon⟩

theorem Coherent.ilookup_bind {α : Type} {daemon : Daemon} (h : Coherent daemon) (ino : UInt64)
    (next : InodePtr → Prog α) : (hsfsIlookup ino >>= next).run daemon =
      (next (.ofOption (daemon.findIno ino))).run daemon :=
  Program.bind_run_of_ret (hsfsIlookup_run h.live ino) next

/-- A run behind `hsfs_ilookup` is a run of one of the branches. -/
theorem Coherent.path_ilookup {α : Type} {daemon : Daemon} (h : Coherent daemon) {ino : UInt64}
    {found : ℕ → Prog α} {missing : Prog α} {trace : Trace} {ending : Ending Fault Daemon α}
    (hpath : ((hsfsIlookup ino >>= fun ptr ↦ match ptr with
      | .obj index => found index
      | _ => missing).run daemon).Path trace ending) :
    daemon.findIno ino = none ∧ (missing.run daemon).Path trace ending ∨
      ∃ index, daemon.findIno ino = some index ∧ ((found index).run daemon).Path trace ending := by
  rw [h.ilookup_bind] at hpath
  cases hfind : daemon.findIno ino with
  | none =>
    rw [hfind] at hpath
    exact Or.inl ⟨rfl, hpath⟩
  | some index =>
    rw [hfind] at hpath
    exact Or.inr ⟨index, rfl, hpath⟩

/-- The branches of a handler on the result of `hsfs_ilookup`. -/
theorem Lib.Program.Respects.ilookup {relation : Daemon → Daemon → Prop} [IsTrans Daemon relation]
    {ino : UInt64} {found : ℕ → Prog Unit} {missing : Prog Unit}
    (hlookup : (hsfsIlookup ino).Respects relation)
    (hfound : ∀ index, (found index).Respects relation) (hmissing : missing.Respects relation) :
    (hsfsIlookup ino >>= fun ptr ↦ match ptr with
      | .obj index => found index
      | _ => missing).Respects relation := by
  refine .bind hlookup fun ptr ↦ ?_
  cases ptr with
  | obj index => exact hfound index
  | null => exact hmissing
  | err error => exact hmissing

theorem quiet_ilookup {ino : UInt64} {found : ℕ → Prog Unit} {missing : Prog Unit}
    (hfound : ∀ index, (found index).Respects Quiet) (hmissing : missing.Respects Quiet) :
    (hsfsIlookup ino >>= fun ptr ↦ match ptr with
      | .obj index => found index
      | _ => missing).Respects Quiet :=
  .ilookup (quiet_of_keeps (keeps_hsfsIlookup ino)) hfound hmissing

/-! ## The handlers -/

theorem quiet_hsxFuseGetattr (ino : UInt64) : (hsxFuseGetattr ino).Respects Quiet := by
  refine quiet_ilookup (fun index ↦ ?_) (quiet_err _)
  refine .bind (quiet_of_keeps (keeps_hsiNfs3Getattr index _)) fun result ↦ .ite (quiet_err _) ?_
  exact .bind (.getInode index) fun inode ↦ .bind .get fun daemon ↦ quiet_reply rfl

theorem quiet_hsxFuseSetattr (ino : UInt64) (attr : Stat) (toSet : UInt32) :
    (hsxFuseSetattr ino attr toSet).Respects Quiet := by
  refine quiet_ilookup (fun index ↦ ?_) (quiet_err _)
  refine .bind (quiet_of_keeps (keeps_hsiNfsSetattr index _)) fun err ↦ .ite (quiet_err _) ?_
  exact .bind (.getInode index) fun inode ↦ .bind .get fun daemon ↦ quiet_reply rfl

theorem quiet_hsxFuseAccess (ino : UInt64) (mask : UInt32) :
    (hsxFuseAccess ino mask).Respects Quiet := by
  refine quiet_ilookup (fun index ↦ .bind (.getInode index) fun inode ↦ ?_) (.pure _)
  exact .bind (quiet_of_keeps (keeps_hsiNfs3Access index _)) fun err ↦ quiet_err _

theorem quiet_hsxFuseRmdir (parent : UInt64) (name : CString) :
    (hsxFuseRmdir parent name).Respects Quiet :=
  quiet_ilookup (fun index ↦ .bind (quiet_of_keeps (keeps_hsiNfs3Rmdir index name))
    fun _ ↦ quiet_err _) (.pure _)

theorem quiet_hsxFuseUnlink (parent : UInt64) (name : CString) :
    (hsxFuseUnlink parent name).Respects Quiet := by
  refine .ite (quiet_err _) (.ite (quiet_err _) (quiet_ilookup (fun index ↦ ?_) (quiet_err _)))
  exact .bind (quiet_of_keeps (keeps_hsiNfs3Unlink index name)) fun err ↦ quiet_err _

theorem quiet_hsxFuseRename (parent : UInt64) (name : CString) (newparent : UInt64)
    (newname : CString) (flags : UInt32) :
    (hsxFuseRename parent name newparent newname flags).Respects Quiet := by
  refine .ite (quiet_err _) (.ite (quiet_err _) (.ite (quiet_err _) (.ite (quiet_err _)
    (.ite (quiet_err _) (quiet_ilookup (fun index ↦ ?_) (quiet_err _))))))
  refine quiet_ilookup (fun newindex ↦ ?_) (quiet_err _)
  exact .bind (quiet_of_keeps (keeps_hsiNfs3Rename index name newindex newname)) fun err ↦
    quiet_err _

theorem quiet_hsxFuseReadlink (ino : UInt64) : (hsxFuseReadlink ino).Respects Quiet := by
  refine quiet_ilookup (fun index ↦ ?_) (.pure _)
  refine .bind (quiet_of_keeps (keeps_hsiNfs3Readlink index)) fun ⟨st, link⟩ ↦ .ite (quiet_err _) ?_
  split
  · exact quiet_reply rfl
  · exact .crash _

theorem quiet_hsxFuseOpen : hsxFuseOpen.Respects Quiet :=
  .bind (.malloc _) fun _ ↦ .ite (quiet_reply rfl) (quiet_err _)

theorem quiet_hsxFuseOpendir (ino : UInt64) : (hsxFuseOpendir ino).Respects Quiet :=
  quiet_ilookup (fun _ ↦ quiet_reply rfl) (quiet_err _)

theorem quiet_hsxFuseRelease : hsxFuseRelease.Respects Quiet := quiet_err 0

theorem quiet_readLoop (index size : ℕ) (off : UInt64) (fuel cnt : ℕ)
    (buf : List (Option UInt8)) : (readLoop index size off fuel cnt buf).Respects Quiet := by
  induction fuel generalizing cnt buf with
  | zero => exact .crash _
  | succ fuel ih =>
    refine .ite (.bind .get fun daemon ↦ ?_) (.pure _)
    refine .bind (quiet_of_keeps (keeps_hsiNfs3Read index _ _)) fun ⟨err, res⟩ ↦ ?_
    cases res with
    | none => exact .pure _
    | some res => exact .ite (.ite (.pure _) (ih _ _)) (.crash _)

theorem quiet_hsxFuseRead (fuel : ℕ) (ino : UInt64) (size : ℕ) (off : UInt64) :
    (hsxFuseRead fuel ino size off).Respects Quiet := by
  refine .bind (.malloc _) fun _ ↦ .ite (quiet_ilookup (fun index ↦ ?_) (quiet_err _)) (quiet_err _)
  exact .bind (quiet_readLoop index size off fuel _ _) fun result ↦
    .ite (quiet_err _) (quiet_reply rfl)

theorem quiet_writeLoop (index : ℕ) (data : List UInt8) (off : UInt64) (stable : ℤ)
    (fuel cnt : ℕ) : (writeLoop index data off stable fuel cnt).Respects Quiet := by
  induction fuel generalizing cnt with
  | zero => exact .crash _
  | succ fuel ih =>
    refine .ite (.bind .get fun daemon ↦ ?_) (.pure _)
    exact .bind (quiet_of_keeps (keeps_hsiNfs3Write index _ _ _)) fun result ↦ .ite (.pure _) (ih _)

theorem quiet_hsxFuseWrite (fuel : ℕ) (ino : UInt64) (data : List UInt8) (off : UInt64)
    (directIo : Bool) : (hsxFuseWrite fuel ino data off directIo).Respects Quiet := by
  refine .bind (.malloc _) fun _ ↦ .ite (quiet_ilookup (fun index ↦ ?_) (quiet_err _)) (quiet_err _)
  exact .bind (quiet_writeLoop index data off _ fuel 0) fun result ↦
    .ite (quiet_err _) (quiet_reply rfl)

theorem quiet_hsxFuseReaddir (plat : Platform) (ino : UInt64) (size : ℕ) (off : UInt64) :
    (hsxFuseReaddir plat ino size off).Respects Quiet := by
  refine quiet_ilookup (fun index ↦ ?_) (.crash _)
  refine .bind (quiet_of_keeps (keeps_hsiNfs3Readdir index _ off)) fun result ↦
    .ite (quiet_err _) ?_
  exact .bind (.malloc _) fun _ ↦ .ite (quiet_reply rfl) (quiet_err _)

theorem quiet_hsxFuseStatfs : hsxFuseStatfs.Respects Quiet := by
  refine .bind .get fun daemon ↦ .bind (.deref _) fun root ↦ ?_
  refine .bind (quiet_of_keeps (keeps_hsiNfs3Statfs root)) fun err ↦ .ite (quiet_err _) ?_
  refine .bind .get fun daemon ↦ ?_
  split
  · exact quiet_reply rfl
  · exact quiet_err _

theorem quiet_hsxFuseGetxattr (ino : UInt64) (name : CString) (size : ℕ) :
    (hsxFuseGetxattr ino name size).Respects Quiet := by
  unfold hsxFuseGetxattr
  split
  · exact quiet_err _
  · refine quiet_ilookup (fun index ↦ ?_) (quiet_err _)
    refine .bind (quiet_of_keeps (keeps_hsiNfs3Getxattr index _ _)) fun ⟨err, acl⟩ ↦ ?_
    cases acl with
    | none => exact quiet_err _
    | some acl =>
      refine .bind (.malloc _) fun buf ↦ .ite (quiet_err _) ?_
      exact .ite (quiet_reply rfl) (.ite (quiet_err _) (quiet_reply rfl))

theorem quiet_hsxFuseSetxattr (ino : UInt64) (name : CString) (value : List UInt8) :
    (hsxFuseSetxattr ino name value).Respects Quiet := by
  refine quiet_ilookup (fun index ↦ ?_) (quiet_err _)
  split
  · refine .bind (quiet_of_keeps (keeps_hsiNfs3Setxattr index value _)) fun err ↦ ?_
    exact .bind (quiet_err _) fun _ ↦ quiet_err _
  · exact quiet_err _

end NfsFuse
