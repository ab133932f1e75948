import NfsFuse.Fuse.LookupCounts

/-!
# States of a mounted daemon

Whatever the server answers, a request that returns leaves the cache coherent, keeps every inode and
its number, and leaves the root where it was.  So every state a mounted daemon reaches is one in
which the tables can be walked and the root is cached.
-/

namespace NfsFuse

open Lib

attribute [local irreducible] hsiNfsFhget

/-- A relation that holds along the steps of which every handler is made: code that gives the kernel
nothing, counting, and replying. -/
structure Allows (relation : Daemon → Daemon → Prop) : Prop where
  quiet : ∀ daemon daemon', Quiet daemon daemon' → relation daemon daemon'
  count : ∀ daemon index priv,
    relation daemon (daemon.setInode index { daemon.inode index with priv := priv })
  reply : ∀ daemon replies, relation daemon (daemon.setReplies replies)

section Handlers

variable {relation : Daemon → Daemon → Prop} [Std.Refl relation] [IsTrans Daemon relation]
  (h : Allows relation)

include h

omit [Std.Refl relation] [IsTrans Daemon relation] in
theorem Allows.of_quiet {α : Type} {program : Prog α} (hprogram : program.Respects Quiet) :
    program.Respects relation :=
  fun daemon trace value daemon' hpath ↦ h.quiet _ _ (hprogram daemon trace value daemon' hpath)

omit [Std.Refl relation] [IsTrans Daemon relation] in
theorem Allows.of_keeps {α : Type} {program : Prog α} (hprogram : program.Respects KeepsCoherent) :
    program.Respects relation :=
  h.of_quiet (quiet_of_keeps hprogram)

omit [Std.Refl relation] [IsTrans Daemon relation] in
theorem Allows.replying (message : FuseReply) : (Prog.reply message).Respects relation :=
  .modify fun daemon ↦ h.reply daemon _

omit [Std.Refl relation] [IsTrans Daemon relation] in
theorem Allows.counting (index : ℕ) (priv : NfsInode → UInt64) :
    (Prog.modifyInode index fun inode ↦ { inode with priv := priv inode }).Respects relation :=
  .modify fun daemon ↦ h.count daemon index _

theorem respects_hsxFuseRefXchg (ptr : InodePtr) (val : UInt64) :
    (hsxFuseRefXchg ptr val).Respects relation :=
  .bind (.deref ptr) fun index ↦ .bind (.getInode index) fun _ ↦
    .bind (h.counting index fun _ ↦ val) fun _ ↦ .pure _

theorem respects_hsxFuseRefInc (ptr : InodePtr) (val : UInt64) :
    (hsxFuseRefInc ptr val).Respects relation :=
  .bind (.deref ptr) fun index ↦ .bind (.getInode index) fun _ ↦
    .bind (h.counting index fun inode ↦ inode.priv + val) fun _ ↦ .pure _

theorem respects_hsxFuseRefDec (ptr : InodePtr) (val : UInt64) :
    (hsxFuseRefDec ptr val).Respects relation :=
  .bind (.deref ptr) fun index ↦ .bind (.getInode index) fun _ ↦ .bind (.assert _ _) fun _ ↦
    .bind (h.counting index fun inode ↦ inode.priv - val) fun _ ↦ .pure _

omit h in
theorem respects_hsxFuseFillReply (ptr : InodePtr) : (hsxFuseFillReply ptr).Respects relation :=
  .bind (.deref ptr) fun index ↦ .bind (.getInode index) fun _ ↦ .bind .get fun _ ↦ .pure _

theorem respects_countCreated (new : InodePtr) : (countCreated new).Respects relation :=
  .bind (respects_hsxFuseRefXchg h new 1) fun _ ↦ .bind (.assert _ _) fun _ ↦
    respects_hsxFuseFillReply new

theorem respects_hsxFuseInit : hsxFuseInit.Respects relation :=
  .bind .get fun _ ↦ .bind (respects_hsxFuseRefXchg h _ 1) fun _ ↦ .assert _ _

omit [Std.Refl relation] in
theorem respects_ilookup {ino : UInt64} {found : ℕ → Prog Unit} {missing : Prog Unit}
    (hfound : ∀ index, (found index).Respects relation) (hmissing : missing.Respects relation) :
    (hsfsIlookup ino >>= fun ptr ↦ match ptr with
      | .obj index => found index
      | _ => missing).Respects relation :=
  .ilookup (h.of_keeps (keeps_hsfsIlookup ino)) hfound hmissing

theorem respects_hsxFuseLookup (plat : Platform) (ino : UInt64) (name : CString) :
    (hsxFuseLookup plat ino name).Respects relation := by
  refine respects_ilookup h (fun parent ↦ ?_) (h.replying _)
  refine .bind (h.of_keeps (keeps_hsiNfs3Lookup plat parent name)) fun ⟨err, child⟩ ↦
    .ite (h.replying _) ?_
  have hfound (ptr : InodePtr) : (do
      let _ ← hsxFuseRefInc ptr 1
      let param ← hsxFuseFillReply ptr
      Prog.reply (.entry param)).Respects relation :=
    .bind (respects_hsxFuseRefInc h ptr 1) fun _ ↦ .bind (respects_hsxFuseFillReply ptr) fun _ ↦
      h.replying _
  cases child with
  | null => exact h.replying _
  | err error => exact hfound (.err error)
  | obj index => exact hfound (.obj index)

theorem respects_hsxFuseForget (ino nlookup : UInt64) :
    (hsxFuseForget ino nlookup).Respects relation :=
  .bind (h.of_keeps (keeps_hsfsIlookup ino)) fun node ↦ .bind (.assert _ _) fun _ ↦
    .bind (respects_hsxFuseRefDec h node nlookup) fun _ ↦
      .ite (.bind (h.of_keeps (keeps_hsfsIput node)) fun _ ↦ h.replying _) (h.replying _)

theorem respects_replyCreated (err : ℤ) (new : InodePtr) (success : FuseEntryParam → FuseReply) :
    (replyCreated err new success).Respects relation := by
  refine .ite (h.replying _) ?_
  cases new with
  | null => exact h.replying _
  | err error => exact .bind (respects_countCreated h _) fun _ ↦ h.replying _
  | obj index => exact .bind (respects_countCreated h _) fun _ ↦ h.replying _

theorem respects_hsxFuseMkdir (plat : Platform) (parent : UInt64) (name : CString) (mode : UInt32) :
    (hsxFuseMkdir plat parent name mode).Respects relation :=
  respects_ilookup h (fun index ↦ .bind (h.of_keeps (keeps_hsiNfs3Mkdir plat index name mode))
    fun _ ↦ respects_replyCreated h _ _ _) (.pure _)

theorem respects_hsxFuseMknod (plat : Platform) (parent : UInt64) (name : CString) (mode : UInt32)
    (rdev : UInt64) : (hsxFuseMknod plat parent name mode rdev).Respects relation :=
  respects_ilookup h (fun index ↦ .bind (h.of_keeps (keeps_hsiNfs3Mknod plat index name mode rdev))
    fun _ ↦ respects_replyCreated h _ _ _) (h.replying _)

theorem respects_hsxFuseSymlink (plat : Platform) (link : CString) (parent : UInt64)
    (name : CString) :
    (hsxFuseSymlink plat link parent name).Respects relation :=
  respects_ilookup h (fun index ↦ .bind (h.of_keeps (keeps_hsiNfs3Symlink plat index link name))
    fun _ ↦ respects_replyCreated h _ _ _) (h.replying _)

theorem respects_hsxFuseCreate (plat : Platform) (parent : UInt64) (name : CString)
    (mode flags uid gid : UInt32) :
    (hsxFuseCreate plat parent name mode flags uid gid).Respects relation :=
  respects_ilookup h (fun index ↦ .bind (h.of_keeps (keeps_setOwner index uid gid)) fun _ ↦
    .bind (h.of_keeps (keeps_hsiNfs3Create plat index name _)) fun _ ↦
      respects_replyCreated h _ _ _) (.pure _)

theorem respects_hsxFuseLink (ino newparent : UInt64) (newname : CString) :
    (hsxFuseLink ino newparent newname).Respects relation := by
  refine respects_ilookup h (fun parent ↦ respects_ilookup h (fun index ↦ ?_) (.pure _)) (.pure _)
  refine .bind (h.of_keeps (keeps_hsiNfs3Link index parent newname)) fun err ↦
    .ite (.bind (.malloc _) fun _ ↦ .ite ?_ (h.replying _)) (h.replying _)
  exact .bind (respects_hsxFuseFillReply _) fun _ ↦ h.replying _

theorem respects_packDirentsPlus (plat : Platform) (size : ℕ) (chain : List ReaddirCtx) (len : ℕ)
    (done : List DirentPlus) : (packDirentsPlus plat size chain len done).Respects relation := by
  induction chain generalizing len done with
  | nil => exact .pure _
  | cons ctx rest ih =>
    exact .bind (respects_hsxFuseFillReply _) fun _ ↦ .ite (.pure _)
      (.bind (respects_hsxFuseRefInc h _ 1) fun _ ↦ ih _ _)

theorem respects_hsxFuseReaddirPlus (plat : Platform) (ino : UInt64) (size : ℕ) (off : UInt64) :
    (hsxFuseReaddirPlus plat ino size off).Respects relation := by
  refine respects_ilookup h (fun parent ↦ ?_) (.crash _)
  refine .bind (h.of_keeps (keeps_hsiNfs3ReaddirPlus plat parent _ off _)) fun ⟨err, chain⟩ ↦
    .ite (h.replying _) (.bind (.malloc _) fun _ ↦ .ite ?_ (h.replying _))
  exact .bind (respects_packDirentsPlus h plat size chain 0 []) fun _ ↦ h.replying _

/-- The handlers of all requests. -/
theorem respects_handle (plat : Platform) (fuel : ℕ) (request : Request) :
    (handle plat fuel request).Respects relation := by
  cases request with
  | getattr ino => exact h.of_quiet (quiet_hsxFuseGetattr ino)
  | setattr ino attr toSet => exact h.of_quiet (quiet_hsxFuseSetattr ino attr toSet)
  | lookup parent name => exact respects_hsxFuseLookup h plat parent name
  | forget ino nlookup => exact respects_hsxFuseForget h ino nlookup
  | mkdir parent name mode => exact respects_hsxFuseMkdir h plat parent name mode
  | rmdir parent name => exact h.of_quiet (quiet_hsxFuseRmdir parent name)
  | unlink parent name => exact h.of_quiet (quiet_hsxFuseUnlink parent name)
  | rename parent name newparent newname flags =>
    exact h.of_quiet (quiet_hsxFuseRename parent name newparent newname flags)
  | symlink link parent name => exact respects_hsxFuseSymlink h plat link parent name
  | readlink ino => exact h.of_quiet (quiet_hsxFuseReadlink ino)
  | link ino newparent newname => exact respects_hsxFuseLink h ino newparent newname
  | mknod parent name mode rdev => exact respects_hsxFuseMknod h plat parent name mode rdev
  | create parent name mode flags uid gid =>
    exact respects_hsxFuseCreate h plat parent name mode flags uid gid
  | openFile ino => exact h.of_quiet quiet_hsxFuseOpen
  | opendir ino => exact h.of_quiet (quiet_hsxFuseOpendir ino)
  | release ino => exact h.replying _
  | read ino size off => exact h.of_quiet (quiet_hsxFuseRead fuel ino size off)
  | write ino data off directIo =>
    exact h.of_quiet (quiet_hsxFuseWrite fuel ino data off directIo)
  | readdir ino size off => exact h.of_quiet (quiet_hsxFuseReaddir plat ino size off)
  | readdirplus ino size off => exact respects_hsxFuseReaddirPlus h plat ino size off
  | access ino mask => exact h.of_quiet (quiet_hsxFuseAccess ino mask)
  | statfs ino => exact h.of_quiet quiet_hsxFuseStatfs
  | getxattr ino name size => exact h.of_quiet (quiet_hsxFuseGetxattr ino name size)
  | setxattr ino name value => exact h.of_quiet (quiet_hsxFuseSetxattr ino name value)

end Handlers

/-- A step that keeps the cache coherent and the root in place. -/
def Kept (daemon daemon' : Daemon) : Prop :=
  Coherent daemon → Coherent daemon' ∧ daemon.heap.length ≤ daemon'.heap.length ∧
    daemon'.sb.root = daemon.sb.root

instance : Std.Refl Kept := ⟨fun _ h ↦ ⟨h, le_rfl, rfl⟩⟩

instance : IsTrans Daemon Kept where
  trans daemon₁ daemon₂ daemon₃ h h' hcoherent := by
    obtain ⟨hcoherent₂, hle, hroot⟩ := h hcoherent
    obtain ⟨hcoherent₃, hle', hroot'⟩ := h' hcoherent₂
    exact ⟨hcoherent₃, hle.trans hle', hroot'.trans hroot⟩

/-- Counting keeps the cache coherent. -/
theorem Coherent.setCount {daemon : Daemon} (h : Coherent daemon) (index : ℕ) (priv : UInt64) :
    Coherent (daemon.setInode index { daemon.inode index with priv := priv }) := by
  by_cases hlt : index < daemon.heap.length
  · exact h.setPriv hlt priv
  · rwa [Daemon.setInode_of_le (not_lt.mp hlt)]

theorem allows_kept : Allows Kept where
  quiet daemon daemon' hquiet hcoherent := by
    obtain ⟨hcoherent', hgrows, -⟩ := hquiet hcoherent
    exact ⟨hcoherent', hgrows.length_le, hgrows.root_eq⟩
  count daemon index priv hcoherent :=
    ⟨hcoherent.setCount index priv, (Daemon.setInode_length _ _ _).ge, rfl⟩
  reply daemon replies hcoherent := ⟨hcoherent.setReplies replies, le_rfl, rfl⟩

/-- Every request keeps the cache coherent and the root in place. -/
theorem kept_handle (plat : Platform) (fuel : ℕ) (request : Request) :
    (handle plat fuel request).Respects Kept :=
  respects_handle allows_kept plat fuel request

/-! ## Reachable states -/

/-- A cache in which the tables can be walked and the root is cached. -/
structure Serving (daemon : Daemon) : Prop where
  coherent : Coherent daemon
  root_cached : ∃ root < daemon.heap.length, daemon.sb.root = .obj root

theorem Serving.length_pos {daemon : Daemon} (h : Serving daemon) : 0 < daemon.heap.length := by
  obtain ⟨root, hlt, -⟩ := h.root_cached
  exact Nat.zero_lt_of_lt hlt

theorem Serving.kept {daemon daemon' : Daemon} (h : Serving daemon) (hkept : Kept daemon daemon') :
    Serving daemon' := by
  obtain ⟨hcoherent, hle, hroot⟩ := hkept h.coherent
  obtain ⟨root, hlt, heq⟩ := h.root_cached
  exact ⟨hcoherent, root, hlt.trans_le hle, hroot.trans heq⟩

theorem Mounted.serving {daemon : Daemon} (h : Mounted daemon) : Serving daemon :=
  ⟨h.coherent, 0, h.length_eq ▸ Nat.one_pos, h.root_eq⟩

/-- Every reachable state is one in which requests can be served. -/
theorem Session.Run.serving {plat : Platform} {condition : Session → Request → Trace → Prop}
    {session : Session} (h : Session.Run plat condition session) : Serving session.daemon := by
  induction h with
  | init hmounted hpath =>
    exact hmounted.serving.kept (respects_hsxFuseInit allows_kept _ _ _ _ hpath)
  | step _ _ _ hanswer ih =>
    obtain ⟨fuel, hpath⟩ := hanswer
    exact (Serving.kept ⟨ih.coherent.setReplies [], ih.root_cached⟩)
      (kept_handle plat fuel _ _ _ _ _ hpath)

end NfsFuse
