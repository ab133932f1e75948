import NfsFuse.Nfs3.Runs
import NfsFuse.Nfs3.Acquisition

/-!
# Error numbers of the procedures

Error numbers come from two sides: the RPC library and the table of status codes give positive ones,
the inode code gives negative ones.  Here is what each procedure returns when the RPC library keeps
to its side, and that no procedure sends a reply itself.
-/

namespace NfsFuse

open Lib

/-- An error number that is one to the kernel. -/
def RealErrno (err : ℤ) : Prop := 0 < err ∧ err < 1000

/-- Success or an error number. -/
def Errno (err : ℤ) : Prop := err = 0 ∨ RealErrno err

/-- A call that fails in the RPC library fails with an error number. -/
def RpcErrno : Event EnvAns → Prop
  | ⟨.call _, .fail err _⟩ => RealErrno err
  | _ => True

instance (err : ℤ) : Decidable (RealErrno err) := by
  unfold RealErrno
  infer_instance

theorem RealErrno.errno {err : ℤ} (h : RealErrno err) : Errno err := Or.inr h

theorem Errno.real {err : ℤ} (h : Errno err) (hne : err ≠ 0) : RealErrno err := h.resolve_left hne

theorem hsiNfs3StatToErrno_real {stat : ℤ} (h : stat ≠ 0) :
    RealErrno (hsiNfs3StatToErrno stat) := by
  have htable : ∀ entry ∈ nfsErrtbl, entry.1 ≠ 0 → RealErrno entry.2 := by decide
  unfold hsiNfs3StatToErrno
  cases hfind : nfsErrtbl.find? fun entry ↦ entry.1 == stat with
  | none => decide
  | some entry =>
    have hkey : entry.1 = stat := by simpa using List.find?_some hfind
    exact htable entry (List.mem_of_find?_eq_some hfind) (by rw [hkey]; exact h)

/-- What `nfs_refresh_inode` returns. -/
theorem nfsRefresh_status (fattr : NfsFattr) (inode : NfsInode) :
    (nfsRefresh fattr inode).2 = 0 ∨ (nfsRefresh fattr inode).2 = -estale := by
  unfold nfsRefresh nfsUpdateInode
  split_ifs
  · exact Or.inl rfl
  · exact Or.inr rfl
  · exact Or.inr rfl
  · exact Or.inl rfl

theorem not_errno_estale : ¬ Errno (-estale) := by
  rintro (h | h)
  · exact absurd h (by decide)
  · exact absurd h (by decide)

/-- An outcome with an error number, if it is a failure of the RPC library. -/
def OutcomeReal {α : Type} (outcome : RpcOutcome α) : Prop :=
  ∀ err hne, outcome = .fail err hne → RealErrno err

theorem rpcErrno_call_iff {procedure : Call} {outcome : RpcOutcome procedure.Body} :
    RpcErrno ⟨.call procedure, outcome⟩ ↔ OutcomeReal outcome := by
  match outcome with
  | .fail err hne =>
    constructor
    · intro h err' hne' heq
      cases heq
      exact h
    · exact fun h ↦ h err hne rfl
  | .done res => exact ⟨fun _ _ _ ↦ nofun, fun _ ↦ trivial⟩

theorem yields_clntCall (procedure : Call) :
    (Prog.clntCall procedure).Yields RpcErrno OutcomeReal :=
  @Program.Yields.ask EnvOp EnvAns Fault Daemon RpcErrno (.call procedure) _
    fun _ ↦ rpcErrno_call_iff.mp

theorem errno_statusOf {α : Type} {outcome : RpcOutcome α} (h : OutcomeReal outcome) :
    Errno (statusOf outcome) := by
  match outcome with
  | .fail err hne => exact (h err hne rfl).errno
  | .done (.fail status hne) => exact (hsiNfs3StatToErrno_real hne).errno
  | .done (.ok body) => exact Or.inl rfl

/-- A procedure that ends with the status of one call. -/
theorem yields_status {procedure : Call} :
    (Prog.clntCall procedure >>= fun outcome ↦ pure (statusOf outcome)).Yields RpcErrno Errno :=
  .bind (yields_clntCall procedure) fun _ h ↦ .pure (errno_statusOf h)

/-- The cases of a call, for procedures that return more than its status. -/
theorem yields_call {α : Type} {procedure : Call} {next : RpcOutcome procedure.Body → Prog α}
    {post : α → Prop}
    (hrpc : ∀ err hne, RealErrno err → (next (.fail err hne)).Yields RpcErrno post)
    (hstatus : ∀ status hne, (next (.done (.fail status hne))).Yields RpcErrno post)
    (hok : ∀ body, (next (.done (.ok body))).Yields RpcErrno post) :
    (Prog.clntCall procedure >>= next).Yields RpcErrno post := by
  refine .bind (yields_clntCall procedure) fun outcome h ↦ ?_
  match outcome with
  | .fail err hne => exact hrpc err hne (h err hne rfl)
  | .done (.fail status hne) => exact hstatus status hne
  | .done (.ok body) => exact hok body

/-! ## The procedures -/

section Procedures

variable (plat : Platform) (index parent : ℕ) (name : CString)

theorem yields_hsiNfsSetattr (attr : HsfsIattr) :
    (hsiNfsSetattr index attr).Yields RpcErrno Errno := by
  intro daemon trace value daemon' hreal hpath
  rcases hsiNfsSetattr_path hpath with ⟨-, -, heq⟩ | ⟨-, outcome, rfl, heq⟩
  · cases heq
    exact Or.inl rfl
  · cases heq
    have houtcome := rpcErrno_call_iff.mp (hreal _ List.mem_cons_self)
    match outcome with
    | .fail err hne => exact (houtcome err hne rfl).errno
    | .done (.fail status hne) => exact (hsiNfs3StatToErrno_real hne).errno
    | .done (.ok none) => exact Or.inr (by decide : RealErrno eagain)
    | .done (.ok (some attributes)) => exact Or.inl rfl

theorem yields_errPtr {assumed : Event EnvAns → Prop} {error : ℤ} (hlow : -184 < error)
    (hhigh : error ≤ 8) :
    (errPtr plat error).Yields assumed fun ptr ↦ isErr plat ptr = false := by
  rintro daemon trace ptr daemon' - hpath
  rw [errPtr_run plat hlow hhigh] at hpath
  cases hpath.2
  exact isErr_err plat hlow.le hhigh

/-- No pointer that `hsi_nfs_fhget` returns is an error to `IS_ERR`. -/
theorem yields_hsiNfsFhget {assumed : Event EnvAns → Prop} (fh : NfsFh) (fattr : NfsFattr) :
    (hsiNfsFhget plat fh fattr).Yields assumed fun ptr ↦ isErr plat ptr = false := by
  refine .bind (yields_errPtr plat (by decide) (by decide)) fun inode hinode ↦ ?_
  refine .ite (.pure hinode) (.ite (.pure hinode) (.after fun ptr ↦ ?_))
  cases ptr with
  | null => exact yields_errPtr plat (by decide) (by decide)
  | err error =>
    have hcrash : (Prog.deref (.err error)).Yields assumed fun _ ↦ False := .after fun _ ↦ .crash _
    exact hcrash.bind fun _ h ↦ h.elim
  | obj index => exact .after fun _ ↦ .after fun _ ↦ .pure (isErr_obj plat _)

theorem yields_hsiNfs3HandleCreate {assumed : Event EnvAns → Prop} (dir : Diropres3ok) :
    (hsiNfs3HandleCreate plat dir).Yields assumed fun ptr ↦ isErr plat ptr = false := by
  unfold hsiNfs3HandleCreate
  split
  · exact yields_errPtr plat (by decide) (by decide)
  · exact yields_hsiNfsFhget plat _ _

theorem yields_hsiNfs3Lookup :
    (hsiNfs3Lookup plat parent name).Yields RpcErrno fun result ↦ Errno result.1 :=
  .after fun _ ↦ yields_call (fun _ _ herr ↦ .pure herr.errno)
    (fun _ hne ↦ .pure (hsiNfs3StatToErrno_real hne).errno) fun _ ↦ .after fun _ ↦
      .pure (Or.inl rfl)

theorem yields_finishCreate {outcome : RpcOutcome Diropres3ok} (h : OutcomeReal outcome) :
    (finishCreate plat outcome).Yields RpcErrno fun result ↦ Errno result.1 := by
  match outcome with
  | .fail err hne => exact .pure (h err hne rfl).errno
  | .done (.fail status hne) => exact .pure (hsiNfs3StatToErrno_real hne).errno
  | .done (.ok res) =>
    refine .bind (yields_hsiNfs3HandleCreate plat res) fun ptr hptr ↦ ?_
    rw [if_neg (by rw [hptr]; exact Bool.false_ne_true)]
    exact .pure (Or.inl rfl)

theorem yields_hsiNfs3Mkdir (mode : UInt32) :
    (hsiNfs3Mkdir plat parent name mode).Yields RpcErrno fun result ↦ Errno result.1 :=
  .after fun _ ↦ .bind (yields_clntCall _) fun _ h ↦ yields_finishCreate plat h

theorem yields_hsiNfs3Symlink (link : CString) :
    (hsiNfs3Symlink plat parent link name).Yields RpcErrno fun result ↦ Errno result.1 :=
  .after fun _ ↦ .bind (yields_clntCall _) fun _ h ↦ yields_finishCreate plat h

theorem yields_hsiNfs3Mknod (mode : UInt32) (rdev : UInt64) :
    (hsiNfs3Mknod plat parent name mode rdev).Yields RpcErrno fun result ↦ Errno result.1 := by
  refine .ite (.pure (Or.inr (by decide))) (.after fun _ ↦ .ite ?_ (.pure (Or.inr (by decide))))
  exact .after fun _ ↦ .bind (yields_clntCall _) fun _ h ↦ yields_finishCreate plat h

theorem yields_hsiNfs3Create (mode : UInt32) :
    (hsiNfs3Create plat parent name mode).Yields RpcErrno fun result ↦ Errno result.1 := by
  refine .after fun _ ↦ yields_call (fun _ _ herr ↦ .pure herr.errno)
    (fun _ hne ↦ .pure (hsiNfs3StatToErrno_real hne).errno) fun res ↦
      .bind (yields_hsiNfs3HandleCreate plat res) fun ptr hptr ↦ ?_
  rw [if_neg (by rw [hptr]; exact Bool.false_ne_true)]
  refine .ite (.bind ?_ fun _ herr ↦ .pure herr) (.pure (Or.inl rfl))
  exact .after fun _ ↦ .after fun _ ↦ yields_hsiNfsSetattr _ _

theorem yields_hsiNfs3Unlink : (hsiNfs3Unlink parent name).Yields RpcErrno Errno :=
  .after fun _ ↦ yields_status

theorem yields_hsiNfs3Rmdir : (hsiNfs3Rmdir parent name).Yields RpcErrno Errno :=
  .after fun _ ↦ yields_status

theorem yields_hsiNfs3Rename (newparent : ℕ) (newname : CString) :
    (hsiNfs3Rename parent name newparent newname).Yields RpcErrno Errno :=
  .after fun _ ↦ .after fun _ ↦ yields_status

theorem yields_hsiNfs3Access (mask : UInt32) : (hsiNfs3Access index mask).Yields RpcErrno Errno :=
  .after fun _ ↦ yields_status

theorem yields_hsiNfs3Readlink :
    (hsiNfs3Readlink index).Yields RpcErrno fun result ↦ Errno result.1 :=
  .after fun _ ↦ yields_call (fun _ _ herr ↦ .pure herr.errno)
    (fun _ hne ↦ .pure (hsiNfs3StatToErrno_real hne).errno) fun _ ↦ .after fun _ ↦
      .ite (.pure (Or.inl rfl)) (.pure (Or.inl rfl))

theorem yields_hsiNfs3Read (offset : UInt64) (size : ℕ) :
    (hsiNfs3Read index offset size).Yields RpcErrno fun result ↦ Errno result.1 :=
  .after fun _ ↦ yields_call (fun _ _ herr ↦ .pure herr.errno)
    (fun _ hne ↦ .pure (hsiNfs3StatToErrno_real hne).errno) fun _ ↦ .pure (Or.inl rfl)

theorem yields_hsiNfs3Write (offset : UInt64) (stable : ℤ) (data : List UInt8) :
    (hsiNfs3Write index offset stable data).Yields RpcErrno fun result ↦ Errno result.1 :=
  .after fun _ ↦ yields_call (fun _ _ herr ↦ .pure herr.errno)
    (fun _ hne ↦ .pure (hsiNfs3StatToErrno_real hne).errno) fun _ ↦ .pure (Or.inl rfl)

theorem yields_hsiNfs3Statfs : (hsiNfs3Statfs index).Yields RpcErrno Errno :=
  .after fun _ ↦ yields_call (fun _ _ herr ↦ .pure herr.errno)
    (fun _ hne ↦ .pure (hsiNfs3StatToErrno_real hne).errno) fun _ ↦ .after fun _ ↦
      .pure (Or.inl rfl)

/-- Without a list there is an error. -/
theorem yields_hsiNfs3Getxattr (mask : UInt32) (type : AclType) :
    (hsiNfs3Getxattr index mask type).Yields RpcErrno fun result ↦
      result.2 = none → RealErrno result.1 := by
  refine .after fun _ ↦ .after fun _ ↦ .ite (.pure fun _ ↦ by decide) ?_
  refine yields_call (fun _ _ herr ↦ .pure fun _ ↦ herr)
    (fun _ hne ↦ .pure fun _ ↦ hsiNfs3StatToErrno_real hne) fun _ ↦ ?_
  refine .after fun _ ↦ .ite ?_ (.pure fun _ ↦ by decide)
  cases type with
  | access => exact .pure nofun
  | default => exact .pure nofun

theorem yields_setxattrLists (acl dfacl : Option PosixAcl) :
    (setxattrLists index acl dfacl).Yields RpcErrno Errno := by
  have hsend (acl : PosixAcl) : (sendSetacl index acl dfacl).Yields RpcErrno Errno := by
    refine .after fun _ ↦ .after fun _ ↦ ?_
    cases dfacl with
    | none => exact .after fun _ ↦ yields_status
    | some dfacl => exact .after fun _ ↦ .after fun _ ↦ yields_status
  unfold setxattrLists
  split
  · exact hsend _
  · refine .after fun _ ↦ .after fun list ↦ ?_
    cases list with
    | none => exact .pure (Or.inl rfl)
    | some acl => exact hsend acl

theorem yields_hsiNfs3Setxattr (value : List UInt8) (type : AclType) :
    (hsiNfs3Setxattr index value type).Yields RpcErrno Errno := by
  refine .after fun _ ↦ .after fun _ ↦ .ite (.pure (Or.inr (by decide))) (.after fun acl ↦ ?_)
  refine .ite (.after fun ⟨err, other⟩ ↦ .ite (.pure (Or.inl rfl)) ?_)
    (.ite (yields_setxattrLists index _ _) (.pure (Or.inl rfl)))
  cases type with
  | access => exact yields_setxattrLists index _ _
  | default => exact yields_setxattrLists index _ _

end Procedures

theorem yields_copyEntries (entries : List Entry3) (chain : List ReaddirCtx) :
    (copyEntries entries chain).Yields RpcErrno fun result ↦ Errno result.1 := by
  induction entries generalizing chain with
  | nil => exact .pure (Or.inl rfl)
  | cons entry rest ih =>
    refine .after fun copied ↦ ?_
    cases copied with
    | none => exact .after fun _ ↦ .pure (Or.inr (by decide))
    | some name => exact ih _

theorem yields_copyEntriesPlus (plat : Platform) (entries : List Entryplus3)
    (chain : List ReaddirCtx) :
    (copyEntriesPlus plat entries chain).Yields RpcErrno fun result ↦ Errno result.1 := by
  induction entries generalizing chain with
  | nil => exact .pure (Or.inl rfl)
  | cons entry rest ih =>
    refine .after fun copied ↦ ?_
    cases copied with
    | none => exact .after fun _ ↦ .pure (Or.inr (by decide))
    | some name =>
      dsimp only
      split
      · exact .after fun _ ↦ .pure (Or.inr (by decide))
      · refine .bind (yields_hsiNfsFhget plat _ _) fun ptr hptr ↦ ?_
        rw [if_neg (by rw [hptr]; exact Bool.false_ne_true)]
        exact ih _

end NfsFuse
