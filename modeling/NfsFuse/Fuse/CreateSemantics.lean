import Mathlib.Logic.Function.Basic
import NfsFuse.Lib.Server
import NfsFuse.Nfs3.Runs
import NfsFuse.Fuse.Acknowledged

/-!
# What `create` does to a directory

A `create` request stands for `open` with `O_CREAT`.  The server keeps the files of a directory by
name and follows the three modes of `CREATE`.  `hsx_fuse_create` asks for a guarded create where it
should ask for an existing file to be truncated, so with `O_TRUNC` it fails on every file that
exists.  In the other cases it does what `open` does, if the reply names an object that can be
cached and that the kernel does not hold yet.
-/

namespace NfsFuse

open Lib

/-- A file on the server, with the verifier of the exclusive create that made it. -/
structure ServerFile where
  handle : NfsFh3
  regular : Bool
  perm : UInt32
  data : List UInt8
  verf : Option UInt64

/-- The files of a directory. -/
abbrev DirFiles := CString → Option ServerFile

/-- Data cut or filled up to a size, if one is given. -/
def resized (size : Option UInt64) (data : List UInt8) : List UInt8 :=
  match size with
  | none => data
  | some size => data.take size.toNat ++ List.replicate (size.toNat - data.length) 0

/-- A `SETATTR` on a file.  One that sets a time ends the life of the verifier. -/
def ServerFile.setattr (file : ServerFile) (attributes : Sattr3) : ServerFile :=
  { file with
    perm := attributes.mode.getD file.perm
    data := resized attributes.size file.data
    verf := if attributes.atime = .dontChange ∧ attributes.mtime = .dontChange then file.verf
      else none }

def DirFiles.setattr (files : DirFiles) (object : List UInt8) (attributes : Sattr3) : DirFiles :=
  fun name ↦ (files name).map fun file ↦
    if file.handle.data = object then file.setattr attributes else file

/-- A new file is as the create asks for. -/
def ServerFile.MadeBy (file : ServerFile) : Createhow3 → Prop
  | .unchecked attributes | .guarded attributes =>
      file.perm = attributes.mode.getD file.perm ∧ file.data = resized attributes.size []
  | .exclusive verf => file.data = [] ∧ file.verf = some verf

/-- `NFS3ERR_EXIST` -/
def nfs3errExist : ℤ := 17

theorem nfs3errExist_ne_zero : nfs3errExist ≠ 0 := by decide

/-- The reply that a name exists. -/
def existReply : RpcOutcome Diropres3ok := .done (.fail nfs3errExist nfs3errExist_ne_zero)

/-- A success with this file: a handle in the reply is the file's. -/
def NamesFile (outcome : RpcOutcome Diropres3ok) (file : ServerFile) : Prop :=
  ∃ res, outcome = .done (.ok res) ∧ ∀ handle, res.obj = some handle → handle = file.handle

/-- `CREATE` of a name.  What happens to other objects than regular files is left open. -/
def Creates (files : DirFiles) (name : CString) (how : Createhow3)
    (outcome : RpcOutcome Diropres3ok) (files' : DirFiles) : Prop :=
  match files name with
  | none => ∃ file : ServerFile, file.MadeBy how ∧ NamesFile outcome file ∧
      files' = Function.update files name (some file)
  | some file => file.regular = true →
      match how with
      | .unchecked attributes => ∃ file' : ServerFile, file'.handle = file.handle ∧
          file'.data = resized attributes.size file.data ∧ NamesFile outcome file' ∧
          files' = Function.update files name (some file')
      | .guarded _ => outcome = existReply ∧ files' = files
      | .exclusive verf =>
          if file.verf = some verf then NamesFile outcome file ∧ files' = files
          else outcome = existReply ∧ files' = files

/-- The server of a directory. -/
def directoryServer (dir : List UInt8) : Server EnvAns DirFiles := fun files event files' ↦
  match event with
  | ⟨.call (.create args how), outcome⟩ =>
      args.dir = dir → Creates files args.name how outcome files'
  | ⟨.call (.setattr object attributes), .done (.ok _)⟩ => files' = files.setattr object attributes
  | _ => files' = files

/-- No call fails, but for what `CREATE` says about the name, and memory is available. -/
def NoRpcFailure : Event EnvAns → Prop
  | ⟨.call (.create _ _), .done _⟩ => True
  | event => Favourable event

/-- `O_EXCL` -/
def oExcl : UInt32 := 0o200

/-- `O_TRUNC` -/
def oTrunc : UInt32 := 0o1000

theorem createMode_and_mask (mode flags : UInt32) : createMode mode flags &&& 0xf0000 =
    if flags &&& oExcl ≠ 0 then 0x20000 else if flags &&& oTrunc ≠ 0 then 0x10000 else 0 := by
  have hperm : mode &&& 0o777 &&& 0xf0000 = 0 := by
    rw [UInt32.and_assoc, (by decide : (0o777 : UInt32) &&& 0xf0000 = 0), UInt32.and_zero]
  rw [createMode, or_and_distrib, hperm, UInt32.zero_or]
  change (if flags &&& oExcl ≠ 0 then _ else if flags &&& oTrunc ≠ 0 then _ else _) &&& _ = _
  split_ifs <;> rfl

theorem createMode_and_perm (mode flags : UInt32) :
    createMode mode flags &&& 0o777 = mode &&& 0o777 := by
  have hflags : (if flags &&& 0o200 ≠ 0 then (0x20000 : UInt32)
      else if flags &&& 0o1000 ≠ 0 then 0x10000 else 0) &&& 0o777 = 0 := by
    split_ifs <;> rfl
  rw [createMode, or_and_distrib, hflags, UInt32.or_zero, UInt32.and_assoc, UInt32.and_self]

theorem isExclusive_createMode_iff (mode flags : UInt32) :
    isExclusive (createMode mode flags) ↔ flags &&& oExcl ≠ 0 := by
  rw [isExclusive, createMode_and_mask]
  split_ifs with hexcl htrunc
  · exact iff_of_true (by decide) hexcl
  · exact iff_of_false (by decide) hexcl
  · exact iff_of_false (by decide) hexcl

/-- How the name is created. -/
theorem createHow_createMode (inode : NfsInode) (mode flags : UInt32) :
    ∃ attributes : Sattr3, attributes.mode = some (mode &&& 0o777) ∧ attributes.size = none ∧
      createHow inode (createMode mode flags) =
        if flags &&& oExcl ≠ 0 then .exclusive inode.ino
        else if flags &&& oTrunc ≠ 0 then .guarded attributes else .unchecked attributes := by
  refine ⟨⟨some (mode &&& 0o777), some inode.iattr.uid, some inode.iattr.gid, none,
    .setToServerTime, .setToServerTime⟩, rfl, rfl, ?_⟩
  rw [createHow, createMode_and_mask, createMode_and_perm]
  by_cases hexcl : flags &&& oExcl ≠ 0
  · rw [if_pos hexcl, if_pos hexcl]
    rfl
  · rw [if_neg hexcl, if_neg hexcl]
    by_cases htrunc : flags &&& oTrunc ≠ 0
    · rw [if_pos htrunc, if_pos htrunc]
      rfl
    · rw [if_neg htrunc, if_neg htrunc]
      rfl

/-- The allocation of an inode. -/
def IsInodeMalloc (event : Event EnvAns) : Prop := ∃ granted, event = ⟨.malloc .nfsInode, granted⟩

/-- Allocations change nothing on the server. -/
theorem directoryServer_mallocs {dir : List UInt8} {files files' : DirFiles} {trace : Trace}
    (h : ∀ event ∈ trace, IsInodeMalloc event)
    (hgives : (directoryServer dir).Gives files trace files') : files' = files := by
  induction trace generalizing files with
  | nil => exact hgives
  | cons event rest ih =>
    obtain ⟨middle, hstep, hrest⟩ := hgives
    obtain ⟨⟨granted, rfl⟩, hmore⟩ := List.forall_mem_cons.mp h
    rw [ih hmore hrest]
    exact hstep

section Runs

variable {plat : Platform} {daemon : Daemon}

/-- `hsi_nfs3_handle_create` only allocates, and an object it returns has the handle of the
reply. -/
theorem handleCreate_run (hcoherent : Coherent daemon) {res : Diropres3ok} {trace : Trace}
    {ending : Ending Fault Daemon InodePtr}
    (hpath : ((hsiNfs3HandleCreate plat res).run daemon).Path trace ending) :
    (∀ event ∈ trace, IsInodeMalloc event) ∧
      ∀ index daemon', ending = .done (.obj index) daemon' → ∃ handle, res.obj = some handle ∧
        hsiNfs3Getfh3 (daemon'.inode index) = handle.data := by
  unfold hsiNfs3HandleCreate at hpath
  split at hpath
  · rw [errPtr_enoent plat daemon] at hpath
    obtain ⟨rfl, rfl⟩ := hpath
    refine ⟨by simp, fun index daemon' heq ↦ ?_⟩
    cases (Ending.done.inj heq).1
  · rename_i handle hsome
    rw [hsiNfsFhget_path_iff plat hcoherent.live] at hpath
    refine ⟨?_, fun index daemon' heq ↦ ⟨handle, hsome, ?_⟩⟩
    · cases hpath <;> simp [IsInodeMalloc]
    · subst heq
      obtain ⟨-, hptr, -⟩ := hcoherent.fhget (nfsCopyFh3_wellFormed handle) hpath
      exact hsiNfs3Getfh3_copied (hptr index rfl).2.2

/-- What a `CREATE` that succeeds is followed by: the mode of an exclusively created object is set
through the handle of the reply. -/
theorem hsiNfs3Create_run (hcoherent : Coherent daemon) (hpos : 0 < daemon.heap.length) {parent : ℕ}
    {name : CString} {mode : UInt32} {trace : Trace} {err : ℤ} {ptr : InodePtr} {daemon' : Daemon}
    (hpath : ((hsiNfs3Create plat parent name mode).run daemon).Path trace
      (.done (err, ptr) daemon')) :
    ∃ outcome rest, trace = ⟨.call (.create ⟨hsiNfs3Getfh3 (daemon.inode parent), name⟩
        (createHow (daemon.inode parent) mode)), outcome⟩ :: rest ∧
      ((statusOf outcome ≠ 0 ∧ rest = [] ∧ err = statusOf outcome ∧ daemon' = daemon) ∨
        ∃ res front, outcome = .done (.ok res) ∧ (∀ event ∈ front, IsInodeMalloc event) ∧
          ((¬ isExclusive mode ∧ rest = front ∧ err = 0) ∨
            ∃ handle second, isExclusive mode ∧ res.obj = some handle ∧
              rest = front ++ [⟨.call (.setattr handle.data
                { Sattr3.cleared with mode := some (mode &&& 0o777) }), second⟩] ∧
              err = (setattrResult second).1)) := by
  unfold hsiNfs3Create at hpath
  rw [Prog.getInode_bind] at hpath
  obtain ⟨outcome, rest, rfl, hrest⟩ := Prog.path_clntCall_bind.mp hpath
  refine ⟨outcome, rest, rfl, ?_⟩
  match outcome with
  | .fail err hne =>
    obtain ⟨rfl, heq⟩ := hrest
    cases heq
    exact Or.inl ⟨hne, rfl, rfl, rfl⟩
  | .done (.fail status hne) =>
    obtain ⟨rfl, heq⟩ := hrest
    cases heq
    exact Or.inl ⟨hsiNfs3StatToErrno_ne_zero hne, rfl, rfl, rfl⟩
  | .done (.ok res) =>
    right
    obtain ⟨new, daemon₁, front, back, hcreate, hback, rfl⟩ := Program.path_bind_done.mp hrest
    obtain ⟨hmallocs, hhandle⟩ := handleCreate_run hcoherent hcreate
    refine ⟨res, front, rfl, hmallocs, ?_⟩
    rcases handleCreate_verdict hcoherent hpos hcreate with
      ⟨handle, index, daemon₂, -, -, heq, has⟩ | ⟨-, ⟨error, heq, herr⟩ | ⟨_, _, heq⟩⟩
    · cases heq
      rw [if_neg (by rw [isErr_obj]; exact Bool.false_ne_true)] at hback
      by_cases hexclusive : (mode &&& 0xf0000) >>> 16 = 2
      · rw [if_pos hexclusive] at hback
        obtain ⟨status, daemon₂, front₂, back₂, hset, hlast, rfl⟩ := Program.path_bind_done.mp hback
        obtain ⟨second, rfl, heq⟩ := exclusiveSetattr_sends has.coherent has.lt_length hset
        cases heq
        obtain ⟨rfl, heq⟩ := hlast
        cases heq
        obtain ⟨handle, hobj, hfh⟩ := hhandle index _ rfl
        refine Or.inr ⟨handle, second, hexclusive, hobj, ?_, rfl⟩
        rw [List.append_nil, hfh]
      · rw [if_neg hexclusive] at hback
        obtain ⟨rfl, heq⟩ := hback
        cases heq
        exact Or.inl ⟨hexclusive, List.append_nil _, rfl⟩
    · cases heq
      rw [if_neg (by rw [herr]; exact Bool.false_ne_true)] at hback
      by_cases hexclusive : (mode &&& 0xf0000) >>> 16 = 2
      · -- The second step goes through the error pointer.
        rw [if_pos hexclusive] at hback
        cases hback.2
      · rw [if_neg hexclusive] at hback
        obtain ⟨rfl, heq⟩ := hback
        cases heq
        exact Or.inl ⟨hexclusive, List.append_nil _, rfl⟩
    · cases heq

end Runs

/-! ## What the request does -/

/-- The success reply to `create`. -/
def isCreateReply : FuseReply → Prop
  | .create _ => True
  | _ => False

/-- What `open` with `O_CREAT` does to a name that is absent or names a regular file. -/
def OpenCreate (mode flags : UInt32) (before after : Option ServerFile) (daemon : Daemon)
    (ending : Ending Fault Daemon Unit) : Prop :=
  match before with
  | none => RepliedWith isCreateReply daemon ending ∧
      ∃ file, after = some file ∧ file.perm = mode &&& 0o777
  | some file => file.regular = true →
      if flags &&& oExcl ≠ 0 then RepliedWith (· = .err eexist) daemon ending ∧ after = some file
      else RepliedWith isCreateReply daemon ending ∧ ∃ file', after = some file' ∧
        file'.data = if flags &&& oTrunc ≠ 0 then [] else file.data

/-- When the request does so: the reply names an object that can be cached and is not held by the
kernel, the second step of an exclusive create brings attributes, and no existing file is to be
truncated. -/
def CreateHonoured (daemon : Daemon) (mode flags : UInt32) (before : Option ServerFile)
    (trace : Trace) : Prop :=
  match before with
  | none => Acquired daemon trace ∧ Unreferenced daemon trace ∧
      ¬ SetattrFailed (createMode mode flags) trace
  | some file => file.regular = true → flags &&& oExcl ≠ 0 ∨
      (flags &&& oTrunc = 0 ∧ Acquired daemon trace ∧ Unreferenced daemon trace)

section Request

variable {plat : Platform} {daemon : Daemon} (hcoherent : Coherent daemon)
  (hpos : 0 < daemon.heap.length) {parent : ℕ} {name : CString} {mode : UInt32}

include hcoherent hpos

/-- A `create` whose `CREATE` succeeds is refused only for the second step of an exclusive one. -/
theorem hsiNfs3Create_refused {trace : Trace} {err : ℤ} {ptr : InodePtr} {daemon' : Daemon}
    (hpath : ((hsiNfs3Create plat parent name mode).run daemon).Path trace
      (.done (err, ptr) daemon')) (hne : err ≠ 0)
    (hmade : ∀ outcome rest, trace = ⟨.call (.create ⟨hsiNfs3Getfh3 (daemon.inode parent), name⟩
      (createHow (daemon.inode parent) mode)), outcome⟩ :: rest → statusOf outcome = 0) :
    SetattrFailed mode trace := by
  obtain ⟨outcome, rest, rfl, hcases⟩ := hsiNfs3Create_run hcoherent hpos hpath
  rcases hcases with ⟨hstatus, -⟩ | ⟨res, front, rfl, hmallocs,
    ⟨-, -, herr⟩ | ⟨handle, second, hexclusive, -, rfl, herr⟩⟩
  · exact absurd (hmade outcome rest rfl) hstatus
  · exact absurd herr hne
  · refine ⟨hexclusive, ?_⟩
    rw [List.forall_mem_cons, List.forall_mem_append, List.forall_mem_singleton]
    refine ⟨rfl, fun event hmem ↦ ?_, ?_⟩
    · obtain ⟨granted, rfl⟩ := hmallocs event hmem
      rfl
    · rw [herr, ne_eq, setattrResult_eq_zero_iff] at hne
      match second with
      | .fail err hne => rfl
      | .done (.fail status hne) => rfl
      | .done (.ok none) => rfl
      | .done (.ok (some attributes)) => exact absurd ⟨attributes, rfl⟩ hne

/-- What the follow-up of a successful `CREATE` does to the directory. -/
theorem hsiNfs3Create_leaves {trace : Trace} {err : ℤ} {ptr : InodePtr} {daemon' : Daemon}
    {res : Diropres3ok} {dir : List UInt8} {files files' : DirFiles}
    (hpath : ((hsiNfs3Create plat parent name mode).run daemon).Path
      (⟨.call (.create ⟨hsiNfs3Getfh3 (daemon.inode parent), name⟩
        (createHow (daemon.inode parent) mode)), .done (.ok res)⟩ :: trace)
          (.done (err, ptr) daemon'))
    (hcalls : ∀ event ∈ trace, NoRpcFailure event)
    (hgives : (directoryServer dir).Gives files trace files') :
    (¬ isExclusive mode ∧ files' = files) ∨ (isExclusive mode ∧ ∃ handle, res.obj = some handle ∧
      files' = files.setattr handle.data
        { Sattr3.cleared with mode := some (mode &&& 0o777) }) := by
  obtain ⟨outcome, rest, heq, hcases⟩ := hsiNfs3Create_run hcoherent hpos hpath
  cases heq
  rcases hcases with ⟨hstatus, -⟩ | ⟨res, front, heq, hmallocs,
    ⟨hshared, rfl, -⟩ | ⟨handle, second, hexclusive, hobj, rfl, -⟩⟩
  · exact absurd rfl hstatus
  · exact Or.inl ⟨hshared, directoryServer_mallocs hmallocs hgives⟩
  · cases heq
    obtain ⟨middle, hfront, last, hset, hlast⟩ := Server.gives_append.mp hgives
    rw [directoryServer_mallocs hmallocs hfront] at hset
    have hdone : Favourable ⟨.call (.setattr handle.data
        { Sattr3.cleared with mode := some (mode &&& 0o777) }), second⟩ :=
      hcalls _ (List.mem_append_right _ (List.mem_singleton_self _))
    obtain ⟨attributes, rfl⟩ := favourable_call hdone
    rw [Server.gives_nil.mp hlast]
    exact Or.inr ⟨hexclusive, handle, hobj, hset⟩

/-- A new file has the permission bits that were asked for. -/
theorem hsiNfs3Create_new {perm flags : UInt32} {trace : Trace} {err : ℤ} {ptr : InodePtr}
    {daemon' : Daemon} {res : Diropres3ok} {dir : List UInt8} {files files' : DirFiles}
    {file : ServerFile}
    (hpath : ((hsiNfs3Create plat parent name (createMode perm flags)).run daemon).Path
      (⟨.call (.create ⟨hsiNfs3Getfh3 (daemon.inode parent), name⟩
        (createHow (daemon.inode parent) (createMode perm flags))), .done (.ok res)⟩ :: trace)
      (.done (err, ptr) daemon'))
    (hcalls : ∀ event ∈ trace, NoRpcFailure event)
    (hmade : file.MadeBy (createHow (daemon.inode parent) (createMode perm flags)))
    (hnames : ∀ handle, res.obj = some handle → handle = file.handle)
    (hgives : (directoryServer dir).Gives (Function.update files name (some file)) trace files') :
    ∃ file', files' name = some file' ∧ file'.perm = perm &&& 0o777 := by
  rcases hsiNfs3Create_leaves hcoherent hpos hpath hcalls hgives with ⟨hshared, rfl⟩ |
    ⟨-, handle, hobj, rfl⟩
  · refine ⟨file, Function.update_self .., ?_⟩
    obtain ⟨attributes, hattributes, -, hhow⟩ :=
      createHow_createMode (daemon.inode parent) perm flags
    rw [isExclusive_createMode_iff] at hshared
    rw [hhow, if_neg hshared] at hmade
    split_ifs at hmade
    · rw [hmade.1, hattributes, Option.getD_some]
    · rw [hmade.1, hattributes, Option.getD_some]
  · refine ⟨file.setattr { Sattr3.cleared with mode := some (createMode perm flags &&& 0o777) }, ?_,
      createMode_and_perm perm flags⟩
    rw [DirFiles.setattr, Function.update_self, Option.map_some, hnames handle hobj, if_pos rfl]

end Request

section Handler

variable {plat : Platform} {daemon : Daemon} {parent : ℕ} {name : CString} {mode : UInt32}
  {trace : Trace} {ending : Ending Fault Daemon Unit}
  (hpath : ((hsiNfs3Create plat parent name mode >>= fun result ↦
    replyCreated result.1 result.2 .create).run daemon).Path trace ending)

include hpath

/-- A request that replies has come to the end of `hsi_nfs3_create`. -/
theorem create_done {kind : FuseReply → Prop} (hreplied : RepliedWith kind daemon ending) :
    ∃ err ptr daemon',
      ((hsiNfs3Create plat parent name mode).run daemon).Path trace (.done (err, ptr) daemon') := by
  obtain ⟨_, _, rfl, -⟩ := hreplied
  obtain ⟨⟨err, ptr⟩, daemon', front, rest, hfirst, hrest, rfl⟩ := Program.path_bind_done.mp hpath
  obtain rfl : rest = [] := (emits_replyCreated err ptr .create).trace_eq_nil hrest
  rw [List.append_nil]
  exact ⟨err, ptr, daemon', hfirst⟩

/-- The request begins with `CREATE`, and a failure of that call is its reply. -/
theorem create_sends : ∃ outcome rest,
    trace = ⟨.call (.create ⟨hsiNfs3Getfh3 (daemon.inode parent), name⟩
      (createHow (daemon.inode parent) mode)), outcome⟩ :: rest ∧
    (statusOf outcome ≠ 0 → rest = [] ∧ ∀ kind,
      RepliedWith kind daemon ending ↔ kind (.err (statusOf outcome))) := by
  have hsends {front : Trace} {last : Ending Fault Daemon (ℤ × InodePtr)}
      (hfirst : ((hsiNfs3Create plat parent name mode).run daemon).Path front last) :
      ∃ outcome rest, front = ⟨.call (.create ⟨hsiNfs3Getfh3 (daemon.inode parent), name⟩
        (createHow (daemon.inode parent) mode)), outcome⟩ :: rest ∧
      (statusOf outcome ≠ 0 → rest = [] ∧ ∃ ptr, last = .done (statusOf outcome, ptr) daemon) := by
    unfold hsiNfs3Create at hfirst
    rw [Prog.getInode_bind] at hfirst
    obtain ⟨outcome, rest, rfl, hrest⟩ := Prog.path_clntCall_bind.mp hfirst
    refine ⟨outcome, rest, rfl, fun hstatus ↦ ?_⟩
    match outcome with
    | .fail err hne => exact ⟨hrest.1, _, hrest.2⟩
    | .done (.fail status hne) => exact ⟨hrest.1, _, hrest.2⟩
    | .done (.ok res) => exact absurd rfl hstatus
  rcases Program.path_bind.mp hpath with ⟨⟨err, ptr⟩, daemon', front, back, hfirst, hback, rfl⟩ |
    ⟨reason, daemon', hcrash, rfl⟩
  · obtain ⟨outcome, rest, rfl, hfail⟩ := hsends hfirst
    obtain rfl : back = [] := (emits_replyCreated err ptr .create).trace_eq_nil hback
    refine ⟨outcome, rest, List.append_nil _, fun hstatus ↦ ?_⟩
    obtain ⟨rfl, ptr, heq⟩ := hfail hstatus
    cases heq
    unfold replyCreated at hback
    rw [if_pos hstatus] at hback
    exact ⟨rfl, fun kind ↦ repliedWith_reply_iff rfl hback⟩
  · obtain ⟨outcome, rest, rfl, hfail⟩ := hsends hcrash
    refine ⟨outcome, rest, rfl, fun hstatus ↦ ?_⟩
    obtain ⟨-, ptr, heq⟩ := hfail hstatus
    cases heq

/-- With a successful `CREATE` the request succeeds if the object can be cached and counted. -/
theorem create_succeeds_iff (hcoherent : Coherent daemon) (hpos : 0 < daemon.heap.length)
    (hmade : ∀ outcome rest, trace = ⟨.call (.create ⟨hsiNfs3Getfh3 (daemon.inode parent), name⟩
      (createHow (daemon.inode parent) mode)), outcome⟩ :: rest → statusOf outcome = 0) :
    RepliedWith isCreateReply daemon ending ↔
      Acquired daemon trace ∧ Unreferenced daemon trace ∧ ¬ SetattrFailed mode trace :=
  created_succeeds_iff (fun _ _ ↦ hsiNfs3Create_objectRun hcoherent hpos)
    (fun _ _ _ hrun hne ↦ hsiNfs3Create_refused hcoherent hpos hrun hne hmade) hpath
    (fun _ ↦ trivial) fun _ ↦ id

/-- A `CREATE` that finds the name fails the request and leaves the file alone. -/
theorem create_exist {files files' : DirFiles}
    (hgives : (directoryServer (hsiNfs3Getfh3 (daemon.inode parent))).Gives files trace files')
    (hexist : ∀ outcome middle,
      Creates files name (createHow (daemon.inode parent) mode) outcome middle →
        outcome = existReply ∧ middle = files) :
    files' = files ∧ ∀ kind, RepliedWith kind daemon ending ↔ kind (.err eexist) := by
  have hstatus : statusOf existReply = eexist := by decide
  obtain ⟨outcome, rest, rfl, hfail⟩ := create_sends hpath
  obtain ⟨middle, hcreate, hrest⟩ := hgives
  obtain ⟨rfl, rfl⟩ := hexist outcome middle (hcreate rfl)
  rw [hstatus] at hfail
  obtain ⟨rfl, hkind⟩ := hfail (by decide)
  exact ⟨hrest, hkind⟩

variable (hcoherent : Coherent daemon) (hpos : 0 < daemon.heap.length) {perm flags : UInt32}
  (hmode : mode = createMode perm flags) {files files' : DirFiles}
  (hgives : (directoryServer (hsiNfs3Getfh3 (daemon.inode parent))).Gives files trace files')
  (hcalls : ∀ event ∈ trace, NoRpcFailure event)

include hcoherent hpos hmode hgives hcalls

/-- A name that is absent. -/
theorem create_absent_iff (hname : files name = none) :
    (RepliedWith isCreateReply daemon ending ∧
        ∃ file, files' name = some file ∧ file.perm = perm &&& 0o777) ↔
      Acquired daemon trace ∧ Unreferenced daemon trace ∧ ¬ SetattrFailed mode trace := by
  have hsucceeds := create_succeeds_iff hpath hcoherent hpos
  obtain ⟨outcome, rest, rfl, -⟩ := create_sends hpath
  obtain ⟨middle, hcreates, hrest⟩ := hgives
  replace hcreates : Creates files name (createHow (daemon.inode parent) mode) outcome middle :=
    hcreates rfl
  rw [Creates, hname] at hcreates
  obtain ⟨file, hmade, ⟨res, rfl, hnames⟩, rfl⟩ := hcreates
  rw [← hsucceeds fun outcome rest heq ↦ by cases heq; rfl]
  refine and_iff_left_of_imp fun hreplied ↦ ?_
  obtain ⟨err, ptr, daemon', hdone⟩ := create_done hpath hreplied
  subst hmode
  exact hsiNfs3Create_new hcoherent hpos hdone (List.forall_mem_cons.mp hcalls).2 hmade hnames hrest

/-- A regular file that is neither to be new nor to be truncated. -/
theorem create_open_iff {file : ServerFile} (hname : files name = some file)
    (hregular : file.regular = true) (hexcl : ¬ flags &&& oExcl ≠ 0)
    (htrunc : flags &&& oTrunc = 0) :
    (RepliedWith isCreateReply daemon ending ∧
        ∃ file', files' name = some file' ∧ file'.data = file.data) ↔
      Acquired daemon trace ∧ Unreferenced daemon trace := by
  have hsucceeds := create_succeeds_iff hpath hcoherent hpos
  have hshared : ¬ isExclusive mode := by
    rwa [hmode, isExclusive_createMode_iff]
  obtain ⟨attributes, -, hsize, hhow⟩ := createHow_createMode (daemon.inode parent) perm flags
  rw [← hmode, if_neg hexcl, if_neg (not_not.mpr htrunc)] at hhow
  obtain ⟨outcome, rest, rfl, -⟩ := create_sends hpath
  obtain ⟨middle, hcreates, hrest⟩ := hgives
  replace hcreates : Creates files name (createHow (daemon.inode parent) mode) outcome middle :=
    hcreates rfl
  rw [Creates, hname, hhow] at hcreates
  obtain ⟨file', -, hdata, ⟨res, rfl, -⟩, rfl⟩ := hcreates hregular
  replace hsucceeds := hsucceeds fun outcome rest heq ↦ by cases heq; rfl
  rw [and_iff_left fun h ↦ hshared h.1] at hsucceeds
  rw [← hsucceeds]
  refine and_iff_left_of_imp fun hreplied ↦ ⟨file', ?_, ?_⟩
  · obtain ⟨err, ptr, daemon', hdone⟩ := create_done hpath hreplied
    rcases hsiNfs3Create_leaves hcoherent hpos hdone (List.forall_mem_cons.mp hcalls).2 hrest with
      ⟨-, rfl⟩ | ⟨hexclusive, -⟩
    · exact Function.update_self ..
    · exact absurd hexclusive hshared
  · rw [hdata, hsize]
    rfl

/-- The effect of a `create` in a directory. -/
theorem create_openCreate_iff
    (hdistinct : ∀ file, files name = some file → file.verf ≠ some (daemon.inode parent).ino) :
    OpenCreate perm flags (files name) (files' name) daemon ending ↔
      CreateHonoured daemon perm flags (files name) trace := by
  cases hname : files name with
  | none =>
    rw [OpenCreate, CreateHonoured, ← hmode]
    exact create_absent_iff hpath hcoherent hpos hmode hgives hcalls hname
  | some file =>
    refine imp_congr_right fun hregular ↦ ?_
    obtain ⟨attributes, -, -, hhow⟩ := createHow_createMode (daemon.inode parent) perm flags
    rw [← hmode] at hhow
    by_cases hexcl : flags &&& oExcl ≠ 0
    · rw [if_pos hexcl] at hhow ⊢
      obtain ⟨rfl, hkind⟩ := create_exist hpath hgives fun outcome middle hcreates ↦ by
        rw [Creates, hname, hhow] at hcreates
        replace hcreates := hcreates hregular
        dsimp only at hcreates
        rwa [if_neg (hdistinct file hname)] at hcreates
      exact iff_of_true ⟨(hkind _).mpr rfl, hname⟩ (Or.inl hexcl)
    · rw [if_neg hexcl] at hhow ⊢
      rw [or_iff_right hexcl]
      by_cases htrunc : flags &&& oTrunc = 0
      · rw [and_iff_right htrunc, if_neg (not_not.mpr htrunc)]
        exact create_open_iff hpath hcoherent hpos hmode hgives hcalls hname hregular hexcl htrunc
      · rw [if_pos htrunc] at hhow
        obtain ⟨-, hkind⟩ := create_exist hpath hgives fun outcome middle hcreates ↦ by
          rw [Creates, hname, hhow] at hcreates
          exact hcreates hregular
        exact iff_of_false (fun h ↦ (hkind _).mp h.1) fun h ↦ htrunc h.1

end Handler

/-- In every directory `create` does what `open` with `O_CREAT` does exactly when the condition
holds. -/
theorem create_open_semantics_iff (plat : Platform) (daemon : Daemon) (parent : UInt64) (hi : ℕ)
    (name : CString) (mode flags uid gid : UInt32) (trace : Trace)
    (ending : Ending Fault Daemon Unit) (files files' : DirFiles) (hserving : Serving daemon)
    (hfind : daemon.findIno parent = some hi)
    (hpath : ((hsxFuseCreate plat parent name mode flags uid gid).run daemon).Path trace ending)
    (hgives : (directoryServer (hsiNfs3Getfh3 (daemon.inode hi))).Gives files trace files')
    (hcalls : ∀ event ∈ trace, NoRpcFailure event)
    (hdistinct : ∀ file, files name = some file → file.verf ≠ some (daemon.inode hi).ino) :
    OpenCreate mode flags (files name) (files' name) daemon ending ↔
      CreateHonoured daemon mode flags (files name) trace := by
  have hcoherent := hserving.coherent
  have hlt := ((hcoherent.findIno_eq_some_iff parent hi).mp hfind).1
  rw [hsxFuseCreate, hcoherent.ilookup_bind, hfind] at hpath
  obtain ⟨daemon₁, hcoherent₁, hgrows, hlength, hcreate⟩ := hcoherent.setOwner_bind hpath
  have hfh : hsiNfs3Getfh3 (daemon₁.inode hi) = hsiNfs3Getfh3 (daemon.inode hi) := by
    rw [hsiNfs3Getfh3, hgrows.fh_eq hi hlt, hsiNfs3Getfh3]
  rw [← hfh] at hgives
  rw [← hgrows.ino_eq hi hlt] at hdistinct
  have hsame := create_openCreate_iff hcreate hcoherent₁
    (hserving.length_pos.trans_le hgrows.length_le) rfl hgives hcalls hdistinct
  simp only [OpenCreate, CreateHonoured, acquired_congr hlength,
    hcoherent.unreferenced_congr hcoherent₁ hgrows hlength, RepliedWith, hgrows.replies_eq] at hsame
  exact hsame

/-- A file with one byte. -/
def oneByteFile : ServerFile := ⟨⟨[8], by decide⟩, true, 0o644, [1], none⟩

/-- A directory with that file. -/
def oneFile : DirFiles := Function.update (fun _ ↦ none) [102] (some oneByteFile)

/-- The answers to the creation of another one. -/
def fileCreated : Trace :=
  [⟨.call (.create ⟨[0], [103]⟩ (createHow (mountedCache.inode 0) (createMode 0o600 0))),
      RpcOutcome.done (.ok ⟨some ⟨[7], fileHandle_fits⟩, some plainAttr⟩)⟩,
    ⟨.malloc .nfsInode, true⟩]

/-- A name that is absent is created with the permission bits asked for. -/
theorem create_open_semantics_new : ∃ ending files',
    ((hsxFuseCreate linuxHost 1 [103] 0o600 0 0 0).run mountedCache).Path fileCreated ending ∧
    (directoryServer [0]).Gives oneFile fileCreated files' ∧
    RepliedWith isCreateReply mountedCache ending ∧
      ∃ file, files' [103] = some file ∧ file.perm = 0o600 := by
  have hserving := mounted_mountedCache.serving
  have hpath : ∃ ending, ((hsxFuseCreate linuxHost 1 [103] 0o600 0 0 0).run mountedCache).Path
      fileCreated ending := by
    rw [hsxFuseCreate, hserving.coherent.ilookup_bind]
    exact ⟨_, _, _, rfl, true, _, rfl, rfl, rfl⟩
  obtain ⟨ending, hpath⟩ := hpath
  have hgives : (directoryServer [0]).Gives oneFile fileCreated
      (Function.update oneFile [103]
        (some ⟨⟨[7], fileHandle_fits⟩, true, 0o600, [], none⟩)) := by
    refine ⟨_, fun _ ↦ ?_, _, rfl, rfl⟩
    refine ⟨_, ⟨rfl, rfl⟩, ⟨_, rfl, ?_⟩, rfl⟩
    rintro handle heq
    cases heq
    rfl
  have hhonoured : CreateHonoured mountedCache 0o600 0 (oneFile [103]) fileCreated := by
    refine ⟨?_, ?_, fun h ↦ (isExclusive_createMode_iff 0o600 0).mp h.1 rfl⟩
    · rintro object attributes heq
      cases heq
      refine ⟨rfl, rfl, ?_, by decide⟩
      simp [fileCreated, inodeDenied]
    · rintro handle attributes heq
      cases heq
      rfl
  exact ⟨_, _, hpath, hgives,
    (create_open_semantics_iff linuxHost mountedCache 1 0 [103] 0o600 0 0 0
    _ _ oneFile _ hserving rfl hpath hgives
    (List.forall_mem_cons.mpr ⟨trivial, List.forall_mem_singleton.mpr trivial⟩)
    fun file hsome ↦ absurd hsome.symm (Option.some_ne_none file)).mpr hhonoured⟩

/-- With `O_TRUNC` a file that exists is refused with `EEXIST` and keeps its data. -/
theorem truncating_create_refused : Serving mountedCache ∧
    ((hsxFuseCreate linuxHost 1 [102] 0o644 oTrunc 0 0).run mountedCache).Path
      [⟨.call (.create ⟨[0], [102]⟩ (createHow (mountedCache.inode 0) (createMode 0o644 oTrunc))),
        existReply⟩] (.done () (mountedCache.setReplies [.err eexist])) ∧
    (directoryServer [0]).Gives oneFile
      [⟨.call (.create ⟨[0], [102]⟩ (createHow (mountedCache.inode 0) (createMode 0o644 oTrunc))),
        existReply⟩] oneFile ∧
    ¬ OpenCreate 0o644 oTrunc (oneFile [102]) (oneFile [102]) mountedCache
      (.done () (mountedCache.setReplies [.err eexist])) := by
  have hserving := mounted_mountedCache.serving
  refine ⟨hserving, ?_, ?_, ?_⟩
  · rw [hsxFuseCreate, hserving.coherent.ilookup_bind]
    exact ⟨_, _, rfl, rfl, rfl⟩
  · exact ⟨_, fun _ _ ↦ ⟨rfl, rfl⟩, rfl⟩
  · intro hopen
    obtain ⟨⟨daemon', message, heq, hreplies, hkind⟩, -⟩ := hopen rfl
    cases heq
    cases hreplies
    exact hkind

end NfsFuse
