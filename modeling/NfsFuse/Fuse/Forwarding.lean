import NfsFuse.Lib.Interleaving
import NfsFuse.Lib.Visible
import NfsFuse.Nfs3.ErrorPointers
import NfsFuse.Fuse.CreateSemantics
import NfsFuse.Fuse.Serving
import NfsFuse.Fuse.Transfer

/-!
# What requests do to the server

The daemon translates requests of the kernel into calls of the server.  Here is what that
translation does to the server, whatever the server is: a request about inode numbers becomes at
most one modification, which is about the handles these numbers stand for in the cache and about the
names the kernel has given.  There are three exceptions.  An exclusive create sets the mode of the
object it has created, a write is sent in parts, and setting an access control list depends on the
lists that are read back first.

A server that calls such as `GETATTR` and `READ` leave alone therefore goes, in a run of requests,
through modifications that the requests stand for, one request after the other.
-/

namespace NfsFuse

open Lib

attribute [local irreducible] hsiNfsFhget

/-- The procedures that change what the server stores. -/
def Call.modifies : Call → Bool
  | .setattr .. | .write .. | .create .. | .mkdir .. | .symlink .. | .mknod .. => true
  | .remove .. | .rmdir .. | .rename .. | .link .. | .setacl .. => true
  | _ => false

/-- A call of such a procedure. -/
def isModification : Event EnvAns → Bool
  | ⟨.call procedure, _⟩ => procedure.modifies
  | _ => false

/-- The inode with a number. -/
def Daemon.cached (daemon : Daemon) (ino : UInt64) : Option NfsInode :=
  (daemon.findIno ino).map daemon.inode

/-- The entry of a name in a directory. -/
def NfsInode.entry (dir : NfsInode) (name : CString) : Diropargs3 := ⟨hsiNfs3Getfh3 dir, name⟩

/-- The modification that a request stands for, given what inode numbers stand for. -/
def Request.modification (cached : UInt64 → Option NfsInode) : Request → Option Call
  | .setattr ino attr toSet => do
      let inode ← cached ino
      return .setattr (hsiNfs3Getfh3 inode)
        (sattrOfIattr (passedIattr inode (hsxFuseStat2iattr attr toSet)))
  | .mkdir parent name mode => do
      let dir ← cached parent
      return .mkdir (dir.entry name) { Sattr3.cleared with mode := some (mode &&& 0xfff) }
  | .rmdir parent name => do
      let dir ← cached parent
      return .rmdir (dir.entry name)
  | .unlink parent name => do
      let dir ← cached parent
      return .remove (dir.entry name)
  | .rename parent name newparent newname _ => do
      let dir ← cached parent
      let newdir ← cached newparent
      return .rename (dir.entry name) (newdir.entry newname)
  | .symlink text parent name => do
      let dir ← cached parent
      return .symlink (dir.entry name) .cleared text
  | .link ino newparent newname => do
      let dir ← cached newparent
      let inode ← cached ino
      return .link (hsiNfs3Getfh3 inode) (dir.entry newname)
  | .mknod parent name mode rdev => do
      let dir ← cached parent
      return .mknod (dir.entry name) (mknodData mode rdev)
  | .create parent name mode flags uid gid => do
      let dir ← cached parent
      -- the owner of the new file is passed on in the inode of the directory
      let owned := { dir with iattr := { dir.iattr with uid, gid } }
      return .create (dir.entry name) (createHow owned (createMode mode flags))
  | _ => none

/-- A part of a buffer is written to the place in the file where it belongs. -/
def IsPart (file data : List UInt8) (off : UInt64) (directIo : Bool) : Event EnvAns → Prop
  | ⟨.call (.write fh offset count stable bytes), _⟩ =>
      fh = file ∧ count = bytes.length ∧ stable = (if directIo then 2 else 0) ∧
        ∃ skipped < data.length, offset = off + UInt64.ofNat skipped ∧ bytes <+: data.drop skipped
  | _ => False

/-- The modifications that a request may lead to, at most.  Every request may lead to none, as it
may be refused before its call.  The attributes that are set behind an exclusive create, how much of
the data the parts of a write cover and the list that is set are left open. -/
inductive Effect (daemon : Daemon) : Request → Trace → Prop where
  | none {request : Request} : Effect daemon request []
  | one {request : Request} {procedure : Call} (outcome : RpcOutcome procedure.Body)
      (h : request.modification daemon.cached = some procedure) :
      Effect daemon request [⟨.call procedure, outcome⟩]
  | exclusive {parent : UInt64} {name : CString} {mode flags uid gid : UInt32} {args : Diropargs3}
      {how : Createhow3} {res : Diropres3ok} {handle : NfsFh3} {attributes : Sattr3}
      (outcome : RpcOutcome (Option Fattr3))
      (h : (Request.create parent name mode flags uid gid).modification daemon.cached =
        some (.create args how)) (hobj : res.obj = some handle) :
      Effect daemon (.create parent name mode flags uid gid)
        [⟨.call (.create args how), .done (.ok res)⟩,
          ⟨.call (.setattr handle.data attributes), outcome⟩]
  | parts {ino off : UInt64} {data : List UInt8} {directIo : Bool} {inode : NfsInode}
      {events : Trace} (h : daemon.cached ino = some inode)
      (hparts : ∀ event ∈ events, IsPart (hsiNfs3Getfh3 inode) data off directIo event) :
      Effect daemon (.write ino data off directIo) events
  | acl {ino : UInt64} {name : CString} {value : List UInt8} {inode : NfsInode} {acl : Secattr}
      (outcome : RpcOutcome Unit) (h : daemon.cached ino = some inode) :
      Effect daemon (.setxattr ino name value)
        [⟨.call (.setacl (hsiNfs3Getfh3 inode) acl), outcome⟩]

theorem cached_of_findIno {daemon : Daemon} {ino : UInt64} {index : ℕ}
    (h : daemon.findIno ino = some index) : daemon.cached ino = some (daemon.inode index) := by
  rw [Daemon.cached, h, Option.map_some]

section Hides

variable {α : Type}

theorem hides_local {program : Prog α} (h : program.Within Change.apply localParts) :
    program.Hides isModification :=
  emits_local h fun _ _ ↦ rfl

theorem hides_call {procedure : Call} (h : procedure.modifies = false) :
    (Prog.clntCall procedure).Hides isModification :=
  .clntCall fun _ ↦ h

theorem hides_reply (message : FuseReply) : (Prog.reply message).Hides isModification :=
  .modify _

theorem hides_malloc (site : MallocSite) : (Prog.malloc site).Hides isModification :=
  .malloc fun _ ↦ rfl

theorem hides_ilookup (ino : UInt64) : (hsfsIlookup ino).Hides isModification :=
  hides_local (within_hsfsIlookup localCache.toBaseParts ino)

theorem hides_hsiNfsFhget (plat : Platform) (fh : NfsFh) (fattr : NfsFattr) :
    (hsiNfsFhget plat fh fattr).Hides isModification :=
  hides_local (within_hsiNfsFhget localCache plat fh fattr)

theorem hides_nfsRefreshInode (index : ℕ) (fattr : NfsFattr) :
    (nfsRefreshInode index fattr).Hides isModification :=
  .bind (.getInode index) fun _ ↦ .bind (.modify _) fun _ ↦ .pure _

theorem hides_hsiNfs3HandleCreate (plat : Platform) (res : Diropres3ok) :
    (hsiNfs3HandleCreate plat res).Hides isModification := by
  unfold hsiNfs3HandleCreate
  split
  · exact hides_local (within_errPtr localCache plat _)
  · exact hides_hsiNfsFhget plat _ _

theorem hides_finishCreate (plat : Platform) (outcome : RpcOutcome Diropres3ok) :
    (finishCreate plat outcome).Hides isModification := by
  rcases outcome with _ | res | _
  · exact .pure _
  · exact .bind (hides_hsiNfs3HandleCreate plat res) fun _ ↦ .ite (.pure _) (.pure _)
  · exact .pure _

/-- A call that modifies nothing, and what is made of its outcome. -/
theorem hides_call_bind {procedure : Call} {next : RpcOutcome procedure.Body → Prog α}
    (hcall : procedure.modifies = false)
    (hrpc : ∀ err hne, (next (.fail err hne)).Hides isModification)
    (hstatus : ∀ status hne, (next (.done (.fail status hne))).Hides isModification)
    (hok : ∀ body, (next (.done (.ok body))).Hides isModification) :
    (Prog.clntCall procedure >>= next).Hides isModification := by
  refine .bind (hides_call hcall) fun outcome ↦ ?_
  rcases outcome with ⟨err, hne⟩ | body | ⟨status, hne⟩
  · exact hrpc err hne
  · exact hok body
  · exact hstatus status hne

theorem hides_hsiNfs3Getattr (index : ℕ) (st : Stat) :
    (hsiNfs3Getattr index st).Hides isModification := by
  refine .bind (.getInode index) fun _ ↦ .bind ?_ fun ⟨err, fattr, _⟩ ↦ .ite (.pure _)
    (.bind (hides_nfsRefreshInode index fattr) fun _ ↦ .pure _)
  exact hides_call_bind rfl (fun _ _ ↦ .pure _) (fun _ _ ↦ .pure _) fun _ ↦ .pure _

theorem hides_hsiNfs3Lookup (plat : Platform) (parent : ℕ) (name : CString) :
    (hsiNfs3Lookup plat parent name).Hides isModification :=
  .bind (.getInode parent) fun _ ↦ hides_call_bind rfl (fun _ _ ↦ .pure _) (fun _ _ ↦ .pure _)
    fun _ ↦ .bind (hides_hsiNfsFhget plat _ _) fun _ ↦ .pure _

theorem hides_hsiNfs3Readlink (index : ℕ) : (hsiNfs3Readlink index).Hides isModification :=
  .bind (.getInode index) fun _ ↦ hides_call_bind rfl (fun _ _ ↦ .pure _) (fun _ _ ↦ .pure _)
    fun _ ↦ .bind (hides_malloc _) fun _ ↦ .ite (.pure _) (.pure _)

theorem hides_readLoop (index size : ℕ) (off : UInt64) (fuel cnt : ℕ)
    (buf : List (Option UInt8)) : (readLoop index size off fuel cnt buf).Hides isModification := by
  induction fuel generalizing cnt buf with
  | zero => exact .crash _
  | succ fuel ih =>
    refine .ite (.bind .get fun _ ↦ .bind ?_ fun ⟨err, res⟩ ↦ ?_) (.pure _)
    · exact .bind (.getInode index) fun _ ↦ hides_call_bind rfl (fun _ _ ↦ .pure _)
        (fun _ _ ↦ .pure _) fun _ ↦ .pure _
    · cases res with
      | none => exact .pure _
      | some res => exact .ite (.ite (.pure _) (ih _ _)) (.crash _)

theorem hides_hsiNfs3Readdir (parent : ℕ) (count : UInt32) (cookie : UInt64) :
    (hsiNfs3Readdir parent count cookie).Hides isModification :=
  .bind (.getInode parent) fun _ ↦ hides_call_bind rfl (fun _ _ ↦ .pure _) (fun _ _ ↦ .pure _)
    fun _ ↦ .bind (emits_beginListing parent _ _) fun _ ↦ .ite (.pure _)
      (hides_local (within_copyEntries localCache.toPutParts _ _))

theorem hides_hsiNfs3ReaddirPlus (plat : Platform) (parent : ℕ) (count : UInt32) (cookie : UInt64)
    (maxcount : UInt32) :
    (hsiNfs3ReaddirPlus plat parent count cookie maxcount).Hides isModification :=
  .bind (.getInode parent) fun _ ↦ hides_call_bind rfl (fun _ _ ↦ .pure _) (fun _ _ ↦ .pure _)
    fun _ ↦ .bind (emits_beginListing parent _ _) fun _ ↦ .ite (.pure _)
      (hides_local (within_copyEntriesPlus localCache plat _ _))

theorem hides_hsiNfs3Getxattr (index : ℕ) (mask : UInt32) (type : AclType) :
    (hsiNfs3Getxattr index mask type).Hides isModification := by
  refine .bind (.getInode index) fun _ ↦ .bind .get fun _ ↦ .ite (.pure _) ?_
  refine hides_call_bind rfl (fun _ _ ↦ .pure _) (fun _ _ ↦ .pure _) fun _ ↦
    .bind (hides_malloc _) fun _ ↦ .ite ?_ (.pure _)
  cases type with
  | access => exact .pure _
  | default => exact .pure _

/-- The end of a handler with an attribute reply. -/
theorem hides_replyAttr (index : ℕ) (message : NfsInode → Daemon → FuseReply) :
    (do
      let inode ← Prog.getInode index
      let daemon ← Program.get
      Prog.reply (message inode daemon) : Prog Unit).Hides isModification :=
  .bind (.getInode index) fun _ ↦ .bind .get fun _ ↦ hides_reply _

/-- Both branches on the result of `hsfs_ilookup`. -/
theorem hides_found {ino : UInt64} {found : ℕ → Prog Unit} {missing : Prog Unit}
    (hfound : ∀ index, (found index).Hides isModification)
    (hmissing : missing.Hides isModification) :
    (hsfsIlookup ino >>= fun ptr ↦ match ptr with
      | .obj index => found index
      | _ => missing).Hides isModification := by
  refine .bind (hides_ilookup ino) fun ptr ↦ ?_
  cases ptr with
  | null => exact hmissing
  | err _ => exact hmissing
  | obj index => exact hfound index

end Hides

/-- The requests that stand for no modification. -/
def Request.reads : Request → Bool
  | .getattr .. | .lookup .. | .forget .. | .readlink .. | .openFile .. | .opendir .. => true
  | .release .. | .read .. | .readdir .. | .readdirplus .. | .access .. | .statfs .. => true
  | .getxattr .. => true
  | _ => false

/-- What counting, replying and giving back inodes need, without calls. -/
theorem localTail : TailParts localParts where
  toCountParts := localCounts
  put _ := trivial
  free _ := trivial
  forgetNode := trivial
  reply _ := trivial

theorem hides_handle {request : Request} (h : request.reads = true) (plat : Platform) (fuel : ℕ) :
    (handle plat fuel request).Hides isModification := by
  cases request with
  | getattr ino =>
    exact hides_found (fun index ↦ .bind (hides_hsiNfs3Getattr index _) fun _ ↦
      .ite (hides_reply _) (hides_replyAttr index _)) (hides_reply _)
  | lookup parent name =>
    exact hides_found (fun index ↦ .bind (hides_hsiNfs3Lookup plat index name) fun ⟨err, child⟩ ↦
      hides_local (within_replyFound localTail err child)) (hides_reply _)
  | forget ino nlookup => exact hides_local (within_hsxFuseForget localTail ino nlookup)
  | readlink ino =>
    refine hides_found (fun index ↦ .bind (hides_hsiNfs3Readlink index) fun ⟨st, link⟩ ↦
      .ite (hides_reply _) ?_) (.pure _)
    cases link with
    | none => exact .crash _
    | some link => exact hides_reply _
  | openFile ino => exact .bind (hides_malloc _) fun _ ↦ .ite (hides_reply _) (hides_reply _)
  | opendir ino => exact hides_found (fun _ ↦ hides_reply _) (hides_reply _)
  | release ino => exact hides_reply _
  | read ino size off =>
    refine .bind (hides_malloc _) fun _ ↦ .ite ?_ (hides_reply _)
    exact hides_found (fun index ↦ .bind (hides_readLoop index size off fuel 0 _) fun _ ↦
      .ite (hides_reply _) (hides_reply _)) (hides_reply _)
  | readdir ino size off =>
    exact hides_found (fun index ↦ .bind (hides_hsiNfs3Readdir index _ off) fun _ ↦
      .ite (hides_reply _) (.bind (hides_malloc _) fun _ ↦ .ite (hides_reply _) (hides_reply _)))
      (.crash _)
  | readdirplus ino size off =>
    refine hides_found (fun index ↦ .bind (hides_hsiNfs3ReaddirPlus plat index _ off _) fun _ ↦
      .ite (hides_reply _) (.bind (hides_malloc _) fun _ ↦ .ite ?_ (hides_reply _))) (.crash _)
    exact .bind (hides_local (within_packDirentsPlus localCounts plat size _ 0 [])) fun _ ↦
      hides_reply _
  | access ino mask =>
    refine hides_found (fun index ↦ .bind (.getInode index) fun _ ↦ .bind ?_ fun _ ↦
      hides_reply _) (.pure _)
    exact .bind (.getInode index) fun _ ↦ hides_call_bind rfl (fun _ _ ↦ .pure _)
      (fun _ _ ↦ .pure _) fun _ ↦ .pure _
  | statfs ino =>
    refine .bind .get fun _ ↦ .bind (.deref _) fun root ↦ .bind ?_ fun _ ↦
      .ite (hides_reply _) (.bind .get fun daemon ↦ ?_)
    · exact .bind (.getInode root) fun _ ↦ hides_call_bind rfl (fun _ _ ↦ .pure _)
        (fun _ _ ↦ .pure _) fun _ ↦ .bind (.modify _) fun _ ↦ .pure _
    · cases hsiSuper2statvfs daemon.sb with
      | none => exact hides_reply _
      | some stbuf => exact hides_reply _
  | getxattr ino name size =>
    change (hsxFuseGetxattr ino name size).Hides isModification
    unfold hsxFuseGetxattr
    split
    · exact hides_reply _
    · refine hides_found (fun index ↦ .bind (hides_hsiNfs3Getxattr index _ _) fun ⟨err, acl⟩ ↦ ?_)
        (hides_reply _)
      cases acl with
      | none => exact hides_reply _
      | some acl =>
        exact .bind (hides_malloc _) fun _ ↦ .ite (hides_reply _)
          (.ite (hides_reply _) (.ite (hides_reply _) (hides_reply _)))
  | _ => cases h

/-! ## Requests that modify -/

section Shows

variable {α : Type} {daemon : Daemon} {described : Trace → Prop}

/-- A modifying call, and what is made of its outcome. -/
theorem shows_call {procedure : Call} {next : RpcOutcome procedure.Body → Prog α}
    (hcall : procedure.modifies = true) (hnext : ∀ outcome, (next outcome).Hides isModification)
    (hone : ∀ outcome, described [⟨.call procedure, outcome⟩]) :
    (Prog.clntCall procedure >>= next).Shows isModification daemon described := by
  have hask := @Program.Shows.ask_bind EnvOp EnvAns Fault Daemon α isModification daemon described
    (.call procedure) next (fun _ ↦ hcall) fun outcome ↦ (hnext outcome).shows (hone outcome)
  exact hask

theorem shows_getInode {index : ℕ} {next : NfsInode → Prog α}
    (h : (next (daemon.inode index)).Shows isModification daemon described) :
    (Prog.getInode index >>= next).Shows isModification daemon described :=
  h

/-- The branches of a handler on the result of `hsfs_ilookup`. -/
theorem shows_ilookup (hcoherent : Coherent daemon) {ino : UInt64} {found : ℕ → Prog α}
    {missing : Prog α} (hfound : ∀ index, daemon.findIno ino = some index →
      (found index).Shows isModification daemon described)
    (hmissing : missing.Hides isModification) (hnil : described []) :
    (hsfsIlookup ino >>= fun ptr ↦ match ptr with
      | .obj index => found index
      | _ => missing).Shows isModification daemon described := by
  intro trace ending hpath
  rcases hcoherent.path_ilookup hpath with ⟨-, hmiss⟩ | ⟨index, hfind, hrest⟩
  · exact hmissing.shows hnil trace ending hmiss
  · exact hfound index hfind trace ending hrest

/-- A name is copied before it is sent. -/
theorem hides_copyName (site : MallocSite) (name : CString) :
    (copyName site name).Hides isModification :=
  .bind (hides_malloc site) fun _ ↦ .ite (.ite (.pure _) (.crash _)) (.pure _)

theorem copyName_state {site : MallocSite} {name : CString} {trace : Trace} {copied : Bool}
    {daemon' : Daemon}
    (hpath : ((copyName site name).run daemon).Path trace (.done copied daemon')) :
    daemon' = daemon := by
  obtain ⟨granted, rest, -, hrest⟩ := hpath
  cases granted with
  | false =>
    cases hrest.2
    rfl
  | true =>
    by_cases hfits : name.length + 1 ≤ nameMax
    · simp only [if_true, hfits] at hrest
      cases hrest.2
      rfl
    · simp only [hfits, if_false] at hrest
      cases hrest.2

theorem shows_hsiNfsSetattr (index : ℕ) (attr : HsfsIattr) (hnil : described [])
    (hone : ∀ outcome, described [⟨.call (.setattr (hsiNfs3Getfh3 (daemon.inode index))
      (sattrOfIattr (passedIattr (daemon.inode index) attr))), outcome⟩]) :
    (hsiNfsSetattr index attr).Shows isModification daemon described := by
  intro trace ending hpath
  rcases hsiNfsSetattr_path hpath with ⟨-, rfl, -⟩ | ⟨-, outcome, rfl, -⟩
  · exact hnil
  · exact hone outcome

theorem shows_hsiNfs3Mknod (plat : Platform) (parent : ℕ) (name : CString) (mode : UInt32)
    (rdev : UInt64) (hnil : described [])
    (hone : ∀ outcome, described [⟨.call (.mknod ((daemon.inode parent).entry name)
      (mknodData mode rdev)), outcome⟩]) :
    (hsiNfs3Mknod plat parent name mode rdev).Shows isModification daemon described := by
  refine .ite (fun _ ↦ .pure _ hnil) fun _ ↦ ?_
  refine (hides_copyName _ name).bind_shows hnil fun trace copied daemon' hpath ↦ ?_
  obtain rfl := copyName_state hpath
  refine .ite (fun _ ↦ ?_) fun _ ↦ .pure _ hnil
  exact shows_getInode (shows_call rfl (hides_finishCreate plat) hone)

theorem shows_hsiNfs3Link (index newparent : ℕ) (name : CString) (hnil : described [])
    (hone : ∀ outcome, described [⟨.call (linkCall daemon index newparent name), outcome⟩]) :
    (hsiNfs3Link index newparent name).Shows isModification daemon described := by
  intro trace ending hpath
  cases hsiNfs3Link_path hpath with
  | tooLong _ => exact hnil
  | noMemory _ => exact hnil
  | overrun _ => exact hnil
  | failed _ outcome _ => exact hone outcome
  | refreshed _ attributes => exact hone _
  | reread _ outcome _ => exact hone _

/-- The mode of an exclusively created object is set through the handle of the reply. -/
theorem shows_exclusiveSetattr {plat : Platform} {mode : UInt32} {res : Diropres3ok}
    (hcoherent : Coherent daemon) (hnil : described [])
    (htwo : ∀ handle attributes outcome, res.obj = some handle →
      described [⟨.call (.setattr handle.data attributes), outcome⟩]) :
    (hsiNfs3HandleCreate plat res >>= fun new ↦
      (if isErr plat new then return (toInt32 (ptrErr plat new), .null)
      else if (mode &&& 0xf0000) >>> 16 = 2 then do
        let status ← exclusiveSetattr new mode
        return (status, new)
      else return (0, new) : Prog (ℤ × InodePtr))).Shows isModification daemon described := by
  refine (hides_hsiNfs3HandleCreate plat res).bind_shows hnil fun front new daemon' hfront ↦ ?_
  refine .ite (fun _ ↦ .pure _ hnil) fun _ ↦
    .ite (fun _ ↦ ?_) fun _ ↦ .pure _ hnil
  refine .bind_hides ?_ fun _ ↦ .pure _
  refine Program.Hides.bind_shows (.deref new) hnil fun trace index daemon'' hderef ↦ ?_
  cases new with
  | null => cases hderef.2
  | err error => cases hderef.2
  | obj found =>
    obtain ⟨handle, hobj, hhandle⟩ := (handleCreate_run hcoherent hfront).2 found daemon' rfl
    change ((if found ∈ daemon'.freed then Program.crash .undefined else pure found :
      Prog ℕ).run daemon').Path _ _ at hderef
    split_ifs at hderef
    · cases hderef.2
    · cases hderef.2
      refine shows_getInode (shows_hsiNfsSetattr index _ hnil fun outcome ↦ ?_)
      rw [hhandle]
      exact htwo handle _ outcome hobj

theorem shows_writeLoop (index : ℕ) (data : List UInt8) (off : UInt64) (directIo : Bool)
    (fuel cnt : ℕ) :
    (writeLoop index data off (if directIo then 2 else 0) fuel cnt).Shows isModification daemon
      fun events ↦ ∀ event ∈ events,
        IsPart (hsiNfs3Getfh3 (daemon.inode index)) data off directIo event := by
  intro trace ending hpath
  induction fuel generalizing cnt trace with
  | zero =>
    obtain ⟨rfl, -⟩ := hpath
    simp
  | succ fuel ih =>
    rcases writeLoop_step hpath with ⟨-, rfl, -⟩ |
      ⟨hlt, chunk, outcome, rest, rfl, rfl, hcases⟩
    · simp
    have hrest : ∀ event ∈ rest.filter isModification,
        IsPart (hsiNfs3Getfh3 (daemon.inode index)) data off directIo event := by
      rcases hcases with ⟨-, rfl, -⟩ | ⟨count, -, hloop⟩
      · simp
      · exact ih _ _ hloop
    rw [List.filter_cons_of_pos rfl, List.forall_mem_cons]
    exact ⟨⟨rfl, rfl, rfl, cnt, hlt, rfl, List.take_prefix _ _⟩, hrest⟩

theorem hides_allocAclent (site : MallocSite) (acl : PosixAcl) :
    (allocAclent site acl).Hides isModification :=
  .bind (hides_malloc site) fun _ ↦ .ite (.crash _) (.pure _)

theorem allocAclent_state {site : MallocSite} {acl : PosixAcl} {trace : Trace} {ents : List Aclent}
    {daemon' : Daemon}
    (hpath : ((allocAclent site acl).run daemon).Path trace (.done ents daemon')) :
    daemon' = daemon := by
  obtain ⟨granted, rest, -, hrest⟩ := Prog.path_malloc_bind.mp hpath
  split_ifs at hrest
  · cases hrest.2
  · cases hrest.2
    rfl

theorem shows_sendSetacl (index : ℕ) (acl : PosixAcl) (dfacl : Option PosixAcl)
    (hnil : described [])
    (hone : ∀ sent outcome, described [⟨.call (.setacl (hsiNfs3Getfh3 (daemon.inode index)) sent),
      outcome⟩]) :
    (sendSetacl index acl dfacl).Shows isModification daemon described := by
  refine shows_getInode ((hides_allocAclent _ _).bind_shows hnil fun trace ents daemon' hpath ↦ ?_)
  obtain rfl := allocAclent_state hpath
  cases dfacl with
  | none => exact shows_call rfl (fun _ ↦ .pure _) (hone _)
  | some dfacl =>
    refine (hides_allocAclent _ _).bind_shows hnil fun trace dfents daemon'' hcopied ↦ ?_
    obtain rfl := allocAclent_state hcopied
    exact shows_call rfl (fun _ ↦ .pure _) (hone _)

theorem shows_setxattrLists (index : ℕ) (acl dfacl : Option PosixAcl) (hnil : described [])
    (hone : ∀ sent outcome, described [⟨.call (.setacl (hsiNfs3Getfh3 (daemon.inode index)) sent),
      outcome⟩]) :
    (setxattrLists index acl dfacl).Shows isModification daemon described := by
  unfold setxattrLists
  split
  · exact shows_sendSetacl index _ dfacl hnil hone
  · refine shows_getInode (Program.Hides.bind_shows (.bind (hides_malloc _) fun _ ↦
      .ite (.pure _) (.pure _)) hnil fun trace list daemon' hpath ↦ ?_)
    obtain ⟨granted, rest, -, hrest⟩ := Prog.path_malloc_bind.mp hpath
    cases granted with
    | false =>
      cases hrest.2
      exact .pure _ hnil
    | true =>
      cases hrest.2
      exact shows_sendSetacl index _ dfacl hnil hone

/-- Reading a list changes nothing in the daemon. -/
theorem fixes_hsiNfs3Getxattr (index : ℕ) (mask : UInt32) (type : AclType) :
    (hsiNfs3Getxattr index mask type).Fixes id := by
  refine .bind (.bind .get fun _ ↦ .pure _) fun _ ↦ .bind .get fun _ ↦ .ite (.pure _) ?_
  refine .bind (.ask _) fun outcome ↦ ?_
  rcases outcome with _ | acl | _
  · exact .pure _
  · refine .bind (.ask _) fun _ ↦ .ite ?_ (.pure _)
    cases type with
    | access => exact .pure _
    | default => exact .pure _
  · exact .pure _

theorem shows_hsiNfs3Setxattr (index : ℕ) (value : List UInt8) (type : AclType)
    (hnil : described [])
    (hone : ∀ sent outcome, described [⟨.call (.setacl (hsiNfs3Getfh3 (daemon.inode index)) sent),
      outcome⟩]) :
    (hsiNfs3Setxattr index value type).Shows isModification daemon described := by
  have hparse : (posixAclFromXattr value).Hides isModification :=
    .ite (.bind (hides_malloc _) fun _ ↦ .ite (.pure _) (.pure _)) (.pure _)
  have hfixes : (posixAclFromXattr value).Fixes id :=
    .ite (.bind (.ask _) fun _ ↦ .ite (.pure _) (.pure _)) (.pure _)
  refine shows_getInode (.ite (fun _ ↦ .pure _ hnil) fun _ ↦ ?_)
  refine hparse.bind_shows hnil fun trace acl daemon' hpath ↦ ?_
  obtain rfl : daemon' = daemon := hfixes _ _ _ hpath
  refine .ite (fun _ ↦ ?_) fun _ ↦
    .ite (fun _ ↦ shows_setxattrLists index _ _ hnil hone) fun _ ↦ .pure _ hnil
  refine (hides_hsiNfs3Getxattr index _ _).bind_shows hnil fun trace result daemon'' hread ↦ ?_
  obtain rfl : daemon'' = daemon' := fixes_hsiNfs3Getxattr _ _ _ _ _ _ hread
  refine .ite (fun _ ↦ .pure _ hnil) fun _ ↦ ?_
  cases type with
  | access => exact shows_setxattrLists index _ _ hnil hone
  | default => exact shows_setxattrLists index _ _ hnil hone

/-- A `CREATE` with the owner of the new file, and the `SETATTR` that may follow it. -/
theorem effect_create {plat : Platform} {parent : UInt64} {name : CString}
    {mode flags uid gid : UInt32} {index : ℕ} (hcoherent : Coherent daemon)
    (hfind : daemon.findIno parent = some index) :
    (do
      Prog.modifyInode index fun inode ↦ { inode with iattr := { inode.iattr with uid, gid } }
      let (err, newhi) ← hsiNfs3Create plat index name (createMode mode flags)
      replyCreated err newhi .create : Prog Unit).Shows isModification daemon
        (Effect daemon (.create parent name mode flags uid gid)) := by
  have hlt := ((hcoherent.findIno_eq_some_iff parent index).mp hfind).1
  obtain ⟨howned, -⟩ := keeps_setOwner index uid gid daemon [] () _ ⟨rfl, rfl⟩ hcoherent
  set owned := daemon.setInode index
    { daemon.inode index with iattr := { (daemon.inode index).iattr with uid, gid } } with howned_eq
  have hinode : owned.inode index =
      { daemon.inode index with iattr := { (daemon.inode index).iattr with uid, gid } } :=
    Daemon.inode_setInode_self hlt _
  have hmodification : (Request.create parent name mode flags uid gid).modification daemon.cached =
      some (.create ((owned.inode index).entry name)
        (createHow (owned.inode index) (createMode mode flags))) := by
    rw [Request.modification, cached_of_findIno hfind, hinode]
    rfl
  change (hsiNfs3Create plat index name (createMode mode flags) >>= fun result ↦
    replyCreated result.1 result.2 .create).Shows isModification owned _
  refine .bind_hides (shows_getInode ?_) fun _ ↦ emits_replyCreated _ _ _
  refine Program.Shows.ask_bind (fun _ ↦ rfl) fun outcome ↦ ?_
  rcases outcome with ⟨err, hne⟩ | res | ⟨status, hne⟩
  · exact .pure _ (.one _ hmodification)
  · exact shows_exclusiveSetattr howned (.one _ hmodification) fun handle attributes outcome hobj ↦
      .exclusive outcome hmodification hobj
  · exact .pure _ (.one _ hmodification)

end Shows

/-- **Requests are translated faithfully.**  In every run of the handler of a request, also in one
that crashes, the calls that modify the server are those that the request stands for. -/
theorem effect_handle {plat : Platform} {fuel : ℕ} {request : Request} {daemon : Daemon}
    (hcoherent : Coherent daemon) :
    (handle plat fuel request).Shows isModification daemon (Effect daemon request) := by
  by_cases hreads : request.reads = true
  · exact (hides_handle hreads plat fuel).shows .none
  cases request with
  | setattr ino attr toSet =>
    refine shows_ilookup hcoherent (fun index hfind ↦ ?_) (hides_reply _) .none
    refine .bind_hides (shows_hsiNfsSetattr index _ .none fun outcome ↦ .one outcome ?_) fun _ ↦
      .ite (hides_reply _) (hides_replyAttr index _)
    rw [Request.modification, cached_of_findIno hfind]
    rfl
  | mkdir parent name mode =>
    refine shows_ilookup hcoherent (fun index hfind ↦ ?_) (.pure _) .none
    refine .bind_hides (shows_getInode (shows_call rfl (hides_finishCreate plat) fun outcome ↦
      .one outcome ?_)) fun _ ↦ emits_replyCreated _ _ _
    rw [Request.modification, cached_of_findIno hfind]
    rfl
  | rmdir parent name =>
    refine shows_ilookup hcoherent (fun index hfind ↦ ?_) (.pure _) .none
    refine .bind_hides (shows_getInode (shows_call rfl (fun _ ↦ .pure _) fun outcome ↦
      .one outcome ?_)) fun _ ↦ hides_reply _
    rw [Request.modification, cached_of_findIno hfind]
    rfl
  | unlink parent name =>
    refine .ite (fun _ ↦ (hides_reply _).shows .none) fun _ ↦
      .ite (fun _ ↦ (hides_reply _).shows .none) fun _ ↦ ?_
    refine shows_ilookup hcoherent (fun index hfind ↦ ?_) (hides_reply _) .none
    refine .bind_hides (shows_getInode (shows_call rfl (fun _ ↦ .pure _) fun outcome ↦
      .one outcome ?_)) fun _ ↦ hides_reply _
    rw [Request.modification, cached_of_findIno hfind]
    rfl
  | rename parent name newparent newname flags =>
    refine .ite (fun _ ↦ (hides_reply _).shows .none) fun _ ↦
      .ite (fun _ ↦ (hides_reply _).shows .none) fun _ ↦
      .ite (fun _ ↦ (hides_reply _).shows .none) fun _ ↦
      .ite (fun _ ↦ (hides_reply _).shows .none) fun _ ↦
      .ite (fun _ ↦ (hides_reply _).shows .none) fun _ ↦ ?_
    refine shows_ilookup hcoherent (fun index hfind ↦ ?_) (hides_reply _) .none
    refine shows_ilookup hcoherent (fun newindex hnewfind ↦ ?_) (hides_reply _) .none
    refine .bind_hides (shows_getInode (shows_getInode (shows_call rfl (fun _ ↦ .pure _)
      fun outcome ↦ .one outcome ?_))) fun _ ↦ hides_reply _
    rw [Request.modification, cached_of_findIno hfind, cached_of_findIno hnewfind]
    rfl
  | symlink link parent name =>
    refine shows_ilookup hcoherent (fun index hfind ↦ ?_) (hides_reply _) .none
    refine .bind_hides (shows_getInode (shows_call rfl (hides_finishCreate plat) fun outcome ↦
      .one outcome ?_)) fun _ ↦ emits_replyCreated _ _ _
    rw [Request.modification, cached_of_findIno hfind]
    rfl
  | link ino newparent newname =>
    refine shows_ilookup hcoherent (fun parent hparent ↦ ?_) (.pure _) .none
    refine shows_ilookup hcoherent (fun index hfind ↦ ?_) (.pure _) .none
    refine .bind_hides (shows_hsiNfs3Link index parent newname .none fun outcome ↦
      .one outcome ?_) fun _ ↦ .ite (.bind (hides_malloc _) fun _ ↦ .ite
        (.bind (emits_hsxFuseFillReply _) fun _ ↦ hides_reply _) (hides_reply _)) (hides_reply _)
    rw [Request.modification, cached_of_findIno hfind, cached_of_findIno hparent]
    rfl
  | mknod parent name mode rdev =>
    refine shows_ilookup hcoherent (fun index hfind ↦ ?_) (hides_reply _) .none
    refine .bind_hides (shows_hsiNfs3Mknod plat index name mode rdev .none fun outcome ↦
      .one outcome ?_) fun _ ↦ emits_replyCreated _ _ _
    rw [Request.modification, cached_of_findIno hfind]
    rfl
  | create parent name mode flags uid gid =>
    refine shows_ilookup hcoherent (fun index hfind ↦ ?_) (.pure _) .none
    exact effect_create hcoherent hfind
  | write ino data off directIo =>
    refine (hides_malloc _).bind_shows .none fun trace granted daemon' hpath ↦ ?_
    obtain ⟨_, _, _, _, heq⟩ := hpath
    cases heq
    refine .ite (fun _ ↦ ?_) fun _ ↦ (hides_reply _).shows .none
    refine shows_ilookup hcoherent (fun index hfind ↦ ?_) (hides_reply _) .none
    refine .bind_hides ((shows_writeLoop index data off directIo fuel 0).mono fun events hparts ↦
      .parts (cached_of_findIno hfind) hparts) fun _ ↦ .ite (hides_reply _) (hides_reply _)
  | setxattr ino name value =>
    refine shows_ilookup hcoherent (fun index hfind ↦ ?_) (hides_reply _) .none
    cases xattrType name with
    | none => exact (hides_reply _).shows .none
    | some type =>
      exact .bind_hides (shows_hsiNfs3Setxattr index value type .none fun sent outcome ↦
        .acl outcome (cached_of_findIno hfind)) fun _ ↦ .bind (hides_reply _) fun _ ↦ hides_reply _
  | _ => exact absurd rfl hreads

/-! ## Runs of requests -/

/-- A request of a run: the daemon before it, and the events of its handler. -/
structure ServedMoment where
  before : Daemon
  request : Request
  trace : Trace

section Served

variable {S : Type}

/-- A request is handled with the answers of a server. -/
inductive ServedStep (plat : Platform) (server : Server EnvAns S) :
    Daemon × S → ServedMoment → Daemon × S → Prop
  | mk {daemon daemon' : Daemon} {state state' : S} {fuel : ℕ} {request : Request} {trace : Trace}
      (hpath : ((handle plat fuel request).run daemon).Path trace (.done () daemon'))
      (hgives : server.Gives state trace state') :
      ServedStep plat server (daemon, state) ⟨daemon, request, trace⟩ (daemon', state')

variable {plat : Platform} {server : Server EnvAns S} {daemon : Daemon} {state : S}
  {moments : List ServedMoment} {last : Daemon × S}

/-- A server that counts its modifications. -/
def countingServer : Server EnvAns ℕ :=
  fun before event after ↦ after = before + if isModification event then 1 else 0

theorem countingServer_ignores : countingServer.Ignores isModification := by
  intro before event after hhidden hstep
  rw [hstep, hhidden]
  rfl

/-- Requests that only read leave such a server as it was, in any number and any order. -/
theorem reading_changes_nothing (hignores : server.Ignores isModification)
    (hreads : ∀ moment ∈ moments, moment.request.reads = true)
    (hrun : Run (ServedStep plat server) (daemon, state) moments last) : last.2 = state := by
  let holds (moments : List ServedMoment) (config : Daemon × S) : Prop :=
    (∀ moment ∈ moments, moment.request.reads = true) → config.2 = state
  have hinitial : holds [] (daemon, state) := fun _ ↦ rfl
  have hlast : holds moments last := by
    refine hrun.invariant hinitial ?_
    rintro moments _ _ _ hbefore ⟨hpath, hserved⟩ hreads
    rw [List.forall_mem_append, List.forall_mem_singleton] at hreads
    have hunchanged := hserved.filter hignores
    rw [(hides_handle hreads.2 plat _).filter_eq_nil hpath] at hunchanged
    exact hunchanged.trans (hbefore hreads.1)
  exact hlast hreads

/-- The attributes of the root are asked for, and whether it may be read. -/
theorem reading_changes_nothing_access : ∃ moments last,
    Run (ServedStep linuxHost countingServer) (mountedCache, 0) moments last ∧
    moments.map ServedMoment.request = [.getattr 1, .access 1 4] ∧
    last.1.replies.length = 2 ∧ last.2 = 0 := by
  obtain ⟨middle, last, hgetattr, haccess, hreplies⟩ : ∃ middle last,
      ((handle linuxHost 0 (.getattr 1)).run mountedCache).Path
        [⟨.call (.getattr [0]),
          RpcOutcome.done (.ok { plainAttr with type := nf3dir, fileid := 2 })⟩]
        (.done () middle) ∧
      ((handle linuxHost 0 (.access 1 4)).run middle).Path
        [⟨.call (.access [0] 1), RpcOutcome.done (.ok (1 : UInt32))⟩] (.done () last) ∧
      last.replies.length = 2 :=
    ⟨_, _, ⟨_, _, rfl, rfl, rfl⟩, ⟨_, _, rfl, rfl, rfl⟩, rfl⟩
  have hrun : Run (ServedStep linuxHost countingServer) (mountedCache, 0) _ (last, 0) :=
    (Run.nil.snoc (.mk hgetattr ⟨0, rfl, rfl⟩)).snoc (.mk haccess ⟨0, rfl, rfl⟩)
  refine ⟨_, _, hrun, rfl, hreplies, reading_changes_nothing countingServer_ignores ?_ hrun⟩
  simp [Request.reads]

end Served

end NfsFuse
