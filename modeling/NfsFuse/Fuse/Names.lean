import NfsFuse.Fuse.Contents

/-!
# Names as the kernel sees them

What the daemon does for the names in directories.  `NameView` has the objects that numbers stand
for and what the names in the directories of the server stand for.  A request changes no other name
than the ones it is about, whether it succeeds or not, and a reply can be relied on: an entry has
the number of the object that the name stands for, and a name that was removed or renamed is gone.

An object is a handle together with a file id, as in the cache of the daemon.  The names `.` and
`..` are not considered; the kernel resolves them itself.
-/

namespace NfsFuse

open Lib

attribute [local irreducible] hsiNfsFhget

/-- An object of the server. -/
structure NamedObject where
  handle : List UInt8
  fileid : UInt64
  deriving DecidableEq, Repr

/-- What the names in the directories stand for. -/
abbrev NameTable := Diropargs3 → Option NamedObject

/-- A name is moved to another place.  Nothing happens if both are names of one object. -/
def NameTable.move (names : NameTable) (source target : Diropargs3) : NameTable :=
  if names source = names target then names
  else Function.update (Function.update names source none) target (names source)

/-- A reply with handle and attributes is about the object. -/
def NamedObject.IsNamed (object : NamedObject) (handle : Option NfsFh3)
    (attributes : Option Fattr3) : Prop :=
  ∀ fh post, handle = some fh → attributes = some post → object = ⟨fh.data, post.fileid⟩

/-- A name is made for an object.  A call that fails may have been carried out. -/
def Makes (names : NameTable) (entry : Diropargs3) (outcome : RpcOutcome Diropres3ok)
    (names' : NameTable) : Prop :=
  match outcome with
  | .done (.ok res) => ∃ object : NamedObject, names' = Function.update names entry (some object) ∧
      object.IsNamed res.obj res.objAttributes
  | _ => names' = names ∨ ∃ object, names' = Function.update names entry (some object)

/-- Names are changed in the way that a call asks for, at least if it succeeds. -/
def Changes {Body : Type} (names changed : NameTable) (outcome : RpcOutcome Body)
    (names' : NameTable) : Prop :=
  names' = changed ∨ names' = names ∧ ∀ body, outcome ≠ .done (.ok body)

/-- A server of names, which only the calls of the daemon change.  A new name of an object with
other names is one more name of the same object. -/
def nameServer : Server EnvAns NameTable := fun names event names' ↦
  match event with
  | ⟨.call (.lookup entry), .done (.ok res)⟩ => names' = names ∧
      ∃ object : NamedObject, names entry = some object ∧
        object.IsNamed (some res.object) res.objAttributes
  | ⟨.call (.create entry _), outcome⟩ => Makes names entry outcome names'
  | ⟨.call (.mkdir entry _), outcome⟩ => Makes names entry outcome names'
  | ⟨.call (.symlink entry _ _), outcome⟩ => Makes names entry outcome names'
  | ⟨.call (.mknod entry _), outcome⟩ => Makes names entry outcome names'
  | ⟨.call (.remove entry), outcome⟩ =>
      Changes names (Function.update names entry none) outcome names'
  | ⟨.call (.rmdir entry), outcome⟩ =>
      Changes names (Function.update names entry none) outcome names'
  | ⟨.call (.rename source target), outcome⟩ =>
      Changes names (names.move source target) outcome names'
  | ⟨.call (.link file entry), outcome⟩ => ∃ object : NamedObject, object.handle = file ∧
      (∀ other known, names other = some known → known.handle = file → object = known) ∧
      Changes names (Function.update names entry (some object)) outcome names'
  | _ => names' = names

/-- The calls that change names. -/
def isNameChange : Event EnvAns → Bool
  | ⟨.call (.create ..), _⟩ | ⟨.call (.mkdir ..), _⟩ | ⟨.call (.symlink ..), _⟩ => true
  | ⟨.call (.mknod ..), _⟩ | ⟨.call (.remove ..), _⟩ | ⟨.call (.rmdir ..), _⟩ => true
  | ⟨.call (.rename ..), _⟩ | ⟨.call (.link ..), _⟩ => true
  | _ => false

theorem nameServer_ignores : nameServer.Ignores isNameChange := by
  intro before event after hhidden hstep
  obtain ⟨op, answer⟩ := event
  cases op with
  | call procedure =>
    cases procedure with
    | lookup entry =>
      match answer with
      | .done (.ok res) => exact hstep.1
      | .done (.fail _ _) => exact hstep
      | .fail _ _ => exact hstep
    | create | mkdir | symlink | mknod | remove | rmdir | rename | link => cases hhidden
    | _ => exact hstep
  | _ => exact hstep

theorem isModification_of_isNameChange {event : Event EnvAns} (h : isNameChange event = true) :
    isModification event = true := by
  obtain ⟨op, answer⟩ := event
  cases op with
  | call procedure =>
    cases procedure with
    | create | mkdir | symlink | mknod | remove | rmdir | rename | link => rfl
    | _ => cases h
  | _ => cases h

theorem IsPart.isNameChange_eq {file data : List UInt8} {off : UInt64} {directIo : Bool}
    {event : Event EnvAns} (h : IsPart file data off directIo event) :
    isNameChange event = false := by
  obtain ⟨op, answer⟩ := event
  cases op with
  | call procedure =>
    cases procedure with
    | write => rfl
    | _ => cases h
  | _ => cases h

theorem Makes.cases {names names' : NameTable} {entry : Diropargs3}
    {outcome : RpcOutcome Diropres3ok} (h : Makes names entry outcome names') :
    names' = names ∨ ∃ object, names' = Function.update names entry (some object) := by
  match outcome with
  | .done (.ok res) =>
    obtain ⟨object, heq, -⟩ := h
    exact .inr ⟨object, heq⟩
  | .done (.fail _ _) => exact h
  | .fail _ _ => exact h

theorem Changes.eq_of_ok {Body : Type} {names changed names' : NameTable} {body : Body}
    (h : Changes names changed (.done (.ok body)) names') : names' = changed := by
  rcases h with heq | ⟨-, hnot⟩
  · exact heq
  · exact absurd rfl (hnot body)

/-- The objects that numbers stand for, the names, and the replies so far. -/
structure NameView where
  object : UInt64 → Option NamedObject
  names : NameTable
  replies : List FuseReply

/-- The place of a name in a directory that is given by its number. -/
def NameView.entry (view : NameView) (parent : UInt64) (name : CString) : Option Diropargs3 :=
  (view.object parent).map fun dir ↦ ⟨dir.handle, name⟩

theorem NameView.entry_eq {view : NameView} {parent : UInt64} {dir : NamedObject}
    (h : view.object parent = some dir) (name : CString) :
    view.entry parent name = some ⟨dir.handle, name⟩ := by
  rw [NameView.entry, h, Option.map_some]

/-- The requests that make a name. -/
def Request.makes : Request → Option (UInt64 × CString)
  | .mkdir parent name _ => some (parent, name)
  | .mknod parent name _ _ => some (parent, name)
  | .symlink _ parent name => some (parent, name)
  | .create parent name _ _ _ _ => some (parent, name)
  | _ => none

/-- The requests that remove a name. -/
def Request.removes : Request → Option (UInt64 × CString)
  | .rmdir parent name => some (parent, name)
  | .unlink parent name => some (parent, name)
  | _ => none

/-- The requests that ask for the object of a name. -/
def Request.asks : Request → Option (UInt64 × CString)
  | .lookup parent name => some (parent, name)
  | request => request.makes

/-- One more name of an object that may have other names already. -/
def NameView.IsLinked (view : NameView) (ino : UInt64) (object : NamedObject) : Prop :=
  ∃ file, view.object ino = some file ∧ object.handle = file.handle ∧
    ∀ other known, view.names other = some known → known.handle = file.handle → object = known

/-- The changes of names that a request asks for. -/
inductive NameView.Asked (view : NameView) : Request → NameTable → Prop where
  | make {request : Request} {parent : UInt64} {name : CString} {entry : Diropargs3}
      (h : request.makes = some (parent, name)) (hentry : view.entry parent name = some entry)
      (object : NamedObject) :
      Asked view request (Function.update view.names entry (some object))
  | remove {request : Request} {parent : UInt64} {name : CString} {entry : Diropargs3}
      (h : request.removes = some (parent, name)) (hentry : view.entry parent name = some entry) :
      Asked view request (Function.update view.names entry none)
  | rename {parent newparent : UInt64} {name newname : CString} {flags : UInt32}
      {source target : Diropargs3} (hsource : view.entry parent name = some source)
      (htarget : view.entry newparent newname = some target) :
      Asked view (.rename parent name newparent newname flags) (view.names.move source target)
  | link {ino newparent : UInt64} {newname : CString} {entry : Diropargs3} {object : NamedObject}
      (hentry : view.entry newparent newname = some entry) (hobject : view.IsLinked ino object) :
      Asked view (.link ino newparent newname) (Function.update view.names entry (some object))

/-- What a request may do, and what its reply means. -/
structure NameView.Step (view : NameView) (request : Request) (view' : NameView) : Prop where
  object_eq : ∀ ino object, view.object ino = some object → view'.object ino = some object
  replies : view.replies <+: view'.replies
  names : view'.names = view.names ∨ view.Asked request view'.names
  entered : ∀ parent name reply param, request.asks = some (parent, name) →
    view'.replies = view.replies ++ [reply] → reply.entered = some param →
    ∃ entry object, view.entry parent name = some entry ∧ view'.names entry = some object ∧
      view'.object param.ino = some object
  removed : ∀ parent name, request.removes = some (parent, name) →
    view'.replies = view.replies ++ [.err 0] →
    ∃ entry, view.entry parent name = some entry ∧
      view'.names = Function.update view.names entry none
  renamed : ∀ parent name newparent newname flags,
    request = .rename parent name newparent newname flags →
    view'.replies = view.replies ++ [.err 0] →
    ∃ source target, view.entry parent name = some source ∧
      view.entry newparent newname = some target ∧ view'.names = view.names.move source target
  linked : ∀ ino newparent newname param, request = .link ino newparent newname →
    view'.replies = view.replies ++ [.entry param] →
    param.ino = ino ∧ ∃ entry object, view.entry newparent newname = some entry ∧
      view.IsLinked ino object ∧ view'.names = Function.update view.names entry (some object)

/-! ## The view of the daemon -/

/-- The object that an inode was entered for. -/
def NfsInode.fileObject (inode : NfsInode) : NamedObject := ⟨hsiNfs3Getfh3 inode, inode.fileid⟩

/-- The object that a number stands for. -/
def Daemon.identity (daemon : Daemon) (ino : UInt64) : Option NamedObject :=
  (daemon.cached ino).map NfsInode.fileObject

/-- What the names look like to the kernel. -/
def nameView (config : Daemon × NameTable) : NameView :=
  ⟨config.1.identity, config.2, config.1.replies⟩

section Identity

variable {daemon daemon' : Daemon} {ino : UInt64}

theorem identity_of_cached {inode : NfsInode} (h : daemon.cached ino = some inode) :
    daemon.identity ino = some inode.fileObject := by
  rw [Daemon.identity, h, Option.map_some]

theorem identity_of_findIno {index : ℕ} (h : daemon.findIno ino = some index) :
    daemon.identity ino = some (daemon.inode index).fileObject :=
  identity_of_cached (cached_of_findIno h)

theorem Daemon.Denotes.identity_eq {object : NfsFh3} {fileid : UInt64}
    (h : daemon.Denotes ino object fileid) (hcoherent : Coherent daemon) :
    daemon.identity ino = some ⟨object.data, fileid⟩ := by
  obtain ⟨index, hfind, hhandle, rfl⟩ := h.findIno hcoherent
  rw [identity_of_findIno hfind, NfsInode.fileObject, hhandle]

theorem exists_index_of_identity (hcoherent : Coherent daemon) {object : NamedObject}
    (h : daemon.identity ino = some object) :
    ∃ index < daemon.heap.length, (daemon.inode index).ino = ino ∧
      (daemon.inode index).fileObject = object := by
  obtain ⟨inode, hcached, rfl⟩ := Option.map_eq_some_iff.mp h
  obtain ⟨index, hfind, rfl⟩ := Option.map_eq_some_iff.mp hcached
  obtain ⟨hlt, hino⟩ := (hcoherent.findIno_eq_some_iff ino index).mp hfind
  exact ⟨index, hlt, hino, rfl⟩

theorem SameIdentities.identity_eq (h : SameIdentities daemon daemon')
    (hcoherent : Coherent daemon) (hcoherent' : Coherent daemon') {object : NamedObject}
    (hobject : daemon.identity ino = some object) : daemon'.identity ino = some object := by
  obtain ⟨index, hlt, hino, rfl⟩ := exists_index_of_identity hcoherent hobject
  have hfind' : daemon'.findIno ino = some index :=
    (hcoherent'.findIno_eq_some_iff ino index).mpr
      ⟨hlt.trans_le h.length_le, (h.ino_eq index hlt).trans hino⟩
  rw [identity_of_findIno hfind', NfsInode.fileObject, NfsInode.fileObject, hsiNfs3Getfh3,
    h.fh_eq index hlt, h.fileid_eq index hlt]
  rfl

/-- The bytes of a handle determine it. -/
theorem fh_eq_of_getfh3_eq {inode other : NfsInode} (h : inode.fh.WellFormed)
    (hother : other.fh.WellFormed) (heq : hsiNfs3Getfh3 inode = hsiNfs3Getfh3 other) :
    inode.fh = other.fh := by
  have hbytes {inode : NfsInode} (h : inode.fh.WellFormed) :
      hsiNfs3Getfh3 inode = inode.fh.data := by
    rw [hsiNfs3Getfh3, ← h, List.take_length]
  rw [hbytes h, hbytes hother] at heq
  have hsize : inode.fh.size = other.fh.size := by
    apply UInt16.toNat_inj.mp
    rw [← h, ← hother, heq]
  generalize inode.fh = fh at *
  generalize other.fh = fh' at *
  cases fh
  cases fh'
  cases heq
  cases hsize
  rfl

/-- An object has one number. -/
theorem identity_inj (hcoherent : Coherent daemon) {ino' : UInt64} {object : NamedObject}
    (h : daemon.identity ino = some object) (h' : daemon.identity ino' = some object) :
    ino = ino' := by
  obtain ⟨index, hlt, rfl, rfl⟩ := exists_index_of_identity hcoherent h
  obtain ⟨other, hlt', rfl, heq⟩ := exists_index_of_identity hcoherent h'
  obtain ⟨hhandle, hfileid⟩ := NamedObject.mk.inj heq
  have hfh := fh_eq_of_getfh3_eq (hcoherent.inodeOk other hlt').fh_wellFormed
    (hcoherent.inodeOk index hlt).fh_wellFormed hhandle
  rw [hcoherent.identity_inj other hlt' index hlt hfileid hfh]

end Identity

section Changes

variable {plat : Platform} {fuel : ℕ} {daemon daemon' : Daemon} {request : Request} {trace : Trace}
  {names names' : NameTable}

/-- A request leads to at most one call that changes names, the one that it stands for. -/
theorem nameChange_handle (hcoherent : Coherent daemon)
    (hpath : ((handle plat fuel request).run daemon).Path trace (.done () daemon'))
    (hgives : nameServer.Gives names trace names') :
    trace.filter isNameChange = [] ∧ names' = names ∨
      ∃ procedure outcome, request.modification daemon.cached = some procedure ∧
        trace.filter isNameChange = [⟨.call procedure, outcome⟩] ∧
        nameServer names ⟨.call procedure, outcome⟩ names' := by
  have hgives := hgives.filter nameServer_ignores
  have hfilter : trace.filter isNameChange =
      (trace.filter isModification).filter isNameChange :=
    (filter_filter_of_imp (fun event ↦ @isModification_of_isNameChange event) trace).symm
  have heffect := effect_handle hcoherent _ _ hpath
  generalize trace.filter isNameChange = changes at hgives hfilter ⊢
  generalize trace.filter isModification = events at heffect hfilter
  subst hfilter
  cases heffect with
  | none => exact .inl ⟨rfl, hgives⟩
  | one outcome hmodification =>
    rw [List.filter_singleton, Bool.cond_eq_ite] at hgives ⊢
    split_ifs at hgives ⊢
    · obtain ⟨middle, hstep, rfl⟩ := hgives
      exact .inr ⟨_, outcome, hmodification, rfl, hstep⟩
    · exact .inl ⟨rfl, hgives⟩
  | exclusive outcome hmodification hobj =>
    obtain ⟨middle, hstep, rfl⟩ := hgives
    exact .inr ⟨_, _, hmodification, rfl, hstep⟩
  | parts hcached hparts =>
    have hnil : List.filter isNameChange events = [] := by
      apply List.filter_eq_nil_iff.mpr
      intro event hmem
      rw [(hparts event hmem).isNameChange_eq]
      exact Bool.false_ne_true
    rw [hnil] at hgives
    exact .inl ⟨hnil, hgives⟩
  | acl outcome hcached => exact .inl ⟨rfl, hgives⟩

theorem entry_of_cached {parent : UInt64} {dir : NfsInode} (h : daemon.cached parent = some dir)
    (name : CString) :
    (nameView (daemon, names)).entry parent name = some (dir.entry name) := by
  have hobject : (nameView (daemon, names)).object parent = some dir.fileObject :=
    identity_of_cached h
  exact NameView.entry_eq hobject name

/-- What the server does to names on such a call is what the request asks for. -/
theorem asked_of_modification {procedure : Call} {outcome : RpcOutcome procedure.Body}
    (h : request.modification daemon.cached = some procedure)
    (hstep : nameServer names ⟨.call procedure, outcome⟩ names') :
    names' = names ∨ (nameView (daemon, names)).Asked request names' := by
  cases request with
  | setattr ino attr toSet =>
    obtain ⟨inode, -, heq⟩ := Option.bind_eq_some_iff.mp h
    cases heq
    exact .inl hstep
  | mkdir | mknod | symlink | create =>
    obtain ⟨dir, hcached, heq⟩ := Option.bind_eq_some_iff.mp h
    cases heq
    refine (Makes.cases hstep).imp_right ?_
    rintro ⟨object, rfl⟩
    exact .make rfl (entry_of_cached hcached _) object
  | rmdir | unlink =>
    obtain ⟨dir, hcached, heq⟩ := Option.bind_eq_some_iff.mp h
    cases heq
    rcases hstep with rfl | ⟨rfl, -⟩
    · exact .inr (.remove rfl (entry_of_cached hcached _))
    · exact .inl rfl
  | rename parent name newparent newname flags =>
    obtain ⟨dir, hcached, hrest⟩ := Option.bind_eq_some_iff.mp h
    obtain ⟨newdir, hnewcached, heq⟩ := Option.bind_eq_some_iff.mp hrest
    cases heq
    rcases hstep with rfl | ⟨rfl, -⟩
    · exact .inr (.rename (entry_of_cached hcached _) (entry_of_cached hnewcached _))
    · exact .inl rfl
  | link ino newparent newname =>
    obtain ⟨dir, hcached, hrest⟩ := Option.bind_eq_some_iff.mp h
    obtain ⟨inode, hfile, heq⟩ := Option.bind_eq_some_iff.mp hrest
    cases heq
    obtain ⟨object, hhandle, hknown, hchanges⟩ := hstep
    rcases hchanges with rfl | ⟨rfl, -⟩
    · exact .inr (.link (entry_of_cached hcached _)
        ⟨_, identity_of_cached hfile, hhandle, hknown⟩)
    · exact .inl rfl
  | _ => cases h

end Changes

/-- A `LOOKUP`. -/
def isLookup : Event EnvAns → Bool
  | ⟨.call (.lookup _), _⟩ => true
  | _ => false

/-- The place that a call asks for an object at. -/
def Call.asked : Call → Option Diropargs3
  | .lookup entry => some entry
  | .create entry _ => some entry
  | .mkdir entry _ => some entry
  | .symlink entry _ _ => some entry
  | .mknod entry _ => some entry
  | _ => none

section Entries

variable {plat : Platform} {fuel : ℕ} {daemon daemon' : Daemon} {request : Request} {trace : Trace}
  {names names' : NameTable} {parent : UInt64} {name : CString}

theorem isLookup_or_isNameChange {event : Event EnvAns} {named : Option NfsFh3 × Option Fattr3}
    (h : namedObject event = some named) : isLookup event = true ∨ isNameChange event = true := by
  obtain ⟨op, answer⟩ := event
  cases op with
  | call procedure =>
    cases procedure with
    | lookup => exact .inl rfl
    | create | mkdir | symlink | mknod => exact .inr rfl
    | _ => cases h
  | _ => cases h

/-- A name stands for the object that a reply names for it. -/
theorem nameServer_named {procedure : Call} {outcome : RpcOutcome procedure.Body}
    {entry : Diropargs3} {object : NfsFh3} {attributes : Fattr3}
    (hstep : nameServer names ⟨.call procedure, outcome⟩ names')
    (hasked : procedure.asked = some entry)
    (hnamed : namedObject ⟨.call procedure, outcome⟩ = some (some object, some attributes)) :
    names' entry = some ⟨object.data, attributes.fileid⟩ := by
  have hmade {res : Diropres3ok} (hmakes : Makes names entry (.done (.ok res)) names')
      (hres : (res.obj, res.objAttributes) = (some object, some attributes)) :
      names' entry = some ⟨object.data, attributes.fileid⟩ := by
    obtain ⟨target, rfl, hnames⟩ := hmakes
    obtain ⟨hobject, hattributes⟩ := Prod.mk.inj hres
    rw [Function.update_self, hnames object attributes hobject hattributes]
  cases procedure with
  | lookup place =>
    cases hasked
    match outcome with
    | .done (.ok res) =>
      obtain ⟨rfl, target, htarget, hnames⟩ := hstep
      obtain ⟨hobject, hattributes⟩ := Prod.mk.inj (Option.some.inj hnamed)
      rw [htarget, hnames object attributes hobject hattributes]
    | .done (.fail _ _) => cases hnamed
    | .fail _ _ => cases hnamed
  | create | mkdir | symlink | mknod =>
    cases hasked
    match outcome with
    | .done (.ok res) => exact hmade hstep (Option.some.inj hnamed)
    | .done (.fail _ _) => cases hnamed
    | .fail _ _ => cases hnamed
  | _ => cases hasked

theorem hides_lookup_making (plat : Platform) (fuel : ℕ)
    (h : request.makes = some (parent, name)) : (handle plat fuel request).Hides isLookup := by
  have hmalloc (site : MallocSite) (granted : Bool) :
      isLookup (⟨.malloc site, granted⟩ : Event EnvAns) = false := rfl
  cases request with
  | mkdir parent name mode =>
    refine emits_ilookup hmalloc (fun index ↦ emits_created hmalloc ?_ _) (.pure _)
    exact .bind (.getInode index) fun _ ↦ .bind (.clntCall fun _ ↦ rfl)
      (emits_finishCreate hmalloc plat)
  | symlink link parent name =>
    refine emits_ilookup hmalloc (fun index ↦ emits_created hmalloc ?_ _) (.modify _)
    exact .bind (.getInode index) fun _ ↦ .bind (.clntCall fun _ ↦ rfl)
      (emits_finishCreate hmalloc plat)
  | mknod parent name mode rdev =>
    refine emits_ilookup hmalloc (fun index ↦ emits_created hmalloc ?_ _) (.modify _)
    refine .ite (.pure _) (.bind ?_ fun _ ↦ .ite ?_ (.pure _))
    · exact .bind (.malloc fun _ ↦ rfl) fun _ ↦ .ite (.ite (.pure _) (.crash _)) (.pure _)
    · exact .bind (.getInode index) fun _ ↦ .bind (.clntCall fun _ ↦ rfl)
        (emits_finishCreate hmalloc plat)
  | create parent name mode flags uid gid =>
    refine emits_hsxFuseCreate hmalloc (fun _ _ _ ↦ rfl) (fun new mode ↦ ?_) plat parent name mode
      flags uid gid
    refine .bind (.deref new) fun index ↦ .bind (.getInode index) fun _ ↦ ?_
    intro daemon trace ending hpath
    rcases hsiNfsSetattr_path hpath with ⟨-, rfl, -⟩ | ⟨-, outcome, rfl, -⟩
    · exact List.forall_mem_nil _
    · exact List.forall_mem_singleton.mpr rfl
  | _ => cases h

/-- A lookup asks for the object at its place, and for no other. -/
theorem shows_lookup (hcoherent : Coherent daemon) :
    (handle plat fuel (.lookup parent name)).Shows isLookup daemon fun events ↦
      events = [] ∨ ∃ dir outcome, daemon.cached parent = some dir ∧
        events = [⟨.call (.lookup (dir.entry name)), outcome⟩] := by
  intro trace ending hpath
  rcases hcoherent.path_ilookup hpath with ⟨-, hmiss⟩ | ⟨index, hfind, hfound⟩
  · obtain ⟨rfl, -⟩ := hmiss
    exact .inl rfl
  have hlocal {α : Type} {program : Prog α} (h : program.Within Change.apply localParts) :
      program.Hides isLookup := emits_local h fun _ _ ↦ rfl
  have hshows : (hsiNfs3Lookup plat index name).Shows isLookup daemon fun events ↦
      events = [] ∨ ∃ dir outcome, daemon.cached parent = some dir ∧
        events = [⟨.call (.lookup (dir.entry name)), outcome⟩] := by
    intro trace ending hpath
    rw [hsiNfs3Lookup, Prog.getInode_bind] at hpath
    obtain ⟨outcome, rest, rfl, hrest⟩ := Prog.path_clntCall_bind.mp hpath
    have hquiet : rest.filter isLookup = [] := by
      rcases outcome with _ | res | _
      · rw [hrest.1]
        rfl
      · exact Program.Hides.filter_eq_nil
          (.bind (hlocal (within_hsiNfsFhget localCache plat _ _)) fun _ ↦ .pure _) hrest
      · rw [hrest.1]
        rfl
    rw [List.filter_cons_of_pos rfl, hquiet]
    exact .inr ⟨_, outcome, cached_of_findIno hfind, rfl⟩
  refine Program.Shows.bind_hides hshows (fun ⟨err, child⟩ ↦ ?_) trace ending hfound
  exact hlocal (within_replyFound localTail err child)

theorem makes_modification {cached : UInt64 → Option NfsInode} {procedure : Call}
    (hmakes : request.makes = some (parent, name))
    (h : request.modification cached = some procedure) :
    ∃ dir, cached parent = some dir ∧ procedure.asked = some (dir.entry name) := by
  cases request with
  | mkdir | mknod | symlink | create =>
    obtain ⟨dir, hcached, heq⟩ := Option.bind_eq_some_iff.mp h
    cases hmakes
    cases heq
    exact ⟨dir, hcached, rfl⟩
  | _ => cases hmakes

theorem names_eq_of_quiet (hquiet : ∀ event ∈ trace, isNameChange event = false)
    (hgives : nameServer.Gives names trace names') : names' = names := by
  have hfiltered := hgives.filter nameServer_ignores
  have hnil : trace.filter isNameChange = [] := by
    apply List.filter_eq_nil_iff.mpr
    intro event hmem
    rw [hquiet event hmem]
    exact Bool.false_ne_true
  rw [hnil] at hfiltered
  exact hfiltered

/-- The event of a request that names an object is a call for the object at the place. -/
def NamedAt (daemon : Daemon) (parent : UInt64) (name : CString) (names names' : NameTable)
    (event : Event EnvAns) : Prop :=
  ∃ dir procedure outcome, event = ⟨.call procedure, outcome⟩ ∧
    daemon.cached parent = some dir ∧ procedure.asked = some (dir.entry name) ∧
    nameServer names event names'

theorem namedAt_lookup (hcoherent : Coherent daemon)
    (hpath : ((handle plat fuel (.lookup parent name)).run daemon).Path trace (.done () daemon'))
    (hgives : nameServer.Gives names trace names') {event : Event EnvAns} (hmem : event ∈ trace)
    {named : Option NfsFh3 × Option Fattr3} (hnamed : namedObject event = some named) :
    NamedAt daemon parent name names names' event := by
  have hhides := hides_handle (rfl : (Request.lookup parent name).reads = true) plat fuel
  have hquiet : ∀ event ∈ trace, isNameChange event = false := by
    intro event hmem
    have hhidden : isModification event = false := hhides _ _ _ hpath event hmem
    by_contra hchange
    rw [isModification_of_isNameChange (Bool.eq_true_of_not_eq_false hchange)] at hhidden
    cases hhidden
  have hlookup : isLookup event = true := by
    refine (isLookup_or_isNameChange hnamed).resolve_right ?_
    rw [hquiet event hmem]
    exact Bool.false_ne_true
  have hfiltered : event ∈ trace.filter isLookup := List.mem_filter.mpr ⟨hmem, hlookup⟩
  rcases shows_lookup hcoherent _ _ hpath with hnil | ⟨dir, outcome, hcached, hone⟩
  · rw [hnil] at hfiltered
    cases hfiltered
  · rw [hone, List.mem_singleton] at hfiltered
    subst hfiltered
    refine ⟨dir, _, outcome, rfl, hcached, rfl, ?_⟩
    -- names are the same before and behind the call
    obtain ⟨front, rest, rfl⟩ := List.append_of_mem hmem
    rw [List.forall_mem_append, List.forall_mem_cons] at hquiet
    obtain ⟨middle, hfront, after, hstep, hrest⟩ := Server.gives_append.mp hgives
    rw [names_eq_of_quiet hquiet.1 hfront] at hstep
    rw [names_eq_of_quiet hquiet.2.2 hrest]
    exact hstep

theorem namedAt_making (hcoherent : Coherent daemon)
    (hpath : ((handle plat fuel request).run daemon).Path trace (.done () daemon'))
    (hgives : nameServer.Gives names trace names') (hmakes : request.makes = some (parent, name))
    {event : Event EnvAns} (hmem : event ∈ trace) {named : Option NfsFh3 × Option Fattr3}
    (hnamed : namedObject event = some named) :
    NamedAt daemon parent name names names' event := by
  have hhidden : isLookup event = false :=
    hides_lookup_making plat fuel hmakes _ _ _ hpath event hmem
  have hchange : isNameChange event = true := by
    refine (isLookup_or_isNameChange hnamed).resolve_left ?_
    rw [hhidden]
    exact Bool.false_ne_true
  have hfiltered : event ∈ trace.filter isNameChange := List.mem_filter.mpr ⟨hmem, hchange⟩
  rcases nameChange_handle hcoherent hpath hgives with
    ⟨hnil, -⟩ | ⟨procedure, outcome, hmodification, hone, hstep⟩
  · rw [hnil] at hfiltered
    cases hfiltered
  · rw [hone, List.mem_singleton] at hfiltered
    subst hfiltered
    obtain ⟨dir, hcached, hasked⟩ := makes_modification hmakes hmodification
    exact ⟨dir, procedure, outcome, rfl, hcached, hasked, hstep⟩

/-- An entry has the number of the object that the name stands for. -/
theorem entered_handle (hcoherent : Coherent daemon)
    (hpath : ((handle plat fuel request).run daemon).Path trace (.done () daemon'))
    (hgives : nameServer.Gives names trace names') (hasks : request.asks = some (parent, name))
    {reply : FuseReply} {param : FuseEntryParam}
    (hreplies : daemon'.replies = daemon.replies ++ [reply])
    (hentered : reply.entered = some param) :
    ∃ entry object, (nameView (daemon, names)).entry parent name = some entry ∧
      names' entry = some object ∧ daemon'.identity param.ino = some object := by
  have hobject : request.asksObject = true := by
    cases request with
    | lookup | mkdir | mknod | symlink | create => rfl
    | _ => cases hasks
  have hcoherent' := (keepsIdentities_handle plat _ _ _ _ _ _ hpath hcoherent).1
  obtain ⟨object, attributes, hfound, hdenotes⟩ :=
    entersNamed_handle plat _ hobject _ _ _ _ _ hcoherent hpath hreplies hentered
  obtain ⟨event, hmem, hnamed⟩ := List.exists_of_findSome?_eq_some hfound
  have hat : NamedAt daemon parent name names names' event := by
    cases request with
    | lookup =>
      cases hasks
      exact namedAt_lookup hcoherent hpath hgives hmem hnamed
    | _ => exact namedAt_making hcoherent hpath hgives hasks hmem hnamed
  obtain ⟨dir, procedure, outcome, rfl, hcached, hasked, hstep⟩ := hat
  exact ⟨_, _, entry_of_cached hcached name, nameServer_named hstep hasked hnamed,
    hdenotes.identity_eq hcoherent'⟩

end Entries

section Acknowledged

variable {plat : Platform} {fuel : ℕ} {daemon daemon' : Daemon} {request : Request} {trace : Trace}
  {names names' : NameTable}

/-- The reply with the status of a call is 0 only if the call has succeeded. -/
theorem ok_of_status {procedure : Call} {outcome : RpcOutcome procedure.Body}
    (hending : (Ending.done () daemon' : Ending Fault Daemon Unit) =
      .done () (daemon.setReplies (daemon.replies ++ [.err (statusOf outcome)])))
    (hreplies : daemon'.replies = daemon.replies ++ [.err 0]) :
    ∃ body, outcome = .done (.ok body) := by
  cases hending
  have hstatus := List.append_cancel_left hreplies
  exact (statusOf_eq_zero_iff outcome).mp (FuseReply.err.inj (List.cons.inj hstatus).1)

/-- An error is not a success. -/
theorem not_err_zero {error : ℤ} (hne : error ≠ 0)
    (hpath : ((Prog.reply (.err error)).run daemon).Path trace (.done () daemon')) :
    daemon'.replies ≠ daemon.replies ++ [.err 0] := by
  intro hreplies
  cases hpath.2
  have hstatus := List.append_cancel_left hreplies
  exact hne (FuseReply.err.inj (List.cons.inj hstatus).1)

theorem removed_handle (hcoherent : Coherent daemon)
    (hpath : ((handle plat fuel request).run daemon).Path trace (.done () daemon'))
    (hgives : nameServer.Gives names trace names') {parent : UInt64} {name : CString}
    (hremoves : request.removes = some (parent, name))
    (hreplies : daemon'.replies = daemon.replies ++ [.err 0]) :
    ∃ entry, (nameView (daemon, names)).entry parent name = some entry ∧
      names' = Function.update names entry none := by
  cases request with
  | rmdir =>
    cases hremoves
    rcases hcoherent.path_ilookup hpath with ⟨-, hmiss⟩ | ⟨index, hfind, hfound⟩
    · cases hmiss.2
      exact absurd hreplies (by simp)
    · obtain ⟨outcome, rest, rfl, rfl, hending⟩ := hfound
      obtain ⟨body, rfl⟩ := ok_of_status hending hreplies
      obtain ⟨middle, hstep, rfl⟩ := hgives
      exact ⟨_, entry_of_cached (cached_of_findIno hfind) name, Changes.eq_of_ok hstep⟩
  | unlink =>
    cases hremoves
    change ((hsxFuseUnlink parent name).run daemon).Path trace (.done () daemon') at hpath
    unfold hsxFuseUnlink at hpath
    split_ifs at hpath with hempty hlong
    · exact absurd hreplies (not_err_zero (by decide) hpath)
    · exact absurd hreplies (not_err_zero (by decide) hpath)
    rcases hcoherent.path_ilookup hpath with ⟨-, hmiss⟩ | ⟨index, hfind, hfound⟩
    · exact absurd hreplies (not_err_zero (by decide) hmiss)
    · obtain ⟨outcome, rest, rfl, rfl, hending⟩ := hfound
      obtain ⟨body, rfl⟩ := ok_of_status hending hreplies
      obtain ⟨middle, hstep, rfl⟩ := hgives
      exact ⟨_, entry_of_cached (cached_of_findIno hfind) name, Changes.eq_of_ok hstep⟩
  | _ => cases hremoves

theorem renamed_handle (hcoherent : Coherent daemon) {parent newparent : UInt64}
    {name newname : CString} {flags : UInt32}
    (hpath : ((handle plat fuel (.rename parent name newparent newname flags)).run daemon).Path
      trace (.done () daemon'))
    (hgives : nameServer.Gives names trace names')
    (hreplies : daemon'.replies = daemon.replies ++ [.err 0]) :
    ∃ source target, (nameView (daemon, names)).entry parent name = some source ∧
      (nameView (daemon, names)).entry newparent newname = some target ∧
      names' = names.move source target := by
  change ((hsxFuseRename parent name newparent newname flags).run daemon).Path trace
    (.done () daemon') at hpath
  unfold hsxFuseRename at hpath
  split_ifs at hpath
  iterate 5 exact absurd hreplies (not_err_zero (by decide) hpath)
  rcases hcoherent.path_ilookup hpath with ⟨-, hmiss⟩ | ⟨index, hfind, hfound⟩
  · exact absurd hreplies (not_err_zero (by decide) hmiss)
  rcases hcoherent.path_ilookup hfound with ⟨-, hmiss⟩ | ⟨newindex, hnewfind, hfound⟩
  · exact absurd hreplies (not_err_zero (by decide) hmiss)
  obtain ⟨outcome, rest, rfl, rfl, hending⟩ := hfound
  obtain ⟨body, rfl⟩ := ok_of_status hending hreplies
  obtain ⟨middle, hstep, rfl⟩ := hgives
  exact ⟨_, _, entry_of_cached (cached_of_findIno hfind) name,
    entry_of_cached (cached_of_findIno hnewfind) newname, Changes.eq_of_ok hstep⟩

/-- A link without error was made by the server. -/
theorem link_ok {index newparent : ℕ} {newname : CString}
    (hpath : ((hsiNfs3Link index newparent newname).run daemon).Path trace (.done 0 daemon')) :
    ∃ body, trace.filter isNameChange =
      [⟨.call (linkCall daemon index newparent newname), .done (.ok body)⟩] := by
  generalize hending : (Ending.done (0 : ℤ) daemon' : Ending Fault Daemon ℤ) = ending at hpath
  cases hsiNfs3Link_path hpath with
  | tooLong => cases hending
  | noMemory => cases hending
  | overrun => cases hending
  | failed _ outcome hstatus => exact absurd (Ending.done.inj hending).1.symm hstatus
  | refreshed _ attributes => exact ⟨_, rfl⟩
  | reread _ outcome hread => exact ⟨_, rfl⟩

theorem linked_handle (hcoherent : Coherent daemon) {ino newparent : UInt64} {newname : CString}
    (hpath : ((handle plat fuel (.link ino newparent newname)).run daemon).Path trace
      (.done () daemon'))
    (hgives : nameServer.Gives names trace names') {param : FuseEntryParam}
    (hreplies : daemon'.replies = daemon.replies ++ [.entry param]) :
    param.ino = ino ∧ ∃ entry object,
      (nameView (daemon, names)).entry newparent newname = some entry ∧
      (nameView (daemon, names)).IsLinked ino object ∧
      names' = Function.update names entry (some object) := by
  rcases hcoherent.path_ilookup hpath with ⟨-, hmiss⟩ | ⟨parent, hparent, hfound⟩
  · cases hmiss.2
    exact absurd hreplies (by simp)
  rcases hcoherent.path_ilookup hfound with ⟨-, hmiss⟩ | ⟨index, hfind, hfound⟩
  · cases hmiss.2
    exact absurd hreplies (by simp)
  obtain ⟨hlt, hino⟩ := (hcoherent.findIno_eq_some_iff ino index).mp hfind
  obtain ⟨err, daemon₁, front, rest, hlink, hrest, rfl⟩ := Program.path_bind_done.mp hfound
  obtain ⟨hcoherent₁, hgrows⟩ := keeps_hsiNfs3Link index parent newname _ _ _ _ hlink hcoherent
  rw [← hgrows.replies_eq] at hreplies
  split_ifs at hrest with herr
  · subst herr
    obtain ⟨granted, back, rfl, hback⟩ := Prog.path_malloc_bind.mp hrest
    cases granted with
    | false =>
      cases hback.2
      cases List.append_cancel_left hreplies
    | true =>
      rw [if_pos rfl, Program.bind_run_of_ret (hsxFuseFillReply_obj_run hcoherent₁ index)] at hback
      obtain ⟨rfl, hending⟩ := hback
      cases hending
      cases List.append_cancel_left hreplies
      obtain ⟨body, hfilter⟩ := link_ok hlink
      have hgives := hgives.filter nameServer_ignores
      rw [List.filter_append, hfilter] at hgives
      obtain ⟨middle, ⟨object, hhandle, hknown, hchanges⟩, rfl⟩ := hgives
      exact ⟨(hgrows.ino_eq index hlt).trans hino, _, object,
        entry_of_cached (cached_of_findIno hparent) newname,
        ⟨_, identity_of_findIno hfind, hhandle, hknown⟩, hchanges.eq_of_ok⟩
  · cases hrest.2
    cases List.append_cancel_left hreplies

end Acknowledged

/-! ## Runs -/

section Runs

variable {plat : Platform} {daemon daemon' : Daemon} {names names' : NameTable}
  {moments : List ServedMoment} {last : Daemon × NameTable}

/-- Every request is a step of the view. -/
theorem nameStep_handle {fuel : ℕ} {request : Request} {trace : Trace} (hcoherent : Coherent daemon)
    (hpath : ((handle plat fuel request).run daemon).Path trace (.done () daemon'))
    (hgives : nameServer.Gives names trace names') :
    (nameView (daemon, names)).Step request (nameView (daemon', names')) where
  object_eq ino object hobject := by
    obtain ⟨hcoherent', hsame⟩ := keepsIdentities_handle plat _ _ _ _ _ _ hpath hcoherent
    exact hsame.identity_eq hcoherent hcoherent' hobject
  replies := keepsReplies_handle plat _ _ _ _ _ _ hpath
  names := by
    rcases nameChange_handle hcoherent hpath hgives with
      ⟨-, hsame⟩ | ⟨procedure, outcome, hmodification, -, hstep⟩
    · exact .inl hsame
    · exact asked_of_modification hmodification hstep
  entered parent name reply param hasks hreplies hentered :=
    entered_handle hcoherent hpath hgives hasks hreplies hentered
  removed parent name hremoves hreplies :=
    removed_handle hcoherent hpath hgives hremoves hreplies
  renamed parent name newparent newname flags heq hreplies := by
    subst heq
    exact renamed_handle hcoherent hpath hgives hreplies
  linked ino newparent newname param heq hreplies := by
    subst heq
    exact linked_handle hcoherent hpath hgives hreplies

theorem ServedStep.nameStep {config config' : Daemon × NameTable} {moment : ServedMoment}
    (h : ServedStep plat nameServer config moment config') (hcoherent : Coherent config.1) :
    Coherent config'.1 ∧ (nameView config).Step moment.request (nameView config') := by
  cases h with
  | mk hpath hgives =>
    exact ⟨(keepsIdentities_handle plat _ _ _ _ _ _ hpath hcoherent).1,
      nameStep_handle hcoherent hpath hgives⟩

/-- **The daemon and the server refine the view.**  Every run of requests with a server of names is
a run of the view, request by request and with the same replies. -/
theorem requests_refine_names (hcoherent : Coherent daemon)
    (hrun : Run (ServedStep plat nameServer) (daemon, names) moments last) :
    Run NameView.Step (nameView (daemon, names)) (moments.map ServedMoment.request)
      (nameView last) := by
  let kept (config : Daemon × NameTable) : Prop := Coherent config.1
  have hstep (config : Daemon × NameTable) (moment : ServedMoment) (config' : Daemon × NameTable)
      (hkept : kept config) (_ : True)
      (hserved : ServedStep plat nameServer config moment config') :
      kept config' ∧ (nameView config).Step moment.request (nameView config') :=
    hserved.nameStep hkept
  exact (Run.refines nameView ServedMoment.request hstep hcoherent (fun _ _ ↦ trivial) hrun).2

end Runs

/-- The link that `symlinkTrace` makes. -/
def rootLink : NamedObject := ⟨[9], plainAttr.fileid⟩

/-- A server whose only name is one of this link in the root directory. -/
def oneName (name : CString) : NameTable := Function.update (fun _ ↦ none) ⟨[0], name⟩ rootLink

/-- A server without names. -/
def noNames : NameTable := fun _ ↦ none

theorem rootLink_isNamed : rootLink.IsNamed (some ⟨[9], by decide⟩) (some plainAttr) := by
  intro fh post hhandle hattributes
  cases hhandle
  cases hattributes
  rfl

theorem gives_symlink_name : nameServer.Gives noNames symlinkTrace (oneName [108]) :=
  ⟨oneName [108], ⟨rootLink, rfl, rootLink_isNamed⟩, _, rfl, rfl⟩

/-- Making the link and reading it is a run of the view. -/
theorem requests_refine_names_link : ∃ (moments : List ServedMoment) (last : Daemon × NameTable)
    (param : FuseEntryParam),
    Run (ServedStep linuxHost nameServer) (mountedCache, noNames) moments last ∧
    moments.map ServedMoment.request = [.symlink [116] 1 [108], .readlink param.ino] ∧
    Run NameView.Step (nameView (mountedCache, noNames)) (moments.map ServedMoment.request)
      (nameView last) := by
  obtain ⟨daemon', param, hpath, -, daemon₂, hpath', -⟩ := exists_symlink_step
  have hread : nameServer.Gives (oneName [108]) readlinkTrace (oneName [108]) :=
    ⟨_, rfl, _, rfl, rfl⟩
  have hrun : Run (ServedStep linuxHost nameServer) (mountedCache, noNames)
      [⟨mountedCache, .symlink [116] 1 [108], symlinkTrace⟩,
        ⟨daemon', .readlink param.ino, readlinkTrace⟩] (daemon₂, oneName [108]) :=
    (Run.nil.snoc (.mk hpath gives_symlink_name)).snoc (.mk hpath' hread)
  exact ⟨_, _, param, hrun, rfl, requests_refine_names mounted_mountedCache.coherent hrun⟩

end NfsFuse
