import NfsFuse.Lib.Simulation
import NfsFuse.Fuse.Bindings
import NfsFuse.Fuse.Connections
import NfsFuse.Fuse.Truncation

/-!
# Files as the kernel sees them

What the daemon is for: files that can be written and read by number.  `FileView` says what that
means, without handles in a cache, remote calls or chunks: a number stands for an object once and
for all, an acknowledged write puts the whole data into the object, a failed one at most a first
part of it, and a read returns the bytes that are there.  Every run of requests with a server that
stores what it is given is a run of this.  So what was written is read back, as long as nothing else
is written to that place and the size is not set.

The view does not say that a size that is to be set is set: `hsi_nfs_setattr` leaves it out if it is
the one in the cache.
-/

namespace NfsFuse

open Lib

attribute [local irreducible] hsiNfsFhget

/-- The objects that numbers stand for, the bytes of the objects, and the replies so far. -/
structure FileView where
  object : UInt64 → Option (List UInt8)
  content : List UInt8 → List UInt8
  replies : List FuseReply

/-- The requests that move the bytes of a file. -/
def Request.transfers : Request → Bool
  | .read .. | .write .. => true
  | _ => false

namespace FileView

/-- Bytes are put into an object. -/
def put (view : FileView) (file : List UInt8) (off : ℕ) (bytes : List UInt8) : FileView :=
  { view with content := Function.update view.content file (patch 0 (view.content file) off bytes) }

/-- An object is cut, or extended with zeros. -/
def resize (view : FileView) (file : List UInt8) (size : ℕ) : FileView :=
  { view with content := Function.update view.content file ((view.content file).takeD size 0) }

/-- The bytes of a range, as far as they exist. -/
def bytes (view : FileView) (file : List UInt8) (off size : ℕ) : List UInt8 :=
  ((view.content file).drop off).take size

/-- A reply is sent. -/
def answer (view : FileView) (reply : FuseReply) : FileView :=
  { view with replies := view.replies ++ [reply] }

/-- More numbers stand for objects, and replies have been sent. -/
structure Extends (view view' : FileView) : Prop where
  object_eq : ∀ ino file, view.object ino = some file → view'.object ino = some file
  content_eq : view'.content = view.content
  replies : view.replies <+: view'.replies

/-- What a request may do. -/
inductive Step (view : FileView) : Request → FileView → Prop where
  | write {ino off : UInt64} {data file : List UInt8} (directIo : Bool)
      (h : view.object ino = some file) :
      Step view (.write ino data off directIo)
        ((view.put file off.toNat data).answer (.write data.length))
  | writePart {ino off : UInt64} {data file : List UInt8} (directIo : Bool) {err : ℤ}
      (h : view.object ino = some file) (herr : err ≠ 0) (stored : ℕ) :
      Step view (.write ino data off directIo)
        ((view.put file off.toNat (data.take stored)).answer (.err err))
  | read {ino off : UInt64} {size : ℕ} {file : List UInt8} (h : view.object ino = some file) :
      Step view (.read ino size off)
        (view.answer (.buf ((view.bytes file off.toNat size).map some)))
  | refused {request : Request} {err : ℤ} (h : request.transfers = true) (herr : err ≠ 0) :
      Step view request (view.answer (.err err))
  | resize {ino : UInt64} {attr : Stat} {toSet : UInt32} {file : List UInt8} {view' : FileView}
      (h : view.object ino = some file) (hsize : toSet &&& fuseSetAttrSize ≠ 0)
      (hview : (view.resize file (askedSize attr)).Extends view') :
      Step view (.setattr ino attr toSet) view'
  | other {request : Request} {view' : FileView} (h : request.transfers = false)
      (hview : view.Extends view') : Step view request view'

end FileView

/-- A server that stores what it is given.  A `WRITE` may store less than it was given, as its reply
says, and a call that fails may have been carried out.  Only the calls of the daemon change files,
and a handle that is not in use yet is that of an empty file.  `CREATE` is not among the calls that
matter: `hsi_nfs3_create` never sends a size. -/
def contentServer : Server EnvAns (List UInt8 → List UInt8) := fun files event files' ↦
  match event with
  | ⟨.call (.write file offset _ _ data), outcome⟩ =>
      ∃ stored ≤ data.length,
        files' = Function.update files file
          (patch 0 (files file) offset.toNat (data.take stored)) ∧
        ∀ count, outcome = .done (.ok count) → count.toNat = stored
  | ⟨.call (.setattr file attributes), outcome⟩ =>
      (files' = files ∧ (attributes.size = none ∨ ∀ post, outcome ≠ .done (.ok post))) ∨
        ∃ size, attributes.size = some size ∧
          files' = Function.update files file ((files file).takeD size.toNat 0)
  | ⟨.call (.read file offset count), .done (.ok res)⟩ =>
      files' = files ∧ ReadReply (files file) offset.toNat count res
  | _ => files' = files

/-- The calls that change the bytes of a file. -/
def isContentChange : Event EnvAns → Bool
  | ⟨.call (.write ..), _⟩ => true
  | ⟨.call (.setattr _ attributes), _⟩ => attributes.size.isSome
  | _ => false

theorem contentServer_ignores : contentServer.Ignores isContentChange := by
  intro before event after hhidden hstep
  obtain ⟨op, answer⟩ := event
  cases op with
  | call procedure =>
    cases procedure with
    | write => cases hhidden
    | setattr file attributes =>
      rcases hstep with ⟨heq, -⟩ | ⟨size, hsome, -⟩
      · exact heq
      · have hnone : attributes.size.isSome = false := hhidden
        rw [hsome] at hnone
        cases hnone
    | read file offset count =>
      match answer with
      | .done (.ok res) => exact hstep.1
      | .done (.fail _ _) => exact hstep
      | .fail _ _ => exact hstep
    | _ => exact hstep
  | _ => exact hstep

theorem isModification_of_isContentChange {event : Event EnvAns}
    (h : isContentChange event = true) : isModification event = true := by
  obtain ⟨op, answer⟩ := event
  cases op with
  | call procedure =>
    cases procedure with
    | write => rfl
    | setattr => rfl
    | _ => cases h
  | _ => cases h

section Loops

variable {index fuel cnt : ℕ} {off : UInt64} {daemon daemon' : Daemon} {trace : Trace}
  {files files' : List UInt8 → List UInt8}

/-- The loop of `hsx_fuse_write` has stored a first part of the data, all of it if it succeeds. -/
theorem writeLoop_puts {data : List UInt8} {stable err : ℤ} {total : ℕ}
    (hsize : off.toNat + data.length < 2 ^ 63) (hcnt : cnt ≤ data.length)
    (hpath : ((writeLoop index data off stable fuel cnt).run daemon).Path trace
      (.done (err, total) daemon'))
    {file : List UInt8} (hfile : hsiNfs3Getfh3 (daemon.inode index) = file)
    (hgives : contentServer.Gives
      (Function.update files file (patch 0 (files file) off.toNat (data.take cnt))) trace files') :
    daemon' = daemon ∧ ∃ stored,
      files' = Function.update files file (patch 0 (files file) off.toNat (data.take stored)) ∧
      (err = 0 → total = data.length ∧ stored = data.length) := by
  induction fuel generalizing cnt trace with
  | zero => cases hpath.2
  | succ fuel ih =>
    rcases writeLoop_step hpath with ⟨hle, rfl, hending⟩ |
      ⟨-, chunk, outcome, rest, hchunk, rfl, hcases⟩
    · have hall : cnt = data.length := Nat.le_antisymm hcnt hle
      cases hending
      exact ⟨rfl, _, hgives, fun _ ↦ ⟨hall, hall⟩⟩
    obtain ⟨middle, ⟨stored, hstored, hmiddle, hcount⟩, hrest⟩ := hgives
    have hlength : cnt + stored ≤ data.length := by
      rw [hchunk, List.length_take, List.length_drop] at hstored
      omega
    have hmiddle' : middle = Function.update files file
        (patch 0 (files file) off.toNat (data.take (cnt + stored))) := by
      rw [hmiddle, hfile, Function.update_self, Function.update_idem, toNat_offset hsize hcnt,
        hchunk, patch_take_chunk _ data off.toNat hcnt (hchunk ▸ hstored)]
    rcases hcases with ⟨hstatus, rfl, hending⟩ | ⟨count, rfl, hloop⟩
    · cases hending
      exact ⟨rfl, _, hrest.trans hmiddle', fun herr ↦ absurd herr hstatus⟩
    · obtain rfl := hcount count rfl
      rw [hmiddle'] at hrest
      exact ih hlength hloop hrest

/-- The loop of `hsx_fuse_read` has fetched the bytes that are there, if it succeeds. -/
theorem readLoop_fetches {size : ℕ} {buf : List (Option UInt8)}
    {result : ℤ × ℕ × List (Option UInt8)} (hsize : off.toNat + size < 2 ^ 63)
    {file : List UInt8} (hfile : hsiNfs3Getfh3 (daemon.inode index) = file)
    (hread : ReadSoFar (files file) off.toNat size cnt buf)
    (hpath : ((readLoop index size off fuel cnt buf).run daemon).Path trace (.done result daemon'))
    (hgives : contentServer.Gives files trace files') :
    daemon' = daemon ∧ files' = files ∧ (result.1 ≠ 0 ∨
      readMessage result = .buf ((((files file).drop off.toNat).take size).map some)) := by
  induction fuel generalizing cnt buf trace with
  | zero => cases hpath.2
  | succ fuel ih =>
    rcases readLoop_step hpath with ⟨hle, rfl, hending⟩ | ⟨-, outcome, rest, rfl, hcases⟩
    · cases hending
      exact ⟨rfl, hgives, .inr (hread.message (.inl (Nat.le_antisymm hread.count_le hle)))⟩
    obtain ⟨middle, hstep, hrest⟩ := hgives
    obtain rfl := contentServer_ignores _ _ _ rfl hstep
    rcases hcases with ⟨hstatus, rfl, hending⟩ | ⟨res, rfl, hcases⟩
    · cases hending
      exact ⟨rfl, hrest, .inl hstatus⟩
    have hreply := hstep.2
    rw [hfile, toNat_offset hsize hread.count_le] at hreply
    have hextended := (hread.extend (Nat.min_le_left _ _) hreply).2
    rcases hcases with ⟨-, -, hending⟩ | ⟨-, heof, rfl, hending⟩ | ⟨-, -, hloop⟩
    · cases hending
    · cases hending
      refine ⟨rfl, hrest, .inr (hextended.message (.inr ?_))⟩
      have hend := hreply.eof_iff.mp heof
      rw [hreply.count_eq]
      omega
    · exact ih hextended hloop hrest

end Loops

/-! ## The view of the daemon -/

/-- The handle of the object that a number stands for. -/
def Daemon.object (daemon : Daemon) (ino : UInt64) : Option (List UInt8) :=
  (daemon.cached ino).map hsiNfs3Getfh3

/-- What the daemon and the server look like to the kernel. -/
def fileView (config : Daemon × (List UInt8 → List UInt8)) : FileView :=
  ⟨config.1.object, config.2, config.1.replies⟩

/-- The offsets of a transfer are those of a file. -/
def Request.InRange : Request → Prop
  | .read _ size off => off.toNat + size < 2 ^ 63
  | .write _ data off _ => off.toNat + data.length < 2 ^ 63
  | _ => True

theorem object_of_findIno {daemon : Daemon} {ino : UInt64} {index : ℕ}
    (h : daemon.findIno ino = some index) :
    daemon.object ino = some (hsiNfs3Getfh3 (daemon.inode index)) := by
  rw [Daemon.object, cached_of_findIno h, Option.map_some]

theorem SameIdentities.object_eq {daemon daemon' : Daemon} (h : SameIdentities daemon daemon')
    (hcoherent : Coherent daemon) (hcoherent' : Coherent daemon') {ino : UInt64} {file : List UInt8}
    (hobject : daemon.object ino = some file) : daemon'.object ino = some file := by
  obtain ⟨inode, hcached, rfl⟩ := Option.map_eq_some_iff.mp hobject
  obtain ⟨index, hfind, rfl⟩ := Option.map_eq_some_iff.mp hcached
  obtain ⟨hlt, hino⟩ := (hcoherent.findIno_eq_some_iff ino index).mp hfind
  have hfind' : daemon'.findIno ino = some index :=
    (hcoherent'.findIno_eq_some_iff ino index).mpr
      ⟨hlt.trans_le h.length_le, (h.ino_eq index hlt).trans hino⟩
  rw [object_of_findIno hfind', hsiNfs3Getfh3, h.fh_eq index hlt]
  rfl

/-- Replies are not taken back. -/
def KeepsReplies (daemon daemon' : Daemon) : Prop := daemon.replies <+: daemon'.replies

instance : Std.Refl KeepsReplies := ⟨fun _ ↦ List.prefix_rfl⟩

instance : IsTrans Daemon KeepsReplies := ⟨fun _ _ _ h h' ↦ List.IsPrefix.trans h h'⟩

theorem keepsReplies_handle (plat : Platform) (fuel : ℕ) (request : Request) :
    (handle plat fuel request).Respects KeepsReplies := by
  have hwithin := within_handle requestParts_handler plat fuel request (fun _ _ _ ↦ trivial)
    fun _ _ _ _ ↦ trivial
  refine hwithin.respects fun label _ daemon ↦ ?_
  cases label with
  | reply message => exact List.prefix_append _ _
  | _ => exact List.prefix_rfl

/-- The `SETATTR` of an exclusive create leaves the size alone: it is given the cached one. -/
theorem hides_exclusiveSetattr (new : InodePtr) (mode : UInt32) :
    (exclusiveSetattr new mode).Hides isContentChange := by
  refine .bind (.deref new) fun index ↦ ?_
  intro daemon trace ending hpath
  rw [Prog.getInode_bind] at hpath
  rcases hsiNfsSetattr_path hpath with ⟨-, rfl, -⟩ | ⟨-, outcome, rfl, -⟩
  · exact List.forall_mem_nil _
  · rw [List.forall_mem_singleton]
    have hdropped : ¬ (setattrValid (daemon.inode index) { (daemon.inode index).iattr with
        mode := mode &&& 0o777
        valid := (daemon.inode index).iattr.valid ||| hsfsAttrMode } &&& hsfsAttrSize ≠ 0) :=
      fun h ↦ ((setattrValid_and_size _ _).mp h).2 (.inr rfl)
    exact congrArg Option.isSome (if_neg hdropped)

theorem hides_hsxFuseCreate (plat : Platform) (parent : UInt64) (name : CString)
    (mode flags uid gid : UInt32) :
    (hsxFuseCreate plat parent name mode flags uid gid).Hides isContentChange :=
  emits_hsxFuseCreate (fun _ _ ↦ rfl) (fun _ _ _ ↦ rfl) hides_exclusiveSetattr plat parent name mode
    flags uid gid

/-- Of the modifications that requests stand for, only a `SETATTR` changes the bytes of a file. -/
theorem modification_content {cached : UInt64 → Option NfsInode} {request : Request}
    {procedure : Call} (h : request.modification cached = some procedure)
    (outcome : RpcOutcome procedure.Body) :
    isContentChange ⟨.call procedure, outcome⟩ = false ∨
      ∃ ino attr toSet inode, request = .setattr ino attr toSet ∧ cached ino = some inode ∧
        procedure = .setattr (hsiNfs3Getfh3 inode) (sentSattr inode attr toSet) := by
  cases request with
  | setattr ino attr toSet =>
    obtain ⟨inode, hcached, heq⟩ := Option.bind_eq_some_iff.mp h
    exact .inr ⟨ino, attr, toSet, inode, rfl, hcached, (Option.some.inj heq).symm⟩
  | rename parent name newparent newname flags =>
    obtain ⟨dir, -, hrest⟩ := Option.bind_eq_some_iff.mp h
    obtain ⟨newdir, -, heq⟩ := Option.bind_eq_some_iff.mp hrest
    cases heq
    exact .inl rfl
  | link ino newparent newname =>
    obtain ⟨dir, -, hrest⟩ := Option.bind_eq_some_iff.mp h
    obtain ⟨inode, -, heq⟩ := Option.bind_eq_some_iff.mp hrest
    cases heq
    exact .inl rfl
  | mkdir | rmdir | unlink | symlink | mknod | create =>
    obtain ⟨dir, -, heq⟩ := Option.bind_eq_some_iff.mp h
    cases heq
    exact .inl rfl
  | _ => cases h

/-- The bytes of the files after such a request. -/
inductive ContentAfter (daemon : Daemon) (files : List UInt8 → List UInt8) :
    Request → (List UInt8 → List UInt8) → Prop where
  | same {request : Request} : ContentAfter daemon files request files
  | resized {ino : UInt64} {attr : Stat} {toSet : UInt32} {file : List UInt8}
      (h : daemon.object ino = some file) (hsize : toSet &&& fuseSetAttrSize ≠ 0) :
      ContentAfter daemon files (.setattr ino attr toSet)
        (Function.update files file ((files file).takeD (askedSize attr) 0))

section Steps

variable {plat : Platform} {fuel : ℕ} {daemon daemon' : Daemon} {trace : Trace}
  {files files' : List UInt8 → List UInt8}

theorem content_setattr {ino : UInt64} {attr : Stat} {toSet : UInt32} {inode : NfsInode}
    (hcached : daemon.cached ino = some inode) (outcome : RpcOutcome (Option Fattr3))
    (hgives : contentServer.Gives files
      [⟨.call (.setattr (hsiNfs3Getfh3 inode) (sentSattr inode attr toSet)), outcome⟩] files') :
    ContentAfter daemon files (.setattr ino attr toSet) files' := by
  obtain ⟨middle, hstep, rfl⟩ := hgives
  rcases hstep with ⟨rfl, -⟩ | ⟨size, hsome, rfl⟩
  · exact .same
  · have hobject : daemon.object ino = some (hsiNfs3Getfh3 inode) := by
      rw [Daemon.object, hcached, Option.map_some]
    rw [sentSattr_eq] at hsome
    obtain ⟨⟨hset, -⟩, heq⟩ := Option.ite_none_right_eq_some.mp hsome
    cases heq
    exact .resized hobject hset

/-- A request that transfers nothing leaves the bytes of the files alone, or sets a size. -/
theorem content_handle {request : Request} (hcoherent : Coherent daemon)
    (htransfers : request.transfers = false)
    (hpath : ((handle plat fuel request).run daemon).Path trace (.done () daemon'))
    (hgives : contentServer.Gives files trace files') :
    ContentAfter daemon files request files' := by
  have hgives := hgives.filter contentServer_ignores
  have hfilter : trace.filter isContentChange =
      (trace.filter isModification).filter isContentChange :=
    (filter_filter_of_imp (fun event ↦ @isModification_of_isContentChange event) trace).symm
  have hsame (hnil : trace.filter isContentChange = []) :
      ContentAfter daemon files request files' := by
    rw [hnil] at hgives
    cases hgives
    exact .same
  have heffect := effect_handle hcoherent _ _ hpath
  generalize trace.filter isModification = events at heffect hfilter
  cases heffect with
  | none => exact hsame hfilter
  | one outcome hmodification =>
    rw [List.filter_singleton, Bool.cond_eq_ite] at hfilter
    rcases modification_content hmodification outcome with
      hhidden | ⟨ino, attr, toSet, inode, rfl, hcached, rfl⟩
    · rw [hhidden, if_neg Bool.false_ne_true] at hfilter
      exact hsame hfilter
    · split_ifs at hfilter
      · rw [hfilter] at hgives
        exact content_setattr hcached outcome hgives
      · exact hsame hfilter
  | exclusive => exact hsame ((hides_hsxFuseCreate plat _ _ _ _ _ _).filter_eq_nil hpath)
  | parts => cases htransfers
  | acl outcome hcached => exact hsame hfilter

theorem step_write {ino off : UInt64} {data : List UInt8} {directIo : Bool}
    (hcoherent : Coherent daemon) (hsize : off.toNat + data.length < 2 ^ 63)
    (hpath : ((hsxFuseWrite fuel ino data off directIo).run daemon).Path trace (.done () daemon'))
    (hgives : contentServer.Gives files trace files') :
    (fileView (daemon, files)).Step (.write ino data off directIo)
      (fileView (daemon', files')) := by
  obtain ⟨granted, rest, rfl, hcases⟩ := hsxFuseWrite_path hcoherent hpath
  obtain ⟨middle, hmalloc, hgives⟩ := hgives
  rw [show middle = files from hmalloc] at hgives
  rcases hcases with ⟨err, herr, -, rfl, hending⟩ | ⟨index, ending, -, hfind, hloop, hending⟩
  · cases hending
    cases hgives
    exact .refused rfl herr
  cases ending with
  | crashed => cases hending
  | done result current =>
    obtain ⟨err, total⟩ := result
    have hobject : (fileView (daemon, files)).object ino = _ := object_of_findIno hfind
    have hstart : files = Function.update files (hsiNfs3Getfh3 (daemon.inode index))
        (patch 0 (files (hsiNfs3Getfh3 (daemon.inode index))) off.toNat (data.take 0)) := by
      rw [List.take_zero, patch_nil, Function.update_eq_self]
    rw [hstart] at hgives
    obtain ⟨rfl, stored, rfl, hcomplete⟩ :=
      writeLoop_puts hsize (Nat.zero_le _) hloop rfl hgives
    cases hending
    by_cases herr : err = 0
    · obtain ⟨rfl, rfl⟩ := hcomplete herr
      subst herr
      rw [List.take_length]
      exact .write directIo hobject
    · have hmessage : writeMessage (err, total) = .err err := if_pos herr
      rw [hmessage]
      exact .writePart directIo hobject herr stored

theorem step_read {ino off : UInt64} {size : ℕ} (hcoherent : Coherent daemon)
    (hsize : off.toNat + size < 2 ^ 63)
    (hpath : ((hsxFuseRead fuel ino size off).run daemon).Path trace (.done () daemon'))
    (hgives : contentServer.Gives files trace files') :
    (fileView (daemon, files)).Step (.read ino size off) (fileView (daemon', files')) := by
  obtain ⟨granted, rest, rfl, hcases⟩ := hsxFuseRead_path hcoherent hpath
  obtain ⟨middle, hmalloc, hgives⟩ := hgives
  rw [show middle = files from hmalloc] at hgives
  rcases hcases with ⟨err, herr, -, rfl, hending⟩ | ⟨index, ending, -, hfind, hloop, hending⟩
  · cases hending
    cases hgives
    exact .refused rfl herr
  cases ending with
  | crashed => cases hending
  | done result current =>
    have hobject : (fileView (daemon, files)).object ino = _ := object_of_findIno hfind
    have hstart : ReadSoFar (files (hsiNfs3Getfh3 (daemon.inode index))) off.toNat size 0
        (List.replicate size none) :=
      ⟨List.length_replicate, Nat.zero_le _, Nat.zero_le _, rfl⟩
    obtain ⟨rfl, rfl, hresult⟩ := readLoop_fetches hsize rfl hstart hloop hgives
    cases hending
    rcases hresult with herr | hmessage
    · have hfailed : readMessage result = .err result.1 := if_pos herr
      rw [hfailed]
      exact .refused rfl herr
    · rw [hmessage]
      exact .read hobject

/-- Every request is a step of the view. -/
theorem step_handle {request : Request} (hcoherent : Coherent daemon) (hrange : request.InRange)
    (hpath : ((handle plat fuel request).run daemon).Path trace (.done () daemon'))
    (hgives : contentServer.Gives files trace files') :
    (fileView (daemon, files)).Step request (fileView (daemon', files')) := by
  by_cases htransfers : request.transfers = true
  · cases request with
    | write ino data off directIo => exact step_write hcoherent hrange hpath hgives
    | read ino size off => exact step_read hcoherent hrange hpath hgives
    | _ => cases htransfers
  · rw [Bool.not_eq_true] at htransfers
    obtain ⟨hcoherent', hsame⟩ := keepsIdentities_handle plat _ _ _ _ _ _ hpath hcoherent
    have hobject (ino : UInt64) (file : List UInt8) (h : daemon.object ino = some file) :
        daemon'.object ino = some file := hsame.object_eq hcoherent hcoherent' h
    have hreplies : daemon.replies <+: daemon'.replies :=
      keepsReplies_handle plat _ _ _ _ _ _ hpath
    cases content_handle hcoherent htransfers hpath hgives with
    | same => exact .other htransfers ⟨hobject, rfl, hreplies⟩
    | resized hfile hset => exact .resize hfile hset ⟨hobject, rfl, hreplies⟩

end Steps

section Runs

variable {plat : Platform} {daemon : Daemon} {files : List UInt8 → List UInt8}
  {moments : List ServedMoment} {last : Daemon × (List UInt8 → List UInt8)}

theorem ServedStep.fileStep {config config' : Daemon × (List UInt8 → List UInt8)}
    {moment : ServedMoment} (h : ServedStep plat contentServer config moment config')
    (hcoherent : Coherent config.1) (hrange : moment.request.InRange) :
    Coherent config'.1 ∧ (fileView config).Step moment.request (fileView config') := by
  cases h with
  | mk hpath hgives =>
    exact ⟨(keepsIdentities_handle plat _ _ _ _ _ _ hpath hcoherent).1,
      step_handle hcoherent hrange hpath hgives⟩

/-- **The daemon and the server refine the view.**  Every run of requests with a server that stores
what it is given is a run of the view, request by request and with the same replies. -/
theorem requests_refine_files (hcoherent : Coherent daemon)
    (hrange : ∀ moment ∈ moments, moment.request.InRange)
    (hrun : Run (ServedStep plat contentServer) (daemon, files) moments last) :
    Run FileView.Step (fileView (daemon, files)) (moments.map ServedMoment.request)
      (fileView last) := by
  let kept (config : Daemon × (List UInt8 → List UInt8)) : Prop := Coherent config.1
  have hstep (config : Daemon × (List UInt8 → List UInt8)) (moment : ServedMoment)
      (config' : Daemon × (List UInt8 → List UInt8)) (hkept : kept config)
      (hin : moment.request.InRange)
      (hserved : ServedStep plat contentServer config moment config') :
      kept config' ∧ (fileView config).Step moment.request (fileView config') :=
    hserved.fileStep hkept hin
  exact (Run.refines fileView ServedMoment.request hstep hcoherent hrange hrun).2

end Runs

/-! ## Written bytes are read back -/

/-- A request keeps away from a range of an object: it does not write into it, and does not set the
size of the object. -/
def Request.Spares (object : UInt64 → Option (List UInt8)) (file : List UInt8) (off length : ℕ) :
    Request → Prop
  | .write ino data start _ => object ino = some file →
      off + length ≤ start.toNat ∨ start.toNat + data.length ≤ off
  | .setattr ino _ toSet => object ino = some file → toSet &&& fuseSetAttrSize = 0
  | _ => True

namespace FileView

/-- Bytes are found at a place of the object that a number stands for. -/
structure Holds (view : FileView) (ino : UInt64) (file : List UInt8) (off : ℕ)
    (data : List UInt8) : Prop where
  object_eq : view.object ino = some file
  found : data <+: (view.content file).drop off

section Holds

variable {view view' : FileView} {ino : UInt64} {file data : List UInt8} {off : ℕ}

theorem Holds.of_extends (h : view.Holds ino file off data) (hextends : view.Extends view') :
    view'.Holds ino file off data where
  object_eq := hextends.object_eq ino file h.object_eq
  found := hextends.content_eq ▸ h.found

/-- Other objects do not matter. -/
theorem Holds.update (h : view.Holds ino file off data) {other content : List UInt8}
    (hcontent : other = file → data <+: content.drop off) :
    Holds { view with content := Function.update view.content other content } ino file off
      data where
  object_eq := h.object_eq
  found := by
    dsimp only
    by_cases hfile : file = other
    · subst hfile
      rw [Function.update_self]
      exact hcontent rfl
    · rw [Function.update_of_ne hfile]
      exact h.found

/-- Bytes that are put elsewhere do not matter either. -/
theorem Holds.put (h : view.Holds ino file off data) {other written : List UInt8} {start : ℕ}
    (hdisjoint : other = file → off + data.length ≤ start ∨ start + written.length ≤ off) :
    (view.put other start written).Holds ino file off data := by
  apply h.update
  rintro rfl
  exact isPrefix_drop_patch_of_disjoint h.found (hdisjoint rfl)

theorem Holds.answer (h : view.Holds ino file off data) (reply : FuseReply) :
    (view.answer reply).Holds ino file off data :=
  ⟨h.object_eq, h.found⟩

theorem Holds.step {request : Request} (h : view.Holds ino file off data)
    (hspares : request.Spares view.object file off data.length) (hstep : view.Step request view') :
    view'.Holds ino file off data := by
  cases hstep with
  | write directIo hobject =>
    refine (h.put ?_).answer _
    rintro rfl
    exact hspares hobject
  | writePart directIo hobject herr stored =>
    refine (h.put ?_).answer _
    rintro rfl
    -- a first part of the data ends no later than the data
    exact (hspares hobject).imp_right
      (Nat.add_le_add_left (List.length_take_le' stored _) _).trans
  | read => exact h.answer _
  | refused => exact h.answer _
  | resize hobject hset hextends =>
    refine (h.update ?_).of_extends hextends
    rintro rfl
    exact absurd (hspares hobject) hset
  | other _ hextends => exact h.of_extends hextends

/-- The data of an acknowledged write is found where it was to be written. -/
theorem Step.holds_written {start : UInt64} {directIo : Bool} {count : ℕ}
    (hstep : view.Step (.write ino data start directIo) view')
    (hobject : view.object ino = some file)
    (hreply : view'.replies = view.replies ++ [.write count]) :
    view'.Holds ino file start.toNat data := by
  cases hstep with
  | write directIo hfile =>
    cases hfile.symm.trans hobject
    have hfound : data <+: ((view.put file start.toNat data).content file).drop start.toNat := by
      dsimp only [FileView.put]
      rw [Function.update_self]
      exact isPrefix_drop_patch 0 _ data start.toNat
    have hput : (view.put file start.toNat data).Holds ino file start.toNat data :=
      ⟨hobject, hfound⟩
    exact hput.answer _
  | writePart => cases List.append_cancel_left hreply
  | refused => cases List.append_cancel_left hreply
  | other htransfers => cases htransfers

/-- What a read returns of bytes that are there. -/
theorem Step.bytes_of_holds {start : UInt64} {size : ℕ} {fetched : List (Option UInt8)}
    (hstep : view.Step (.read ino size start) view') (h : view.Holds ino file off data)
    (hreply : view'.replies = view.replies ++ [.buf fetched])
    (hle : off ≤ start.toNat) (hend : start.toNat + size ≤ off + data.length) :
    fetched = ((data.drop (start.toNat - off)).take size).map some := by
  cases hstep with
  | read hfile =>
    cases hfile.symm.trans h.object_eq
    cases List.append_cancel_left hreply
    obtain ⟨behind, hfound⟩ := h.found
    have hdrop : (view.content file).drop start.toNat =
        data.drop (start.toNat - off) ++ behind := by
      rw [← Nat.add_sub_of_le hle, ← List.drop_drop, ← hfound, Nat.add_sub_cancel_left,
        List.drop_append_of_le_length (by omega)]
    rw [FileView.bytes, hdrop, List.take_append_of_le_length (by rw [List.length_drop]; omega)]
  | refused => cases List.append_cancel_left hreply
  | other htransfers => cases htransfers

end Holds

end FileView

section ReadBack

variable {plat : Platform} {daemon : Daemon} {files : List UInt8 → List UInt8}
  {moments : List ServedMoment} {middle reached last : Daemon × (List UInt8 → List UInt8)}
  {ino off start : UInt64} {data file : List UInt8} {size count : ℕ} {directIo : Bool}
  {trace trace' : Trace} {fetched : List (Option UInt8)}

/-- Requests that keep away from bytes leave them where they are. -/
theorem holds_of_spares {place : ℕ} (hcoherent : Coherent middle.1)
    (hheld : (fileView middle).Holds ino file place data)
    (hrun : Run (ServedStep plat contentServer) middle moments reached)
    (hrange : ∀ moment ∈ moments, moment.request.InRange)
    (hspares : ∀ moment ∈ moments,
      moment.request.Spares moment.before.object file place data.length) :
    Coherent reached.1 ∧ (fileView reached).Holds ino file place data := by
  induction hrun with
  | nil => exact ⟨hcoherent, hheld⟩
  | snoc hrun hserved ih =>
    rw [List.forall_mem_append, List.forall_mem_singleton] at hrange hspares
    obtain ⟨hcoherent', hheld'⟩ := ih hrange.1 hspares.1
    obtain ⟨hcoherent'', hstep⟩ := hserved.fileStep hcoherent' hrange.2
    cases hserved with
    | mk hpath hgives => exact ⟨hcoherent'', hheld'.step hspares.2 hstep⟩

/-- **Written bytes are read back.**  After an acknowledged write and any requests that neither
write to its range nor set the size of the file, under whatever number, a read inside the range that
does not fail returns the bytes that were written. -/
theorem written_bytes_read_back (hcoherent : Coherent daemon)
    (hobject : daemon.object ino = some file)
    (hwrite : ServedStep plat contentServer (daemon, files)
      ⟨daemon, .write ino data off directIo, trace⟩ middle)
    (hacknowledged : middle.1.replies = daemon.replies ++ [.write count])
    (hrun : Run (ServedStep plat contentServer) middle moments reached)
    (hread : ServedStep plat contentServer reached ⟨reached.1, .read ino size start, trace'⟩ last)
    (hreply : last.1.replies = reached.1.replies ++ [.buf fetched])
    (hsize : off.toNat + data.length < 2 ^ 63)
    (hrange : ∀ moment ∈ moments, moment.request.InRange)
    (hspares : ∀ moment ∈ moments,
      moment.request.Spares moment.before.object file off.toNat data.length)
    (hle : off.toNat ≤ start.toNat) (hend : start.toNat + size ≤ off.toNat + data.length) :
    fetched = ((data.drop (start.toNat - off.toNat)).take size).map some := by
  obtain ⟨hcoherent', hstep⟩ := hwrite.fileStep hcoherent hsize
  have hwritten := hstep.holds_written hobject hacknowledged
  obtain ⟨hcoherent'', hheld⟩ := holds_of_spares hcoherent' hwritten hrun hrange hspares
  have hinside : start.toNat + size < 2 ^ 63 := hend.trans_lt hsize
  obtain ⟨-, hfetch⟩ := hread.fileStep hcoherent'' hinside
  exact hfetch.bytes_of_holds hheld hreply hle hend

end ReadBack

/-- The events of a write behind a gap, stored in two parts. -/
def gapTrace : Trace :=
  [⟨.malloc .writeBuf, true⟩, ⟨.call (.write [7] 2 2 0 [1, 2]), RpcOutcome.done (.ok 2)⟩,
    ⟨.call (.write [7] 4 1 0 [3]), RpcOutcome.done (.ok 1)⟩]

/-- The events of a write right behind it. -/
def behindTrace : Trace :=
  [⟨.malloc .writeBuf, true⟩, ⟨.call (.write [7] 5 1 0 [9]), RpcOutcome.done (.ok 1)⟩]

/-- The events of a read of the last two bytes of the first write. -/
def lastBytesTrace : Trace :=
  [⟨.malloc .readBuf, true⟩, ⟨.call (.read [7] 3 2), RpcOutcome.done (.ok ⟨2, false, [2, 3]⟩)⟩]

/-- A server whose other files are empty. -/
def chunkBytes (content : List UInt8) : List UInt8 → List UInt8 :=
  Function.update (fun _ ↦ []) [7] content

theorem chunkBytes_patch (content : List UInt8) (start : ℕ) (piece : List UInt8) :
    chunkBytes (patch 0 content start piece) = Function.update (chunkBytes content) [7]
      (patch 0 (chunkBytes content [7]) start piece) := by
  rw [chunkBytes, chunkBytes, Function.update_idem, Function.update_self]

theorem gives_gapTrace :
    contentServer.Gives (chunkBytes []) gapTrace (chunkBytes [0, 0, 1, 2, 3]) := by
  refine ⟨_, rfl, chunkBytes [0, 0, 1, 2],
    ⟨2, by decide, chunkBytes_patch [] 2 [1, 2], fun _ heq ↦ ?_⟩, chunkBytes [0, 0, 1, 2, 3],
    ⟨1, by decide, chunkBytes_patch [0, 0, 1, 2] 4 [3], fun _ heq ↦ ?_⟩, rfl⟩
  · cases heq
    rfl
  · cases heq
    rfl

theorem gives_behindTrace : contentServer.Gives (chunkBytes [0, 0, 1, 2, 3]) behindTrace
    (chunkBytes [0, 0, 1, 2, 3, 9]) := by
  refine ⟨_, rfl, chunkBytes [0, 0, 1, 2, 3, 9],
    ⟨1, by decide, chunkBytes_patch [0, 0, 1, 2, 3] 5 [9], fun _ heq ↦ ?_⟩, rfl⟩
  cases heq
  rfl

theorem gives_lastBytesTrace :
    contentServer.Gives (chunkBytes [0, 0, 1, 2, 3, 9]) lastBytesTrace
      (chunkBytes [0, 0, 1, 2, 3, 9]) := by
  have hreply : ReadReply (chunkBytes [0, 0, 1, 2, 3, 9] [7]) 3 2 ⟨2, false, [2, 3]⟩ := by
    rw [chunkBytes, Function.update_self]
    exact ⟨by decide, by decide, rfl, by decide⟩
  exact ⟨_, rfl, _, ⟨rfl, hreply⟩, rfl⟩

theorem exists_three_requests : ∃ written extended fetched : Daemon,
    ServedStep linuxHost contentServer (smallChunks, chunkBytes [])
      ⟨smallChunks, .write 2 [1, 2, 3] 2 false, gapTrace⟩ (written, chunkBytes [0, 0, 1, 2, 3]) ∧
    ServedStep linuxHost contentServer (written, chunkBytes [0, 0, 1, 2, 3])
      ⟨written, .write 2 [9] 5 false, behindTrace⟩ (extended, chunkBytes [0, 0, 1, 2, 3, 9]) ∧
    ServedStep linuxHost contentServer (extended, chunkBytes [0, 0, 1, 2, 3, 9])
      ⟨extended, .read 2 2 3, lastBytesTrace⟩ (fetched, chunkBytes [0, 0, 1, 2, 3, 9]) ∧
    written.replies = smallChunks.replies ++ [.write 3] ∧
    fetched.replies = extended.replies ++ [.buf [some 2, some 3]] := by
  have hwrite : ∃ written, ((handle linuxHost 4 (.write 2 [1, 2, 3] 2 false)).run smallChunks).Path
      gapTrace (.done () written) ∧ written = smallChunks.setReplies [.write 3] :=
    ⟨_, ⟨_, _, rfl, _, _, rfl, _, _, rfl, rfl, rfl⟩, rfl⟩
  obtain ⟨_, hwrite, rfl⟩ := hwrite
  have hextend : ∃ extended, ((handle linuxHost 4 (.write 2 [9] 5 false)).run
      (smallChunks.setReplies [.write 3])).Path behindTrace (.done () extended) ∧
      extended = smallChunks.setReplies [.write 3, .write 1] :=
    ⟨_, ⟨_, _, rfl, _, _, rfl, rfl, rfl⟩, rfl⟩
  obtain ⟨_, hextend, rfl⟩ := hextend
  have hfetch : ∃ fetched, ((handle linuxHost 4 (.read 2 2 3)).run
      (smallChunks.setReplies [.write 3, .write 1])).Path lastBytesTrace (.done () fetched) ∧
      fetched = smallChunks.setReplies [.write 3, .write 1, .buf [some 2, some 3]] :=
    ⟨_, ⟨_, _, rfl, _, _, rfl, rfl, rfl⟩, rfl⟩
  obtain ⟨_, hfetch, rfl⟩ := hfetch
  exact ⟨_, _, _, .mk hwrite gives_gapTrace, .mk hextend gives_behindTrace,
    .mk hfetch gives_lastBytesTrace, rfl, rfl⟩

/-- The three requests are a run of the view. -/
theorem requests_refine_files_three : ∃ (moments : List ServedMoment)
    (last : Daemon × (List UInt8 → List UInt8)),
    Run (ServedStep linuxHost contentServer) (smallChunks, chunkBytes []) moments last ∧
    moments.map ServedMoment.request =
      [.write 2 [1, 2, 3] 2 false, .write 2 [9] 5 false, .read 2 2 3] ∧
    Run FileView.Step (fileView (smallChunks, chunkBytes [])) (moments.map ServedMoment.request)
      (fileView last) := by
  obtain ⟨_, _, _, hwrite, hextend, hfetch, -, -⟩ := exists_three_requests
  have hrun := ((Run.nil.snoc hwrite).snoc hextend).snoc hfetch
  refine ⟨_, _, hrun, rfl, requests_refine_files coherent_smallChunks ?_ hrun⟩
  simp only [List.nil_append, List.forall_mem_append, List.forall_mem_singleton, Request.InRange]
  decide

/-- The last two bytes of the first write are read back after the second. -/
theorem written_bytes_read_back_three : ∃ (written extended fetched : Daemon)
    (bytes : List (Option UInt8)),
    ServedStep linuxHost contentServer (smallChunks, chunkBytes [])
      ⟨smallChunks, .write 2 [1, 2, 3] 2 false, gapTrace⟩ (written, chunkBytes [0, 0, 1, 2, 3]) ∧
    ServedStep linuxHost contentServer (written, chunkBytes [0, 0, 1, 2, 3])
      ⟨written, .write 2 [9] 5 false, behindTrace⟩ (extended, chunkBytes [0, 0, 1, 2, 3, 9]) ∧
    ServedStep linuxHost contentServer (extended, chunkBytes [0, 0, 1, 2, 3, 9])
      ⟨extended, .read 2 2 3, lastBytesTrace⟩ (fetched, chunkBytes [0, 0, 1, 2, 3, 9]) ∧
    fetched.replies = extended.replies ++ [.buf bytes] ∧ bytes = [some 2, some 3] := by
  obtain ⟨_, _, _, hwrite, hextend, hfetch, hacknowledged, hreply⟩ := exists_three_requests
  have hrange : (5 : UInt64).toNat + [(9 : UInt8)].length < 2 ^ 63 := by decide
  have hspares (object : UInt64 → Option (List UInt8)) :
      Request.Spares object [7] 2 3 (.write 2 [9] 5 false) := fun _ ↦ .inl (by decide)
  exact ⟨_, _, _, _, hwrite, hextend, hfetch, hreply,
    written_bytes_read_back coherent_smallChunks rfl hwrite hacknowledged
      (Run.nil.snoc hextend) hfetch hreply (by decide)
      (List.forall_mem_singleton.mpr hrange) (List.forall_mem_singleton.mpr (hspares _))
      (by decide) (by decide)⟩

end NfsFuse
