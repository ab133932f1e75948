import NfsFuse.Lib.LastWriter
import NfsFuse.Nfs3.Acquisition
import NfsFuse.Nfs3.Footprints
import NfsFuse.Nfs3.Runs

/-!
# Where cached attributes come from

The cache as a table from server objects to attributes, and the replies that are written to it.  A
reply is applied by `nfs_refresh_inode` to the inode its procedure was called for, or by
`hsi_nfs_fhget` to the object it names; whether and to what can be read off the events of a run.
Nothing else below the handlers changes the table.
-/

namespace NfsFuse

open Lib

-- `hsi_nfs_fhget` is only used through the list of its runs
attribute [local irreducible] hsiNfsFhget

/-- What names an object of the server. -/
structure ServerObject where
  fileid : UInt64
  fh : NfsFh
  deriving DecidableEq

/-- The attributes that an inode caches. -/
structure CachedAttrs where
  mode : UInt32
  nlink : UInt32
  uid : UInt32
  gid : UInt32
  size : ℤ
  blocks : UInt64
  atime : Timespec
  mtime : Timespec
  ctime : Timespec
  deriving DecidableEq

def NfsInode.object (inode : NfsInode) : ServerObject := ⟨inode.fileid, inode.fh⟩

def NfsInode.attrs (inode : NfsInode) : CachedAttrs where
  mode := inode.iattr.mode
  nlink := inode.iNlink
  uid := inode.iattr.uid
  gid := inode.iattr.gid
  size := inode.iattr.size
  blocks := inode.iBlocks
  atime := inode.iattr.atime
  mtime := inode.iattr.mtime
  ctime := inode.iattr.ctime

/-- The attributes of a reply as they are cached. -/
def converted (attr : Fattr3) : CachedAttrs := (copyFattr (postFattr (some attr)) .cleared).attrs

/-- The inodes by object and attributes. -/
def Daemon.stamps (daemon : Daemon) : List (ServerObject × CachedAttrs) :=
  daemon.heap.map fun inode ↦ (inode.object, inode.attrs)

/-- The attributes that are cached for an object. -/
def Daemon.view (daemon : Daemon) (object : ServerObject) : Option CachedAttrs :=
  daemon.stamps.lookup object

theorem Daemon.view_congr {daemon daemon' : Daemon} (h : daemon'.stamps = daemon.stamps) :
    daemon'.view = daemon.view := by
  funext object
  rw [Daemon.view, h, Daemon.view]

variable {daemon : Daemon}

theorem Daemon.inode_eq_getElem {index : ℕ} (hlt : index < daemon.heap.length) :
    daemon.inode index = daemon.heap[index] := by
  simp [Daemon.inode, List.getD_eq_getElem?_getD, hlt]

theorem Daemon.mem_stamps_iff {object : ServerObject} {attrs : CachedAttrs} :
    (object, attrs) ∈ daemon.stamps ↔ ∃ index < daemon.heap.length,
      (daemon.inode index).object = object ∧ (daemon.inode index).attrs = attrs := by
  rw [Daemon.stamps, List.mem_map]
  constructor
  · rintro ⟨inode, hmem, heq⟩
    obtain ⟨index, hlt, rfl⟩ := List.mem_iff_getElem.mp hmem
    rw [← Daemon.inode_eq_getElem, Prod.mk.injEq] at heq
    exact ⟨index, hlt, heq⟩
  · rintro ⟨index, hlt, hobject, hattrs⟩
    have hmem : daemon.inode index ∈ daemon.heap := by
      rw [Daemon.inode_eq_getElem hlt]
      exact List.getElem_mem hlt
    exact ⟨_, hmem, by rw [hobject, hattrs]⟩

/-- No two inodes cache one object, so the table has what each of them holds. -/
theorem Coherent.view_eq_some_iff (h : Coherent daemon) {object : ServerObject}
    {attrs : CachedAttrs} : daemon.view object = some attrs ↔ ∃ index < daemon.heap.length,
      (daemon.inode index).object = object ∧ (daemon.inode index).attrs = attrs := by
  have hmem {attrs : CachedAttrs} (hview : daemon.view object = some attrs) :
      (object, attrs) ∈ daemon.stamps := by
    obtain ⟨front, back, heq, -⟩ := List.lookup_eq_some_iff.mp hview
    rw [heq]
    exact List.mem_append_right _ List.mem_cons_self
  constructor
  · exact fun hview ↦ Daemon.mem_stamps_iff.mp (hmem hview)
  · rintro ⟨index, hlt, hobject, rfl⟩
    cases hview : daemon.view object with
    | none =>
      have hnot := List.lookup_eq_none_iff.mp hview _
        (Daemon.mem_stamps_iff.mpr ⟨index, hlt, hobject, rfl⟩)
      simp at hnot
    | some attrs =>
      obtain ⟨other, hother, hobject', rfl⟩ := Daemon.mem_stamps_iff.mp (hmem hview)
      have heq := hobject.trans hobject'.symm
      rw [h.identity_inj index hlt other hother (congrArg ServerObject.fileid heq)
        (congrArg ServerObject.fh heq)]

theorem Coherent.view_object (h : Coherent daemon) {index : ℕ} (hlt : index < daemon.heap.length) :
    daemon.view (daemon.inode index).object = some (daemon.inode index).attrs :=
  h.view_eq_some_iff.mpr ⟨index, hlt, rfl, rfl⟩

/-- Overwriting an inode without touching its identity writes to the table. -/
theorem Coherent.view_setInode (h : Coherent daemon) {index : ℕ} (hlt : index < daemon.heap.length)
    {inode : NfsInode} (hobject : inode.object = (daemon.inode index).object)
    (h' : Coherent (daemon.setInode index inode)) :
    (daemon.setInode index inode).view =
      Function.update daemon.view inode.object (some inode.attrs) := by
  have hself := Daemon.inode_setInode_self hlt inode
  funext object
  rw [Function.update_apply]
  split_ifs with heq
  · exact h'.view_eq_some_iff.mpr
      ⟨index, by rwa [Daemon.setInode_length], by rw [hself, heq], by rw [hself]⟩
  · refine Option.ext fun attrs ↦ ?_
    rw [h'.view_eq_some_iff, h.view_eq_some_iff, Daemon.setInode_length]
    refine exists_congr fun other ↦ and_congr_right fun _ ↦ ?_
    rcases eq_or_ne other index with rfl | hne
    · rw [hself, ← hobject]
      exact iff_of_false (fun hmatch ↦ heq hmatch.1.symm) fun hmatch ↦ heq hmatch.1.symm
    · rw [Daemon.inode_setInode_ne hne]

/-- So does entering one. -/
theorem Coherent.view_enter (h : Coherent daemon) {key id : UInt64} {inode : NfsInode}
    (h' : Coherent (daemon.enter key id inode)) :
    (daemon.enter key id inode).view =
      Function.update daemon.view inode.object (some inode.attrs) := by
  have hself := Daemon.enter_inode_self daemon key id inode
  have hlength := Daemon.enter_length daemon key id inode
  have hnew : (daemon.enter key id inode).view inode.object = some inode.attrs :=
    h'.view_eq_some_iff.mpr
      ⟨daemon.heap.length, hlength ▸ Nat.lt_succ_self _, by rw [hself], by rw [hself]⟩
  funext object
  rw [Function.update_apply]
  split_ifs with heq
  · rw [heq, hnew]
  · refine Option.ext fun attrs ↦ ?_
    rw [h'.view_eq_some_iff, h.view_eq_some_iff, hlength]
    constructor
    · rintro ⟨index, hlt, hobject, hattrs⟩
      rcases Nat.lt_succ_iff_lt_or_eq.mp hlt with hold | rfl
      · rw [Daemon.enter_inode_lt hold] at hobject hattrs
        exact ⟨index, hold, hobject, hattrs⟩
      · rw [hself] at hobject
        exact absurd hobject.symm heq
    · rintro ⟨index, hlt, hobject, hattrs⟩
      rw [← Daemon.enter_inode_lt hlt key id inode] at hobject hattrs
      exact ⟨index, Nat.lt_succ_of_lt hlt, hobject, hattrs⟩

/-- The `S_IFMT` bits of an object of a type. -/
def formatOf (type : UInt32) : UInt32 := nfsType2fmt (if type > nf3fifo then 0 else type)

theorem nfsType2fmt_and_sIfmt (type : UInt32) : nfsType2fmt type &&& sIfmt = nfsType2fmt type := by
  unfold nfsType2fmt
  split_ifs <;> decide

theorem postFattr_format (attr : Fattr3) :
    (postFattr (some attr)).mode &&& sIfmt = formatOf attr.type := by
  change ((attr.mode &&& ~~~sIfmt) ||| formatOf attr.type) &&& sIfmt = formatOf attr.type
  have hclear : attr.mode &&& ~~~sIfmt &&& sIfmt = 0 := by
    rw [UInt32.and_assoc]
    simp
  rw [or_and_distrib, hclear, UInt32.zero_or]
  exact nfsType2fmt_and_sIfmt _

theorem converted_format (attr : Fattr3) : (converted attr).mode &&& sIfmt = formatOf attr.type :=
  postFattr_format attr

/-- Every cached object has the format of its type. -/
def Typed (types : ServerObject → UInt32) (table : ServerObject → Option CachedAttrs) : Prop :=
  ∀ object attrs, table object = some attrs → attrs.mode &&& sIfmt = formatOf (types object)

/-- A log of replies, each with the object it is about. -/
abbrev ReplyLog := List (ServerObject × Fattr3)

/-- The replies report the types of their objects. -/
def Honest (types : ServerObject → UInt32) (log : ReplyLog) : Prop :=
  ∀ entry ∈ log, entry.2.type = types entry.1

theorem honest_append {types : ServerObject → UInt32} {log log' : ReplyLog} :
    Honest types (log ++ log') ↔ Honest types log ∧ Honest types log' :=
  List.forall_mem_append

variable {types : ServerObject → UInt32}

theorem Typed.overlay {table : ServerObject → Option CachedAttrs} (h : Typed types table)
    {log : ReplyLog} (hlog : Honest types log) : Typed types (overlay converted log table) := by
  refine fun object attrs ↦ overlay_induction h fun entry hmem ↦ ?_
  rw [← hlog entry hmem]
  exact converted_format entry.2

/-! ## Replies that are applied -/

/-- The attributes are those of the object, if there are any. -/
def concerns (target : ServerObject) (attributes : Option Fattr3) : Bool :=
  attributes.all (·.fileid == target.fileid)

/-- What `nfs_refresh_inode` applies to the inode of an object. -/
def refreshes (target : ServerObject) (attributes : Option Fattr3) : ReplyLog :=
  if concerns target attributes then attributes.toList.map (target, ·) else []

/-- What `hsi_nfs_fhget` applies to the object with a handle, given whether there is memory for an
inode should it need one. -/
def acquires (handle : NfsFh3) (attributes : Option Fattr3) (granted : Bool) : ReplyLog :=
  if usableAttrs attributes && granted then
    attributes.toList.map fun attr ↦ (⟨attr.fileid, nfsCopyFh3 handle⟩, attr)
  else []

/-- What the loop of `hsi_nfs3_readdir_plus` applies. -/
def acquiresAll (entries : List Entryplus3) (granted : List Bool) : ReplyLog :=
  (entries.zip granted).flatMap fun pair ↦
    pair.1.nameHandle.elim [] fun handle ↦ acquires handle pair.1.nameAttributes pair.2

/-- What a reply with a created object is applied to. -/
def Diropres3ok.applied (res : Diropres3ok) (rest : Trace) : ReplyLog :=
  res.obj.elim [] fun handle ↦ acquires handle res.objAttributes (takeInode rest).1

/-- The reply is one with attributes that may be cached. -/
def EnvOp.reports : EnvOp → Bool
  | .call procedure => procedure.reports
  | _ => false

/-- What a reply is applied to in a procedure that was called for an object, given the events after
the reply. -/
def appliedBy (target : ServerObject) (rest : Trace) : Event EnvAns → ReplyLog
  | ⟨.call (.getattr _), .done (.ok attr)⟩ => refreshes target (some attr)
  | ⟨.call (.setattr _ _), .done (.ok attributes)⟩ => refreshes target attributes
  | ⟨.call (.link _ _), .done (.ok attributes)⟩ => refreshes target attributes
  | ⟨.call (.lookup _), .done (.ok res)⟩ => acquires res.object res.objAttributes (takeInode rest).1
  | ⟨.call (.create _ _), .done (.ok res)⟩ => res.applied rest
  | ⟨.call (.mkdir _ _), .done (.ok res)⟩ => res.applied rest
  | ⟨.call (.symlink _ _ _), .done (.ok res)⟩ => res.applied rest
  | ⟨.call (.mknod _ _), .done (.ok res)⟩ => res.applied rest
  | ⟨.call (.readdir _ _ _ _), .done (.ok res)⟩ => refreshes target res.dirAttributes
  | ⟨.call (.readdirplus _ _ _ _ _), .done (.ok res)⟩ =>
      if concerns target res.dirAttributes then
        refreshes target res.dirAttributes ++
          acquiresAll res.entries (acquiredEntries res.entries rest)
      else []
  | _ => []

/-- The object that the next call is about: after an exclusive create the new file. -/
def nextTarget (target : ServerObject) : Event EnvAns → ServerObject
  | ⟨.call (.create _ _), .done (.ok ⟨some handle, some attr⟩)⟩ => ⟨attr.fileid, nfsCopyFh3 handle⟩
  | _ => target

/-- The replies of a run that are applied, in order. -/
def applied : ServerObject → Trace → ReplyLog
  | _, [] => []
  | target, event :: rest => appliedBy target rest event ++ applied (nextTarget target event) rest

theorem appliedBy_of_not_reports (target : ServerObject) (rest : Trace) {event : Event EnvAns}
    (h : event.op.reports = false) : appliedBy target rest event = [] := by
  obtain ⟨op, answer⟩ := event
  cases op with
  | malloc site => rfl
  | host question => rfl
  | call procedure =>
    cases procedure with
    | getattr | setattr | lookup | create | mkdir | symlink | mknod => cases h
    | link | readdir | readdirplus | fsinfo => cases h
    | _ => rfl

theorem nextTarget_of_not_reports (target : ServerObject) {event : Event EnvAns}
    (h : event.op.reports = false) : nextTarget target event = target := by
  obtain ⟨op, answer⟩ := event
  cases op with
  | malloc site => rfl
  | host question => rfl
  | call procedure =>
    cases procedure with
    | create => cases h
    | _ => rfl

/-- Replies without attributes are applied to nothing. -/
theorem applied_append_of_not_reports (target : ServerObject) {trace : Trace}
    (h : ∀ event ∈ trace, event.op.reports = false) (rest : Trace) :
    applied target (trace ++ rest) = applied target rest := by
  induction trace with
  | nil => rfl
  | cons event trace ih =>
    rw [List.forall_mem_cons] at h
    rw [List.cons_append, applied, appliedBy_of_not_reports target _ h.1,
      nextTarget_of_not_reports target h.1, List.nil_append, ih h.2]

theorem applied_eq_nil (target : ServerObject) {trace : Trace}
    (h : ∀ event ∈ trace, event.op.reports = false) : applied target trace = [] := by
  have hnil := applied_append_of_not_reports target h []
  rwa [List.append_nil] at hnil

/-- A change that touches neither what names an object nor its attributes. -/
def Change.keepsStamps : Change → Bool
  | .free _ | .super _ | .reply _ => true
  | .inode _ .put | .inode _ (.verifier _) | .inode _ (.count _) => true
  | _ => false

/-- Everything but entering inodes, writing attributes and the calls that report them. -/
def stampParts : Footprint EnvOp Fault Change where
  faults _ := True
  ops op := op.reports = false ∧ op ≠ .malloc .nfsInode
  labels change := change.keepsStamps = true

theorem Daemon.stamps_setInode {index : ℕ} {inode : NfsInode}
    (hobject : inode.object = (daemon.inode index).object)
    (hattrs : inode.attrs = (daemon.inode index).attrs) :
    (daemon.setInode index inode).stamps = daemon.stamps := by
  by_cases hlt : index < daemon.heap.length
  · rw [Daemon.inode_eq_getElem hlt] at hobject hattrs
    rw [Daemon.stamps, Daemon.setInode, List.map_set, hobject, hattrs, Daemon.stamps]
    refine List.ext_getElem (List.length_set ..) fun other hother _ ↦ ?_
    rw [List.getElem_set]
    split_ifs with heq
    · subst heq
      rw [List.getElem_map]
    · rfl
  · rw [Daemon.setInode_of_le (not_lt.mp hlt)]

theorem fixes_stamps {α : Type} {program : Prog α} (h : program.Within Change.apply stampParts) :
    program.Fixes Daemon.stamps := by
  refine h.fixes fun change hchange daemon ↦ ?_
  match change, hchange with
  | .free _, _ => rfl
  | .super _, _ => rfl
  | .reply _, _ => rfl
  | .inode _ .put, _ => exact Daemon.stamps_setInode rfl rfl
  | .inode _ (.verifier _), _ => exact Daemon.stamps_setInode rfl rfl
  | .inode _ (.count _), _ => exact Daemon.stamps_setInode rfl rfl

theorem stampBase : BaseParts stampParts where
  undefined := trivial
  malloc site hsite := ⟨rfl, fun heq ↦ by cases heq; cases hsite⟩

theorem stampPut : PutParts stampParts where
  toBaseParts := stampBase
  put _ := rfl
  free _ := rfl

theorem stampRpc : RpcParts stampParts where
  toBaseParts := stampBase
  outOfFuel := trivial
  call _ hreports := ⟨hreports, nofun⟩
  super _ := rfl

/-- Attributes of the right type are refused only for their file id. -/
theorem nfsRefresh_concerns {inode : NfsInode} {attributes : Option Fattr3}
    (hformat : inode.iattr.mode &&& sIfmt = formatOf (types inode.object))
    (hhonest : Honest types (refreshes inode.object attributes)) :
    nfsRefresh (postFattr attributes) inode =
      if concerns inode.object attributes then
        (attributes.elim inode fun attr ↦ copyFattr (postFattr (some attr)) inode, 0)
      else (inode, -estale) := by
  cases attributes with
  | none => rfl
  | some attr =>
    rw [nfsRefresh, if_neg (postFattr_valid_some attr), nfsUpdateInode]
    by_cases hfileid : inode.fileid = (postFattr (some attr)).fileid
    · have hconcerns : concerns inode.object (some attr) = true := beq_iff_eq.mpr hfileid.symm
      rw [refreshes, if_pos hconcerns] at hhonest
      have htype : attr.type = types inode.object := hhonest _ (List.mem_singleton.mpr rfl)
      have hsame : ¬ inode.iattr.mode &&& sIfmt ≠ (postFattr (some attr)).mode &&& sIfmt := by
        rw [postFattr_format, htype, hformat]
        exact not_not.mpr rfl
      rw [if_pos hconcerns, if_neg hsame, if_neg (not_not.mpr hfileid)]
      rfl
    · have hconcerns : ¬ concerns inode.object (some attr) = true :=
        fun h ↦ hfileid (beq_iff_eq.mp h).symm
      rw [if_neg hconcerns, if_pos hfileid]

section Apply

variable (hcoherent : Coherent daemon) (htyped : Typed types daemon.view)

include hcoherent htyped

theorem Coherent.format_eq {index : ℕ} (hlt : index < daemon.heap.length) :
    (daemon.inode index).iattr.mode &&& sIfmt = formatOf (types (daemon.inode index).object) :=
  htyped _ _ (hcoherent.view_object hlt)

/-- `nfs_refresh_inode` writes the attributes that concern its inode. -/
theorem Coherent.view_refreshed {index : ℕ} (hlt : index < daemon.heap.length)
    {attributes : Option Fattr3}
    (hhonest : Honest types (refreshes (daemon.inode index).object attributes)) :
    (daemon.refreshed index (postFattr attributes)).view =
      overlay converted (refreshes (daemon.inode index).object attributes) daemon.view := by
  have hrefresh := nfsRefresh_concerns (hcoherent.format_eq htyped hlt) hhonest
  have hcoherent' := (keepsCoherent_refresh hlt (postFattr attributes) hcoherent).1
  have hsame : (daemon.setInode index (daemon.inode index)).view = daemon.view :=
    Daemon.view_congr (Daemon.stamps_setInode rfl rfl)
  unfold Daemon.refreshed
  rw [hrefresh] at hcoherent' ⊢
  rw [refreshes]
  split_ifs at hcoherent' ⊢ with hconcerns
  · cases attributes with
    | none => exact hsame
    | some attr =>
      have hobject : (copyFattr (postFattr (some attr)) (daemon.inode index)).object =
        (daemon.inode index).object := rfl
      exact (hcoherent.view_setInode hlt hobject hcoherent').trans
        (overlay_singleton converted _ _ _).symm
  · exact hsame

/-- `hsi_nfs_fhget` writes the attributes it accepts if it returns an inode. -/
theorem FhgetPath.view_eq {handle : NfsFh3} {attributes : Option Fattr3} {trace : Trace}
    {ptr : InodePtr} {daemon' : Daemon}
    (hpath : FhgetPath daemon (nfsCopyFh3 handle) (postFattr attributes) trace (.done ptr daemon'))
    (hhonest : Honest types (acquires handle attributes ptr.isObj)) :
    daemon'.view = overlay converted (acquires handle attributes ptr.isObj) daemon.view := by
  have hfh := nfsCopyFh3_wellFormed handle
  obtain ⟨⟨hcoherent', -⟩, -, -⟩ := hcoherent.fhget hfh hpath
  cases hpath with
  | rejected hattr =>
    rw [acquirable_iff_usableAttrs] at hattr
    rw [acquires, Bool.not_eq_true _ |>.mp hattr]
    rfl
  | noMemory hattr _ =>
    have hnone : acquires handle attributes false = [] := by
      rw [acquires, Bool.and_false]
      rfl
    change daemon.view = overlay converted (acquires handle attributes false) daemon.view
    rw [hnone, overlay_nil]
  | @hit index hattr hfind =>
    obtain ⟨attr, rfl, hnlink⟩ := (postFattr_acquirable_iff attributes).mp hattr
    have husable := (acquirable_iff_usableAttrs _).mp hattr
    obtain ⟨hlt, hfileid, hhandle⟩ := (hcoherent.findFile_eq_some_iff hfh _ index).mp hfind
    have hobject : (daemon.inode index).object = ⟨attr.fileid, nfsCopyFh3 handle⟩ := by
      rw [NfsInode.object, hfileid, hhandle]
      rfl
    have hlog : acquires handle (some attr) (InodePtr.obj index).isObj =
        refreshes (daemon.inode index).object (some attr) := by
      rw [acquires, husable, refreshes, hobject]
      simp [concerns, InodePtr.isObj]
    rw [hlog] at hhonest ⊢
    rw [(hcoherent.inodeOk index hlt).fhgetUpdate_eq]
    exact hcoherent.view_refreshed htyped hlt hhonest
  | @entered id hattr hfind hid =>
    obtain ⟨attr, rfl, hnlink⟩ := (postFattr_acquirable_iff attributes).mp hattr
    have husable := (acquirable_iff_usableAttrs _).mp hattr
    have hlog : acquires handle (some attr) (InodePtr.obj daemon.heap.length).isObj =
        [(⟨attr.fileid, nfsCopyFh3 handle⟩, attr)] := by
      rw [acquires, husable]
      rfl
    have hobject : (daemon.newFile id (nfsCopyFh3 handle) (postFattr (some attr))).object =
        ⟨attr.fileid, nfsCopyFh3 handle⟩ := by
      rw [NfsInode.object, Daemon.newFile_fh _ _ hfh, Daemon.newFile_eq]
      rfl
    have hattrs : (daemon.newFile id (nfsCopyFh3 handle) (postFattr (some attr))).attrs =
        converted attr := by
      rw [Daemon.newFile_eq]
      rfl
    rw [hcoherent.view_enter hcoherent', hobject, hattrs, hlog, overlay_singleton]

end Apply

/-- The loop of `hsi_nfs3_readdir_plus` writes what it acquires. -/
theorem Acquiring.view_eq {daemon daemon' : Daemon} {entries : List Entryplus3} {trace : Trace}
    {acquired : List ReaddirCtx} {stop : ListingStop}
    (h : Acquiring daemon entries trace acquired stop daemon') (hstop : stop ≠ .spin)
    (hcoherent : Coherent daemon) (htyped : Typed types daemon.view)
    (hhonest : Honest types (acquiresAll entries (acquired.map (·.inode.isObj)))) :
    daemon'.view =
      overlay converted (acquiresAll entries (acquired.map (·.inode.isObj))) daemon.view := by
  have hnil (entries : List Entryplus3) : acquiresAll entries [] = [] := by
    rw [acquiresAll, List.zip_nil_right]
    rfl
  induction h with
  | spin _ _ => exact absurd rfl hstop
  | @step _ _ _ entry rest handle _ _ ptr acquired _ hhandle hpath hrest ih =>
    have hlog : acquiresAll (entry :: rest) ((entryCtx entry ptr :: acquired).map (·.inode.isObj)) =
        acquires handle entry.nameAttributes ptr.isObj ++
          acquiresAll rest (acquired.map (·.inode.isObj)) := by
      rw [acquiresAll, List.map_cons, List.zip_cons_cons, List.flatMap_cons, hhandle]
      rfl
    rw [hlog, honest_append] at hhonest
    have hview := hpath.view_eq hcoherent htyped hhonest.1
    obtain ⟨⟨hcoherent₁, -⟩, -, -⟩ := hcoherent.fhget (nfsCopyFh3_wellFormed handle) hpath
    rw [hlog, overlay_append, ← hview]
    exact ih hstop hcoherent₁ (hview ▸ htyped.overlay hhonest.1) hhonest.2
  | _ => rw [List.map_nil, hnil, overlay_nil]

end NfsFuse
