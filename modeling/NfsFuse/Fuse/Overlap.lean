import NfsFuse.Lib.Interleaving
import NfsFuse.Nfs3.Stamps
import NfsFuse.Fuse.LookupCounts

/-!
# Overlapping requests on one inode

Several requests for one cached object are in flight.  The server executes their calls in some
order, each reply carries the attributes right after the execution, and the replies arrive in any
order.  `nfs_refresh_inode` has no check for overlapping calls in the code that is compiled, so a
reply is applied whenever it arrives and the cached attributes are those of the reply that arrived
last.
-/

namespace NfsFuse

open Lib

-- `hsi_nfs_fhget` is only used through the list of its runs
attribute [local irreducible] hsiNfsFhget

/-- A cached object of the server: the inode, its number, and what the server knows it by. -/
structure CachedObject where
  index : ℕ
  ino : UInt64
  fileid : UInt64
  handle : NfsFh3
  type : UInt32

namespace CachedObject

variable (object : CachedObject)

/-- The attributes are those of the object at some time. -/
def Reports (attr : Fattr3) : Prop :=
  attr.fileid = object.fileid ∧ attr.type = object.type

/-- A call is answered with the attributes of the object right after its execution.  An object that
is found by name has a link. -/
def Answers (attr : Fattr3) : Event EnvAns → Prop
  | ⟨.call (.getattr fh), outcome⟩ => fh = object.handle.data → outcome = .done (.ok attr)
  | ⟨.call (.setattr fh _), outcome⟩ => fh = object.handle.data → outcome = .done (.ok (some attr))
  | ⟨.call (.link fh _), outcome⟩ => fh = object.handle.data → outcome = .done (.ok (some attr))
  | ⟨.call (.lookup _), outcome⟩ =>
      outcome = .done (.ok ⟨object.handle, some attr⟩) ∧ attr.nlink ≠ 0
  | _ => True

/-- The server of the object, whose state is its attributes.  They may change with every step, by
the call or by what others do. -/
def server : Server EnvAns Fattr3 := fun _ event attr ↦
  object.Reports attr ∧ object.Answers attr event

/-- The object is cached. -/
structure Held (daemon : Daemon) : Prop where
  coherent : Coherent daemon
  lt_length : object.index < daemon.heap.length
  ino_eq : (daemon.inode object.index).ino = object.ino
  fileid_eq : (daemon.inode object.index).fileid = object.fileid
  fh_eq : (daemon.inode object.index).fh = nfsCopyFh3 object.handle
  format_eq : (daemon.inode object.index).iattr.mode &&& sIfmt = formatOf object.type

/-- The attributes that are cached for the object. -/
def cached (daemon : Daemon) : CachedAttrs := (daemon.inode object.index).attrs

end CachedObject

/-- The attributes that a reply carries for the object of its call. -/
def reported : Event EnvAns → Option Fattr3
  | ⟨.call (.getattr _), .done (.ok attr)⟩ => some attr
  | ⟨.call (.setattr _ _), .done (.ok attributes)⟩ => attributes
  | ⟨.call (.link _ _), .done (.ok attributes)⟩ => attributes
  | ⟨.call (.lookup _), .done (.ok res)⟩ => res.objAttributes
  | _ => none

/-- The requests that concern an inode: any but a lookup name its number, and which object a lookup
finds is up to the server. -/
def Request.concerns (ino : UInt64) : Request → Prop
  | .getattr number => number = ino
  | .setattr number _ _ => number = ino
  | .link number _ _ => number = ino
  | .lookup _ _ => True
  | _ => False

/-- The requests at the daemon, and the server of the object. -/
def overlapping (plat : Platform) (fuel : ℕ) (object : CachedObject) :
    System Request EnvOp EnvAns Fault Daemon Unit FuseReply Fattr3 where
  code := handle plat fuel
  server := object.server
  log := Daemon.replies

/-- What a segment does to the cached attributes: it applies the attributes of the reply that it
consumes, if there are any. -/
def overlapDiscipline (object : CachedObject) : Discipline EnvOp EnvAns Daemon Unit where
  inv := object.Held
  allowed event := ∃ attr, object.Reports attr ∧ object.Answers attr event
  segment _ event before _ after :=
    object.cached after = ((reported event).map converted).getD (object.cached before)

namespace CachedObject.Held

variable {object : CachedObject} {daemon : Daemon}

theorem findIno_eq (h : object.Held daemon) : daemon.findIno object.ino = some object.index :=
  (h.coherent.findIno_eq_some_iff _ _).mpr ⟨h.lt_length, h.ino_eq⟩

theorem getfh3_eq (h : object.Held daemon) :
    hsiNfs3Getfh3 (daemon.inode object.index) = object.handle.data :=
  hsiNfs3Getfh3_copied h.fh_eq

theorem setReplies (h : object.Held daemon) (replies : List FuseReply) :
    object.Held (daemon.setReplies replies) :=
  ⟨h.coherent.setReplies replies, h.lt_length, h.ino_eq, h.fileid_eq, h.fh_eq, h.format_eq⟩

/-- A change that leaves alone what the objects are known by, and their format. -/
theorem setInode (h : object.Held daemon) {index : ℕ} (hlt : index < daemon.heap.length)
    {inode : NfsInode} (hino : inode.ino = (daemon.inode index).ino)
    (hfileid : inode.fileid = (daemon.inode index).fileid)
    (hfh : inode.fh = (daemon.inode index).fh)
    (hformat : inode.iattr.mode &&& sIfmt = (daemon.inode index).iattr.mode &&& sIfmt)
    (hok : InodeOk inode) : object.Held (daemon.setInode index inode) where
  coherent := h.coherent.setInode hlt hino hfileid hfh hok
  lt_length := (Daemon.setInode_length _ _ _).symm ▸ h.lt_length
  ino_eq := (Daemon.inode_setInode_proj NfsInode.ino hino _).trans h.ino_eq
  fileid_eq := (Daemon.inode_setInode_proj NfsInode.fileid hfileid _).trans h.fileid_eq
  fh_eq := (Daemon.inode_setInode_proj NfsInode.fh hfh _).trans h.fh_eq
  format_eq := (Daemon.inode_setInode_proj (fun inode ↦ inode.iattr.mode &&& sIfmt) hformat _).trans
    h.format_eq

/-- A change of a lookup count. -/
theorem setPriv (h : object.Held daemon) {index : ℕ} (hlt : index < daemon.heap.length)
    (val : UInt64) :
    object.Held (daemon.setInode index { daemon.inode index with priv := val }) :=
  h.setInode hlt rfl rfl rfl rfl ((h.coherent.inodeOk index hlt).setPriv val)

/-- The attributes of the object are accepted whenever they arrive. -/
theorem nfsRefresh_eq (h : object.Held daemon) {attr : Fattr3} (hattr : object.Reports attr) :
    nfsRefresh (postFattr (some attr)) (daemon.inode object.index) =
      (copyFattr (postFattr (some attr)) (daemon.inode object.index), 0) := by
  have hsame : ¬ (daemon.inode object.index).iattr.mode &&& sIfmt ≠
      (postFattr (some attr)).mode &&& sIfmt := by
    rw [postFattr_format, hattr.2, h.format_eq]
    exact not_not.mpr rfl
  have hfileid : ¬ (daemon.inode object.index).fileid ≠ (postFattr (some attr)).fileid :=
    not_not.mpr (h.fileid_eq.trans hattr.1.symm)
  rw [nfsRefresh, if_neg (postFattr_valid_some attr), nfsUpdateInode, if_neg hfileid, if_neg hsame]

theorem refreshed_eq (h : object.Held daemon) {attr : Fattr3} (hattr : object.Reports attr) :
    daemon.refreshed object.index (postFattr (some attr)) = daemon.setInode object.index
      (copyFattr (postFattr (some attr)) (daemon.inode object.index)) := by
  rw [Daemon.refreshed, h.nfsRefresh_eq hattr]

theorem refreshed (h : object.Held daemon) {attr : Fattr3} (hattr : object.Reports attr) :
    object.Held (daemon.refreshed object.index (postFattr (some attr))) := by
  have hformat : (postFattr (some attr)).mode &&& sIfmt =
      (daemon.inode object.index).iattr.mode &&& sIfmt := by
    rw [postFattr_format, hattr.2, h.format_eq]
  rw [h.refreshed_eq hattr]
  exact h.setInode h.lt_length rfl rfl rfl hformat
    ((h.coherent.inodeOk _ h.lt_length).copyFattr (postFattr (some attr)))

theorem cached_refreshed (h : object.Held daemon) {attr : Fattr3} (hattr : object.Reports attr) :
    object.cached (daemon.refreshed object.index (postFattr (some attr))) = converted attr := by
  rw [cached, h.refreshed_eq hattr, Daemon.inode_setInode_self h.lt_length]
  rfl

/-- `hsi_nfs_fhget` finds the object and refreshes it. -/
theorem fhget_run (plat : Platform) (h : object.Held daemon) {attr : Fattr3}
    (hattr : object.Reports attr) (hnlink : attr.nlink ≠ 0) :
    (hsiNfsFhget plat (nfsCopyFh3 object.handle) (postFattr (some attr))).run daemon =
      .ret (.obj object.index) (daemon.refreshed object.index (postFattr (some attr))) := by
  have hfind : daemon.findFile (nfsCopyFh3 object.handle) (postFattr (some attr)) =
      some object.index :=
    (h.coherent.findFile_eq_some_iff (nfsCopyFh3_wellFormed _) _ _).mpr
      ⟨h.lt_length, h.fileid_eq.trans hattr.1.symm, h.fh_eq⟩
  have hacquirable : (postFattr (some attr)).Acquirable :=
    (postFattr_acquirable_iff _).mpr ⟨attr, rfl, hnlink⟩
  rw [hsiNfsFhget_run_acquirable plat h.coherent.live hacquirable, hfind]
  dsimp only
  rw [(h.coherent.inodeOk _ h.lt_length).fhgetUpdate_eq]
  rfl

end CachedObject.Held

/-! ## The handlers obey the discipline -/

section Handlers

variable {object : CachedObject} {daemon : Daemon}

/-- Where a segment may stop that has to leave these attributes cached. -/
def Leaves (object : CachedObject) (attrs : CachedAttrs) : Stop EnvOp Daemon Unit :=
  fun _ after ↦ object.Held after ∧ object.cached after = attrs

theorem CachedObject.Held.leaves_refreshed (h : object.Held daemon) {attr : Fattr3}
    (hattr : object.Reports attr) : Leaves object (converted attr) none
      (daemon.refreshed object.index (postFattr (some attr))) :=
  ⟨h.refreshed hattr, h.cached_refreshed hattr⟩

variable {attrs : CachedAttrs}

/-- Replying leaves the cache alone. -/
theorem Leaves.reply (h : Leaves object attrs none daemon) (message : FuseReply) :
    Leaves object attrs none (daemon.setReplies (daemon.replies ++ [message])) :=
  ⟨h.1.setReplies _, h.2⟩

section Procedures

variable {α : Type} {stop : Stop EnvOp Daemon Unit} (h : object.Held daemon)

include h

/-- What follows a reply that has been applied. -/
def AfterRefresh (object : CachedObject) (post : α → Daemon → Stop EnvOp Daemon Unit → Prop)
    (value : α) : Prop :=
  ∀ attr daemon, object.Held daemon → object.Reports attr →
    post value (daemon.refreshed object.index (postFattr (some attr)))
      (Leaves object (converted attr))

theorem wp_hsiNfs3Getattr {st : Stat} {post : ℤ × Stat → Daemon → Stop EnvOp Daemon Unit → Prop}
    (hstop : ∀ op, stop (some ((), op)) daemon) (hpost : ∀ value, AfterRefresh object post value) :
    ((hsiNfs3Getattr object.index st).run daemon).Wp (overlapDiscipline object) stop post := by
  refine ⟨(), hstop _, ?_⟩
  rintro outcome current ⟨attr, hattr, hanswer⟩ hcurrent
  cases hanswer h.getfh3_eq
  exact hpost _ attr current hcurrent hattr

theorem wp_hsiNfsSetattr {attr : HsfsIattr} {post : ℤ → Daemon → Stop EnvOp Daemon Unit → Prop}
    (hstop : ∀ op, stop (some ((), op)) daemon) (hshort : post 0 daemon stop)
    (hpost : ∀ value, AfterRefresh object post value) :
    ((hsiNfsSetattr object.index attr).run daemon).Wp (overlapDiscipline object) stop post := by
  unfold hsiNfsSetattr
  rw [Prog.getInode_bind]
  by_cases hvalid : setattrValid (daemon.inode object.index) attr = 0
  · simp only [hvalid, if_true]
    exact hshort
  · simp only [hvalid, if_false]
    refine ⟨(), hstop _, ?_⟩
    rintro outcome current ⟨attr, hattr, hanswer⟩ hcurrent
    cases hanswer h.getfh3_eq
    exact hpost _ attr current hcurrent hattr

omit h in
/-- The copy of a name: whatever has happened when the memory arrives, it changes nothing. -/
theorem wp_copyName_bind {site : MallocSite} {name : CString} {next : Bool → Prog α}
    {post : α → Daemon → Stop EnvOp Daemon Unit → Prop}
    (hstop : stop (some ((), .malloc site)) daemon)
    (hnext : ∀ copied current, object.Held current → ((next copied).run current).Wp
      (overlapDiscipline object) (Leaves object (object.cached current)) post) :
    ((copyName site name >>= next).run daemon).Wp (overlapDiscipline object) stop post := by
  rw [copyName_bind_run]
  refine ⟨(), hstop, fun granted current _ hcurrent ↦ ?_⟩
  dsimp only
  split_ifs
  · exact ⟨hcurrent, rfl⟩
  · exact hnext granted current hcurrent

omit h in
theorem wp_hsiNfs3Link {newparent : ℕ} {name : CString}
    {post : ℤ → Daemon → Stop EnvOp Daemon Unit → Prop} (hstop : ∀ next, stop next daemon)
    (hlong : post enametoolong daemon stop)
    (hmemory : ∀ daemon, object.Held daemon →
      post enomem daemon (Leaves object (object.cached daemon)))
    (hpost : ∀ value, AfterRefresh object post value) :
    ((hsiNfs3Link object.index newparent name).run daemon).Wp
      (overlapDiscipline object) stop post := by
  unfold hsiNfs3Link
  split_ifs
  · exact hlong
  refine wp_copyName_bind (hstop _) fun copied current hcurrent ↦ ?_
  cases copied with
  | false => exact hmemory current hcurrent
  | true =>
    refine ⟨(), ⟨hcurrent, rfl⟩, ?_⟩
    rintro outcome later ⟨attr, hattr, hanswer⟩ hlater
    cases hanswer hcurrent.getfh3_eq
    change Resumption.Wp _ ((if (postFattr (some attr)).valid &&& nfsAttrFattr = 0 then _
      else nfsRefreshInode object.index (postFattr (some attr)) : Prog ℤ).run later) _ _
    rw [if_neg (postFattr_valid_some attr)]
    exact hpost _ attr later hlater hattr

omit h in
theorem wp_hsiNfs3Lookup {plat : Platform} {parent : ℕ} {name : CString}
    {post : ℤ × InodePtr → Daemon → Stop EnvOp Daemon Unit → Prop}
    (hstop : ∀ op, stop (some ((), op)) daemon)
    (hpost : AfterRefresh object post (0, .obj object.index)) :
    ((hsiNfs3Lookup plat parent name).run daemon).Wp (overlapDiscipline object) stop post := by
  refine ⟨(), hstop _, ?_⟩
  rintro outcome current ⟨attr, hattr, rfl, hnlink⟩ hcurrent
  change Resumption.Wp _ (((hsiNfsFhget plat (nfsCopyFh3 object.handle) (postFattr (some attr)) >>=
    fun new ↦ pure (0, new)).run current)) _ _
  rw [Program.bind_run_of_ret (CachedObject.Held.fhget_run plat hcurrent hattr hnlink)]
  exact hpost attr current hcurrent hattr

end Procedures

theorem obeys_hsxFuseGetattr (h : object.Held daemon) :
    ((hsxFuseGetattr object.ino).run daemon).Obeys (overlapDiscipline object)
      (Leaves object (object.cached daemon)) := by
  unfold hsxFuseGetattr
  rw [Resumption.Obeys, h.coherent.ilookup_bind, h.findIno_eq]
  refine (Program.wp_bind _ _ _ _).mpr (wp_hsiNfs3Getattr h (fun _ ↦ ⟨h, rfl⟩) ?_)
  rintro ⟨err, st⟩ attr current hcurrent hattr
  have hleaves := hcurrent.leaves_refreshed hattr
  dsimp only
  split_ifs
  · exact hleaves.reply _
  · exact hleaves.reply _

theorem obeys_hsxFuseSetattr (h : object.Held daemon) (attr : Stat) (toSet : UInt32) :
    ((hsxFuseSetattr object.ino attr toSet).run daemon).Obeys (overlapDiscipline object)
      (Leaves object (object.cached daemon)) := by
  unfold hsxFuseSetattr
  rw [Resumption.Obeys, h.coherent.ilookup_bind, h.findIno_eq]
  refine (Program.wp_bind _ _ _ _).mpr (wp_hsiNfsSetattr h (fun _ ↦ ⟨h, rfl⟩) ?_ ?_)
  · exact Leaves.reply ⟨h, rfl⟩ _
  · intro err attr current hcurrent hattr
    have hleaves := hcurrent.leaves_refreshed hattr
    split_ifs
    · exact hleaves.reply _
    · exact hleaves.reply _

theorem obeys_hsxFuseLink (h : object.Held daemon) (newparent : UInt64) (newname : CString) :
    ((hsxFuseLink object.ino newparent newname).run daemon).Obeys (overlapDiscipline object)
      (Leaves object (object.cached daemon)) := by
  unfold hsxFuseLink
  rw [Resumption.Obeys, h.coherent.ilookup_bind]
  cases daemon.findIno newparent with
  | none => exact ⟨h, rfl⟩
  | some parent =>
    change Resumption.Wp _ ((hsfsIlookup object.ino >>= _).run daemon) _ _
    rw [h.coherent.ilookup_bind, h.findIno_eq]
    refine (Program.wp_bind _ _ _ _).mpr (wp_hsiNfs3Link (fun _ ↦ ⟨h, rfl⟩) ?_ ?_ ?_)
    · exact Leaves.reply ⟨h, rfl⟩ _
    · exact fun current hcurrent ↦ Leaves.reply ⟨hcurrent, rfl⟩ _
    · intro err attr current hcurrent hattr
      have hleaves := hcurrent.leaves_refreshed hattr
      split_ifs
      · refine ⟨(), hleaves, fun granted later _ hlater ↦ ?_⟩
        cases granted with
        | false => exact Leaves.reply ⟨hlater, rfl⟩ _
        | true =>
          change Resumption.Wp _ ((hsxFuseFillReply (.obj object.index) >>= _).run later) _ _
          rw [Program.bind_run_of_ret (hsxFuseFillReply_obj_run hlater.coherent _)]
          exact Leaves.reply ⟨hlater, rfl⟩ _
      · exact hleaves.reply _

theorem obeys_hsxFuseLookup (h : object.Held daemon) (plat : Platform) (parent : UInt64)
    (name : CString) :
    ((hsxFuseLookup plat parent name).run daemon).Obeys (overlapDiscipline object)
      (Leaves object (object.cached daemon)) := by
  unfold hsxFuseLookup
  rw [Resumption.Obeys, h.coherent.ilookup_bind]
  cases daemon.findIno parent with
  | none => exact Leaves.reply ⟨h, rfl⟩ _
  | some index =>
    refine (Program.wp_bind _ _ _ _).mpr (wp_hsiNfs3Lookup (fun _ ↦ ⟨h, rfl⟩) ?_)
    intro attr current hcurrent hattr
    have hheld := hcurrent.refreshed hattr
    change Resumption.Wp _ ((hsxFuseRefInc (.obj object.index) 1 >>= _).run _) _ _
    rw [Program.bind_run_of_ret (hsxFuseRefInc_obj_run hheld.coherent _ _)]
    rw [Program.bind_run_of_ret
      (hsxFuseFillReply_obj_run (hheld.setPriv hheld.lt_length _).coherent _)]
    refine Leaves.reply ⟨hheld.setPriv hheld.lt_length _, ?_⟩ _
    rw [← hcurrent.cached_refreshed hattr, CachedObject.cached,
      Daemon.inode_setInode_self hheld.lt_length]
    rfl

/-- Every request that concerns the object obeys the discipline. -/
theorem obeys_request (h : object.Held daemon) (plat : Platform) (fuel : ℕ) {request : Request}
    (hrequest : request.concerns object.ino) :
    ((handle plat fuel request).run daemon).Obeys (overlapDiscipline object)
      (Leaves object (object.cached daemon)) := by
  cases request with
  | getattr ino =>
    cases hrequest
    exact obeys_hsxFuseGetattr h
  | setattr ino attr toSet =>
    cases hrequest
    exact obeys_hsxFuseSetattr h attr toSet
  | link ino newparent newname =>
    cases hrequest
    exact obeys_hsxFuseLink h newparent newname
  | lookup parent name => exact obeys_hsxFuseLookup h plat parent name
  | _ => exact hrequest.elim

end Handlers

/-! ## The order of the replies -/

/-- The steps of overlapping requests. -/
abbrev OverlapLabel := Label Unit Request EnvAns FuseReply

/-- The daemon, the server and the requests in flight. -/
abbrev OverlapNet := Net Unit EnvOp EnvAns Fault Daemon Unit Fattr3

/-- The attributes after each execution of a call, in the order of the server. -/
def executions (labels : List OverlapLabel) : List Fattr3 :=
  (labels.filterMap Label.executed).filterMap reported

/-- The attributes of the replies in the order in which they are applied. -/
def deliveries (labels : List OverlapLabel) : List Fattr3 :=
  (labels.filterMap Label.delivered).filterMap reported

theorem deliveries_append (labels : List OverlapLabel) (label : OverlapLabel) :
    deliveries (labels ++ [label]) =
      deliveries labels ++ (label.delivered.bind reported).toList := by
  rw [deliveries, List.filterMap_append, List.filterMap_append, deliveries]
  congr 1
  cases label with
  | deliver thread event next sent =>
    change [event].filterMap reported = (reported event).toList
    cases hreported : reported event <;> simp [hreported]
  | _ => rfl

/-- Up to its first question a request applies nothing. -/
def overlapBegins (object : CachedObject) : Unit → Request → Daemon → Stop EnvOp Daemon Unit :=
  fun _ _ before _ after ↦ object.cached after = object.cached before

/-- What is cached is what was applied last. -/
theorem cached_eq_deliveries {plat : Platform} {fuel : ℕ} {object : CachedObject}
    {initial sketch : Sketch Unit EnvOp EnvAns Daemon Unit Fattr3} {labels : List OverlapLabel}
    (hrun : Run (Sketch.Step (overlapping plat fuel object) (fun _ ↦ overlapDiscipline object)
      (overlapBegins object)) initial labels sketch) :
    object.cached (sketch.sites ()) =
      ((deliveries labels).getLast?.map converted).getD (object.cached (initial.sites ())) := by
  induction hrun with
  | nil => rfl
  | snoc _ hstep ih =>
    cases hstep with
    | start site request hinv hbegins =>
      simpa [deliveries_append, Label.delivered] using hbegins.trans ih
    | execute thread answer hphase hserver => simpa [deliveries_append, Label.delivered] using ih
    | @deliver site mark event next after thread hphase hinv hsegment =>
      change object.cached after = ((reported event).map converted).getD _ at hsegment
      change object.cached after = _
      rw [deliveries_append, hsegment]
      cases hreported : reported event with
      | none => simpa [Label.delivered, hreported] using ih
      | some attr => simp [Label.delivered, hreported]

/-- The reply that is applied last has the attributes after the last execution. -/
def LastReplyLatest (labels : List OverlapLabel) : Prop :=
  ∀ attr last, (executions labels).getLast? = some attr → (deliveries labels).getLast? = some last →
    converted last = converted attr

/-- Once all replies have been applied, the cached attributes are those after the last execution
exactly if the reply with these attributes was applied last. -/
theorem refresh_order_iff (plat : Platform) (fuel : ℕ) (object : CachedObject)
    (initial net : OverlapNet) (labels : List OverlapLabel) (hidle : initial.threads = [])
    (hheld : object.Held (initial.sites ()))
    (hrun : Run (Net.Step (overlapping plat fuel object)) initial labels net)
    (hrequests : ∀ request next sent, .start () request next sent ∈ labels →
      request.concerns object.ino)
    (hended : ∀ thread ∈ net.threads, thread = .ended ()) :
    (∀ attr, (executions labels).getLast? = some attr →
      object.cached (net.sites ()) = converted attr) ↔ LastReplyLatest labels := by
  have hcode (site : Unit) (request : Request) (daemon : Daemon)
      (hrequest : request.concerns object.ino) (h : object.Held daemon) :
      ((handle plat fuel request).run daemon).Obeys (overlapDiscipline object) fun next after ↦
        object.Held after ∧ overlapBegins object site request daemon next after :=
    obeys_request h plat fuel hrequest
  have hserver (_ : Unit) (before : Fattr3) (event : Event EnvAns) (after : Fattr3)
      (h : object.server before event after) : (overlapDiscipline object).allowed event :=
    ⟨after, h⟩
  obtain ⟨sketch, hsketch, hsketched⟩ := Net.run_sketch hcode hserver hrun hidle (fun _ ↦ hheld)
    fun _ request next sent ↦ hrequests request next sent
  have hcached := cached_eq_deliveries hsketch
  rw [hsketched.sites] at hcached
  have hpending : net.threads.filterMap Thread.pending = [] :=
    List.filterMap_eq_nil_iff.mpr fun thread hmem ↦ by rw [hended thread hmem]; rfl
  have hperm : (executions labels).Perm (deliveries labels) := by
    have hevents := Net.run_perm hrun hidle
    rw [hpending, List.append_nil] at hevents
    exact hevents.filterMap reported
  constructor
  · intro hlatest attr last hexecuted hdelivered
    rw [hdelivered] at hcached
    exact hcached.symm.trans (hlatest attr hexecuted)
  · intro hlast attr hexecuted
    have hne : deliveries labels ≠ [] := fun hnil ↦ by
      have hnone : executions labels = [] := List.perm_nil.mp (hnil ▸ hperm)
      rw [hnone] at hexecuted
      cases hexecuted
    rw [List.getLast?_eq_some_getLast hne] at hcached
    exact hcached.trans (hlast attr _ hexecuted (List.getLast?_eq_some_getLast hne))

/-- The root of the export, as a fresh mount caches it. -/
def rootObject : CachedObject := ⟨0, 1, 2, ⟨[0], by decide⟩, nf3dir⟩

theorem held_rootObject : rootObject.Held mountedCache :=
  ⟨mounted_mountedCache.coherent, by decide, rfl, rfl, rfl, rfl⟩

/-- Its attributes when it has some size. -/
def sizedRoot (size : UInt64) : Fattr3 := { plainAttr with type := nf3dir, fileid := 2, size }

theorem reports_sizedRoot (size : UInt64) : rootObject.Reports (sizedRoot size) :=
  ⟨rfl, rfl⟩

/-- The mount before the requests. -/
def idleMount : OverlapNet := ⟨fun _ ↦ mountedCache, sizedRoot 512, []⟩

/-- A `GETATTR` of the root. -/
def rootGetattr (size : UInt64) : Event EnvAns :=
  ⟨.call (.getattr [0]), RpcOutcome.done (.ok (sizedRoot size))⟩

theorem server_rootGetattr (before : Fattr3) (size : UInt64) :
    (overlapping linuxHost 0 rootObject).server before (rootGetattr size) (sizedRoot size) :=
  ⟨reports_sizedRoot size, fun _ ↦ rfl⟩

/-- Two requests overlap, and the replies arrive in the order of execution: the cache is up to
date. -/
theorem refresh_order_two : ∃ labels net,
    Run (Net.Step (overlapping linuxHost 0 rootObject)) idleMount labels net ∧
    executions labels = [sizedRoot 512, sizedRoot 1024] ∧
    rootObject.cached (net.sites ()) = converted (sizedRoot 1024) := by
  have hrun : Run (Net.Step (overlapping linuxHost 0 rootObject)) idleMount _ _ :=
    (((((Run.nil.snoc (.start () (.getattr 1) rfl)).snoc (.start () (.getattr 1) rfl)).snoc
      (.execute 0 (rootGetattr 512).answer rfl (server_rootGetattr _ 512))).snoc
      (.execute 1 (rootGetattr 1024).answer rfl (server_rootGetattr _ 1024))).snoc
      (.deliver 0 rfl rfl)).snoc (.deliver 1 rfl rfl)
  refine ⟨_, _, hrun, rfl, (refresh_order_iff linuxHost 0 rootObject idleMount _ _ rfl
    held_rootObject hrun ?_ ?_).mpr ?_ _ rfl⟩
  · intro request next sent hmem
    simp only [List.nil_append, List.cons_append, List.mem_cons, Label.start.injEq, reduceCtorEq,
      List.not_mem_nil, or_false, true_and] at hmem
    rcases hmem with ⟨rfl, -⟩ | ⟨rfl, -⟩ <;> rfl
  · intro thread hmem
    rcases List.mem_pair.mp hmem with rfl | rfl <;> rfl
  · rintro _ _ ⟨rfl⟩ ⟨rfl⟩
    rfl

/-- Two requests overlap.  The server executes the second call after the root has grown, and the
reply to the first arrives last: the cache goes back to the old size. -/
theorem late_reply_reverts : ∃ labels net,
    Run (Net.Step (overlapping linuxHost 0 rootObject)) idleMount labels net ∧
    (∀ request next sent, .start () request next sent ∈ labels → request.concerns rootObject.ino) ∧
    (∀ thread ∈ net.threads, thread = .ended ()) ∧
    (executions labels).getLast? = some (sizedRoot 1024) ∧
    rootObject.cached (net.sites ()) ≠ converted (sizedRoot 1024) := by
  refine ⟨_, _, (((((Run.nil.snoc (.start () (.getattr 1) rfl)).snoc
    (.start () (.getattr 1) rfl)).snoc
    (.execute 0 (rootGetattr 512).answer rfl (server_rootGetattr _ 512))).snoc
    (.execute 1 (rootGetattr 1024).answer rfl (server_rootGetattr _ 1024))).snoc
    (.deliver 1 rfl rfl)).snoc (.deliver 0 rfl rfl), ?_, ?_, rfl, ?_⟩
  · intro request next sent hmem
    simp only [List.nil_append, List.cons_append, List.mem_cons, Label.start.injEq, reduceCtorEq,
      List.not_mem_nil, or_false, true_and] at hmem
    rcases hmem with ⟨rfl, -⟩ | ⟨rfl, -⟩ <;> rfl
  · intro thread hmem
    rcases List.mem_pair.mp hmem with rfl | rfl <;> rfl
  · intro heq
    exact absurd (congrArg CachedAttrs.size heq) (by decide)

end NfsFuse
