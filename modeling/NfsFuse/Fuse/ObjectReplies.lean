import NfsFuse.Fuse.Replies
import NfsFuse.Nfs3.Runs

/-!
# Replies of the handlers that acquire objects

`hsx_fuse_lookup`, the creating handlers and `hsx_fuse_readdir_plus` go on with whatever pointer
`hsi_nfs_fhget` returns, so they reach their reply only when every object they touch can be
acquired.  The events of a run show whether that is so; with the other handlers this gives the exact
condition under which a request is answered once.
-/

namespace NfsFuse

open Lib

-- `hsi_nfs_fhget` is only used through the list of its runs
attribute [local irreducible] hsiNfsFhget

/-- There was memory for a new inode. -/
def isInodeGranted : Event EnvAns → Bool
  | ⟨.malloc .nfsInode, true⟩ => true
  | _ => false

/-- How many inodes were allocated. -/
def grantedCount (trace : Trace) : ℕ := trace.countP isInodeGranted

/-- The object with these attributes was acquired: they can be used, and for a new object there were
memory and a free number. -/
def ObjectAcquired (daemon : Daemon) (attributes : Option Fattr3) (trace : Trace) : Prop :=
  usableAttrs attributes = true ∧ inodeDenied ∉ trace ∧
    daemon.heap.length + grantedCount trace < 2 ^ 64

/-- The lookup count of the object of a reply; that of a new inode is 0. -/
def heldPriv (daemon : Daemon) (handle : NfsFh3) (attributes : Option Fattr3) : UInt64 :=
  match daemon.findFile (nfsCopyFh3 handle) (postFattr attributes) with
  | some index => (daemon.inode index).priv
  | none => 0

/-- A cached object, with the lookup count it had before. -/
structure AcquiredAs (daemon : Daemon) (handle : NfsFh3) (attributes : Option Fattr3) (index : ℕ)
    (daemon' : Daemon) : Prop where
  coherent : Coherent daemon'
  lt_length : index < daemon'.heap.length
  priv_eq : (daemon'.inode index).priv = heldPriv daemon handle attributes
  replies_eq : daemon'.replies = daemon.replies

/-- The runs of `hsi_nfs_fhget`: it returns the inode of an object that was acquired, and otherwise
an error pointer unless it searches for a number for ever. -/
theorem FhgetPath.verdict {daemon : Daemon} (hcoherent : Coherent daemon)
    (hpos : 0 < daemon.heap.length) {handle : NfsFh3} {attributes : Option Fattr3} {trace : Trace}
    {ending : Ending Fault Daemon InodePtr}
    (hpath : FhgetPath daemon (nfsCopyFh3 handle) (postFattr attributes) trace ending) :
    (ObjectAcquired daemon attributes trace ∧ ∃ index daemon', ending = .done (.obj index) daemon' ∧
      AcquiredAs daemon handle attributes index daemon') ∨
    (¬ ObjectAcquired daemon attributes trace ∧ ((∃ error, ending = .done (.err error) daemon) ∨
      ∃ reason daemon', ending = .crashed reason daemon')) := by
  have hfh := nfsCopyFh3_wellFormed handle
  cases hpath with
  | rejected hattr =>
    rw [acquirable_iff_usableAttrs] at hattr
    exact Or.inr ⟨fun h ↦ hattr h.1, Or.inl ⟨_, rfl⟩⟩
  | noMemory _ _ =>
    exact Or.inr ⟨fun h ↦ h.2.1 (List.mem_singleton.mpr rfl), Or.inl ⟨_, rfl⟩⟩
  | @hit index hattr hfind =>
    obtain ⟨⟨hcoherent', hgrows⟩, hptr, -⟩ := hcoherent.fhget hfh (.hit hattr hfind)
    obtain ⟨hlt, -, -⟩ := (hcoherent.findFile_eq_some_iff hfh _ index).mp hfind
    refine Or.inl ⟨⟨(acquirable_iff_usableAttrs _).mp hattr, List.not_mem_nil, hcoherent.length_lt⟩,
      index, _, rfl, hcoherent', (hptr index rfl).1, ?_, hgrows.replies_eq⟩
    rw [hgrows.priv_eq index hlt, heldPriv, hfind]
  | @entered id hattr hfind hid =>
    obtain ⟨⟨hcoherent', hgrows⟩, hptr, -⟩ := hcoherent.fhget hfh (.entered hattr hfind hid)
    have hroom := (hcoherent.freeId_isSome_iff hpos).mp (Option.isSome_iff_exists.mpr ⟨id, hid⟩)
    refine Or.inl ⟨⟨(acquirable_iff_usableAttrs _).mp hattr, ?_, hroom⟩,
      daemon.heap.length, _, rfl, hcoherent', (hptr _ rfl).1, ?_, hgrows.replies_eq⟩
    · exact fun hmem ↦ inodeGranted_ne_inodeDenied (List.mem_singleton.mp hmem).symm
    · rw [hgrows.priv_new _ (hptr _ rfl).1 le_rfl, heldPriv, hfind]
  | spin hattr hfind hid hstate =>
    refine Or.inr ⟨fun h ↦ ?_, Or.inr ⟨_, _, rfl⟩⟩
    have hsome := (hcoherent.freeId_isSome_iff hpos).mpr h.2.2
    rw [hid] at hsome
    exact Bool.false_ne_true hsome

/-- The handle and the attributes of the object that a reply names. -/
def namedObject : Event EnvAns → Option (Option NfsFh3 × Option Fattr3)
  | ⟨.call (.lookup _), .done (.ok res)⟩ => some (some res.object, res.objAttributes)
  | ⟨.call (.create _ _), .done (.ok res)⟩ => some (res.obj, res.objAttributes)
  | ⟨.call (.mkdir _ _), .done (.ok res)⟩ => some (res.obj, res.objAttributes)
  | ⟨.call (.symlink _ _ _), .done (.ok res)⟩ => some (res.obj, res.objAttributes)
  | ⟨.call (.mknod _ _), .done (.ok res)⟩ => some (res.obj, res.objAttributes)
  | _ => none

/-- The object named by the replies of a run, if there is one, comes with a handle and was
acquired. -/
def Acquired (daemon : Daemon) (trace : Trace) : Prop :=
  ∀ object attributes, trace.findSome? namedObject = some (object, attributes) →
    object.isSome = true ∧ ObjectAcquired daemon attributes trace

/-- The kernel holds no reference to the object named by the replies of a run. -/
def Unreferenced (daemon : Daemon) (trace : Trace) : Prop :=
  ∀ handle attributes, trace.findSome? namedObject = some (some handle, attributes) →
    heldPriv daemon handle attributes = 0

/-- The reply to a `SETATTR` carries the new attributes. -/
def setattrDone : Event EnvAns → Bool
  | ⟨.call (.setattr _ _), .done (.ok (some _))⟩ => true
  | _ => false

/-- The create mode of an exclusive create. -/
def isExclusive (mode : UInt32) : Prop := (mode &&& 0xf0000) >>> 16 = 2

/-- An exclusive create whose second step fails never gets to count its object. -/
def SetattrFailed (mode : UInt32) (trace : Trace) : Prop :=
  isExclusive mode ∧ ∀ event ∈ trace, setattrDone event = false

/-- How a procedure ends that returns an object.  It may be excused for what it has done with the
object by a later failure. -/
inductive ObjectRun (excused : Trace → Prop) (daemon : Daemon) :
    Trace → Ending Fault Daemon (ℤ × InodePtr) → Prop
  | refused {trace : Trace} {err : ℤ} {ptr : InodePtr} {daemon' : Daemon} (hne : err ≠ 0)
      (hacquired : Acquired daemon trace) (hsafe : excused trace ∨ Unreferenced daemon trace)
      (hreplies : daemon'.replies = daemon.replies) :
      ObjectRun excused daemon trace (.done (err, ptr) daemon')
  | acquired {trace : Trace} {index : ℕ} {daemon' : Daemon} (hacquired : Acquired daemon trace)
      (hnot : ¬ excused trace) (hcoherent : Coherent daemon') (hlt : index < daemon'.heap.length)
      (hpriv : (daemon'.inode index).priv = 0 ↔ Unreferenced daemon trace)
      (hreplies : daemon'.replies = daemon.replies) :
      ObjectRun excused daemon trace (.done (0, .obj index) daemon')
  | poisoned {trace : Trace} {error : ℤ} {daemon' : Daemon} (hnot : ¬ Acquired daemon trace) :
      ObjectRun excused daemon trace (.done (0, .err error) daemon')
  | stuck {trace : Trace} {reason : Fault} {daemon' : Daemon} (hnot : ¬ Acquired daemon trace) :
      ObjectRun excused daemon trace (.crashed reason daemon')

/-- An event that is not the allocation of an inode. -/
def OffCache (event : Event EnvAns) : Prop := event ≠ inodeDenied ∧ isInodeGranted event = false

theorem offCache_call (procedure : Call) (outcome : EnvAns (.call procedure)) :
    OffCache ⟨.call procedure, outcome⟩ := ⟨nofun, rfl⟩

/-- Other events do not change whether an object was acquired. -/
theorem objectAcquired_append_iff {daemon : Daemon} {attributes : Option Fattr3}
    {before trace back : Trace} (hbefore : ∀ event ∈ before, OffCache event)
    (hback : ∀ event ∈ back, OffCache event) :
    ObjectAcquired daemon attributes (before ++ trace ++ back) ↔
      ObjectAcquired daemon attributes trace := by
  have hcount {trace : Trace} (h : ∀ event ∈ trace, OffCache event) : grantedCount trace = 0 :=
    List.countP_eq_zero.mpr fun event hmem ↦ by rw [(h event hmem).2]; exact Bool.false_ne_true
  have hdenied {trace : Trace} (h : ∀ event ∈ trace, OffCache event) : inodeDenied ∉ trace :=
    fun hmem ↦ (h _ hmem).1 rfl
  have hgranted : grantedCount (before ++ trace ++ back) = grantedCount trace := by
    rw [grantedCount, List.countP_append, List.countP_append]
    change grantedCount before + grantedCount trace + grantedCount back = _
    rw [hcount hbefore, hcount hback, Nat.zero_add, Nat.add_zero]
  rw [ObjectAcquired, ObjectAcquired, hgranted, List.mem_append, List.mem_append]
  simp only [hdenied hbefore, hdenied hback, false_or, or_false]

/-- The reply to a creating call names an object exactly if the call succeeds. -/
def Names (event : Event EnvAns) (outcome : RpcOutcome Diropres3ok) : Prop :=
  OffCache event ∧ namedObject event =
    match outcome with
    | .done (.ok res) => some (res.obj, res.objAttributes)
    | _ => none

theorem Names.of (event : RpcOutcome Diropres3ok → Event EnvAns)
    (hoff : ∀ outcome, OffCache (event outcome))
    (hrpc : ∀ err hne, namedObject (event (.fail err hne)) = none)
    (hstatus : ∀ status hne, namedObject (event (.done (.fail status hne))) = none)
    (hok : ∀ res, namedObject (event (.done (.ok res))) = some (res.obj, res.objAttributes))
    (outcome : RpcOutcome Diropres3ok) : Names (event outcome) outcome := by
  refine ⟨hoff outcome, ?_⟩
  match outcome with
  | .fail err hne => exact hrpc err hne
  | .done (.fail status hne) => exact hstatus status hne
  | .done (.ok res) => exact hok res

/-- The object named by a run that makes one creating call. -/
theorem Names.findSome {event : Event EnvAns} {outcome : RpcOutcome Diropres3ok}
    (h : Names event outcome) {before : Trace}
    (hbefore : ∀ event ∈ before, namedObject event = none)
    (trace : Trace) : (before ++ event :: trace).findSome? namedObject =
      match outcome with
      | .done (.ok res) => some (res.obj, res.objAttributes)
      | _ => trace.findSome? namedObject := by
  rw [List.findSome?_append, List.findSome?_eq_none_iff.mpr hbefore, Option.none_or,
    List.findSome?_cons, h.2]
  match outcome with
  | .fail err hne => rfl
  | .done (.fail status hne) => rfl
  | .done (.ok res) => rfl

/-- Whether the object of a creating call was acquired. -/
theorem Names.acquired_iff {event : Event EnvAns} {res : Diropres3ok}
    (h : Names event (.done (.ok res))) {before : Trace}
    (hbefore : ∀ event ∈ before, OffCache event ∧ namedObject event = none) (front : Trace)
    {back : Trace} (hback : ∀ event ∈ back, OffCache event) (daemon : Daemon) :
    Acquired daemon (before ++ event :: (front ++ back)) ↔
      res.obj.isSome = true ∧ ObjectAcquired daemon res.objAttributes front := by
  have hframe : ObjectAcquired daemon res.objAttributes (before ++ event :: (front ++ back)) ↔
      ObjectAcquired daemon res.objAttributes front := by
    have hshape : before ++ event :: (front ++ back) = before ++ [event] ++ front ++ back := by simp
    rw [hshape]
    refine objectAcquired_append_iff ?_ hback
    rw [List.forall_mem_append, List.forall_mem_singleton]
    exact ⟨fun event hmem ↦ (hbefore event hmem).1, h.1⟩
  rw [Acquired, h.findSome fun event hmem ↦ (hbefore event hmem).2]
  simp only [Option.some.injEq, Prod.mk.injEq]
  rw [← hframe]
  constructor
  · exact fun hall ↦ hall res.obj res.objAttributes ⟨rfl, rfl⟩
  · rintro hboth object attributes ⟨rfl, rfl⟩
    exact hboth

/-- Whether the kernel holds references to the object of a creating call. -/
theorem Names.unreferenced_iff {event : Event EnvAns} {res : Diropres3ok}
    (h : Names event (.done (.ok res))) {before : Trace}
    (hbefore : ∀ event ∈ before, OffCache event ∧ namedObject event = none) (trace : Trace)
    (daemon : Daemon) {handle : NfsFh3} (hobj : res.obj = some handle) :
    Unreferenced daemon (before ++ event :: trace) ↔
      heldPriv daemon handle res.objAttributes = 0 := by
  rw [Unreferenced, h.findSome fun event hmem ↦ (hbefore event hmem).2]
  simp only [Option.some.injEq, Prod.mk.injEq, hobj]
  constructor
  · exact fun hall ↦ hall handle _ ⟨rfl, rfl⟩
  · rintro hzero handle' attributes ⟨rfl, rfl⟩
    exact hzero

section Congr

variable {daemon daemon' : Daemon}

/-- The same objects are found in a cache that has not grown. -/
theorem Coherent.findFile_congr (h : Coherent daemon) (h' : Coherent daemon')
    (hgrows : Grows daemon daemon') (hlength : daemon'.heap.length = daemon.heap.length)
    {fh : NfsFh}
    (hfh : fh.WellFormed) (fattr : NfsFattr) :
    daemon'.findFile fh fattr = daemon.findFile fh fattr := by
  refine Option.ext fun index ↦ ?_
  rw [h.findFile_eq_some_iff hfh, h'.findFile_eq_some_iff hfh, hlength]
  refine and_congr_right fun hlt ↦ ?_
  rw [hgrows.fileid_eq index hlt, hgrows.fh_eq index hlt]

theorem Coherent.heldPriv_congr (h : Coherent daemon) (h' : Coherent daemon')
    (hgrows : Grows daemon daemon') (hlength : daemon'.heap.length = daemon.heap.length)
    (handle : NfsFh3) (attributes : Option Fattr3) :
    heldPriv daemon' handle attributes = heldPriv daemon handle attributes := by
  have hfh := nfsCopyFh3_wellFormed handle
  rw [heldPriv, heldPriv, h.findFile_congr h' hgrows hlength hfh]
  cases hfind : daemon.findFile (nfsCopyFh3 handle) (postFattr attributes) with
  | none => rfl
  | some index =>
    exact hgrows.priv_eq index ((h.findFile_eq_some_iff hfh _ index).mp hfind).1

theorem acquired_congr (hlength : daemon'.heap.length = daemon.heap.length) {trace : Trace} :
    Acquired daemon' trace ↔ Acquired daemon trace := by
  simp only [Acquired, ObjectAcquired, hlength]

theorem Coherent.unreferenced_congr (h : Coherent daemon) (h' : Coherent daemon')
    (hgrows : Grows daemon daemon') (hlength : daemon'.heap.length = daemon.heap.length)
    {trace : Trace} : Unreferenced daemon' trace ↔ Unreferenced daemon trace := by
  simp only [Unreferenced, h.heldPriv_congr h' hgrows hlength]

/-- `hsx_fuse_create` overwrites the owner of the directory before it creates anything. -/
theorem Coherent.setOwner_bind (h : Coherent daemon) {index : ℕ} {uid gid : UInt32}
    {next : Prog Unit} {trace : Trace} {ending : Ending Fault Daemon Unit}
    (hpath : ((Prog.modifyInode index (fun inode ↦
      { inode with iattr := { inode.iattr with uid, gid } }) >>= fun _ ↦ next).run daemon).Path
        trace ending) :
    ∃ daemon', Coherent daemon' ∧ Grows daemon daemon' ∧
      daemon'.heap.length = daemon.heap.length ∧ (next.run daemon').Path trace ending := by
  obtain ⟨hcoherent, hgrows⟩ := keeps_setOwner index uid gid daemon [] () _ ⟨rfl, rfl⟩ h
  exact ⟨_, hcoherent, hgrows, Daemon.setInode_length _ _ _, hpath⟩

end Congr

section Objects

variable {plat : Platform} {daemon : Daemon} (hcoherent : Coherent daemon)
  (hpos : 0 < daemon.heap.length)

include hcoherent hpos

/-- The runs of `hsi_nfs3_handle_create`. -/
theorem handleCreate_verdict {res : Diropres3ok} {trace : Trace}
    {ending : Ending Fault Daemon InodePtr}
    (hpath : ((hsiNfs3HandleCreate plat res).run daemon).Path trace ending) :
    (∃ handle index daemon', res.obj = some handle ∧
      ObjectAcquired daemon res.objAttributes trace ∧ ending = .done (.obj index) daemon' ∧
      AcquiredAs daemon handle res.objAttributes index daemon') ∨
    (¬ (res.obj.isSome = true ∧ ObjectAcquired daemon res.objAttributes trace) ∧
      ((∃ error, ending = .done (.err error) daemon ∧ isErr plat (.err error) = false) ∨
        ∃ reason daemon', ending = .crashed reason daemon')) := by
  unfold hsiNfs3HandleCreate at hpath
  split at hpath
  · rename_i hnone
    rw [errPtr_enoent plat daemon] at hpath
    refine Or.inr ⟨fun h ↦ ?_, Or.inl ⟨_, hpath.2, isErr_err plat (by decide) (by decide)⟩⟩
    rw [hnone] at h
    exact Bool.false_ne_true h.1
  · rename_i handle hsome
    rw [hsiNfsFhget_path_iff plat hcoherent.live] at hpath
    rcases hpath.verdict hcoherent hpos with ⟨hacquired, index, daemon', rfl, has⟩ | ⟨hnot, hend⟩
    · exact Or.inl ⟨handle, index, daemon', hsome, hacquired, rfl, has⟩
    · refine Or.inr ⟨fun h ↦ hnot h.2, ?_⟩
      rcases hend with ⟨error, rfl⟩ | hcrash
      · exact Or.inl ⟨error, rfl, hpath.isErr_eq_false plat⟩
      · exact Or.inr hcrash

omit hcoherent hpos in
/-- A call that fails names no object. -/
theorem objectRun_refused {excused : Trace → Prop} (before : Trace) {event : Event EnvAns} {err : ℤ}
    (hne : err ≠ 0) (hbefore : ∀ event ∈ before, namedObject event = none)
    (hevent : namedObject event = none) :
    ObjectRun excused daemon (before ++ [event]) (.done (err, .null) daemon) := by
  have hnone : (before ++ [event]).findSome? namedObject = none := by
    rw [List.findSome?_eq_none_iff, List.forall_mem_append, List.forall_mem_singleton]
    exact ⟨hbefore, hevent⟩
  refine .refused hne (fun _ _ hsome ↦ ?_) (Or.inr fun _ _ hsome ↦ ?_) rfl
  · rw [hnone] at hsome
    cases hsome
  · rw [hnone] at hsome
    cases hsome

/-- A procedure that hands on the pointer to the object of a reply. -/
theorem objectRun_ok {event : Event EnvAns} {res : Diropres3ok}
    (hevent : Names event (.done (.ok res))) (before : Trace) {trace : Trace}
    (hbefore : ∀ event ∈ before, OffCache event ∧ namedObject event = none)
    {next : InodePtr → Prog (ℤ × InodePtr)}
    (hnext : ∀ ptr, isErr plat ptr = false → next ptr = pure (0, ptr))
    {ending : Ending Fault Daemon (ℤ × InodePtr)}
    (hpath : ((hsiNfs3HandleCreate plat res >>= next).run daemon).Path trace ending) :
    ObjectRun (fun _ ↦ False) daemon (before ++ event :: trace) ending := by
  have hacquired (front : Trace) := hevent.acquired_iff hbefore front
    (List.forall_mem_nil OffCache) daemon
  simp only [List.append_nil] at hacquired
  rcases Program.path_bind.mp hpath with ⟨ptr, daemon₁, front, rest, hfirst, hrest, rfl⟩ |
    ⟨reason, daemon₁, hcrash, rfl⟩
  · rcases handleCreate_verdict hcoherent hpos hfirst with
      ⟨handle, index, daemon', hobj, hgot, heq, has⟩ | ⟨hnot, ⟨error, heq, herr⟩ | ⟨_, _, heq⟩⟩
    · cases heq
      rw [hnext _ (isErr_obj plat index)] at hrest
      obtain ⟨rfl, rfl⟩ := hrest
      rw [List.append_nil]
      refine .acquired ((hacquired front).mpr ⟨by rw [hobj]; rfl, hgot⟩) id
        has.coherent has.lt_length
        ?_ has.replies_eq
      rw [has.priv_eq, hevent.unreferenced_iff hbefore front daemon hobj]
    · cases heq
      rw [hnext _ herr] at hrest
      obtain ⟨rfl, rfl⟩ := hrest
      rw [List.append_nil]
      exact .poisoned fun h ↦ hnot ((hacquired front).mp h)
    · cases heq
  · rcases handleCreate_verdict hcoherent hpos hcrash with
      ⟨handle, index, daemon', hobj, hgot, heq, has⟩ | ⟨hnot, -⟩
    · cases heq
    · exact .stuck fun h ↦ hnot ((hacquired trace).mp h)

/-- The end of the creating procedures. -/
theorem finishCreate_objectRun {outcome : RpcOutcome Diropres3ok} {event : Event EnvAns}
    (hevent : Names event outcome) (before : Trace) {trace : Trace}
    (hbefore : ∀ event ∈ before, OffCache event ∧ namedObject event = none)
    {ending : Ending Fault Daemon (ℤ × InodePtr)}
    (hpath : ((finishCreate plat outcome).run daemon).Path trace ending) :
    ObjectRun (fun _ ↦ False) daemon (before ++ event :: trace) ending := by
  have hsilent : ∀ event ∈ before, namedObject event = none :=
    fun event hmem ↦ (hbefore event hmem).2
  match outcome with
  | .fail err hne =>
    obtain ⟨rfl, rfl⟩ := hpath
    exact objectRun_refused before hne hsilent hevent.2
  | .done (.fail status hne) =>
    obtain ⟨rfl, rfl⟩ := hpath
    exact objectRun_refused before (hsiNfs3StatToErrno_ne_zero hne) hsilent hevent.2
  | .done (.ok res) =>
    unfold finishCreate at hpath
    refine objectRun_ok hcoherent hpos hevent before hbefore (fun ptr herr ↦ ?_) hpath
    rw [if_neg (by rw [herr]; exact Bool.false_ne_true)]

theorem hsiNfs3Lookup_objectRun {parent : ℕ} {name : CString} {trace : Trace}
    {ending : Ending Fault Daemon (ℤ × InodePtr)}
    (hpath : ((hsiNfs3Lookup plat parent name).run daemon).Path trace ending) :
    ObjectRun (fun _ ↦ False) daemon trace ending := by
  unfold hsiNfs3Lookup at hpath
  rw [Prog.getInode_bind] at hpath
  obtain ⟨outcome, rest, rfl, hrest⟩ := Prog.path_clntCall_bind.mp hpath
  rcases outcome with ⟨err, hne⟩ | ⟨res | ⟨status, hne⟩⟩
  · obtain ⟨rfl, rfl⟩ := hrest
    exact objectRun_refused [] hne (List.forall_mem_nil _) rfl
  · have hnames : Names ⟨.call (.lookup ⟨hsiNfs3Getfh3 (daemon.inode parent), name⟩),
      .done (.ok res)⟩
        (.done (.ok ⟨some res.object, res.objAttributes⟩)) := ⟨offCache_call _ _, rfl⟩
    exact objectRun_ok hcoherent hpos hnames [] (List.forall_mem_nil _) (fun _ _ ↦ rfl) hrest
  · obtain ⟨rfl, rfl⟩ := hrest
    exact objectRun_refused [] (hsiNfs3StatToErrno_ne_zero hne) (List.forall_mem_nil _) rfl

theorem hsiNfs3Mkdir_objectRun {parent : ℕ} {name : CString} {mode : UInt32} {trace : Trace}
    {ending : Ending Fault Daemon (ℤ × InodePtr)}
    (hpath : ((hsiNfs3Mkdir plat parent name mode).run daemon).Path trace ending) :
    ObjectRun (fun _ ↦ False) daemon trace ending := by
  unfold hsiNfs3Mkdir at hpath
  rw [Prog.getInode_bind] at hpath
  obtain ⟨outcome, rest, rfl, hrest⟩ := Prog.path_clntCall_bind.mp hpath
  have hnames : Names ⟨.call (.mkdir _ _), outcome⟩ outcome :=
    .of (fun outcome ↦ ⟨.call (.mkdir _ _), outcome⟩) (fun _ ↦ offCache_call _ _) (fun _ _ ↦ rfl)
      (fun _ _ ↦ rfl) (fun _ ↦ rfl) outcome
  exact finishCreate_objectRun hcoherent hpos hnames [] (List.forall_mem_nil _) hrest

theorem hsiNfs3Symlink_objectRun {parent : ℕ} {link name : CString} {trace : Trace}
    {ending : Ending Fault Daemon (ℤ × InodePtr)}
    (hpath : ((hsiNfs3Symlink plat parent link name).run daemon).Path trace ending) :
    ObjectRun (fun _ ↦ False) daemon trace ending := by
  unfold hsiNfs3Symlink at hpath
  rw [Prog.getInode_bind] at hpath
  obtain ⟨outcome, rest, rfl, hrest⟩ := Prog.path_clntCall_bind.mp hpath
  have hnames : Names ⟨.call (.symlink _ _ _), outcome⟩ outcome :=
    .of (fun outcome ↦ ⟨.call (.symlink _ _ _), outcome⟩) (fun _ ↦ offCache_call _ _)
      (fun _ _ ↦ rfl)
      (fun _ _ ↦ rfl) (fun _ ↦ rfl) outcome
  exact finishCreate_objectRun hcoherent hpos hnames [] (List.forall_mem_nil _) hrest

theorem hsiNfs3Mknod_objectRun {parent : ℕ} {name : CString} {mode : UInt32} {rdev : UInt64}
    {trace : Trace} {ending : Ending Fault Daemon (ℤ × InodePtr)}
    (hpath : ((hsiNfs3Mknod plat parent name mode rdev).run daemon).Path trace ending) :
    (NameFits .mknodName name trace ∧ ObjectRun (fun _ ↦ False) daemon trace ending) ∨
      (¬ NameFits .mknodName name trace ∧ trace = [⟨.malloc .mknodName, true⟩] ∧
        ending = .crashed .undefined daemon) := by
  unfold hsiNfs3Mknod at hpath
  split_ifs at hpath with hlong
  · obtain ⟨rfl, rfl⟩ := hpath
    refine Or.inl ⟨fun _ ↦ List.not_mem_nil, ?_⟩
    exact .refused (by decide) (fun _ _ hsome ↦ nomatch hsome)
      (Or.inr fun _ _ hsome ↦ nomatch hsome)
      rfl
  obtain ⟨copied, rest, rfl, hrest⟩ := path_copyName_bind.mp hpath
  have hsilent : ∀ event ∈ [(⟨.malloc .mknodName, copied⟩ : Event EnvAns)],
      OffCache event ∧ namedObject event = none :=
    List.forall_mem_singleton.mpr ⟨⟨nofun, rfl⟩, rfl⟩
  by_cases hfull : copied = true ∧ ¬ name.length + 1 ≤ nameMax
  · rw [if_pos hfull] at hrest
    have hname : name.length = nameMax := by omega
    obtain ⟨rfl, rfl⟩ := hrest
    obtain ⟨rfl, -⟩ := hfull
    exact Or.inr ⟨fun hfits ↦ hfits hname List.mem_cons_self, rfl, rfl⟩
  rw [if_neg hfull] at hrest
  cases copied with
  | false =>
    rw [if_neg Bool.false_ne_true] at hrest
    obtain ⟨rfl, rfl⟩ := hrest
    have hfits : NameFits .mknodName name [⟨.malloc .mknodName, false⟩] :=
      fun _ hmem ↦ nomatch List.mem_singleton.mp hmem
    exact Or.inl ⟨hfits, objectRun_refused [] (by decide) (List.forall_mem_nil _) rfl⟩
  | true =>
    have hname : name.length ≠ nameMax := fun h ↦ hfull ⟨rfl, by omega⟩
    rw [if_pos rfl, Prog.getInode_bind] at hrest
    obtain ⟨outcome, back, rfl, hback⟩ := Prog.path_clntCall_bind.mp hrest
    have hnames : Names ⟨.call (.mknod _ _), outcome⟩ outcome :=
      .of (fun outcome ↦ ⟨.call (.mknod _ _), outcome⟩) (fun _ ↦ offCache_call _ _) (fun _ _ ↦ rfl)
        (fun _ _ ↦ rfl) (fun _ ↦ rfl) outcome
    exact Or.inl ⟨fun h ↦ absurd h hname,
      finishCreate_objectRun hcoherent hpos hnames [⟨.malloc .mknodName, true⟩] hsilent hback⟩

omit hpos in
/-- The second step of an exclusive create sends one `SETATTR`, since the mode is always set, and
that sets nothing else. -/
theorem exclusiveSetattr_sends {index : ℕ} (hlt : index < daemon.heap.length) {mode : UInt32}
    {trace : Trace} {ending : Ending Fault Daemon ℤ}
    (hpath : ((exclusiveSetattr (.obj index) mode).run daemon).Path trace ending) :
    ∃ outcome, trace = [⟨.call (.setattr (hsiNfs3Getfh3 (daemon.inode index))
        { Sattr3.cleared with mode := some (mode &&& 0o777) }), outcome⟩] ∧
      ending = .done (setattrResult outcome).1 (daemon.afterSetattr index outcome) := by
  have hvalid : (daemon.inode index).iattr.valid ||| hsfsAttrMode = hsfsAttrMode := by
    rw [(hcoherent.inodeOk index hlt).valid_eq]
    rfl
  have hnot : index ∉ daemon.freed := by
    rw [hcoherent.freed_nil]
    exact List.not_mem_nil
  unfold exclusiveSetattr at hpath
  rw [Program.bind_run_of_ret (deref_obj_run hnot), Prog.getInode_bind, hvalid] at hpath
  have hmask : setattrValid (daemon.inode index) { (daemon.inode index).iattr with
      mode := mode &&& 0o777, valid := hsfsAttrMode } = hsfsAttrMode := by
    have hsize : hsfsAttrMode &&& hsfsAttrSize = 0 := by decide
    rw [setattrValid, if_neg fun h ↦ h.1 hsize]
    exact (by decide : hsfsAttrMode &&& nfsValidAttrs = hsfsAttrMode)
  have hsattr : sattrOfIattr (passedIattr (daemon.inode index) { (daemon.inode index).iattr with
      mode := mode &&& 0o777, valid := hsfsAttrMode }) =
        { Sattr3.cleared with mode := some (mode &&& 0o777) } := by
    rw [passedIattr, hmask]
    simp +decide [sattrOfIattr, setTimeOf, Sattr3.cleared]
  rcases hsiNfsSetattr_path hpath with ⟨hzero, -, -⟩ | ⟨-, hsent⟩
  · rw [hmask] at hzero
    cases hzero
  · rw [hsattr] at hsent
    exact hsent

omit hpos in
theorem exclusiveSetattr_path {index : ℕ} (hlt : index < daemon.heap.length) {mode : UInt32}
    {trace : Trace} {ending : Ending Fault Daemon ℤ}
    (hpath : ((exclusiveSetattr (.obj index) mode).run daemon).Path trace ending) :
    ∃ event status daemon', trace = [event] ∧ ending = .done status daemon' ∧ OffCache event ∧
      namedObject event = none ∧ (status = 0 ↔ setattrDone event = true) ∧ Coherent daemon' ∧
      Grows daemon daemon' := by
  obtain ⟨outcome, rfl, rfl⟩ := exclusiveSetattr_sends hcoherent hlt hpath
  obtain ⟨hcoherent', hgrows⟩ :=
    keeps_exclusiveSetattr (.obj index) mode daemon _ _ _ hpath hcoherent
  refine ⟨_, _, _, rfl, rfl, offCache_call _ _, rfl, ?_, hcoherent', hgrows⟩
  rw [setattrResult_eq_zero_iff]
  match outcome with
  | .fail err hne => simp [setattrDone]
  | .done (.fail status hne) => simp [setattrDone]
  | .done (.ok none) => simp [setattrDone]
  | .done (.ok (some attributes)) => simp [setattrDone]

omit hpos in
theorem handleCreate_setattrDone {res : Diropres3ok} {trace : Trace}
    {ending : Ending Fault Daemon InodePtr}
    (hpath : ((hsiNfs3HandleCreate plat res).run daemon).Path trace ending) :
    ∀ event ∈ trace, setattrDone event = false := by
  unfold hsiNfs3HandleCreate at hpath
  split at hpath
  · rw [errPtr_enoent plat daemon] at hpath
    rw [hpath.1]
    exact List.forall_mem_nil _
  · rw [hsiNfsFhget_path_iff plat hcoherent.live] at hpath
    cases hpath <;> simp [setattrDone]

/-- The runs of an exclusive create whose first step succeeded. -/
theorem exclusive_objectRun {event : Event EnvAns} {res : Diropres3ok}
    (hevent : Names event (.done (.ok res))) {mode : UInt32} (hexclusive : isExclusive mode)
    (hnot : setattrDone event = false) {trace : Trace}
    {next : InodePtr → Prog (ℤ × InodePtr)}
    (hnext : ∀ ptr, isErr plat ptr = false →
      next ptr = exclusiveSetattr ptr mode >>= fun status ↦ pure (status, ptr))
    {ending : Ending Fault Daemon (ℤ × InodePtr)}
    (hpath : ((hsiNfs3HandleCreate plat res >>= next).run daemon).Path trace ending) :
    ObjectRun (SetattrFailed mode) daemon (event :: trace) ending := by
  have hnone : ∀ event ∈ ([] : Trace), OffCache event ∧ namedObject event = none :=
    List.forall_mem_nil _
  have hacquired (front : Trace) {back : Trace} (hback : ∀ event ∈ back, OffCache event) :=
    hevent.acquired_iff hnone front hback daemon
  have halone (front : Trace) := hacquired front (List.forall_mem_nil OffCache)
  simp only [List.append_nil] at halone
  rcases Program.path_bind.mp hpath with ⟨ptr, daemon₁, front, rest, hfirst, hrest, rfl⟩ |
    ⟨reason, daemon₁, hcrash, rfl⟩
  · rcases handleCreate_verdict hcoherent hpos hfirst with
      ⟨handle, index, daemon', hobj, hgot, heq, has⟩ | ⟨hfailed, ⟨error, heq, herr⟩ | ⟨_, _, heq⟩⟩
    · cases heq
      rw [hnext _ (isErr_obj plat index)] at hrest
      rcases Program.path_bind.mp hrest with ⟨status, daemon₂, front₂, rest₂, hset, hlast, rfl⟩ |
        ⟨_, _, hset, -⟩
      · obtain ⟨second, _, _, rfl, heq, hoff, -, hdone, hcoherent₂, hgrows⟩ :=
          exclusiveSetattr_path has.coherent has.lt_length hset
        cases heq
        obtain ⟨rfl, rfl⟩ := hlast
        have hgot' : Acquired daemon (event :: (front ++ [second])) :=
          (hacquired front (List.forall_mem_singleton.mpr hoff)).mpr ⟨by rw [hobj]; rfl, hgot⟩
        by_cases hstatus : status = 0
        · subst hstatus
          refine .acquired hgot' (fun hexcused ↦ ?_) hcoherent₂
            (has.lt_length.trans_le hgrows.length_le) ?_ ?_
          · have hfalse := hexcused.2 second (by simp)
            rw [hdone.mp rfl] at hfalse
            cases hfalse
          · rw [hgrows.priv_eq index has.lt_length, has.priv_eq]
            exact (hevent.unreferenced_iff hnone _ daemon hobj).symm
          · rw [hgrows.replies_eq, has.replies_eq]
        · refine .refused hstatus hgot' (Or.inl ⟨hexclusive, ?_⟩) ?_
          · rw [List.append_nil, List.forall_mem_cons, List.forall_mem_append,
              List.forall_mem_singleton]
            exact ⟨hnot, fun event hmem ↦ handleCreate_setattrDone hcoherent hfirst event hmem,
              Bool.eq_false_iff.mpr (hstatus ∘ hdone.mpr)⟩
          · rw [hgrows.replies_eq, has.replies_eq]
      · obtain ⟨_, _, _, -, heq, -⟩ := exclusiveSetattr_path has.coherent has.lt_length hset
        cases heq
    · cases heq
      rw [hnext _ herr] at hrest
      obtain ⟨rfl, rfl⟩ := hrest
      rw [List.append_nil]
      exact .stuck fun h ↦ hfailed ((halone front).mp h)
    · cases heq
  · rcases handleCreate_verdict hcoherent hpos hcrash with
      ⟨handle, index, daemon', hobj, hgot, heq, has⟩ | ⟨hfailed, -⟩
    · cases heq
    · exact .stuck fun h ↦ hfailed ((halone trace).mp h)

theorem hsiNfs3Create_objectRun {parent : ℕ} {name : CString} {mode : UInt32} {trace : Trace}
    {ending : Ending Fault Daemon (ℤ × InodePtr)}
    (hpath : ((hsiNfs3Create plat parent name mode).run daemon).Path trace ending) :
    ObjectRun (SetattrFailed mode) daemon trace ending := by
  unfold hsiNfs3Create at hpath
  rw [Prog.getInode_bind] at hpath
  obtain ⟨outcome, rest, rfl, hrest⟩ := Prog.path_clntCall_bind.mp hpath
  rcases outcome with ⟨err, hne⟩ | ⟨res | ⟨status, hne⟩⟩
  · obtain ⟨rfl, rfl⟩ := hrest
    exact objectRun_refused [] hne (List.forall_mem_nil _) rfl
  · have hnames : Names ⟨.call (.create _ (createHow (daemon.inode parent) mode)), .done (.ok res)⟩
        (.done (.ok res)) := ⟨offCache_call _ _, rfl⟩
    by_cases hexclusive : (mode &&& 0xf0000) >>> 16 = 2
    · refine exclusive_objectRun hcoherent hpos hnames hexclusive rfl (fun ptr herr ↦ ?_) hrest
      rw [if_neg (by rw [herr]; exact Bool.false_ne_true), if_pos hexclusive]
    · have hexcused : SetattrFailed mode = fun _ ↦ False :=
        funext fun _ ↦ eq_false fun h ↦ hexclusive h.1
      rw [hexcused]
      refine objectRun_ok hcoherent hpos hnames [] (List.forall_mem_nil _) (fun ptr herr ↦ ?_) hrest
      rw [if_neg (by rw [herr]; exact Bool.false_ne_true), if_neg hexclusive]
  · obtain ⟨rfl, rfl⟩ := hrest
    exact objectRun_refused [] (hsiNfs3StatToErrno_ne_zero hne) (List.forall_mem_nil _) rfl

end Objects

/-! ## The handlers of one object -/

section Handlers

variable {plat : Platform} {daemon : Daemon} {trace : Trace} {ending : Ending Fault Daemon Unit}

/-- The end of the creating handlers. -/
theorem replyCreated_repliedOnce_iff {excused : Trace → Prop} {front : Trace} {err : ℤ}
    {new : InodePtr} {daemon₁ : Daemon}
    (hrun : ObjectRun excused daemon front (.done (err, new) daemon₁))
    {success : FuseEntryParam → FuseReply}
    (hpath : ((replyCreated err new success).run daemon₁).Path trace ending) :
    trace = [] ∧ (RepliedOnce daemon ending ↔
      Acquired daemon front ∧ (excused front ∨ Unreferenced daemon front)) := by
  unfold replyCreated at hpath
  cases hrun with
  | refused hne hacquired hsafe hreplies =>
    rw [if_pos hne] at hpath
    exact ⟨hpath.1, iff_of_true (repliedOnce_reply hreplies hpath) ⟨hacquired, hsafe⟩⟩
  | @acquired index _ hacquired hnot hcoherent hlt hpriv hreplies =>
    rw [if_neg (not_not.mpr rfl)] at hpath
    dsimp only at hpath
    rw [Program.bind_run, countCreated_obj_run hcoherent hlt] at hpath
    split_ifs at hpath with hzero
    · rw [Resumption.bind_ret] at hpath
      refine ⟨hpath.1, iff_of_true (repliedOnce_reply ?_ hpath)
        ⟨hacquired, Or.inr (hpriv.mp hzero)⟩⟩
      exact hreplies
    · refine ⟨hpath.1, iff_of_false ?_ fun h ↦ h.2.elim hnot fun h' ↦ hzero (hpriv.mpr h')⟩
      rw [hpath.2]
      exact not_repliedOnce_crashed
  | poisoned hnot =>
    rw [if_neg (not_not.mpr rfl)] at hpath
    refine ⟨hpath.1, iff_of_false ?_ fun h ↦ hnot h.1⟩
    rw [hpath.2]
    exact not_repliedOnce_crashed

/-- A creating handler behind `hsfs_ilookup`. -/
theorem created_repliedOnce_iff {excused : Trace → Prop} {procedure : Prog (ℤ × InodePtr)}
    (hprocedure : ∀ trace ending, (procedure.run daemon).Path trace ending →
      ObjectRun excused daemon trace ending) {success : FuseEntryParam → FuseReply}
    (hpath : ((procedure >>= fun result ↦ replyCreated result.1 result.2 success).run daemon).Path
      trace ending) :
    RepliedOnce daemon ending ↔
      Acquired daemon trace ∧ (excused trace ∨ Unreferenced daemon trace) := by
  rcases Program.path_bind.mp hpath with ⟨⟨err, new⟩, daemon₁, front, rest, hfirst, hrest, rfl⟩ |
    ⟨reason, daemon₁, hcrash, rfl⟩
  · obtain ⟨rfl, hiff⟩ := replyCreated_repliedOnce_iff (hprocedure _ _ hfirst) hrest
    rw [List.append_nil]
    exact hiff
  · refine iff_of_false not_repliedOnce_crashed fun h ↦ ?_
    cases hprocedure _ _ hcrash with
    | stuck hnot => exact hnot h.1

/-- A handler that says nothing about a directory it has not cached. -/
theorem repliedOnce_iff_caches_and (hcoherent : Coherent daemon) {ino : UInt64}
    {found : ℕ → Prog Unit} {missing : Prog Unit} {condition : Prop}
    (hfound : ∀ index, ((found index).run daemon).Path trace ending →
      (RepliedOnce daemon ending ↔ condition))
    (hmissing : ∀ daemon trace ending, (missing.run daemon).Path trace ending →
      ¬ RepliedOnce daemon ending)
    (hpath : ((hsfsIlookup ino >>= fun ptr ↦ match ptr with
      | .obj index => found index
      | _ => missing).run daemon).Path trace ending) :
    RepliedOnce daemon ending ↔ daemon.Caches ino ∧ condition := by
  rcases hcoherent.path_ilookup hpath with ⟨hfind, hpath⟩ | ⟨index, hfind, hpath⟩
  · exact iff_of_false (hmissing daemon trace ending hpath) fun h ↦
      Daemon.not_caches_of_none hfind h.1
  · rw [and_iff_right (Daemon.caches_of_some hfind)]
    exact hfound index hpath

/-- A handler that replies with an error about a directory it has not cached. -/
theorem repliedOnce_iff_caches_imp (hcoherent : Coherent daemon) {ino : UInt64}
    {found : ℕ → Prog Unit} {message : FuseReply} {condition : Prop}
    (hfound : ∀ index, ((found index).run daemon).Path trace ending →
      (RepliedOnce daemon ending ↔ condition))
    (hpath : ((hsfsIlookup ino >>= fun ptr ↦ match ptr with
      | .obj index => found index
      | _ => Prog.reply message).run daemon).Path trace ending) :
    RepliedOnce daemon ending ↔ (daemon.Caches ino → condition) := by
  rcases hcoherent.path_ilookup hpath with ⟨hfind, hpath⟩ | ⟨index, hfind, hpath⟩
  · exact iff_of_true (repliedOnce_reply rfl hpath) fun h ↦
      absurd h (Daemon.not_caches_of_none hfind)
  · rw [imp_iff_right (Daemon.caches_of_some hfind)]
    exact hfound index hpath

section Objects

variable (hcoherent : Coherent daemon) (hpos : 0 < daemon.heap.length)

include hcoherent hpos

theorem hsxFuseLookup_repliedOnce_iff {ino : UInt64} {name : CString}
    (hpath : ((hsxFuseLookup plat ino name).run daemon).Path trace ending) :
    RepliedOnce daemon ending ↔ (daemon.Caches ino → Acquired daemon trace) := by
  refine repliedOnce_iff_caches_imp hcoherent (fun parent hfound ↦ ?_) hpath
  rcases Program.path_bind.mp hfound with ⟨⟨err, child⟩, daemon₁, front, rest, hfirst, hrest, rfl⟩ |
    ⟨reason, daemon₁, hcrash, rfl⟩
  · dsimp only at hrest
    cases hsiNfs3Lookup_objectRun hcoherent hpos hfirst with
    | refused hne hacquired hsafe hreplies =>
      rw [if_pos hne] at hrest
      obtain rfl : rest = [] := hrest.1
      rw [List.append_nil]
      exact iff_of_true (repliedOnce_reply hreplies hrest) hacquired
    | @acquired index _ hacquired hnot hcoherent₁ hlt hpriv hreplies =>
      have hcounted := hcoherent₁.setPriv hlt ((daemon₁.inode index).priv + 1)
      rw [if_neg (not_not.mpr rfl)] at hrest
      dsimp only at hrest
      rw [Program.bind_run_of_ret (hsxFuseRefInc_obj_run hcoherent₁ index 1),
        Program.bind_run_of_ret (hsxFuseFillReply_obj_run hcounted index)] at hrest
      obtain rfl : rest = [] := hrest.1
      rw [List.append_nil]
      refine iff_of_true (repliedOnce_reply ?_ hrest) hacquired
      exact hreplies
    | poisoned hnot =>
      rw [if_neg (not_not.mpr rfl)] at hrest
      obtain ⟨rfl, rfl⟩ := hrest
      rw [List.append_nil]
      exact iff_of_false not_repliedOnce_crashed hnot
  · refine iff_of_false not_repliedOnce_crashed fun h ↦ ?_
    cases hsiNfs3Lookup_objectRun hcoherent hpos hcrash with
    | stuck hnot => exact hnot h

theorem hsxFuseMkdir_repliedOnce_iff {parent : UInt64} {name : CString} {mode : UInt32}
    (hpath : ((hsxFuseMkdir plat parent name mode).run daemon).Path trace ending) :
    RepliedOnce daemon ending ↔
      daemon.Caches parent ∧ Acquired daemon trace ∧ Unreferenced daemon trace := by
  refine repliedOnce_iff_caches_and hcoherent (fun index hfound ↦ ?_) not_repliedOnce_pure hpath
  rw [created_repliedOnce_iff (fun _ _ ↦ hsiNfs3Mkdir_objectRun hcoherent hpos) hfound, false_or]

theorem hsxFuseSymlink_repliedOnce_iff {link name : CString} {parent : UInt64}
    (hpath : ((hsxFuseSymlink plat link parent name).run daemon).Path trace ending) :
    RepliedOnce daemon ending ↔
      (daemon.Caches parent → Acquired daemon trace ∧ Unreferenced daemon trace) := by
  refine repliedOnce_iff_caches_imp hcoherent (fun index hfound ↦ ?_) hpath
  rw [created_repliedOnce_iff (fun _ _ ↦ hsiNfs3Symlink_objectRun hcoherent hpos) hfound, false_or]

theorem hsxFuseMknod_repliedOnce_iff {parent : UInt64} {name : CString} {mode : UInt32}
    {rdev : UInt64} (hpath : ((hsxFuseMknod plat parent name mode rdev).run daemon).Path trace
      ending) :
    RepliedOnce daemon ending ↔ (daemon.Caches parent →
      NameFits .mknodName name trace ∧ Acquired daemon trace ∧ Unreferenced daemon trace) := by
  refine repliedOnce_iff_caches_imp hcoherent (fun index hfound ↦ ?_) hpath
  rcases Program.path_bind.mp hfound with ⟨⟨err, new⟩, daemon₁, front, rest, hfirst, hrest, rfl⟩ |
    ⟨reason, daemon₁, hcrash, rfl⟩
  · rcases hsiNfs3Mknod_objectRun hcoherent hpos hfirst with ⟨hfits, hrun⟩ | ⟨-, heq⟩
    · obtain ⟨rfl, hiff⟩ := replyCreated_repliedOnce_iff hrun hrest
      rw [List.append_nil, and_iff_right hfits, hiff, false_or]
    · cases heq.2
  · refine iff_of_false not_repliedOnce_crashed fun h ↦ ?_
    rcases hsiNfs3Mknod_objectRun hcoherent hpos hcrash with ⟨-, hrun⟩ | ⟨hnot, -⟩
    · cases hrun with
      | stuck hnot => exact hnot h.2.1
    · exact hnot h.1

theorem hsxFuseCreate_repliedOnce_iff {parent : UInt64} {name : CString}
    {mode flags uid gid : UInt32}
    (hpath : ((hsxFuseCreate plat parent name mode flags uid gid).run daemon).Path trace ending) :
    RepliedOnce daemon ending ↔ daemon.Caches parent ∧ Acquired daemon trace ∧
      (SetattrFailed (createMode mode flags) trace ∨ Unreferenced daemon trace) := by
  refine repliedOnce_iff_caches_and hcoherent (fun index hfound ↦ ?_) not_repliedOnce_pure hpath
  obtain ⟨daemon₁, hcoherent₁, hgrows, hlength, hcreate⟩ := hcoherent.setOwner_bind hfound
  have hsame := created_repliedOnce_iff (fun _ _ ↦ hsiNfs3Create_objectRun hcoherent₁
    (hpos.trans_le hgrows.length_le)) hcreate
  rw [acquired_congr hlength, hcoherent.unreferenced_congr hcoherent₁ hgrows hlength,
    RepliedOnce, hgrows.replies_eq] at hsame
  exact hsame

end Objects

end Handlers

end NfsFuse
