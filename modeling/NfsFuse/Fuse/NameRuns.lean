import NfsFuse.Fuse.Names

/-!
# Names and numbers in runs of requests

What a name stands for is left alone by every request that is not about the name.  So a name that
was looked up or made keeps its number, a name that was removed is not found any more, and a name
that comes from another one by `rename` or `link` has the number of the other.  This holds for
requests that are handled one at a time and for a server whose names only the daemon changes.
-/

namespace NfsFuse

open Lib

/-- The names that a request may change. -/
def Request.changes : Request → List (UInt64 × CString)
  | .rename parent name newparent newname _ => [(parent, name), (newparent, newname)]
  | .link _ newparent newname => [(newparent, newname)]
  | request => request.makes.toList ++ request.removes.toList

/-- A request keeps away from a place. -/
def Request.SparesName (object : UInt64 → Option NamedObject) (entry : Diropargs3)
    (request : Request) : Prop :=
  ∀ place ∈ request.changes, ∀ dir, object place.1 = some dir → entry ≠ ⟨dir.handle, place.2⟩

theorem NameTable.move_target (names : NameTable) (source target : Diropargs3) :
    names.move source target target = names source := by
  unfold NameTable.move
  split_ifs with hsame
  · exact hsame.symm
  · rw [Function.update_self]

theorem NameTable.move_of_ne (names : NameTable) {source target entry : Diropargs3}
    (hsource : entry ≠ source) (htarget : entry ≠ target) :
    names.move source target entry = names entry := by
  unfold NameTable.move
  split_ifs
  · rfl
  · rw [Function.update_of_ne htarget, Function.update_of_ne hsource]

theorem Request.mem_changes_of_makes {request : Request} {place : UInt64 × CString}
    (h : request.makes = some place) : place ∈ request.changes := by
  cases request with
  | mkdir | mknod | symlink | create =>
    cases h
    exact List.mem_singleton_self _
  | _ => cases h

theorem Request.mem_changes_of_removes {request : Request} {place : UInt64 × CString}
    (h : request.removes = some place) : place ∈ request.changes := by
  cases request with
  | rmdir | unlink =>
    cases h
    exact List.mem_singleton_self _
  | _ => cases h

/-- The requests that give a new name to the object of a number and of a name, and the replies that
say so. -/
inductive Request.GivesName (ino parent : UInt64) (name : CString) (newparent : UInt64)
    (newname : CString) : Request → FuseReply → Prop where
  | renamed (flags : UInt32) :
      GivesName ino parent name newparent newname (.rename parent name newparent newname flags)
        (.err 0)
  | linked (param : FuseEntryParam) :
      GivesName ino parent name newparent newname (.link ino newparent newname) (.entry param)

namespace NameView

variable {view view' : NameView} {request : Request} {entry : Diropargs3} {object : NamedObject}
  {ino parent : UInt64} {name : CString}

theorem ne_of_spares (hspares : request.SparesName view.object entry)
    (hmem : (parent, name) ∈ request.changes) {place : Diropargs3}
    (hplace : view.entry parent name = some place) : entry ≠ place := by
  obtain ⟨dir, hdir, rfl⟩ := Option.map_eq_some_iff.mp hplace
  exact hspares _ hmem dir hdir

/-- What a request asks for leaves the other names alone. -/
theorem Asked.names_eq {names' : NameTable} (h : view.Asked request names')
    (hspares : request.SparesName view.object entry) : names' entry = view.names entry := by
  cases h with
  | make hmakes hentry =>
    exact Function.update_of_ne
      (ne_of_spares hspares (Request.mem_changes_of_makes hmakes) hentry) _ _
  | remove hremoves hentry =>
    exact Function.update_of_ne
      (ne_of_spares hspares (Request.mem_changes_of_removes hremoves) hentry) _ _
  | rename hsource htarget =>
    exact NameTable.move_of_ne _ (ne_of_spares hspares List.mem_cons_self hsource)
      (ne_of_spares hspares (List.mem_cons_of_mem _ List.mem_cons_self) htarget)
  | link hentry hobject =>
    exact Function.update_of_ne (ne_of_spares hspares List.mem_cons_self hentry) _ _

theorem Step.names_eq (hstep : view.Step request view')
    (hspares : request.SparesName view.object entry) : view'.names entry = view.names entry := by
  rcases hstep.names with heq | hasked
  · rw [heq]
  · exact hasked.names_eq hspares

/-- The name stands for the object of the number. -/
structure Binds (view : NameView) (entry : Diropargs3) (object : NamedObject) (ino : UInt64) :
    Prop where
  names_eq : view.names entry = some object
  object_eq : view.object ino = some object

/-- A name and a number go together as long as neither changes. -/
theorem Binds.mono (h : view.Binds entry object ino)
    (hnames : view'.names entry = view.names entry)
    (hobjects : ∀ ino object, view.object ino = some object → view'.object ino = some object) :
    view'.Binds entry object ino where
  names_eq := hnames.trans h.names_eq
  object_eq := hobjects _ _ h.object_eq

theorem Binds.step (h : view.Binds entry object ino) (hstep : view.Step request view')
    (hspares : request.SparesName view.object entry) : view'.Binds entry object ino :=
  h.mono (hstep.names_eq hspares) hstep.object_eq

/-- The object of an entry. -/
theorem Step.binds_entered (hstep : view.Step request view') {dir : NamedObject}
    (hdir : view.object parent = some dir) (hasks : request.asks = some (parent, name))
    {reply : FuseReply} {param : FuseEntryParam}
    (hreplies : view'.replies = view.replies ++ [reply]) (hentered : reply.entered = some param) :
    ∃ object, view'.Binds ⟨dir.handle, name⟩ object param.ino := by
  obtain ⟨entry, object, hentry, hnames, hobject⟩ :=
    hstep.entered parent name reply param hasks hreplies hentered
  cases hentry.symm.trans (entry_eq hdir name)
  exact ⟨object, hnames, hobject⟩

theorem Binds.renamed (h : view.Binds entry object ino) {dir newdir : NamedObject}
    {newparent : UInt64} {newname : CString} {flags : UInt32}
    (hstep : view.Step (.rename parent name newparent newname flags) view')
    (hdir : view.object parent = some dir) (hentry : entry = ⟨dir.handle, name⟩)
    (hnewdir : view.object newparent = some newdir)
    (hreplies : view'.replies = view.replies ++ [.err 0]) :
    view'.Binds ⟨newdir.handle, newname⟩ object ino := by
  obtain ⟨source, target, hsource, htarget, hnames⟩ :=
    hstep.renamed parent name newparent newname flags rfl hreplies
  cases hsource.symm.trans (entry_eq hdir name)
  cases htarget.symm.trans (entry_eq hnewdir newname)
  refine ⟨?_, hstep.object_eq _ _ h.object_eq⟩
  rw [hnames, NameTable.move_target, ← hentry, h.names_eq]

theorem Binds.linked (h : view.Binds entry object ino) {newdir : NamedObject} {newparent : UInt64}
    {newname : CString} {param : FuseEntryParam}
    (hstep : view.Step (.link ino newparent newname) view')
    (hnewdir : view.object newparent = some newdir)
    (hreplies : view'.replies = view.replies ++ [.entry param]) :
    view'.Binds ⟨newdir.handle, newname⟩ object ino := by
  obtain ⟨-, place, target, hplace, ⟨file, hfile, -, hknown⟩, hnames⟩ :=
    hstep.linked ino newparent newname param rfl hreplies
  cases hplace.symm.trans (entry_eq hnewdir newname)
  cases hfile.symm.trans h.object_eq
  refine ⟨?_, hstep.object_eq _ _ h.object_eq⟩
  rw [hnames, Function.update_self, hknown entry object h.names_eq rfl]

/-- A new name for the object of a number. -/
theorem Binds.newName {dir newdir : NamedObject} {newparent : UInt64} {newname : CString}
    {reply : FuseReply} (h : view.Binds ⟨dir.handle, name⟩ object ino)
    (hgives : request.GivesName ino parent name newparent newname reply)
    (hstep : view.Step request view') (hdir : view.object parent = some dir)
    (hnewdir : view.object newparent = some newdir)
    (hreplies : view'.replies = view.replies ++ [reply]) :
    view'.Binds ⟨newdir.handle, newname⟩ object ino := by
  cases hgives with
  | renamed flags => exact h.renamed hstep hdir rfl hnewdir hreplies
  | linked param => exact h.linked hstep hnewdir hreplies

end NameView

/-! ## Runs -/

section Bound

variable {plat : Platform} {daemon : Daemon} {names : NameTable}
  {moments moments' : List ServedMoment} {middle reached moved found last : Daemon × NameTable}
  {request request' : Request} {trace trace' trace₂ : Trace} {parent newparent : UInt64}
  {name newname : CString} {reply reply' : FuseReply} {param param' : FuseEntryParam}
  {entry : Diropargs3} {dir newdir object : NamedObject}

/-- Requests that keep away from a name leave it alone. -/
theorem names_eq_of_spares (hcoherent : Coherent middle.1)
    (hrun : Run (ServedStep plat nameServer) middle moments reached)
    (hspares : ∀ moment ∈ moments, moment.request.SparesName moment.before.identity entry) :
    Coherent reached.1 ∧ reached.2 entry = middle.2 entry ∧
      ∀ ino object, middle.1.identity ino = some object →
        reached.1.identity ino = some object := by
  induction hrun with
  | nil => exact ⟨hcoherent, rfl, fun _ _ h ↦ h⟩
  | snoc hrun hserved ih =>
    rw [List.forall_mem_append, List.forall_mem_singleton] at hspares
    obtain ⟨hcoherent', hnames, hobjects⟩ := ih hspares.1
    obtain ⟨hcoherent'', hstep⟩ := hserved.nameStep hcoherent'
    cases hserved with
    | mk hpath hgives =>
      exact ⟨hcoherent'', (hstep.names_eq hspares.2).trans hnames,
        fun ino object h ↦ hstep.object_eq ino object (hobjects ino object h)⟩

/-- A lookup changes no name. -/
theorem lookup_sparesName (object : UInt64 → Option NamedObject) (parent : UInt64) (name : CString)
    (entry : Diropargs3) : (Request.lookup parent name).SparesName object entry :=
  fun _ hmem ↦ by cases hmem

/-- A lookup gives the number of the object that the name stands for. -/
theorem lookup_bound {ino : UInt64} (hcoherent : Coherent reached.1)
    (hbinds : (nameView reached).Binds ⟨dir.handle, name⟩ object ino)
    (hlookup : ServedStep plat nameServer reached ⟨reached.1, .lookup parent name, trace'⟩ last)
    (hdir : reached.1.identity parent = some dir)
    (hreply : last.1.replies = reached.1.replies ++ [.entry param]) : param.ino = ino := by
  obtain ⟨hcoherent', hstep⟩ := hlookup.nameStep hcoherent
  obtain ⟨object', hfound⟩ := hstep.binds_entered hdir rfl hreply rfl
  have hkept := hbinds.step hstep (lookup_sparesName _ parent name _)
  cases hfound.names_eq.symm.trans hkept.names_eq
  exact identity_inj hcoherent' hfound.object_eq hkept.object_eq

/-- **A name keeps its number.**  After an entry for a name, and any requests that leave the name
alone, a lookup of the name that succeeds gives the same number. -/
theorem name_keeps_number (hcoherent : Coherent daemon) (hdir : daemon.identity parent = some dir)
    (hfirst : ServedStep plat nameServer (daemon, names) ⟨daemon, request, trace⟩ middle)
    (hasks : request.asks = some (parent, name))
    (hreply : middle.1.replies = daemon.replies ++ [reply]) (hentered : reply.entered = some param)
    (hrun : Run (ServedStep plat nameServer) middle moments reached)
    (hspares : ∀ moment ∈ moments,
      moment.request.SparesName moment.before.identity ⟨dir.handle, name⟩)
    (hlookup : ServedStep plat nameServer reached ⟨reached.1, .lookup parent name, trace'⟩ last)
    (hreply' : last.1.replies = reached.1.replies ++ [.entry param']) :
    param'.ino = param.ino := by
  obtain ⟨hcoherent', hstep⟩ := hfirst.nameStep hcoherent
  obtain ⟨object, hbinds⟩ := hstep.binds_entered hdir hasks hreply hentered
  obtain ⟨hcoherent'', hnames, hobjects⟩ := names_eq_of_spares hcoherent' hrun hspares
  have hbinds' : (nameView reached).Binds ⟨dir.handle, name⟩ object param.ino :=
    hbinds.mono hnames hobjects
  exact lookup_bound hcoherent'' hbinds' hlookup (hobjects _ _ (hstep.object_eq _ _ hdir)) hreply'

/-- **A removed name is not found.**  After a removal that the kernel was told about, and any
requests that leave the name alone, no lookup of the name succeeds. -/
theorem removed_name_not_found (hcoherent : Coherent daemon)
    (hdir : daemon.identity parent = some dir)
    (hremove : ServedStep plat nameServer (daemon, names) ⟨daemon, request, trace⟩ middle)
    (hremoves : request.removes = some (parent, name))
    (hreply : middle.1.replies = daemon.replies ++ [.err 0])
    (hrun : Run (ServedStep plat nameServer) middle moments reached)
    (hspares : ∀ moment ∈ moments,
      moment.request.SparesName moment.before.identity ⟨dir.handle, name⟩)
    (hlookup : ServedStep plat nameServer reached ⟨reached.1, .lookup parent name, trace'⟩ last) :
    last.1.replies ≠ reached.1.replies ++ [.entry param] := by
  intro hreply'
  obtain ⟨hcoherent', hstep⟩ := hremove.nameStep hcoherent
  obtain ⟨entry, hentry, hnames⟩ := hstep.removed parent name hremoves hreply
  cases hentry.symm.trans (NameView.entry_eq hdir name)
  obtain ⟨hcoherent'', hkept, hobjects⟩ := names_eq_of_spares hcoherent' hrun hspares
  obtain ⟨-, hstep'⟩ := hlookup.nameStep hcoherent''
  obtain ⟨object, hfound⟩ := hstep'.binds_entered (hobjects _ _ (hstep.object_eq _ _ hdir)) rfl
    hreply' rfl
  have hgone : (nameView middle).names ⟨dir.handle, name⟩ = none := by
    rw [hnames, Function.update_self]
  have hnone : (nameView last).names ⟨dir.handle, name⟩ = none :=
    ((hstep'.names_eq (lookup_sparesName _ parent name _)).trans hkept).trans hgone
  cases hfound.names_eq.symm.trans hnone

/-- **A new name has the number of the old one.**  After an entry for a name, a `rename` of the name
or a `link` to the number that the kernel was told about, and any requests that leave the name alone
until then and the new one afterwards, a lookup of the new name that succeeds gives the same
number. -/
theorem new_name_keeps_number (hcoherent : Coherent daemon)
    (hdir : daemon.identity parent = some dir)
    (hfirst : ServedStep plat nameServer (daemon, names) ⟨daemon, request, trace⟩ middle)
    (hasks : request.asks = some (parent, name))
    (hreply : middle.1.replies = daemon.replies ++ [reply]) (hentered : reply.entered = some param)
    (hrun : Run (ServedStep plat nameServer) middle moments reached)
    (hspares : ∀ moment ∈ moments,
      moment.request.SparesName moment.before.identity ⟨dir.handle, name⟩)
    (hnewdir : reached.1.identity newparent = some newdir)
    (hmove : ServedStep plat nameServer reached ⟨reached.1, request', trace'⟩ moved)
    (hgives : request'.GivesName param.ino parent name newparent newname reply')
    (hmoved : moved.1.replies = reached.1.replies ++ [reply'])
    (hrun' : Run (ServedStep plat nameServer) moved moments' found)
    (hspares' : ∀ moment ∈ moments',
      moment.request.SparesName moment.before.identity ⟨newdir.handle, newname⟩)
    (hlookup : ServedStep plat nameServer found ⟨found.1, .lookup newparent newname, trace₂⟩ last)
    (hreply' : last.1.replies = found.1.replies ++ [.entry param']) : param'.ino = param.ino := by
  obtain ⟨hcoherent₁, hstep₁⟩ := hfirst.nameStep hcoherent
  obtain ⟨object, hbinds₁⟩ := hstep₁.binds_entered hdir hasks hreply hentered
  obtain ⟨hcoherent₂, hnames, hobjects⟩ := names_eq_of_spares hcoherent₁ hrun hspares
  have hbinds₂ : (nameView reached).Binds ⟨dir.handle, name⟩ object param.ino :=
    hbinds₁.mono hnames hobjects
  obtain ⟨hcoherent₃, hstep₃⟩ := hmove.nameStep hcoherent₂
  have hbinds₃ := hbinds₂.newName hgives hstep₃ (hobjects _ _ (hstep₁.object_eq _ _ hdir)) hnewdir
    hmoved
  obtain ⟨hcoherent₄, hnames', hobjects'⟩ := names_eq_of_spares hcoherent₃ hrun' hspares'
  have hbinds₄ : (nameView found).Binds ⟨newdir.handle, newname⟩ object param.ino :=
    hbinds₃.mono hnames' hobjects'
  exact lookup_bound hcoherent₄ hbinds₄ hlookup (hobjects' _ _ (hstep₃.object_eq _ _ hnewdir))
    hreply'

end Bound

theorem linkHandle_fits : [(9 : UInt8)].length ≤ 64 := by
  decide

/-- The events of a lookup that finds the link. -/
def foundTrace (name : CString) : Trace :=
  [⟨.call (.lookup ⟨[0], name⟩), RpcOutcome.done (.ok ⟨⟨[9], linkHandle_fits⟩, some plainAttr⟩)⟩]

/-- The events of a rename in the root directory. -/
def renameTrace (name newname : CString) : Trace :=
  [⟨.call (.rename ⟨[0], name⟩ ⟨[0], newname⟩), RpcOutcome.done (.ok ())⟩]

/-- The events of a removal in the root directory. -/
def removeTrace (name : CString) : Trace :=
  [⟨.call (.remove ⟨[0], name⟩), RpcOutcome.done (.ok ())⟩]

/-- The events of a lookup that finds nothing. -/
def missedTrace (name : CString) : Trace :=
  [⟨.call (.lookup ⟨[0], name⟩), RpcOutcome.done (.fail 2 (by decide))⟩]

theorem oneName_self (name : CString) : oneName name ⟨[0], name⟩ = some rootLink :=
  Function.update_self _ _ _

theorem oneName_remove (name : CString) :
    Function.update (oneName name) ⟨[0], name⟩ none = noNames := by
  rw [oneName, Function.update_idem]
  exact Function.update_eq_self _ _

theorem oneName_move {name newname : CString} (hne : newname ≠ name) :
    (oneName name).move ⟨[0], name⟩ ⟨[0], newname⟩ = oneName newname := by
  have hentry : (⟨[0], newname⟩ : Diropargs3) ≠ ⟨[0], name⟩ :=
    fun heq ↦ hne (Diropargs3.mk.inj heq).2
  have hother : oneName name ⟨[0], newname⟩ = none := Function.update_of_ne hentry _ _
  rw [NameTable.move, oneName_self, hother, if_neg (Option.some_ne_none _), oneName_remove]
  rfl

theorem gives_found (name : CString) :
    nameServer.Gives (oneName name) (foundTrace name) (oneName name) :=
  ⟨_, ⟨rfl, rootLink, oneName_self name, rootLink_isNamed⟩, rfl⟩

theorem gives_rename {name newname : CString} (hne : newname ≠ name) :
    nameServer.Gives (oneName name) (renameTrace name newname) (oneName newname) :=
  ⟨_, .inl (oneName_move hne).symm, rfl⟩

theorem gives_remove (name : CString) :
    nameServer.Gives (oneName name) (removeTrace name) noNames :=
  ⟨_, .inl (oneName_remove name).symm, rfl⟩

theorem gives_missed (name : CString) : nameServer.Gives noNames (missedTrace name) noNames :=
  ⟨_, rfl, rfl⟩

/-- The link is made, found, renamed, found again and removed, and then not found any more. -/
theorem exists_name_steps : ∃ (made : Daemon) (param : FuseEntryParam),
    ServedStep linuxHost nameServer (mountedCache, noNames)
      ⟨mountedCache, .symlink [116] 1 [108], symlinkTrace⟩ (made, oneName [108]) ∧
    made.replies = mountedCache.replies ++ [.entry param] ∧
    ∃ (found : Daemon) (param' : FuseEntryParam),
    ServedStep linuxHost nameServer (made, oneName [108])
      ⟨made, .lookup 1 [108], foundTrace [108]⟩ (found, oneName [108]) ∧
    found.replies = made.replies ++ [.entry param'] ∧
    ∃ renamed : Daemon,
    ServedStep linuxHost nameServer (found, oneName [108])
      ⟨found, .rename 1 [108] 1 [109] 0, renameTrace [108] [109]⟩ (renamed, oneName [109]) ∧
    renamed.replies = found.replies ++ [.err 0] ∧
    ∃ (again : Daemon) (param'' : FuseEntryParam),
    ServedStep linuxHost nameServer (renamed, oneName [109])
      ⟨renamed, .lookup 1 [109], foundTrace [109]⟩ (again, oneName [109]) ∧
    again.replies = renamed.replies ++ [.entry param''] ∧
    ∃ removed : Daemon,
    ServedStep linuxHost nameServer (again, oneName [109])
      ⟨again, .unlink 1 [109], removeTrace [109]⟩ (removed, noNames) ∧
    removed.replies = again.replies ++ [.err 0] ∧
    ∃ missed : Daemon,
    ServedStep linuxHost nameServer (removed, noNames)
      ⟨removed, .lookup 1 [109], missedTrace [109]⟩ (missed, noNames) := by
  have hserved {request : Request} {daemon daemon' : Daemon} {names names' : NameTable}
      {trace : Trace}
      (hpath : ((handle linuxHost 0 request).run daemon).Path trace (.done () daemon'))
      (hgives : nameServer.Gives names trace names') :
      ServedStep linuxHost nameServer (daemon, names) ⟨daemon, request, trace⟩ (daemon', names') :=
    .mk hpath hgives
  have hrenamed : nameServer.Gives _ (renameTrace [108] [109]) _ := gives_rename (by decide)
  refine ⟨_, _, hserved ⟨_, _, rfl, true, _, rfl, rfl, rfl⟩ gives_symlink_name, rfl, _, _,
    hserved ⟨_, _, rfl, rfl, rfl⟩ (gives_found [108]), rfl, ?_⟩
  refine ⟨_, hserved ⟨_, _, rfl, rfl, rfl⟩ hrenamed, rfl, _, _,
    hserved ⟨_, _, rfl, rfl, rfl⟩ (gives_found [109]), rfl, ?_⟩
  exact ⟨_, hserved ⟨_, _, rfl, rfl, rfl⟩ (gives_remove [109]), rfl, _,
    hserved ⟨_, _, rfl, rfl, rfl⟩ (gives_missed [109])⟩

/-- The link has the same number when it is looked up. -/
theorem name_keeps_number_link : ∃ (made found : Daemon) (param param' : FuseEntryParam),
    ServedStep linuxHost nameServer (mountedCache, noNames)
      ⟨mountedCache, .symlink [116] 1 [108], symlinkTrace⟩ (made, oneName [108]) ∧
    made.replies = mountedCache.replies ++ [.entry param] ∧
    ServedStep linuxHost nameServer (made, oneName [108])
      ⟨made, .lookup 1 [108], foundTrace [108]⟩ (found, oneName [108]) ∧
    found.replies = made.replies ++ [.entry param'] ∧ param'.ino = param.ino := by
  obtain ⟨made, param, hmade, hentry, found, param', hfound, hentry', -⟩ := exists_name_steps
  exact ⟨made, found, param, param', hmade, hentry, hfound, hentry',
    name_keeps_number mounted_mountedCache.coherent rfl hmade rfl hentry rfl Run.nil
      (List.forall_mem_nil _) hfound hentry'⟩

/-- It has the same number under its new name. -/
theorem new_name_keeps_number_link : ∃ (made found renamed again : Daemon)
    (param param' : FuseEntryParam),
    ServedStep linuxHost nameServer (mountedCache, noNames)
      ⟨mountedCache, .symlink [116] 1 [108], symlinkTrace⟩ (made, oneName [108]) ∧
    made.replies = mountedCache.replies ++ [.entry param] ∧
    ServedStep linuxHost nameServer (found, oneName [108])
      ⟨found, .rename 1 [108] 1 [109] 0, renameTrace [108] [109]⟩ (renamed, oneName [109]) ∧
    ServedStep linuxHost nameServer (renamed, oneName [109])
      ⟨renamed, .lookup 1 [109], foundTrace [109]⟩ (again, oneName [109]) ∧
    again.replies = renamed.replies ++ [.entry param'] ∧ param'.ino = param.ino := by
  obtain ⟨made, param, hmade, hentry, found, -, hfound, -, renamed, hrenamed, hreply, again, param',
    hagain, hentry', -⟩ := exists_name_steps
  obtain ⟨hcoherent, hstep⟩ := hmade.nameStep mounted_mountedCache.coherent
  have hroot := (hfound.nameStep hcoherent).2.object_eq 1 _ (hstep.object_eq 1 _ rfl)
  exact ⟨made, found, renamed, again, param, param', hmade, hentry, hrenamed, hagain, hentry',
    new_name_keeps_number mounted_mountedCache.coherent rfl hmade rfl hentry rfl
      (Run.nil.snoc hfound) (List.forall_mem_singleton.mpr (lookup_sparesName _ _ _ _)) hroot
      hrenamed (.renamed 0) hreply Run.nil (List.forall_mem_nil _) hagain hentry'⟩

/-- It is not found when it has been removed. -/
theorem removed_name_not_found_link : ∃ again removed missed : Daemon,
    ServedStep linuxHost nameServer (again, oneName [109])
      ⟨again, .unlink 1 [109], removeTrace [109]⟩ (removed, noNames) ∧
    removed.replies = again.replies ++ [.err 0] ∧
    ServedStep linuxHost nameServer (removed, noNames)
      ⟨removed, .lookup 1 [109], missedTrace [109]⟩ (missed, noNames) ∧
    ∀ param, missed.replies ≠ removed.replies ++ [.entry param] := by
  obtain ⟨made, -, hmade, -, found, -, hfound, -, renamed, hrenamed, -, again, -, hagain, -,
    removed, hremoved, hreply, missed, hmissed⟩ := exists_name_steps
  obtain ⟨hcoherent₁, hstep₁⟩ := hmade.nameStep mounted_mountedCache.coherent
  obtain ⟨hcoherent₂, hstep₂⟩ := hfound.nameStep hcoherent₁
  obtain ⟨hcoherent₃, hstep₃⟩ := hrenamed.nameStep hcoherent₂
  obtain ⟨hcoherent₄, hstep₄⟩ := hagain.nameStep hcoherent₃
  have hroot := hstep₄.object_eq 1 _ (hstep₃.object_eq 1 _ (hstep₂.object_eq 1 _
    (hstep₁.object_eq 1 _ rfl)))
  exact ⟨again, removed, missed, hremoved, hreply, hmissed, fun _ ↦
    removed_name_not_found hcoherent₄ hroot hremoved rfl hreply Run.nil (List.forall_mem_nil _)
      hmissed⟩

end NfsFuse
