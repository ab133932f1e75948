import NfsFuse.Fuse.Footprints
import NfsFuse.Fuse.ObjectReplies
import NfsFuse.Fuse.Serving

/-!
# Lookup counts and the lifetime of inodes

Two expectations about the count in `private`: an inode whose count falls to 0 is taken out of the
tables and destroyed, and a created object starts with count 0.
-/

namespace NfsFuse

open Lib

/-! ## Reclamation -/

/-- The inode is in one of the tables. -/
def Daemon.Tabled (daemon : Daemon) (index : ℕ) : Prop :=
  ∃ bucket, index ∈ daemon.sb.idTable.chain bucket ∨ index ∈ daemon.sb.fhTable.chain bucket

/-- The request brings the lookup count of an inode other than the root to 0. -/
def Drains (daemon : Daemon) (request : Request) (index : ℕ) : Prop :=
  ∃ ino nlookup, request = .forget ino nlookup ∧ ino ≠ 1 ∧ daemon.findIno ino = some index ∧
    nlookup = (daemon.inode index).priv

/-- The inode has left both tables, so that neither its number nor its handle finds it, and has been
destroyed once. -/
structure Reclaimed (daemon daemon' : Daemon) (index : ℕ) : Prop where
  not_tabled : ¬ daemon'.Tabled index
  findIno_eq : daemon'.findIno (daemon.inode index).ino = none
  findFile_ne : ∀ fh fattr, daemon'.findFile fh fattr ≠ some index
  count_eq : daemon'.freed.count index = daemon.freed.count index + 1

/-- No reachable state has destroyed an inode: `i_count` starts at 0, so that no `hsfs_iput` brings
it there. -/
theorem not_reclaimed {daemon daemon' : Daemon} (h : Coherent daemon') (index : ℕ) :
    ¬ Reclaimed daemon daemon' index := by
  intro hreclaimed
  have hcount := hreclaimed.count_eq
  rw [h.freed_nil] at hcount
  exact absurd hcount (Nat.succ_ne_zero _).symm

/-- In every reachable state the tables hold inodes that have not been destroyed, and a request
reclaims the inodes whose count it brings to 0 exactly if there are none. -/
theorem reclamation_iff (plat : Platform) (session : Session)
    (hrun : Session.Run plat (fun _ _ _ ↦ True) session) :
    (∀ index, session.daemon.Tabled index → index ∉ session.daemon.freed) ∧
    ∀ request trace daemon', session.Answer plat request trace (.done () daemon') →
      ((∀ index, Drains session.daemon request index → Reclaimed session.daemon daemon' index) ↔
        ∀ index, ¬ Drains session.daemon request index) := by
  have hserving := hrun.serving
  refine ⟨fun index _ ↦ ?_, ?_⟩
  · rw [hserving.coherent.freed_nil]
    exact List.not_mem_nil
  · rintro request trace daemon' ⟨fuel, hpath⟩
    have hkept := kept_handle plat fuel request _ _ _ _ hpath
    have hserving' := (Serving.kept ⟨hserving.coherent.setReplies [], hserving.root_cached⟩) hkept
    exact forall_congr' fun index ↦ imp_iff_not (not_reclaimed hserving'.coherent index)

/-- The session after a file has been looked up. -/
theorem foundSession_run : Session.Run linuxHost (fun _ _ _ ↦ True)
    (initialSession.after (.lookup 1 [102]) foundDaemon) :=
  (initialSession_run fun _ _ _ ↦ True).step (Session.legal_of_forgotten_eq_zero rfl) trivial
    foundDaemon_answer

/-- A file has been looked up twice, and one of the two references is forgotten. -/
theorem reclamation_partly_forgotten :
    ∃ session daemon', Session.Run linuxHost (fun _ _ _ ↦ True) session ∧
    session.Legal (.forget 2 1) ∧ session.Answer linuxHost (.forget 2 1) [] (.done () daemon') ∧
    (session.daemon.inode 1).priv = 2 ∧ (daemon'.inode 1).priv = 1 ∧
    (∀ index, Drains session.daemon (.forget 2 1) index → Reclaimed session.daemon daemon' index) ∧
    ∀ index, daemon'.Tabled index → index ∉ daemon'.freed := by
  obtain ⟨twice, hagain, hfind, hpriv, hkernel, daemon', hforget, hleft⟩ : ∃ twice,
      (initialSession.after (.lookup 1 [102]) foundDaemon).Answer linuxHost (.lookup 1 [102])
        (fileFound.take 1) (.done () twice) ∧
      twice.findIno 2 = some 1 ∧ (twice.inode 1).priv = 2 ∧ twice.given.count 2 = 1 ∧
      ∃ daemon', ((handle linuxHost 0 (.forget 2 1)).run (twice.setReplies [])).Path []
        (.done () daemon') ∧ (daemon'.inode 1).priv = 1 :=
    ⟨_, ⟨0, _, _, rfl, rfl, rfl⟩, rfl, rfl, rfl, _, ⟨rfl, rfl⟩, rfl⟩
  have hrun := foundSession_run.step (Session.legal_of_forgotten_eq_zero rfl) trivial hagain
  have hlegal : Session.Legal ((initialSession.after (.lookup 1 [102]) foundDaemon).after
      (.lookup 1 [102]) twice) (.forget 2 1) := by
    intro ino
    by_cases hino : ino = 2
    · subst hino
      exact Nat.le_sub_of_add_le (by rw [hkernel]; decide)
    · exact (if_neg hino).le.trans (Nat.zero_le _)
  have hlast := hrun.step hlegal trivial ⟨0, hforget⟩
  refine ⟨_, daemon', hrun, hlegal, ⟨0, hforget⟩, hpriv, hleft, ?_,
    (reclamation_iff linuxHost _ hlast).1⟩
  refine ((reclamation_iff linuxHost _ hrun).2 _ _ _ ⟨0, hforget⟩).mpr fun index hdrains ↦ ?_
  obtain ⟨ino, nlookup, heq, -, hcached, hcount⟩ := hdrains
  cases heq
  cases hcached.symm.trans hfind
  cases hcount.trans hpriv

/-- The only reference to a file is forgotten, and the file stays in the tables. -/
theorem forgotten_not_reclaimed :
    ∃ session daemon', Session.Run linuxHost (fun _ _ _ ↦ True) session ∧
    session.Legal (.forget 2 1) ∧ session.Answer linuxHost (.forget 2 1) [] (.done () daemon') ∧
    Drains session.daemon (.forget 2 1) 1 ∧ daemon'.findIno 2 = some 1 ∧
    ¬ Reclaimed session.daemon daemon' 1 := by
  refine ⟨_, _, foundSession_run, ?_, ⟨0, rfl, rfl⟩, ⟨2, 1, rfl, by decide, rfl, rfl⟩, rfl, ?_⟩
  · intro ino
    by_cases hino : ino = 2
    · subst hino
      decide
    · exact (if_neg hino).le.trans (Nat.zero_le _)
  · intro hreclaimed
    cases hreclaimed.count_eq

/-! ## The assertion after a creation -/

/-- The assertion that a created object is not referenced has not failed. -/
def AssertionHolds (ending : Ending Fault Daemon Unit) : Prop :=
  ∀ daemon, ending ≠ .crashed (.assertFailed .refCreate) daemon

/-- Everything but that assertion. -/
def uncreatedParts : Footprint EnvOp Fault Change where
  faults reason := reason ≠ .assertFailed .refCreate
  ops _ := True
  labels _ := True

theorem uncreatedCalls : CallParts uncreatedParts where
  undefined := nofun
  outOfFuel := nofun
  errPtr := nofun
  malloc _ _ := trivial
  alloc := trivial
  cache _ _ := trivial
  call _ := trivial
  refresh _ _ := trivial
  super _ := trivial

theorem assertionHolds_crashed {reason : Fault} (hne : reason ≠ .assertFailed .refCreate)
    (daemon : Daemon) : AssertionHolds (.crashed reason daemon) := by
  intro daemon' heq
  injection heq with heq
  exact hne heq

theorem assertionHolds_done (daemon : Daemon) : AssertionHolds (.done () daemon) := fun _ ↦ nofun

section Creations

variable {plat : Platform} {daemon : Daemon} {trace : Trace} {ending : Ending Fault Daemon Unit}

/-- The end of the creating handlers. -/
theorem replyCreated_assertion_iff {excused : Trace → Prop} {front : Trace} {err : ℤ}
    {new : InodePtr} {daemon₁ : Daemon}
    (hrun : ObjectRun excused daemon front (.done (err, new) daemon₁))
    {success : FuseEntryParam → FuseReply}
    (hpath : ((replyCreated err new success).run daemon₁).Path trace ending) :
    trace = [] ∧ (AssertionHolds ending ↔
      (Acquired daemon front → excused front ∨ Unreferenced daemon front)) := by
  unfold replyCreated at hpath
  cases hrun with
  | refused hne hacquired hsafe hreplies =>
    rw [if_pos hne] at hpath
    obtain ⟨rfl, rfl⟩ := hpath
    exact ⟨rfl, iff_of_true (assertionHolds_done _) fun _ ↦ hsafe⟩
  | @acquired index _ hacquired hnot hcoherent hlt hpriv hreplies =>
    rw [if_neg (not_not.mpr rfl)] at hpath
    dsimp only at hpath
    rw [Program.bind_run, countCreated_obj_run hcoherent hlt] at hpath
    split_ifs at hpath with hzero
    · obtain ⟨rfl, rfl⟩ := hpath
      exact ⟨rfl, iff_of_true (assertionHolds_done _) fun _ ↦ Or.inr (hpriv.mp hzero)⟩
    · obtain ⟨rfl, rfl⟩ := hpath
      refine ⟨rfl, iff_of_false (fun h ↦ h _ rfl) fun h ↦ ?_⟩
      exact (h hacquired).elim hnot fun h' ↦ hzero (hpriv.mpr h')
  | poisoned hnot =>
    rw [if_neg (not_not.mpr rfl)] at hpath
    obtain ⟨rfl, rfl⟩ := hpath
    exact ⟨rfl, iff_of_true (fun _ ↦ nofun) fun h ↦ absurd h hnot⟩

/-- A creating handler behind `hsfs_ilookup`. -/
theorem created_assertion_iff {excused : Trace → Prop} {procedure : Prog (ℤ × InodePtr)}
    (hwithin : procedure.Within Change.apply uncreatedParts)
    (hprocedure : ∀ trace ending, (procedure.run daemon).Path trace ending →
      ObjectRun excused daemon trace ending ∨
        ((∃ reason daemon', ending = .crashed reason daemon') ∧ Unreferenced daemon trace))
    {success : FuseEntryParam → FuseReply}
    (hpath : ((procedure >>= fun result ↦ replyCreated result.1 result.2 success).run daemon).Path
      trace ending) :
    AssertionHolds ending ↔
      (Acquired daemon trace → excused trace ∨ Unreferenced daemon trace) := by
  rcases Program.path_bind.mp hpath with ⟨⟨err, new⟩, daemon₁, front, rest, hfirst, hrest, rfl⟩ |
    ⟨reason, daemon₁, hcrash, rfl⟩
  · rcases hprocedure _ _ hfirst with hrun | ⟨⟨_, _, heq⟩, -⟩
    · obtain ⟨rfl, hiff⟩ := replyCreated_assertion_iff hrun hrest
      rw [List.append_nil]
      exact hiff
    · cases heq
  · refine iff_of_true (assertionHolds_crashed (hwithin.faults hcrash) _) fun hacquired ↦ ?_
    rcases hprocedure _ _ hcrash with hrun | ⟨-, hunreferenced⟩
    · cases hrun with
      | stuck hnot => exact absurd hacquired hnot
    · exact Or.inr hunreferenced

/-- A handler that creates nothing in a directory it has not cached. -/
theorem assertion_ilookup_iff (hcoherent : Coherent daemon) {ino : UInt64} {found : ℕ → Prog Unit}
    {missing : Prog Unit} {excused : Trace → Prop}
    (hfound : ∀ index, ((found index).run daemon).Path trace ending → (AssertionHolds ending ↔
      (Acquired daemon trace → excused trace ∨ Unreferenced daemon trace)))
    (hpath : ((hsfsIlookup ino >>= fun ptr ↦ match ptr with
      | .obj index => found index
      | _ => missing).run daemon).Path trace ending)
    (hmissing : (missing.run daemon).Path trace ending →
      trace = [] ∧ ∃ daemon', ending = .done () daemon') :
    AssertionHolds ending ↔
      (Acquired daemon trace → excused trace ∨ Unreferenced daemon trace) := by
  rcases hcoherent.path_ilookup hpath with ⟨-, hpath⟩ | ⟨index, -, hpath⟩
  · obtain ⟨rfl, daemon', rfl⟩ := hmissing hpath
    exact iff_of_true (assertionHolds_done daemon') fun _ ↦ Or.inr nofun
  · exact hfound index hpath

end Creations

/-- The handlers that assert that the object they have created is not referenced. -/
def Request.creates : Request → Bool
  | .create .. | .mkdir .. | .mknod .. | .symlink .. => true
  | _ => false

/-- The second step of an exclusive creation has failed, so that no entry is counted. -/
def Request.Excused : Request → Trace → Prop
  | .create _ _ mode flags _ _, trace => SetattrFailed (createMode mode flags) trace
  | _, _ => False

/-- The object that the server reports as created, if an inode is obtained for it at all, is one to
which no reference is held. -/
def CreatesFresh (daemon : Daemon) (request : Request) (trace : Trace) : Prop :=
  Acquired daemon trace → request.Excused trace ∨ Unreferenced daemon trace

/-- In every reachable state the assertion of a creating handler holds exactly if the server reports
an object to which no reference is held. -/
theorem creation_assertion_iff (plat : Platform) (session : Session)
    (hrun : Session.Run plat (fun _ _ _ ↦ True) session) (request : Request)
    (hcreates : request.creates = true) (trace : Trace) (ending : Ending Fault Daemon Unit)
    (hanswer : session.Answer plat request trace ending) :
    AssertionHolds ending ↔ CreatesFresh session.daemon request trace := by
  have hserving := hrun.serving
  have hcoherent := hserving.coherent.setReplies []
  have hpos : 0 < (session.daemon.setReplies []).heap.length := hserving.length_pos
  obtain ⟨fuel, hpath⟩ := hanswer
  cases request with
  | mkdir parent name mode =>
    refine assertion_ilookup_iff hcoherent (fun index hfound ↦ ?_) hpath fun h ↦ ⟨h.1, _, h.2⟩
    exact created_assertion_iff (within_hsiNfs3Mkdir uncreatedCalls plat index name mode)
      (fun _ _ hpath ↦ Or.inl (hsiNfs3Mkdir_objectRun hcoherent hpos hpath)) hfound
  | symlink link parent name =>
    refine assertion_ilookup_iff hcoherent (fun index hfound ↦ ?_) hpath fun h ↦ ⟨h.1, _, h.2⟩
    exact created_assertion_iff (within_hsiNfs3Symlink uncreatedCalls plat index _ _)
      (fun _ _ hpath ↦ Or.inl (hsiNfs3Symlink_objectRun hcoherent hpos hpath)) hfound
  | mknod parent name mode rdev =>
    refine assertion_ilookup_iff hcoherent (fun index hfound ↦ ?_) hpath fun h ↦ ⟨h.1, _, h.2⟩
    refine created_assertion_iff (within_hsiNfs3Mknod uncreatedCalls plat index name mode rdev)
      (fun _ _ hpath ↦ ?_) hfound
    rcases hsiNfs3Mknod_objectRun hcoherent hpos hpath with ⟨-, hobject⟩ | ⟨-, rfl, rfl⟩
    · exact Or.inl hobject
    · exact Or.inr ⟨⟨_, _, rfl⟩, nofun⟩
  | create parent name mode flags uid gid =>
    refine assertion_ilookup_iff hcoherent (fun index hfound ↦ ?_) hpath fun h ↦ ⟨h.1, _, h.2⟩
    obtain ⟨daemon₁, hcoherent₁, hgrows, hlength, hcreate⟩ := hcoherent.setOwner_bind hfound
    have hiff := created_assertion_iff (within_hsiNfs3Create uncreatedCalls plat index name _)
      (fun _ _ hpath ↦ Or.inl (hsiNfs3Create_objectRun hcoherent₁
        (hpos.trans_le hgrows.length_le) hpath)) hcreate
    rw [acquired_congr hlength, hcoherent.unreferenced_congr hcoherent₁ hgrows hlength] at hiff
    exact hiff
  | _ => cases hcreates

/-- The kernel creates the file `g` in the root. -/
def createG : Request := .create 1 [103] 0o644 0 0 0

/-- The server creates it, or opens the one that is there, and reports the object of `fileFound`. -/
def createdFile : Event EnvAns :=
  ⟨.call (.create ⟨[0], [103]⟩ (.unchecked ⟨some 0o644, some 0, some 0, none, .setToServerTime,
    .setToServerTime⟩)), RpcOutcome.done (.ok ⟨some ⟨[7], fileHandle_fits⟩, some plainAttr⟩)⟩

/-- An object that has not been cached before. -/
theorem creation_assertion_initial : ∃ daemon',
    Session.Run linuxHost (fun _ _ _ ↦ True) initialSession ∧
    initialSession.Answer linuxHost createG [createdFile, ⟨.malloc .nfsInode, true⟩]
      (.done () daemon') ∧
    CreatesFresh initialSession.daemon createG [createdFile, ⟨.malloc .nfsInode, true⟩] := by
  have hrun := initialSession_run fun _ _ _ ↦ True
  have hanswer : ∃ daemon', initialSession.Answer linuxHost createG
      [createdFile, ⟨.malloc .nfsInode, true⟩] (.done () daemon') :=
    ⟨_, 0, _, _, rfl, true, _, rfl, rfl, rfl⟩
  obtain ⟨daemon', hanswer⟩ := hanswer
  exact ⟨daemon', hrun, hanswer,
    (creation_assertion_iff linuxHost initialSession hrun createG rfl _ _
    hanswer).mp (assertionHolds_done daemon')⟩

/-- A file has been looked up under one name, another client has linked it to `g`, and `g` is then
created without `O_EXCL`. -/
theorem created_link_asserts : ∃ session daemon',
    Session.Run linuxHost (fun _ _ _ ↦ True) session ∧ session.Legal createG ∧
    session.Answer linuxHost createG [createdFile] (.crashed (.assertFailed .refCreate) daemon') :=
  ⟨_, _, foundSession_run, Session.legal_of_forgotten_eq_zero rfl, 0, _, _, rfl, rfl, rfl⟩

end NfsFuse
