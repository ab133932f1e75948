import NfsFuse.Fuse.Counting
import NfsFuse.Mount.FillSuper
import NfsFuse.Nfs3.StatRoutes

/-!
# Lookup counts over whole runs

The kernel counts, for every inode number, the references it has been given and has not forgotten;
the daemon keeps its own count in `private`.  A `Session` is a daemon together with the kernel's
counts.  As long as no link is replied with an entry and no counter is full, the daemon's count is
never below the kernel's, so that no request to forget can fail the assertion of
`hsx_fuse_ref_dec`.  `hsx_fuse_link` does not count the entry with which it replies.
-/

namespace NfsFuse

open Lib

/-- The daemon and the number of references the kernel holds to each inode number. -/
structure Session where
  daemon : Daemon
  kernel : UInt64 → ℕ

/-- How many references to an inode number a request takes back. -/
def Request.forgotten : Request → UInt64 → ℕ
  | .forget ino nlookup, other => if other = ino then nlookup.toNat else 0
  | _, _ => 0

namespace Session

/-- The kernel forgets only references that it holds. -/
def Legal (session : Session) (request : Request) : Prop :=
  ∀ ino, request.forgotten ino ≤ session.kernel ino

/-- The session after a request that has left the daemon in the given state, with the replies to
that request. -/
def after (session : Session) (request : Request) (daemon : Daemon) : Session where
  daemon := daemon
  kernel ino := session.kernel ino + daemon.given.count ino - request.forgotten ino

/-- The complete runs of the handler of a request, with the replies to this request only. -/
def Answer (plat : Platform) (session : Session) (request : Request) (trace : Trace)
    (ending : Ending Fault Daemon Unit) : Prop :=
  ∃ fuel, ((handle plat fuel request).run (session.daemon.setReplies [])).Path trace ending

/-- The sessions that are reached from a mounted file system by requests in any order, each of which
meets the condition. -/
inductive Run (plat : Platform) (condition : Session → Request → Trace → Prop) : Session → Prop
  | init {daemon daemon' : Daemon} {trace : Trace} (hmounted : Mounted daemon)
      (hpath : (hsxFuseInit.run daemon).Path trace (.done () daemon')) :
      Run plat condition ⟨daemon', fun ino ↦ if ino = 1 then 1 else 0⟩
  | step {session : Session} {request : Request} {trace : Trace} {daemon' : Daemon}
      (hrun : Run plat condition session) (hlegal : session.Legal request)
      (hcondition : condition session request trace)
      (hanswer : session.Answer plat request trace (.done () daemon')) :
      Run plat condition (session.after request daemon')

/-- An invariant of every step that meets the condition holds in every session of a run. -/
theorem Run.invariant {plat : Platform} {condition : Session → Request → Trace → Prop}
    {inv : Session → Prop}
    (hinit : ∀ daemon trace daemon', Mounted daemon →
      (hsxFuseInit.run daemon).Path trace (.done () daemon') →
      inv ⟨daemon', fun ino ↦ if ino = 1 then 1 else 0⟩)
    (hstep : ∀ session request trace daemon', inv session → session.Legal request →
      condition session request trace → session.Answer plat request trace (.done () daemon') →
      inv (session.after request daemon'))
    {session : Session} (h : Run plat condition session) : inv session := by
  induction h with
  | init hmounted hpath => exact hinit _ _ _ hmounted hpath
  | step _ hlegal hcondition hanswer ih => exact hstep _ _ _ _ ih hlegal hcondition hanswer

end Session

/-! ## The invariant -/

/-- The daemon has counted every reference that the kernel holds. -/
structure Session.Covered (session : Session) : Prop where
  coherent : Coherent session.daemon
  le_priv : ∀ index < session.daemon.heap.length,
    session.kernel (session.daemon.inode index).ino ≤ (session.daemon.inode index).priv.toNat
  known : ∀ ino, session.kernel ino ≠ 0 →
    ∃ index < session.daemon.heap.length, (session.daemon.inode index).ino = ino

/-- `hsx_fuse_init` counts the reference to the root. -/
theorem covered_init {daemon daemon' : Daemon} {trace : Trace} (hmounted : Mounted daemon)
    (hpath : (hsxFuseInit.run daemon).Path trace (.done () daemon')) :
    Session.Covered ⟨daemon', fun ino ↦ if ino = 1 then 1 else 0⟩ := by
  have hlt : 0 < daemon.heap.length := hmounted.length_eq ▸ Nat.one_pos
  have hxchg := hsxFuseRefXchg_obj_run hmounted.coherent 0 1
  rw [hsxFuseInit, Program.get_bind, hmounted.root_eq, Program.bind_run_of_ret hxchg,
    hmounted.priv_eq] at hpath
  cases hpath.2
  have hself := Daemon.inode_setInode_self hlt { daemon.inode 0 with priv := 1 }
  constructor
  · exact hmounted.coherent.setPriv hlt 1
  · intro index hindex
    rw [Daemon.setInode_length, hmounted.length_eq, Nat.lt_one_iff] at hindex
    subst hindex
    dsimp only
    rw [hself, hmounted.ino_eq]
    exact Nat.le_refl 1
  · intro ino hne
    have hino : ino = 1 := by
      by_contra h
      exact hne (if_neg h)
    refine ⟨0, by rwa [Daemon.setInode_length], ?_⟩
    dsimp only
    rw [hself, hino]
    exact hmounted.ino_eq

/-- A step that counts what it gives keeps the daemon's counts above the kernel's. -/
theorem Session.Covered.answered {session : Session} (h : session.Covered) {request : Request}
    {daemon' : Daemon} (hforgotten : request.forgotten = 0)
    (hanswered : Answered session.daemon daemon') : (session.after request daemon').Covered := by
  have hkernel (ino : UInt64) : (session.after request daemon').kernel ino =
      session.kernel ino + daemon'.given.count ino := by
    rw [Session.after, hforgotten]
    rfl
  constructor
  · exact hanswered.coherent
  · intro index hindex
    have hcounted := hanswered.counted index hindex
    rw [hkernel]
    refine le_trans (Nat.add_le_add_right ?_ _) hcounted
    by_cases hold : index < session.daemon.heap.length
    · exact (hanswered.ino_eq index hold) ▸ h.le_priv index hold
    · -- an inode that has just been entered has a number that the kernel has never seen
      refine Nat.le_of_eq
        (Eq.trans ?_ (congrArg UInt64.toNat (Daemon.priv_of_le (not_lt.mp hold))).symm)
      by_contra hne
      obtain ⟨other, hother, hino⟩ := h.known _ hne
      rw [← hanswered.ino_eq other hother] at hino
      have heq := hanswered.coherent.ino_inj (hother.trans_le hanswered.length_le) hindex hino
      exact hold (heq ▸ hother)
  · intro ino hne
    rw [hkernel] at hne
    by_cases hgiven : ino ∈ daemon'.given
    · exact hanswered.known ino hgiven
    · rw [List.count_eq_zero_of_not_mem hgiven] at hne
      obtain ⟨index, hlt, hino⟩ := h.known ino hne
      exact ⟨index, hlt.trans_le hanswered.length_le, (hanswered.ino_eq index hlt).trans hino⟩

/-- Forgetting takes the same number from both counts. -/
theorem Session.Covered.forgot {session : Session} (h : session.Covered) {index : ℕ}
    {ino nlookup : UInt64} (hlt : index < session.daemon.heap.length)
    (hino : (session.daemon.inode index).ino = ino)
    (hle : nlookup ≤ (session.daemon.inode index).priv) :
    (session.after (.forget ino nlookup)
      (((session.daemon.setReplies []).forgot index nlookup).setReplies [.noReply])).Covered := by
  have hkernel (other : UInt64) : (session.after (.forget ino nlookup)
      (((session.daemon.setReplies []).forgot index nlookup).setReplies [.noReply])).kernel other =
        session.kernel other - if other = ino then nlookup.toNat else 0 := rfl
  have hsame (other : ℕ) : ((session.daemon.forgot index nlookup).inode other).ino =
      (session.daemon.inode other).ino := by
    apply Daemon.inode_setInode_proj NfsInode.ino
    rfl
  have hlength : (session.daemon.forgot index nlookup).heap.length = session.daemon.heap.length :=
    Daemon.setInode_length _ _ _
  constructor
  · exact ((h.coherent.setReplies []).forgot hlt nlookup).setReplies _
  · intro other hother
    have hheld := h.le_priv other (hlength ▸ hother)
    rw [hkernel]
    change session.kernel ((session.daemon.forgot index nlookup).inode other).ino - (if
      ((session.daemon.forgot index nlookup).inode other).ino = ino then _ else _) ≤
        ((session.daemon.forgot index nlookup).inode other).priv.toNat
    rw [hsame]
    rcases eq_or_ne other index with rfl | hne
    · rw [if_pos hino, Daemon.forgot, Daemon.inode_setInode_self hlt,
        UInt64.toNat_sub_of_le _ _ hle]
      exact Nat.sub_le_sub_right hheld _
    · rw [Daemon.forgot, Daemon.inode_setInode_ne hne]
      exact (Nat.sub_le _ _).trans hheld
  · intro other hne
    rw [hkernel] at hne
    obtain ⟨cached, hcached, hother⟩ :=
      h.known other (fun hzero ↦ hne (by rw [hzero, Nat.zero_sub]))
    exact ⟨cached, hlength ▸ hcached, (hsame cached).trans hother⟩

theorem Session.Covered.forget {session : Session} (h : session.Covered) {ino nlookup : UInt64}
    {trace : Trace} {daemon' : Daemon}
    (hpath : ((hsxFuseForget ino nlookup).run (session.daemon.setReplies [])).Path trace
      (.done () daemon')) : (session.after (.forget ino nlookup) daemon').Covered := by
  rw [hsxFuseForget_run (h.coherent.setReplies [])] at hpath
  cases hfind : (session.daemon.setReplies []).findIno ino with
  | none =>
    rw [hfind] at hpath
    cases hpath.2
  | some index =>
    obtain ⟨hlt, hino⟩ := ((h.coherent.setReplies []).findIno_eq_some_iff ino index).mp hfind
    rw [hfind] at hpath
    dsimp only at hpath
    split_ifs at hpath with hle hmin
    · cases hpath.2
    · cases hpath.2
      exact h.forgot hlt hino hle
    · cases hpath.2

/-- The answers to a request under which the counts stay in step: no link is replied with an entry,
and there is room for what is found.  Only the inodes that are found need the room.  Which ones
these are is settled by the cache while the reply of `READDIRPLUS` is taken apart, so it is asked of
every inode, for as many references as the replies name objects. -/
def CountSafe (session : Session) (_ : Request) (trace : Trace) : Prop :=
  (∀ event ∈ trace, isLinkEntry event = false) ∧ session.daemon.HasRoom (objectCount trace)

/-- Every handler other than `hsx_fuse_forget` counts what it gives. -/
theorem answered_handle {plat : Platform} {fuel : ℕ} {request : Request} {daemon daemon' : Daemon}
    {trace : Trace} (hcoherent : Coherent daemon) (hreplies : daemon.replies = [])
    (hlink : ∀ event ∈ trace, isLinkEntry event = false)
    (hroom : daemon.HasRoom (objectCount trace))
    (hforget : ∀ ino nlookup, request ≠ .forget ino nlookup)
    (hpath : ((handle plat fuel request).run daemon).Path trace (.done () daemon')) :
    Answered daemon daemon' := by
  have hquiet {program : Prog Unit} (h : program.Respects Quiet)
      (hpath : (program.run daemon).Path trace (.done () daemon')) : Answered daemon daemon' :=
    answered_of_quiet h hcoherent hreplies hpath
  cases request with
  | getattr ino => exact hquiet (quiet_hsxFuseGetattr ino) hpath
  | setattr ino attr toSet => exact hquiet (quiet_hsxFuseSetattr ino attr toSet) hpath
  | lookup parent name => exact answered_hsxFuseLookup hcoherent hreplies hroom hpath
  | forget ino nlookup => exact absurd rfl (hforget ino nlookup)
  | mkdir parent name mode => exact answered_hsxFuseMkdir hcoherent hreplies hpath
  | rmdir parent name => exact hquiet (quiet_hsxFuseRmdir parent name) hpath
  | unlink parent name => exact hquiet (quiet_hsxFuseUnlink parent name) hpath
  | rename parent name newparent newname flags =>
    exact hquiet (quiet_hsxFuseRename parent name newparent newname flags) hpath
  | symlink link parent name => exact answered_hsxFuseSymlink hcoherent hreplies hpath
  | readlink ino => exact hquiet (quiet_hsxFuseReadlink ino) hpath
  | link ino newparent newname => exact answered_hsxFuseLink hcoherent hreplies hlink hpath
  | mknod parent name mode rdev => exact answered_hsxFuseMknod hcoherent hreplies hpath
  | create parent name mode flags uid gid => exact answered_hsxFuseCreate hcoherent hreplies hpath
  | openFile ino => exact hquiet quiet_hsxFuseOpen hpath
  | opendir ino => exact hquiet (quiet_hsxFuseOpendir ino) hpath
  | release ino => exact hquiet quiet_hsxFuseRelease hpath
  | read ino size off => exact hquiet (quiet_hsxFuseRead fuel ino size off) hpath
  | write ino data off directIo =>
    exact hquiet (quiet_hsxFuseWrite fuel ino data off directIo) hpath
  | readdir ino size off => exact hquiet (quiet_hsxFuseReaddir plat ino size off) hpath
  | readdirplus ino size off => exact answered_hsxFuseReaddirPlus hcoherent hreplies hroom hpath
  | access ino mask => exact hquiet (quiet_hsxFuseAccess ino mask) hpath
  | statfs ino => exact hquiet quiet_hsxFuseStatfs hpath
  | getxattr ino name size => exact hquiet (quiet_hsxFuseGetxattr ino name size) hpath
  | setxattr ino name value => exact hquiet (quiet_hsxFuseSetxattr ino name value) hpath

/-- One request keeps the daemon's counts above the kernel's. -/
theorem Session.Covered.step {plat : Platform} {session : Session} (h : session.Covered)
    {request : Request} {trace : Trace} {daemon' : Daemon} (hsafe : CountSafe session request trace)
    (hanswer : session.Answer plat request trace (.done () daemon')) :
    (session.after request daemon').Covered := by
  obtain ⟨fuel, hpath⟩ := hanswer
  by_cases hforget : ∃ ino nlookup, request = .forget ino nlookup
  · obtain ⟨ino, nlookup, rfl⟩ := hforget
    exact h.forget hpath
  · rw [not_exists] at hforget
    have hanswered := answered_handle (h.coherent.setReplies []) rfl hsafe.1 hsafe.2
      (fun ino nlookup heq ↦ hforget ino ⟨nlookup, heq⟩) hpath
    refine h.answered ?_ ⟨hanswered.coherent, hanswered.length_le, hanswered.ino_eq,
      hanswered.counted, hanswered.known⟩
    cases request with
    | forget ino nlookup => exact absurd ⟨nlookup, rfl⟩ (hforget ino)
    | _ => rfl

/-- In every session of a run in which no link is replied with an entry and no counter is full, the
daemon has counted the references that the kernel holds, and no request to forget some of them fails
the assertion of `hsx_fuse_ref_dec`. -/
theorem lookup_counts_covered (plat : Platform) (session : Session)
    (h : Session.Run plat CountSafe session) :
    (∀ index ∈ session.daemon.hashed,
      session.kernel (session.daemon.inode index).ino ≤ (session.daemon.inode index).priv.toNat) ∧
    ∀ ino nlookup trace daemon', session.Legal (.forget ino nlookup) →
      ¬ session.Answer plat (.forget ino nlookup) trace
        (.crashed (.assertFailed .refDec) daemon') := by
  have hcovered : session.Covered :=
    h.invariant (fun _ _ _ ↦ covered_init) fun _ _ _ _ hcovered _ hsafe hanswer ↦
      hcovered.step hsafe hanswer
  refine ⟨fun index hmem ↦
    hcovered.le_priv index ((hcovered.coherent.mem_hashed_iff index).mp hmem), ?_⟩
  rintro ino nlookup trace daemon' hlegal ⟨fuel, hpath⟩
  have hcoherent := hcovered.coherent.setReplies []
  rw [handle, hsxFuseForget_run hcoherent] at hpath
  cases hfind : (session.daemon.setReplies []).findIno ino with
  | none =>
    rw [hfind] at hpath
    cases hpath.2
  | some index =>
    obtain ⟨hlt, hino⟩ := (hcoherent.findIno_eq_some_iff ino index).mp hfind
    have hle : nlookup ≤ ((session.daemon.setReplies []).inode index).priv := by
      have hheld := hlegal ino
      rw [Request.forgotten, if_pos rfl, ← hino] at hheld
      exact UInt64.le_iff_toNat_le.mpr (hheld.trans (hcovered.le_priv index hlt))
    rw [hfind] at hpath
    dsimp only at hpath
    rw [if_pos hle] at hpath
    split_ifs at hpath with hmin
    · cases hpath.2
    · cases hpath.2

/-! ## A link that is not counted -/

/-- The daemon right after a mount. -/
def mountedCache : Daemon := { rootCache with sb := { rootCache.sb with root := .obj 0 } }

theorem mounted_mountedCache : Mounted mountedCache :=
  ⟨coherent_rootCache.congr rfl rfl rfl rfl rfl, rfl, rfl, rfl, rfl⟩

/-- The session right after `hsx_fuse_init`. -/
def initialSession : Session where
  daemon := mountedCache.setInode 0 { mountedCache.inode 0 with priv := 1 }
  kernel ino := if ino = 1 then 1 else 0

theorem initialSession_run (condition : Session → Request → Trace → Prop) :
    Session.Run linuxHost condition initialSession :=
  .init mounted_mountedCache ⟨rfl, rfl⟩

/-- The answers to a lookup of `f`. -/
def fileFound : Trace :=
  [⟨.call (.lookup ⟨[0], [102]⟩), RpcOutcome.done (.ok ⟨⟨[7], fileHandle_fits⟩, some plainAttr⟩)⟩,
    ⟨.malloc .nfsInode, true⟩]

/-- The answers to a link from `f` to `g`. -/
def linkMade : Trace :=
  [⟨.malloc .linkName, true⟩,
    ⟨.call (.link [7] ⟨[0], [103]⟩), RpcOutcome.done (.ok (some plainAttr))⟩,
    ⟨.malloc .entryParam, true⟩]

/-- The daemon after that lookup. -/
def foundDaemon : Daemon :=
  let entered := (initialSession.daemon.setReplies []).enter 7 2
    ((initialSession.daemon.setReplies []).newFile 2 ⟨1, [7]⟩ (postFattr (some plainAttr)))
  let counted := entered.setInode 1 { entered.inode 1 with priv := 1 }
  counted.setReplies [.entry (entryParam counted.sb (counted.inode 1))]

theorem foundDaemon_answer :
    initialSession.Answer linuxHost (.lookup 1 [102]) fileFound (.done () foundDaemon) :=
  ⟨0, _, _, rfl, true, _, rfl, rfl, rfl⟩

/-- The daemon after that link. -/
def linkedDaemon : Daemon :=
  let linked := (foundDaemon.setReplies []).setInode 1
    (nfsRefresh (postFattr (some plainAttr)) (foundDaemon.inode 1)).1
  linked.setReplies [.entry (entryParam linked.sb (linked.inode 1))]

theorem linkedDaemon_answer :
    (initialSession.after (.lookup 1 [102]) foundDaemon).Answer linuxHost (.link 2 1 [103]) linkMade
      (.done () linkedDaemon) :=
  ⟨0, true, _, rfl, _, _, rfl, true, _, rfl, rfl, rfl⟩

/-- A request that forgets nothing is legal. -/
theorem Session.legal_of_forgotten_eq_zero {session : Session} {request : Request}
    (h : request.forgotten = 0) : session.Legal request :=
  fun ino ↦ (congrFun h ino).le.trans (Nat.zero_le _)

/-- After a link the kernel holds two references to a file of which the daemon has counted one, and
forgetting both aborts the daemon. -/
theorem link_not_counted : ∃ session, Session.Run linuxHost (fun _ _ _ ↦ True) session ∧
    (∃ index ∈ session.daemon.hashed,
      (session.daemon.inode index).priv.toNat < session.kernel (session.daemon.inode index).ino) ∧
    session.Legal (.forget 2 2) ∧
    ∃ daemon', session.Answer linuxHost (.forget 2 2) []
      (.crashed (.assertFailed .refDec) daemon') := by
  have hfound := Session.Run.step (initialSession_run fun _ _ _ ↦ True)
    (Session.legal_of_forgotten_eq_zero rfl) trivial foundDaemon_answer
  have hlinked := hfound.step (Session.legal_of_forgotten_eq_zero rfl) trivial linkedDaemon_answer
  refine ⟨_, hlinked, ⟨1, ⟨hashMin 2, by decide⟩, by decide⟩, ?_, _, 0, rfl, rfl⟩
  intro ino
  by_cases hino : ino = 2
  · subst hino
    decide
  · exact (if_neg hino).le.trans (Nat.zero_le _)

/-- A lookup is counted. -/
theorem lookup_counts_covered_found :
    Session.Run linuxHost CountSafe (initialSession.after (.lookup 1 [102]) foundDaemon) ∧
    1 ∈ foundDaemon.hashed ∧
    (initialSession.after (.lookup 1 [102]) foundDaemon).kernel (foundDaemon.inode 1).ino ≤
      (foundDaemon.inode 1).priv.toNat := by
  have hroom : initialSession.daemon.HasRoom (objectCount fileFound) := by
    intro index
    by_cases hindex : index = 0
    · subst hindex
      decide
    · rw [Daemon.priv_of_le (Nat.one_le_iff_ne_zero.mpr hindex)]
      decide
  have hrun := Session.Run.step (initialSession_run CountSafe)
    (Session.legal_of_forgotten_eq_zero rfl) ⟨by decide, hroom⟩ foundDaemon_answer
  have hmem : 1 ∈ foundDaemon.hashed := ⟨hashMin 2, by decide⟩
  exact ⟨hrun, hmem, (lookup_counts_covered linuxHost _ hrun).1 1 hmem⟩

end NfsFuse
