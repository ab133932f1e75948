import NfsFuse.Fuse.ObjectReplies
import NfsFuse.Fuse.ErrorReplies

/-!
# Acknowledged changes

When the server has carried out the change a request asks for, the kernel should hear so.  What the
reply leaves out decides: `setattr` needs the attributes, the creating requests need handle and
attributes of the new object, and only `link` fetches attributes it did not get.
-/

namespace NfsFuse

open Lib

/-- The requests that create, link or change an object, but for an exclusive create. -/
def Request.modifies : Request → Prop
  | .setattr .. | .mkdir .. | .mknod .. | .symlink .. | .link .. => True
  | .create _ _ mode flags _ _ => ¬ isExclusive (createMode mode flags)
  | _ => False

/-- The success reply to such a request. -/
def Request.isSuccess : Request → FuseReply → Prop
  | .setattr .., .attr .. => True
  | .mkdir .., .entry _ | .mknod .., .entry _ | .symlink .., .entry _ | .link .., .entry _ => True
  | .create .., .create _ => True
  | _, _ => False

/-- The server has carried out a modifying call. -/
def isModified : Event EnvAns → Bool
  | ⟨.call (.setattr _ _), .done (.ok _)⟩ => true
  | ⟨.call (.mkdir _ _), .done (.ok _)⟩ => true
  | ⟨.call (.mknod _ _), .done (.ok _)⟩ => true
  | ⟨.call (.symlink _ _ _), .done (.ok _)⟩ => true
  | ⟨.call (.link _ _), .done (.ok _)⟩ => true
  | ⟨.call (.create _ _), .done (.ok _)⟩ => true
  | _ => false

theorem Favourable.rpcErrno {event : Event EnvAns} (h : Favourable event) : RpcErrno event := by
  obtain ⟨op, answer⟩ := event
  cases op with
  | call procedure =>
    obtain ⟨body, rfl⟩ := favourable_call h
    exact rpcErrno_call_iff.mpr fun _ _ ↦ nofun
  | malloc site => trivial
  | host question => trivial

theorem yields_favourable (procedure : Call) :
    (Prog.clntCall procedure).Yields Favourable fun outcome ↦ ∃ body, outcome = .done (.ok body) :=
  @Program.Yields.ask EnvOp EnvAns Fault Daemon Favourable (.call procedure) _ fun _ ↦
    favourable_call

/-- The run ends with one reply, which is of the kind given. -/
def RepliedWith (kind : FuseReply → Prop) (daemon : Daemon) (ending : Ending Fault Daemon Unit) :
    Prop :=
  ∃ daemon' message, ending = .done () daemon' ∧ daemon'.replies = daemon.replies ++ [message] ∧
    kind message

theorem repliedWith_reply_iff {kind : FuseReply → Prop} {daemon daemon₁ : Daemon}
    (hreplies : daemon₁.replies = daemon.replies) {message : FuseReply} {trace : Trace}
    {ending : Ending Fault Daemon Unit}
    (hpath : ((Prog.reply message).run daemon₁).Path trace ending) :
    RepliedWith kind daemon ending ↔ kind message := by
  obtain ⟨rfl, rfl⟩ := hpath
  constructor
  · rintro ⟨daemon', message', heq, hmessage, hkind⟩
    cases heq
    change daemon₁.replies ++ [message] = _ at hmessage
    rw [hreplies] at hmessage
    rwa [List.singleton_injective (List.append_cancel_left hmessage)]
  · intro hkind
    refine ⟨_, message, rfl, ?_, hkind⟩
    change daemon₁.replies ++ [message] = _
    rw [hreplies]

theorem not_repliedWith_crashed {kind : FuseReply → Prop} {daemon daemon' : Daemon}
    {reason : Fault} :
    ¬ RepliedWith kind daemon (.crashed reason daemon') := by
  rintro ⟨_, _, heq, -⟩
  cases heq

section Objects

variable {plat : Platform} {parent : ℕ} {name : CString}

theorem yields_finishCreate_ok (res : Diropres3ok) :
    (finishCreate plat (.done (.ok res))).Yields Favourable fun result ↦ result.1 = 0 := by
  refine .bind (yields_hsiNfs3HandleCreate plat res) fun ptr hptr ↦ ?_
  rw [if_neg (by rw [hptr]; exact Bool.false_ne_true)]
  exact .pure rfl

theorem yields_hsiNfs3Mkdir_ok (mode : UInt32) :
    (hsiNfs3Mkdir plat parent name mode).Yields Favourable fun result ↦ result.1 = 0 := by
  refine .after fun inode ↦ .bind (yields_favourable _) ?_
  rintro _ ⟨res, rfl⟩
  exact yields_finishCreate_ok res

theorem yields_hsiNfs3Symlink_ok (link : CString) :
    (hsiNfs3Symlink plat parent link name).Yields Favourable fun result ↦ result.1 = 0 := by
  refine .after fun inode ↦ .bind (yields_favourable _) ?_
  rintro _ ⟨res, rfl⟩
  exact yields_finishCreate_ok res

theorem yields_hsiNfs3Create_ok {mode : UInt32} (hnot : ¬ isExclusive mode) :
    (hsiNfs3Create plat parent name mode).Yields Favourable fun result ↦ result.1 = 0 := by
  refine .after fun inode ↦ .bind (yields_favourable _) ?_
  rintro _ ⟨res, rfl⟩
  refine .bind (yields_hsiNfs3HandleCreate plat res) fun ptr hptr ↦ ?_
  change ¬ (mode &&& 0xf0000) >>> 16 = 2 at hnot
  rw [if_neg (by rw [hptr]; exact Bool.false_ne_true), if_neg hnot]
  exact .pure rfl

theorem yields_hsiNfs3Mknod_ok {mode : UInt32} {rdev : UInt64} (hshort : name.length ≤ nameMax) :
    (hsiNfs3Mknod plat parent name mode rdev).Yields Favourable fun result ↦ result.1 = 0 := by
  have hmalloc : (Prog.malloc .mknodName).Yields Favourable fun granted ↦ granted = true :=
    @Program.Yields.ask EnvOp EnvAns Fault Daemon Favourable
        (.malloc .mknodName) _ fun granted h ↦ by
      cases granted with
      | false => cases h
      | true => rfl
  have hcopy : (copyName .mknodName name).Yields Favourable fun copied ↦ copied = true := by
    refine .bind hmalloc fun granted hgranted ↦ ?_
    rw [if_pos hgranted]
    exact .ite (.pure rfl) (.crash _)
  rw [hsiNfs3Mknod, if_neg (not_lt.mpr hshort)]
  refine .bind hcopy fun copied hcopied ↦ ?_
  rw [if_pos hcopied]
  refine .after fun inode ↦ .bind (yields_favourable _) ?_
  rintro _ ⟨res, rfl⟩
  exact yields_finishCreate_ok res

theorem emits_hsxFuseFillReply (ptr : InodePtr) {allowed : Event EnvAns → Prop} :
    (hsxFuseFillReply ptr).Emits allowed :=
  .bind (.deref _) fun _ ↦ .bind (.getInode _) fun _ ↦ .bind .get fun _ ↦ .pure _

/-- The end of a creating handler asks nothing. -/
theorem emits_replyCreated (err : ℤ) (new : InodePtr) (success : FuseEntryParam → FuseReply)
    {allowed : Event EnvAns → Prop} : (replyCreated err new success).Emits allowed := by
  have hcount (ptr : InodePtr) : (countCreated ptr).Emits allowed :=
    .bind (.bind (.deref _) fun _ ↦ .bind (.getInode _) fun _ ↦ .bind (.modify _) fun _ ↦ .pure _)
      fun _ ↦ .bind (.ite (.pure _) (.crash _)) fun _ ↦ emits_hsxFuseFillReply ptr
  refine .ite (.modify _) ?_
  cases new with
  | null => exact .modify _
  | err error => exact .bind (hcount _) fun _ ↦ .modify _
  | obj index => exact .bind (hcount _) fun _ ↦ .modify _

end Objects

section Created

variable {daemon : Daemon} {trace : Trace} {ending : Ending Fault Daemon Unit}

/-- A creating handler that is refused only when it is excused. -/
theorem created_succeeds_iff {excused : Trace → Prop} {procedure : Prog (ℤ × InodePtr)}
    (hprocedure : ∀ trace ending, (procedure.run daemon).Path trace ending →
      ObjectRun excused daemon trace ending)
    (hrefused : ∀ err ptr daemon', (procedure.run daemon).Path trace (.done (err, ptr) daemon') →
      err ≠ 0 → excused trace) {success : FuseEntryParam → FuseReply}
    (hpath : ((procedure >>= fun result ↦ replyCreated result.1 result.2 success).run daemon).Path
      trace ending) {kind : FuseReply → Prop} (hkind : ∀ param, kind (success param))
    (herr : ∀ err, ¬ kind (.err err)) :
    RepliedWith kind daemon ending ↔
      Acquired daemon trace ∧ Unreferenced daemon trace ∧ ¬ excused trace := by
  rcases Program.path_bind.mp hpath with ⟨⟨err, new⟩, daemon₁, front, rest, hfirst, hrest, rfl⟩ |
    ⟨reason, daemon₁, hcrash, rfl⟩
  · obtain rfl : rest = [] := (emits_replyCreated err new success).trace_eq_nil hrest
    rw [List.append_nil] at hrefused ⊢
    unfold replyCreated at hrest
    cases hprocedure front _ hfirst with
    | refused hne hacquired hsafe hreplies =>
      rw [if_pos hne] at hrest
      rw [repliedWith_reply_iff hreplies hrest]
      exact iff_of_false (herr err) fun h ↦ h.2.2 (hrefused err new daemon₁ hfirst hne)
    | acquired hacquired hnot hcoherent hlt hpriv hreplies =>
      rw [if_neg (not_not.mpr rfl)] at hrest
      rw [and_iff_right hacquired, ← hpriv, and_iff_left hnot]
      dsimp only at hrest
      rw [Program.bind_run, countCreated_obj_run hcoherent hlt] at hrest
      split_ifs at hrest with hzero
      · rw [Resumption.bind_ret] at hrest
        refine iff_of_true ((repliedWith_reply_iff ?_ hrest).mpr (hkind _)) hzero
        exact hreplies
      · rw [hrest.2]
        exact iff_of_false not_repliedWith_crashed hzero
    | poisoned hnot =>
      rw [if_neg (not_not.mpr rfl)] at hrest
      rw [hrest.2]
      exact iff_of_false not_repliedWith_crashed fun h ↦ hnot h.1
  · cases hprocedure trace _ hcrash with
    | stuck hnot => exact iff_of_false not_repliedWith_crashed fun h ↦ hnot h.1

/-- A creating handler whose call succeeded. -/
theorem created_repliedWith_iff {excused : Trace → Prop} (hnot : ¬ excused trace)
    {procedure : Prog (ℤ × InodePtr)}
    (hprocedure : ∀ trace ending, (procedure.run daemon).Path trace ending →
      ObjectRun excused daemon trace ending)
    (hyields : procedure.Yields Favourable fun result ↦ result.1 = 0)
    (hfavourable : ∀ event ∈ trace, Favourable event) {success : FuseEntryParam → FuseReply}
    (hpath : ((procedure >>= fun result ↦ replyCreated result.1 result.2 success).run daemon).Path
      trace ending) {kind : FuseReply → Prop} (hkind : ∀ param, kind (success param))
    (herr : ∀ err, ¬ kind (.err err)) :
    RepliedWith kind daemon ending ↔ Acquired daemon trace ∧ Unreferenced daemon trace := by
  rw [created_succeeds_iff hprocedure (fun err ptr daemon' hrun hne ↦
    absurd (hyields daemon trace (err, ptr) daemon' hfavourable hrun) hne) hpath hkind herr,
    and_iff_left hnot]

theorem not_modified_of_forall {trace : Trace} (h : ∀ event ∈ trace, isModified event = false) :
    ¬ ∃ event ∈ trace, isModified event = true := by
  rintro ⟨event, hmem, htrue⟩
  rw [h event hmem] at htrue
  cases htrue

/-- A request that has sent nothing has changed nothing. -/
theorem not_modified_nil : ¬ ∃ event ∈ ([] : Trace), isModified event = true :=
  not_modified_of_forall (List.forall_mem_nil _)

/-- A name without room for its terminator is not sent. -/
theorem emits_hsiNfs3Mknod_full {plat : Platform} {parent : ℕ} {name : CString} {mode : UInt32}
    {rdev : UInt64} (hfull : ¬ name.length < nameMax) :
    (hsiNfs3Mknod plat parent name mode rdev).Emits fun event ↦ isModified event = false := by
  intro daemon trace ending hpath
  by_cases hlong : name.length > nameMax
  · rw [hsiNfs3Mknod, if_pos hlong] at hpath
    rw [hpath.1]
    exact List.forall_mem_nil _
  · rw [hsiNfs3Mknod, if_neg hlong] at hpath
    obtain ⟨copied, rest, rfl, hrest⟩ := path_copyName_bind.mp hpath
    obtain rfl : rest = [] := by
      cases copied with
      | false => exact hrest.1
      | true =>
        rw [if_pos ⟨rfl, by omega⟩] at hrest
        exact hrest.1
    exact List.forall_mem_singleton.mpr rfl

/-- A handler that sends its call for a cached inode only. -/
theorem repliedWith_ilookup_iff (hcoherent : Coherent daemon) {ino : UInt64} {found : ℕ → Prog Unit}
    {missing : Prog Unit} {kind : FuseReply → Prop} {condition : Prop}
    (hmodified : ∃ event ∈ trace, isModified event = true) (hmissing : missing.Emits fun _ ↦ False)
    (hfound : ∀ index, ((found index).run daemon).Path trace ending →
      (RepliedWith kind daemon ending ↔ condition))
    (hpath : ((hsfsIlookup ino >>= fun ptr ↦ match ptr with
      | .obj index => found index
      | _ => missing).run daemon).Path trace ending) :
    RepliedWith kind daemon ending ↔ condition := by
  rcases hcoherent.path_ilookup hpath with ⟨-, hpath⟩ | ⟨index, -, hpath⟩
  · rw [hmissing.trace_eq_nil hpath] at hmodified
    exact absurd hmodified not_modified_nil
  · exact hfound index hpath

end Created

/-! ## The handlers -/

/-- A link that the server made is returned as 0 or as a refused refresh. -/
theorem hsiNfs3Link_acknowledged {index newparent : ℕ} {name : CString} {daemon daemon' : Daemon}
    {trace : Trace} {err : ℤ} (hfavourable : ∀ event ∈ trace, Favourable event)
    (hmodified : ∃ event ∈ trace, isModified event = true)
    (hpath : ((hsiNfs3Link index newparent name).run daemon).Path trace (.done err daemon')) :
    (Refused (daemon.inode index) trace ∧ err = -estale) ∨
      (¬ Refused (daemon.inode index) trace ∧ err = 0) := by
  have hverdict := hsiNfs3Link_verdict (fun event hmem ↦ (hfavourable event hmem).rpcErrno) hpath
  refine hverdict.imp_right fun ⟨hnot, herr⟩ ↦ ⟨hnot, ?_⟩
  have hzero (fattr : NfsFattr) (hstatus : Errno (nfsRefresh fattr (daemon.inode index)).2) :
      (nfsRefresh fattr (daemon.inode index)).2 = 0 := by
    refine (nfsRefresh_status fattr (daemon.inode index)).resolve_right fun hstale ↦ ?_
    rw [hstale] at hstatus
    exact not_errno_estale hstatus
  cases hsiNfs3Link_path hpath with
  | tooLong _ => exact absurd hmodified not_modified_nil
  | noMemory _ => cases hfavourable _ List.mem_cons_self
  | failed _ outcome hstatus =>
    obtain ⟨body, rfl⟩ :=
      favourable_call (hfavourable _ (List.mem_cons_of_mem _ List.mem_cons_self))
    exact absurd rfl hstatus
  | refreshed _ attributes => exact hzero _ herr
  | reread _ outcome hread =>
    obtain ⟨attributes, rfl⟩ := favourable_call
      (hfavourable _ (List.mem_cons_of_mem _ (List.mem_cons_of_mem _ List.mem_cons_self)))
    cases hread
    exact hzero _ herr

section Handlers

variable {plat : Platform} {daemon : Daemon} {trace : Trace} {ending : Ending Fault Daemon Unit}
  (hcoherent : Coherent daemon) (hfavourable : ∀ event ∈ trace, Favourable event)
  (hmodified : ∃ event ∈ trace, isModified event = true)

include hcoherent hfavourable hmodified

theorem hsxFuseSetattr_repliedWith_iff {ino : UInt64} {attr : Stat} {toSet : UInt32}
    (hpath : ((hsxFuseSetattr ino attr toSet).run daemon).Path trace ending) :
    RepliedWith (Request.setattr ino attr toSet).isSuccess daemon ending ↔
      ∃ event ∈ trace, setattrDone event = true := by
  rw [hsxFuseSetattr] at hpath
  rcases hcoherent.path_ilookup hpath with ⟨-, hpath⟩ | ⟨index, -, hpath⟩
  · rw [hpath.1] at hmodified
    exact absurd hmodified not_modified_nil
  · rcases Program.path_bind.mp hpath with ⟨err, daemon₁, front, rest, hfirst, hrest, rfl⟩ |
      ⟨reason, daemon₁, hcrash, rfl⟩
    · obtain rfl : rest = [] := by
        refine Program.Emits.trace_eq_nil (.ite (.modify _) ?_) hrest
        exact .bind (.getInode _) fun _ ↦ .bind .get fun _ ↦ .modify _
      rw [List.append_nil] at hfavourable hmodified ⊢
      have hreplies : daemon₁.replies = daemon.replies :=
        silent (within_hsiNfsSetattr silentCalls index _) daemon front _ hfirst
      rcases hsiNfsSetattr_path hfirst with ⟨-, rfl, -⟩ | ⟨-, outcome, rfl, hending⟩
      · exact absurd hmodified not_modified_nil
      · cases hending
        obtain ⟨attributes, rfl⟩ := favourable_call (List.forall_mem_singleton.mp hfavourable)
        simp only [List.mem_singleton, exists_eq_left]
        cases attributes with
        | none =>
          have hne : (setattrResult (.done (.ok none))).1 ≠ 0 := by decide
          rw [if_pos hne] at hrest
          rw [repliedWith_reply_iff hreplies hrest]
          exact iff_of_false id Bool.false_ne_true
        | some attributes =>
          have hzero : (setattrResult (.done (.ok (some attributes)))).1 = 0 := rfl
          rw [if_neg (not_not.mpr hzero)] at hrest
          exact iff_of_true ((repliedWith_reply_iff hreplies hrest).mpr trivial) rfl
    · rcases hsiNfsSetattr_path hcrash with ⟨-, -, heq⟩ | ⟨-, outcome, -, heq⟩
      · cases heq
      · cases heq

theorem hsxFuseLink_repliedWith_iff {ino newparent : UInt64} {newname : CString}
    (hpath : ((hsxFuseLink ino newparent newname).run daemon).Path trace ending) :
    RepliedWith (Request.link ino newparent newname).isSuccess daemon ending ↔
      ∀ index, daemon.findIno ino = some index → ¬ Refused (daemon.inode index) trace := by
  refine repliedWith_ilookup_iff hcoherent hmodified (.pure _) (fun parent hfound ↦ ?_) hpath
  rcases hcoherent.path_ilookup hfound with ⟨-, hfound⟩ | ⟨index, hfind, hfound⟩
  · rw [hfound.1] at hmodified
    exact absurd hmodified not_modified_nil
  · simp only [hfind, Option.some.injEq, forall_eq']
    rcases Program.path_bind.mp hfound with ⟨err, daemon₁, front, rest, hfirst, hrest, rfl⟩ |
      ⟨reason, daemon₁, hcrash, rfl⟩
    · rw [List.forall_mem_append] at hfavourable
      have hreplies : daemon₁.replies = daemon.replies :=
        silent (within_hsiNfs3Link silentCalls index newname parent) daemon front _ hfirst
      have hquiet : ∀ event ∈ rest, refreshAttributes event = none ∧ isModified event = false := by
        refine Program.Emits.ite ?_ (.modify _) daemon₁ rest ending hrest
        exact .bind (.malloc fun _ ↦ ⟨rfl, rfl⟩) fun _ ↦ .ite
          (.bind (emits_hsxFuseFillReply _) fun _ ↦ .modify _) (.modify _)
      have hrefused : ¬ Refused (daemon.inode index) rest :=
        not_refused_of_forall fun event hmem ↦ (hquiet event hmem).1
      rw [refused_append_iff, or_iff_left hrefused]
      have hsent : ∃ event ∈ front, isModified event = true := by
        obtain ⟨event, hmem, htrue⟩ := hmodified
        rcases List.mem_append.mp hmem with hmem | hmem
        · exact ⟨event, hmem, htrue⟩
        · rw [(hquiet event hmem).2] at htrue
          cases htrue
      rcases hsiNfs3Link_acknowledged hfavourable.1 hsent hfirst with ⟨hrefused, rfl⟩ | ⟨hnot, rfl⟩
      · rw [if_neg (by decide)] at hrest
        rw [repliedWith_reply_iff hreplies hrest]
        exact iff_of_false id (not_not.mpr hrefused)
      · have hcoherent₁ := (keeps_hsiNfs3Link index parent newname _ _ _ _ hfirst hcoherent).1
        rw [if_pos rfl] at hrest
        obtain ⟨granted, back, rfl, hback⟩ := Prog.path_malloc_bind.mp hrest
        cases granted with
        | false => cases hfavourable.2 _ List.mem_cons_self
        | true =>
          rw [if_pos rfl,
            Program.bind_run_of_ret (hsxFuseFillReply_obj_run hcoherent₁ index)] at hback
          exact iff_of_true ((repliedWith_reply_iff hreplies hback).mpr trivial) hnot
    · cases hsiNfs3Link_path hcrash with
      | overrun _ =>
        obtain ⟨event, hmem, htrue⟩ := hmodified
        cases List.mem_singleton.mp hmem
        cases htrue

variable (hpos : 0 < daemon.heap.length)

include hpos

theorem hsxFuseMkdir_repliedWith_iff {parent : UInt64} {name : CString} {mode : UInt32}
    (hpath : ((hsxFuseMkdir plat parent name mode).run daemon).Path trace ending) :
    RepliedWith (Request.mkdir parent name mode).isSuccess daemon ending ↔
      Acquired daemon trace ∧ Unreferenced daemon trace := by
  refine repliedWith_ilookup_iff hcoherent hmodified (.pure _) (fun index hfound ↦ ?_) hpath
  exact created_repliedWith_iff id (fun _ _ ↦ hsiNfs3Mkdir_objectRun hcoherent hpos)
    (yields_hsiNfs3Mkdir_ok mode) hfavourable hfound (fun _ ↦ trivial) fun _ ↦ id

theorem hsxFuseSymlink_repliedWith_iff {link name : CString} {parent : UInt64}
    (hpath : ((hsxFuseSymlink plat link parent name).run daemon).Path trace ending) :
    RepliedWith (Request.symlink link parent name).isSuccess daemon ending ↔
      Acquired daemon trace ∧ Unreferenced daemon trace := by
  refine repliedWith_ilookup_iff hcoherent hmodified (.modify _) (fun index hfound ↦ ?_) hpath
  exact created_repliedWith_iff id (fun _ _ ↦ hsiNfs3Symlink_objectRun hcoherent hpos)
    (yields_hsiNfs3Symlink_ok _) hfavourable hfound (fun _ ↦ trivial) fun _ ↦ id

theorem hsxFuseMknod_repliedWith_iff {parent : UInt64} {name : CString} {mode : UInt32}
    {rdev : UInt64}
    (hpath : ((hsxFuseMknod plat parent name mode rdev).run daemon).Path trace ending) :
    RepliedWith (Request.mknod parent name mode rdev).isSuccess daemon ending ↔
      Acquired daemon trace ∧ Unreferenced daemon trace := by
  refine repliedWith_ilookup_iff hcoherent hmodified (.modify _) (fun index hfound ↦ ?_) hpath
  by_cases hfits : name.length < nameMax
  · have hobject (trace : Trace) (ending : Ending Fault Daemon (ℤ × InodePtr))
        (hrun : ((hsiNfs3Mknod plat index name mode rdev).run daemon).Path trace ending) :
        ObjectRun (fun _ ↦ False) daemon trace ending := by
      rcases hsiNfs3Mknod_objectRun hcoherent hpos hrun with ⟨-, hobject⟩ | ⟨hnot, -⟩
      · exact hobject
      · exact absurd (fun h ↦ absurd h hfits.ne) hnot
    exact created_repliedWith_iff id hobject (yields_hsiNfs3Mknod_ok hfits.le) hfavourable hfound
      (fun _ ↦ trivial) fun _ ↦ id
  · have hunsent := (emits_hsiNfs3Mknod_full hfits).bind
      (fun _ ↦ emits_replyCreated _ _ _) daemon trace ending hfound
    exact absurd hmodified (not_modified_of_forall hunsent)

theorem hsxFuseCreate_repliedWith_iff {parent : UInt64} {name : CString}
    {mode flags uid gid : UInt32} (hnot : ¬ isExclusive (createMode mode flags))
    (hpath : ((hsxFuseCreate plat parent name mode flags uid gid).run daemon).Path trace ending) :
    RepliedWith (Request.create parent name mode flags uid gid).isSuccess daemon ending ↔
      Acquired daemon trace ∧ Unreferenced daemon trace := by
  refine repliedWith_ilookup_iff hcoherent hmodified (.pure _) (fun index hfound ↦ ?_) hpath
  obtain ⟨daemon₁, hcoherent₁, hgrows, hlength, hcreate⟩ := hcoherent.setOwner_bind hfound
  have hsame : RepliedWith (Request.create parent name mode flags uid gid).isSuccess daemon₁
      ending ↔ Acquired daemon₁ trace ∧ Unreferenced daemon₁ trace :=
    created_repliedWith_iff (fun h ↦ hnot h.1) (fun _ _ ↦ hsiNfs3Create_objectRun hcoherent₁
      (hpos.trans_le hgrows.length_le)) (yields_hsiNfs3Create_ok hnot) hfavourable hcreate
      (fun _ ↦ trivial) fun _ ↦ id
  rw [acquired_congr hlength, hcoherent.unreferenced_congr hcoherent₁ hgrows hlength,
    RepliedWith, hgrows.replies_eq] at hsame
  exact hsame

end Handlers

/-- What the server's answers must hold for a change to be acknowledged. -/
def Acknowledgeable (daemon : Daemon) : Request → Trace → Prop
  | .setattr .., trace => ∃ event ∈ trace, setattrDone event = true
  | .link ino _ _, trace =>
      ∀ index, daemon.findIno ino = some index → ¬ Refused (daemon.inode index) trace
  | _, trace => Acquired daemon trace ∧ Unreferenced daemon trace

/-- When the server has carried out the change and nothing else fails, the handler replies success
exactly if the condition on the server's answers holds. -/
theorem acknowledged_iff (plat : Platform) (fuel : ℕ) (daemon : Daemon) (request : Request)
    (trace : Trace) (ending : Ending Fault Daemon Unit) (hserving : Serving daemon)
    (hmodifies : request.modifies) (hfavourable : ∀ event ∈ trace, Favourable event)
    (hmodified : ∃ event ∈ trace, isModified event = true)
    (hpath : ((handle plat fuel request).run daemon).Path trace ending) :
    RepliedWith request.isSuccess daemon ending ↔ Acknowledgeable daemon request trace := by
  have hcoherent := hserving.coherent
  have hpos := hserving.length_pos
  cases request with
  | setattr ino attr toSet =>
    exact hsxFuseSetattr_repliedWith_iff hcoherent hfavourable hmodified hpath
  | mkdir parent name mode =>
    exact hsxFuseMkdir_repliedWith_iff hcoherent hfavourable hmodified hpos hpath
  | mknod parent name mode rdev =>
    exact hsxFuseMknod_repliedWith_iff hcoherent hfavourable hmodified hpos hpath
  | symlink link parent name =>
    exact hsxFuseSymlink_repliedWith_iff hcoherent hfavourable hmodified hpos hpath
  | link ino newparent newname =>
    exact hsxFuseLink_repliedWith_iff hcoherent hfavourable hmodified hpath
  | create parent name mode flags uid gid =>
    exact hsxFuseCreate_repliedWith_iff hcoherent hfavourable hmodified hpos hmodifies hpath
  | _ => exact hmodifies.elim

/-- The answer to a `SETATTR` of the root's mode. -/
def modeSet (attributes : Option Fattr3) : Trace :=
  [⟨.call (.setattr [0] { Sattr3.cleared with mode := some 0o700 }),
    RpcOutcome.done (.ok attributes)⟩]

theorem modeSet_favourable (attributes : Option Fattr3) :
    ∀ event ∈ modeSet attributes, Favourable event :=
  List.forall_mem_singleton.mpr trivial

/-- A change of the root's mode. -/
def chmodRoot : Request := .setattr 1 { Stat.cleared with stMode := 0o700 } 1

/-- With attributes in the reply the change is acknowledged. -/
theorem acknowledged_chmod : ∃ ending,
    ((handle linuxHost 1 chmodRoot).run mountedCache).Path (modeSet (some exportAttr)) ending ∧
      RepliedWith chmodRoot.isSuccess mountedCache ending := by
  have hserving := mounted_mountedCache.serving
  have hpath : ∃ ending,
      ((handle linuxHost 1 chmodRoot).run mountedCache).Path
          (modeSet (some exportAttr)) ending := by
    rw [chmodRoot, handle, hsxFuseSetattr, hserving.coherent.ilookup_bind]
    exact ⟨_, _, _, rfl, rfl, rfl⟩
  obtain ⟨ending, hpath⟩ := hpath
  have hdone : Acknowledgeable mountedCache chmodRoot (modeSet (some exportAttr)) :=
    ⟨_, List.mem_cons_self, rfl⟩
  exact ⟨ending, hpath, (acknowledged_iff linuxHost 1 mountedCache chmodRoot _ _ hserving trivial
    (modeSet_favourable _) ⟨_, List.mem_cons_self, rfl⟩ hpath).mpr hdone⟩

/-- Without them `setattr` replies `EAGAIN` although the mode has been set. -/
theorem chmod_not_acknowledged : Serving mountedCache ∧
    (∀ event ∈ modeSet none, Favourable event) ∧ (∃ event ∈ modeSet none, isModified event = true) ∧
    ((handle linuxHost 1 chmodRoot).run mountedCache).Path (modeSet none)
      (.done () (mountedCache.setReplies [.err eagain])) ∧
    ¬ RepliedWith chmodRoot.isSuccess mountedCache
      (.done () (mountedCache.setReplies [.err eagain])) := by
  have hserving := mounted_mountedCache.serving
  refine ⟨hserving, modeSet_favourable none, ⟨_, List.mem_cons_self, rfl⟩, ?_, ?_⟩
  · rw [chmodRoot, handle, hsxFuseSetattr, hserving.coherent.ilookup_bind]
    exact ⟨_, _, rfl, rfl, rfl⟩
  · rintro ⟨daemon', message, heq, hmessage, hkind⟩
    cases heq
    cases hmessage
    exact hkind

end NfsFuse
