import NfsFuse.Nfs3.Errnos
import NfsFuse.Fuse.Footprints
import NfsFuse.Fuse.Serving

/-!
# Error replies

Which numbers reach `fuse_reply_err`.  The status of `nfs_refresh_inode` is a negative number, and
four handlers pass it on: `getattr`, `link`, `readdir` and `readdirplus`.  All other errors are
error numbers as long as those of the RPC library are.
-/

namespace NfsFuse

open Lib

attribute [local irreducible] hsiNfsFhget

/-- Every error replied is an error number, and 0 only where that is the success reply. -/
def ErrorsReal (zero : Bool) (ending : Ending Fault Daemon Unit) : Prop :=
  ∀ error, .err error ∈ ending.state.replies → (0 ≤ error ∧ error ≤ 999) ∧ (error = 0 → zero = true)

/-- A program that adds such replies only. -/
def Sends (zero : Bool) (program : Prog Unit) : Prop :=
  ∀ daemon trace ending, (∀ event ∈ trace, RpcErrno event) →
    (program.run daemon).Path trace ending →
    ∀ error, .err error ∈ ending.state.replies →
      .err error ∈ daemon.replies ∨ (0 ≤ error ∧ error ≤ 999) ∧ (error = 0 → zero = true)

theorem FuseEntryParam.entry_ne_err (param : FuseEntryParam) (error : ℤ) :
    FuseReply.entry param ≠ .err error := by
  intro h
  cases h

namespace Sends

variable {α : Type} {zero : Bool}

theorem reply_err {error : ℤ} (h : (0 ≤ error ∧ error ≤ 999) ∧ (error = 0 → zero = true)) :
    Sends zero (Prog.reply (.err error)) := by
  rintro daemon trace ending - ⟨-, rfl⟩ error' hmem
  rcases List.mem_append.mp hmem with hmem | hmem
  · exact Or.inl hmem
  · cases List.mem_singleton.mp hmem
    exact Or.inr h

theorem reply_real {error : ℤ} (h : RealErrno error) : Sends zero (Prog.reply (.err error)) := by
  obtain ⟨hpos, hlt⟩ := h
  refine reply_err ⟨⟨hpos.le, by omega⟩, fun hzero ↦ ?_⟩
  omega

theorem reply_errno {error : ℤ} (h : Errno error) : Sends true (Prog.reply (.err error)) := by
  rcases h with rfl | h
  · exact reply_err (by decide)
  · exact reply_real h

theorem reply {message : FuseReply} (h : ∀ error, message ≠ .err error) :
    Sends zero (Prog.reply message) := by
  rintro daemon trace ending - ⟨-, rfl⟩ error hmem
  rcases List.mem_append.mp hmem with hmem | hmem
  · exact Or.inl hmem
  · exact absurd (List.mem_singleton.mp hmem).symm (h error)

theorem of_fixes {program : Prog Unit} (h : program.Fixes Daemon.replies) : Sends zero program := by
  intro daemon trace ending _ hpath error hmem
  rw [h daemon trace ending hpath] at hmem
  exact Or.inl hmem

theorem bind {first : Prog α} {next : α → Prog Unit} {post : α → Prop}
    (hsilent : first.Within Change.apply silentParts) (hyields : first.Yields RpcErrno post)
    (hnext : ∀ value, post value → Sends zero (next value)) : Sends zero (first >>= next) := by
  intro daemon trace ending hreal hpath error hmem
  rcases Program.path_bind.mp hpath with ⟨value, daemon₁, front, rest, hfirst, hrest, rfl⟩ |
    ⟨reason, daemon₁, hcrash, rfl⟩
  · rw [List.forall_mem_append] at hreal
    have hsame : daemon₁.replies = daemon.replies := silent hsilent daemon front _ hfirst
    rw [← hsame]
    exact hnext value (hyields _ _ _ _ hreal.1 hfirst) daemon₁ rest ending hreal.2 hrest error hmem
  · left
    rw [← silent hsilent daemon trace _ hcrash]
    exact hmem

theorem after {first : Prog α} {next : α → Prog Unit}
    (hsilent : first.Within Change.apply silentParts)
    (hnext : ∀ value, Sends zero (next value)) : Sends zero (first >>= next) :=
  have hyields : first.Yields RpcErrno fun _ ↦ True := .of_forall fun _ ↦ trivial
  bind hsilent hyields fun value _ ↦ hnext value

/-- Two replies one after the other. -/
theorem seq {first : Prog Unit} {next : Unit → Prog Unit} (hfirst : Sends zero first)
    (hnext : Sends zero (next ())) : Sends zero (first >>= next) := by
  intro daemon trace ending hreal hpath error hmem
  rcases Program.path_bind.mp hpath with ⟨⟨⟩, daemon₁, front, rest, hfront, hrest, rfl⟩ |
    ⟨reason, daemon₁, hcrash, rfl⟩
  · rw [List.forall_mem_append] at hreal
    rcases hnext daemon₁ rest ending hreal.2 hrest error hmem with hmem | hgood
    · exact hfirst daemon front _ hreal.1 hfront error hmem
    · exact Or.inr hgood
  · exact hfirst daemon trace _ hreal hcrash error hmem

theorem ite {condition : Prop} [Decidable condition] {yes no : Prog Unit} (hyes : Sends zero yes)
    (hno : Sends zero no) : Sends zero (if condition then yes else no) := by
  by_cases h : condition
  · simpa only [if_pos h] using hyes
  · simpa only [if_neg h] using hno

/-- The usual treatment of a result. -/
theorem failed {err : ℤ} {rest : Prog Unit} (herr : Errno err) (hrest : Sends zero rest) :
    Sends zero (if err ≠ 0 then Prog.reply (.err err) else rest) := by
  by_cases hne : err ≠ 0
  · simpa only [if_pos hne] using reply_real (herr.real hne)
  · simpa only [if_neg hne] using hrest

theorem ilookup {ino : UInt64} {found : ℕ → Prog Unit} {missing : Prog Unit}
    (hfound : ∀ index, Sends zero (found index)) (hmissing : Sends zero missing) :
    Sends zero (hsfsIlookup ino >>= fun ptr ↦ match ptr with
      | .obj index => found index
      | _ => missing) := by
  refine after (within_hsfsIlookup silentBase ino) fun ptr ↦ ?_
  cases ptr with
  | null => exact hmissing
  | err _ => exact hmissing
  | obj index => exact hfound index

theorem pure : Sends zero (Pure.pure ()) := of_fixes (.pure _)

theorem crash (reason : Fault) : Sends zero (Program.crash reason) := of_fixes (.crash reason)

/-- A program run on its own. -/
theorem errorsReal {program : Prog Unit} (h : Sends zero program) {daemon : Daemon}
    (hreplies : daemon.replies = []) {trace : Trace} {ending : Ending Fault Daemon Unit}
    (hreal : ∀ event ∈ trace, RpcErrno event) (hpath : (program.run daemon).Path trace ending) :
    ErrorsReal zero ending := by
  intro error hmem
  refine (h daemon trace ending hreal hpath error hmem).resolve_left ?_
  rw [hreplies]
  exact List.not_mem_nil

end Sends

section Handlers

variable (plat : Platform) (ino parent : UInt64) (name : CString)

theorem sends_hsxFuseSetattr (attr : Stat) (toSet : UInt32) :
    Sends false (hsxFuseSetattr ino attr toSet) := by
  refine .ilookup (fun index ↦ ?_) (.reply_real (by decide))
  refine .bind (within_hsiNfsSetattr silentCalls index _)
    (yields_hsiNfsSetattr index _) fun _ herr ↦
    .failed herr (.after (within_getInode _) fun _ ↦ .after .get fun _ ↦ .reply nofun)

theorem sends_hsxFuseAccess (mask : UInt32) : Sends true (hsxFuseAccess ino mask) :=
  .ilookup (fun index ↦ .after (within_getInode _) fun _ ↦
    .bind (within_hsiNfs3Access silentRpc index _) (yields_hsiNfs3Access index _) fun _ herr ↦
      .reply_errno herr) .pure

theorem sends_hsxFuseLookup : Sends false (hsxFuseLookup plat ino name) := by
  refine .ilookup (fun index ↦ ?_) (.reply_real (by decide))
  refine .bind (within_hsiNfs3Lookup silentCalls plat index name)
    (yields_hsiNfs3Lookup plat index name) fun ⟨err, child⟩ herr ↦ .failed herr ?_
  have hfound (ptr : InodePtr) : Sends false (do
      let _ ← hsxFuseRefInc ptr 1
      let param ← hsxFuseFillReply ptr
      Prog.reply (.entry param)) :=
    .after (within_hsxFuseRefInc silentCounts ptr 1) fun _ ↦
      .after (within_hsxFuseFillReply silentBase ptr) fun param ↦ .reply (param.entry_ne_err ·)
  cases child with
  | null => exact .reply_real (by decide)
  | err error => exact hfound (.err error)
  | obj index => exact hfound (.obj index)

theorem sends_hsxFuseForget (nlookup : UInt64) : Sends false (hsxFuseForget ino nlookup) :=
  .after (within_hsfsIlookup silentBase ino) fun node ↦ .after (within_assert _ trivial) fun _ ↦
    .after (within_hsxFuseRefDec silentCounts node nlookup) fun _ ↦
      .ite (.after (within_hsfsIput silentCache.toPutParts node) fun _ ↦ .reply nofun)
        (.reply nofun)

/-- The end of the creating handlers. -/
theorem sends_replyCreated {err : ℤ} (new : InodePtr) {success : FuseEntryParam → FuseReply}
    (herr : Errno err) (hsuccess : ∀ param error, success param ≠ .err error) :
    Sends false (replyCreated err new success) := by
  refine .failed herr ?_
  cases new with
  | null => exact .reply_real (by decide)
  | err error => exact .after (within_countCreated silentCounts _) fun _ ↦ .reply (hsuccess _)
  | obj index => exact .after (within_countCreated silentCounts _) fun _ ↦ .reply (hsuccess _)

theorem sends_hsxFuseMkdir (mode : UInt32) : Sends false (hsxFuseMkdir plat parent name mode) :=
  .ilookup (fun index ↦ .bind (within_hsiNfs3Mkdir silentCalls plat index name mode)
    (yields_hsiNfs3Mkdir plat index name mode) fun ⟨_, _⟩ herr ↦
      sends_replyCreated _ herr FuseEntryParam.entry_ne_err) .pure

theorem sends_hsxFuseMknod (mode : UInt32) (rdev : UInt64) :
    Sends false (hsxFuseMknod plat parent name mode rdev) :=
  .ilookup (fun index ↦ .bind (within_hsiNfs3Mknod silentCalls plat index name mode rdev)
    (yields_hsiNfs3Mknod plat index name mode rdev) fun ⟨_, _⟩ herr ↦
      sends_replyCreated _ herr FuseEntryParam.entry_ne_err)
    (.reply_real (by decide))

theorem sends_hsxFuseSymlink (link : CString) :
    Sends false (hsxFuseSymlink plat link parent name) :=
  .ilookup (fun index ↦ .bind (within_hsiNfs3Symlink silentCalls plat index name link)
    (yields_hsiNfs3Symlink plat index name link) fun ⟨_, _⟩ herr ↦
      sends_replyCreated _ herr FuseEntryParam.entry_ne_err)
    (.reply_real (by decide))

theorem sends_hsxFuseCreate (mode flags uid gid : UInt32) :
    Sends false (hsxFuseCreate plat parent name mode flags uid gid) :=
  .ilookup (fun index ↦ .after (within_inode (.owner uid gid) fun _ ↦ nofun) fun _ ↦
    .bind (within_hsiNfs3Create silentCalls plat index name _)
      (yields_hsiNfs3Create plat index name _) fun ⟨_, _⟩ herr ↦
        sends_replyCreated _ herr fun _ _ ↦ nofun) .pure

theorem sends_hsxFuseRmdir : Sends true (hsxFuseRmdir parent name) :=
  .ilookup (fun index ↦ .bind (within_hsiNfs3Rmdir silentRpc index name)
    (yields_hsiNfs3Rmdir index name) fun _ herr ↦ .reply_errno herr) .pure

theorem sends_hsxFuseUnlink : Sends true (hsxFuseUnlink parent name) := by
  refine .ite (.reply_real (by decide)) (.ite (.reply_real (by decide)) ?_)
  exact .ilookup (fun index ↦ .bind (within_hsiNfs3Unlink silentRpc index name)
    (yields_hsiNfs3Unlink index name) fun _ herr ↦ .reply_errno herr) (.reply_real (by decide))

theorem sends_hsxFuseRename (newparent : UInt64) (newname : CString) (flags : UInt32) :
    Sends true (hsxFuseRename parent name newparent newname flags) := by
  refine .ite (.reply_real (by decide))
    (.ite (.reply_real (by decide)) (.ite (.reply_real (by decide))
    (.ite (.reply_real (by decide)) (.ite (.reply_real (by decide)) ?_))))
  refine .ilookup (fun index ↦ .ilookup (fun newindex ↦ ?_) (.reply_real (by decide)))
    (.reply_real (by decide))
  exact .bind (within_hsiNfs3Rename silentRpc index name newindex newname)
    (yields_hsiNfs3Rename index name newindex newname) fun _ herr ↦ .reply_errno herr

theorem sends_hsxFuseReadlink : Sends false (hsxFuseReadlink ino) := by
  refine .ilookup (fun index ↦ ?_) .pure
  refine .bind (within_hsiNfs3Readlink silentRpc index) (yields_hsiNfs3Readlink index)
    fun ⟨st, link⟩ herr ↦ .failed herr ?_
  cases link with
  | none => exact .crash _
  | some link => exact .reply nofun

theorem sends_hsxFuseOpen : Sends false hsxFuseOpen :=
  .after (within_malloc silentBase _ rfl) fun _ ↦ .ite (.reply nofun) (.reply_real (by decide))

theorem sends_hsxFuseOpendir : Sends false (hsxFuseOpendir ino) :=
  .ilookup (fun _ ↦ .reply nofun) (.reply_real (by decide))

theorem sends_hsxFuseRelease : Sends true hsxFuseRelease := .reply_errno (Or.inl rfl)

theorem yields_readLoop (index size : ℕ) (off : UInt64) (fuel cnt : ℕ) (buf : List (Option UInt8)) :
    (readLoop index size off fuel cnt buf).Yields RpcErrno fun result ↦ Errno result.1 := by
  induction fuel generalizing cnt buf with
  | zero => exact .crash _
  | succ fuel ih =>
    refine .ite (.after fun daemon ↦ .bind (yields_hsiNfs3Read index _ _) fun ⟨err, res⟩ herr ↦ ?_)
      (.pure (Or.inl rfl))
    cases res with
    | none => exact .pure herr
    | some res => exact .ite (.ite (.pure (Or.inl rfl)) (ih _ _)) (.crash _)

theorem sends_hsxFuseRead (fuel size : ℕ) (off : UInt64) :
    Sends false (hsxFuseRead fuel ino size off) := by
  refine .after (within_malloc silentBase _ rfl) fun _ ↦ .ite ?_ (.reply_real (by decide))
  exact .ilookup (fun index ↦ .bind (within_readLoop silentRpc index size off fuel 0 _)
    (yields_readLoop index size off fuel 0 _) fun ⟨_, _, _⟩ herr ↦ .failed herr (.reply nofun))
    (.reply_real (by decide))

theorem yields_writeLoop (index : ℕ) (data : List UInt8) (off : UInt64) (stable : ℤ)
    (fuel cnt : ℕ) :
    (writeLoop index data off stable fuel cnt).Yields RpcErrno fun result ↦ Errno result.1 := by
  induction fuel generalizing cnt with
  | zero => exact .crash _
  | succ fuel ih =>
    exact .ite (.after fun _ ↦ .bind (yields_hsiNfs3Write index _ _ _) fun _ herr ↦
      .ite (.pure herr) (ih _)) (.pure (Or.inl rfl))

theorem sends_hsxFuseWrite (fuel : ℕ) (data : List UInt8) (off : UInt64) (directIo : Bool) :
    Sends false (hsxFuseWrite fuel ino data off directIo) := by
  refine .after (within_malloc silentBase _ rfl) fun _ ↦ .ite ?_ (.reply_real (by decide))
  exact .ilookup (fun index ↦ .bind (within_writeLoop silentRpc index data off _ fuel 0)
    (yields_writeLoop index data off _ fuel 0) fun _ herr ↦ .failed herr (.reply nofun))
    (.reply_real (by decide))

theorem sends_hsxFuseStatfs : Sends false hsxFuseStatfs := by
  refine .after .get fun _ ↦ .after (within_deref silentBase _) fun root ↦ ?_
  refine .bind (within_hsiNfs3Statfs silentRpc root) (yields_hsiNfs3Statfs root) fun _ herr ↦
    .failed herr (.after .get fun daemon ↦ ?_)
  split
  · exact .reply nofun
  · exact .reply_real (by decide)

theorem sends_hsxFuseGetxattr (size : ℕ) : Sends false (hsxFuseGetxattr ino name size) := by
  unfold hsxFuseGetxattr
  split
  · exact .reply_real (by decide)
  · refine .ilookup (fun index ↦ ?_) (.reply_real (by decide))
    refine .bind (within_hsiNfs3Getxattr silentRpc index _ _) (yields_hsiNfs3Getxattr index _ _)
      fun ⟨err, acl⟩ herr ↦ ?_
    cases acl with
    | none => exact .reply_real (herr rfl)
    | some acl =>
      refine .after (within_malloc silentBase _ rfl) fun _ ↦ .ite (.reply_real (by decide)) ?_
      exact .ite (.reply nofun) (.ite (.reply_real (by decide)) (.reply nofun))

theorem sends_hsxFuseSetxattr (value : List UInt8) :
    Sends true (hsxFuseSetxattr ino name value) := by
  refine .ilookup (fun index ↦ ?_) (.reply_errno (Or.inl rfl))
  split
  · exact .bind (within_hsiNfs3Setxattr silentRpc index value _)
      (yields_hsiNfs3Setxattr index value _) fun _ herr ↦
        .seq (.reply_errno herr) (.reply_errno herr)
  · exact .reply_errno (Or.inl rfl)

end Handlers

/-! ## Handlers that refresh an inode -/

/-- The attributes of a reply whose refresh decides over the result. -/
def refreshAttributes : Event EnvAns → Option (Option Fattr3)
  | ⟨.call (.getattr _), .done (.ok attributes)⟩ => some (some attributes)
  | ⟨.call (.link _ _), .done (.ok attributes)⟩ => some attributes
  | ⟨.call (.readdir _ _ _ _), .done (.ok res)⟩ => some res.dirAttributes
  | ⟨.call (.readdirplus _ _ _ _ _), .done (.ok res)⟩ => some res.dirAttributes
  | _ => none

/-- The attributes of some reply do not belong to the inode. -/
def Refused (inode : NfsInode) (trace : Trace) : Prop :=
  ∃ event ∈ trace, ∃ attributes ∈ refreshAttributes event,
    (nfsRefresh (postFattr attributes) inode).2 ≠ 0

theorem not_refused_of_forall {inode : NfsInode} {trace : Trace}
    (h : ∀ event ∈ trace, refreshAttributes event = none) : ¬ Refused inode trace := by
  rintro ⟨event, hmem, attributes, hsome, -⟩
  rw [h event hmem] at hsome
  cases hsome

theorem refused_append_iff {inode : NfsInode} {front back : Trace} :
    Refused inode (front ++ back) ↔ Refused inode front ∨ Refused inode back := by
  simp only [Refused, List.mem_append, or_and_right, exists_or]

theorem refused_cons_iff {inode : NfsInode} {event : Event EnvAns} {trace : Trace} :
    Refused inode (event :: trace) ↔ Refused inode [event] ∨ Refused inode trace := by
  rw [← List.singleton_append, refused_append_iff]

theorem refused_singleton_iff {inode : NfsInode} {event : Event EnvAns} {attributes : Option Fattr3}
    (h : refreshAttributes event = some attributes) :
    Refused inode [event] ↔ (nfsRefresh (postFattr attributes) inode).2 ≠ 0 := by
  simp only [Refused, List.mem_singleton, exists_eq_left, h, Option.mem_some_iff, exists_eq_left']

/-- A result is the status of a refused refresh, or an error number without one. -/
def RefreshVerdict {α : Type} (inode : NfsInode) (err : α → ℤ) (trace : Trace) :
    Ending Fault Daemon α → Prop
  | .done value _ =>
      (Refused inode trace ∧ err value = -estale) ∨ (¬ Refused inode trace ∧ Errno (err value))
  | .crashed _ _ => ¬ Refused inode trace

namespace RefreshVerdict

variable {α : Type} {inode : NfsInode} {err : α → ℤ} {trace : Trace}
  {event : Event EnvAns} {value : α}
  {daemon : Daemon} {ending : Ending Fault Daemon α}

theorem of_errno (hsilent : ∀ event ∈ trace, refreshAttributes event = none)
    (herr : Errno (err value)) : RefreshVerdict inode err trace (.done value daemon) :=
  Or.inr ⟨not_refused_of_forall hsilent, herr⟩

/-- The status of the refresh is the result. -/
theorem of_status {attributes : Option Fattr3} (h : refreshAttributes event = some attributes)
    (herr : err value = (nfsRefresh (postFattr attributes) inode).2) :
    RefreshVerdict inode err [event] (.done value daemon) := by
  rw [RefreshVerdict, refused_singleton_iff h, herr]
  rcases nfsRefresh_status (postFattr attributes) inode with hzero | hstale
  · exact Or.inr ⟨not_not.mpr hzero, Or.inl hzero⟩
  · exact Or.inl ⟨hstale ▸ by decide, hstale⟩

/-- An event before the run that does not refuse. -/
theorem cons (h : RefreshVerdict inode err trace ending) (hevent : ¬ Refused inode [event]) :
    RefreshVerdict inode err (event :: trace) ending := by
  cases ending with
  | done value daemon => rwa [RefreshVerdict, refused_cons_iff, or_iff_right hevent]
  | crashed reason daemon => rwa [RefreshVerdict, refused_cons_iff, or_iff_right hevent]

end RefreshVerdict

/-- A handler that replies with the result of a refreshing procedure. -/
theorem refreshing_errorsReal_iff {α : Type} {daemon : Daemon} (hreplies : daemon.replies = [])
    {inode : NfsInode} {procedure : Prog α} (err : α → ℤ) {rest : α → Prog Unit}
    (hsilent : procedure.Within Change.apply silentParts)
    (hverdict : ∀ trace ending, (∀ event ∈ trace, RpcErrno event) →
      (procedure.run daemon).Path trace ending → RefreshVerdict inode err trace ending)
    (hrest : ∀ value, Sends false (rest value))
    (hemits : ∀ value, (rest value).Emits fun event ↦ refreshAttributes event = none)
    {trace : Trace} {ending : Ending Fault Daemon Unit} (hreal : ∀ event ∈ trace, RpcErrno event)
    (hpath : ((procedure >>= fun value ↦
      if err value ≠ 0 then Prog.reply (.err (err value)) else rest value).run daemon).Path trace
        ending) :
    ErrorsReal false ending ↔ ¬ Refused inode trace := by
  rcases Program.path_bind.mp hpath with ⟨value, daemon₁, front, back, hfirst, hback, rfl⟩ |
    ⟨reason, daemon₁, hcrash, rfl⟩
  · rw [List.forall_mem_append] at hreal
    have hreplies₁ : daemon₁.replies = [] := (silent hsilent daemon front _ hfirst).trans hreplies
    have hquiet : ¬ Refused inode back := not_refused_of_forall
      (Program.Emits.ite (.modify _) (hemits value) daemon₁ back ending hback)
    rw [refused_append_iff, or_iff_left hquiet]
    rcases hverdict front _ hreal.1 hfirst with ⟨hrefused, herr⟩ | ⟨hnot, herr⟩
    · refine iff_of_false (fun h ↦ ?_) (not_not.mpr hrefused)
      rw [herr, if_pos (by decide)] at hback
      have hmem : .err (-estale) ∈ ending.state.replies := by
        rw [hback.2]
        exact List.mem_append_right _ List.mem_cons_self
      exact absurd (h _ hmem).1.1 (by decide)
    · have hsends : Sends false
          (if err value ≠ 0 then Prog.reply (.err (err value)) else rest value) :=
        .failed herr (hrest value)
      exact iff_of_true (hsends.errorsReal hreplies₁ hreal.2 hback) hnot
  · refine iff_of_true (fun error hmem ↦ ?_) (hverdict trace _ hreal hcrash)
    have hreplies₁ : daemon₁.replies = [] := (silent hsilent daemon trace _ hcrash).trans hreplies
    change .err error ∈ daemon₁.replies at hmem
    rw [hreplies₁] at hmem
    exact absurd hmem List.not_mem_nil

/-- A handler that begins with `hsfs_ilookup`. -/
theorem errorsReal_ilookup_iff {daemon : Daemon} (hcoherent : Coherent daemon)
    (hreplies : daemon.replies = []) {ino : UInt64} {found : ℕ → Prog Unit} {missing : Prog Unit}
    {condition : ℕ → Prop} {trace : Trace} {ending : Ending Fault Daemon Unit}
    (hreal : ∀ event ∈ trace, RpcErrno event) (hmissing : Sends false missing)
    (hfound : ∀ index, ((found index).run daemon).Path trace ending →
      (ErrorsReal false ending ↔ condition index))
    (hpath : ((hsfsIlookup ino >>= fun ptr ↦ match ptr with
      | .obj index => found index
      | _ => missing).run daemon).Path trace ending) :
    ErrorsReal false ending ↔ ∀ index, daemon.findIno ino = some index → condition index := by
  rcases hcoherent.path_ilookup hpath with ⟨hfind, hpath⟩ | ⟨index, hfind, hpath⟩
  · rw [hfind]
    exact iff_of_true (hmissing.errorsReal hreplies hreal hpath) nofun
  · simp only [hfind, Option.some.injEq, forall_eq']
    exact hfound index hpath

section Procedures

variable {daemon : Daemon} {index : ℕ} {trace : Trace}

theorem errno_of_rpcErrno {procedure : Call} {err : ℤ} {hne : err ≠ 0} {trace : Trace}
    (h : ∀ event ∈ (⟨.call procedure, .fail err hne⟩ : Event EnvAns) :: trace, RpcErrno event) :
    Errno err :=
  Or.inr (rpcErrno_call_iff.mp (h _ List.mem_cons_self) err hne rfl)

theorem getattrEnding_verdict {fh : List UInt8} {st : Stat} {outcome : RpcOutcome Fattr3}
    (hreal : RpcErrno ⟨.call (.getattr fh), outcome⟩) :
    RefreshVerdict (daemon.inode index) Prod.fst [⟨.call (.getattr fh), outcome⟩]
      (getattrEnding daemon index st outcome) := by
  rw [getattrEnding]
  rcases outcome with ⟨err, hne⟩ | attr | ⟨status, hne⟩
  · rw [getattrResult, if_pos hne]
    exact .of_errno (List.forall_mem_singleton.mpr rfl)
      (errno_of_rpcErrno (List.forall_mem_singleton.mpr hreal))
  · have hattributes :
        refreshAttributes ⟨.call (.getattr fh), .done (.ok attr)⟩ = some (some attr) := rfl
    exact .of_status hattributes rfl
  · have hstatus := hsiNfs3StatToErrno_real hne
    rw [getattrResult, if_pos hstatus.1.ne']
    exact .of_errno (List.forall_mem_singleton.mpr rfl) hstatus.errno

theorem hsiNfs3Getattr_verdict {st : Stat} {ending : Ending Fault Daemon (ℤ × Stat)}
    (hreal : ∀ event ∈ trace, RpcErrno event)
    (hpath : ((hsiNfs3Getattr index st).run daemon).Path trace ending) :
    RefreshVerdict (daemon.inode index) Prod.fst trace ending := by
  obtain ⟨outcome, rfl, rfl⟩ := hsiNfs3Getattr_path hpath
  exact getattrEnding_verdict (List.forall_mem_singleton.mp hreal)

/-- `link` refreshes from its own reply, or from the one of the `GETATTR` that follows. -/
theorem hsiNfs3Link_verdict {newparent : ℕ} {name : CString} {ending : Ending Fault Daemon ℤ}
    (hreal : ∀ event ∈ trace, RpcErrno event)
    (hpath : ((hsiNfs3Link index newparent name).run daemon).Path trace ending) :
    RefreshVerdict (daemon.inode index) id trace ending := by
  have hmalloc (granted : Bool) : ¬ Refused (daemon.inode index) [⟨.malloc .linkName, granted⟩] :=
    not_refused_of_forall (List.forall_mem_singleton.mpr rfl)
  cases hsiNfs3Link_path hpath with
  | tooLong _ => exact .of_errno (List.forall_mem_nil _) (Or.inr (by decide))
  | noMemory _ => exact .of_errno (List.forall_mem_singleton.mpr rfl) (Or.inr (by decide))
  | overrun _ => exact hmalloc true
  | failed _ outcome hstatus =>
    rw [List.forall_mem_cons, List.forall_mem_singleton, rpcErrno_call_iff] at hreal
    refine .cons (.of_errno (List.forall_mem_singleton.mpr ?_) (errno_statusOf hreal.2))
      (hmalloc true)
    rcases outcome with _ | _ | _
    · rfl
    · exact absurd rfl hstatus
    · rfl
  | refreshed _ attributes =>
    have hattributes : refreshAttributes ⟨.call (linkCall daemon index newparent name),
      .done (.ok (some attributes))⟩ = some (some attributes) := rfl
    exact .cons (.of_status hattributes rfl) (hmalloc true)
  | reread _ outcome hread =>
    rw [List.forall_mem_cons, List.forall_mem_cons, List.forall_mem_singleton] at hreal
    have hattributes : refreshAttributes ⟨.call (linkCall daemon index newparent name),
      .done (.ok none)⟩ = some none := rfl
    have habsent : ¬ Refused (daemon.inode index) [⟨.call (linkCall daemon index newparent name),
        .done (.ok none)⟩] := by
      rw [refused_singleton_iff hattributes]
      exact not_not.mpr rfl
    have hverdict : RefreshVerdict (daemon.inode index) Prod.fst _
      (getattrEnding daemon index .cleared outcome) := getattrEnding_verdict hreal.2.2
    rw [hread] at hverdict
    exact .cons (.cons hverdict habsent) (hmalloc true)

/-- A listing refreshes the directory before it copies the entries. -/
theorem listing_verdict {parent : ℕ} {dirAttributes : Option Fattr3} {cookieverf : UInt64}
    {copy : Prog (ℤ × List ReaddirCtx)} {event : Event EnvAns}
    {ending : Ending Fault Daemon (ℤ × List ReaddirCtx)}
    (hyields : copy.Yields RpcErrno fun result ↦ Errno result.1)
    (hemits : copy.Emits fun event ↦ refreshAttributes event = none)
    (hevent : refreshAttributes event = some dirAttributes)
    (hreal : ∀ event ∈ trace, RpcErrno event)
    (hpath : ((beginListing parent dirAttributes cookieverf >>= fun err ↦
      if err ≠ 0 then pure (err, []) else copy).run daemon).Path trace ending) :
    RefreshVerdict (daemon.inode parent) Prod.fst (event :: trace) ending := by
  by_cases hstatus : daemon.listingStatus parent dirAttributes ≠ 0
  · have hrun := beginListing_run daemon parent dirAttributes cookieverf
    rw [if_pos hstatus] at hrun
    rw [Program.bind_run_of_ret hrun, if_pos hstatus] at hpath
    obtain ⟨rfl, rfl⟩ := hpath
    exact .of_status hevent rfl
  · have hrun := beginListing_run daemon parent dirAttributes cookieverf
    rw [if_neg hstatus] at hrun
    rw [Program.bind_run_of_ret hrun, if_neg (not_not.mpr rfl)] at hpath
    have haccepted : ¬ Refused (daemon.inode parent) [event] := by
      rwa [refused_singleton_iff hevent]
    have hquiet : ∀ event ∈ trace, refreshAttributes event = none := hemits _ _ _ hpath
    refine .cons ?_ haccepted
    cases ending with
    | done value daemon' => exact .of_errno hquiet (hyields _ _ _ _ hreal hpath)
    | crashed reason daemon' => exact not_refused_of_forall hquiet

theorem hsiNfs3Readdir_verdict {parent : ℕ} {count : UInt32} {cookie : UInt64}
    {ending : Ending Fault Daemon (ℤ × List ReaddirCtx)} (hreal : ∀ event ∈ trace, RpcErrno event)
    (hpath : ((hsiNfs3Readdir parent count cookie).run daemon).Path trace ending) :
    RefreshVerdict (daemon.inode parent) Prod.fst trace ending := by
  rw [hsiNfs3Readdir, Prog.getInode_bind] at hpath
  obtain ⟨outcome, rest, rfl, hrest⟩ := Prog.path_clntCall_bind.mp hpath
  rcases outcome with ⟨err, hne⟩ | res | ⟨status, hne⟩
  · obtain ⟨rfl, rfl⟩ := hrest
    exact .of_errno (List.forall_mem_singleton.mpr rfl) (errno_of_rpcErrno hreal)
  · exact listing_verdict (yields_copyEntries _ _)
      (emits_local (within_copyEntries localCache.toPutParts _ _) fun _ _ ↦ rfl) rfl
      (fun event hmem ↦ hreal event (List.mem_cons_of_mem _ hmem)) hrest
  · obtain ⟨rfl, rfl⟩ := hrest
    exact .of_errno (List.forall_mem_singleton.mpr rfl) (hsiNfs3StatToErrno_real hne).errno

theorem hsiNfs3ReaddirPlus_verdict {plat : Platform} {parent : ℕ} {count maxcount : UInt32}
    {cookie : UInt64} {ending : Ending Fault Daemon (ℤ × List ReaddirCtx)}
    (hreal : ∀ event ∈ trace, RpcErrno event)
    (hpath : ((hsiNfs3ReaddirPlus plat parent count cookie maxcount).run daemon).Path trace
      ending) :
    RefreshVerdict (daemon.inode parent) Prod.fst trace ending := by
  rw [hsiNfs3ReaddirPlus, Prog.getInode_bind] at hpath
  obtain ⟨outcome, rest, rfl, hrest⟩ := Prog.path_clntCall_bind.mp hpath
  rcases outcome with ⟨err, hne⟩ | res | ⟨status, hne⟩
  · obtain ⟨rfl, rfl⟩ := hrest
    exact .of_errno (List.forall_mem_singleton.mpr rfl) (errno_of_rpcErrno hreal)
  · exact listing_verdict (yields_copyEntriesPlus _ _ _)
      (emits_local (within_copyEntriesPlus localCache _ _ _) fun _ _ ↦ rfl) rfl
      (fun event hmem ↦ hreal event (List.mem_cons_of_mem _ hmem)) hrest
  · obtain ⟨rfl, rfl⟩ := hrest
    exact .of_errno (List.forall_mem_singleton.mpr rfl) (hsiNfs3StatToErrno_real hne).errno

end Procedures

section Refreshing

variable {daemon : Daemon} {trace : Trace} {ending : Ending Fault Daemon Unit}

theorem hsxFuseGetattr_errorsReal_iff (hcoherent : Coherent daemon) (hreplies : daemon.replies = [])
    {ino : UInt64} (hreal : ∀ event ∈ trace, RpcErrno event)
    (hpath : ((hsxFuseGetattr ino).run daemon).Path trace ending) :
    ErrorsReal false ending ↔
      ∀ index, daemon.findIno ino = some index → ¬ Refused (daemon.inode index) trace := by
  refine errorsReal_ilookup_iff hcoherent hreplies hreal (.reply_real (by decide))
    (fun index hfound ↦ ?_) hpath
  refine refreshing_errorsReal_iff hreplies Prod.fst (within_hsiNfs3Getattr silentCalls index _)
    (fun _ _ hreal hpath ↦ hsiNfs3Getattr_verdict hreal hpath) (fun value ↦ ?_) (fun value ↦ ?_)
    hreal hfound
  · exact .after (within_getInode _) fun _ ↦ .after .get fun _ ↦ .reply nofun
  · exact .bind (.getInode _) fun _ ↦ .bind .get fun _ ↦ .modify _

theorem hsxFuseLink_errorsReal_iff (hcoherent : Coherent daemon) (hreplies : daemon.replies = [])
    {ino newparent : UInt64} {newname : CString} (hreal : ∀ event ∈ trace, RpcErrno event)
    (hpath : ((hsxFuseLink ino newparent newname).run daemon).Path trace ending) :
    ErrorsReal false ending ↔
      ∀ index, daemon.findIno ino = some index → ¬ Refused (daemon.inode index) trace := by
  rw [hsxFuseLink] at hpath
  rcases hcoherent.path_ilookup hpath with ⟨-, hpath⟩ | ⟨parent, -, hpath⟩
  · obtain ⟨rfl, -⟩ := id hpath
    exact iff_of_true (Sends.pure.errorsReal hreplies hreal hpath) fun _ _ ↦
      not_refused_of_forall (List.forall_mem_nil _)
  · refine errorsReal_ilookup_iff hcoherent hreplies hreal .pure (fun index hfound ↦ ?_) hpath
    simp only [← ite_not (_ = (0 : ℤ))] at hfound
    refine refreshing_errorsReal_iff hreplies id
      (within_hsiNfs3Link silentCalls index newname parent)
      (fun _ _ hreal hpath ↦ hsiNfs3Link_verdict hreal hpath) (fun value ↦ ?_) (fun value ↦ ?_)
      hreal hfound
    · exact .after (within_malloc silentBase _ rfl) fun _ ↦ .ite
        (.after (within_hsxFuseFillReply silentBase _) fun param ↦ .reply (param.entry_ne_err ·))
        (.reply_real (by decide))
    · exact .bind (.malloc fun _ ↦ rfl) fun _ ↦ .ite
        (.bind (.bind (.deref _) fun _ ↦ .bind (.getInode _) fun _ ↦ .bind .get fun _ ↦ .pure _)
          fun _ ↦ .modify _) (.modify _)

theorem hsxFuseReaddir_errorsReal_iff (hcoherent : Coherent daemon) (hreplies : daemon.replies = [])
    {plat : Platform} {ino : UInt64} {size : ℕ} {off : UInt64}
    (hreal : ∀ event ∈ trace, RpcErrno event)
    (hpath : ((hsxFuseReaddir plat ino size off).run daemon).Path trace ending) :
    ErrorsReal false ending ↔
      ∀ parent, daemon.findIno ino = some parent → ¬ Refused (daemon.inode parent) trace := by
  refine errorsReal_ilookup_iff hcoherent hreplies hreal (.crash _) (fun parent hfound ↦ ?_) hpath
  refine refreshing_errorsReal_iff hreplies Prod.fst
    (within_hsiNfs3Readdir silentCalls parent silent_verifier _ _)
      (fun _ _ hreal hpath ↦ hsiNfs3Readdir_verdict hreal hpath) (fun value ↦ ?_) (fun value ↦ ?_)
    hreal hfound
  · exact .after (within_malloc silentBase _ rfl) fun _ ↦
      .ite (.reply nofun) (.reply_real (by decide))
  · exact .bind (.malloc fun _ ↦ rfl) fun _ ↦ .ite (.modify _) (.modify _)

theorem hsxFuseReaddirPlus_errorsReal_iff (hcoherent : Coherent daemon)
    (hreplies : daemon.replies = []) {plat : Platform} {ino : UInt64} {size : ℕ} {off : UInt64}
    (hreal : ∀ event ∈ trace, RpcErrno event)
    (hpath : ((hsxFuseReaddirPlus plat ino size off).run daemon).Path trace ending) :
    ErrorsReal false ending ↔
      ∀ parent, daemon.findIno ino = some parent → ¬ Refused (daemon.inode parent) trace := by
  refine errorsReal_ilookup_iff hcoherent hreplies hreal (.crash _) (fun parent hfound ↦ ?_) hpath
  refine refreshing_errorsReal_iff hreplies Prod.fst
    (within_hsiNfs3ReaddirPlus silentCalls plat parent silent_verifier _ _ _)
      (fun _ _ hreal hpath ↦ hsiNfs3ReaddirPlus_verdict hreal hpath) (fun value ↦ ?_)
      (fun value ↦ ?_)
    hreal hfound
  · exact .after (within_malloc silentBase _ rfl) fun _ ↦ .ite
      (.after (within_packDirentsPlus silentCounts plat size _ 0 []) fun _ ↦ .reply nofun)
      (.reply_real (by decide))
  · exact .bind (.malloc fun _ ↦ rfl) fun _ ↦ .ite
      (.bind (emits_local (within_packDirentsPlus localCounts plat size _ 0 []) fun _ _ ↦ rfl)
        fun _ ↦ .modify _) (.modify _)

end Refreshing

/-! ## All handlers -/

/-- The requests whose success reply is `fuse_reply_err(req, 0)`. -/
def Request.succeedsWithZero : Request → Bool
  | .unlink .. | .rmdir .. | .rename .. | .access .. | .release .. | .setxattr .. => true
  | _ => false

/-- The inode number whose refresh status a request returns. -/
def Request.refreshed? : Request → Option UInt64
  | .getattr ino | .link ino _ _ | .readdir ino _ _ | .readdirplus ino _ _ => some ino
  | _ => none

/-- The attributes that came back for the refreshed inode are its own. -/
def RefreshesSucceed (daemon : Daemon) (request : Request) (trace : Trace) : Prop :=
  ∀ ino, request.refreshed? = some ino →
    ∀ index, daemon.findIno ino = some index → ¬ Refused (daemon.inode index) trace

/-- Every error that a handler replies is an error number, and 0 only for success, exactly if no
refresh has been refused. -/
theorem error_replies_real_iff (plat : Platform) (fuel : ℕ) (daemon : Daemon) (request : Request)
    (trace : Trace) (ending : Ending Fault Daemon Unit) (hcoherent : Coherent daemon)
    (hreplies : daemon.replies = []) (hreal : ∀ event ∈ trace, RpcErrno event)
    (hpath : ((handle plat fuel request).run daemon).Path trace ending) :
    ErrorsReal request.succeedsWithZero ending ↔ RefreshesSucceed daemon request trace := by
  have hplain (hnone : request.refreshed? = none)
      (hsends : Sends request.succeedsWithZero (handle plat fuel request)) :
      ErrorsReal request.succeedsWithZero ending ↔ RefreshesSucceed daemon request trace := by
    refine iff_of_true (hsends.errorsReal hreplies hreal hpath) fun ino hsome ↦ ?_
    rw [hnone] at hsome
    cases hsome
  have hrefreshed {ino : UInt64} (hsome : request.refreshed? = some ino) :
      RefreshesSucceed daemon request trace ↔
        ∀ index, daemon.findIno ino = some index → ¬ Refused (daemon.inode index) trace := by
    simp only [RefreshesSucceed, hsome, Option.some.injEq, forall_eq']
  cases request with
  | getattr ino =>
    rw [hrefreshed rfl]
    exact hsxFuseGetattr_errorsReal_iff hcoherent hreplies hreal hpath
  | setattr ino attr toSet => exact hplain rfl (sends_hsxFuseSetattr ino attr toSet)
  | lookup parent name => exact hplain rfl (sends_hsxFuseLookup plat parent name)
  | forget ino nlookup => exact hplain rfl (sends_hsxFuseForget ino nlookup)
  | mkdir parent name mode => exact hplain rfl (sends_hsxFuseMkdir plat parent name mode)
  | rmdir parent name => exact hplain rfl (sends_hsxFuseRmdir parent name)
  | unlink parent name => exact hplain rfl (sends_hsxFuseUnlink parent name)
  | rename parent name newparent newname flags =>
    exact hplain rfl (sends_hsxFuseRename parent name newparent newname flags)
  | symlink link parent name => exact hplain rfl (sends_hsxFuseSymlink plat parent name link)
  | readlink ino => exact hplain rfl (sends_hsxFuseReadlink ino)
  | link ino newparent newname =>
    rw [hrefreshed rfl]
    exact hsxFuseLink_errorsReal_iff hcoherent hreplies hreal hpath
  | mknod parent name mode rdev => exact hplain rfl (sends_hsxFuseMknod plat parent name mode rdev)
  | create parent name mode flags uid gid =>
    exact hplain rfl (sends_hsxFuseCreate plat parent name mode flags uid gid)
  | openFile ino => exact hplain rfl sends_hsxFuseOpen
  | opendir ino => exact hplain rfl (sends_hsxFuseOpendir ino)
  | release ino => exact hplain rfl sends_hsxFuseRelease
  | read ino size off => exact hplain rfl (sends_hsxFuseRead ino fuel size off)
  | write ino data off directIo => exact hplain rfl (sends_hsxFuseWrite ino fuel data off directIo)
  | readdir ino size off =>
    rw [hrefreshed rfl]
    exact hsxFuseReaddir_errorsReal_iff hcoherent hreplies hreal hpath
  | readdirplus ino size off =>
    rw [hrefreshed rfl]
    exact hsxFuseReaddirPlus_errorsReal_iff hcoherent hreplies hreal hpath
  | access ino mask => exact hplain rfl (sends_hsxFuseAccess ino mask)
  | statfs ino => exact hplain rfl sends_hsxFuseStatfs
  | getxattr ino name size => exact hplain rfl (sends_hsxFuseGetxattr ino name size)
  | setxattr ino name value => exact hplain rfl (sends_hsxFuseSetxattr ino name value)

/-- Attributes that belong to the exported directory. -/
def exportAttr : Fattr3 := { plainAttr with type := nf3dir, mode := 0o755, fileid := 2 }

/-- A `GETATTR` of the root that brings the root's attributes. -/
theorem error_replies_real_getattr :
    ∃ ending, ((handle linuxHost 1 (.getattr 1)).run mountedCache).Path
        [⟨.call (.getattr [0]), RpcOutcome.done (.ok exportAttr)⟩] ending ∧
      ErrorsReal false ending := by
  have hcoherent := mounted_mountedCache.coherent
  have hattributes : refreshAttributes
    ⟨.call (.getattr [0]), RpcOutcome.done (.ok exportAttr)⟩ = some (some exportAttr) := rfl
  have hsucceed : RefreshesSucceed mountedCache (.getattr 1)
      [⟨.call (.getattr [0]), RpcOutcome.done (.ok exportAttr)⟩] := by
    rintro ino hino index hindex
    cases hino
    cases hindex
    rw [refused_singleton_iff hattributes]
    decide
  have hpath : ∃ ending, ((handle linuxHost 1 (.getattr 1)).run mountedCache).Path
      [⟨.call (.getattr [0]), RpcOutcome.done (.ok exportAttr)⟩] ending := by
    rw [handle, hsxFuseGetattr, hcoherent.ilookup_bind]
    exact ⟨_, _, _, rfl, rfl, rfl⟩
  have hreal : RpcErrno ⟨.call (.getattr [0]), RpcOutcome.done (.ok exportAttr)⟩ := trivial
  obtain ⟨ending, hpath⟩ := hpath
  exact ⟨ending, hpath, (error_replies_real_iff linuxHost 1 mountedCache
    (.getattr 1) _ _ hcoherent rfl
    (List.forall_mem_singleton.mpr hreal) hpath).mpr hsucceed⟩

/-- A `GETATTR` of the root answered with the attributes of another object replies a negative
error. -/
theorem getattr_replies_negative :
    Coherent mountedCache ∧ mountedCache.replies = [] ∧
    ((handle linuxHost 1 (.getattr 1)).run mountedCache).Path
      [⟨.call (.getattr [0]), RpcOutcome.done (.ok plainAttr)⟩]
      (.done () (mountedCache.setReplies [.err (-116)])) ∧
    ¬ ErrorsReal false (.done () (mountedCache.setReplies [.err (-116)])) := by
  have hcoherent := mounted_mountedCache.coherent
  refine ⟨hcoherent, rfl, ?_, fun h ↦ ?_⟩
  · rw [handle, hsxFuseGetattr, hcoherent.ilookup_bind]
    exact ⟨_, _, rfl, rfl, rfl⟩
  · exact absurd (h (-116) List.mem_cons_self).1.1 (by decide)

end NfsFuse
