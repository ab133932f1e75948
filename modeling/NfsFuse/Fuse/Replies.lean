import NfsFuse.Fuse.Counting

/-!
# Handlers that always reply once

From a coherent cache the procedures below most handlers return whatever the environment answers,
and so the handlers reach their reply.  `Returns` and `RepliesOnce` say this for a part of a handler
and for one that ends with a reply; both are closed under sequencing.
-/

namespace NfsFuse

open Lib

/-- Every complete run from a coherent cache returns and keeps the cache. -/
def Returns {α : Type} (program : Prog α) : Prop :=
  program.Achieves Coherent fun daemon _ daemon' ↦ Coherent daemon' ∧ Grows daemon daemon'

namespace Returns

variable {α β : Type}

theorem bind {first : Prog α} {next : α → Prog β} (hfirst : Returns first)
    (hnext : ∀ value, Returns (next value)) : Returns (first >>= next) :=
  Program.Achieves.bind hfirst hnext (fun _ _ _ _ hmid ↦ hmid.1)
    fun _ _ _ _ _ _ hmid hlast ↦ ⟨hlast.1, hmid.2.trans hlast.2⟩

/-- A step that returns at once and keeps the cache. -/
theorem of_run {program : Prog α} (hkeeps : program.Respects KeepsCoherent)
    (hrun : ∀ daemon, Coherent daemon → ∃ value daemon', program.run daemon = .ret value daemon') :
    Returns program := by
  refine Program.Achieves.of_run fun daemon hcoherent ↦ ?_
  obtain ⟨value, daemon', heq⟩ := hrun daemon hcoherent
  exact ⟨value, daemon', heq,
    hkeeps daemon [] value daemon' (by rw [heq]; exact ⟨rfl, rfl⟩) hcoherent⟩

theorem pure (value : α) : Returns (Pure.pure value : Prog α) :=
  of_run (.pure value) fun daemon _ ↦ ⟨value, daemon, rfl⟩

theorem get : Returns (Program.get : Prog Daemon) :=
  of_run .get fun daemon _ ↦ ⟨daemon, daemon, rfl⟩

theorem getInode (index : ℕ) : Returns (Prog.getInode index) :=
  of_run (.getInode index) fun daemon _ ↦ ⟨daemon.inode index, daemon, rfl⟩

theorem clntCall (procedure : Call) : Returns (Prog.clntCall procedure) :=
  Program.Achieves.ask fun daemon _ hcoherent ↦ ⟨hcoherent, Grows.refl daemon⟩

theorem malloc (site : MallocSite) : Returns (Prog.malloc site) :=
  Program.Achieves.ask fun daemon _ hcoherent ↦ ⟨hcoherent, Grows.refl daemon⟩

theorem ite {condition : Prop} [Decidable condition] {yes no : Prog α} (hyes : Returns yes)
    (hno : Returns no) : Returns (if condition then yes else no) :=
  Program.Achieves.ite hyes hno

theorem hsfsIlookup (ino : UInt64) : Returns (NfsFuse.hsfsIlookup ino) :=
  of_run (keeps_hsfsIlookup ino) fun daemon hcoherent ↦
    ⟨_, daemon, hsfsIlookup_run hcoherent.live ino⟩

theorem nfsRefreshInode (index : ℕ) (fattr : NfsFattr) :
    Returns (NfsFuse.nfsRefreshInode index fattr) :=
  of_run (keeps_nfsRefreshInode index fattr) fun _ _ ↦ ⟨_, _, rfl⟩

end Returns

theorem returns_hsiNfs3Getattr (index : ℕ) (st : Stat) : Returns (hsiNfs3Getattr index st) := by
  refine .bind (.getInode index) fun inode ↦ .bind (.bind (.clntCall _) fun outcome ↦ ?_) fun _ ↦
    .ite (.pure _) (.bind (.nfsRefreshInode _ _) fun _ ↦ .pure _)
  match outcome with
  | .fail err hne => exact .pure _
  | .done (.fail status hne) => exact .pure _
  | .done (.ok attr) => exact .pure _

theorem returns_hsiNfsSetattr (index : ℕ) (attr : HsfsIattr) :
    Returns (hsiNfsSetattr index attr) := by
  refine .bind (.getInode index) fun inode ↦ .ite (.pure _) (.bind ?_ fun result ↦ ?_)
  · refine .bind (.getInode index) fun inode ↦ .bind (.clntCall _) fun outcome ↦ ?_
    match outcome with
    | .fail err hne => exact .pure _
    | .done (.fail status hne) => exact .pure _
    | .done (.ok none) => exact .pure _
    | .done (.ok (some attributes)) => exact .pure _
  · exact .ite (.bind (.nfsRefreshInode _ _) fun _ ↦ .pure _) (.pure _)

theorem returns_hsiNfs3Link (index newparent : ℕ) {name : CString}
    (hlength : name.length ≠ nameMax) :
    Returns (hsiNfs3Link index newparent name) := by
  unfold hsiNfs3Link
  split_ifs with hlong
  · exact .pure _
  · have hfits : name.length + 1 ≤ nameMax := by omega
    refine .bind (.bind (.malloc _) fun _ ↦ .ite ?_ (.pure _)) fun copied ↦ .ite ?_ (.pure _)
    · rw [if_pos hfits]
      exact .pure _
    · refine .bind (.getInode index) fun inode ↦ .bind (.getInode newparent) fun parent ↦
        .bind (.clntCall _) fun outcome ↦ ?_
      match outcome with
      | .fail err hne => exact .pure _
      | .done (.fail status hne) => exact .pure _
      | .done (.ok attributes) =>
        exact .ite (.bind (returns_hsiNfs3Getattr index _) fun _ ↦ .pure _) (.nfsRefreshInode _ _)

theorem returns_hsiNfs3Statfs (index : ℕ) : Returns (hsiNfs3Statfs index) := by
  refine .bind (.getInode index) fun inode ↦ .bind (.clntCall _) fun outcome ↦ ?_
  match outcome with
  | .fail err hne => exact .pure _
  | .done (.fail status hne) => exact .pure _
  | .done (.ok res) =>
    refine .bind (.of_run (keeps_modifySuper ?_ ?_ ?_ ?_ ?_ ?_) fun _ _ ↦ ⟨_, _, rfl⟩) fun _ ↦
      .pure _
    all_goals exact fun _ ↦ rfl

theorem returns_freeCtx_null {chain : List ReaddirCtx} (h : ∀ ctx ∈ chain, ctx.inode = .null) :
    Returns (freeCtx chain) := by
  induction chain with
  | nil => exact .pure _
  | cons ctx rest ih =>
    rw [List.forall_mem_cons] at h
    rw [freeCtx, h.1]
    exact .bind (.pure _) fun _ ↦ ih h.2

theorem returns_beginListing (parent : ℕ) (dirAttributes : Option Fattr3) (cookieverf : UInt64) :
    Returns (beginListing parent dirAttributes cookieverf) := by
  refine .bind (.nfsRefreshInode _ _) fun err ↦ .ite (.pure _) (.bind ?_ fun _ ↦ .pure _)
  refine .of_run (keeps_modifyInode _ (fun _ ↦ rfl) (fun _ ↦ rfl) (fun _ ↦ rfl) (fun _ ↦ rfl)
    fun inode hok ↦ ?_) fun _ _ ↦ ⟨_, _, rfl⟩
  exact ⟨hok.fh_wellFormed, hok.realIno_eq, hok.flags_eq, hok.iState_eq, hok.iRdev_eq, hok.valid_eq,
    hok.iCount_le⟩

theorem returns_copyEntries (entries : List Entry3) {chain : List ReaddirCtx}
    (h : ∀ ctx ∈ chain, ctx.inode = .null) : Returns (copyEntries entries chain) := by
  induction entries generalizing chain with
  | nil => exact .pure _
  | cons entry rest ih =>
    refine .bind (.bind (.malloc _) fun _ ↦
      .ite (.bind (.malloc _) fun _ ↦ .ite (.pure _) (.pure _))
      (.pure _)) fun name ↦ ?_
    cases name with
    | none => exact .bind (returns_freeCtx_null h) fun _ ↦ .pure _
    | some name =>
      refine ih fun ctx hmem ↦ ?_
      rcases List.mem_append.mp hmem with hmem | hmem
      · exact h ctx hmem
      · rw [List.mem_singleton.mp hmem]

theorem returns_hsiNfs3Readdir (parent : ℕ) (count : UInt32) (cookie : UInt64) :
    Returns (hsiNfs3Readdir parent count cookie) := by
  refine .bind (.getInode parent) fun inode ↦ .bind (.clntCall _) fun outcome ↦ ?_
  match outcome with
  | .fail err hne => exact .pure _
  | .done (.fail status hne) => exact .pure _
  | .done (.ok res) =>
    exact .bind (returns_beginListing _ _ _) fun err ↦
      .ite (.pure _) (returns_copyEntries _ fun _ hmem ↦ absurd hmem List.not_mem_nil)

theorem returns_hsiNfs3Getxattr (index : ℕ) (mask : UInt32) (type : AclType) :
    Returns (hsiNfs3Getxattr index mask type) := by
  refine .bind (.getInode index) fun inode ↦ .bind .get fun daemon ↦ .ite (.pure _) ?_
  refine .bind (.clntCall _) fun outcome ↦ ?_
  match outcome with
  | .fail err hne => exact .pure _
  | .done (.fail status hne) => exact .pure _
  | .done (.ok acl) =>
    refine .bind (.malloc _) fun _ ↦ .ite ?_ (.pure _)
    cases type with
    | access => exact .pure _
    | default => exact .pure _

/-! ## Handlers -/

/-- The run has returned after one more reply. -/
def RepliedOnce (daemon : Daemon) (ending : Ending Fault Daemon Unit) : Prop :=
  ∃ daemon', ending = .done () daemon' ∧ daemon'.replies.length = daemon.replies.length + 1

/-- Every complete run from a coherent cache returns after exactly one reply. -/
def RepliesOnce (program : Prog Unit) : Prop :=
  program.Achieves Coherent fun daemon _ daemon' ↦
    daemon'.replies.length = daemon.replies.length + 1

namespace RepliesOnce

theorem repliedOnce {program : Prog Unit} (h : RepliesOnce program) {daemon : Daemon}
    (hcoherent : Coherent daemon) {trace : Trace} {ending : Ending Fault Daemon Unit}
    (hpath : (program.run daemon).Path trace ending) : RepliedOnce daemon ending := by
  obtain ⟨⟨⟩, daemon', rfl, hlength⟩ := h daemon trace ending hcoherent hpath
  exact ⟨daemon', rfl, hlength⟩

theorem reply (message : FuseReply) : RepliesOnce (Prog.reply message) :=
  Program.Achieves.of_run fun _ _ ↦ ⟨(), _, rfl, List.length_append⟩

/-- A part that returns does not reply. -/
theorem bind {α : Type} {first : Prog α} {next : α → Prog Unit} (hfirst : Returns first)
    (hnext : ∀ value, RepliesOnce (next value)) : RepliesOnce (first >>= next) :=
  Program.Achieves.bind hfirst hnext (fun _ _ _ _ hmid ↦ hmid.1)
    fun _ _ _ _ _ _ hmid hlast ↦ by rw [hlast, hmid.2.replies_eq]

theorem ite {condition : Prop} [Decidable condition] {yes no : Prog Unit} (hyes : RepliesOnce yes)
    (hno : RepliesOnce no) : RepliesOnce (if condition then yes else no) :=
  Program.Achieves.ite hyes hno

/-- The branches of a handler on the result of `hsfs_ilookup`. -/
theorem ilookup {ino : UInt64} {found : ℕ → Prog Unit} {missing : Prog Unit}
    (hfound : ∀ index, RepliesOnce (found index)) (hmissing : RepliesOnce missing) :
    RepliesOnce (hsfsIlookup ino >>= fun ptr ↦ match ptr with
      | .obj index => found index
      | _ => missing) := by
  refine .bind (.hsfsIlookup ino) fun ptr ↦ ?_
  cases ptr with
  | obj index => exact hfound index
  | null => exact hmissing
  | err error => exact hmissing

end RepliesOnce

theorem repliesOnce_hsxFuseGetattr (ino : UInt64) : RepliesOnce (hsxFuseGetattr ino) := by
  refine .ilookup (fun index ↦ ?_) (.reply _)
  refine .bind (returns_hsiNfs3Getattr index _) fun result ↦ .ite (.reply _) ?_
  exact .bind (.getInode index) fun inode ↦ .bind .get fun daemon ↦ .reply _

theorem repliesOnce_hsxFuseSetattr (ino : UInt64) (attr : Stat) (toSet : UInt32) :
    RepliesOnce (hsxFuseSetattr ino attr toSet) := by
  refine .ilookup (fun index ↦ ?_) (.reply _)
  refine .bind (returns_hsiNfsSetattr index _) fun err ↦ .ite (.reply _) ?_
  exact .bind (.getInode index) fun inode ↦ .bind .get fun daemon ↦ .reply _

theorem repliesOnce_hsxFuseUnlink (parent : UInt64) (name : CString) :
    RepliesOnce (hsxFuseUnlink parent name) := by
  refine .ite (.reply _) (.ite (.reply _) (.ilookup (fun index ↦ ?_) (.reply _)))
  refine .bind (.bind (.getInode index) fun inode ↦ .bind (.clntCall _) fun _ ↦ .pure _)
    fun err ↦ ?_
  exact .reply _

theorem repliesOnce_hsxFuseRename (parent : UInt64) (name : CString) (newparent : UInt64)
    (newname : CString) (flags : UInt32) :
    RepliesOnce (hsxFuseRename parent name newparent newname flags) := by
  refine .ite (.reply _) (.ite (.reply _) (.ite (.reply _) (.ite (.reply _) (.ite (.reply _) ?_))))
  refine .ilookup (fun index ↦ .ilookup (fun newindex ↦ ?_) (.reply _)) (.reply _)
  refine .bind (.bind (.getInode index) fun inode ↦ .bind (.getInode newindex) fun newInode ↦
    .bind (.clntCall _) fun _ ↦ .pure _) fun err ↦ ?_
  exact .reply _

theorem repliesOnce_hsxFuseOpen : RepliesOnce hsxFuseOpen :=
  .bind (.malloc _) fun _ ↦ .ite (.reply _) (.reply _)

theorem repliesOnce_hsxFuseOpendir (ino : UInt64) : RepliesOnce (hsxFuseOpendir ino) :=
  .ilookup (fun _ ↦ .reply _) (.reply _)

theorem repliesOnce_hsxFuseGetxattr (ino : UInt64) (name : CString) (size : ℕ) :
    RepliesOnce (hsxFuseGetxattr ino name size) := by
  unfold hsxFuseGetxattr
  split
  · exact .reply _
  · refine .ilookup (fun index ↦ ?_) (.reply _)
    refine .bind (returns_hsiNfs3Getxattr index _ _) fun ⟨err, acl⟩ ↦ ?_
    cases acl with
    | none => exact .reply _
    | some acl =>
      refine .bind (.malloc _) fun buf ↦ .ite (.reply _) ?_
      exact .ite (.reply _) (.ite (.reply _) (.reply _))

/-- The number is that of a cached inode. -/
def Daemon.Caches (daemon : Daemon) (ino : UInt64) : Prop := (daemon.findIno ino).isSome

theorem Daemon.caches_of_some {daemon : Daemon} {ino : UInt64} {index : ℕ}
    (h : daemon.findIno ino = some index) : daemon.Caches ino := by
  rw [Daemon.Caches, h]
  rfl

theorem Daemon.not_caches_of_none {daemon : Daemon} {ino : UInt64} (h : daemon.findIno ino = none) :
    ¬ daemon.Caches ino := by
  rw [Daemon.Caches, h]
  exact Bool.false_ne_true

/-- A handler that replies once for a cached inode, and otherwise ends without a reply. -/
theorem repliedOnce_iff_caches {ino : UInt64} {found : ℕ → Prog Unit} {missing : Prog Unit}
    (hfound : ∀ index, RepliesOnce (found index))
    (hmissing : ∀ daemon trace ending, (missing.run daemon).Path trace ending →
      ¬ RepliedOnce daemon ending)
    {daemon : Daemon} (hcoherent : Coherent daemon) {trace : Trace}
    {ending : Ending Fault Daemon Unit}
    (hpath : ((hsfsIlookup ino >>= fun ptr ↦ match ptr with
      | .obj index => found index
      | _ => missing).run daemon).Path trace ending) :
    RepliedOnce daemon ending ↔ daemon.Caches ino := by
  rcases hcoherent.path_ilookup hpath with ⟨hfind, hpath⟩ | ⟨index, hfind, hpath⟩
  · exact iff_of_false (hmissing daemon trace ending hpath) (Daemon.not_caches_of_none hfind)
  · exact iff_of_true ((hfound index).repliedOnce hcoherent hpath) (Daemon.caches_of_some hfind)

/-- Returning without a reply. -/
theorem not_repliedOnce_pure (daemon : Daemon) (trace : Trace) (ending : Ending Fault Daemon Unit)
    (hpath : ((Pure.pure () : Prog Unit).run daemon).Path trace ending) :
    ¬ RepliedOnce daemon ending := by
  rintro ⟨daemon', rfl, hlength⟩
  cases hpath.2
  omega

theorem not_repliedOnce_crashed {daemon daemon' : Daemon} {reason : Fault} :
    ¬ RepliedOnce daemon (.crashed reason daemon') := by
  rintro ⟨_, heq, -⟩
  cases heq

theorem not_repliedOnce_crash (reason : Fault) (daemon : Daemon) (trace : Trace)
    (ending : Ending Fault Daemon Unit)
    (hpath : ((Program.crash reason : Prog Unit).run daemon).Path trace ending) :
    ¬ RepliedOnce daemon ending := by
  rintro ⟨daemon', rfl, -⟩
  cases hpath.2

section Cached

variable {daemon : Daemon} (hcoherent : Coherent daemon) {trace : Trace}
  {ending : Ending Fault Daemon Unit}

include hcoherent

theorem hsxFuseAccess_repliedOnce_iff {ino : UInt64} {mask : UInt32}
    (hpath : ((hsxFuseAccess ino mask).run daemon).Path trace ending) :
    RepliedOnce daemon ending ↔ daemon.Caches ino := by
  refine repliedOnce_iff_caches (fun index ↦ ?_) not_repliedOnce_pure hcoherent hpath
  refine .bind (.getInode index) fun inode ↦ .bind ?_ fun err ↦ .reply _
  exact .bind (.getInode index) fun inode ↦ .bind (.clntCall _) fun _ ↦ .pure _

theorem hsxFuseRmdir_repliedOnce_iff {parent : UInt64} {name : CString}
    (hpath : ((hsxFuseRmdir parent name).run daemon).Path trace ending) :
    RepliedOnce daemon ending ↔ daemon.Caches parent := by
  refine repliedOnce_iff_caches (fun index ↦ .bind ?_ fun err ↦ .reply _) not_repliedOnce_pure
    hcoherent hpath
  exact .bind (.getInode index) fun inode ↦ .bind (.clntCall _) fun _ ↦ .pure _

theorem hsxFuseReaddir_repliedOnce_iff {plat : Platform} {ino : UInt64} {size : ℕ} {off : UInt64}
    (hpath : ((hsxFuseReaddir plat ino size off).run daemon).Path trace ending) :
    RepliedOnce daemon ending ↔ daemon.Caches ino := by
  refine repliedOnce_iff_caches (fun index ↦ ?_) (not_repliedOnce_crash _) hcoherent hpath
  refine .bind (returns_hsiNfs3Readdir index _ off) fun result ↦ .ite (.reply _) ?_
  exact .bind (.malloc _) fun _ ↦ .ite (.reply _) (.reply _)

end Cached

/-- A run that begins with `hsi_nfs3_readlink`. -/
theorem hsiNfs3Readlink_bind_path {α : Type} {index : ℕ} {next : ℤ × Option CString → Prog α}
    {daemon : Daemon} {trace : Trace} {ending : Ending Fault Daemon α}
    (hpath : ((hsiNfs3Readlink index >>= next).run daemon).Path trace ending) :
    (∃ err outcome rest, err ≠ 0 ∧
      trace = ⟨.call (.readlink (hsiNfs3Getfh3 (daemon.inode index))), outcome⟩ :: rest ∧
      ((next (err, none)).run daemon).Path rest ending) ∨
    (∃ text granted rest,
      trace = ⟨.call (.readlink (hsiNfs3Getfh3 (daemon.inode index))), .done (.ok text)⟩ ::
        ⟨.malloc .readlinkText, granted⟩ :: rest ∧
      ((next (0, if granted then some (text.takeWhile (· != 0)) else none)).run daemon).Path rest
        ending) := by
  obtain ⟨outcome, rest, rfl, hrest⟩ := hpath
  match outcome with
  | .fail err hne => exact Or.inl ⟨err, _, rest, hne, rfl, hrest⟩
  | .done (.fail status hne) =>
    exact Or.inl ⟨_, _, rest, hsiNfs3StatToErrno_ne_zero hne, rfl, hrest⟩
  | .done (.ok text) =>
    obtain ⟨granted, rest, rfl, hrest⟩ := hrest
    refine Or.inr ⟨text, granted, rest, rfl, ?_⟩
    cases granted with
    | true => exact hrest
    | false => exact hrest

/-- What `hsi_nfs3_read` makes of an outcome. -/
def readResult : RpcOutcome Read3resok → ℤ × Option Read3resok
  | .fail err _ => (err, none)
  | .done (.fail status _) => (hsiNfs3StatToErrno status, none)
  | .done (.ok res) => (0, some res)

theorem hsiNfs3Read_bind_path {α : Type} {index : ℕ} {offset : UInt64} {size : ℕ}
    {next : ℤ × Option Read3resok → Prog α} {daemon : Daemon} {trace : Trace}
    {ending : Ending Fault Daemon α}
    (hpath : ((hsiNfs3Read index offset size >>= next).run daemon).Path trace ending) :
    ∃ outcome rest,
      trace = ⟨.call (.read (hsiNfs3Getfh3 (daemon.inode index)) offset size), outcome⟩ :: rest ∧
        ((next (readResult outcome)).run daemon).Path rest ending := by
  obtain ⟨outcome, rest, rfl, hrest⟩ := hpath
  refine ⟨outcome, rest, rfl, ?_⟩
  match outcome with
  | .fail err hne => exact hrest
  | .done (.fail status hne) => exact hrest
  | .done (.ok res) => exact hrest

/-- What `hsi_nfs3_write` makes of an outcome. -/
def writeResult : RpcOutcome UInt32 → ℤ × ℕ
  | .fail err _ => (err, 0)
  | .done (.fail status _) => (hsiNfs3StatToErrno status, 0)
  | .done (.ok count) => (0, count.toNat)

theorem hsiNfs3Write_bind_path {α : Type} {index : ℕ} {offset : UInt64} {stable : ℤ}
    {data : List UInt8} {next : ℤ × ℕ → Prog α} {daemon : Daemon} {trace : Trace}
    {ending : Ending Fault Daemon α}
    (hpath : ((hsiNfs3Write index offset stable data >>= next).run daemon).Path trace ending) :
    ∃ outcome rest,
      trace = ⟨.call (.write (hsiNfs3Getfh3 (daemon.inode index)) offset data.length stable data),
        outcome⟩ :: rest ∧ ((next (writeResult outcome)).run daemon).Path rest ending := by
  obtain ⟨outcome, rest, rfl, hrest⟩ := hpath
  refine ⟨outcome, rest, rfl, ?_⟩
  match outcome with
  | .fail err hne => exact hrest
  | .done (.fail status hne) => exact hrest
  | .done (.ok count) => exact hrest

/-- With more fuel than the run has events the loop of `hsx_fuse_write` returns. -/
theorem writeLoop_done {index : ℕ} {data : List UInt8} {off : UInt64} {stable : ℤ} {fuel cnt : ℕ}
    {daemon : Daemon} {trace : Trace} {ending : Ending Fault Daemon (ℤ × ℕ)}
    (hfuel : trace.length < fuel)
    (hpath : ((writeLoop index data off stable fuel cnt).run daemon).Path trace ending) :
    ∃ result, ending = .done result daemon := by
  induction fuel generalizing cnt trace with
  | zero => exact absurd hfuel (Nat.not_lt_zero _)
  | succ fuel ih =>
    unfold writeLoop at hpath
    split_ifs at hpath
    · rw [Program.get_bind] at hpath
      obtain ⟨outcome, rest, rfl, hrest⟩ := hsiNfs3Write_bind_path hpath
      dsimp only at hrest
      split_ifs at hrest
      · exact ⟨_, hrest.2⟩
      · exact ih (Nat.lt_of_succ_lt_succ hfuel) hrest
    · exact ⟨_, hpath.2⟩

/-- The data of the replies fits into the buffer of a read that has received `cnt` bytes, up to the
reply that ends the loop of `hsx_fuse_read`. -/
def readFits (size : ℕ) : ℕ → Trace → Bool
  | _, [] => true
  | cnt, ⟨.call (.read _ _ _), .done (.ok res)⟩ :: rest =>
      cnt + res.data.length ≤ size && (res.eof || readFits size (cnt + res.count.toNat) rest)
  | cnt, _ :: rest => readFits size cnt rest

/-- With more fuel than the run has events the loop of `hsx_fuse_read` returns if the data that it
receives fits, and runs over the end of its buffer if not. -/
theorem readLoop_ending {index size : ℕ} {off : UInt64} {fuel cnt : ℕ}
    {buf : List (Option UInt8)} {daemon : Daemon} {trace : Trace}
    {ending : Ending Fault Daemon (ℤ × ℕ × List (Option UInt8))} (hfuel : trace.length < fuel)
    (hpath : ((readLoop index size off fuel cnt buf).run daemon).Path trace ending) :
    if readFits size cnt trace then ∃ result, ending = .done result daemon
    else ending = .crashed .undefined daemon := by
  induction fuel generalizing cnt buf trace with
  | zero => exact absurd hfuel (Nat.not_lt_zero _)
  | succ fuel ih =>
    unfold readLoop at hpath
    split_ifs at hpath
    · rw [Program.get_bind] at hpath
      obtain ⟨outcome, rest, rfl, hrest⟩ := hsiNfs3Read_bind_path hpath
      match outcome with
      | .fail err hne =>
        rw [hrest.1]
        exact ⟨_, hrest.2⟩
      | .done (.fail status hne) =>
        rw [hrest.1]
        exact ⟨_, hrest.2⟩
      | .done (.ok res) =>
        simp only [readResult] at hrest
        rw [readFits]
        split_ifs at hrest with hfits heof
        · rw [heof, decide_eq_true hfits]
          exact ⟨_, hrest.2⟩
        · rw [Bool.eq_false_of_not_eq_true heof, decide_eq_true hfits]
          exact ih (Nat.lt_of_succ_lt_succ hfuel) hrest
        · rw [decide_eq_false hfits]
          exact hrest.2
    · rw [hpath.1]
      exact ⟨_, hpath.2⟩

/-- A reply that is the last step of a run. -/
theorem repliedOnce_reply {daemon daemon₁ : Daemon} (hreplies : daemon₁.replies = daemon.replies)
    {message : FuseReply} {trace : Trace} {ending : Ending Fault Daemon Unit}
    (hpath : ((Prog.reply message).run daemon₁).Path trace ending) : RepliedOnce daemon ending := by
  refine ⟨_, hpath.2, ?_⟩
  change (daemon₁.replies ++ [message]).length = _
  rw [hreplies, List.length_append]
  rfl

/-- The copy of a name of `NAME_MAX` bytes has no room for its terminator. -/
def NameFits (site : MallocSite) (name : CString) (trace : Trace) : Prop :=
  name.length = nameMax → (⟨.malloc site, true⟩ : Event EnvAns) ∉ trace

theorem keeps_hsxFuseFillReply (ptr : InodePtr) : (hsxFuseFillReply ptr).Respects KeepsCoherent :=
  .bind (.deref ptr) fun index ↦ .bind (.getInode index) fun _ ↦ .bind .get fun _ ↦ .pure _

section Rest

variable {daemon : Daemon} (hcoherent : Coherent daemon) {trace : Trace}
  {ending : Ending Fault Daemon Unit}

include hcoherent

theorem hsxFuseWrite_repliedOnce {fuel : ℕ} {ino : UInt64} {data : List UInt8} {off : UInt64}
    {directIo : Bool} (hfuel : trace.length < fuel)
    (hpath : ((hsxFuseWrite fuel ino data off directIo).run daemon).Path trace ending) :
    RepliedOnce daemon ending := by
  obtain ⟨granted, rest, rfl, hrest⟩ := Prog.path_malloc_bind.mp hpath
  rw [List.length_cons] at hfuel
  cases granted with
  | false => exact repliedOnce_reply rfl hrest
  | true =>
    rw [if_pos rfl] at hrest
    rcases hcoherent.path_ilookup hrest with ⟨-, hrest⟩ | ⟨index, -, hrest⟩
    · exact repliedOnce_reply rfl hrest
    · rcases Program.path_bind.mp hrest with ⟨⟨err, cnt⟩, daemon₁, front, back, hloop, hlast, rfl⟩ |
        ⟨reason, daemon₁, hloop, -⟩
      · obtain ⟨_, heq⟩ := writeLoop_done (by rw [List.length_append] at hfuel; omega) hloop
        cases heq
        dsimp only at hlast
        split_ifs at hlast
        · exact repliedOnce_reply rfl hlast
        · exact repliedOnce_reply rfl hlast
      · obtain ⟨_, heq⟩ := writeLoop_done (by omega) hloop
        cases heq

theorem hsxFuseRead_repliedOnce_iff {fuel : ℕ} {ino : UInt64} {size : ℕ} {off : UInt64}
    (hfuel : trace.length < fuel)
    (hpath : ((hsxFuseRead fuel ino size off).run daemon).Path trace ending) :
    RepliedOnce daemon ending ↔ (daemon.Caches ino → readFits size 0 trace = true) := by
  obtain ⟨granted, rest, rfl, hrest⟩ := Prog.path_malloc_bind.mp hpath
  rw [List.length_cons] at hfuel
  rw [show readFits size 0 (⟨.malloc .readBuf, granted⟩ :: rest) = readFits size 0 rest from rfl]
  cases granted with
  | false =>
    cases hrest.1
    exact iff_of_true (repliedOnce_reply rfl hrest) fun _ ↦ rfl
  | true =>
    rw [if_pos rfl] at hrest
    rcases hcoherent.path_ilookup hrest with ⟨hfind, hrest⟩ | ⟨index, hfind, hrest⟩
    · exact iff_of_true (repliedOnce_reply rfl hrest) fun h ↦
        absurd h (Daemon.not_caches_of_none hfind)
    · rw [imp_iff_right (Daemon.caches_of_some hfind)]
      rcases Program.path_bind.mp hrest with
        ⟨⟨err, cnt, buf⟩, daemon₁, front, back, hloop, hlast, rfl⟩ | ⟨reason, daemon₁, hloop, rfl⟩
      · have hback : back = [] ∧ RepliedOnce daemon₁ ending := by
          dsimp only at hlast
          split_ifs at hlast
          · exact ⟨hlast.1, repliedOnce_reply rfl hlast⟩
          · exact ⟨hlast.1, repliedOnce_reply rfl hlast⟩
        obtain ⟨rfl, hreplied⟩ := hback
        rw [List.append_nil] at hfuel ⊢
        have hending := readLoop_ending (by omega) hloop
        split_ifs at hending with hfits
        · obtain ⟨_, heq⟩ := hending
          cases heq
          exact iff_of_true hreplied hfits
      · have hending := readLoop_ending (by omega) hloop
        split_ifs at hending with hfits
        · obtain ⟨_, heq⟩ := hending
          cases heq
        · exact iff_of_false (fun ⟨_, heq, _⟩ ↦ nomatch heq) hfits

theorem hsxFuseStatfs_repliedOnce {root : ℕ} (hroot : daemon.sb.root = .obj root)
    (hpath : (hsxFuseStatfs.run daemon).Path trace ending) : RepliedOnce daemon ending := by
  have hlive : root ∉ daemon.freed := by simp [hcoherent.freed_nil]
  rw [hsxFuseStatfs, Program.get_bind, hroot,
    Program.bind_run_of_ret (deref_obj_run hlive)] at hpath
  refine RepliesOnce.repliedOnce ?_ hcoherent hpath
  refine .bind (returns_hsiNfs3Statfs root) fun err ↦ .ite (.reply _) (.bind .get fun daemon ↦ ?_)
  split
  · exact .reply _
  · exact .reply _

theorem hsxFuseReadlink_repliedOnce_iff {ino : UInt64}
    (hpath : ((hsxFuseReadlink ino).run daemon).Path trace ending) :
    RepliedOnce daemon ending ↔
      daemon.Caches ino ∧ (⟨.malloc .readlinkText, false⟩ : Event EnvAns) ∉ trace := by
  rw [hsxFuseReadlink] at hpath
  rcases hcoherent.path_ilookup hpath with ⟨hfind, hpath⟩ | ⟨index, hfind, hpath⟩
  · exact iff_of_false (not_repliedOnce_pure _ _ _ hpath) fun h ↦
      Daemon.not_caches_of_none hfind h.1
  · rw [and_iff_right (Daemon.caches_of_some hfind)]
    rcases hsiNfs3Readlink_bind_path hpath with ⟨err, outcome, rest, hne, rfl, hrest⟩ |
      ⟨text, granted, rest, rfl, hrest⟩
    · dsimp only at hrest
      rw [if_pos hne] at hrest
      cases hrest.1
      refine iff_of_true (repliedOnce_reply rfl hrest) ?_
      simp
    · cases granted with
      | true =>
        cases hrest.1
        refine iff_of_true (repliedOnce_reply rfl hrest) ?_
        simp
      | false => exact iff_of_false (not_repliedOnce_crash _ _ _ _ hrest) (not_not.mpr (by simp))

/-- After setting a list there are two replies. -/
theorem hsxFuseSetxattr_repliedOnce_iff {ino : UInt64} {name : CString} {value : List UInt8}
    (hpath : ((hsxFuseSetxattr ino name value).run daemon).Path trace ending) :
    RepliedOnce daemon ending ↔ (daemon.Caches ino → xattrType name = none) := by
  rw [hsxFuseSetxattr] at hpath
  rcases hcoherent.path_ilookup hpath with ⟨hfind, hpath⟩ | ⟨index, hfind, hpath⟩
  · exact iff_of_true (repliedOnce_reply rfl hpath) fun h ↦
      absurd h (Daemon.not_caches_of_none hfind)
  · rw [imp_iff_right (Daemon.caches_of_some hfind)]
    cases htype : xattrType name with
    | none =>
      rw [htype] at hpath
      exact iff_of_true (repliedOnce_reply rfl hpath) rfl
    | some type =>
      rw [htype] at hpath
      refine iff_of_false ?_ (Option.some_ne_none type)
      rintro ⟨daemon', rfl, hlength⟩
      obtain ⟨err, daemon₁, front, rest, hset, hrest, -⟩ := Program.path_bind_done.mp hpath
      obtain ⟨-, hgrows⟩ := keeps_hsiNfs3Setxattr _ _ _ _ _ _ _ hset hcoherent
      cases hrest.2
      simp [hgrows.replies_eq] at hlength

theorem hsxFuseLink_repliedOnce_iff {ino newparent : UInt64} {newname : CString}
    (hpath : ((hsxFuseLink ino newparent newname).run daemon).Path trace ending) :
    RepliedOnce daemon ending ↔
      (daemon.Caches newparent ∧ daemon.Caches ino) ∧ NameFits .linkName newname trace := by
  rw [hsxFuseLink] at hpath
  rcases hcoherent.path_ilookup hpath with ⟨hparent, hpath⟩ | ⟨parent, hparent, hpath⟩
  · exact iff_of_false (not_repliedOnce_pure _ _ _ hpath) fun h ↦
      Daemon.not_caches_of_none hparent h.1.1
  · rcases hcoherent.path_ilookup hpath with ⟨hino, hpath⟩ | ⟨index, hino, hpath⟩
    · exact iff_of_false (not_repliedOnce_pure _ _ _ hpath) fun h ↦
        Daemon.not_caches_of_none hino h.1.2
    · rw [and_iff_right ⟨Daemon.caches_of_some hparent, Daemon.caches_of_some hino⟩]
      by_cases hlength : newname.length = nameMax
      · rw [NameFits, imp_iff_right hlength]
        have hshort : ¬ newname.length > nameMax := hlength ▸ lt_irrefl _
        have hfull : ¬ newname.length + 1 ≤ nameMax := by omega
        rcases Program.path_bind.mp hpath with ⟨err, daemon₁, front, rest, hlink, hrest, rfl⟩ |
          ⟨reason, daemon₁, hlink, rfl⟩
        all_goals
          rw [hsiNfs3Link, if_neg hshort] at hlink
          obtain ⟨copied, last, rfl, hlast⟩ := path_copyName_bind.mp hlink
        · cases copied with
          | true =>
            rw [if_pos ⟨rfl, hfull⟩] at hlast
            cases hlast.2
          | false =>
            cases hlast.2
            cases hlast.1
            cases hrest.1
            exact iff_of_true (repliedOnce_reply rfl hrest) (by simp)
        · refine iff_of_false not_repliedOnce_crashed (not_not.mpr ?_)
          cases copied with
          | true => exact List.mem_cons_self
          | false => cases hlast.2
      · refine iff_of_true (RepliesOnce.repliedOnce ?_ hcoherent hpath) fun h ↦ absurd h hlength
        refine .bind (returns_hsiNfs3Link index parent hlength) fun err ↦ .ite ?_ (.reply _)
        refine .bind (.malloc _) fun _ ↦ .ite (.bind ?_ fun _ ↦ .reply _) (.reply _)
        exact .of_run (keeps_hsxFuseFillReply _) fun daemon hcoherent ↦
          ⟨_, daemon, hsxFuseFillReply_obj_run hcoherent index⟩

theorem hsxFuseForget_repliedOnce_iff {ino nlookup : UInt64}
    (hpath : ((hsxFuseForget ino nlookup).run daemon).Path trace ending) :
    RepliedOnce daemon ending ↔ ∃ index, daemon.findIno ino = some index ∧
      nlookup ≤ (daemon.inode index).priv ∧
      ¬ ((daemon.inode index).priv - nlookup = 0 ∧ (daemon.inode index).iCount = intMin) := by
  rw [hsxFuseForget_run hcoherent] at hpath
  cases hfind : daemon.findIno ino with
  | none =>
    rw [hfind] at hpath
    exact iff_of_false (not_repliedOnce_crash _ _ _ _ hpath) fun ⟨_, heq, _⟩ ↦ nomatch heq
  | some index =>
    rw [hfind] at hpath
    dsimp only at hpath
    simp only [Option.some.injEq, exists_eq_left']
    split_ifs at hpath with hle hmin
    · exact iff_of_false (fun ⟨_, heq, _⟩ ↦ by cases heq.symm.trans hpath.2) fun h ↦ h.2 hmin
    · exact iff_of_true ⟨_, hpath.2, List.length_append⟩ ⟨hle, hmin⟩
    · exact iff_of_false (not_repliedOnce_crash _ _ _ _ hpath) fun h ↦ hle h.1

end Rest

end NfsFuse
