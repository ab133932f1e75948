import NfsFuse.Lib.Interleaving
import NfsFuse.Fuse.CreateSemantics

/-!
# Exclusive creates from several mounts

Several mounts of one export create the same name with `O_EXCL`.  The server tells a repeated
request from a competing one by the create verifier, and `hsi_nfs3_create` sends the number under
which the mount knows the directory.  Requests from mounts that number the directory alike are
therefore one request to the server, and each of them succeeds.  Where the numbers differ, at most
one request succeeds, however the calls of the requests are interleaved.
-/

namespace NfsFuse

open Lib

/-- The directory and the name that the requests are about. -/
structure Contest where
  handle : NfsFh3
  name : CString

/-- The file of the name: its handle, and the verifier while it is stored. -/
abbrev NamedFile := Option (NfsFh3 × Option UInt64)

/-- A success with this file. -/
def NamesHandle (outcome : RpcOutcome Diropres3ok) (handle : NfsFh3) : Prop :=
  ∃ res, outcome = .done (.ok res) ∧ ∀ other, res.obj = some other → other = handle

/-- An exclusive `CREATE` of the name. -/
def CreatesExclusively (verf : UInt64) (outcome : RpcOutcome Diropres3ok) (file file' : NamedFile) :
    Prop :=
  match file with
  | none => ∃ handle, NamesHandle outcome handle ∧ file' = some (handle, some verf)
  | some (handle, stored) => file' = some (handle, stored) ∧
      if stored = some verf then NamesHandle outcome handle else outcome = existReply

/-- A `SETATTR` that sets a time ends the life of the verifier. -/
def NamedFile.setattr (file : NamedFile) (object : List UInt8) (attributes : Sattr3) : NamedFile :=
  file.map fun (handle, stored) ↦
    if handle.data = object ∧
      ¬ (attributes.atime = .dontChange ∧ attributes.mtime = .dontChange) then
      (handle, none)
    else (handle, stored)

/-- The server, as far as the name is concerned. -/
def contestServer (contest : Contest) : Server EnvAns NamedFile := fun file event file' ↦
  match event with
  | ⟨.call (.create args (.exclusive verf)), outcome⟩ =>
      if args = ⟨contest.handle.data, contest.name⟩ then CreatesExclusively verf outcome file file'
      else file' = file
  | ⟨.call (.setattr object attributes), .done (.ok _)⟩ => file' = file.setattr object attributes
  | _ => file' = file

/-- The directory as a mount knows it. -/
structure MountedDir where
  index : ℕ
  ino : UInt64

/-- The mount caches the directory under its number. -/
structure MountedDir.Held (dir : MountedDir) (handle : NfsFh3) (daemon : Daemon) : Prop where
  numbered : Numbered daemon
  hashed : dir.index ∈ daemon.hashed
  ino_eq : (daemon.inode dir.index).ino = dir.ino
  fh_eq : (daemon.inode dir.index).fh = nfsCopyFh3 handle

/-- A request that takes part: an exclusive create of the name in the directory. -/
def Contest.Entry (contest : Contest) (dir : MountedDir) (request : Request) : Prop :=
  ∃ mode flags uid gid, request = .create dir.ino contest.name mode flags uid gid ∧
    flags &&& oExcl ≠ 0

/-- The `CREATE` of a request. -/
def Contest.call (contest : Contest) (dir : MountedDir) : EnvOp :=
  .call (.create ⟨contest.handle.data, contest.name⟩ (.exclusive dir.ino))

/-- The mounts and the server. -/
def contestSystem (plat : Platform) (fuel : ℕ) (contest : Contest) :
    System Request EnvOp EnvAns Fault Daemon Unit FuseReply NamedFile where
  code := handle plat fuel
  server := contestServer contest
  log := Daemon.replies

def FuseReply.isCreate : FuseReply → Bool
  | .create _ => true
  | _ => false

/-- The number of requests that have replied success. -/
def wins (sent : List FuseReply) : ℕ := sent.countP FuseReply.isCreate

/-- Whether a call is a `CREATE` that succeeded. -/
def Event.granted : Event EnvAns → ℕ
  | ⟨.call (.create _ _), .done (.ok _)⟩ => 1
  | _ => 0

def EnvOp.isCreate : EnvOp → Bool
  | .call (.create _ _) => true
  | _ => false

/-- What a request sends and how it goes on: a success needs a credit, and no other `CREATE`
follows. -/
def Spends (before after : Daemon) (credit : ℕ) (next : Option (ℕ × EnvOp)) : Prop :=
  ∃ sent, after.replies = before.replies ++ sent ∧ wins sent + next.elim 0 Prod.fst ≤ credit ∧
    ∀ pair ∈ next, pair.2.isCreate = false

/-- A request earns a credit with a `CREATE` that succeeds. -/
def contestDiscipline (contest : Contest) (dir : MountedDir) :
    Discipline EnvOp EnvAns Daemon ℕ where
  inv := dir.Held contest.handle
  allowed _ := True
  segment credit event before next after := Spends before after (credit + Event.granted event) next

/-- Up to its first question a request sends nothing, and the question is the `CREATE`. -/
def contestBegins (contest : Contest) (dir : MountedDir) (before : Daemon) :
    Stop EnvOp Daemon ℕ :=
  fun next after ↦ after.replies = before.replies ∧ next = some (0, contest.call dir)

namespace MountedDir.Held

variable {dir : MountedDir} {handle : NfsFh3} {daemon : Daemon}

theorem findIno_eq (h : dir.Held handle daemon) : daemon.findIno dir.ino = some dir.index :=
  (h.numbered.findIno_eq_some_iff _ _).mpr ⟨h.hashed, h.ino_eq⟩

theorem lt_length (h : dir.Held handle daemon) : dir.index < daemon.heap.length :=
  h.numbered.live.lt_of_hashed h.hashed

theorem setReplies (h : dir.Held handle daemon) (replies : List FuseReply) :
    dir.Held handle (daemon.setReplies replies) :=
  ⟨h.numbered.congr ⟨h.numbered.live.idTable, h.numbered.live.fhTable, h.numbered.live.freed_lt⟩
    rfl rfl fun _ _ ↦ rfl, h.hashed, h.ino_eq, h.fh_eq⟩

theorem setInode (h : dir.Held handle daemon) {index : ℕ} {inode : NfsInode}
    (hino : inode.ino = (daemon.inode index).ino) (hfh : inode.fh = (daemon.inode index).fh) :
    dir.Held handle (daemon.setInode index inode) := by
  refine ⟨h.numbered.setInode index hino, h.hashed, ?_, ?_⟩
  · rw [Daemon.inode_setInode_proj NfsInode.ino hino]
    exact h.ino_eq
  · rw [Daemon.inode_setInode_proj NfsInode.fh hfh]
    exact h.fh_eq

theorem enter (h : dir.Held handle daemon) {id : UInt64} (hid : daemon.freeId = some id)
    (key : UInt64) {inode : NfsInode} (hino : inode.ino = id) :
    dir.Held handle (daemon.enter key id inode) := by
  have hold := Daemon.enter_inode_lt h.lt_length key id inode
  refine ⟨h.numbered.enter hid key hino, ?_, by rw [hold, h.ino_eq], by rw [hold, h.fh_eq]⟩
  rw [Daemon.enter_hashed]
  exact Set.mem_insert_of_mem _ h.hashed

/-- An inode for which no number was found. -/
theorem spin (h : dir.Held handle daemon) (inode : NfsInode) {id : UInt64} (hid : id ≠ 0) :
    dir.Held handle ((daemon.push inode).setCurrId id) := by
  have hold (index : ℕ) (hmem : index ∈ daemon.hashed) :
      (daemon.push inode).inode index = daemon.inode index :=
    Daemon.push_inode_lt (h.numbered.live.lt_of_hashed hmem) inode
  have hpush : Numbered (daemon.push inode) :=
    h.numbered.congr (h.numbered.live.push inode) rfl rfl fun index hmem ↦ by rw [hold index hmem]
  have hstart : id = 0 ↔ daemon.hashed = ∅ :=
    iff_of_false hid fun hempty ↦ Set.eq_empty_iff_forall_notMem.mp hempty _ h.hashed
  refine ⟨⟨hpush.live.setCurrId id, hpush.holds, hpush.ino_ne_zero, hpush.ino_inj, hpush.ino_one,
    hstart⟩, h.hashed, ?_, ?_⟩
  · rw [Daemon.setCurrId_inode, hold _ h.hashed, h.ino_eq]
  · rw [Daemon.setCurrId_inode, hold _ h.hashed, h.fh_eq]

end MountedDir.Held

theorem fhgetUpdate_fh (fattr : NfsFattr) (inode : NfsInode) :
    (fhgetUpdate fattr inode).fh = inode.fh := by
  unfold fhgetUpdate
  split_ifs
  · rfl
  · exact (nfsRefresh_same fattr inode).2.2.1

/-- The run of code that starts by entering a new inode; other requests may change the cache before
the memory arrives. -/
theorem getNewInode_bind_run {α : Type} (daemon : Daemon) (key : UInt64)
    (set : NfsInode → NfsInode × ℤ) (next : InodePtr → Prog α) :
    (getNewInode key set >>= next).run daemon =
      .ask (.malloc .nfsInode) daemon fun granted current ↦
        if granted then
          ((fillNewInode key set current.heap.length).run (current.push current.freshInode)).bind
            fun ptr ↦ (next ptr).run
        else (next .null).run current := by
  rw [Program.bind_run, getNewInode, Program.bind_run, allocInode_run, Resumption.bind_ask,
    Resumption.bind_ask]
  congr 1
  funext granted current
  cases granted with
  | false => rfl
  | true => simp only [Resumption.bind_ret, if_true]

theorem nextId_iterate_ne_zero {steps : ℕ} (h : steps ≠ 0) (current : UInt64) :
    nextId^[steps] current ≠ 0 := by
  obtain ⟨before, rfl⟩ := Nat.exists_eq_succ_of_ne_zero h
  rw [Function.iterate_succ_apply']
  exact nextId_ne_zero _

/-- When every number is in use, an inode is left that was never hashed. -/
theorem newInodeEnding_spin {daemon : Daemon} (h : daemon.freeId = none) (key : UInt64) (fh : NfsFh)
    (fattr : NfsFattr) : ∃ last, last ≠ 0 ∧ newInodeEnding daemon key (nfsInitLocked fh fattr) =
      .crashed .outOfFuel
        ((daemon.push (nfsInitLocked fh fattr daemon.freshInode).1).setCurrId last) := by
  rw [newInodeEnding_nfsInitLocked, h]
  refine ⟨_, ?_, rfl⟩
  exact nextId_iterate_ne_zero (by decide) _

section Silent

-- `hsi_nfs_fhget` is only used through the list of its runs
attribute [local irreducible] hsiNfsFhget

variable {α β : Type} {contest : Contest} {dir : MountedDir} {daemon before : Daemon} {credit : ℕ}

/-- The point that a segment has reached before it sends anything. -/
structure Underway (contest : Contest) (dir : MountedDir) (before daemon : Daemon) : Prop where
  held : dir.Held contest.handle daemon
  replies_eq : daemon.replies = before.replies

/-- Where a segment with a credit may stop. -/
def Tally (contest : Contest) (dir : MountedDir) (before : Daemon) (credit : ℕ) :
    Stop EnvOp Daemon ℕ :=
  fun next after ↦ dir.Held contest.handle after ∧ Spends before after credit next

/-- It may ask anything but another `CREATE`, or stop. -/
theorem Underway.tally (h : Underway contest dir before daemon) {next : Option (ℕ × EnvOp)}
    (hcredit : next.elim 0 Prod.fst ≤ credit) (hnext : ∀ pair ∈ next, pair.2.isCreate = false) :
    Tally contest dir before credit next daemon :=
  ⟨h.held, [], by rw [h.replies_eq, List.append_nil], by simpa [wins] using hcredit, hnext⟩

/-- An answer to another question leaves the credit as it is. -/
theorem Event.granted_eq_zero {event : Event EnvAns} (h : event.op.isCreate = false) :
    Event.granted event = 0 := by
  unfold Event.granted
  split
  · cases h
  · rfl

theorem contestDiscipline_stops {op : EnvOp} (h : op.isCreate = false) (answer : EnvAns op)
    (current : Daemon) : (contestDiscipline contest dir).stops credit ⟨op, answer⟩ current =
      Tally contest dir current credit := by
  have hgranted : Event.granted ⟨op, answer⟩ = 0 := Event.granted_eq_zero h
  change Tally contest dir current (credit + Event.granted ⟨op, answer⟩) = _
  rw [hgranted, Nat.add_zero]

/-- The program sends nothing, asks for no `CREATE` and keeps the mount, so that its credit is still
there when it returns. -/
def Silent (contest : Contest) (dir : MountedDir) (program : Prog α) : Prop :=
  ∀ daemon before credit post, Underway contest dir before daemon →
    (∀ value daemon' before', Underway contest dir before' daemon' →
      post value daemon' (Tally contest dir before' credit)) →
    (program.run daemon).Wp (contestDiscipline contest dir) (Tally contest dir before credit) post

namespace Silent

theorem pure (value : α) : Silent contest dir (Pure.pure value) :=
  fun _ _ _ _ h hpost ↦ hpost _ _ _ h

theorem crash (reason : Fault) : Silent contest dir (Program.crash reason : Prog α) :=
  fun _ _ _ _ h _ ↦ h.tally (Nat.zero_le _) (by simp)

theorem bind {first : Prog α} {next : α → Prog β} (hfirst : Silent contest dir first)
    (hnext : ∀ value, Silent contest dir (next value)) : Silent contest dir (first >>= next) := by
  intro daemon before credit post h hpost
  refine (Program.wp_bind _ _ _ _).mpr (hfirst _ _ _ _ h fun value daemon' before' h' ↦ ?_)
  exact hnext value _ _ _ _ h' hpost

theorem ite {condition : Prop} [Decidable condition] {yes no : Prog α}
    (hyes : Silent contest dir yes) (hno : Silent contest dir no) :
    Silent contest dir (if condition then yes else no) := by
  by_cases h : condition
  · simpa only [if_pos h] using hyes
  · simpa only [if_neg h] using hno

/-- A question other than a `CREATE`. -/
theorem ask {op : EnvOp} (h : op.isCreate = false) :
    Silent contest dir (Program.ask op : Prog (EnvAns op)) := by
  intro daemon before credit post hunderway hpost
  refine ⟨credit, hunderway.tally le_rfl (by simp [h]), fun answer current _ hcurrent ↦ ?_⟩
  rw [contestDiscipline_stops h]
  exact hpost answer current current ⟨hcurrent, rfl⟩

theorem get : Silent contest dir (Program.get : Prog Daemon) :=
  fun _ _ _ _ h hpost ↦ hpost _ _ _ h

theorem getInode (index : ℕ) : Silent contest dir (Prog.getInode index) := bind get fun _ ↦ pure _

theorem deref (ptr : InodePtr) : Silent contest dir (Prog.deref ptr) := by
  refine bind get fun daemon ↦ ?_
  cases ptr with
  | null => exact crash _
  | err _ => exact crash _
  | obj index => exact ite (crash _) (pure _)

theorem assert (condition : Bool) (site : AssertSite) :
    Silent contest dir (Prog.assert condition site) :=
  ite (pure _) (crash _)

theorem modifyInode (index : ℕ) {update : NfsInode → NfsInode}
    (hino : ∀ inode, (update inode).ino = inode.ino) (hfh : ∀ inode, (update inode).fh = inode.fh) :
    Silent contest dir (Prog.modifyInode index update) :=
  fun _ _ _ _ h hpost ↦ hpost _ _ _ ⟨h.held.setInode (hino _) (hfh _), h.replies_eq⟩

theorem hsiNfsFhget (plat : Platform) (fh : NfsFh) (fattr : NfsFattr) :
    Silent contest dir (NfsFuse.hsiNfsFhget plat fh fattr) := by
  intro daemon before credit post h hpost
  by_cases hattr : fattr.Acquirable
  swap
  · rw [hsiNfsFhget_run_rejected plat daemon hattr]
    exact hpost _ _ _ h
  have hupdate (index : ℕ) : Silent contest dir (Prog.modifyInode index (fhgetUpdate fattr)) :=
    modifyInode index (fhgetUpdate_ino fattr) (fhgetUpdate_fh fattr)
  rw [hsiNfsFhget_run_acquirable plat h.held.numbered.live hattr]
  cases daemon.findFile fh fattr with
  | some index => exact bind (hupdate index) (fun _ ↦ pure (.obj index)) _ _ _ _ h hpost
  | none =>
    dsimp only
    rw [getNewInode_bind_run, Resumption.wp_ask]
    refine ⟨credit, h.tally le_rfl (by simp [EnvOp.isCreate]), fun granted current _ hcurrent ↦ ?_⟩
    rw [contestDiscipline_stops rfl]
    cases granted with
    | false =>
      rw [if_neg Bool.false_ne_true, errPtr_neg_enomem]
      exact hpost _ _ _ ⟨hcurrent, rfl⟩
    | true =>
      rw [if_pos rfl, fillNewInode_run hcurrent.numbered.live]
      cases hid : current.freeId with
      | none =>
        obtain ⟨last, hne, hending⟩ := newInodeEnding_spin hid fattr.fileid fh fattr
        have hspin := hcurrent.spin (nfsInitLocked fh fattr current.freshInode).1 hne
        rw [hending]
        exact Underway.tally ⟨hspin, rfl⟩ (Nat.zero_le _) (by simp)
      | some id =>
        have henter : dir.Held contest.handle (current.enter fattr.fileid id
            { (nfsInitLocked fh fattr current.freshInode).1 with ino := id, iState := iNew }) :=
          hcurrent.enter hid fattr.fileid rfl
        rw [newInodeEnding_nfsInitLocked, hid]
        exact bind (deref _) (fun index ↦ bind (hupdate index) fun _ ↦ pure _) _ _ _ _
          ⟨henter, rfl⟩ hpost

theorem errPtr (plat : Platform) (error : ℤ) : Silent contest dir (NfsFuse.errPtr plat error) :=
  bind (assert _ _) fun _ ↦ pure _

theorem hsiNfs3HandleCreate (plat : Platform) (res : Diropres3ok) :
    Silent contest dir (NfsFuse.hsiNfs3HandleCreate plat res) := by
  unfold NfsFuse.hsiNfs3HandleCreate
  split
  · exact errPtr plat _
  · exact hsiNfsFhget plat _ _

theorem nfsRefreshInode (index : ℕ) (fattr : NfsFattr) :
    Silent contest dir (NfsFuse.nfsRefreshInode index fattr) := by
  refine bind (getInode index) fun inode ↦ bind (modifyInode index ?_ ?_) fun _ ↦ pure _
  · exact fun inode ↦ (nfsRefresh_same fattr inode).1
  · exact fun inode ↦ (nfsRefresh_same fattr inode).2.2.1

theorem hsiNfsSetattr (index : ℕ) (attr : HsfsIattr) :
    Silent contest dir (NfsFuse.hsiNfsSetattr index attr) := by
  refine bind (getInode index) fun inode ↦ ite (pure _) (bind ?_ fun result ↦ ?_)
  · refine bind (getInode index) fun inode ↦ bind (ask rfl) fun outcome ↦ ?_
    split <;> exact pure _
  · exact ite (bind (nfsRefreshInode index _) fun _ ↦ pure _) (pure _)

theorem exclusiveSetattr (new : InodePtr) (mode : UInt32) :
    Silent contest dir (NfsFuse.exclusiveSetattr new mode) :=
  bind (deref new) fun index ↦ bind (getInode index) fun _ ↦ hsiNfsSetattr index _

theorem countCreated (new : InodePtr) : Silent contest dir (NfsFuse.countCreated new) := by
  refine bind ?_ fun ref ↦ bind (assert _ _) fun _ ↦ ?_
  · refine bind (deref new) fun index ↦ bind (getInode index) fun _ ↦ bind ?_ fun _ ↦ pure _
    exact modifyInode index (fun _ ↦ rfl) fun _ ↦ rfl
  · exact bind (deref new) fun index ↦ bind (getInode index) fun _ ↦ bind get fun _ ↦ pure _

end Silent

/-- A reply needs a credit only if it is a success. -/
theorem Underway.reply (h : Underway contest dir before daemon) {message : FuseReply}
    (hcredit : wins [message] ≤ credit) :
    Tally contest dir before credit none (daemon.setReplies (daemon.replies ++ [message])) :=
  ⟨h.held.setReplies _, [message], by rw [Daemon.setReplies, h.replies_eq], by simpa using hcredit,
    by simp⟩

/-- The end of the handler, with a credit. -/
theorem obeys_replyCreated (h : Underway contest dir before daemon) (err : ℤ) (new : InodePtr) :
    ((replyCreated err new .create).run daemon).Obeys (contestDiscipline contest dir)
      (Tally contest dir before 1) := by
  unfold replyCreated
  split_ifs with herr
  · exact h.reply (Nat.zero_le _)
  · split
    · exact h.reply (Nat.zero_le _)
    · refine (Program.wp_bind _ _ _ _).mpr (Silent.countCreated _ _ _ _ _ h ?_)
      exact fun param daemon' before' h' ↦ h'.reply le_rfl

/-- The end of the handler after an error. -/
theorem obeys_replyRefused (h : Underway contest dir before daemon) {err : ℤ} (hne : err ≠ 0)
    (new : InodePtr) : ((replyCreated err new .create).run daemon).Obeys
      (contestDiscipline contest dir) (Tally contest dir before credit) := by
  unfold replyCreated
  rw [if_pos hne]
  exact h.reply (Nat.zero_le _)

/-- What follows a `CREATE` that succeeded. -/
theorem Silent.afterCreate (plat : Platform) (res : Diropres3ok) (mode : UInt32) :
    Silent contest dir (do
      let new ← NfsFuse.hsiNfs3HandleCreate plat res
      if isErr plat new then
        return (toInt32 (ptrErr plat new), InodePtr.null)
      else if (mode &&& 0xf0000) >>> 16 = 2 then
        let status ← NfsFuse.exclusiveSetattr new mode
        return (status, new)
      else
        return (0, new)) :=
  bind (hsiNfs3HandleCreate plat res) fun new ↦
    ite (pure _) (ite (bind (exclusiveSetattr new mode) fun _ ↦ pure _) (pure _))

theorem obeys_hsxFuseCreate (plat : Platform) (h : dir.Held contest.handle daemon)
    {mode flags uid gid : UInt32} (hexcl : flags &&& oExcl ≠ 0) :
    ((hsxFuseCreate plat dir.ino contest.name mode flags uid gid).run daemon).Obeys
      (contestDiscipline contest dir) fun next after ↦
        dir.Held contest.handle after ∧ contestBegins contest dir daemon next after := by
  have howned : dir.Held contest.handle (daemon.setInode dir.index { daemon.inode dir.index with
      iattr := { (daemon.inode dir.index).iattr with uid, gid } }) := h.setInode rfl rfl
  unfold hsxFuseCreate
  rw [Resumption.Obeys, Program.bind_run_of_ret (hsfsIlookup_run h.numbered.live dir.ino),
    h.findIno_eq]
  change Resumption.Wp _
    ((hsiNfs3Create plat dir.index contest.name (createMode mode flags) >>= _).run
    _) _ _
  refine (Program.wp_bind _ _ _ _).mpr ?_
  refine ⟨0, ⟨howned, rfl, ?_⟩, fun outcome current _ hcurrent ↦ ?_⟩
  · obtain ⟨attributes, -, -, hhow⟩ := createHow_createMode
      ((daemon.setInode dir.index { daemon.inode dir.index with
        iattr := { (daemon.inode dir.index).iattr with uid, gid } }).inode dir.index) mode flags
    rw [if_pos hexcl] at hhow
    rw [hhow, howned.ino_eq, hsiNfs3Getfh3_copied howned.fh_eq]
    rfl
  · rcases outcome with ⟨err, hne⟩ | res | ⟨status, hne⟩
    · exact obeys_replyRefused ⟨hcurrent, rfl⟩ hne .null
    · refine Silent.afterCreate plat res _ _ _ _ _ ⟨hcurrent, rfl⟩ ?_
      exact fun value daemon' before' h' ↦ obeys_replyCreated h' value.1 value.2
    · exact obeys_replyRefused ⟨hcurrent, rfl⟩ (hsiNfs3StatToErrno_ne_zero hne) .null

end Silent

/-- The verifier of an exclusive `CREATE`. -/
def EnvOp.verifier : EnvOp → Option UInt64
  | .call (.create _ (.exclusive verf)) => some verf
  | _ => none

variable {μ : Type}

/-- The steps of the contest. -/
abbrev ContestLabel (μ : Type) := Label μ Request EnvAns FuseReply

/-- The mounts, the server and the requests in flight. -/
abbrev ContestNet (μ : Type) := Net μ EnvOp EnvAns Fault Daemon Unit NamedFile

/-- The requests in flight, up to their code. -/
abbrev ContestPhase (μ : Type) := Phase μ EnvOp EnvAns ℕ

/-- The number of successes. -/
def winners (labels : List (ContestLabel μ)) : ℕ := wins (labels.flatMap Label.emitted)

/-- The number of `CREATE` calls that succeeded. -/
def grants (labels : List (ContestLabel μ)) : ℕ :=
  ((labels.filterMap Label.executed).map Event.granted).sum

/-- The verifiers of the `CREATE` calls that the server has executed. -/
def usedVerifiers (labels : List (ContestLabel μ)) : List UInt64 :=
  (labels.filterMap Label.executed).filterMap (EnvOp.verifier ·.op)

/-- The numbers under which the mounts of the requests know the directory. -/
def dirNumbers (dirs : μ → MountedDir) (labels : List (ContestLabel μ)) : List UInt64 :=
  (labels.filterMap Label.started).map fun site ↦ (dirs site).ino

/-- The successes that a request may still send. -/
def ContestPhase.credit : ContestPhase μ → ℕ
  | .waiting _ mark _ => mark
  | .answered _ mark event => mark + Event.granted event
  | .ended _ => 0

/-- The verifier of a `CREATE` that is on its way. -/
def ContestPhase.verifier : ContestPhase μ → Option UInt64
  | .waiting _ _ op => op.verifier
  | _ => none

section Append

variable (labels : List (ContestLabel μ)) (label : ContestLabel μ)

theorem winners_append : winners (labels ++ [label]) = winners labels + wins label.emitted := by
  simp [winners, wins]

theorem grants_append :
    grants (labels ++ [label]) = grants labels + label.executed.elim 0 Event.granted := by
  unfold grants
  rw [List.filterMap_append, List.map_append, List.sum_append]
  cases label <;> rfl

theorem usedVerifiers_append : usedVerifiers (labels ++ [label]) =
    usedVerifiers labels ++ (label.executed.bind (EnvOp.verifier ·.op)).toList := by
  unfold usedVerifiers
  rw [List.filterMap_append, List.filterMap_append]
  cases label with
  | start site request next sent => rfl
  | execute thread event =>
    simp only [List.filterMap_cons, List.filterMap_nil, Label.executed, Option.bind_some]
    cases event.op.verifier <;> rfl
  | deliver thread event next sent => rfl

theorem dirNumbers_append (dirs : μ → MountedDir) : dirNumbers dirs (labels ++ [label]) =
    dirNumbers dirs labels ++ (label.started.map fun site ↦ (dirs site).ino).toList := by
  unfold dirNumbers
  rw [List.filterMap_append, List.map_append]
  cases label <;> rfl

end Append

/-! ## The invariant -/

section Invariant

variable {contest : Contest} {dirs : μ → MountedDir} {labels : List (ContestLabel μ)}
  {sites : μ → Daemon} {file file' : NamedFile} {phases : List (ContestPhase μ)}

/-- What holds in every state of a contest between mounts that number the directory differently: a
success is covered by a `CREATE` that the server has granted, and it has granted at most one. -/
structure ContestInv (contest : Contest) (dirs : μ → MountedDir) (labels : List (ContestLabel μ))
    (file : NamedFile) (phases : List (ContestPhase μ)) : Prop where
  spent : winners labels + (phases.map ContestPhase.credit).sum ≤ grants labels
  asked : ∀ site mark op, .waiting site mark op ∈ phases → op.isCreate = true →
    op = contest.call (dirs site)
  verifiers : (dirNumbers dirs labels).Perm
    (usedVerifiers labels ++ phases.filterMap ContestPhase.verifier)
  granted : grants labels = 0 ∨ (grants labels = 1 ∧ ∃ handle stored,
    file = some (handle, stored) ∧ ∀ verf, stored = some verf → verf ∈ usedVerifiers labels)

theorem EnvOp.verifier_eq_none {op : EnvOp} (h : op.isCreate = false) : op.verifier = none := by
  unfold EnvOp.verifier
  split
  · cases h
  · rfl

/-- A call that is no `CREATE` leaves the file, and its verifier unless it ends its life. -/
theorem contestServer_other {event : Event EnvAns} (h : contestServer contest file event file')
    (hother : event.op.isCreate = false) :
    file' = file ∨ ∃ handle stored, file = some (handle, stored) ∧
      (file' = some (handle, stored) ∨ file' = some (handle, none)) := by
  unfold contestServer at h
  split at h
  · cases hother
  · cases file with
    | none => exact .inl h
    | some pair =>
      obtain ⟨handle, stored⟩ := pair
      refine .inr ⟨handle, stored, rfl, ?_⟩
      rw [h, NamedFile.setattr, Option.map_some]
      dsimp only
      split_ifs
      · exact .inr rfl
      · exact .inl rfl
  · exact .inl h

theorem contestServer_call_iff {dir : MountedDir} {outcome : RpcOutcome Diropres3ok} :
    contestServer contest file ⟨contest.call dir, outcome⟩ file' ↔
      CreatesExclusively dir.ino outcome file file' := by
  simp [contestServer, Contest.call]

namespace ContestInv

theorem start (h : ContestInv contest dirs labels file phases) (site : μ) (request : Request)
    (next : Option EnvOp) :
    ContestInv contest dirs (labels ++ [.start site request next []]) file
      (phases ++ [.waiting site 0 (contest.call (dirs site))]) := by
  refine ⟨?_, ?_, ?_, ?_⟩
  · rw [winners_append, grants_append, List.map_append, List.sum_append]
    exact h.spent
  · intro other mark op hmem hcreate
    rcases List.mem_append.mp hmem with hold | hnew
    · exact h.asked other mark op hold hcreate
    · obtain ⟨rfl, -, rfl⟩ := Phase.waiting.inj (List.mem_singleton.mp hnew)
      rfl
  · rw [dirNumbers_append, usedVerifiers_append, List.filterMap_append]
    simp only [Label.executed, Option.bind_none, Option.toList_none, List.append_nil]
    rw [← List.append_assoc]
    exact h.verifiers.append_right _
  · rw [grants_append, usedVerifiers_append]
    simpa only [Label.executed, Option.elim_none, Option.bind_none, Option.toList_none,
      List.append_nil, Nat.add_zero] using h.granted

/-- A verifier that is on its way has not been used before. -/
theorem fresh (h : ContestInv contest dirs labels file phases)
    (hnodup : (dirNumbers dirs labels).Nodup) {phase : ContestPhase μ} {verf : UInt64}
    (hmem : phase ∈ phases) (hverf : phase.verifier = some verf) : verf ∉ usedVerifiers labels :=
  fun hused ↦ (List.nodup_append.mp (h.verifiers.nodup_iff.mp hnodup)).2.2 verf hused verf
    (List.mem_filterMap.mpr ⟨phase, hmem, hverf⟩) rfl

/-- The server grants at most one `CREATE`. -/
theorem granted_execute (h : ContestInv contest dirs labels file phases)
    (hnodup : (dirNumbers dirs labels).Nodup) {site : μ} {mark : ℕ} {op : EnvOp}
    {answer : EnvAns op}
    (hmem : .waiting site mark op ∈ phases)
    (hserver : contestServer contest file ⟨op, answer⟩ file') :
    grants labels + Event.granted ⟨op, answer⟩ = 0 ∨
      (grants labels + Event.granted ⟨op, answer⟩ = 1 ∧ ∃ handle stored,
        file' = some (handle, stored) ∧
        ∀ verf, stored = some verf → verf ∈ usedVerifiers labels ++ op.verifier.toList) := by
  cases hcreate : op.isCreate with
  | false =>
    have hzero : Event.granted ⟨op, answer⟩ = 0 := Event.granted_eq_zero hcreate
    rw [hzero, EnvOp.verifier_eq_none hcreate, Option.toList_none, List.append_nil, Nat.add_zero]
    refine h.granted.imp_right fun ⟨hone, handle, stored, hfile, hstored⟩ ↦ ⟨hone, ?_⟩
    rcases contestServer_other hserver hcreate with rfl | ⟨handle', stored', heq, rfl | rfl⟩
    · exact ⟨handle, stored, hfile, hstored⟩
    · exact ⟨handle, stored, heq ▸ hfile, hstored⟩
    · exact ⟨handle', none, rfl, fun verf hnone ↦ absurd hnone.symm (Option.some_ne_none verf)⟩
  | true =>
    obtain rfl := h.asked site mark op hmem hcreate
    have hfresh : (dirs site).ino ∉ usedVerifiers labels := h.fresh hnodup hmem rfl
    have hcreates := contestServer_call_iff.mp hserver
    have hverifier : (contest.call (dirs site)).verifier.toList = [(dirs site).ino] := rfl
    rw [hverifier]
    cases file with
    | none =>
      -- the file did not exist, so nothing has been granted yet
      have hnone : grants labels = 0 := h.granted.resolve_right fun ⟨_, _, _, hfile, _⟩ ↦ by
        cases hfile
      obtain ⟨handle, ⟨res, rfl, -⟩, rfl⟩ := hcreates
      refine .inr ⟨by rw [hnone]; rfl, handle, some (dirs site).ino, rfl, ?_⟩
      rintro verf ⟨⟩
      simp
    | some pair =>
      obtain ⟨handle, stored⟩ := pair
      obtain ⟨rfl, houtcome⟩ := hcreates
      split_ifs at houtcome with hsame
      · -- the stored verifier was there from the start: a used one is different
        have hnone : grants labels = 0 := h.granted.resolve_right fun ⟨_, _, _, hfile, hstored⟩ ↦ by
          cases hfile
          exact hfresh (hstored _ hsame)
        obtain ⟨res, rfl, -⟩ := houtcome
        refine .inr ⟨by rw [hnone]; rfl, handle, stored, rfl, fun verf hverf ↦ ?_⟩
        rw [hsame] at hverf
        cases hverf
        simp
      · have hzero : Event.granted ⟨contest.call (dirs site), answer⟩ = 0 := by
          rw [houtcome]
          rfl
        rw [hzero, Nat.add_zero]
        refine h.granted.imp_right fun ⟨hone, handle', stored', hfile, hstored⟩ ↦
          ⟨hone, handle', stored', hfile, fun verf hverf ↦ ?_⟩
        exact List.mem_append_left _ (hstored verf hverf)

theorem execute (h : ContestInv contest dirs labels file phases)
    (hnodup : (dirNumbers dirs labels).Nodup) {thread : ℕ} {site : μ} {mark : ℕ} {op : EnvOp}
    {answer : EnvAns op} (hphase : phases[thread]? = some (.waiting site mark op))
    (hserver : contestServer contest file ⟨op, answer⟩ file') :
    ContestInv contest dirs (labels ++ [.execute thread ⟨op, answer⟩]) file'
      (phases.set thread (.answered site mark ⟨op, answer⟩)) := by
  refine ⟨?_, ?_, ?_, ?_⟩
  · have hcredit := sum_map_set ContestPhase.credit hphase (.answered site mark ⟨op, answer⟩)
    have hspent := h.spent
    rw [winners_append, grants_append]
    simp only [ContestPhase.credit] at hcredit
    simp only [Label.emitted, Label.executed, Option.elim_some, wins, List.countP_nil]
    omega
  · intro other mark' op' hmem hcreate
    rcases List.mem_or_eq_of_mem_set hmem with hold | hnew
    · exact h.asked other mark' op' hold hcreate
    · cases hnew
  · have hset := filterMap_set_perm ContestPhase.verifier hphase (.answered site mark ⟨op, answer⟩)
    rw [dirNumbers_append, usedVerifiers_append]
    simp only [Label.started, Label.executed, Option.map_none, Option.bind_some, Option.toList_none,
      List.append_nil, List.append_assoc]
    exact h.verifiers.trans (hset.symm.append_left _)
  · rw [grants_append, usedVerifiers_append]
    exact h.granted_execute hnodup (List.mem_of_getElem? hphase) hserver

theorem deliver (h : ContestInv contest dirs labels file phases) {thread : ℕ} {site : μ} {mark : ℕ}
    {event : Event EnvAns} {next : Option (ℕ × EnvOp)} {sent : List FuseReply}
    (hphase : phases[thread]? = some (.answered site mark event))
    (hsent : wins sent + next.elim 0 Prod.fst ≤ mark + Event.granted event)
    (hnext : ∀ pair ∈ next, pair.2.isCreate = false) :
    ContestInv contest dirs (labels ++ [.deliver thread event (next.map Prod.snd) sent]) file
      (phases.set thread (.of site next)) := by
  refine ⟨?_, ?_, ?_, ?_⟩
  · have hcredit := sum_map_set ContestPhase.credit hphase (.of site next)
    have hof : ContestPhase.credit (.of site next) = next.elim 0 Prod.fst := by
      cases next <;> rfl
    have hspent := h.spent
    rw [winners_append, grants_append]
    rw [hof] at hcredit
    simp only [ContestPhase.credit] at hcredit
    simp only [Label.emitted, Label.executed, Option.elim_none]
    omega
  · intro other mark' op' hmem hcreate
    rcases List.mem_or_eq_of_mem_set hmem with hold | hnew
    · exact h.asked other mark' op' hold hcreate
    · cases next with
      | none => cases hnew
      | some pair =>
        obtain ⟨-, -, rfl⟩ := Phase.waiting.inj hnew
        exact absurd hcreate (by simp [hnext pair rfl])
  · have hof : ContestPhase.verifier (.of site next) = none := by
      cases next with
      | none => rfl
      | some pair => exact EnvOp.verifier_eq_none (hnext pair rfl)
    have hset := filterMap_set_perm ContestPhase.verifier hphase (.of site next)
    rw [hof] at hset
    rw [dirNumbers_append, usedVerifiers_append]
    simp only [Label.started, Label.executed, Option.map_none, Option.bind_none, Option.toList_none,
      List.append_nil]
    exact h.verifiers.trans (hset.symm.append_left _)
  · rw [grants_append, usedVerifiers_append]
    simpa only [Label.executed, Option.elim_none, Option.bind_none, Option.toList_none,
      List.append_nil, Nat.add_zero] using h.granted

end ContestInv

variable [DecidableEq μ] {plat : Platform} {fuel : ℕ}

/-- The invariant holds in every sketch of a contest. -/
theorem contestInv_run {initial sketch : Sketch μ EnvOp EnvAns Daemon ℕ NamedFile}
    (hidle : initial.phases = [])
    (hrun : Run (Sketch.Step (contestSystem plat fuel contest)
      (fun site ↦ contestDiscipline contest (dirs site))
      fun site _ ↦ contestBegins contest (dirs site)) initial labels sketch)
    (hnodup : (dirNumbers dirs labels).Nodup) :
    ContestInv contest dirs labels sketch.server sketch.phases := by
  induction hrun with
  | nil =>
    rw [hidle]
    exact ⟨Nat.zero_le _, fun _ _ _ hmem ↦ absurd hmem List.not_mem_nil, .nil, .inl rfl⟩
  | @snoc labels sketch _ label _ hstep ih =>
    have hbefore : (dirNumbers dirs labels).Nodup := by
      rw [dirNumbers_append] at hnodup
      exact hnodup.of_append_left
    cases hstep with
    | @start _ after site request hinv hbegins =>
      obtain ⟨hreplies, rfl⟩ := hbegins
      have hsent : (contestSystem plat fuel contest).sent (sketch.sites site) after = [] :=
        System.sent_eq (hreplies.trans (List.append_nil _).symm)
      rw [hsent]
      exact (ih hbefore).start site request _
    | execute thread answer hphase hserver => exact (ih hbefore).execute hbefore hphase hserver
    | @deliver site _ _ _ after thread hphase hinv hsegment =>
      obtain ⟨sent, hreplies, hspent, hnext⟩ := hsegment
      have hsent : (contestSystem plat fuel contest).sent (sketch.sites site) after = sent :=
        System.sent_eq hreplies
      rw [hsent]
      exact (ih hbefore).deliver hphase hspent hnext

/-- At most one request succeeds when their mounts know the directory by different numbers. -/
theorem exclusive_create_winner {initial net : ContestNet μ}
    (hidle : initial.threads = [])
    (hheld : ∀ site, (dirs site).Held contest.handle (initial.sites site))
    (hrun : Run (Net.Step (contestSystem plat fuel contest)) initial labels net)
    (hentry : ∀ site request next sent, .start site request next sent ∈ labels →
      contest.Entry (dirs site) request)
    (hnodup : (dirNumbers dirs labels).Nodup) : winners labels ≤ 1 := by
  have hcode (site : μ) (request : Request) (daemon : Daemon)
      (hrequest : contest.Entry (dirs site) request)
      (hdaemon : (dirs site).Held contest.handle daemon) :
      ((handle plat fuel request).run daemon).Obeys (contestDiscipline contest (dirs site))
        fun next after ↦ (dirs site).Held contest.handle after ∧
          contestBegins contest (dirs site) daemon next after := by
    obtain ⟨mode, flags, uid, gid, rfl, hexcl⟩ := hrequest
    exact obeys_hsxFuseCreate plat hdaemon hexcl
  obtain ⟨sketch, hsketch, -⟩ :=
    @Net.run_sketch μ Request EnvOp EnvAns Fault Daemon Unit FuseReply ℕ
    NamedFile _ (contestSystem plat fuel contest) (fun site ↦ contestDiscipline contest (dirs site))
    (fun site _ ↦ contestBegins contest (dirs site)) (fun site ↦ contest.Entry (dirs site)) hcode
    (fun _ _ _ _ _ ↦ trivial) _ _ _ hrun hidle hheld hentry
  have hinv := contestInv_run rfl hsketch hnodup
  have hspent := hinv.spent
  rcases hinv.granted with hgrants | ⟨hgrants, -⟩ <;> omega

end Invariant

/-! ## Two mounts -/

theorem newHandle_fits : [(8 : UInt8)].length ≤ 64 := by
  decide

/-- The attributes of the file that is created. -/
def newAttr : Fattr3 := { plainAttr with fileid := 8 }

/-- The `CREATE` of a mount, answered with the new file. -/
def createdBy (contest : Contest) (dir : MountedDir) : Event EnvAns :=
  ⟨contest.call dir, RpcOutcome.done (.ok ⟨some ⟨[8], newHandle_fits⟩, some newAttr⟩)⟩

/-- The `CREATE` of a mount, answered with `NFS3ERR_EXIST`. -/
def refusedBy (contest : Contest) (dir : MountedDir) : Event EnvAns :=
  ⟨contest.call dir, existReply⟩

/-- The file as it has been created with this verifier. -/
def contestedFile (verf : UInt64) : NamedFile := some (⟨[8], newHandle_fits⟩, some verf)

theorem names_createdBy (contest : Contest) (dir : MountedDir) :
    NamesHandle (createdBy contest dir).answer ⟨[8], newHandle_fits⟩ :=
  ⟨_, rfl, fun _ heq ↦ (Option.some.inj heq).symm⟩

theorem server_createdBy (contest : Contest) (dir : MountedDir) :
    contestServer contest none (createdBy contest dir) (contestedFile dir.ino) :=
  contestServer_call_iff.mpr ⟨_, names_createdBy contest dir, rfl⟩

/-- The answer to the `SETATTR` of the new file. -/
def modeWritten (attributes : Sattr3) : EnvAns (.call (.setattr [8] attributes)) :=
  RpcOutcome.done (.ok (some newAttr))

/-- The states of a mount after each part of a request, when its calls succeed. -/
def WinsAlone (contest : Contest) (dir : MountedDir) (request : Request) (mount : Daemon) : Prop :=
  ∃ (asked entered written replied : Daemon)
    (resume : EnvAns (contest.call dir) → Daemon → Resumption EnvOp EnvAns Fault Daemon Unit)
    (allocated : Bool → Daemon → Resumption EnvOp EnvAns Fault Daemon Unit) (attributes : Sattr3)
    (finish : EnvAns (.call (.setattr [8] attributes)) → Daemon →
      Resumption EnvOp EnvAns Fault Daemon Unit),
    (handle linuxHost 0 request).run mount = .ask (contest.call dir) asked resume ∧
    resume (createdBy contest dir).answer asked = .ask (.malloc .nfsInode) entered allocated ∧
    allocated true entered = .ask (.call (.setattr [8] attributes)) written finish ∧
    finish (modeWritten attributes) written = .ret () replied ∧
    (asked.replies = mount.replies ∧ entered.replies = mount.replies ∧
      written.replies = mount.replies) ∧
    ∃ reply, replied.replies = mount.replies ++ [.create reply]

/-- The states of a mount whose request is told that the file exists. -/
def TurnedAway (contest : Contest) (dir : MountedDir) (request : Request) (mount : Daemon) : Prop :=
  ∃ (asked replied : Daemon)
    (resume : EnvAns (contest.call dir) → Daemon → Resumption EnvOp EnvAns Fault Daemon Unit),
    (handle linuxHost 0 request).run mount = .ask (contest.call dir) asked resume ∧
    resume (refusedBy contest dir).answer asked = .ret () replied ∧
    asked.replies = mount.replies ∧ replied.replies = mount.replies ++ [.err eexist]

theorem MountedDir.held_of_serving {dir : MountedDir} {handle : NfsFh3} {mount : Daemon}
    (h : Serving mount) (hfind : mount.findIno dir.ino = some dir.index)
    (hfh : (mount.inode dir.index).fh = nfsCopyFh3 handle) : dir.Held handle mount := by
  have hnumbered : Numbered mount := h.coherent.numbered
  obtain ⟨hhashed, hino⟩ := (hnumbered.findIno_eq_some_iff _ _).mp hfind
  exact ⟨hnumbered, hhashed, hino, hfh⟩

/-- The states of two mounts. -/
def mountStates (first second : Daemon) : Bool → Daemon :=
  fun site ↦ bif site then first else second

theorem update_mountStates_true (first second daemon : Daemon) :
    Function.update (mountStates first second) true daemon = mountStates daemon second := by
  funext site
  cases site <;> rfl

theorem update_mountStates_false (first second daemon : Daemon) :
    Function.update (mountStates first second) false daemon = mountStates first daemon := by
  funext site
  cases site <;> rfl

/-- Two mounts of a server that does not have the name. -/
def idleMounts (first second : Daemon) : ContestNet Bool := ⟨mountStates first second, none, []⟩

/-- Runs of two mounts. -/
abbrev TwoMounts (contest : Contest) (initial : ContestNet Bool) :=
  Run (Net.Step (contestSystem linuxHost 0 contest)) initial

section TwoMounts

variable {contest : Contest} {initial : ContestNet Bool} {labels : List (ContestLabel Bool)}
  {first second : Daemon} {file : NamedFile} {event : Event EnvAns} {request : Request}
  {resume : Daemon → Resumption EnvOp EnvAns Fault Daemon Unit}
  {reached : Resumption EnvOp EnvAns Fault Daemon Unit}
  {other : Thread Bool EnvOp EnvAns Fault Daemon Unit}

theorem TwoMounts.start_true
    (h : TwoMounts contest initial labels ⟨mountStates first second, file, []⟩)
    (hreached : (handle linuxHost 0 request).run first = reached) :
    TwoMounts contest initial (labels ++ [.start true request reached.question
        ((contestSystem linuxHost 0 contest).sent first reached.state)])
      ⟨mountStates reached.state second, file, [reached.thread true]⟩ := by
  have hrun := h.snoc (.start true request hreached)
  rw [← update_mountStates_true first]
  exact hrun

theorem TwoMounts.start_false
    (h : TwoMounts contest initial labels ⟨mountStates first second, file, [other]⟩)
    (hreached : (handle linuxHost 0 request).run second = reached) :
    TwoMounts contest initial (labels ++ [.start false request reached.question
        ((contestSystem linuxHost 0 contest).sent second reached.state)])
      ⟨mountStates first reached.state, file, [other, reached.thread false]⟩ := by
  have hrun := h.snoc (.start false request hreached)
  rw [← update_mountStates_false first second]
  exact hrun

theorem TwoMounts.deliver_true
    (h : TwoMounts contest initial labels
      ⟨mountStates first second, file, [.answered true event resume, other]⟩)
    (hreached : resume first = reached) :
    TwoMounts contest initial (labels ++ [.deliver 0 event reached.question
        ((contestSystem linuxHost 0 contest).sent first reached.state)])
      ⟨mountStates reached.state second, file, [reached.thread true, other]⟩ := by
  have hrun := h.snoc (.deliver 0 rfl hreached)
  rw [← update_mountStates_true first]
  exact hrun

theorem TwoMounts.deliver_false
    (h : TwoMounts contest initial labels
      ⟨mountStates first second, file, [other, .answered false event resume]⟩)
    (hreached : resume second = reached) :
    TwoMounts contest initial (labels ++ [.deliver 1 event reached.question
        ((contestSystem linuxHost 0 contest).sent second reached.state)])
      ⟨mountStates first reached.state, file, [other, reached.thread false]⟩ := by
  have hrun := h.snoc (.deliver 1 rfl hreached)
  rw [← update_mountStates_false first second]
  exact hrun

theorem sent_of_replies_eq {before after : Daemon} (h : after.replies = before.replies) :
    (contestSystem linuxHost 0 contest).sent before after = [] :=
  System.sent_eq (h.trans (List.append_nil _).symm)

theorem sent_of_replies_append {mount before after : Daemon} {reply : FuseReply}
    (hbefore : before.replies = mount.replies) (hafter : after.replies = mount.replies ++ [reply]) :
    (contestSystem linuxHost 0 contest).sent before after = [reply] := by
  rw [← hbefore] at hafter
  exact System.sent_eq hafter

end TwoMounts

theorem dirHandle_fits : [(9 : UInt8)].length ≤ 64 := by
  decide

/-- A directory below the root, and a name in it. -/
def dirContest : Contest := ⟨⟨[9], dirHandle_fits⟩, [102]⟩

/-- The answers to a lookup of the directory. -/
def dirFound : Trace :=
  [⟨.call (.lookup ⟨[0], [100]⟩), RpcOutcome.done (.ok ⟨dirContest.handle,
      some { plainAttr with type := nf3dir, fileid := 9 }⟩)⟩,
    ⟨.malloc .nfsInode, true⟩]

/-- The first mount has looked up the directory, the second one a file before it. -/
def knownDirs : Bool → MountedDir := fun site ↦ bif site then ⟨1, 2⟩ else ⟨2, 3⟩

/-- An exclusive create of the name in the directory, as a mount numbers it. -/
def dirEntry (site : Bool) : Request := .create (knownDirs site).ino [102] 0o600 oExcl 0 0

theorem entry_dirEntry (site : Bool) : dirContest.Entry (knownDirs site) (dirEntry site) :=
  ⟨0o600, oExcl, 0, 0, rfl, by decide⟩

theorem exists_firstMount : ∃ mount, (knownDirs true).Held dirContest.handle mount ∧
    WinsAlone dirContest (knownDirs true) (dirEntry true) mount := by
  obtain ⟨mount, hanswer, hfind, hfh, hwins⟩ : ∃ mount,
      initialSession.Answer linuxHost (.lookup 1 [100]) dirFound (.done () mount) ∧
      mount.findIno 2 = some 1 ∧ (mount.inode 1).fh = nfsCopyFh3 dirContest.handle ∧
      WinsAlone dirContest (knownDirs true) (dirEntry true) mount :=
    ⟨_, ⟨0, _, _, rfl, true, _, rfl, rfl, rfl⟩, rfl, rfl,
      ⟨_, _, _, _, _, _, _, _, rfl, rfl, rfl, rfl, ⟨rfl, rfl, rfl⟩, _, rfl⟩⟩
  have hrun := Session.Run.step (initialSession_run fun _ _ _ ↦ True)
    (Session.legal_of_forgotten_eq_zero rfl) trivial hanswer
  exact ⟨mount, MountedDir.held_of_serving hrun.serving hfind hfh, hwins⟩

theorem exists_secondMount : ∃ mount, (knownDirs false).Held dirContest.handle mount ∧
    TurnedAway dirContest (knownDirs false) (dirEntry false) mount := by
  obtain ⟨mount, hanswer, hfind, hfh, haway⟩ : ∃ mount,
      (initialSession.after (.lookup 1 [102]) foundDaemon).Answer linuxHost (.lookup 1 [100])
        dirFound (.done () mount) ∧
      mount.findIno 3 = some 2 ∧ (mount.inode 2).fh = nfsCopyFh3 dirContest.handle ∧
      TurnedAway dirContest (knownDirs false) (dirEntry false) mount :=
    ⟨_, ⟨0, _, _, rfl, true, _, rfl, rfl, rfl⟩, rfl, rfl, ⟨_, _, _, rfl, rfl, rfl, rfl⟩⟩
  have hfound := Session.Run.step (initialSession_run fun _ _ _ ↦ True)
    (Session.legal_of_forgotten_eq_zero rfl) trivial foundDaemon_answer
  have hrun := hfound.step (Session.legal_of_forgotten_eq_zero rfl) trivial hanswer
  exact ⟨mount, MountedDir.held_of_serving hrun.serving hfind hfh, haway⟩

/-- The mounts know the directory as 2 and as 3.  Both requests are on their way at once; the server
grants the first `CREATE` and refuses the second one. -/
theorem exclusive_create_winner_two : ∃ initial labels net reply,
    (∀ site, (knownDirs site).Held dirContest.handle (initial.sites site)) ∧
    TwoMounts dirContest initial labels net ∧ dirNumbers knownDirs labels = [2, 3] ∧
    labels.flatMap Label.emitted = [.err eexist, .create reply] ∧ winners labels ≤ 1 := by
  obtain ⟨first, hfirst, asked, entered, written, replied, resume, allocated, attributes, finish,
    hstart, hcreated, hallocated, hfinish, ⟨hasked, hentered, hwritten⟩, reply, hreplied⟩ :=
      exists_firstMount
  obtain ⟨second, hsecond, asked', replied', resume', hstart', hrefused, hasked', hreplied'⟩ :=
    exists_secondMount
  have hidle : TwoMounts dirContest (idleMounts first second) [] _ := Run.nil
  have hstarted := TwoMounts.start_false (TwoMounts.start_true hidle hstart) hstart'
  have hcreate := hstarted.snoc (.execute 0 (createdBy dirContest (knownDirs true)).answer rfl
    (server_createdBy dirContest (knownDirs true)))
  have hexists : contestServer dirContest (contestedFile (knownDirs true).ino)
      (refusedBy dirContest (knownDirs false)) (contestedFile (knownDirs true).ino) :=
    contestServer_call_iff.mpr ⟨rfl, rfl⟩
  have hrefuse := hcreate.snoc
    (.execute 1 (refusedBy dirContest (knownDirs false)).answer rfl hexists)
  -- the second request ends before the first one goes on
  have herr := TwoMounts.deliver_false hrefuse hrefused
  have hmalloc := (TwoMounts.deliver_true herr hcreated).snoc (.execute 0 true rfl rfl)
  have hset := (TwoMounts.deliver_true hmalloc hallocated).snoc
    (.execute 0 (modeWritten attributes) rfl rfl)
  have hrun := TwoMounts.deliver_true hset hfinish
  have hheld (site : Bool) : (knownDirs site).Held dirContest.handle
      ((idleMounts first second).sites site) := by
    cases site
    · exact hsecond
    · exact hfirst
  refine ⟨_, _, _, reply, hheld, hrun, rfl, ?_, exclusive_create_winner rfl hheld hrun ?_ ?_⟩
  · simp only [List.flatMap_append, List.flatMap_cons, List.flatMap_nil, Label.emitted,
      Resumption.state, sent_of_replies_eq hasked, sent_of_replies_eq hasked',
      sent_of_replies_eq (hentered.trans hasked.symm),
      sent_of_replies_eq (hwritten.trans hentered.symm), sent_of_replies_append hwritten hreplied,
      sent_of_replies_append hasked' hreplied']
    rfl
  · intro site request next sent hmem
    simp only [List.nil_append, List.cons_append, List.mem_cons, Label.start.injEq, reduceCtorEq,
      List.not_mem_nil, or_false] at hmem
    rcases hmem with ⟨rfl, rfl, -⟩ | ⟨rfl, rfl, -⟩
    · exact entry_dirEntry true
    · exact entry_dirEntry false
  · have hnumbers : ([2, 3] : List UInt64).Nodup := by decide
    exact hnumbers

/-- The root as both mounts know it, and a name in it. -/
def rootContest : Contest := ⟨⟨[0], exportHandle_fits⟩, [102]⟩

def rootDir : MountedDir := ⟨0, 1⟩

theorem held_rootDir : rootDir.Held rootContest.handle mountedCache :=
  MountedDir.held_of_serving mounted_mountedCache.serving rfl rfl

/-- An exclusive create of the name. -/
def rootEntry : Request := .create 1 [102] 0o600 oExcl 0 0

theorem entry_rootEntry : rootContest.Entry rootDir rootEntry :=
  ⟨0o600, oExcl, 0, 0, rfl, by decide⟩

theorem winsAlone_rootEntry : WinsAlone rootContest rootDir rootEntry mountedCache :=
  ⟨_, _, _, _, _, _, _, _, rfl, rfl, rfl, rfl, ⟨rfl, rfl, rfl⟩, _, rfl⟩

theorem server_createdBy_again : contestServer rootContest (contestedFile rootDir.ino)
    (createdBy rootContest rootDir) (contestedFile rootDir.ino) :=
  contestServer_call_iff.mpr ⟨rfl, names_createdBy rootContest rootDir⟩

/-- Both mounts know the root as number 1, so the server takes the second `CREATE` for a repetition
of the first: both requests succeed. -/
theorem two_exclusive_winners : ∃ labels net,
    (∀ site, rootDir.Held rootContest.handle ((idleMounts mountedCache mountedCache).sites site)) ∧
    Run (Net.Step (contestSystem linuxHost 0 rootContest)) (idleMounts mountedCache mountedCache)
      labels net ∧
    (∀ site request next sent, .start site request next sent ∈ labels →
      rootContest.Entry rootDir request) ∧ winners labels = 2 := by
  obtain ⟨asked, entered, written, replied, resume, allocated, attributes, finish, hstart,
    hcreated, hallocated, hfinish, ⟨hasked, hentered, hwritten⟩, reply, hreplied⟩ :=
      winsAlone_rootEntry
  have hidle : TwoMounts rootContest (idleMounts mountedCache mountedCache) [] _ := Run.nil
  have hstarted := TwoMounts.start_false (TwoMounts.start_true hidle hstart) hstart
  have hcreate := hstarted.snoc (.execute 0 (createdBy rootContest rootDir).answer rfl
    (server_createdBy rootContest rootDir))
  have hrepeat := hcreate.snoc (.execute 1 (createdBy rootContest rootDir).answer rfl
    server_createdBy_again)
  -- the rest of the first request
  have hmalloc := (TwoMounts.deliver_true hrepeat hcreated).snoc (.execute 0 true rfl rfl)
  have hset := (TwoMounts.deliver_true hmalloc hallocated).snoc
    (.execute 0 (modeWritten attributes) rfl rfl)
  -- the rest of the second one
  have hmalloc' := (TwoMounts.deliver_false (TwoMounts.deliver_true hset hfinish) hcreated).snoc
    (.execute 1 true rfl rfl)
  have hset' := (TwoMounts.deliver_false hmalloc' hallocated).snoc
    (.execute 1 (modeWritten attributes) rfl rfl)
  refine ⟨_, _, fun site ↦ ?_, TwoMounts.deliver_false hset' hfinish, ?_, ?_⟩
  · cases site <;> exact held_rootDir
  · intro site request next sent hmem
    simp only [List.nil_append, List.cons_append, List.mem_cons, Label.start.injEq, reduceCtorEq,
      List.not_mem_nil, or_false] at hmem
    rcases hmem with ⟨-, rfl, -⟩ | ⟨-, rfl, -⟩ <;> exact entry_rootEntry
  · simp only [winners, List.flatMap_append, List.flatMap_cons, List.flatMap_nil, Label.emitted,
      Resumption.state, sent_of_replies_eq hasked, sent_of_replies_eq (hentered.trans hasked.symm),
      sent_of_replies_eq (hwritten.trans hentered.symm), sent_of_replies_append hwritten hreplied]
    rfl

end NfsFuse
