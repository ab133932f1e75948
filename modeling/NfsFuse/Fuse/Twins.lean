import NfsFuse.Lib.Interleaving
import NfsFuse.Fuse.ExclusiveCreate
import NfsFuse.Fuse.Forwarding

/-!
# Two inodes for one object

`hsfs_iget5_locked` looks for an object in the table and, if it is not there, allocates an inode and
enters it; the second look that the comments ask for, once there are locks, is not made.  With the
requests served one after the other there is one inode for every object.  When two of them overlap,
each can miss the object before the other one has entered it, and both enter an inode.

The kernel then has two inode numbers for one file, with separate lookup counts and cached
attributes.
-/

namespace NfsFuse

open Lib

variable {plat : Platform} {daemon : Daemon}

/-- A miss in `hsi_nfs_fhget`: the inode is entered in the state in which the allocation returns. -/
theorem fhget_miss (plat : Platform) (hlive : daemon.Live) {fh : NfsFh} {fattr : NfsFattr}
    (hattr : fattr.Acquirable) (hmiss : daemon.findFile fh fattr = none) :
    ∃ resume, (hsiNfsFhget plat fh fattr).run daemon = .ask (.malloc .nfsInode) daemon resume ∧
      ∀ current id, current.Live → current.freeId = some id →
        resume true current = .ret (.obj current.heap.length)
          (current.enter fattr.fileid id (current.newFile id fh fattr)) := by
  rw [hsiNfsFhget_run_acquirable plat hlive hattr, hmiss]
  refine ⟨_, getNewInode_bind_run daemon _ _ _, fun current id hcurrent hid ↦ ?_⟩
  have hderef : (Prog.deref (.obj current.heap.length)).run (current.enter fattr.fileid id
      { (nfsInitLocked fh fattr current.freshInode).1 with ino := id, iState := iNew }) =
      .ret current.heap.length _ := deref_obj_run hcurrent.length_notMem_freed
  rw [if_pos rfl, fillNewInode_run hcurrent, newInodeEnding_nfsInitLocked, hid]
  simp only [Ending.toResumption, Resumption.bind_ret, Program.bind_run_of_ret hderef,
    Prog.modifyInode_bind, Program.pure_run, Daemon.enter_inode_self, Daemon.enter_setInode]
  rfl

/-- The daemon after an object has been entered, counted and sent to the kernel. -/
def Daemon.answerNew (daemon : Daemon) (id : UInt64) (fh : NfsFh) (fattr : NfsFattr) : Daemon :=
  let inode := daemon.newFile id fh fattr
  let counted := { inode with priv := inode.priv + 1 }
  let entered := daemon.enter fattr.fileid id counted
  { entered with replies := entered.replies ++ [.entry (entryParam entered.sb counted)] }

/-- The end of `hsx_fuse_lookup` for a new inode. -/
theorem answerNew_run {id : UInt64} {fh : NfsFh} {fattr : NfsFattr} (hfreed : daemon.freed = []) :
    (do
      let _ ← hsxFuseRefInc (.obj daemon.heap.length) 1
      let param ← hsxFuseFillReply (.obj daemon.heap.length)
      Prog.reply (.entry param)).run
        (daemon.enter fattr.fileid id (daemon.newFile id fh fattr)) =
      .ret () (daemon.answerNew id fh fattr) := by
  have hlive (inode : NfsInode) :
      daemon.heap.length ∉ (daemon.enter fattr.fileid id inode).freed := by
    rw [Daemon.enter]
    simp [Daemon.hashAdd, Daemon.setCurrId, Daemon.push, hfreed]
  have hinc : (hsxFuseRefInc (.obj daemon.heap.length) 1).run
      (daemon.enter fattr.fileid id (daemon.newFile id fh fattr)) =
      .ret ((daemon.newFile id fh fattr).priv + 1) (daemon.enter fattr.fileid id
        { daemon.newFile id fh fattr with priv := (daemon.newFile id fh fattr).priv + 1 }) := by
    rw [hsxFuseRefInc, Program.bind_run_of_ret (deref_obj_run (hlive _)), Prog.getInode_bind,
      Prog.modifyInode_bind, Daemon.enter_inode_self, Daemon.enter_setInode]
    rfl
  rw [Program.bind_run_of_ret hinc, Program.bind_run, hsxFuseFillReply,
    Program.bind_run_of_ret (deref_obj_run (hlive _)), Prog.getInode_bind, Program.get_bind,
    Daemon.enter_inode_self]
  rfl

/-- A lookup of an object that is not in the cache: it misses the object in the state in which the
reply arrives, and enters it in the state in which the memory arrives. -/
theorem lookup_miss (plat : Platform) (hcoherent : Coherent daemon) {parent : UInt64} {dir : ℕ}
    (hdir : daemon.findIno parent = some dir) (name : CString) (handle : NfsFh3) {attr : Fattr3}
    (hnlink : attr.nlink ≠ 0) :
    ∃ resume, (hsxFuseLookup plat parent name).run daemon =
        .ask (.call (.lookup ((daemon.inode dir).entry name))) daemon resume ∧
      ∀ current, current.Live →
        current.findFile (nfsCopyFh3 handle) (postFattr (some attr)) = none →
        ∃ resume', resume (.done (.ok ⟨handle, some attr⟩)) current =
            .ask (.malloc .nfsInode) current resume' ∧
          ∀ later id, later.Live → later.freed = [] → later.freeId = some id →
            resume' true later =
              .ret () (later.answerNew id (nfsCopyFh3 handle) (postFattr (some attr))) := by
  rw [hsxFuseLookup, Program.bind_run_of_ret (hsfsIlookup_run hcoherent.live parent), hdir]
  refine ⟨_, rfl, fun current hcurrent hmiss ↦ ?_⟩
  have hattr : (postFattr (some attr)).Acquirable :=
    (postFattr_acquirable_iff _).mpr ⟨attr, rfl, hnlink⟩
  obtain ⟨resume', hask, henter⟩ := fhget_miss plat hcurrent hattr hmiss
  simp only [Resumption.bind_ret, Program.bind_run, hask, Resumption.bind_ask]
  refine ⟨_, rfl, fun later id hlater hfreed hid ↦ ?_⟩
  rw [henter later id hlater hid]
  exact answerNew_run hfreed

section New

variable {id : UInt64} {fh : NfsFh} {fattr : NfsFattr}

@[simp]
theorem answerNew_length : (daemon.answerNew id fh fattr).heap.length = daemon.heap.length + 1 :=
  Daemon.enter_length daemon fattr.fileid id _

theorem answerNew_inode_lt {index : ℕ} (hlt : index < daemon.heap.length) :
    (daemon.answerNew id fh fattr).inode index = daemon.inode index :=
  Daemon.enter_inode_lt hlt fattr.fileid id _

/-- The new inode is the object, under the number that was picked. -/
theorem answerNew_inode_self (daemon : Daemon) (id : UInt64) (fattr : NfsFattr)
    (hfh : fh.WellFormed) :
    ((daemon.answerNew id fh fattr).inode daemon.heap.length).ino = id ∧
    ((daemon.answerNew id fh fattr).inode daemon.heap.length).fileid = fattr.fileid ∧
    ((daemon.answerNew id fh fattr).inode daemon.heap.length).fh = fh := by
  have hself : (daemon.answerNew id fh fattr).inode daemon.heap.length =
      { daemon.newFile id fh fattr with priv := (daemon.newFile id fh fattr).priv + 1 } :=
    Daemon.enter_inode_self daemon fattr.fileid id _
  rw [hself]
  refine ⟨fhgetUpdate_ino fattr _, ?_, daemon.newFile_fh id hfh fattr⟩
  rw [Daemon.newFile_eq]
  rfl

theorem answerNew_replies (daemon : Daemon) (id : UInt64) (fh : NfsFh) (fattr : NfsFattr) :
    ∃ param, param.ino = id ∧
    (daemon.answerNew id fh fattr).replies = daemon.replies ++ [.entry param] :=
  ⟨_, fhgetUpdate_ino fattr _, rfl⟩

/-- One object that was not cached leaves the cache coherent. -/
theorem coherent_answerNew (hcoherent : Coherent daemon) (hfh : fh.WellFormed)
    (hattr : fattr.Acquirable) (hmiss : daemon.findFile fh fattr = none)
    (hid : daemon.freeId = some id) : Coherent (daemon.answerNew id fh fattr) := by
  obtain ⟨⟨hentered, -⟩, -⟩ := hcoherent.fhget hfh (.entered hattr hmiss hid)
  have hlt : daemon.heap.length <
      (daemon.enter fattr.fileid id (daemon.newFile id fh fattr)).heap.length := by
    rw [Daemon.enter_length]
    exact Nat.lt_succ_self _
  have hcounted := hentered.setPriv hlt ((daemon.newFile id fh fattr).priv + 1)
  rw [Daemon.enter_inode_self, Daemon.enter_setInode] at hcounted
  exact hcounted.setReplies _

end New

/-! ## Two lookups -/

/-- The requests at a daemon, and its server. -/
def serving {S : Type} (plat : Platform) (fuel : ℕ) (server : Server EnvAns S) :
    System Request EnvOp EnvAns Fault Daemon Unit FuseReply S where
  code := handle plat fuel
  server := server
  log := Daemon.replies

section Steps

variable {S : Type} {fuel : ℕ} {server : Server EnvAns S}
  {initial : Net Unit EnvOp EnvAns Fault Daemon Unit S} {state : S}
  {threads : List (Thread Unit EnvOp EnvAns Fault Daemon Unit)}

/-- A daemon with these requests in progress can be reached. -/
def Reaches (plat : Platform) (fuel : ℕ) (server : Server EnvAns S)
    (initial : Net Unit EnvOp EnvAns Fault Daemon Unit S) (daemon : Daemon) (state : S)
    (threads : List (Thread Unit EnvOp EnvAns Fault Daemon Unit)) : Prop :=
  ∃ labels, Run (Net.Step (serving plat fuel server)) initial labels
    ⟨fun _ ↦ daemon, state, threads⟩

theorem update_unit (daemon daemon' : Daemon) :
    Function.update (fun _ : Unit ↦ daemon) () daemon' = fun _ ↦ daemon' := by
  funext site
  exact Function.update_self ..

theorem Reaches.start (h : Reaches plat fuel server initial daemon state threads)
    (request : Request) {reached : Resumption EnvOp EnvAns Fault Daemon Unit}
    (hrun : (handle plat fuel request).run daemon = reached) :
    Reaches plat fuel server initial reached.state state (threads ++ [reached.thread ()]) := by
  obtain ⟨labels, h⟩ := h
  have hnext := h.snoc (.start () request hrun)
  rw [update_unit] at hnext
  exact ⟨_, hnext⟩

theorem Reaches.execute (h : Reaches plat fuel server initial daemon state threads) (index : ℕ)
    {op : EnvOp} {resume : EnvAns op → Daemon → Resumption EnvOp EnvAns Fault Daemon Unit}
    {answer : EnvAns op} (hthread : threads[index]? = some (.waiting () op resume))
    (hserver : server state ⟨op, answer⟩ state) :
    Reaches plat fuel server initial daemon state
      (threads.set index (.answered () ⟨op, answer⟩ (resume answer))) := by
  obtain ⟨labels, h⟩ := h
  exact ⟨_, h.snoc (.execute index answer hthread hserver)⟩

theorem Reaches.deliver (h : Reaches plat fuel server initial daemon state threads) (index : ℕ)
    {event : Event EnvAns} {resume : Daemon → Resumption EnvOp EnvAns Fault Daemon Unit}
    {reached : Resumption EnvOp EnvAns Fault Daemon Unit}
    (hthread : threads[index]? = some (.answered () event resume))
    (hrun : resume daemon = reached) :
    Reaches plat fuel server initial reached.state state
      (threads.set index (reached.thread ())) := by
  obtain ⟨labels, h⟩ := h
  have hnext := h.snoc (.deliver index hthread hrun)
  rw [update_unit] at hnext
  exact ⟨_, hnext⟩

end Steps

/-- Two lookups of one object that is not cached overlap: both miss it, and the kernel is given two
numbers for it. -/
theorem overlapping_lookups_split_object {S : Type} {server : Server EnvAns S} {state : S}
    {parent : UInt64} {dir : ℕ} {handle : NfsFh3} {attr : Fattr3} (fuel : ℕ) (name : CString)
    (hcoherent : Coherent daemon) (hdir : daemon.findIno parent = some dir)
    (hnlink : attr.nlink ≠ 0)
    (hmiss : daemon.findFile (nfsCopyFh3 handle) (postFattr (some attr)) = none)
    (hroom : daemon.heap.length + 2 < 2 ^ 64)
    (hlookup : server state ⟨.call (.lookup ((daemon.inode dir).entry name)),
      RpcOutcome.done (.ok ⟨handle, some attr⟩)⟩ state)
    (hmalloc : server state ⟨.malloc .nfsInode, true⟩ state) :
    ∃ labels net first second, Run (Net.Step (serving plat fuel server))
        ⟨fun _ : Unit ↦ daemon, state, []⟩ labels net ∧
      (∀ thread ∈ net.threads, thread = .ended ()) ∧
      daemon.heap.length ≤ first ∧ first < second ∧ second < (net.sites ()).heap.length ∧
      (∀ index ∈ [first, second], ((net.sites ()).inode index).fileid = attr.fileid ∧
        ((net.sites ()).inode index).fh = nfsCopyFh3 handle) ∧
      ((net.sites ()).inode first).ino ≠ ((net.sites ()).inode second).ino ∧
      ∃ param param', (net.sites ()).replies = daemon.replies ++ [.entry param, .entry param'] ∧
        param.ino = ((net.sites ()).inode first).ino ∧
        param'.ino = ((net.sites ()).inode second).ino := by
  let fh := nfsCopyFh3 handle
  let fattr := postFattr (some attr)
  have hfh : fh.WellFormed := nfsCopyFh3_wellFormed handle
  have hattr : fattr.Acquirable := (postFattr_acquirable_iff _).mpr ⟨attr, rfl, hnlink⟩
  -- the numbers that the two requests pick
  have hpos : 0 < daemon.heap.length :=
    Nat.zero_lt_of_lt ((hcoherent.findIno_eq_some_iff parent dir).mp hdir).1
  obtain ⟨id, hid⟩ := Option.isSome_iff_exists.mp
    ((hcoherent.freeId_isSome_iff hpos).mpr (by omega))
  have hcoherent' := coherent_answerNew hcoherent hfh hattr hmiss hid
  obtain ⟨id', hid'⟩ := Option.isSome_iff_exists.mp
    ((hcoherent'.freeId_isSome_iff (by rw [answerNew_length]; omega)).mpr
      (by rw [answerNew_length]; omega))
  -- both requests miss the object before either has entered it
  obtain ⟨resume, hask, hreply⟩ := lookup_miss plat hcoherent hdir name handle hnlink
  obtain ⟨resume', hask', henter⟩ := hreply daemon hcoherent.live hmiss
  have hstart : Reaches plat fuel server ⟨fun _ ↦ daemon, state, []⟩ daemon state [] := ⟨[], .nil⟩
  have hcalled := (hstart.start (.lookup parent name) hask).start (.lookup parent name) hask
  have hexecuted := (hcalled.execute 0 rfl hlookup).execute 1 rfl hlookup
  have hmissed := (hexecuted.deliver 0 rfl hask').deliver 1 rfl hask'
  have hgranted := (hmissed.execute 0 rfl hmalloc).execute 1 rfl hmalloc
  have hfirst := hgranted.deliver 0 rfl
    (henter daemon id hcoherent.live hcoherent.freed_nil hid)
  obtain ⟨labels, hrun⟩ := hfirst.deliver 1 rfl
    (henter _ id' hcoherent'.live hcoherent'.freed_nil hid')
  -- what they leave behind
  let daemon' := daemon.answerNew id fh fattr
  let daemon₂ := daemon'.answerNew id' fh fattr
  have hlength : daemon'.heap.length = daemon.heap.length + 1 := answerNew_length
  have hlength₂ : daemon₂.heap.length = daemon'.heap.length + 1 := answerNew_length
  obtain ⟨hino, hfileid, hhandle⟩ := answerNew_inode_self daemon id fattr hfh
  obtain ⟨hino₂, hfileid₂, hhandle₂⟩ := answerNew_inode_self daemon' id' fattr hfh
  have hkept : daemon₂.inode daemon.heap.length = daemon'.inode daemon.heap.length :=
    answerNew_inode_lt (by omega)
  have hdistinct : (daemon'.inode daemon.heap.length).ino ≠ id' := by
    apply hcoherent'.numbered.freeId_unused hid'
    apply (hcoherent'.mem_hashed_iff _).mpr
    rw [answerNew_length]
    exact Nat.lt_succ_self _
  obtain ⟨param, hparam, hreplies⟩ := answerNew_replies daemon id fh fattr
  obtain ⟨param', hparam', hreplies₂⟩ := answerNew_replies daemon' id' fh fattr
  refine ⟨labels, _, daemon.heap.length, daemon'.heap.length, hrun, ?_, le_rfl, by omega,
    hlength₂ ▸ Nat.lt_succ_self _, ?_, ?_, param, param', ?_, ?_, ?_⟩
  · intro thread hmem
    rcases List.mem_pair.mp hmem with rfl | rfl <;> rfl
  · intro index hmem
    change (daemon₂.inode index).fileid = attr.fileid ∧ (daemon₂.inode index).fh = fh
    rcases List.mem_pair.mp hmem with rfl | rfl
    · rw [hkept]
      exact ⟨hfileid, hhandle⟩
    · exact ⟨hfileid₂, hhandle₂⟩
  · change (daemon₂.inode daemon.heap.length).ino ≠ (daemon₂.inode daemon'.heap.length).ino
    rw [hkept, hino₂]
    exact hdistinct
  · change daemon₂.replies = _
    rw [hreplies₂, hreplies, List.append_assoc]
    rfl
  · change param.ino = (daemon₂.inode daemon.heap.length).ino
    rw [hkept, hparam]
    exact hino.symm
  · exact hparam'.trans hino₂.symm

/-- A file in the root of a fresh mount gets the numbers of two inodes. -/
theorem overlapping_lookups_split_object_root :
    Coherent mountedCache ∧ mountedCache.findIno 1 = some 0 ∧
    mountedCache.findFile (nfsCopyFh3 ⟨[9], by decide⟩) (postFattr (some plainAttr)) = none ∧
    ∃ labels net first second, Run (Net.Step (serving linuxHost 0 fun (_ : Unit) _ _ ↦ True))
        ⟨fun _ : Unit ↦ mountedCache, (), []⟩ labels net ∧
      (∀ thread ∈ net.threads, thread = .ended ()) ∧
      mountedCache.heap.length ≤ first ∧ first < second ∧
      second < (net.sites ()).heap.length ∧
      (∀ index ∈ [first, second], ((net.sites ()).inode index).fileid = plainAttr.fileid ∧
        ((net.sites ()).inode index).fh = nfsCopyFh3 ⟨[9], by decide⟩) ∧
      ((net.sites ()).inode first).ino ≠ ((net.sites ()).inode second).ino ∧
      ∃ param param', (net.sites ()).replies =
          mountedCache.replies ++ [.entry param, .entry param'] ∧
        param.ino = ((net.sites ()).inode first).ino ∧
        param'.ino = ((net.sites ()).inode second).ino := by
  have hcoherent := mounted_mountedCache.coherent
  have hdir : mountedCache.findIno 1 = some 0 := by decide
  have hmiss : mountedCache.findFile (nfsCopyFh3 ⟨[9], by decide⟩)
      (postFattr (some plainAttr)) = none := by decide
  exact ⟨hcoherent, hdir, hmiss, overlapping_lookups_split_object 0 [100] hcoherent hdir
    (by decide) hmiss (by decide) trivial trivial⟩

end NfsFuse
