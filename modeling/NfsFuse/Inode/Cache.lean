import NfsFuse.Inode.Daemon
import NfsFuse.Lib.Search

/-!
# The inode cache

The embedding of `lib/hsfs_inode.c`: the two chained hash tables, the lookup by inode number, the
loop that picks the next inode number, `hsfs_iget5_locked` with its callbacks, and `hsfs_iput`.

Every walk and the numbering loop are first written as the loops of the source; the run lemmas then
say what each of them computes when no hashed inode has been freed.
-/

namespace NfsFuse

open Lib

/-- `hash_64` -/
def hash64 (val : UInt64) (bits : UInt64) : UInt64 :=
  let hash := val
  let n := hash <<< 18
  let hash := hash - n
  let n := n <<< 33
  let hash := hash - n
  let n := n <<< 3
  let hash := hash + n
  let n := n <<< 3
  let hash := hash - n
  let n := n <<< 4
  let hash := hash + n
  let n := n <<< 2
  let hash := hash + n
  hash >>> (64 - bits)

theorem hash64_ten_lt (val : UInt64) : (hash64 val 10).toNat < 1024 := by
  rw [hash64, UInt64.toNat_shiftRight]
  change _ >>> 54 < 1024
  rw [Nat.shiftRight_eq_div_pow, Nat.div_lt_iff_lt_mul (by decide)]
  exact UInt64.toNat_lt _

/-- `hash_min` of a 64-bit key for a table of 1024 buckets. -/
def hashMin (val : UInt64) : Fin 1024 := ⟨(hash64 val 10).toNat, hash64_ten_lt val⟩

/-- `hsfs_init_icache` -/
def hsfsInitIcache (sb : HsfsSuper) : HsfsSuper := { sb with idTable := .empty, fhTable := .empty }

/-- The pointer to an optional object. -/
def InodePtr.ofOption : Option ℕ → InodePtr
  | none => .null
  | some index => .obj index

@[simp]
theorem InodePtr.ofOption_eq_null (found : Option ℕ) : ofOption found = .null ↔ found = none := by
  cases found <;> simp [ofOption]

@[simp]
theorem InodePtr.ofOption_eq_obj (found : Option ℕ) (index : ℕ) :
    ofOption found = .obj index ↔ found = some index := by
  cases found <;> simp [ofOption]

/-- `hash_for_each_possible` up to the first inode that passes the test. -/
def walkChain (test : NfsInode → Bool) : List ℕ → Prog InodePtr
  | [] => return .null
  | first :: rest => do
      let index ← Prog.deref (.obj first)
      let inode ← Prog.getInode index
      if test inode then return .obj index else walkChain test rest

/-- `__id_ifind` -/
def idIfind (key : UInt64) : Prog InodePtr := do
  let daemon ← Program.get
  walkChain (fun inode ↦ inode.ino == key) (daemon.sb.idTable.chain (hashMin key))

/-- `__fh_ifind` -/
def fhIfind (key : UInt64) (test : NfsInode → Bool) : Prog InodePtr := do
  let daemon ← Program.get
  walkChain test (daemon.sb.fhTable.chain (hashMin key))

/-- `hsfs_ilookup` -/
def hsfsIlookup (ino : UInt64) : Prog InodePtr := idIfind ino

/-- `I_NEW` -/
def iNew : UInt32 := 8

/-- `inode_init_always` -/
def inodeInitAlways (sb : HsfsSuper) (inode : NfsInode) : NfsInode :=
  { inode with
    generation := 0
    priv := 0
    ino := 0
    iBlocks := 0
    iNlink := 1
    iBlkbits := sb.bsizeBits.toUInt32 }

/-- `alloc_inode` with `nfs_alloc_inode` -/
def allocInode : Prog InodePtr := do
  if ← Prog.malloc .nfsInode then
    let daemon ← Program.get
    Program.modify fun daemon ↦
      { daemon with heap := daemon.heap ++ [inodeInitAlways daemon.sb .cleared] }
    return .obj daemon.heap.length
  else
    return .null

/-- `destroy_inode` with `nfs_destroy_inode`; freeing twice is undefined. -/
def destroyInode (index : ℕ) : Prog Unit := do
  let index ← Prog.deref (.obj index)
  Program.modify fun daemon ↦ { daemon with freed := index :: daemon.freed }

/-- One increment of `curr_id`, skipping 0 and 1 when it wraps. -/
def nextId (current : UInt64) : UInt64 := if current + 1 = 0 then 2 else current + 1

/-- The superblock with another `curr_id`. -/
def Daemon.setCurrId (daemon : Daemon) (id : UInt64) : Daemon :=
  { daemon with sb := { daemon.sb with currId := id } }

/-- The loop of `__inode_add_to_lists` that picks an inode number. -/
def pickId : ℕ → Prog UInt64
  | 0 => Program.crash .outOfFuel
  | fuel + 1 => do
      Program.modify fun daemon ↦ daemon.setCurrId (nextId daemon.sb.currId)
      let daemon ← Program.get
      match ← idIfind daemon.sb.currId with
      | .null => return daemon.sb.currId
      | _ => pickId fuel

/-- The superblock after `hash_add` to both tables. -/
def Daemon.hashAdd (daemon : Daemon) (ino key : UInt64) (index : ℕ) : Daemon :=
  { daemon with
    sb := { daemon.sb with
      idTable := daemon.sb.idTable.add (hashMin ino) index
      fhTable := daemon.sb.fhTable.add (hashMin key) index } }

/-- `__inode_add_to_lists`.  Among any 2^64 consecutive values of `curr_id` every number the loop
can produce occurs, so that much fuel stands for the unbounded loop. -/
def inodeAddToLists (key : UInt64) (index : ℕ) : Prog Unit := do
  let id ← pickId (2 ^ 64)
  Prog.modifyInode index fun inode ↦ { inode with ino := id }
  Program.modify fun daemon ↦ daemon.hashAdd id key index

/-- The part of `get_new_inode` that follows the allocation; the callback returns the inode it has
filled in and its result. -/
def fillNewInode (key : UInt64) (set : NfsInode → NfsInode × ℤ) (index : ℕ) : Prog InodePtr := do
  let inode ← Prog.getInode index
  Prog.modifyInode index fun _ ↦ (set inode).1
  if (set inode).2 ≠ 0 then
    destroyInode index
    return .null
  else
    inodeAddToLists key index
    Prog.modifyInode index fun inode ↦ { inode with iState := iNew }
    return .obj index

/-- `get_new_inode` -/
def getNewInode (key : UInt64) (set : NfsInode → NfsInode × ℤ) : Prog InodePtr := do
  match ← allocInode with
  | .obj index => fillNewInode key set index
  | ptr => return ptr

/-- `hsfs_iget5_locked` -/
def hsfsIget5Locked (hashval : UInt64) (test : NfsInode → Bool)
    (set : NfsInode → NfsInode × ℤ) : Prog InodePtr := do
  match ← fhIfind hashval test with
  | .null => getNewInode hashval set
  | ptr => return ptr

/-! ## What the walks and the numbering loop compute -/

namespace Daemon

/-- The inode with a given number, as the number table has it. -/
def findIno (daemon : Daemon) (ino : UInt64) : Option ℕ :=
  daemon.sb.idTable.find (hashMin ino) fun index ↦ (daemon.inode index).ino == ino

/-- The inode in a bucket of the handle table that passes a test. -/
def findFh (daemon : Daemon) (key : UInt64) (test : NfsInode → Bool) : Option ℕ :=
  daemon.sb.fhTable.find (hashMin key) fun index ↦ test (daemon.inode index)

/-- The index names an inode that has been allocated and not freed. -/
def Allocated (daemon : Daemon) (index : ℕ) : Prop :=
  index < daemon.heap.length ∧ index ∉ daemon.freed

/-- Both tables refer to allocated inodes only. -/
structure Live (daemon : Daemon) : Prop where
  idTable : ∀ bucket, ∀ index ∈ daemon.sb.idTable.chain bucket, daemon.Allocated index
  fhTable : ∀ bucket, ∀ index ∈ daemon.sb.fhTable.chain bucket, daemon.Allocated index
  freed_lt : ∀ index ∈ daemon.freed, index < daemon.heap.length

@[simp]
theorem setCurrId_inode (daemon : Daemon) (id : UInt64) (index : ℕ) :
    (daemon.setCurrId id).inode index = daemon.inode index := rfl

@[simp]
theorem setCurrId_setCurrId (daemon : Daemon) (id id' : UInt64) :
    (daemon.setCurrId id).setCurrId id' = daemon.setCurrId id' := rfl

theorem Live.setCurrId {daemon : Daemon} (h : daemon.Live) (id : UInt64) :
    (daemon.setCurrId id).Live := ⟨h.idTable, h.fhTable, h.freed_lt⟩

theorem Live.findFh_lt {daemon : Daemon} (h : daemon.Live) {key : UInt64}
    {test : NfsInode → Bool} {index : ℕ} (hfind : daemon.findFh key test = some index) :
    daemon.Allocated index :=
  h.fhTable _ index (List.mem_of_find?_eq_some hfind)

/-- The daemon with one more inode, not hashed yet. -/
def push (daemon : Daemon) (inode : NfsInode) : Daemon :=
  { daemon with heap := daemon.heap ++ [inode] }

/-- The daemon with one more inode, freed again without having been hashed. -/
def pushFreed (daemon : Daemon) (inode : NfsInode) : Daemon :=
  { daemon with
    heap := daemon.heap ++ [inode]
    freed := daemon.heap.length :: daemon.freed }

theorem push_inode_lt {daemon : Daemon} {index : ℕ} (h : index < daemon.heap.length)
    (inode : NfsInode) : (daemon.push inode).inode index = daemon.inode index := by
  simp [push, Daemon.inode, List.getD_eq_getElem?_getD, List.getElem?_append_left h]

@[simp]
theorem push_inode_self (daemon : Daemon) (inode : NfsInode) :
    (daemon.push inode).inode daemon.heap.length = inode := by
  simp [push, Daemon.inode]

@[simp]
theorem push_setInode (daemon : Daemon) (inode inode' : NfsInode) :
    (daemon.push inode).setInode daemon.heap.length inode' = daemon.push inode' := by
  simp [push, setInode]

theorem Live.push {daemon : Daemon} (h : daemon.Live) (inode : NfsInode) :
    (daemon.push inode).Live := by
  have hlength : (daemon.push inode).heap.length = daemon.heap.length + 1 := by
    simp [Daemon.push]
  refine ⟨fun bucket index hmem ↦ ?_, fun bucket index hmem ↦ ?_, fun index hmem ↦ ?_⟩
  · have := h.idTable bucket index hmem
    exact ⟨by rw [hlength]; exact Nat.lt_succ_of_lt this.1, this.2⟩
  · have := h.fhTable bucket index hmem
    exact ⟨by rw [hlength]; exact Nat.lt_succ_of_lt this.1, this.2⟩
  · have := h.freed_lt index hmem
    omega

theorem Live.length_notMem_freed {daemon : Daemon} (h : daemon.Live) :
    daemon.heap.length ∉ daemon.freed :=
  fun hmem ↦ absurd (h.freed_lt _ hmem) (lt_irrefl _)

theorem Live.push_findIno {daemon : Daemon} (h : daemon.Live) (inode : NfsInode) (ino : UInt64) :
    (daemon.push inode).findIno ino = daemon.findIno ino := by
  refine HashTable.find_congr fun index hmem ↦ ?_
  rw [push_inode_lt (h.idTable _ index hmem).1]

end Daemon

theorem deref_obj_run {daemon : Daemon} {index : ℕ} (h : index ∉ daemon.freed) :
    (Prog.deref (.obj index)).run daemon = .ret index daemon := by
  simp [Prog.deref, h]

/-- Going through an error pointer is undefined. -/
@[simp]
theorem deref_err_run (error : ℤ) (daemon : Daemon) :
    (Prog.deref (.err error)).run daemon = .fault .undefined daemon := rfl

theorem walkChain_run {daemon : Daemon} (test : NfsInode → Bool) {chain : List ℕ}
    (h : ∀ index ∈ chain, daemon.Allocated index) :
    (walkChain test chain).run daemon =
      .ret (.ofOption (chain.find? fun index ↦ test (daemon.inode index))) daemon := by
  induction chain with
  | nil => rfl
  | cons first rest ih =>
    have hfirst : first ∉ daemon.freed := (h first List.mem_cons_self).2
    have hrest := ih fun index hmem ↦ h index (List.mem_cons_of_mem first hmem)
    rw [walkChain, Program.bind_run_of_ret (deref_obj_run hfirst), List.find?_cons]
    simp only [Prog.getInode, Program.bind_run, Program.get_run, Resumption.bind_ret,
      Program.pure_run]
    cases htest : test (daemon.inode first) with
    | false => simpa only [htest, Bool.false_eq_true, if_false] using hrest
    | true => simp [InodePtr.ofOption]

theorem idIfind_run {daemon : Daemon} (h : daemon.Live) (key : UInt64) :
    (idIfind key).run daemon = .ret (.ofOption (daemon.findIno key)) daemon := by
  rw [idIfind, Program.get_bind, walkChain_run _ (h.idTable _)]
  rfl

theorem fhIfind_run {daemon : Daemon} (h : daemon.Live) (key : UInt64) (test : NfsInode → Bool) :
    (fhIfind key test).run daemon = .ret (.ofOption (daemon.findFh key test)) daemon := by
  rw [fhIfind, Program.get_bind, walkChain_run _ (h.fhTable _)]
  rfl

theorem hsfsIlookup_run {daemon : Daemon} (h : daemon.Live) (ino : UInt64) :
    (hsfsIlookup ino).run daemon = .ret (.ofOption (daemon.findIno ino)) daemon :=
  idIfind_run h ino

/-- The numbers the loop must avoid. -/
def Daemon.idInUse (daemon : Daemon) (id : UInt64) : Bool := (daemon.findIno id).isSome

/-- The next inode number, if there is a free one. -/
def Daemon.freeId (daemon : Daemon) : Option UInt64 :=
  searchOrbit nextId daemon.idInUse (2 ^ 64) daemon.sb.currId

/-- The numbering loop is a search along the orbit of `nextId`. -/
theorem pickId_run {daemon : Daemon} (h : daemon.Live) (fuel : ℕ) (current : UInt64) :
    (pickId fuel).run (daemon.setCurrId current) =
      match searchOrbit nextId daemon.idInUse fuel current with
      | some id => .ret id (daemon.setCurrId id)
      | none => .fault .outOfFuel (daemon.setCurrId (nextId^[fuel] current)) := by
  induction fuel generalizing current with
  | zero => rfl
  | succ fuel ih =>
    have hlive := h.setCurrId (nextId current)
    have hfind : (daemon.setCurrId (nextId current)).findIno (nextId current) =
        daemon.findIno (nextId current) := rfl
    simp only [pickId, Program.modify_bind, Program.get_bind]
    rw [Program.bind_run]
    change Resumption.bind
      ((idIfind (nextId current)).run (daemon.setCurrId (nextId current))) _ = _
    rw [idIfind_run hlive, Resumption.bind_ret, hfind, searchOrbit_succ]
    cases hused : daemon.findIno (nextId current) with
    | none => simp [Daemon.idInUse, hused, InodePtr.ofOption, Daemon.setCurrId]
    | some index =>
      simp only [Daemon.idInUse, hused, Option.isSome_some, if_true, InodePtr.ofOption]
      exact ih (nextId current)

/-- The daemon after a new inode has been numbered and hashed. -/
def Daemon.enter (daemon : Daemon) (key id : UInt64) (inode : NfsInode) : Daemon :=
  ((daemon.push inode).setCurrId id).hashAdd id key daemon.heap.length

@[simp]
theorem Daemon.enter_inode_self (daemon : Daemon) (key id : UInt64) (inode : NfsInode) :
    (daemon.enter key id inode).inode daemon.heap.length = inode :=
  Daemon.push_inode_self daemon inode

theorem Daemon.enter_inode_lt {daemon : Daemon} {index : ℕ} (h : index < daemon.heap.length)
    (key id : UInt64) (inode : NfsInode) :
    (daemon.enter key id inode).inode index = daemon.inode index :=
  Daemon.push_inode_lt h inode

@[simp]
theorem Daemon.enter_setInode (daemon : Daemon) (key id : UInt64) (inode inode' : NfsInode) :
    (daemon.enter key id inode).setInode daemon.heap.length inode' =
      daemon.enter key id inode' := by
  rw [Daemon.enter, Daemon.enter, ← Daemon.push_setInode daemon inode inode']
  rfl

@[simp]
theorem Daemon.enter_length (daemon : Daemon) (key id : UInt64) (inode : NfsInode) :
    (daemon.enter key id inode).heap.length = daemon.heap.length + 1 := by
  simp [Daemon.enter, Daemon.hashAdd, Daemon.setCurrId, Daemon.push]

/-- The inode handed to the callback of `hsfs_iget5_locked`. -/
def Daemon.freshInode (daemon : Daemon) : NfsInode := inodeInitAlways daemon.sb .cleared

/-- How `get_new_inode` ends when the allocation of an inode succeeds. -/
def newInodeEnding (daemon : Daemon) (key : UInt64) (set : NfsInode → NfsInode × ℤ) :
    Ending Fault Daemon InodePtr :=
  if (set daemon.freshInode).2 ≠ 0 then
    .done .null (daemon.pushFreed (set daemon.freshInode).1)
  else
    match daemon.freeId with
    | some id => .done (.obj daemon.heap.length)
        (daemon.enter key id { (set daemon.freshInode).1 with ino := id, iState := iNew })
    | none => .crashed .outOfFuel
        ((daemon.push (set daemon.freshInode).1).setCurrId (nextId^[2 ^ 64] daemon.sb.currId))

theorem inodeAddToLists_run {daemon : Daemon} (h : daemon.Live) (key : UInt64)
    (inode : NfsInode) :
    (inodeAddToLists key daemon.heap.length).run (daemon.push inode) =
      match daemon.freeId with
      | some id => .ret () (daemon.enter key id { inode with ino := id })
      | none => .fault .outOfFuel
          ((daemon.push inode).setCurrId (nextId^[2 ^ 64] daemon.sb.currId)) := by
  have hinUse : (daemon.push inode).idInUse = daemon.idInUse := by
    funext id
    rw [Daemon.idInUse, Daemon.idInUse, h.push_findIno]
  have hpick := pickId_run (h.push inode) (2 ^ 64) daemon.sb.currId
  have hsame : (daemon.push inode).setCurrId daemon.sb.currId = daemon.push inode := rfl
  rw [hsame, hinUse] at hpick
  rw [inodeAddToLists, Program.bind_run, hpick, Daemon.freeId]
  cases searchOrbit nextId daemon.idInUse (2 ^ 64) daemon.sb.currId with
  | none => rfl
  | some id =>
    have hset : ((daemon.push inode).setCurrId id).setInode daemon.heap.length
        { inode with ino := id } = (daemon.push { inode with ino := id }).setCurrId id := by
      rw [← Daemon.push_setInode daemon inode { inode with ino := id }]
      rfl
    have hread : ((daemon.push inode).setCurrId id).inode daemon.heap.length = inode := by
      rw [Daemon.setCurrId_inode, Daemon.push_inode_self]
    simp only [Resumption.bind_ret, Prog.modifyInode_bind, Program.modify_run, hread, hset]
    rfl

theorem allocInode_run (daemon : Daemon) :
    allocInode.run daemon = .ask (.malloc .nfsInode) daemon fun answer current ↦
      match answer with
      | true => .ret (.obj current.heap.length) (current.push current.freshInode)
      | false => .ret .null current := by
  rw [allocInode, Prog.malloc_bind]
  congr 1
  funext answer current
  cases answer <;> rfl

theorem fillNewInode_run {daemon : Daemon} (h : daemon.Live) (key : UInt64)
    (set : NfsInode → NfsInode × ℤ) :
    (fillNewInode key set daemon.heap.length).run (daemon.push daemon.freshInode) =
      (newInodeEnding daemon key set).toResumption := by
  simp only [fillNewInode, Prog.getInode_bind, Prog.modifyInode_bind, Daemon.push_inode_self,
    Daemon.push_setInode, newInodeEnding]
  by_cases hret : (set daemon.freshInode).2 ≠ 0
  · have hnotMem : daemon.heap.length ∉ (daemon.push (set daemon.freshInode).1).freed :=
      h.length_notMem_freed
    simp only [if_pos hret, destroyInode]
    rw [Program.bind_run, Program.bind_run_of_ret (deref_obj_run hnotMem)]
    rfl
  · simp only [if_neg hret]
    rw [Program.bind_run, inodeAddToLists_run h]
    cases daemon.freeId with
    | none => rfl
    | some id =>
      simp only [Resumption.bind_ret, Prog.modifyInode_bind, Program.pure_run,
        Daemon.enter_inode_self, Daemon.enter_setInode]
      rfl

theorem getNewInode_path {daemon : Daemon} (h : daemon.Live) (key : UInt64)
    (set : NfsInode → NfsInode × ℤ) (trace : Trace) (ending : Ending Fault Daemon InodePtr) :
    ((getNewInode key set).run daemon).Path trace ending ↔
      (∃ rest, trace = ⟨.malloc .nfsInode, false⟩ :: rest ∧ rest = [] ∧
        ending = .done .null daemon) ∨
      (∃ rest, trace = ⟨.malloc .nfsInode, true⟩ :: rest ∧ rest = [] ∧
        ending = newInodeEnding daemon key set) := by
  rw [getNewInode, Program.bind_run, allocInode_run, Resumption.bind_ask, Resumption.path_ask]
  simp only [Bool.exists_bool, Resumption.bind_ret, Program.pure_run, Resumption.path_ret,
    fillNewInode_run h, Resumption.path_toResumption]

/-- The runs of code that starts by entering a new inode. -/
theorem getNewInode_bind_path {daemon : Daemon} (h : daemon.Live) (key : UInt64)
    (set : NfsInode → NfsInode × ℤ) {α : Type} (next : InodePtr → Prog α) (trace : Trace)
    (ending : Ending Fault Daemon α) :
    ((getNewInode key set >>= next).run daemon).Path trace ending ↔
      (∃ rest, trace = ⟨.malloc .nfsInode, false⟩ :: rest ∧
        ((next .null).run daemon).Path rest ending) ∨
      (∃ rest, trace = ⟨.malloc .nfsInode, true⟩ :: rest ∧
        ((newInodeEnding daemon key set).toResumption.bind fun ptr ↦ (next ptr).run).Path rest
          ending) := by
  rw [Program.bind_run, getNewInode, Program.bind_run, allocInode_run, Resumption.bind_ask,
    Resumption.bind_ask, Resumption.path_ask]
  simp only [Bool.exists_bool, Resumption.bind_ret, Program.pure_run, fillNewInode_run h]

/-- A hit leaves everything as it is; a miss allocates. -/
theorem hsfsIget5Locked_run {daemon : Daemon} (h : daemon.Live) (hashval : UInt64)
    (test : NfsInode → Bool) (set : NfsInode → NfsInode × ℤ) :
    (hsfsIget5Locked hashval test set).run daemon =
      match daemon.findFh hashval test with
      | some index => .ret (.obj index) daemon
      | none => (getNewInode hashval set).run daemon := by
  rw [hsfsIget5Locked, Program.bind_run_of_ret (fhIfind_run h hashval test)]
  cases daemon.findFh hashval test <;> rfl

/-! ## Attributes and release -/

/-- `hsfs_generic_fillattr` -/
def hsfsGenericFillattr (inode : NfsInode) : Stat where
  stIno := inode.realIno
  stMode := inode.iattr.mode
  stNlink := inode.iNlink.toUInt64
  stUid := inode.iattr.uid
  stGid := inode.iattr.gid
  stRdev := inode.iRdev
  stSize := inode.iattr.size
  stBlksize := 1 <<< inode.iBlkbits
  stBlocks := inode.iBlocks
  stAtim := inode.iattr.atime
  stMtim := inode.iattr.mtime
  stCtim := inode.iattr.ctime

/-- `generic_drop_inode` -/
def genericDropInode (index : ℕ) : Prog Unit := do
  let inode ← Prog.getInode index
  if inode.iNlink = 0 then return () else destroyInode index

/-- `hsfs_iput`.  Decrementing `INT_MIN` is undefined, and so is giving back an error pointer, which
the source follows like any other. -/
def hsfsIput (ptr : InodePtr) : Prog Unit :=
  match ptr with
  | .null => return ()
  | ptr => do
      let index ← Prog.deref ptr
      let inode ← Prog.getInode index
      if inode.iCount = intMin then
        Program.crash .undefined
      else
        Prog.modifyInode index fun inode ↦ { inode with iCount := inode.iCount - 1 }
        if inode.iCount - 1 = 0 then genericDropInode index else return ()

end NfsFuse
