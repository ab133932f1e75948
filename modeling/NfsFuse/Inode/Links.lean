import NfsFuse.Lib.Chain
import NfsFuse.Lib.Simulation
import NfsFuse.Inode.Cache

/-!
# The hash tables as linked lists

In `include/hsfs/list.h` and `include/hsfs/hashtable.h` a bucket is a pointer to a node, and the
nodes are fields of the inodes, linked by `next` and `pprev`.  Here are the functions of the inode
cache over that memory, with `hash_add` as the stores of `hlist_add_head` and the walks as loops
over `next`.

The model with a list for every bucket is an abstraction of it: from `hsfs_init_icache` on, whatever
the memory held before, the two admit the same sequences of calls with the same results.  In
particular the walks end, since a chain does not come back to a node.
-/

namespace NfsFuse

open Lib

/-- `GOLDEN_RATIO_PRIME_64` -/
def goldenRatioPrime64 : UInt64 := 0x9e37fffffffc0001

theorem shiftLeft_eq_mul (val : UInt64) {shift : ℕ} (hshift : shift < 64) :
    val <<< UInt64.ofNat shift = val * UInt64.ofNat (2 ^ shift) := by
  apply UInt64.toNat_inj.mp
  have hlow : (UInt64.ofNat shift).toNat = shift :=
    UInt64.toNat_ofNat_of_lt' (hshift.trans (by decide))
  have hpow : (UInt64.ofNat (2 ^ shift)).toNat = 2 ^ shift :=
    UInt64.toNat_ofNat_of_lt' (Nat.pow_lt_pow_right (by decide) hshift)
  rw [UInt64.toNat_shiftLeft, UInt64.toNat_mul, hlow, hpow, Nat.mod_eq_of_lt hshift,
    Nat.shiftLeft_eq]

/-- The shifts and additions of `hash_64` are the multiplication by the prime. -/
theorem hash_64_eq_mul (val bits : UInt64) :
    hash64 val bits = (val * goldenRatioPrime64) >>> (64 - bits) := by
  have h18 (n : UInt64) : n <<< 18 = n * 262144 := shiftLeft_eq_mul n (by decide)
  have h33 (n : UInt64) : n <<< 33 = n * 8589934592 := shiftLeft_eq_mul n (by decide)
  have h3 (n : UInt64) : n <<< 3 = n * 8 := shiftLeft_eq_mul n (by decide)
  have h4 (n : UInt64) : n <<< 4 = n * 16 := shiftLeft_eq_mul n (by decide)
  have h2 (n : UInt64) : n <<< 2 = n * 4 := shiftLeft_eq_mul n (by decide)
  simp only [hash64, h18, h33, h3, h4, h2, goldenRatioPrime64]
  -- the shifts are at 18, 51, 54, 57, 61 and 63
  congr 1
  grind

/-- Where a pointer to a node is stored. -/
inductive HlistSlot where
  | first (bucket : Fin 1024)
  | next (node : ℕ)
  deriving DecidableEq

/-- The heads of a table and the nodes that the inodes have for it; a node is named by its inode. -/
structure Hlists where
  first : Fin 1024 → Option ℕ
  next : ℕ → Option ℕ
  pprev : ℕ → Option HlistSlot

/-- An assignment to a pointer. -/
inductive HlistStore where
  | first (bucket : Fin 1024) (value : Option ℕ)
  | next (node : ℕ) (value : Option ℕ)
  | pprev (node : ℕ) (value : HlistSlot)

/-- Memory after an assignment. -/
def Hlists.store (lists : Hlists) : HlistStore → Hlists
  | .first bucket value => { lists with first := Function.update lists.first bucket value }
  | .next node value => { lists with next := Function.update lists.next node value }
  | .pprev node value => { lists with pprev := Function.update lists.pprev node (some value) }

/-- The assignments of `hlist_add_head`, once it has read the head. -/
def hlistAddHeadStores (node : ℕ) (bucket : Fin 1024) : Option ℕ → List HlistStore
  | none => [.next node none, .first bucket (some node), .pprev node (.first bucket)]
  | some first =>
    [.next node (some first), .pprev first (.next node), .first bucket (some node),
      .pprev node (.first bucket)]

/-- Memory after these assignments. -/
def Hlists.addHead (lists : Hlists) (node : ℕ) (bucket : Fin 1024) (head : Option ℕ) : Hlists :=
  (hlistAddHeadStores node bucket head).foldl Hlists.store lists

/-- `hlist_add_head` -/
def hlistAddHead (node : ℕ) (bucket : Fin 1024) (lists : Hlists) : Hlists :=
  lists.addHead node bucket (lists.first bucket)

/-- `__hash_init` for a table of 1024 buckets -/
def hashInit (lists : Hlists) : Hlists :=
  (List.finRange 1024).foldl (fun lists bucket ↦ lists.store (.first bucket none)) lists

namespace Hlists

theorem addHead_first (lists : Hlists) (node : ℕ) (bucket : Fin 1024) (head : Option ℕ) :
    (lists.addHead node bucket head).first = Function.update lists.first bucket (some node) := by
  cases head <;> rfl

theorem addHead_next (lists : Hlists) (node : ℕ) (bucket : Fin 1024) (head : Option ℕ) :
    (lists.addHead node bucket head).next = Function.update lists.next node head := by
  cases head <;> rfl

theorem addHead_pprev_self (lists : Hlists) (node : ℕ) (bucket : Fin 1024) (head : Option ℕ) :
    (lists.addHead node bucket head).pprev node = some (.first bucket) := by
  cases head <;> exact Function.update_self ..

theorem addHead_pprev_head (lists : Hlists) {node head : ℕ} (bucket : Fin 1024)
    (hne : head ≠ node) :
    (lists.addHead node bucket (some head)).pprev head = some (.next node) :=
  (Function.update_of_ne hne _ _).trans (Function.update_self ..)

theorem addHead_pprev_of_ne (lists : Hlists) {node other : ℕ} (bucket : Fin 1024)
    {head : Option ℕ} (hhead : head ≠ some other) (hne : other ≠ node) :
    (lists.addHead node bucket head).pprev other = lists.pprev other := by
  cases head with
  | none => exact Function.update_of_ne hne _ _
  | some first =>
    have hother : other ≠ first := fun h ↦ hhead (congrArg some h.symm)
    exact (Function.update_of_ne hne _ _).trans (Function.update_of_ne hother _ _)

end Hlists

theorem foldl_first_none (buckets : List (Fin 1024)) (lists : Hlists) (bucket : Fin 1024)
    (hmem : bucket ∈ buckets ∨ lists.first bucket = none) :
    (buckets.foldl (fun lists bucket ↦ lists.store (.first bucket none)) lists).first bucket =
      none := by
  induction buckets generalizing lists with
  | nil => exact hmem.resolve_left List.not_mem_nil
  | cons head rest ih =>
    apply ih
    by_cases hhead : bucket = head
    · exact .inr (hhead ▸ Function.update_self ..)
    · rcases hmem with hmem | hnone
      · exact .inl ((List.mem_cons.mp hmem).resolve_left hhead)
      · exact .inr ((Function.update_of_ne hhead _ _).trans hnone)

theorem hashInit_first (lists : Hlists) (bucket : Fin 1024) :
    (hashInit lists).first bucket = none := by
  unfold hashInit
  apply foldl_first_none
  exact .inl (List.mem_finRange bucket)

-- only its heads matter below, and unfolding it means unfolding 1024 assignments
attribute [local irreducible] hashInit

namespace Hlists

/-- The chains are those of the table, and the back pointer of a node is the slot that points to
it. -/
structure Represents (lists : Hlists) (table : InodeTable) : Prop where
  chain : ∀ bucket, ChainFrom lists.next (lists.first bucket) (table.chain bucket)
  pprev_first : ∀ bucket node, lists.first bucket = some node →
    lists.pprev node = some (.first bucket)
  pprev_next : ∀ bucket, ∀ member ∈ table.chain bucket, ∀ node, lists.next member = some node →
    lists.pprev node = some (.next member)

variable {lists : Hlists} {table : InodeTable} {node : ℕ}

theorem represents_empty (hfirst : ∀ bucket, lists.first bucket = none) :
    lists.Represents .empty where
  chain := hfirst
  pprev_first bucket _ hnode := absurd ((hfirst bucket).symm.trans hnode) nofun
  pprev_next _ _ hmem := absurd hmem List.not_mem_nil

/-- A node that is in no chain may be added to one. -/
theorem Represents.add (h : lists.Represents table) (hnew : ∀ bucket, node ∉ table.chain bucket)
    (bucket : Fin 1024) : (hlistAddHead node bucket lists).Represents (table.add bucket node) where
  chain other := by
    rw [hlistAddHead, addHead_first, addHead_next]
    have hold (other : Fin 1024) := (h.chain other).update (hnew other) (lists.first bucket)
    exact HashTable.chainFrom_add hold (Function.update_self ..) other
  pprev_first other target htarget := by
    rw [hlistAddHead, addHead_first] at htarget
    by_cases hother : other = bucket
    · subst hother
      rw [Function.update_self] at htarget
      obtain rfl := Option.some.inj htarget
      exact addHead_pprev_self ..
    · rw [Function.update_of_ne hother] at htarget
      have hpprev := h.pprev_first other target htarget
      rw [hlistAddHead, addHead_pprev_of_ne, hpprev]
      · intro hfirst
        have hslot := hpprev.symm.trans (h.pprev_first bucket target hfirst)
        exact hother (HlistSlot.first.inj (Option.some.inj hslot))
      · exact ne_of_mem_of_not_mem ((h.chain other).mem_of_start htarget) (hnew other)
  pprev_next other member hmem target htarget := by
    rw [hlistAddHead, addHead_next] at htarget
    by_cases hmember : member = node
    · subst hmember
      rw [Function.update_self] at htarget
      rw [hlistAddHead, htarget]
      exact addHead_pprev_head lists bucket
        (ne_of_mem_of_not_mem ((h.chain bucket).mem_of_start htarget) (hnew bucket))
    · rw [Function.update_of_ne hmember] at htarget
      have hold : member ∈ table.chain other := by
        rw [HashTable.chain_add] at hmem
        split_ifs at hmem
        · exact (List.mem_cons.mp hmem).resolve_left hmember
        · exact hmem
      have hpprev := h.pprev_next other member hold target htarget
      rw [hlistAddHead, addHead_pprev_of_ne, hpprev]
      · intro hfirst
        cases hpprev.symm.trans (h.pprev_first bucket target hfirst)
      · exact ne_of_mem_of_not_mem ((h.chain other).mem_of_next hold htarget) (hnew other)

end Hlists

/-- The two tables of the superblock. -/
inductive TableName where
  | id
  | fh
  deriving DecidableEq

/-- A table in the model with lists. -/
def Daemon.table (daemon : Daemon) : TableName → InodeTable
  | .id => daemon.sb.idTable
  | .fh => daemon.sb.fhTable

/-- The daemon with its tables in memory; the lists of `base` are not used. -/
structure LinkedDaemon where
  base : Daemon
  tables : TableName → Hlists

/-- Programs over the linked tables. -/
abbrev LinkedProg (α : Type) := Program EnvOp EnvAns Fault LinkedDaemon α

/-- Code that does not touch the tables. -/
def LinkedProg.onBase {α : Type} (program : Prog α) : LinkedProg α :=
  program.zoom LinkedDaemon.base fun linked base ↦ { linked with base := base }

/-- Assignments to a table. -/
def LinkedDaemon.setTable (linked : LinkedDaemon) (name : TableName) (lists : Hlists) :
    LinkedDaemon :=
  { linked with tables := Function.update linked.tables name lists }

namespace Linked

/-- `hsfs_init_icache` -/
def hsfsInitIcache (linked : LinkedDaemon) : LinkedDaemon :=
  { linked with tables := fun name ↦ hashInit (linked.tables name) }

/-- `hlist_for_each_entry` up to the first inode that passes the test. -/
def hlistForEachEntry (name : TableName) (test : NfsInode → Bool) :
    ℕ → Option ℕ → LinkedProg InodePtr
  | _, none => return .null
  | 0, some _ => Program.crash .outOfFuel
  | fuel + 1, some node => do
      let index ← LinkedProg.onBase (Prog.deref (.obj node))
      let inode ← LinkedProg.onBase (Prog.getInode index)
      if test inode then return .obj index
      else
        let linked ← Program.get
        hlistForEachEntry name test fuel ((linked.tables name).next index)

/-- `hash_for_each_possible`; a walk that meets more nodes than there are inodes does not end. -/
def hashForEachPossible (name : TableName) (key : UInt64) (test : NfsInode → Bool) :
    LinkedProg InodePtr := do
  let linked ← Program.get
  hlistForEachEntry name test linked.base.heap.length ((linked.tables name).first (hashMin key))

/-- `__id_ifind` -/
def idIfind (key : UInt64) : LinkedProg InodePtr :=
  hashForEachPossible .id key fun inode ↦ inode.ino == key

/-- `__fh_ifind` -/
def fhIfind (key : UInt64) (test : NfsInode → Bool) : LinkedProg InodePtr :=
  hashForEachPossible .fh key test

/-- The loop of `__inode_add_to_lists` that picks an inode number. -/
def pickId : ℕ → LinkedProg UInt64
  | 0 => Program.crash .outOfFuel
  | fuel + 1 => do
      Program.modify fun linked ↦
        { linked with base := linked.base.setCurrId (nextId linked.base.sb.currId) }
      let linked ← Program.get
      match ← idIfind linked.base.sb.currId with
      | .null => return linked.base.sb.currId
      | _ => pickId fuel

/-- `hash_add` -/
def hashAdd (name : TableName) (index : ℕ) (key : UInt64) : LinkedProg Unit :=
  Program.modify fun linked ↦
    linked.setTable name (hlistAddHead index (hashMin key) (linked.tables name))

/-- `__inode_add_to_lists` -/
def inodeAddToLists (key : UInt64) (index : ℕ) : LinkedProg Unit := do
  let id ← pickId (2 ^ 64)
  LinkedProg.onBase (Prog.modifyInode index fun inode ↦ { inode with ino := id })
  hashAdd .id index id
  hashAdd .fh index key

/-- The part of `get_new_inode` that follows the allocation. -/
def fillNewInode (key : UInt64) (set : NfsInode → NfsInode × ℤ) (index : ℕ) :
    LinkedProg InodePtr := do
  let inode ← LinkedProg.onBase (Prog.getInode index)
  LinkedProg.onBase (Prog.modifyInode index fun _ ↦ (set inode).1)
  if (set inode).2 ≠ 0 then
    LinkedProg.onBase (destroyInode index)
    return .null
  else
    inodeAddToLists key index
    LinkedProg.onBase (Prog.modifyInode index fun inode ↦ { inode with iState := iNew })
    return .obj index

/-- `get_new_inode` -/
def getNewInode (key : UInt64) (set : NfsInode → NfsInode × ℤ) : LinkedProg InodePtr := do
  match ← LinkedProg.onBase allocInode with
  | .obj index => fillNewInode key set index
  | ptr => return ptr

/-- `hsfs_iget5_locked` -/
def hsfsIget5Locked (hashval : UInt64) (test : NfsInode → Bool)
    (set : NfsInode → NfsInode × ℤ) : LinkedProg InodePtr := do
  match ← fhIfind hashval test with
  | .null => getNewInode hashval set
  | ptr => return ptr

end Linked

/-! ## Agreement with the lists -/

/-- The daemon without its tables. -/
def Daemon.untabled (daemon : Daemon) : Daemon := { daemon with sb := hsfsInitIcache daemon.sb }

/-- The memory stands for the lists of the daemon; of its inodes only those below a bound are in
them. -/
structure RepresentsUpTo (bound size : ℕ) (linked : LinkedDaemon) (daemon : Daemon) : Prop where
  base : linked.base = daemon.untabled
  tables : ∀ name, (linked.tables name).Represents (daemon.table name)
  lt : ∀ name bucket, ∀ index ∈ (daemon.table name).chain bucket, index < bound
  length : daemon.heap.length = size
  le : bound ≤ size

/-- The memory stands for the lists of the daemon. -/
def Represents (linked : LinkedDaemon) (daemon : Daemon) : Prop :=
  RepresentsUpTo daemon.heap.length daemon.heap.length linked daemon

section Agreement

variable {bound size : ℕ} {linked : LinkedDaemon} {daemon : Daemon}
  {related : LinkedDaemon → Daemon → Prop}

theorem RepresentsUpTo.represents (h : RepresentsUpTo bound size linked daemon) :
    Represents linked daemon where
  base := h.base
  tables := h.tables
  lt name bucket index hmem := by
    rw [h.length]
    exact (h.lt name bucket index hmem).trans_le h.le
  length := rfl
  le := le_rfl

/-- A chain has no more nodes than there are inodes. -/
theorem RepresentsUpTo.length_chain_le (h : RepresentsUpTo bound size linked daemon)
    (name : TableName)
    (bucket : Fin 1024) : ((daemon.table name).chain bucket).length ≤ daemon.heap.length := by
  have hsub : (daemon.table name).chain bucket ⊆ List.range daemon.heap.length := fun index hmem ↦
    List.mem_range.mpr (h.represents.lt name bucket index hmem)
  have hnodup := ((h.tables name).chain bucket).nodup
  calc ((daemon.table name).chain bucket).length
      ≤ (List.range daemon.heap.length).length := (List.subperm_of_subset hnodup hsub).length_le
    _ = daemon.heap.length := List.length_range

theorem onBase_bind {α β : Type} (first : Prog α) (next : α → Prog β) :
    LinkedProg.onBase (first >>= next) =
      LinkedProg.onBase first >>= fun value ↦ LinkedProg.onBase (next value) := by
  unfold LinkedProg.onBase
  apply Program.zoom_bind
  · intro linked base
    rfl
  · intro linked base base'
    rfl

@[simp]
theorem onBase_deref_bind {α : Type} (node : ℕ) (next : ℕ → LinkedProg α) (linked : LinkedDaemon) :
    (LinkedProg.onBase (Prog.deref (.obj node)) >>= next).run linked =
      if node ∈ linked.base.freed then .fault .undefined linked else (next node).run linked := by
  by_cases hfreed : node ∈ linked.base.freed <;>
    simp [LinkedProg.onBase, Program.zoom, Program.bind_run, Prog.deref, Resumption.zoom, hfreed]

@[simp]
theorem onBase_getInode_bind {α : Type} (index : ℕ) (next : NfsInode → LinkedProg α)
    (linked : LinkedDaemon) : (LinkedProg.onBase (Prog.getInode index) >>= next).run linked =
      (next (linked.base.inode index)).run linked := rfl

@[simp]
theorem onBase_modifyInode_bind {α : Type} (index : ℕ) (update : NfsInode → NfsInode)
    (next : Unit → LinkedProg α) (linked : LinkedDaemon) :
    (LinkedProg.onBase (Prog.modifyInode index update) >>= next).run linked =
      (next ()).run { linked with
        base := linked.base.setInode index (update (linked.base.inode index)) } := rfl

theorem deref_obj_bind {α : Type} (node : ℕ) (next : ℕ → Prog α) (daemon : Daemon) :
    (Prog.deref (.obj node) >>= next).run daemon =
      if node ∈ daemon.freed then .fault .undefined daemon else (next node).run daemon := by
  by_cases hfreed : node ∈ daemon.freed <;> simp [Program.bind_run, Prog.deref, hfreed]

theorem RepresentsUpTo.freed_eq (h : RepresentsUpTo bound size linked daemon) :
    linked.base.freed = daemon.freed := by
  rw [h.base]
  rfl

theorem RepresentsUpTo.heap_eq (h : RepresentsUpTo bound size linked daemon) :
    linked.base.heap = daemon.heap := by
  rw [h.base]
  rfl

theorem RepresentsUpTo.inode_eq (h : RepresentsUpTo bound size linked daemon) (index : ℕ) :
    linked.base.inode index = daemon.inode index := by
  rw [Daemon.inode, h.heap_eq, Daemon.inode]

/-- Changes outside the tables that keep the inodes in place. -/
theorem RepresentsUpTo.onBase (h : RepresentsUpTo bound size linked daemon)
    (update : Daemon → Daemon) (hbase : update daemon.untabled = (update daemon).untabled)
    (htable : ∀ name, (update daemon).table name = daemon.table name)
    (hlength : (update daemon).heap.length = daemon.heap.length) :
    RepresentsUpTo bound size { linked with base := update linked.base } (update daemon) where
  base := (congrArg update h.base).trans hbase
  tables name := htable name ▸ h.tables name
  lt name := htable name ▸ h.lt name
  length := hlength.trans h.length
  le := h.le

theorem RepresentsUpTo.setInode (h : RepresentsUpTo bound size linked daemon) (index : ℕ)
    (inode : NfsInode) : RepresentsUpTo bound size
      { linked with base := linked.base.setInode index inode } (daemon.setInode index inode) := by
  apply h.onBase (·.setInode index inode) rfl
  · intro name
    cases name <;> rfl
  · exact Daemon.setInode_length daemon index inode

theorem RepresentsUpTo.setCurrId (h : RepresentsUpTo bound size linked daemon) (id : UInt64) :
    RepresentsUpTo bound size { linked with base := linked.base.setCurrId id }
      (daemon.setCurrId id) := by
  apply h.onBase (·.setCurrId id) rfl
  · intro name
    cases name <;> rfl
  · rfl

/-- Two walks of a chain. -/
theorem agrees_hlistForEachEntry (h : RepresentsUpTo bound size linked daemon) (name : TableName)
    (test : NfsInode → Bool) {nodes : List ℕ} {fuel : ℕ} {start : Option ℕ}
    (hchain : ChainFrom (linked.tables name).next start nodes) (hfuel : nodes.length ≤ fuel) :
    Resumption.Agrees related (fun _ ↦ RepresentsUpTo bound size)
      ((Linked.hlistForEachEntry name test fuel start).run linked)
      ((walkChain test nodes).run daemon) := by
  induction nodes generalizing fuel start with
  | nil =>
    obtain rfl : start = none := hchain
    cases fuel <;> exact .ret h
  | cons node rest ih =>
    obtain ⟨rfl, hrest⟩ := hchain
    cases fuel with
    | zero => exact absurd hfuel (Nat.not_succ_le_zero _)
    | succ fuel =>
      rw [Linked.hlistForEachEntry, walkChain, onBase_deref_bind, deref_obj_bind, h.freed_eq]
      by_cases hfreed : node ∈ daemon.freed
      · rw [if_pos hfreed, if_pos hfreed]
        exact .fault
      · rw [if_neg hfreed, if_neg hfreed, onBase_getInode_bind, Prog.getInode_bind, h.inode_eq]
        by_cases htest : test (daemon.inode node) = true
        · rw [if_pos htest, if_pos htest]
          exact .ret h
        · rw [if_neg htest, if_neg htest]
          exact ih hrest (Nat.le_of_succ_le_succ hfuel)

theorem agrees_hashForEachPossible (h : RepresentsUpTo bound size linked daemon) (name : TableName)
    (key : UInt64) (test : NfsInode → Bool) :
    Resumption.Agrees related (fun _ ↦ RepresentsUpTo bound size)
      ((Linked.hashForEachPossible name key test).run linked)
      ((walkChain test ((daemon.table name).chain (hashMin key))).run daemon) := by
  apply agrees_hlistForEachEntry h name test ((h.tables name).chain (hashMin key))
  rw [h.heap_eq]
  exact h.length_chain_le name (hashMin key)

theorem agrees_idIfind (h : RepresentsUpTo bound size linked daemon) (key : UInt64) :
    Resumption.Agrees related (fun _ ↦ RepresentsUpTo bound size)
      ((Linked.idIfind key).run linked) ((idIfind key).run daemon) :=
  agrees_hashForEachPossible h .id key _

theorem agrees_fhIfind (h : RepresentsUpTo bound size linked daemon) (key : UInt64)
    (test : NfsInode → Bool) :
    Resumption.Agrees related (fun _ ↦ RepresentsUpTo bound size)
      ((Linked.fhIfind key test).run linked) ((fhIfind key test).run daemon) :=
  agrees_hashForEachPossible h .fh key test

theorem agrees_pickId (h : RepresentsUpTo bound size linked daemon) (fuel : ℕ) :
    Resumption.Agrees related (fun _ ↦ RepresentsUpTo bound size)
      ((Linked.pickId fuel).run linked) ((pickId fuel).run daemon) := by
  induction fuel generalizing linked daemon with
  | zero => exact .fault
  | succ fuel ih =>
    have hcurr : linked.base.sb.currId = daemon.sb.currId := by
      rw [h.base]
      rfl
    have hnext := h.setCurrId (nextId daemon.sb.currId)
    rw [Linked.pickId, pickId, Program.modify_bind, Program.modify_bind, Program.get_bind,
      Program.get_bind, hcurr]
    apply Resumption.Agrees.bind (agrees_idIfind hnext _)
    intro found current current' hcurrent
    cases found with
    | null => exact .ret hcurrent
    | _ => exact ih hcurrent

/-- Both tables after `hash_add` of an inode that is in neither. -/
theorem RepresentsUpTo.hashAdd (h : RepresentsUpTo bound size linked daemon) (hlt : bound < size)
    (ino key : UInt64) :
    RepresentsUpTo size size
      ((linked.setTable .id (hlistAddHead bound (hashMin ino) (linked.tables .id))).setTable .fh
        (hlistAddHead bound (hashMin key) (linked.tables .fh)))
      (daemon.hashAdd ino key bound) := by
  have hnew (name : TableName) (bucket : Fin 1024) : bound ∉ (daemon.table name).chain bucket :=
    fun hmem ↦ absurd (h.lt name bucket bound hmem) (lt_irrefl bound)
  have hmem (name : TableName) {bucket other : Fin 1024} {index : ℕ}
      (hindex : index ∈ ((daemon.table name).add bucket bound).chain other) : index < size := by
    rw [HashTable.chain_add] at hindex
    split_ifs at hindex
    · rcases List.mem_cons.mp hindex with rfl | hold
      · exact hlt
      · exact (h.lt name other index hold).trans hlt
    · exact (h.lt name other index hindex).trans hlt
  refine ⟨h.base, fun name ↦ ?_, fun name other index hindex ↦ ?_, h.length, le_rfl⟩
  · cases name with
    | id => exact (h.tables .id).add (hnew .id) (hashMin ino)
    | fh => exact (h.tables .fh).add (hnew .fh) (hashMin key)
  · cases name with
    | id => exact hmem .id hindex
    | fh => exact hmem .fh hindex

theorem agrees_inodeAddToLists (h : RepresentsUpTo bound size linked daemon) (hlt : bound < size)
    (key : UInt64) :
    Resumption.Agrees related (fun _ ↦ RepresentsUpTo size size)
      ((Linked.inodeAddToLists key bound).run linked) ((inodeAddToLists key bound).run daemon) := by
  apply Resumption.Agrees.bind (agrees_pickId h _)
  intro id current current' hcurrent
  have hnumbered := hcurrent.setInode bound { current'.inode bound with ino := id }
  rw [onBase_modifyInode_bind, Prog.modifyInode_bind, hcurrent.inode_eq]
  exact .ret (hnumbered.hashAdd hlt id key)

theorem RepresentsUpTo.free (h : RepresentsUpTo bound size linked daemon) (index : ℕ) :
    RepresentsUpTo bound size
      { linked with base := { linked.base with freed := index :: linked.base.freed } }
      { daemon with freed := index :: daemon.freed } := by
  apply h.onBase (fun daemon ↦ { daemon with freed := index :: daemon.freed }) rfl
  · intro name
    cases name <;> rfl
  · rfl

theorem agrees_destroyInode (h : RepresentsUpTo bound size linked daemon) (index : ℕ) :
    Resumption.Agrees related (fun _ ↦ RepresentsUpTo bound size)
      ((LinkedProg.onBase (destroyInode index)).run linked) ((destroyInode index).run daemon) := by
  rw [destroyInode, onBase_bind, onBase_deref_bind, deref_obj_bind, h.freed_eq]
  by_cases hfreed : index ∈ daemon.freed
  · rw [if_pos hfreed, if_pos hfreed]
    exact .fault
  · rw [if_neg hfreed, if_neg hfreed]
    exact .ret (h.free index)

/-- The new inode is the last one and is in no chain yet. -/
theorem agrees_fillNewInode (h : RepresentsUpTo bound size linked daemon) (hlt : bound < size)
    (key : UInt64) (set : NfsInode → NfsInode × ℤ) :
    Resumption.Agrees related (fun _ ↦ Represents)
      ((Linked.fillNewInode key set bound).run linked)
      ((fillNewInode key set bound).run daemon) := by
  rw [Linked.fillNewInode, fillNewInode, onBase_getInode_bind, Prog.getInode_bind, h.inode_eq,
    onBase_modifyInode_bind, Prog.modifyInode_bind]
  have hset := h.setInode bound (set (daemon.inode bound)).1
  by_cases hresult : (set (daemon.inode bound)).2 ≠ 0
  · rw [if_pos hresult, if_pos hresult]
    apply Resumption.Agrees.bind (agrees_destroyInode hset bound)
    intro _ current current' hcurrent
    exact .ret hcurrent.represents
  · rw [if_neg hresult, if_neg hresult]
    apply Resumption.Agrees.bind (agrees_inodeAddToLists hset hlt key)
    intro _ current current' hcurrent
    rw [onBase_modifyInode_bind, Prog.modifyInode_bind, hcurrent.inode_eq]
    exact .ret (hcurrent.setInode bound _).represents

/-- An inode that has just been allocated. -/
theorem Represents.push (h : Represents linked daemon) (inode : NfsInode) :
    RepresentsUpTo daemon.heap.length (daemon.heap.length + 1)
      { linked with base := linked.base.push inode } (daemon.push inode) where
  base := by
    rw [h.base]
    rfl
  tables name := by
    cases name with
    | id => exact h.tables .id
    | fh => exact h.tables .fh
  lt name := by
    cases name with
    | id => exact h.lt .id
    | fh => exact h.lt .fh
  length := by simp [Daemon.push]
  le := Nat.le_succ _

theorem agrees_getNewInode (h : Represents linked daemon) (key : UInt64)
    (set : NfsInode → NfsInode × ℤ) :
    Resumption.Agrees Represents (fun _ ↦ Represents)
      ((Linked.getNewInode key set).run linked) ((getNewInode key set).run daemon) := by
  refine .ask h fun answer current current' hcurrent ↦ ?_
  cases answer with
  | false => exact .ret hcurrent
  | true =>
    -- the fields that an inode is initialised with do not depend on the tables
    have hinit : inodeInitAlways current.base.sb .cleared =
        inodeInitAlways current'.sb .cleared := by
      rw [hcurrent.base]
      rfl
    change Resumption.Agrees Represents (fun _ ↦ Represents)
      ((Linked.fillNewInode key set current.base.heap.length).run { current with
        base := current.base.push (inodeInitAlways current.base.sb .cleared) })
      ((fillNewInode key set current'.heap.length).run
        (current'.push (inodeInitAlways current'.sb .cleared)))
    rw [hcurrent.heap_eq, hinit]
    exact agrees_fillNewInode (hcurrent.push _) (Nat.lt_succ_self _) key set

theorem agrees_hsfsIget5Locked (h : Represents linked daemon) (hashval : UInt64)
    (test : NfsInode → Bool) (set : NfsInode → NfsInode × ℤ) :
    Resumption.Agrees Represents (fun _ ↦ Represents)
      ((Linked.hsfsIget5Locked hashval test set).run linked)
      ((hsfsIget5Locked hashval test set).run daemon) := by
  apply Resumption.Agrees.bind (agrees_fhIfind h hashval test)
  intro found current current' hcurrent
  cases found with
  | null => exact agrees_getNewInode hcurrent.represents hashval set
  | obj index => exact .ret hcurrent.represents
  | err error => exact .ret hcurrent.represents

theorem agrees_hsfsIput (h : Represents linked daemon) (ptr : InodePtr) :
    Resumption.Agrees Represents (fun _ ↦ Represents)
      ((LinkedProg.onBase (hsfsIput ptr)).run linked) ((hsfsIput ptr).run daemon) := by
  cases ptr with
  | null => exact .ret h
  | err error => exact .fault
  | obj index =>
    simp only [hsfsIput]
    rw [onBase_bind, onBase_deref_bind, deref_obj_bind, h.freed_eq]
    by_cases hfreed : index ∈ daemon.freed
    · rw [if_pos hfreed, if_pos hfreed]
      exact .fault
    rw [if_neg hfreed, if_neg hfreed, onBase_bind, onBase_getInode_bind, Prog.getInode_bind,
      h.inode_eq]
    by_cases hmin : (daemon.inode index).iCount = intMin
    · rw [if_pos hmin]
      exact .fault
    rw [if_neg hmin, onBase_bind, onBase_modifyInode_bind, Prog.modifyInode_bind,
      h.inode_eq]
    have hcount := RepresentsUpTo.setInode h index
      { daemon.inode index with iCount := (daemon.inode index).iCount - 1 }
    by_cases hzero : (daemon.inode index).iCount - 1 = 0
    · rw [if_pos hzero, genericDropInode, onBase_bind, onBase_getInode_bind,
        Prog.getInode_bind, hcount.inode_eq]
      split_ifs
      · exact .ret hcount.represents
      · exact (agrees_destroyInode hcount index).mono fun _ _ _ hdestroyed ↦ hdestroyed.represents
    · rw [if_neg hzero]
      exact .ret hcount.represents

end Agreement

/-! ## Sequences of calls -/

/-- What the rest of the daemon does with the cache: the calls of its interface, and changes of the
fields of an inode. -/
inductive IcacheCall where
  | hsfsIlookup (ino : UInt64)
  | hsfsIget5Locked (hashval : UInt64) (test : NfsInode → Bool) (set : NfsInode → NfsInode × ℤ)
  | hsfsIput (ptr : InodePtr)
  | update (index : ℕ) (change : NfsInode → NfsInode)

/-- The calls over lists. -/
def IcacheCall.code : IcacheCall → Prog InodePtr
  | .hsfsIlookup ino => NfsFuse.hsfsIlookup ino
  | .hsfsIget5Locked hashval test set => NfsFuse.hsfsIget5Locked hashval test set
  | .hsfsIput ptr => do
      NfsFuse.hsfsIput ptr
      return .null
  | .update index change => do
      Prog.modifyInode index change
      return .null

/-- The calls over linked memory. -/
def IcacheCall.linkedCode : IcacheCall → LinkedProg InodePtr
  | .hsfsIlookup ino => Linked.idIfind ino
  | .hsfsIget5Locked hashval test set => Linked.hsfsIget5Locked hashval test set
  | .hsfsIput ptr => do
      LinkedProg.onBase (NfsFuse.hsfsIput ptr)
      return .null
  | .update index change => do
      LinkedProg.onBase (Prog.modifyInode index change)
      return .null

theorem agrees_icacheCall (call : IcacheCall) :
    Program.Agrees Represents call.linkedCode call.code := by
  intro linked daemon h
  cases call with
  | hsfsIlookup ino =>
    exact (agrees_idIfind h ino).mono fun _ _ _ hfound ↦ hfound.represents
  | hsfsIget5Locked hashval test set => exact agrees_hsfsIget5Locked h hashval test set
  | hsfsIput ptr =>
    apply Resumption.Agrees.bind (agrees_hsfsIput h ptr)
    intro _ current current' hcurrent
    exact .ret hcurrent
  | update index change =>
    rw [IcacheCall.linkedCode, IcacheCall.code, onBase_modifyInode_bind, Prog.modifyInode_bind,
      RepresentsUpTo.inode_eq h]
    exact .ret (RepresentsUpTo.setInode h index _).represents

/-- `hsfs_init_icache` empties the tables, whatever the memory held. -/
theorem represents_hsfsInitIcache (daemon : Daemon) (tables : TableName → Hlists) :
    Represents (Linked.hsfsInitIcache ⟨daemon.untabled, tables⟩) daemon.untabled where
  base := rfl
  tables name := by
    have hempty := Hlists.represents_empty (hashInit_first (tables name))
    cases name <;> exact hempty
  lt name bucket index hmem := by
    cases name <;> exact absurd hmem List.not_mem_nil
  length := rfl
  le := le_rfl

/-- From `hsfs_init_icache` on, the linked tables and the lists admit the same sequences of calls,
with the same allocations, the same results and the same undefined behaviour. -/
theorem linked_icache_refines (daemon : Daemon) (tables : TableName → Hlists)
    (records : List (CallRecord IcacheCall EnvAns Fault InodePtr)) :
    (∃ last, Run (CallStep IcacheCall.linkedCode)
      (some (Linked.hsfsInitIcache ⟨daemon.untabled, tables⟩)) records last) ↔
    ∃ last, Run (CallStep IcacheCall.code) (some daemon.untabled) records last := by
  have hinitial := represents_hsfsInitIcache daemon tables
  constructor
  · rintro ⟨last, hrun⟩
    obtain ⟨last', hrun', -⟩ := exists_run_of_agrees agrees_icacheCall hinitial hrun
    exact ⟨last', hrun'⟩
  · rintro ⟨last, hrun⟩
    obtain ⟨last', hrun', -⟩ :=
      exists_run_of_agrees (fun call ↦ (agrees_icacheCall call).symm) hinitial hrun
    exact ⟨last', hrun'⟩

end NfsFuse
