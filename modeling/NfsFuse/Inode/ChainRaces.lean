import NfsFuse.Inode.Links

/-!
# Threads in one hash table

`fuse_session_loop_mt` serves requests in several threads, and where the inode cache says `XXX LOCK`
it takes none.  Here is one table with every access to its pointers a step of its own, in some order
that all threads see: insertions as the read and the stores of `hlist_add_head`, lookups as the
reads of `hash_for_each_possible`.

A lookup needs no lock.  As long as insertions do not overlap each other, it finds what a walk of
its bucket in a single step would find, at some moment between its start and its end, because a node
is linked to the rest of the chain before it is published and its link does not change after that.
Insertions do need one: of two that overlap in a bucket, one can be lost.
-/

namespace NfsFuse

open Lib

/-- An insertion that has not read the head yet, or the stores it has still to do. -/
inductive Adder where
  | reading (node : ℕ) (bucket : Fin 1024)
  | storing (node : ℕ) (bucket : Fin 1024) (stores : List HlistStore)

/-- An insertion that is over. -/
def Adder.finished : Adder → Prop
  | .reading .. => False
  | .storing _ _ stores => stores = []

/-- The node that is inserted. -/
def Adder.node : Adder → ℕ
  | .reading node _ => node
  | .storing node _ _ => node

/-- A lookup that has not read the head yet, or the node it has got to. -/
inductive Walker where
  | starting (bucket : Fin 1024) (test : ℕ → Bool)
  | reached (test : ℕ → Bool) (position : Option ℕ)

/-- A lookup that is over, and what it returns. -/
def Walker.Returns (found : Option ℕ) : Walker → Prop
  | .starting .. => False
  | .reached test position => position = found ∧ ∀ node ∈ position, test node = true

/-- A table and the threads that use it. -/
structure TableConfig where
  lists : Hlists
  adders : List Adder
  walkers : List Walker

/-- The chain of a bucket at this moment. -/
def TableConfig.Chain (config : TableConfig) (bucket : Fin 1024) (nodes : List ℕ) : Prop :=
  ChainFrom config.lists.next (config.lists.first bucket) nodes

/-- What happens in a step. -/
inductive TableEvent where
  | startAdd (node : ℕ) (bucket : Fin 1024)
  | readHead (adder : ℕ)
  | store (adder : ℕ) (assignment : HlistStore)
  | startWalk (bucket : Fin 1024) (test : ℕ → Bool)
  | readFirst (walker : ℕ)
  | readNext (walker : ℕ)

/-- One access of one thread.  A node that is added is new: in no chain and not being added.  With
`serial`, an insertion starts only when the earlier ones are over. -/
inductive TableStep (serial : Prop) : TableConfig → TableEvent → TableConfig → Prop where
  | startAdd {config : TableConfig} {node : ℕ} {bucket : Fin 1024}
      (hserial : serial → ∀ adder ∈ config.adders, adder.finished)
      (hchains : ∀ other nodes, config.Chain other nodes → node ∉ nodes)
      (hadders : ∀ adder ∈ config.adders, adder.node ≠ node) :
      TableStep serial config (.startAdd node bucket)
        { config with adders := config.adders ++ [.reading node bucket] }
  | readHead {config : TableConfig} {index node : ℕ} {bucket : Fin 1024}
      (hadder : config.adders[index]? = some (.reading node bucket)) :
      TableStep serial config (.readHead index)
        { config with
          adders := config.adders.set index
            (.storing node bucket (hlistAddHeadStores node bucket (config.lists.first bucket))) }
  | store {config : TableConfig} {index node : ℕ} {bucket : Fin 1024} {assignment : HlistStore}
      {rest : List HlistStore}
      (hadder : config.adders[index]? = some (.storing node bucket (assignment :: rest))) :
      TableStep serial config (.store index assignment)
        { config with
          lists := config.lists.store assignment
          adders := config.adders.set index (.storing node bucket rest) }
  | startWalk {config : TableConfig} {bucket : Fin 1024} {test : ℕ → Bool} :
      TableStep serial config (.startWalk bucket test)
        { config with walkers := config.walkers ++ [.starting bucket test] }
  | readFirst {config : TableConfig} {index : ℕ} {bucket : Fin 1024} {test : ℕ → Bool}
      (hwalker : config.walkers[index]? = some (.starting bucket test)) :
      TableStep serial config (.readFirst index)
        { config with
          walkers := config.walkers.set index (.reached test (config.lists.first bucket)) }
  | readNext {config : TableConfig} {index node : ℕ} {test : ℕ → Bool}
      (hwalker : config.walkers[index]? = some (.reached test (some node)))
      (htest : test node = false) :
      TableStep serial config (.readNext index)
        { config with
          walkers := config.walkers.set index (.reached test (config.lists.next node)) }

/-! ## Insertions one after the other -/

/-- How far an insertion has got: nothing done, linked to the old head, or published. -/
inductive Adder.Stage (lists : Hlists) (table : InodeTable) : Adder → Prop where
  | reading {node : ℕ} {bucket : Fin 1024} (hnew : ∀ other, node ∉ table.chain other) :
      Stage lists table (.reading node bucket)
  | unlinked {node : ℕ} {bucket : Fin 1024} (hnew : ∀ other, node ∉ table.chain other) :
      Stage lists table
        (.storing node bucket (hlistAddHeadStores node bucket (lists.first bucket)))
  | linked {node first : ℕ} {bucket : Fin 1024} (hnew : ∀ other, node ∉ table.chain other)
      (hnext : lists.next node = lists.first bucket) :
      Stage lists table (.storing node bucket
        [.pprev first (.next node), .first bucket (some node), .pprev node (.first bucket)])
  | publishing {node : ℕ} {bucket : Fin 1024} (hnew : ∀ other, node ∉ table.chain other)
      (hnext : lists.next node = lists.first bucket) :
      Stage lists table
        (.storing node bucket [.first bucket (some node), .pprev node (.first bucket)])
  | published {node : ℕ} {bucket : Fin 1024} :
      Stage lists table (.storing node bucket [.pprev node (.first bucket)])
  | done {node : ℕ} {bucket : Fin 1024} : Stage lists table (.storing node bucket [])

/-- The memory of a configuration stands for a table, and at most one insertion is in progress. -/
structure TableConfig.Consistent (config : TableConfig) (table : InodeTable) : Prop where
  chain : ∀ bucket, config.Chain bucket (table.chain bucket)
  stage : ∀ adder ∈ config.adders, adder.Stage config.lists table
  single : ∀ (index index' : ℕ) (adder adder' : Adder), config.adders[index]? = some adder →
    config.adders[index']? = some adder' → ¬adder.finished → ¬adder'.finished → index = index'

/-- What later configurations keep of a table: chains grow at their heads, and the links of nodes
that are in them stay. -/
structure TableConfig.Grows (config : TableConfig) (table : InodeTable) (config' : TableConfig)
    (table' : InodeTable) : Prop where
  suffix : ∀ bucket, table.chain bucket <:+ table'.chain bucket
  next : ∀ bucket, ∀ node ∈ table.chain bucket, config'.lists.next node = config.lists.next node

section Serial

variable {config config' : TableConfig} {table table' : InodeTable} {index : ℕ} {adder : Adder}

theorem Adder.Stage.of_finished {lists : Hlists} (h : adder.finished) :
    adder.Stage lists table := by
  cases adder with
  | reading node bucket => exact h.elim
  | storing node bucket stores =>
    obtain rfl : stores = [] := h
    exact .done

/-- The one insertion in progress does a step. -/
theorem TableConfig.Consistent.advance (h : config.Consistent table)
    (hadder : config.adders[index]? = some adder) (hunfinished : ¬adder.finished)
    {lists' : Hlists} {adder' : Adder}
    (hchain : ∀ bucket, ChainFrom lists'.next (lists'.first bucket) (table'.chain bucket))
    (hstage : adder'.Stage lists' table') :
    TableConfig.Consistent ⟨lists', config.adders.set index adder', config.walkers⟩ table' := by
  -- every other insertion is over
  have hothers (other : ℕ) (adder₁ : Adder) (hne : index ≠ other)
      (hother : (config.adders.set index adder')[other]? = some adder₁) : adder₁.finished := by
    rw [List.getElem?_set_ne hne] at hother
    by_contra hunfinished₁
    exact hne (h.single index other adder adder₁ hadder hother hunfinished hunfinished₁)
  refine ⟨hchain, fun adder₁ hmem ↦ ?_, fun first second adder₁ adder₂ hfirst hsecond h₁ h₂ ↦ ?_⟩
  · obtain ⟨other, hother⟩ := List.mem_iff_getElem?.mp hmem
    by_cases hne : index = other
    · subst hne
      rw [List.getElem?_set_self', hadder] at hother
      obtain rfl : adder' = adder₁ := Option.some.inj hother
      exact hstage
    · exact .of_finished (hothers other adder₁ hne hother)
  · by_cases hfirst' : index = first
    · by_cases hsecond' : index = second
      · exact hfirst'.symm.trans hsecond'
      · exact absurd (hothers second adder₂ hsecond' hsecond) h₂
    · exact absurd (hothers first adder₁ hfirst' hfirst) h₁

theorem TableConfig.Grows.refl_of_next (hnext : ∀ bucket, ∀ node ∈ table.chain bucket,
    config'.lists.next node = config.lists.next node) : config.Grows table config' table :=
  ⟨fun _ ↦ List.suffix_rfl, hnext⟩

/-- A store of the insertion in progress. -/
theorem TableConfig.Consistent.store (h : config.Consistent table) {node : ℕ} {bucket : Fin 1024}
    {assignment : HlistStore} {rest : List HlistStore}
    (hadder : config.adders[index]? = some (.storing node bucket (assignment :: rest))) :
    ∃ table', TableConfig.Consistent ⟨config.lists.store assignment,
        config.adders.set index (.storing node bucket rest), config.walkers⟩ table' ∧
      config.Grows table ⟨config.lists.store assignment,
        config.adders.set index (.storing node bucket rest), config.walkers⟩ table' := by
  have hunfinished : ¬(Adder.storing node bucket (assignment :: rest)).finished :=
    List.cons_ne_nil _ _
  have hstage := h.stage _ (List.mem_of_getElem? hadder)
  generalize hpending : Adder.storing node bucket (assignment :: rest) = pending at hstage
  cases hstage with
  | reading hnew => cases hpending
  | unlinked hnew =>
    -- the node is linked to the head, which no other insertion changes
    injection hpending with hnode hbucket hstores
    subst hnode hbucket
    have hchain (value : Option ℕ) (other : Fin 1024) :
        ChainFrom (Function.update config.lists.next node value) (config.lists.first other)
          (table.chain other) := (h.chain other).update (hnew other) value
    have hnext (value : Option ℕ) (other : Fin 1024) (member : ℕ)
        (hmem : member ∈ table.chain other) :
        Function.update config.lists.next node value member = config.lists.next member :=
      Function.update_of_ne (ne_of_mem_of_not_mem hmem (hnew other)) _ _
    cases hfirst : config.lists.first bucket with
    | none =>
      rw [hfirst] at hstores
      cases hstores
      have hlinked : Function.update config.lists.next node none node =
          config.lists.first bucket := by rw [Function.update_self, hfirst]
      exact ⟨table, h.advance hadder hunfinished (hchain none) (.publishing hnew hlinked),
        .refl_of_next (hnext none)⟩
    | some first =>
      rw [hfirst] at hstores
      cases hstores
      have hlinked : Function.update config.lists.next node (some first) node =
          config.lists.first bucket := by rw [Function.update_self, hfirst]
      exact ⟨table, h.advance hadder hunfinished (hchain (some first)) (.linked hnew hlinked),
        .refl_of_next (hnext (some first))⟩
  | linked hnew hnext =>
    cases hpending
    exact ⟨table, h.advance hadder hunfinished h.chain (.publishing hnew hnext),
      .refl_of_next fun _ _ _ ↦ rfl⟩
  | publishing hnew hnext =>
    cases hpending
    have hchain := HashTable.chainFrom_add h.chain hnext
    refine ⟨table.add bucket node, h.advance hadder hunfinished hchain .published, fun other ↦ ?_,
      fun _ _ _ ↦ rfl⟩
    rw [HashTable.chain_add]
    split_ifs
    · exact List.suffix_cons node _
    · exact List.suffix_rfl
  | published =>
    cases hpending
    exact ⟨table, h.advance hadder hunfinished h.chain .done, .refl_of_next fun _ _ _ ↦ rfl⟩
  | done => cases hpending

/-- A step keeps the memory consistent when insertions do not overlap. -/
theorem TableConfig.Consistent.step {event : TableEvent} (h : config.Consistent table)
    (hstep : TableStep True config event config') :
    ∃ table', config'.Consistent table' ∧ config.Grows table config' table' := by
  cases hstep with
  | @startAdd node bucket hserial hchains hadders =>
    refine ⟨table, ⟨h.chain, fun adder hmem ↦ ?_, ?_⟩, .refl_of_next fun _ _ _ ↦ rfl⟩
    · rcases List.mem_append.mp hmem with hold | hnew
      · exact h.stage adder hold
      · obtain rfl := List.mem_singleton.mp hnew
        exact .reading fun other ↦ hchains other _ (h.chain other)
    · -- only the new one is not over
      have hlast (other : ℕ) (adder : Adder)
          (hother : (config.adders ++ [Adder.reading node bucket])[other]? = some adder)
          (hunfinished : ¬adder.finished) : other = config.adders.length := by
        rcases lt_trichotomy other config.adders.length with hlt | heq | hgt
        · rw [List.getElem?_append_left hlt] at hother
          exact absurd (hserial trivial adder (List.mem_of_getElem? hother)) hunfinished
        · exact heq
        · have hlength : (config.adders ++ [Adder.reading node bucket]).length ≤ other := by
            rw [List.length_append, List.length_singleton]
            exact hgt
          rw [List.getElem?_eq_none hlength] at hother
          cases hother
      intro first second adder₁ adder₂ hfirst hsecond h₁ h₂
      exact (hlast first adder₁ hfirst h₁).trans (hlast second adder₂ hsecond h₂).symm
  | readHead hadder =>
    cases h.stage _ (List.mem_of_getElem? hadder) with
    | reading hnew =>
      exact ⟨table, h.advance hadder id h.chain (.unlinked hnew), .refl_of_next fun _ _ _ ↦ rfl⟩
  | store hadder => exact h.store hadder
  | startWalk =>
    exact ⟨table, ⟨h.chain, h.stage, h.single⟩, .refl_of_next fun _ _ _ ↦ rfl⟩
  | readFirst hwalker =>
    exact ⟨table, ⟨h.chain, h.stage, h.single⟩, .refl_of_next fun _ _ _ ↦ rfl⟩
  | readNext hwalker htest =>
    exact ⟨table, ⟨h.chain, h.stage, h.single⟩, .refl_of_next fun _ _ _ ↦ rfl⟩

end Serial

/-- A lookup in progress has still to visit a part of its chain that decides the result. -/
structure Walker.OnChain (config : TableConfig) (table : InodeTable) (bucket : Fin 1024)
    (test : ℕ → Bool) (nodes : List ℕ) (position : Option ℕ) (rest : List ℕ) : Prop where
  chain : ChainFrom config.lists.next position rest
  suffix : rest <:+ table.chain bucket
  find : nodes.find? test = rest.find? test

section Walks

variable {config config' initial : TableConfig} {table table' : InodeTable} {index : ℕ}
  {bucket : Fin 1024} {test : ℕ → Bool} {nodes rest : List ℕ} {position : Option ℕ}

/-- What the other threads do does not lead a lookup off its chain. -/
theorem Walker.OnChain.grows (h : Walker.OnChain config table bucket test nodes position rest)
    (hgrows : config.Grows table config' table') :
    Walker.OnChain config' table' bucket test nodes position rest where
  chain := h.chain.congr fun node hmem ↦ hgrows.next bucket node (h.suffix.subset hmem)
  suffix := h.suffix.trans (hgrows.suffix bucket)
  find := h.find

/-- The lookup goes on to the next node. -/
theorem Walker.OnChain.readNext {node : ℕ}
    (h : Walker.OnChain config table bucket test nodes (some node) rest)
    (htest : test node = false) : ∃ rest',
      Walker.OnChain config table bucket test nodes (config.lists.next node) rest' := by
  cases rest with
  | nil => exact absurd h.chain (Option.some_ne_none node)
  | cons first rest =>
    obtain rfl : node = first := Option.some.inj h.chain.1
    refine ⟨rest, h.chain.2, (List.suffix_cons node rest).trans h.suffix, ?_⟩
    rw [h.find, List.find?_cons, htest]

/-- A lookup that is over has found what it would have found in its chain. -/
theorem Walker.OnChain.returns {found : Option ℕ}
    (h : Walker.OnChain config table bucket test nodes position rest)
    (hreturns : (Walker.reached test position).Returns found) : nodes.find? test = found := by
  obtain ⟨rfl, htest⟩ := hreturns
  rw [h.find]
  cases rest with
  | nil => exact (h.chain : position = none).symm
  | cons first rest =>
    rw [h.chain.1, List.find?_cons, htest first h.chain.1]

/-- The chain as it was when the lookup read the head, at a moment of the run. -/
def Sighted (initial : TableConfig) (bucket : Fin 1024) (labels : List TableEvent)
    (config : TableConfig) (nodes : List ℕ) : Prop :=
  ∃ before after middle, labels = before ++ after ∧ Run (TableStep True) initial before middle ∧
    Run (TableStep True) middle after config ∧ middle.Chain bucket nodes

theorem Sighted.snoc {labels : List TableEvent} {event : TableEvent}
    (h : Sighted initial bucket labels config nodes)
    (hstep : TableStep True config event config') :
    Sighted initial bucket (labels ++ [event]) config' nodes := by
  obtain ⟨before, after, middle, rfl, hbefore, hafter, hchain⟩ := h
  exact ⟨before, after ++ [event], middle, List.append_assoc .., hbefore, hafter.snoc hstep, hchain⟩

/-- A lookup has not begun to read, or it is on a chain that its bucket has had. -/
def Progress (initial : TableConfig) (index : ℕ) (bucket : Fin 1024) (test : ℕ → Bool)
    (labels : List TableEvent) (config : TableConfig) (table : InodeTable) : Prop :=
  config.walkers[index]? = some (.starting bucket test) ∨
    ∃ nodes position rest, config.walkers[index]? = some (.reached test position) ∧
      Sighted initial bucket labels config nodes ∧
      Walker.OnChain config table bucket test nodes position rest

/-- Steps that leave the lookup where it is. -/
theorem Progress.of_walker_eq {labels : List TableEvent} {event : TableEvent}
    (h : Progress initial index bucket test labels config table)
    (hstep : TableStep True config event config') (hgrows : config.Grows table config' table')
    (hwalker : ∀ walker, config.walkers[index]? = some walker →
      config'.walkers[index]? = some walker) :
    Progress initial index bucket test (labels ++ [event]) config' table' := by
  rcases h with hstarting | ⟨nodes, position, rest, hreached, hsighted, hchain⟩
  · exact .inl (hwalker _ hstarting)
  · exact .inr ⟨nodes, position, rest, hwalker _ hreached, hsighted.snoc hstep,
      hchain.grows hgrows⟩

/-- Every step keeps what is known about a lookup. -/
theorem Progress.step {labels : List TableEvent} {event : TableEvent}
    (h : Progress initial index bucket test labels config table)
    (hrun : Run (TableStep True) initial labels config) (hconsistent : config.Consistent table)
    (hstep : TableStep True config event config') (hgrows : config.Grows table config' table') :
    Progress initial index bucket test (labels ++ [event]) config' table' := by
  have hall := hstep
  cases hstep with
  | startAdd | readHead | store => exact h.of_walker_eq hall hgrows fun _ ↦ id
  | startWalk =>
    apply h.of_walker_eq hall hgrows
    intro walker hwalker
    obtain ⟨hlt, -⟩ := List.getElem?_eq_some_iff.mp hwalker
    rwa [List.getElem?_append_left hlt]
  | @readFirst other bucket' test' hwalker =>
    by_cases hother : other = index
    · subst hother
      rcases h with hstarting | ⟨nodes, position, rest, hreached, -⟩
      · -- this is the moment whose chain the lookup follows
        cases hwalker.symm.trans hstarting
        have hset : (config.walkers.set other
            (.reached test (config.lists.first bucket)))[other]? =
              some (.reached test (config.lists.first bucket)) := by
          rw [List.getElem?_set_self', hwalker]
          rfl
        have hsighted : Sighted initial bucket labels config (table.chain bucket) :=
          ⟨labels, [], config, (List.append_nil _).symm, hrun, .nil, hconsistent.chain bucket⟩
        have hchain : Walker.OnChain config table bucket test (table.chain bucket)
            (config.lists.first bucket) (table.chain bucket) :=
          ⟨hconsistent.chain bucket, List.suffix_rfl, rfl⟩
        exact .inr ⟨_, _, _, hset, hsighted.snoc hall, hchain.grows hgrows⟩
      · cases hwalker.symm.trans hreached
    · apply h.of_walker_eq hall hgrows
      intro walker hold
      rwa [List.getElem?_set_ne hother]
  | @readNext other node test' hwalker htest =>
    by_cases hother : other = index
    · subst hother
      rcases h with hstarting | ⟨nodes, position, rest, hreached, hsighted, hchain⟩
      · cases hwalker.symm.trans hstarting
      · cases hwalker.symm.trans hreached
        obtain ⟨rest', hchain'⟩ := hchain.readNext htest
        have hset : (config.walkers.set other (.reached test (config.lists.next node)))[other]? =
            some (.reached test (config.lists.next node)) := by
          rw [List.getElem?_set_self', hwalker]
          rfl
        exact .inr ⟨nodes, _, rest', hset, hsighted.snoc hall, hchain'.grows hgrows⟩
    · apply h.of_walker_eq hall hgrows
      intro walker hold
      rwa [List.getElem?_set_ne hother]

/-- A lookup that runs while other threads insert, one at a time, finds what a walk in one step
would find at some moment between its start and its end. -/
theorem concurrent_lookup_atomic {labels : List TableEvent} {last : TableConfig}
    {walker : Walker} {found : Option ℕ} (hconsistent : initial.Consistent table)
    (hstart : initial.walkers[index]? = some (.starting bucket test))
    (hrun : Run (TableStep True) initial labels last)
    (hlast : last.walkers[index]? = some walker) (hreturns : walker.Returns found) :
    ∃ before after middle nodes, labels = before ++ after ∧
      Run (TableStep True) initial before middle ∧ Run (TableStep True) middle after last ∧
      middle.Chain bucket nodes ∧ nodes.find? test = found := by
  have hprogress : ∃ table', last.Consistent table' ∧
      Progress initial index bucket test labels last table' := by
    clear hlast
    induction hrun with
    | nil => exact ⟨table, hconsistent, .inl hstart⟩
    | snoc hrun hstep ih =>
      obtain ⟨table₁, hconsistent₁, hprogress₁⟩ := ih
      obtain ⟨table₂, hconsistent₂, hgrows⟩ := hconsistent₁.step hstep
      exact ⟨table₂, hconsistent₂, hprogress₁.step hrun hconsistent₁ hstep hgrows⟩
  obtain ⟨table', -, hstarting | ⟨nodes, position, rest, hreached, hsighted, hchain⟩⟩ := hprogress
  · cases hlast.symm.trans hstarting
    exact hreturns.elim
  · cases hlast.symm.trans hreached
    obtain ⟨before, after, middle, hlabels, hbefore, hafter, hnodes⟩ := hsighted
    exact ⟨before, after, middle, nodes, hlabels, hbefore, hafter, hnodes,
      hchain.returns hreturns⟩

end Walks

/-- A table without nodes. -/
def emptyHlists : Hlists := ⟨fun _ ↦ none, fun _ ↦ none, fun _ ↦ none⟩

theorem represents_emptyHlists : emptyHlists.Represents .empty :=
  Hlists.represents_empty fun _ ↦ rfl

/-- A lookup that starts in an empty table and finds a node that is published while it runs. -/
theorem concurrent_lookup_atomic_published : ∃ labels last,
    Run (TableStep True) ⟨emptyHlists, [], [.starting 0 fun _ ↦ true]⟩ labels last ∧
    last.walkers[0]? = some (.reached (fun _ ↦ true) (some 5)) ∧
    ∃ before after middle nodes, labels = before ++ after ∧
      Run (TableStep True) ⟨emptyHlists, [], [.starting 0 fun _ ↦ true]⟩ before middle ∧
      Run (TableStep True) middle after last ∧ middle.Chain 0 nodes ∧
      nodes.find? (fun _ ↦ true) = some 5 := by
  let initial : TableConfig := ⟨emptyHlists, [], [.starting 0 fun _ ↦ true]⟩
  have hconsistent : initial.Consistent .empty :=
    ⟨fun _ ↦ rfl, List.forall_mem_nil _, fun _ _ _ _ h ↦ absurd h nofun⟩
  have hnew (other : Fin 1024) (nodes : List ℕ) (hchain : initial.Chain other nodes) :
      5 ∉ nodes := by
    rw [hchain.unique (hconsistent.chain other)]
    exact List.not_mem_nil
  let linked := emptyHlists.store (.next 5 none)
  let published := linked.store (.first 0 (some 5))
  have hstart : TableStep True initial (.startAdd 5 0)
      ⟨emptyHlists, [.reading 5 0], initial.walkers⟩ :=
    .startAdd (fun _ ↦ List.forall_mem_nil _) hnew (List.forall_mem_nil _)
  have hhead : TableStep True ⟨emptyHlists, [.reading 5 0], initial.walkers⟩ (.readHead 0)
      ⟨emptyHlists, [.storing 5 0 [.next 5 none, .first 0 (some 5), .pprev 5 (.first 0)]],
        initial.walkers⟩ := .readHead rfl
  have hlink : TableStep True
      ⟨emptyHlists, [.storing 5 0 [.next 5 none, .first 0 (some 5), .pprev 5 (.first 0)]],
        initial.walkers⟩ (.store 0 (.next 5 none))
      ⟨linked, [.storing 5 0 [.first 0 (some 5), .pprev 5 (.first 0)]], initial.walkers⟩ :=
    .store rfl
  have hpublish : TableStep True
      ⟨linked, [.storing 5 0 [.first 0 (some 5), .pprev 5 (.first 0)]], initial.walkers⟩
      (.store 0 (.first 0 (some 5)))
      ⟨published, [.storing 5 0 [.pprev 5 (.first 0)]], initial.walkers⟩ := .store rfl
  have hfirst : TableStep True
      ⟨published, [.storing 5 0 [.pprev 5 (.first 0)]], initial.walkers⟩ (.readFirst 0)
      ⟨published, [.storing 5 0 [.pprev 5 (.first 0)]],
        [.reached (fun _ ↦ true) (published.first 0)]⟩ := .readFirst rfl
  have hrun := ((((Run.nil.snoc hstart).snoc hhead).snoc hlink).snoc hpublish).snoc hfirst
  have hwalker : initial.walkers[0]? = some (.starting 0 fun _ ↦ true) := rfl
  have hlast : [Walker.reached (fun _ ↦ true) (published.first 0)][0]? =
      some (.reached (fun _ ↦ true) (some 5)) := rfl
  have hreturns : (Walker.reached (fun _ ↦ true) (some 5)).Returns (some 5) :=
    ⟨rfl, fun _ _ ↦ rfl⟩
  exact ⟨_, _, hrun, hlast, concurrent_lookup_atomic hconsistent hwalker hrun hlast hreturns⟩

/-! ## Insertions that overlap -/

/-- The stores of an insertion, with no other thread in between. -/
theorem exists_run_stores {serial : Prop} {initial : TableConfig} {labels : List TableEvent}
    {lists : Hlists} {adders : List Adder} {walkers : List Walker} {index node : ℕ}
    {bucket : Fin 1024} {stores : List HlistStore}
    (hrun : Run (TableStep serial) initial labels ⟨lists, adders, walkers⟩)
    (hadder : adders[index]? = some (.storing node bucket stores)) :
    ∃ labels', Run (TableStep serial) initial labels'
      ⟨stores.foldl Hlists.store lists, adders.set index (.storing node bucket []), walkers⟩ := by
  induction stores generalizing labels lists adders with
  | nil =>
    have hsame : adders.set index (.storing node bucket []) = adders := by
      obtain ⟨hlt, heq⟩ := List.getElem?_eq_some_iff.mp hadder
      rw [← heq, List.set_getElem_self]
    rw [hsame]
    exact ⟨labels, hrun⟩
  | cons assignment rest ih =>
    have hset : (adders.set index (.storing node bucket rest))[index]? =
        some (.storing node bucket rest) := by
      rw [List.getElem?_set_self', hadder]
      rfl
    obtain ⟨labels', hrun'⟩ := ih (hrun.snoc (.store hadder)) hset
    rw [List.set_set] at hrun'
    exact ⟨labels', hrun'⟩

/-- Two insertions into a bucket have read the same head. -/
theorem exists_run_both_read {lists : Hlists} {table : InodeTable} (bucket : Fin 1024)
    {node other : ℕ} (h : lists.Represents table) (hnode : ∀ bucket, node ∉ table.chain bucket)
    (hother : ∀ bucket, other ∉ table.chain bucket) (hne : node ≠ other) :
    ∃ labels, Run (TableStep False) ⟨lists, [], []⟩ labels
      ⟨lists, [.storing node bucket (hlistAddHeadStores node bucket (lists.first bucket)),
        .storing other bucket (hlistAddHeadStores other bucket (lists.first bucket))], []⟩ := by
  have hfresh {new : ℕ} (hnew : ∀ bucket, new ∉ table.chain bucket) (adders : List Adder)
      (bucket' : Fin 1024) (nodes : List ℕ)
      (hchain : TableConfig.Chain ⟨lists, adders, []⟩ bucket' nodes) : new ∉ nodes := by
    rw [hchain.unique (h.chain bucket')]
    exact hnew bucket'
  have hfirst : TableStep False ⟨lists, [], []⟩ (.startAdd node bucket)
      ⟨lists, [.reading node bucket], []⟩ :=
    .startAdd False.elim (hfresh hnode []) (List.forall_mem_nil _)
  have hsecond : TableStep False ⟨lists, [.reading node bucket], []⟩ (.startAdd other bucket)
      ⟨lists, [.reading node bucket, .reading other bucket], []⟩ :=
    .startAdd False.elim (hfresh hother _) (List.forall_mem_singleton.mpr hne)
  have hreadFirst : TableStep False ⟨lists, [.reading node bucket, .reading other bucket], []⟩
      (.readHead 0) ⟨lists, [.storing node bucket
        (hlistAddHeadStores node bucket (lists.first bucket)), .reading other bucket], []⟩ :=
    .readHead rfl
  have hreadSecond : TableStep False ⟨lists, [.storing node bucket
        (hlistAddHeadStores node bucket (lists.first bucket)), .reading other bucket], []⟩
      (.readHead 1)
      ⟨lists, [.storing node bucket (hlistAddHeadStores node bucket (lists.first bucket)),
        .storing other bucket (hlistAddHeadStores other bucket (lists.first bucket))], []⟩ :=
    .readHead rfl
  exact ⟨_, ((Run.nil.snoc hfirst).snoc hsecond).snoc hreadFirst |>.snoc hreadSecond⟩

/-- The chains after both have stored: the second one has put its node before the old head. -/
theorem chain_addHead_addHead {lists : Hlists} {table : InodeTable} {node other : ℕ}
    (h : lists.Represents table) (hnode : ∀ bucket, node ∉ table.chain bucket)
    (hother : ∀ bucket, other ∉ table.chain bucket) (bucket bucket' : Fin 1024) :
    ChainFrom ((lists.addHead node bucket (lists.first bucket)).addHead other bucket
        (lists.first bucket)).next
      (((lists.addHead node bucket (lists.first bucket)).addHead other bucket
        (lists.first bucket)).first bucket') ((table.add bucket other).chain bucket') := by
  have hold (bucket' : Fin 1024) := ((h.chain bucket').update (hnode bucket')
    (lists.first bucket)).update (hother bucket') (lists.first bucket)
  rw [Hlists.addHead_first, Hlists.addHead_next, Hlists.addHead_first, Hlists.addHead_next,
    Function.update_idem]
  exact HashTable.chainFrom_add hold (Function.update_self ..) bucket'

/-- Of two insertions into a bucket that both read the head before either has stored anything, the
one that stores first is lost: its node is in no chain, although its back pointer says that it is at
the head of the bucket. -/
theorem overlapping_insertion_lost {lists : Hlists} {table : InodeTable} (bucket : Fin 1024)
    {node other : ℕ} (h : lists.Represents table) (hnode : ∀ bucket, node ∉ table.chain bucket)
    (hother : ∀ bucket, other ∉ table.chain bucket) (hne : node ≠ other) :
    ∃ labels last, Run (TableStep False) ⟨lists, [], []⟩ labels last ∧
      (∀ adder ∈ last.adders, adder.finished) ∧
      (∀ bucket', last.Chain bucket' ((table.add bucket other).chain bucket')) ∧
      (∀ bucket' nodes, last.Chain bucket' nodes → node ∉ nodes) ∧
      last.lists.pprev node = some (.first bucket) := by
  obtain ⟨_, hread⟩ := exists_run_both_read bucket h hnode hother hne
  -- one insertion does all of its stores, then the other one
  have hpending : [Adder.storing node bucket (hlistAddHeadStores node bucket (lists.first bucket)),
      .storing other bucket (hlistAddHeadStores other bucket (lists.first bucket))][0]? =
        some (.storing node bucket (hlistAddHeadStores node bucket (lists.first bucket))) := rfl
  obtain ⟨_, hfirst⟩ := exists_run_stores hread hpending
  have hpending' : [Adder.storing node bucket [],
      .storing other bucket (hlistAddHeadStores other bucket (lists.first bucket))][1]? =
        some (.storing other bucket (hlistAddHeadStores other bucket (lists.first bucket))) := rfl
  obtain ⟨labels, hsecond⟩ := exists_run_stores hfirst hpending'
  have hchain := chain_addHead_addHead h hnode hother bucket
  refine ⟨labels, _, hsecond, ?_, hchain, fun bucket' nodes hnodes ↦ ?_, ?_⟩
  · intro adder hmem
    rcases List.mem_pair.mp hmem with rfl | rfl <;> rfl
  · rw [hnodes.unique (hchain bucket'), HashTable.chain_add]
    split_ifs
    · exact List.not_mem_cons_of_ne_of_not_mem hne (hnode bucket')
    · exact hnode bucket'
  · have hhead : lists.first bucket ≠ some node := fun hhead ↦
      hnode bucket ((h.chain bucket).mem_of_start hhead)
    exact (Hlists.addHead_pprev_of_ne _ bucket hhead hne).trans
      (Hlists.addHead_pprev_self lists node bucket (lists.first bucket))

/-- Two insertions into an empty bucket. -/
theorem overlapping_insertion_lost_empty : ∃ labels last,
    Run (TableStep False) ⟨emptyHlists, [], []⟩ labels last ∧
    (∀ adder ∈ last.adders, adder.finished) ∧
    (∀ bucket', last.Chain bucket' ((HashTable.add .empty 0 1).chain bucket')) ∧
    (∀ bucket' nodes, last.Chain bucket' nodes → 0 ∉ nodes) ∧
    last.lists.pprev 0 = some (.first 0) :=
  overlapping_insertion_lost 0 represents_emptyHlists (fun _ ↦ List.not_mem_nil)
    (fun _ ↦ List.not_mem_nil) (by decide)

end NfsFuse
