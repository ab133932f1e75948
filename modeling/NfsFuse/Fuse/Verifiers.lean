import NfsFuse.Lib.Interleaving
import NfsFuse.Lib.LastWriter
import NfsFuse.Fuse.Paging

/-!
# Cookies and their verifiers

Any number of scans of directories are in progress.  A cookie is only valid together with the
verifier of the reply that it came with.  The kernel keeps the cookies of every scan, but the
verifier is kept once for each inode: a call carries the one of the reply that was taken over last
for the directory, whichever scan it was for.

What a call should carry is read off the history of the run.  A ledger notes what the replies of the
server have brought and what has been handed to the scans; nothing that the code stores is used for
it.
-/

namespace NfsFuse

open Lib

/-- A request of a scan. -/
structure ScanRequest (ι : Type) where
  scan : ι
  plus : Bool
  ino : UInt64
  size : ℕ
  off : UInt64

/-- The scans at the daemon.  The server may answer anything. -/
def scanSystem (plat : Platform) (ι : Type) :
    System (ScanRequest ι) EnvOp EnvAns Fault Daemon Unit FuseReply Unit where
  code request := listDirectory plat request.plus request.ino request.size request.off
  server _ _ _ := True
  log := Daemon.replies

abbrev ScanLabel (ι : Type) := Label Unit (ScanRequest ι) EnvAns FuseReply

abbrev ScanNet := Net Unit EnvOp EnvAns Fault Daemon Unit Unit

/-- The cookie and the verifier that a `READDIR` or `READDIRPLUS` carries. -/
def listingArgs : EnvOp → Option (UInt64 × UInt64)
  | .call (.readdir _ cookie cookieverf _) => some (cookie, cookieverf)
  | .call (.readdirplus _ cookie cookieverf _ _) => some (cookie, cookieverf)
  | _ => none

/-- The attributes of the directory and the verifier in the reply to a `READDIR` or
`READDIRPLUS`. -/
def listingReply : Event EnvAns → Option (Option Fattr3 × UInt64)
  | ⟨.call (.readdir _ _ _ _), .done (.ok res)⟩ => some (res.dirAttributes, res.cookieverf)
  | ⟨.call (.readdirplus _ _ _ _ _), .done (.ok res)⟩ => some (res.dirAttributes, res.cookieverf)
  | _ => none

/-- The directory and the verifier of a reply that is taken over: the attributes in it are those of
the directory, as far as they are checked. -/
def taken (daemon : Daemon) (dir : Option ℕ) (event : Event EnvAns) : Option (ℕ × UInt64) :=
  dir.bind fun index ↦ (listingReply event).bind fun (attributes, cookieverf) ↦
    if index < daemon.heap.length ∧ daemon.listingStatus index attributes = 0 then
      some (index, cookieverf)
    else none

/-- A table of verifiers after a reply. -/
def storeVerifier : Option (ℕ × UInt64) → (ℕ → UInt64) → ℕ → UInt64
  | none, verifier => verifier
  | some (index, cookieverf), verifier => Function.update verifier index cookieverf

/-- The offsets that are handed to the kernel. -/
def offsets (sent : List FuseReply) : List UInt64 :=
  (sent.flatMap fun message ↦ message.listing?.getD []).map fun dirent ↦ UInt64.ofInt dirent.off

/-- A request that has been started: its directory, its scan, and the verifier of its reply. -/
structure ScanThread (ι : Type) where
  dir : Option ℕ
  scan : ι
  cookieverf : Option UInt64

/-- What has happened so far: the requests, the verifier of the last reply that was taken over for
each directory, and the offsets that were handed to each scan with the verifiers of their
replies. -/
structure Ledger (ι : Type) where
  threads : List (ScanThread ι)
  verifier : ℕ → UInt64
  handed : List ((ι × UInt64) × UInt64)

section Ledger

variable {ι : Type}

/-- The reply to a request, if this is one, and what is handed to its scan. -/
def Ledger.deliver (ledger : Ledger ι) (number : ℕ) (thread : ScanThread ι)
    (reply : Option (ℕ × UInt64)) (sent : List FuseReply) : Ledger ι :=
  let cookieverf := (reply.map Prod.snd).or thread.cookieverf
  { threads := ledger.threads.set number { thread with cookieverf := cookieverf }
    verifier := storeVerifier reply ledger.verifier
    handed := ledger.handed ++ cookieverf.toList.flatMap fun cookieverf ↦
      (offsets sent).map fun off ↦ ((thread.scan, off), cookieverf) }

/-- The history after another step, given the state before it. -/
def Ledger.note (ledger : Ledger ι) (before : Daemon) : ScanLabel ι → Ledger ι
  | .start _ request _ _ => { ledger with
      threads := ledger.threads ++ [⟨before.findIno request.ino, request.scan, none⟩] }
  | .execute _ _ => ledger
  | .deliver number event _ sent => ledger.threads[number]?.elim ledger fun thread ↦
      ledger.deliver number thread (taken before thread.dir event) sent

/-- The verifier that goes with a cookie of a scan: none at the start, and otherwise that of the
reply in which the scan was handed the cookie. -/
def Ledger.expected [DecidableEq ι] (ledger : Ledger ι) (scan : ι) (cookie : UInt64) :
    Option UInt64 :=
  if cookie = 0 then some 0 else latest ledger.handed (scan, cookie)

/-- A step of a run, with the state and the history before it. -/
structure Moment (ι : Type) where
  before : Daemon
  ledger : Ledger ι
  label : ScanLabel ι

/-- The question that a step ends with, and the scan that asks it. -/
def Moment.asks (moment : Moment ι) : Option (ι × EnvOp) :=
  match moment.label with
  | .start _ request next _ => next.map fun op ↦ (request.scan, op)
  | .execute _ _ => none
  | .deliver number _ next _ =>
      moment.ledger.threads[number]?.bind fun thread ↦ next.map fun op ↦ (thread.scan, op)

/-- A run of the scans with its history. -/
inductive ScanStep (plat : Platform) : ScanNet × Ledger ι → Moment ι → ScanNet × Ledger ι → Prop
  | mk {net net' : ScanNet} {ledger : Ledger ι} {label : ScanLabel ι}
      (h : Net.Step (scanSystem plat ι) net label net') :
      ScanStep plat (net, ledger) ⟨net.sites (), ledger, label⟩
        (net', ledger.note (net.sites ()) label)

variable [DecidableEq ι]

/-- A call carries the verifier that goes with its cookie. -/
def Moment.Paired (moment : Moment ι) : Prop :=
  ∀ scan op cookie cookieverf, moment.asks = some (scan, op) →
    listingArgs op = some (cookie, cookieverf) →
    ∀ expected, moment.ledger.expected scan cookie = some expected → cookieverf = expected

/-- When a request starts with a call, the last reply that was taken over for its directory had the
verifier that goes with its offset. -/
def Moment.Agrees (moment : Moment ι) : Prop :=
  ∀ site request op sent index, moment.label = .start site request (some op) sent →
    moment.before.findIno request.ino = some index →
    ∀ expected, moment.ledger.expected request.scan request.off = some expected →
      moment.ledger.verifier index = expected

end Ledger

/-! ## What the code does with the verifiers -/

/-- The verifiers of the inodes. -/
def Daemon.verifiers (daemon : Daemon) (index : ℕ) : UInt64 := (daemon.inode index).cookieverf

def Change.isVerifier : Change → Bool
  | .inode _ (.verifier _) => true
  | _ => false

/-- Everything but calls and changes of the verifiers. -/
def idleParts : Footprint EnvOp Fault Change where
  faults _ := True
  ops op := ∃ site, op = .malloc site
  labels change := change.isVerifier = false

theorem idleCache : CacheParts idleParts where
  undefined := trivial
  outOfFuel := trivial
  errPtr := trivial
  malloc site _ := ⟨site, rfl⟩
  alloc := ⟨_, rfl⟩
  cache change h := by
    cases change with
    | inode _ change => cases change <;> first | rfl | cases h
    | _ => rfl

theorem idleCounts : CountParts idleParts where
  toBaseParts := idleCache.toBaseParts
  refDec := trivial
  refCreate := trivial
  count _ _ := rfl

theorem nfsRefresh_cookieverf (fattr : NfsFattr) (inode : NfsInode) :
    (nfsRefresh fattr inode).1.cookieverf = inode.cookieverf := by
  unfold nfsRefresh nfsUpdateInode
  split_ifs <;> rfl

theorem InodeChange.apply_cookieverf {change : InodeChange} (h : ∀ value, change ≠ .verifier value)
    (inode : NfsInode) : (change.apply inode).cookieverf = inode.cookieverf := by
  cases change with
  | verifier value => exact absurd rfl (h value)
  | fhget fattr =>
    change (fhgetUpdate fattr inode).cookieverf = _
    unfold fhgetUpdate
    split_ifs
    · rfl
    · exact nfsRefresh_cookieverf fattr inode
  | refresh fattr => exact nfsRefresh_cookieverf fattr inode
  | _ => rfl

theorem verifiers_apply {change : Change} (h : change.isVerifier = false) (daemon : Daemon) :
    (change.apply daemon).verifiers = daemon.verifiers := by
  funext index
  cases change with
  | alloc =>
    change ((daemon.push (inodeInitAlways daemon.sb .cleared)).inode index).cookieverf = _
    rcases lt_trichotomy index daemon.heap.length with hlt | rfl | hlt
    · rw [Daemon.push_inode_lt hlt]
      rfl
    · rw [Daemon.push_inode_self, Daemon.verifiers, Daemon.inode_of_le le_rfl]
      rfl
    · have hle : (daemon.push (inodeInitAlways daemon.sb .cleared)).heap.length ≤ index :=
        List.length_append.trans_le hlt
      rw [Daemon.verifiers, Daemon.inode_of_le hle, Daemon.inode_of_le hlt.le]
  | inode other change =>
    refine Daemon.inode_setInode_proj NfsInode.cookieverf (change.apply_cookieverf ?_ _) index
    rintro value rfl
    cases h
  | _ => rfl

theorem verifiers_listing (daemon : Daemon) (index : ℕ) (attributes : Option Fattr3)
    (cookieverf : UInt64) :
    (daemon.listing index attributes cookieverf).verifiers =
      storeVerifier (if index < daemon.heap.length then some (index, cookieverf) else none)
        daemon.verifiers := by
  have hrefreshed : (daemon.refreshed index (postFattr attributes)).verifiers = daemon.verifiers :=
    funext fun other ↦
      Daemon.inode_setInode_proj NfsInode.cookieverf (nfsRefresh_cookieverf _ _) other
  rw [Daemon.listing, ← hrefreshed]
  have hlength : (daemon.refreshed index (postFattr attributes)).heap.length = daemon.heap.length :=
    Daemon.setInode_length _ _ _
  generalize daemon.refreshed index (postFattr attributes) = refreshed at hlength ⊢
  by_cases hlt : index < daemon.heap.length
  · rw [if_pos hlt]
    funext other
    rw [storeVerifier, Function.update_apply]
    split_ifs with heq
    · subst heq
      rw [Daemon.verifiers, Daemon.inode_setInode_self (hlength ▸ hlt)]
    · rw [Daemon.verifiers, Daemon.inode_setInode_ne heq]
      rfl
  · rw [if_neg hlt, Daemon.setInode_of_le (hlength ▸ not_lt.mp hlt)]
    rfl

/-- Where a segment may stop that leaves these verifiers. -/
abbrev LeavesVerifiers (verifier : ℕ → UInt64) : Stop EnvOp Daemon (Option ℕ) :=
  Keeps Daemon.verifiers none idleParts.ops verifier

/-- A request waits for the listing of its directory, or for memory.  The segment that consumes a
reply stores its verifier if the reply is taken over. -/
def scanDiscipline : Discipline EnvOp EnvAns Daemon (Option ℕ) where
  inv _ := True
  allowed _ := True
  segment dir event before :=
    LeavesVerifiers (storeVerifier (taken before dir event) before.verifiers)

theorem scanDiscipline_stops (dir : Option ℕ) (event : Event EnvAns) (before : Daemon) :
    scanDiscipline.stops dir event before =
      LeavesVerifiers (storeVerifier (taken before dir event) before.verifiers) := by
  funext next after
  exact eq_iff_iff.mpr (and_iff_right trivial)

/-- Up to its first question a request changes nothing, and the question is a call for its directory
with its offset and the verifier that is stored. -/
def scanBegins {ι : Type} (request : ScanRequest ι) (before : Daemon) :
    Stop EnvOp Daemon (Option ℕ) := fun next after ↦
  after.verifiers = before.verifiers ∧ ∀ pair ∈ next, ∃ index, pair.1 = some index ∧
    before.findIno request.ino = some index ∧
      listingArgs pair.2 = some (request.off, before.verifiers index)

section Handlers

variable {α : Type} {daemon : Daemon} {stop : Stop EnvOp Daemon (Option ℕ)}

/-- A program that is idle. -/
theorem wp_idle {program : Prog α} (h : program.Within Change.apply idleParts)
    {verifier : ℕ → UInt64} (hverifier : daemon.verifiers = verifier)
    {post : α → Daemon → Stop EnvOp Daemon (Option ℕ) → Prop}
    (hpost : ∀ value daemon', post value daemon' (LeavesVerifiers daemon'.verifiers)) :
    (program.run daemon).Wp scanDiscipline (LeavesVerifiers verifier) post := by
  refine h.wp (fun _ hlabel ↦ verifiers_apply hlabel) (fun event before hop ↦ ?_) hverifier hpost
  obtain ⟨op, answer⟩ := event
  obtain ⟨site, rfl⟩ := hop
  exact scanDiscipline_stops none _ before

/-- What both procedures do with a reply. -/
theorem wp_beginListing {index : ℕ} {event : Event EnvAns} {attributes : Option Fattr3}
    {cookieverf : UInt64} (hevent : listingReply event = some (attributes, cookieverf))
    {next : Prog (ℤ × List ReaddirCtx)} (hnext : next.Within Change.apply idleParts)
    {post : ℤ × List ReaddirCtx → Daemon → Stop EnvOp Daemon (Option ℕ) → Prop}
    (hpost : ∀ value daemon', post value daemon' (LeavesVerifiers daemon'.verifiers)) :
    ((beginListing index attributes cookieverf >>= fun err ↦
      if err ≠ 0 then pure (err, []) else next).run daemon).Wp scanDiscipline
        (scanDiscipline.stops (some index) event daemon) post := by
  have htaken : taken daemon (some index) event =
      if index < daemon.heap.length ∧ daemon.listingStatus index attributes = 0 then
        some (index, cookieverf) else none := by
    rw [taken, hevent]
    rfl
  rw [scanDiscipline_stops, htaken, Program.bind_run, beginListing_run]
  by_cases hstatus : daemon.listingStatus index attributes ≠ 0
  · rw [if_pos hstatus, if_neg fun h ↦ hstatus h.2, Resumption.bind_ret, if_pos hstatus]
    exact hpost _ daemon
  · rw [if_neg hstatus, Resumption.bind_ret, if_neg (not_not.mpr rfl)]
    refine wp_idle hnext ?_ hpost
    simp only [verifiers_listing, not_not.mp hstatus, and_true]

/-- A reply that failed. -/
theorem leaves_of_failed {index : ℕ} {event : Event EnvAns} (hevent : listingReply event = none) :
    scanDiscipline.stops (some index) event daemon = LeavesVerifiers daemon.verifiers := by
  have htaken : taken daemon (some index) event = none := by
    rw [taken, hevent]
    rfl
  rw [scanDiscipline_stops, htaken]
  rfl

section Procedures

variable {parent : ℕ} {count maxcount : UInt32} {cookie : UInt64}
  {post : ℤ × List ReaddirCtx → Daemon → Stop EnvOp Daemon (Option ℕ) → Prop}
  (hstop : ∀ op, listingArgs op = some (cookie, daemon.verifiers parent) →
    stop (some (some parent, op)) daemon)
  (hpost : ∀ value daemon', post value daemon' (LeavesVerifiers daemon'.verifiers))

include hstop hpost

theorem wp_hsiNfs3Readdir :
    ((hsiNfs3Readdir parent count cookie).run daemon).Wp scanDiscipline stop post := by
  refine ⟨some parent, hstop _ rfl, fun outcome current _ _ ↦ ?_⟩
  match outcome with
  | .fail err _ =>
    rw [leaves_of_failed rfl]
    exact hpost _ current
  | .done (.fail status _) =>
    rw [leaves_of_failed rfl]
    exact hpost _ current
  | .done (.ok res) =>
    exact wp_beginListing rfl (within_copyEntries idleCache.toPutParts _ _) hpost

theorem wp_hsiNfs3ReaddirPlus (plat : Platform) :
    ((hsiNfs3ReaddirPlus plat parent count cookie maxcount).run daemon).Wp scanDiscipline stop
      post := by
  refine ⟨some parent, hstop _ rfl, fun outcome current _ _ ↦ ?_⟩
  match outcome with
  | .fail err _ =>
    rw [leaves_of_failed rfl]
    exact hpost _ current
  | .done (.fail status _) =>
    rw [leaves_of_failed rfl]
    exact hpost _ current
  | .done (.ok res) =>
    exact wp_beginListing rfl (within_copyEntriesPlus idleCache plat _ _) hpost

end Procedures

/-- `hsfs_ilookup` finds what the table has, unless it comes across an inode that has been freed. -/
theorem hsfsIlookup_run_or (daemon : Daemon) (ino : UInt64) :
    (hsfsIlookup ino).run daemon = .ret (.ofOption (daemon.findIno ino)) daemon ∨
      (hsfsIlookup ino).run daemon = .fault .undefined daemon := by
  rw [hsfsIlookup, idIfind, Program.get_bind, Daemon.findIno, HashTable.find]
  induction daemon.sb.idTable.chain (hashMin ino) with
  | nil => exact .inl rfl
  | cons first rest ih =>
    rw [walkChain]
    by_cases hfreed : first ∈ daemon.freed
    · have hderef : (Prog.deref (.obj first)).run daemon = .fault .undefined daemon := by
        simp [Prog.deref, hfreed]
      right
      rw [Program.bind_run, hderef]
      rfl
    · rw [Program.bind_run_of_ret (deref_obj_run hfreed), Prog.getInode_bind, List.find?_cons]
      cases htest : (daemon.inode first).ino == ino with
      | false => simpa [htest] using ih
      | true => exact .inl rfl

theorem obeys_listThen {ι : Type} {request : ScanRequest ι}
    {procedure : ℕ → Prog (ℤ × List ReaddirCtx)} {fill : List ReaddirCtx → Prog Unit}
    (hprocedure : ∀ parent stop post,
      (∀ op, listingArgs op = some (request.off, daemon.verifiers parent) →
        stop (some (some parent, op)) daemon) →
      (∀ value daemon', post value daemon' (LeavesVerifiers daemon'.verifiers)) →
      ((procedure parent).run daemon).Wp scanDiscipline stop post)
    (hfill : ∀ chain, (fill chain).Within Change.apply idleParts) :
    ((listThen request.ino procedure fill).run daemon).Obeys scanDiscipline fun next after ↦
      scanDiscipline.inv after ∧ scanBegins request daemon next after := by
  have hnone : scanBegins request daemon none daemon := ⟨rfl, by simp⟩
  rw [listThen, Resumption.Obeys, Program.wp_bind]
  rcases hsfsIlookup_run_or daemon request.ino with hrun | hrun
  swap
  · rw [hrun]
    exact ⟨trivial, hnone⟩
  rw [hrun]
  cases hfind : daemon.findIno request.ino with
  | none => exact ⟨trivial, hnone⟩
  | some parent =>
    refine (Program.wp_bind _ _ _ _).mpr (hprocedure parent _ _ (fun op hop ↦ ?_) ?_)
    · exact ⟨trivial, rfl, by simpa using ⟨hfind, hop⟩⟩
    · rintro ⟨err, chain⟩ daemon'
      have hrest : (if err ≠ 0 then Prog.reply (.err err) else do
          if ← Prog.malloc .readdirBuf then fill chain else Prog.reply (.err enomem) :
            Prog Unit).Within Change.apply idleParts :=
        .ite (within_reply (fun _ ↦ rfl) _) (.bind (.ask ⟨_, rfl⟩) fun _ ↦
          .ite (hfill chain) (within_reply (fun _ ↦ rfl) _))
      exact wp_idle hrest rfl fun _ _ ↦ keeps_none rfl

theorem obeys_listDirectory (plat : Platform) {ι : Type} (request : ScanRequest ι)
    (daemon : Daemon) :
    ((listDirectory plat request.plus request.ino request.size request.off).run daemon).Obeys
      scanDiscipline fun next after ↦
        scanDiscipline.inv after ∧ scanBegins request daemon next after := by
  rw [listDirectory]
  split_ifs
  · rw [hsxFuseReaddirPlus_eq]
    refine obeys_listThen (fun parent stop post hstop hpost ↦ ?_) fun chain ↦ ?_
    · exact wp_hsiNfs3ReaddirPlus hstop hpost plat
    · exact .bind (within_packDirentsPlus idleCounts _ _ _ _ _) fun _ ↦
        within_reply (fun _ ↦ rfl) _
  · rw [hsxFuseReaddir_eq]
    refine obeys_listThen (fun parent stop post hstop hpost ↦ ?_) fun chain ↦ ?_
    · exact wp_hsiNfs3Readdir hstop hpost
    · exact within_reply (fun _ ↦ rfl) _

end Handlers

/-! ## The ledger of a run -/

section Runs

variable {ι : Type} {plat : Platform} {net net' : ScanNet} {ledger : Ledger ι} {label : ScanLabel ι}

abbrev ScanPhase := Phase Unit EnvOp EnvAns (Option ℕ)

/-- What a request waits for: the listing of its directory, or memory. -/
def AwaitsFor (thread : ScanThread ι) (dir : Option ℕ) (op : EnvOp) : Prop :=
  dir = thread.dir ∨ dir = none ∧ idleParts.ops op

/-- A request and its entry in the ledger. -/
def ScanPhase.Entered : ScanPhase → ScanThread ι → Prop
  | .waiting _ dir op, thread => AwaitsFor thread dir op
  | .answered _ dir event, thread => AwaitsFor thread dir event.op
  | .ended _, _ => True

/-- A reply is taken over for the directory of the request. -/
theorem AwaitsFor.taken_eq {thread : ScanThread ι} {dir : Option ℕ} {event : Event EnvAns}
    (h : AwaitsFor thread dir event.op) (daemon : Daemon) :
    taken daemon dir event = taken daemon thread.dir event := by
  rcases h with rfl | ⟨rfl, site, hop⟩
  · rfl
  · obtain ⟨op, answer⟩ := event
    cases hop
    cases thread.dir <;> rfl

theorem entered_of_segment {site : Unit} {thread : ScanThread ι} {next : Option (Option ℕ × EnvOp)}
    (h : ∀ pair ∈ next, AwaitsFor thread pair.1 pair.2) :
    ScanPhase.Entered (.of site next) thread := by
  cases next with
  | none => trivial
  | some pair => exact h pair rfl

/-- The ledger has the verifiers that are stored, and every request. -/
structure LedgerInv (net : ScanNet) (ledger : Ledger ι) : Prop where
  verifier : (net.sites ()).verifiers = ledger.verifier
  entered : ∃ sketch, net.Sketched (fun _ ↦ scanDiscipline) sketch ∧
    List.Forall₂ ScanPhase.Entered sketch.phases ledger.threads

theorem ledgerInv_initial (daemon : Daemon) :
    LedgerInv (⟨fun _ ↦ daemon, (), []⟩ : ScanNet) (⟨[], daemon.verifiers, []⟩ : Ledger ι) :=
  ⟨rfl, ⟨fun _ ↦ daemon, (), []⟩, ⟨rfl, rfl, .nil, fun _ ↦ trivial⟩, .nil⟩

/-- A step of the scans, up to their code. -/
abbrev ScanSketchStep (plat : Platform) (ι : Type) :=
  Sketch.Step (scanSystem plat ι) (fun _ : Unit ↦ scanDiscipline) fun _ ↦ scanBegins

theorem scan_sketch_step {sketch : Sketch Unit EnvOp EnvAns Daemon (Option ℕ) Unit}
    (h : net.Sketched (fun _ ↦ scanDiscipline) sketch)
    (hstep : Net.Step (scanSystem plat ι) net label net') :
    ∃ sketch', ScanSketchStep plat ι sketch label sketch' ∧
      net'.Sketched (fun _ ↦ scanDiscipline) sketch' :=
  Net.Sketched.step (fun _ request daemon (_ : True) _ ↦ obeys_listDirectory plat request daemon)
    (fun _ _ _ _ _ ↦ trivial) h hstep fun _ _ _ _ _ ↦ trivial

theorem note_deliver {number : ℕ} {thread : ScanThread ι}
    (h : ledger.threads[number]? = some thread)
    (before : Daemon) (event : Event EnvAns) (next : Option EnvOp) (sent : List FuseReply) :
    ledger.note before (.deliver number event next sent) =
      ledger.deliver number thread (taken before thread.dir event) sent := by
  rw [Ledger.note, h]
  rfl

/-- The ledger is kept. -/
theorem LedgerInv.step (h : LedgerInv net ledger)
    (hstep : Net.Step (scanSystem plat ι) net label net') :
    LedgerInv net' (ledger.note (net.sites ()) label) := by
  obtain ⟨hverifier, ⟨sites, server, phases⟩, hsketched, hentered⟩ := h
  obtain ⟨sketch', hsketch, hsketched'⟩ := scan_sketch_step hsketched hstep
  obtain rfl := hsketched.sites
  have hsites := congrFun hsketched'.sites ()
  cases hsketch with
  | @start next after site request _ hbegins =>
    have hself : Function.update net.sites site after site = after := Function.update_self ..
    have hafter : net'.sites () = after := hsites.symm.trans hself
    refine ⟨?_, _, hsketched', List.rel_append hentered (.cons ?_ .nil)⟩
    · rw [hafter]
      exact hbegins.1.trans hverifier
    · refine entered_of_segment fun pair hpair ↦ ?_
      obtain ⟨index, hmark, hfind, -⟩ := hbegins.2 pair hpair
      exact .inl (hmark.trans hfind.symm)
  | @execute site mark op _ number answer hphase _ =>
    obtain ⟨thread, hthread, hawaits⟩ := forall₂_getElem? hentered hphase
    refine ⟨hsites ▸ hverifier, _, hsketched', ?_⟩
    obtain ⟨hlt, rfl⟩ := List.getElem?_eq_some_iff.mp hthread
    have hset : List.Forall₂ ScanPhase.Entered
      (phases.set number (.answered site mark ⟨op, answer⟩))
        (ledger.threads.set number ledger.threads[number]) := forall₂_set hentered number hawaits
    rwa [List.set_getElem_self] at hset
  | @deliver site mark event next after number hphase _ hsegment =>
    obtain ⟨thread, hthread, hawaits⟩ := forall₂_getElem? hentered hphase
    have hawaits' : AwaitsFor thread mark event.op := hawaits
    rw [note_deliver hthread]
    have hself : Function.update net.sites site after site = after := Function.update_self ..
    have hafter : net'.sites () = after := hsites.symm.trans hself
    refine ⟨?_, _, hsketched', ?_⟩
    · rw [hafter, ← hawaits'.taken_eq]
      exact hsegment.1.trans (congrArg (storeVerifier _) hverifier)
    · refine forall₂_set hentered number (entered_of_segment fun pair hpair ↦ ?_)
      exact .inr (hsegment.2 pair hpair)

variable [DecidableEq ι]

/-- A call is sent at the start of a request only, with the verifier of the ledger. -/
theorem LedgerInv.paired_iff (h : LedgerInv net ledger)
    (hstep : Net.Step (scanSystem plat ι) net label net') :
    (⟨net.sites (), ledger, label⟩ : Moment ι).Paired ↔
      (⟨net.sites (), ledger, label⟩ : Moment ι).Agrees := by
  obtain ⟨hverifier, ⟨sites, server, phases⟩, hsketched, hentered⟩ := h
  obtain ⟨sketch', hsketch, -⟩ := scan_sketch_step hsketched hstep
  obtain rfl := hsketched.sites
  cases hsketch with
  | @start next after site request _ hbegins =>
    cases next with
    | none =>
      exact iff_of_true (fun _ _ _ _ hasks ↦ by cases hasks) fun _ _ _ _ _ hlabel ↦ by cases hlabel
    | some pair =>
      obtain ⟨index, -, hfind, hargs⟩ := hbegins.2 pair rfl
      have hstored : (net.sites ()).verifiers index = ledger.verifier index :=
        congrFun hverifier index
      constructor
      · intro hpaired _ _ _ _ other hlabel hother expected hexpected
        cases hlabel
        cases hfind.symm.trans hother
        exact hstored.symm.trans (hpaired _ _ _ _ rfl hargs expected hexpected)
      · intro hagrees scan op cookie cookieverf hasks hargs' expected hexpected
        cases hasks
        cases hargs.symm.trans hargs'
        exact hstored.trans (hagrees _ _ _ _ index rfl hfind expected hexpected)
  | @execute site mark op _ number answer hphase _ =>
    exact iff_of_true (fun _ _ _ _ hasks ↦ by cases hasks) fun _ _ _ _ _ hlabel ↦ by cases hlabel
  | @deliver site mark event next after number hphase _ hsegment =>
    refine iff_of_true (fun scan op cookie cookieverf hasks hargs ↦ ?_) fun _ _ _ _ _ hlabel ↦ by
      cases hlabel
    obtain ⟨thread, -, hnext⟩ := Option.bind_eq_some_iff.mp hasks
    cases next with
    | none => cases hnext
    | some pair =>
      cases hnext
      obtain ⟨-, site, hop⟩ := hsegment.2 pair rfl
      rw [hop] at hargs
      cases hargs

/-- The scans at a daemon before the first request. -/
def scanStart (daemon : Daemon) : ScanNet × Ledger ι :=
  (⟨fun _ ↦ daemon, (), []⟩, ⟨[], daemon.verifiers, []⟩)

/-- In every run of scans, a call carries the verifier that goes with its cookie exactly if the last
reply that was taken over for the directory had it. -/
theorem cookie_verifier_iff {daemon : Daemon} {trail : List (Moment ι)} {last : ScanNet × Ledger ι}
    (hrun : Run (ScanStep plat) (scanStart daemon) trail last) {moment : Moment ι}
    (hmem : moment ∈ trail) : moment.Paired ↔ moment.Agrees := by
  let holds (trail : List (Moment ι)) (config : ScanNet × Ledger ι) : Prop :=
    LedgerInv config.1 config.2 ∧ ∀ moment ∈ trail, (moment.Paired ↔ moment.Agrees)
  have hinitial : holds [] (scanStart daemon) :=
    ⟨ledgerInv_initial daemon, fun _ hnil ↦ absurd hnil List.not_mem_nil⟩
  have hlast : holds trail last := by
    refine hrun.invariant hinitial ?_
    rintro trail _ _ _ ⟨hledger, htrail⟩ ⟨hstep⟩
    refine ⟨hledger.step hstep, fun moment hmoment ↦ ?_⟩
    rcases List.mem_append.mp hmoment with hold | hnew
    · exact htrail moment hold
    · obtain rfl := List.mem_singleton.mp hnew
      exact hledger.paired_iff hstep
  exact hlast.2 moment hmem

end Runs

/-- A request of a scan of the root. -/
def rootScan (scan : Bool) (off : UInt64) : ScanRequest Bool := ⟨scan, false, 1, 4096, off⟩

/-- A listing of the root with the one file `f`. -/
def rootListing (cookieverf : UInt64) : RpcOutcome Readdir3resok :=
  .done (.ok ⟨none, cookieverf, [⟨7, [102], 1⟩]⟩)

/-- One scan of the root: its first call carries no verifier, and it goes on behind the first entry
with the verifier of the reply. -/
theorem cookie_verifier_resumed : ∃ trail last started resumed,
    Run (ScanStep linuxHost) (scanStart mountedCache) trail last ∧
    (started ∈ trail ∧ started.asks = some (true, .call (.readdir [0] 0 0 4096)) ∧
      started.Paired) ∧
    (resumed ∈ trail ∧ resumed.asks = some (true, .call (.readdir [0] 1 5 4096)) ∧
      resumed.ledger.expected true 1 = some 5 ∧ resumed.Paired) := by
  have hany (event : Event EnvAns) : (scanSystem linuxHost Bool).server () event () := trivial
  have h0 : Run (ScanStep linuxHost) (scanStart mountedCache : ScanNet × Ledger Bool) [] _ := .nil
  have h1 := h0.snoc (.mk (.start () (rootScan true 0) rfl))
  have h2 := h1.snoc (.mk (.execute 0 (rootListing 5) rfl (hany _)))
  have h3 := h2.snoc (.mk (.deliver 0 rfl rfl))
  -- memory for the entry, its name and the buffer
  have h4 := h3.snoc (.mk (.execute 0 true rfl (hany _)))
  have h5 := h4.snoc (.mk (.deliver 0 rfl rfl))
  have h6 := h5.snoc (.mk (.execute 0 true rfl (hany _)))
  have h7 := h6.snoc (.mk (.deliver 0 rfl rfl))
  have h8 := h7.snoc (.mk (.execute 0 true rfl (hany _)))
  have h9 := h8.snoc (.mk (.deliver 0 rfl rfl))
  have h10 := h9.snoc (.mk (.start () (rootScan true 1) rfl))
  have hlast {front : List (Moment Bool)} {moment : Moment Bool} : moment ∈ front ++ [moment] :=
    List.mem_append_right _ List.mem_cons_self
  refine ⟨_, _, _, _, h10, ⟨List.mem_cons_self, rfl,
    (cookie_verifier_iff h10 List.mem_cons_self).mpr ?_⟩,
    hlast, rfl, rfl, (cookie_verifier_iff h10 hlast).mpr ?_⟩
  all_goals
    intro _ _ _ _ index hlabel hfind expected hexpected
    cases hlabel
    cases hfind
    cases hexpected
    rfl

/-- Two scans of the root.  Both start, the second one with the verifier of the first one's reply,
and the first one goes on with the verifier of the second one's reply. -/
theorem scans_share_verifier : ∃ trail last started resumed,
    Run (ScanStep linuxHost) (scanStart mountedCache) trail last ∧
    (started ∈ trail ∧ started.asks = some (false, .call (.readdir [0] 0 5 4096)) ∧
      started.ledger.expected false 0 = some 0 ∧ ¬ started.Paired) ∧
    (resumed ∈ trail ∧ resumed.asks = some (true, .call (.readdir [0] 1 9 4096)) ∧
      resumed.ledger.expected true 1 = some 5 ∧ ¬ resumed.Paired) := by
  have hany (event : Event EnvAns) : (scanSystem linuxHost Bool).server () event () := trivial
  have h0 : Run (ScanStep linuxHost) (scanStart mountedCache : ScanNet × Ledger Bool) [] _ := .nil
  -- the first scan, with memory for the entry, its name and the buffer
  have h1 := h0.snoc (.mk (.start () (rootScan true 0) rfl))
  have h2 := h1.snoc (.mk (.execute 0 (rootListing 5) rfl (hany _)))
  have h3 := h2.snoc (.mk (.deliver 0 rfl rfl))
  have h4 := h3.snoc (.mk (.execute 0 true rfl (hany _)))
  have h5 := h4.snoc (.mk (.deliver 0 rfl rfl))
  have h6 := h5.snoc (.mk (.execute 0 true rfl (hany _)))
  have h7 := h6.snoc (.mk (.deliver 0 rfl rfl))
  have h8 := h7.snoc (.mk (.execute 0 true rfl (hany _)))
  have h9 := h8.snoc (.mk (.deliver 0 rfl rfl))
  -- the second scan, up to its reply
  have h10 := h9.snoc (.mk (.start () (rootScan false 0) rfl))
  have h11 := h10.snoc (.mk (.execute 1 (rootListing 9) rfl (hany _)))
  have h12 := h11.snoc (.mk (.deliver 1 rfl rfl))
  have h13 := h12.snoc (.mk (.start () (rootScan true 1) rfl))
  have hlast {front : List (Moment Bool)} {moment : Moment Bool} : moment ∈ front ++ [moment] :=
    List.mem_append_right _ List.mem_cons_self
  refine ⟨_, _, _, _, h13, ⟨List.mem_append_left _ (List.mem_append_left _
    (List.mem_append_left _ hlast)), rfl, rfl, fun hpaired ↦ ?_⟩, hlast, rfl, rfl, fun hpaired ↦ ?_⟩
  · exact absurd (hpaired _ _ _ _ rfl rfl 0 rfl) (by decide)
  · exact absurd (hpaired _ _ _ _ rfl rfl 5 rfl) (by decide)

end NfsFuse
