import NfsFuse.Lib.Interleaving
import NfsFuse.Nfs3.Clients
import NfsFuse.Nfs3.SetxattrStatus
import NfsFuse.Fuse.Footprints
import NfsFuse.Fuse.Transfer

/-!
# Requests and their connections

Most procedures copy the client of the superblock, call with the copy and free the result with it.
The call may have replaced the client in the meantime, and then the copy is a client that has been
destroyed.  Procedures that free the result with the client of the superblock are safe, as long as a
reconnection does not fail.

The handlers are those of the coarser model.  Each of their calls is carried out with the clients,
which gives the outcome of the call, and everything a procedure does with its client afterwards
follows from that outcome and, in `hsi_nfs3_getxattr`, from the allocation behind the call.
-/

namespace NfsFuse

open Lib

/-- The service that a procedure calls. -/
def Call.service : Call → Service
  | .getacl _ _ => .acl
  | .setacl _ _ => .acl
  | _ => .nfs

/-- How a procedure frees the result of its call: with the client in the superblock, with its copy,
with its copy even if the call has failed, with its copy after another call, or as
`hsi_nfs3_getxattr` does. -/
inductive Freeing where
  | current
  | copy
  | always
  | atEnd
  | getxattr
  deriving DecidableEq, Repr

/-- How the function that calls this procedure frees the result. -/
def Call.freeing : Call → Freeing
  | .getattr _ => .current
  | .setattr _ _ => .copy
  | .lookup _ => .current
  | .access _ _ => .always
  | .readlink _ => .copy
  | .read _ _ _ => .copy
  | .write _ _ _ _ _ => .copy
  -- the SETATTR of an exclusive create comes first
  | .create _ _ => .atEnd
  | .mkdir _ _ => .current
  | .symlink _ _ _ => .current
  | .mknod _ _ => .copy
  | .remove _ => .copy
  | .rmdir _ => .current
  | .rename _ _ => .copy
  -- a GETATTR comes first if the reply has no attributes
  | .link _ _ => .atEnd
  | .readdir _ _ _ _ => .copy
  | .readdirplus _ _ _ _ _ => .copy
  | .fsstat _ => .current
  | .fsinfo _ => .atEnd
  | .pathconf _ => .copy
  | .getacl _ _ => .getxattr
  | .setacl _ _ => .copy

/-- What is left to do with a client after a call. -/
inductive Release where
  | nothing
  | current
  | copy
  | later
  deriving DecidableEq, Repr

/-- `posix_acl_alloc` has failed. -/
def outOfMemory : Option (Event EnvAns) → Bool
  | some ⟨.malloc .posixAcl, memory⟩ => !memory
  | _ => false

/-- What is left to do after a call, given the event behind it. -/
def releaseOf {α : Type} (freeing : Freeing) (outcome : RpcOutcome α)
    (next : Option (Event EnvAns)) :
    Release :=
  match freeing, outcome with
  | .always, _ => .copy
  | _, .fail _ _ => .nothing
  | .current, .done _ => .current
  | .copy, .done _ => .copy
  | .atEnd, .done _ => .later
  | .getxattr, .done (.fail _ _) => .copy
  -- without memory the result is freed with the client of the other service
  | .getxattr, .done (.ok _) => if outOfMemory next then .current else .copy

/-- The copy of the client is used after the call. -/
def Release.usesCopy : Release → Bool
  | .copy => true
  | .later => true
  | _ => false

namespace Clients

/-- Keep a copy until the procedure ends. -/
def save (clients : Clients) (client : ℕ) : Clients :=
  { clients with saved := client :: clients.saved }

/-- `clnt_freeres`, now or later. -/
def release : Release → ℕ → ClientProg Unit
  | .nothing, _ => pure ()
  | .current, _ => do
      let clients ← Program.get
      match clients.clntp with
      | some current => ClientProg.use .clntFreeres current
      | none => Program.crash .undefined
  | .copy, client => ClientProg.use .clntFreeres client
  | .later, client => Program.modify fun clients ↦ clients.save client

/-- The pointer that a procedure calls with.  `hsi_nfs3_setxattr` has copied it before it calls
`hsi_nfs3_getxattr`. -/
def loaded (clients : Clients) : Call → Option ℕ
  | .setacl _ _ => clients.aclSaved
  | procedure => clients.pointer procedure.service

/-- A call with all that is done with its client. -/
def carryOut (procedure : Call) (next : Option (Event EnvAns)) :
    ClientProg (RpcOutcome procedure.Body) := do
  let clients ← Program.get
  match clients.loaded procedure with
  | none => Program.crash .undefined
  | some client =>
      let outcome ← hsiNfs3ClntCall procedure 5 client
      release (releaseOf procedure.freeing outcome next) client
      return outcome

/-- The copies at the beginning of a request. -/
def entered (clients : Clients) : Clients :=
  { clients with saved := [], aclSaved := clients.aclClntp }

/-- At its end the results that are left are freed, and the copies are gone. -/
def ended (clients : Clients) : Clients :=
  { clients with
    pool := Pool.useAll .clntFreeres clients.saved clients.pool
    saved := []
    aclSaved := none }

end Clients

/-- An event of a handler, with the questions about clients that it takes. -/
structure Carried where
  event : Event EnvAns
  segment : ClientTrace

/-- The clients carry out an event. -/
def CarriedOut (clients : Clients) (carried : Carried) (next : Option (Event EnvAns))
    (clients' : Clients) : Prop :=
  match carried.event with
  | ⟨.call procedure, outcome⟩ =>
      ((Clients.carryOut procedure next).run clients).Path carried.segment (.done outcome clients')
  | _ => carried.segment = [] ∧ clients' = clients

/-- The clients carry out the events of a request. -/
def Carries : Clients → List Carried → Clients → Prop
  | clients, [], clients' => clients' = clients.ended
  | clients, carried :: rest, clients' =>
      ∃ middle, CarriedOut clients carried (rest.head?.map Carried.event) middle ∧
        Carries middle rest clients'

/-- A request of a run, with the clients after it. -/
structure ClientMoment where
  carried : List Carried
  after : Clients

/-- A request is handled. -/
inductive ClientStep (plat : Platform) : Daemon × Clients → ClientMoment → Daemon × Clients → Prop
  | mk {daemon daemon' : Daemon} {clients clients' : Clients} {fuel : ℕ} {request : Request}
      {carried : List Carried}
      (hpath : ((handle plat fuel request).run daemon).Path (carried.map Carried.event)
        (.done () daemon'))
      (hcarries : Carries clients.entered carried clients') :
      ClientStep plat (daemon, clients) ⟨carried, clients'⟩ (daemon', clients')

/-- What a request asks for: memory and calls. -/
def requestParts : Footprint EnvOp Fault Change where
  labels _ := True
  ops op := ∀ question, op ≠ .host question
  faults _ := True

theorem requestParts_handler : HandlerParts requestParts where
  undefined := trivial
  malloc _ _ := nofun
  outOfFuel := trivial
  alloc := nofun
  errPtr := trivial
  cache _ _ := trivial
  call _ := nofun
  refresh _ _ := trivial
  super _ := trivial
  refDec := trivial
  refCreate := trivial
  count _ _ := trivial
  put _ := trivial
  free _ := trivial
  forgetNode := trivial
  reply _ := trivial
  readdirParent := trivial

/-- A request opens and pings no client by itself, so that its calls are all that the clients carry
out. -/
theorem emits_handle (plat : Platform) (fuel : ℕ) (request : Request) :
    (handle plat fuel request).Emits fun event ↦ ∀ question, event.op ≠ .host question :=
  (within_handle requestParts_handler plat fuel request (fun _ _ _ ↦ trivial)
    fun _ _ _ _ ↦ trivial).emits fun _ hop _ ↦ hop

/-! ## When no copy goes stale -/

/-- The result of the call is freed when the procedure ends. -/
def freedLater : Event EnvAns → Bool
  | ⟨.call procedure, .done _⟩ => procedure.freeing == .atEnd
  | _ => false

/-- No enclosing procedure is still going to use its copy of a client. -/
def NotEnclosed (held : Bool) (rest : List Carried) : Service → Prop
  | .nfs => held = false
  | .acl => ∀ later ∈ rest, isSetacl later.event = false

/-- The client may be replaced during a call: its copy is not used any more, and neither is one that
an enclosing procedure has made. -/
def Replaceable (held : Bool) (event : Event EnvAns) (rest : List Carried) : Prop :=
  match event with
  | ⟨.call procedure, outcome⟩ =>
      (releaseOf procedure.freeing outcome (rest.head?.map Carried.event)).usesCopy = false ∧
        NotEnclosed held rest procedure.service
  | _ => True

/-- No reconnection fails, and none happens where the client may not be replaced. -/
def CopyKept (held : Bool) (carried : Carried) (rest : List Carried) : Prop :=
  carried.segment.any Clients.isLoss = false ∧
    (carried.segment.any Clients.isReconnect = true → Replaceable held carried.event rest)

/-- The condition on all events of a request.  The mark says whether there is a result to be freed
at the end. -/
def CopiesKept : Bool → List Carried → Prop
  | _, [] => True
  | held, carried :: rest =>
      CopyKept held carried rest ∧ CopiesKept (held || freedLater carried.event) rest

theorem freeing_atEnd_service {procedure : Call} (h : procedure.freeing = .atEnd) :
    procedure.service = .nfs := by
  cases procedure <;> first | rfl | cases h

theorem releaseOf_later_iff {procedure : Call} {outcome : RpcOutcome procedure.Body}
    {next : Option (Event EnvAns)} : releaseOf procedure.freeing outcome next = .later ↔
      freedLater ⟨.call procedure, outcome⟩ = true := by
  unfold releaseOf freedLater
  cases hfreeing : procedure.freeing <;> rcases outcome with _ | ⟨_ | _⟩ <;> simp [hfreeing]
  all_goals split_ifs <;> simp

theorem service_of_freedLater {procedure : Call} {outcome : RpcOutcome procedure.Body}
    (h : freedLater ⟨.call procedure, outcome⟩ = true) : procedure.service = .nfs := by
  cases outcome with
  | fail err nonzero => cases h
  | done res => exact freeing_atEnd_service (beq_iff_eq.mp h)

namespace Clients

theorem advances_release (kind : Release) (client : ℕ) :
    (release kind client).Respects Advances := by
  cases kind with
  | nothing => exact .pure _
  | current =>
    refine .bind .get fun clients ↦ ?_
    cases clients.clntp with
    | none => exact .crash _
    | some current => exact advances_use _ current
  | copy => exact advances_use _ client
  | later =>
    exact .modify fun clients ↦ ⟨.rfl, fun _ _ h _ _ ↦ h, List.subset_cons_self _ _, rfl⟩

theorem emits_release (kind : Release) (client : ℕ) :
    (release kind client).Emits fun _ ↦ False := by
  cases kind with
  | nothing => exact .pure _
  | current =>
    refine .bind .get fun clients ↦ ?_
    cases clients.clntp with
    | none => exact .crash _
    | some current => exact .modify _
  | copy => exact .modify _
  | later => exact .modify _

/-- A run of a call with all that is done with its client. -/
theorem carryOut_path {procedure : Call} {next : Option (Event EnvAns)} {clients clients' : Clients}
    {segment : ClientTrace} {outcome : RpcOutcome procedure.Body}
    (hpath : ((carryOut procedure next).run clients).Path segment (.done outcome clients')) :
    ∃ client called, clients.loaded procedure = some client ∧
      ((hsiNfs3ClntCall procedure 5 client).run clients).Path segment (.done outcome called) ∧
      ((release (releaseOf procedure.freeing outcome next) client).run called).Path []
        (.done () clients') := by
  rw [carryOut, Program.get_bind] at hpath
  cases hloaded : clients.loaded procedure with
  | none =>
    rw [hloaded] at hpath
    cases hpath.2
  | some client =>
    rw [hloaded] at hpath
    obtain ⟨outcome', called, front, rest, hcall, hrest, rfl⟩ := Program.path_bind_done.mp hpath
    obtain ⟨_, released, front', rest', hrelease, ⟨rfl, heq⟩, rfl⟩ :=
      Program.path_bind_done.mp hrest
    cases heq
    obtain rfl := (emits_release _ client).trace_eq_nil hrelease
    exact ⟨client, called, rfl, by simpa using hcall, hrelease⟩

theorem advances_carryOut {procedure : Call} {next : Option (Event EnvAns)}
    {clients clients' : Clients} {segment : ClientTrace} {outcome : RpcOutcome procedure.Body}
    (hpath : ((carryOut procedure next).run clients).Path segment (.done outcome clients')) :
    Advances clients clients' := by
  obtain ⟨client, called, -, hcall, hrelease⟩ := carryOut_path hpath
  exact IsTrans.trans _ _ _ (advances_hsiNfs3ClntCall procedure 5 client _ _ _ _ hcall)
    (advances_release _ client _ _ _ _ hrelease)

/-- A client that is not live has been used, or is bound to be: by the next request, at the end of
this one, or by a `SETACL` that is still to come. -/
inductive Doomed (rest : List Carried) (clients : Clients) : Prop where
  | used (h : ¬ clients.pool.Clean)
  | lost (h : clients.Lost)
  | saved {client : ℕ} (hmem : client ∈ clients.saved) (hdead : clients.pool.Dead client)
  | aclSaved {client : ℕ} {later : Carried} (hmem : later ∈ rest)
    (hlater : isSetacl later.event = true)
      (hsaved : clients.aclSaved = some client) (hdead : clients.pool.Dead client)

theorem advances_carriedOut {clients clients' : Clients} {carried : Carried}
    {next : Option (Event EnvAns)} (h : CarriedOut clients carried next clients') :
    Advances clients clients' := by
  obtain ⟨⟨op, answer⟩, segment⟩ := carried
  cases op with
  | call procedure => exact advances_carryOut h
  | malloc site =>
    rw [h.2]
    exact Std.Refl.refl _
  | host question =>
    rw [h.2]
    exact Std.Refl.refl _

theorem Lost.advances {clients clients' : Clients} (h : clients.Lost)
    (hadvances : Advances clients clients') (rest : List Carried) : Doomed rest clients' := by
  by_cases hclean : clients'.pool.Clean
  · obtain ⟨service, client, hpointer, hdead⟩ := h
    exact .lost ⟨service, client, hadvances.pointer service client hpointer hdead hclean,
      hadvances.grows.dead client hdead⟩
  · exact .used hclean

theorem Doomed.step {clients clients' : Clients} {carried : Carried} {rest : List Carried}
    {next : Option (Event EnvAns)} (h : Doomed (carried :: rest) clients)
    (hstep : CarriedOut clients carried next clients') : Doomed rest clients' := by
  have hadvances := advances_carriedOut hstep
  by_cases hclean : clients'.pool.Clean
  case neg => exact .used hclean
  cases h with
  | used h => exact absurd (hadvances.grows.clean hclean) h
  | lost h => exact h.advances hadvances rest
  | saved hmem hdead => exact .saved (hadvances.saved_subset hmem) (hadvances.grows.dead _ hdead)
  | @aclSaved client later hmem hlater hsaved hdead =>
    rcases List.mem_cons.mp hmem with rfl | hmem
    · -- the call itself uses the copy
      obtain ⟨⟨op, answer⟩, segment⟩ := later
      cases op with
      | call procedure =>
        cases procedure with
        | setacl fh acl =>
          obtain ⟨client', called, hloaded, hcall, hrelease⟩ := carryOut_path hstep
          obtain rfl : client = client' := Option.some.inj (hsaved.symm.trans hloaded)
          have hreleased := advances_release _ client _ _ _ _ hrelease
          exact absurd (hsiNfs3ClntCall_clean hcall (hreleased.grows.clean hclean)) hdead.2
        | _ => cases hlater
      | _ => cases hlater
    · exact .aclSaved hmem hlater (hadvances.aclSaved_eq.trans hsaved)
        (hadvances.grows.dead _ hdead)

theorem Doomed.not_live {clients clients' : Clients} {carried : List Carried}
    (h : Doomed carried clients) (hcarries : Carries clients carried clients') :
    ¬ clients'.Live := by
  induction carried generalizing clients with
  | cons first rest ih =>
    obtain ⟨middle, hstep, hrest⟩ := hcarries
    exact ih (h.step hstep) hrest
  | nil =>
    obtain rfl := hcarries
    intro hlive
    obtain ⟨hclean, hsaved⟩ := Pool.clean_useAll_iff.mp hlive.clean
    cases h with
    | used h => exact h hclean
    | saved hmem hdead => exact hdead.2 (hsaved _ hmem)
    | aclSaved hmem => cases hmem
    | lost h =>
      obtain ⟨service, client, hpointer, -, hdead⟩ := h
      have hstill : ∀ client ∈ clients.ended.pool.live, client ∈ clients.pool.live := by
        intro client hmem
        rwa [ended, Pool.useAll_live] at hmem
      cases service with
      | acl => exact hdead (hstill _ (hlive.aclClntp_live client hpointer))
      | nfs =>
        obtain ⟨clntp, hmem, heq⟩ := hlive.clntp_live
        cases heq.symm.trans hpointer
        exact hdead (hstill _ hmem)

/-- Within a request: the copies that are still to be used are those in the superblock. -/
structure Holds (held : Bool) (rest : List Carried) (clients : Clients) : Prop where
  ready : clients.Ready
  saved_eq : ∀ client ∈ clients.saved, clients.clntp = some client
  held_iff : held = true ↔ clients.saved ≠ []
  aclSaved_eq : (∃ later ∈ rest, isSetacl later.event = true) → clients.aclSaved = clients.aclClntp

theorem Ready.entered {clients : Clients} (h : clients.Ready) (rest : List Carried) :
    Holds false rest clients.entered :=
  ⟨⟨⟨h.clean, h.clntp_live, h.aclClntp_live⟩, h.bounded, h.aclClntp_ne⟩, nofun,
    iff_of_false nofun fun hne ↦ hne rfl, fun _ ↦ rfl⟩

theorem Holds.ended {held : Bool} {clients : Clients} (h : Holds held [] clients) :
    clients.ended.Ready := by
  have hlive : ∀ client ∈ clients.saved, client ∈ clients.pool.live := by
    intro client hmem
    have hpointer : clients.pointer .nfs = some client := h.saved_eq client hmem
    exact h.ready.pointer_live hpointer
  have hpool : clients.ended.pool.live = clients.pool.live := Pool.useAll_live _ _ _
  refine ⟨⟨Pool.clean_useAll_iff.mpr ⟨h.ready.clean, hlive⟩, ?_, ?_⟩, ?_, h.ready.aclClntp_ne⟩
  · rw [hpool]
    exact h.ready.clntp_live
  · rw [hpool]
    exact h.ready.aclClntp_live
  · intro client hmem
    rw [hpool] at hmem
    exact (h.ready.bounded client hmem).trans_eq (Pool.useAll_created _ _ _).symm

/-- The client with which a procedure calls is the one in the superblock. -/
theorem Holds.loaded_eq {held : Bool} {rest : List Carried} {clients : Clients} {procedure : Call}
    {outcome : RpcOutcome procedure.Body} {segment : ClientTrace}
    (h : Holds held (⟨⟨.call procedure, outcome⟩, segment⟩ :: rest) clients) :
    clients.loaded procedure = clients.pointer procedure.service := by
  cases procedure with
  | setacl fh acl => exact h.aclSaved_eq ⟨_, List.mem_cons_self, rfl⟩
  | _ => rfl

/-- The release of a client that is live. -/
theorem Ready.release {clients clients' : Clients} {kind : Release} {client : ℕ} (h : clients.Ready)
    (hlive : kind.usesCopy = true → client ∈ clients.pool.live)
    (hpath : ((release kind client).run clients).Path [] (.done () clients')) :
    clients'.Ready ∧ (∀ service, clients'.pointer service = clients.pointer service) ∧
      clients'.aclSaved = clients.aclSaved ∧
      clients'.saved = if kind = .later then client :: clients.saved else clients.saved := by
  cases kind with
  | nothing =>
    cases hpath.2
    exact ⟨h, fun _ ↦ rfl, rfl, rfl⟩
  | copy =>
    cases hpath.2
    exact ⟨h.use _ (hlive rfl), fun _ ↦ setPool_pointer _ _ _, rfl, rfl⟩
  | later =>
    cases hpath.2
    refine ⟨⟨⟨h.clean, h.clntp_live, h.aclClntp_live⟩, h.bounded, h.aclClntp_ne⟩,
      fun service ↦ ?_, rfl, rfl⟩
    cases service <;> rfl
  | current =>
    obtain ⟨clntp, hmem, heq⟩ := h.clntp_live
    rw [Clients.release, Program.get_bind, heq] at hpath
    cases hpath.2
    exact ⟨h.use _ hmem, fun _ ↦ setPool_pointer _ _ _, rfl, rfl⟩

/-- The release of a copy that is dead. -/
theorem doomed_release {clients clients' : Clients} {kind : Release} {client : ℕ}
    {rest : List Carried} (hdead : clients.pool.Dead client) (hcopy : kind.usesCopy = true)
    (hpath : ((release kind client).run clients).Path [] (.done () clients')) :
    Doomed rest clients' := by
  cases kind with
  | nothing => cases hcopy
  | current => cases hcopy
  | copy =>
    cases hpath.2
    exact .used fun hclean ↦ hdead.2 (Pool.clean_use_iff.mp hclean).2
  | later =>
    cases hpath.2
    exact .saved List.mem_cons_self hdead

section Call

variable {held : Bool} {rest : List Carried} {clients called clients' : Clients} {procedure : Call}
  {outcome : RpcOutcome procedure.Body} {segment : ClientTrace} {client : ℕ}
  {next : Option (Event EnvAns)}

theorem not_freedLater (h : (releaseOf procedure.freeing outcome next).usesCopy = false) :
    releaseOf procedure.freeing outcome next ≠ .later ∧
      freedLater ⟨.call procedure, outcome⟩ = false := by
  have hne : releaseOf procedure.freeing outcome next ≠ .later := by
    intro heq
    rw [heq] at h
    cases h
  exact ⟨hne, Bool.eq_false_iff.mpr fun hlater ↦ hne (releaseOf_later_iff.mpr hlater)⟩

/-- A call that keeps its client. -/
theorem Holds.kept (h : Holds held (⟨⟨.call procedure, outcome⟩, segment⟩ :: rest) clients)
    (hpointer : clients.pointer procedure.service = some client)
    (hcalled : Called procedure.service clients called)
    (hpointer' : called.pointer procedure.service = some client)
    (hrelease : ((release (releaseOf procedure.freeing outcome next) client).run called).Path []
      (.done () clients')) :
    Holds (held || freedLater ⟨.call procedure, outcome⟩) rest clients' := by
  obtain ⟨hready, hpointers, haclSaved, hsaved⟩ :=
    hcalled.ready.release (fun _ ↦ hcalled.ready.pointer_live hpointer') hrelease
  have hsame : ∀ service, clients'.pointer service = clients.pointer service := by
    intro service
    rw [hpointers service]
    rcases eq_or_ne service procedure.service with rfl | hne
    · exact hpointer'.trans hpointer.symm
    · exact hcalled.pointer_eq service hne
  have hclntp : clients'.clntp = clients.clntp := hsame .nfs
  have hacl : clients'.aclClntp = clients.aclClntp := hsame .acl
  rw [hcalled.saved_eq] at hsaved
  refine ⟨hready, ?_, ?_, fun ⟨later, hmem, hlater⟩ ↦ ?_⟩
  · rw [hsaved, hclntp]
    split_ifs with hlater
    · rw [service_of_freedLater (releaseOf_later_iff.mp hlater)] at hpointer
      exact List.forall_mem_cons.mpr ⟨hpointer, h.saved_eq⟩
    · exact h.saved_eq
  · rw [hsaved]
    split_ifs with hlater
    · rw [releaseOf_later_iff.mp hlater, Bool.or_true]
      exact iff_of_true rfl (List.cons_ne_nil _ _)
    · rw [Bool.eq_false_iff.mpr (hlater ∘ releaseOf_later_iff.mpr), Bool.or_false]
      exact h.held_iff
  · rw [hacl, haclSaved, hcalled.aclSaved_eq]
    exact h.aclSaved_eq ⟨later, List.mem_cons_of_mem _ hmem, hlater⟩

/-- A call whose client is replaced, and whose copy is not used any more. -/
theorem Holds.replaced (h : Holds held (⟨⟨.call procedure, outcome⟩, segment⟩ :: rest) clients)
    (hcalled : Called procedure.service clients called)
    (hcopy : (releaseOf procedure.freeing outcome next).usesCopy = false)
    (henclosed : NotEnclosed held rest procedure.service)
    (hrelease : ((release (releaseOf procedure.freeing outcome next) client).run called).Path []
      (.done () clients')) :
    Holds (held || freedLater ⟨.call procedure, outcome⟩) rest clients' := by
  obtain ⟨hready, hpointers, haclSaved, hsaved⟩ :=
    hcalled.ready.release (fun hcopy' ↦ absurd (hcopy'.symm.trans hcopy) nofun) hrelease
  obtain ⟨hlater, hfreed⟩ := not_freedLater hcopy
  rw [if_neg hlater, hcalled.saved_eq] at hsaved
  rw [hfreed, Bool.or_false]
  cases hservice : procedure.service with
  | nfs =>
    rw [hservice] at henclosed hcalled
    have hnil : clients.saved = [] := by
      by_contra hne
      exact absurd ((h.held_iff.mpr hne).symm.trans henclosed) nofun
    refine ⟨hready, ?_, ?_, fun ⟨later, hmem, hlater⟩ ↦ ?_⟩
    · rw [hsaved, hnil]
      nofun
    · rw [hsaved]
      exact h.held_iff
    · have hacl : clients'.aclClntp = clients.aclClntp :=
        (hpointers .acl).trans (hcalled.pointer_eq .acl nofun)
      rw [hacl, haclSaved, hcalled.aclSaved_eq]
      exact h.aclSaved_eq ⟨later, List.mem_cons_of_mem _ hmem, hlater⟩
  | acl =>
    rw [hservice] at henclosed hcalled
    have hclntp : clients'.clntp = clients.clntp :=
      (hpointers .nfs).trans (hcalled.pointer_eq .nfs nofun)
    refine ⟨hready, ?_, ?_, fun ⟨later, hmem, hlater⟩ ↦ ?_⟩
    · rw [hsaved, hclntp]
      exact h.saved_eq
    · rw [hsaved]
      exact h.held_iff
    · exact absurd (hlater.symm.trans (henclosed later hmem)) nofun

/-- A call whose client is replaced although an enclosing procedure has a copy. -/
theorem Holds.stale (h : Holds held (⟨⟨.call procedure, outcome⟩, segment⟩ :: rest) clients)
    (hpointer : clients.pointer procedure.service = some client)
    (hsaved : clients'.saved ⊇ clients.saved) (haclSaved : clients'.aclSaved = clients.aclSaved)
    (hdead : clients'.pool.Dead client) (henclosed : ¬ NotEnclosed held rest procedure.service) :
    Doomed rest clients' := by
  cases hservice : procedure.service with
  | nfs =>
    rw [hservice] at henclosed hpointer
    obtain ⟨other, hmem⟩ :=
      List.exists_mem_of_ne_nil _ (h.held_iff.mp (Bool.not_eq_false _ ▸ henclosed))
    obtain rfl : other = client := Option.some.inj ((h.saved_eq other hmem).symm.trans hpointer)
    exact .saved (hsaved hmem) hdead
  | acl =>
    rw [hservice] at henclosed hpointer
    obtain ⟨later, hmem, hlater⟩ : ∃ later ∈ rest, isSetacl later.event = true := by
      by_contra hnone
      exact henclosed fun later hmem ↦ Bool.eq_false_iff.mpr fun hlater ↦
        hnone ⟨later, hmem, hlater⟩
    have hcopy := h.aclSaved_eq ⟨later, List.mem_cons_of_mem _ hmem, hlater⟩
    exact .aclSaved hmem hlater (haclSaved.trans (hcopy.trans hpointer)) hdead

/-- One call: the condition says whether all copies that are still to be used stay live. -/
theorem Holds.call (h : Holds held (⟨⟨.call procedure, outcome⟩, segment⟩ :: rest) clients)
    (hpath : ((carryOut procedure (rest.head?.map Carried.event)).run clients).Path segment
      (.done outcome clients')) :
    (CopyKept held ⟨⟨.call procedure, outcome⟩, segment⟩ rest ∧
      Holds (held || freedLater ⟨.call procedure, outcome⟩) rest clients') ∨
    (¬ CopyKept held ⟨⟨.call procedure, outcome⟩, segment⟩ rest ∧ Doomed rest clients') := by
  obtain ⟨client, called, hloaded, hcall, hrelease⟩ := carryOut_path hpath
  have hpointer : clients.pointer procedure.service = some client := h.loaded_eq ▸ hloaded
  have hreleased := advances_release _ client _ _ _ _ hrelease
  cases hsiNfs3ClntCall_effect h.ready hpointer hcall with
  | lost hloss hlost =>
    exact .inr ⟨fun hkept ↦ absurd (hloss.symm.trans hkept.1) nofun, hlost.advances hreleased rest⟩
  | kept hloss hreconnect hcalled hpointer' =>
    exact .inl ⟨⟨hloss, fun hne ↦ absurd (hne.symm.trans hreconnect) nofun⟩,
      h.kept hpointer hcalled hpointer' hrelease⟩
  | replaced hloss hreconnect hcalled hdead =>
    by_cases hcopy :
        (releaseOf procedure.freeing outcome (rest.head?.map Carried.event)).usesCopy = true
    · refine .inr ⟨fun hkept ↦ ?_, doomed_release hdead hcopy hrelease⟩
      exact absurd (hcopy.symm.trans (hkept.2 hreconnect).1) nofun
    · rw [Bool.not_eq_true] at hcopy
      by_cases henclosed : NotEnclosed held rest procedure.service
      · exact .inl ⟨⟨hloss, fun _ ↦ ⟨hcopy, henclosed⟩⟩,
          h.replaced hcalled hcopy henclosed hrelease⟩
      · refine .inr ⟨fun hkept ↦ henclosed (hkept.2 hreconnect).2, h.stale hpointer ?_ ?_
          (hreleased.grows.dead _ hdead) henclosed⟩
        · exact hcalled.saved_eq ▸ hreleased.saved_subset
        · exact hreleased.aclSaved_eq.trans hcalled.aclSaved_eq

end Call

/-- One event of a request. -/
theorem Holds.step {held : Bool} {carried : Carried} {rest : List Carried}
    {clients clients' : Clients} (h : Holds held (carried :: rest) clients)
    (hstep : CarriedOut clients carried (rest.head?.map Carried.event) clients') :
    (CopyKept held carried rest ∧ Holds (held || freedLater carried.event) rest clients') ∨
    (¬ CopyKept held carried rest ∧ Doomed rest clients') := by
  obtain ⟨⟨op, answer⟩, segment⟩ := carried
  have hidle : freedLater ⟨op, answer⟩ = false → segment = [] → clients' = clients →
      CopyKept held ⟨⟨op, answer⟩, segment⟩ rest ∧
        Holds (held || freedLater ⟨op, answer⟩) rest clients' := by
    rintro hfreed rfl rfl
    refine ⟨⟨rfl, nofun⟩, h.ready, h.saved_eq, ?_, fun ⟨later, hmem, hlater⟩ ↦ ?_⟩
    · rw [hfreed, Bool.or_false]
      exact h.held_iff
    · exact h.aclSaved_eq ⟨later, List.mem_cons_of_mem _ hmem, hlater⟩
  cases op with
  | call procedure => exact h.call hstep
  | malloc site => exact .inl (hidle rfl hstep.1 hstep.2)
  | host question => exact .inl (hidle rfl hstep.1 hstep.2)

/-- A whole request: its clients are live afterwards exactly if the condition holds. -/
theorem Holds.carries {held : Bool} {carried : List Carried} {clients clients' : Clients}
    (h : Holds held carried clients) (hcarries : Carries clients carried clients') :
    (CopiesKept held carried ∧ clients'.Ready) ∨ (¬ CopiesKept held carried ∧ ¬ clients'.Live) := by
  induction carried generalizing held clients with
  | nil =>
    obtain rfl := hcarries
    exact .inl ⟨trivial, h.ended⟩
  | cons first rest ih =>
    obtain ⟨middle, hstep, hrest⟩ := hcarries
    rcases h.step hstep with ⟨hkept, hholds⟩ | ⟨hkept, hdoomed⟩
    · rcases ih hholds hrest with ⟨hrestKept, hready⟩ | ⟨hrestKept, hlive⟩
      · exact .inl ⟨⟨hkept, hrestKept⟩, hready⟩
      · exact .inr ⟨fun hall ↦ hrestKept hall.2, hlive⟩
    · exact .inr ⟨fun hall ↦ hkept hall.1, hdoomed.not_live hrest⟩

end Clients

/-! ## Runs -/

/-- In every run of requests, all clients that are used are live and the superblock points to live
clients between the requests, exactly if no reconnection fails and none replaces a client of which a
copy is still used. -/
theorem clients_live_iff {plat : Platform} {daemon : Daemon} {clients : Clients}
    {trail : List ClientMoment} {last : Daemon × Clients} (hready : clients.Ready)
    (hrun : Run (ClientStep plat) (daemon, clients) trail last) :
    (∀ moment ∈ trail, moment.after.Live) ↔ ∀ moment ∈ trail, CopiesKept false moment.carried := by
  let holds (trail : List ClientMoment) (config : Daemon × Clients) : Prop :=
    ((∀ moment ∈ trail, moment.after.Live) ↔ ∀ moment ∈ trail, CopiesKept false moment.carried) ∧
      ((∀ moment ∈ trail, CopiesKept false moment.carried) → config.2.Ready)
  have hinitial : holds [] (daemon, clients) := ⟨iff_of_true nofun nofun, fun _ ↦ hready⟩
  have hlast : holds trail last := by
    refine hrun.invariant hinitial ?_
    rintro trail _ _ _ ⟨hiff, hready⟩ ⟨hpath, hcarries⟩
    simp only [holds, List.forall_mem_append, List.forall_mem_singleton]
    constructor
    · rw [hiff]
      refine and_congr_right fun hkept ↦ ?_
      rcases ((hready hkept).entered _).carries hcarries with ⟨hkept', hready'⟩ | ⟨hkept', hlive'⟩
      · exact iff_of_true hready'.toLive hkept'
      · exact iff_of_false hlive' hkept'
    · rintro ⟨hkept, hkept'⟩
      rcases ((hready hkept).entered _).carries hcarries with ⟨-, hready'⟩ | ⟨hne, -⟩
      · exact hready'
      · exact absurd hkept' hne
  exact hlast.1

/-- The clients after a mount of a server that has access control lists. -/
def mountedClients : Clients := ⟨⟨2, [1, 0], []⟩, some 0, some 1, [], none⟩

theorem ready_mountedClients : mountedClients.Ready := by
  have hbounded : ∀ client ∈ mountedClients.pool.live, client < 2 := by decide
  refine ⟨⟨nofun, ⟨0, by decide, rfl⟩, ?_⟩, hbounded, nofun⟩
  rintro _ ⟨rfl⟩
  exact List.mem_cons_self

/-- A call that finds its connection reset and succeeds with a new client. -/
def resent (procedure : Call) (res : NfsRes procedure.Body) : Carried :=
  ⟨⟨.call procedure, RpcOutcome.done res⟩,
    [⟨.clntCall 0 procedure, none⟩, ⟨.clntGeterr 0, econnreset⟩, ⟨.openclnt .nfs, true⟩,
      ⟨.ping 2, (0 : ℤ)⟩, ⟨.clntCall 2 procedure, some res⟩]⟩

/-- `hsi_nfs3_getattr` frees the result with the new client. -/
theorem clients_live_getattr : ∃ moment last,
    Run (ClientStep linuxHost) (smallChunks, mountedClients) [moment] last ∧
    moment.carried = [resent (.getattr [7]) (.ok plainAttr)] ∧ moment.after.Live := by
  obtain ⟨daemon', hpath⟩ : ∃ daemon', ((handle linuxHost 0 (.getattr 2)).run smallChunks).Path
      [⟨.call (.getattr [7]), RpcOutcome.done (.ok plainAttr)⟩] (.done () daemon') :=
    ⟨_, _, _, rfl, rfl, rfl⟩
  obtain ⟨clients', hcarries⟩ : ∃ clients',
      Carries mountedClients.entered [resent (.getattr [7]) (.ok plainAttr)] clients' :=
    ⟨_, _, ⟨_, _, rfl, _, _, rfl, _, _, rfl, _, _, rfl, _, _, rfl, rfl, rfl⟩, rfl⟩
  have hrun : Run (ClientStep linuxHost) (smallChunks, mountedClients) _ _ :=
    Run.nil.snoc (.mk hpath hcarries)
  refine ⟨_, _, hrun, rfl, (clients_live_iff ready_mountedClients hrun).mpr ?_ _
    (List.mem_singleton_self _)⟩
  rintro _ hmem
  cases List.mem_singleton.mp hmem
  exact ⟨⟨rfl, fun _ ↦ ⟨rfl, rfl⟩⟩, trivial⟩

/-- `hsi_nfs3_write` frees the result with the client that has been destroyed. -/
theorem write_frees_with_dead_client : ∃ moment last,
    Run (ClientStep linuxHost) (smallChunks, mountedClients) [moment] last ∧
    moment.after.pool.uses.getLast? = some ⟨.clntFreeres, 0, false⟩ ∧ ¬ moment.after.Live := by
  obtain ⟨daemon', hpath⟩ : ∃ daemon',
      ((handle linuxHost 2 (.write 2 [1, 2] 0 false)).run smallChunks).Path
        [⟨.malloc .writeBuf, true⟩, ⟨.call (.write [7] 0 2 0 [1, 2]), RpcOutcome.done (.ok 2)⟩]
        (.done () daemon') :=
    ⟨_, _, _, rfl, _, _, rfl, rfl, rfl⟩
  obtain ⟨clients', hcarries, hlast⟩ : ∃ clients', Carries mountedClients.entered
      [⟨⟨.malloc .writeBuf, true⟩, []⟩, resent (.write [7] 0 2 0 [1, 2]) (.ok 2)] clients' ∧
      clients'.pool.uses.getLast? = some ⟨.clntFreeres, 0, false⟩ :=
    ⟨_, ⟨_, ⟨rfl, rfl⟩, _, ⟨_, _, rfl, _, _, rfl, _, _, rfl, _, _, rfl, _, _, rfl, rfl, rfl⟩, rfl⟩,
      rfl⟩
  have hrun : Run (ClientStep linuxHost) (smallChunks, mountedClients) _ _ :=
    Run.nil.snoc (.mk hpath hcarries)
  refine ⟨_, _, hrun, hlast, fun hlive ↦ ?_⟩
  exact absurd (hlive.clean _ (List.mem_of_getLast? hlast)) nofun

end NfsFuse
