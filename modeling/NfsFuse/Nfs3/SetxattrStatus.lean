import NfsFuse.Nfs3.SetAcl

/-!
# What a status of `setxattr` says

One `NULL` stands for a malformed value, for a value that asks for the removal of the list and for
missing memory, and `hsi_nfs3_setxattr` treats all of them as a removal.  Its early exits leave
the error at 0.  A status therefore says what it should only when the value was decoded, or asks
for the removal, and nothing before `SETACL` went wrong.
-/

namespace NfsFuse

open Lib

/-- The event is a `SETACL` call. -/
def isSetacl : Event EnvAns → Bool
  | ⟨.call (.setacl _ _), _⟩ => true
  | _ => false

/-- The event is a `SETACL` call that succeeded. -/
def isListSet : Event EnvAns → Bool
  | ⟨.call (.setacl _ _), .done (.ok _)⟩ => true
  | _ => false

/-- The values that mean the removal of the list: nothing, and a header without entries. -/
def isRemoval (value : List UInt8) : Bool := value = [] || value = [2, 0, 0, 0]

theorem isRemoval_of_header {value : List UInt8} (h : xattrHeaderOk value = true) :
    isRemoval value = false := by
  by_contra hremoval
  rw [Bool.not_eq_false, isRemoval, Bool.or_eq_true, decide_eq_true_eq,
    decide_eq_true_eq] at hremoval
  rcases hremoval with rfl | rfl
  · exact absurd h (by decide)
  · exact absurd h (by decide)

/-- There was no memory for a list. -/
def listDenied : Event EnvAns := ⟨.malloc .posixAcl, false⟩

/-- `posix_acl_from_xattr` rejects the value in the run: it is malformed, or the run begins with a
failing allocation. -/
def ValueRejected (value : List UInt8) (trace : Trace) : Prop :=
  parseXattr value = none ∨ trace.head? = some listDenied

/-- A status of 0 means that `SETACL` succeeded, and a rejected value is an error and not sent. -/
structure StatusHonest (value : List UInt8) (trace : Trace) (ending : Ending Fault Daemon ℤ) :
    Prop where
  success : ∀ daemon, ending = .done 0 daemon → ∃ event ∈ trace, isListSet event = true
  rejection : ValueRejected value trace → isRemoval value = false →
    (∀ event ∈ trace, isSetacl event = false) ∧ ∃ err daemon, err ≠ 0 ∧ ending = .done err daemon

/-- Every `GETACL` succeeded, and there was memory for every list. -/
def ListsAvailable (trace : Trace) : Prop := ¬ GetaclFails trace ∧ listDenied ∉ trace

theorem listsAvailable_append (front back : Trace) :
    ListsAvailable (front ++ back) ↔ ListsAvailable front ∧ ListsAvailable back := by
  simp only [ListsAvailable, GetaclFails, List.filterMap_append, List.mem_append, or_and_right,
    exists_or, not_or]
  tauto

theorem not_listsAvailable_append {back : Trace} (front : Trace) (h : ¬ ListsAvailable back) :
    ¬ ListsAvailable (front ++ back) :=
  fun havailable ↦ h ((listsAvailable_append front back).mp havailable).2

/-- What lets `hsi_nfs3_setxattr` get as far as `SETACL`: the file has a list of the type, and the
lists are available. -/
def SetxattrUnblocked (mode : UInt32) (type : AclType) (trace : Trace) : Prop :=
  (sIsdir mode = true ∨ type = .access) ∧ ListsAvailable trace

/-- The part of `hsi_nfs3_setxattr` behind the decoding of the value. -/
def setxattrDecoded (index : ℕ) (type : AclType) (mode : UInt32) (acl : Option PosixAcl) :
    Prog ℤ := do
  if sIsdir mode then
    let (err, other) ← hsiNfs3Getxattr index (setxattrMask mode type) type
    if err ≠ 0 then
      return 0
    else
      match type with
      | .access => setxattrLists index acl other
      | .default => setxattrLists index other acl
  else if type = .access then
    setxattrLists index acl none
  else
    return 0

/-- The run sends `SETACL` and returns its status, or has no memory for its arguments. -/
def SetaclTried (trace : Trace) (ending : Ending Fault Daemon ℤ) : Prop :=
  (∃ daemon, ending = .crashed .undefined daemon) ∨
    ∃ fh args outcome daemon, (⟨.call (.setacl fh args), outcome⟩ : Event EnvAns) ∈ trace ∧
      ending = .done (statusOf outcome) daemon

theorem SetaclTried.append {trace : Trace} {ending : Ending Fault Daemon ℤ} (front : Trace)
    (h : SetaclTried trace ending) : SetaclTried (front ++ trace) ending := by
  rcases h with hcrash | ⟨fh, args, outcome, daemon, hmem, heq⟩
  · exact Or.inl hcrash
  · exact Or.inr ⟨fh, args, outcome, daemon, List.mem_append_right front hmem, heq⟩

/-- Copies are neither calls nor lists. -/
theorem listsAvailable_copies {front : Trace} (h : ∀ event ∈ front, event.op.isCopy = true) :
    ListsAvailable front := by
  constructor
  · rintro ⟨status, hmem, -⟩
    rw [(copies_quiet h).2.1] at hmem
    cases hmem
  · intro hmem
    cases h _ hmem

theorem setxattrLists_outcome {index : ℕ} {first dfacl : Option PosixAcl} {daemon : Daemon}
    {trace : Trace} {ending : Ending Fault Daemon ℤ}
    (hpath : ((setxattrLists index first dfacl).run daemon).Path trace ending) :
    (¬ ListsAvailable trace ∧ (∀ event ∈ trace, isSetacl event = false) ∧
        ending = .done 0 daemon) ∨
      (ListsAvailable trace ∧ SetaclTried trace ending) := by
  rcases setxattrLists_path hpath with ⟨-, rfl, rfl⟩ | ⟨memory, front, hmemory, hcopies, htried⟩
  · exact Or.inl ⟨fun h ↦ h.2 List.mem_cons_self, by simp [isSetacl], rfl⟩
  · have hfirst : ListsAvailable memory := by
      rw [hmemory]
      split_ifs with hnone
      · exact ⟨by simp [GetaclFails, getaclStatus], by simp [listDenied]⟩
      · exact ⟨by simp [GetaclFails], by simp⟩
    have hfront := listsAvailable_copies hcopies
    rcases htried with ⟨rfl, -, rfl⟩ | ⟨fh, args, outcome, -, rfl, rfl⟩
    · exact Or.inr ⟨(listsAvailable_append _ _).mpr ⟨hfirst, hfront⟩, Or.inl ⟨daemon, rfl⟩⟩
    · have hlast : ListsAvailable [⟨.call (.setacl fh args), outcome⟩] :=
        ⟨by simp [GetaclFails, getaclStatus], by simp [listDenied]⟩
      refine Or.inr ⟨?_, Or.inr ⟨fh, args, outcome, daemon, by simp, rfl⟩⟩
      simp only [listsAvailable_append]
      exact ⟨hfirst, hfront, hlast⟩

/-- What the part behind the decoding does: it returns 0 early and sends nothing, or it tries. -/
theorem setxattrDecoded_outcome {index : ℕ} {type : AclType} {acl : Option PosixAcl} {mode : UInt32}
    {daemon : Daemon} (hclient : daemon.sb.aclClntp ≠ none) {trace : Trace}
    {ending : Ending Fault Daemon ℤ}
    (hpath : ((setxattrDecoded index type mode acl).run daemon).Path trace ending) :
    (¬ SetxattrUnblocked mode type trace ∧ (∀ event ∈ trace, isSetacl event = false) ∧
        ending = .done 0 daemon) ∨
      (SetxattrUnblocked mode type trace ∧ SetaclTried trace ending) := by
  unfold setxattrDecoded at hpath
  by_cases hdir : sIsdir mode = true
  · rw [if_pos hdir] at hpath
    rw [SetxattrUnblocked, and_iff_right (Or.inl hdir)]
    rcases Program.path_bind.mp hpath with ⟨⟨err, other⟩, daemon₁, front, back, hget, hback, rfl⟩ |
      ⟨reason, daemon₁, hget, -⟩
    · obtain ⟨err', other', heq, fh, outcome, rest, rfl, hcases⟩ :=
        hsiNfs3Getxattr_path hclient hget
      cases heq
      dsimp only at hback
      rcases hcases with ⟨hstatus, herr, rfl⟩ |
        ⟨reply, granted, rfl, rfl, ⟨rfl, herr⟩ | ⟨rfl, rfl, -⟩⟩
      · rw [if_pos herr] at hback
        obtain ⟨rfl, rfl⟩ := hback
        refine Or.inl ⟨fun h ↦ h.1 ⟨_, ?_, hstatus⟩, by simp [isSetacl], rfl⟩
        exact List.mem_cons_self
      · rw [if_pos herr] at hback
        obtain ⟨rfl, rfl⟩ := hback
        refine Or.inl ⟨fun h ↦ h.2 ?_, by simp [isSetacl], rfl⟩
        exact List.mem_cons_of_mem _ List.mem_cons_self
      · rw [if_neg (by simp)] at hback
        have hlists : ∃ first dfacl,
            ((setxattrLists index first dfacl).run daemon).Path back ending := by
          cases type with
          | access => exact ⟨_, _, hback⟩
          | default => exact ⟨_, _, hback⟩
        obtain ⟨first, dfacl, hsent⟩ := hlists
        rcases setxattrLists_outcome hsent with ⟨hmissing, hunsent, rfl⟩ | ⟨havailable, htried⟩
        · refine Or.inl ⟨not_listsAvailable_append _ hmissing, ?_, rfl⟩
          simpa [isSetacl] using hunsent
        · refine Or.inr ⟨(listsAvailable_append _ _).mpr ⟨⟨?_, ?_⟩, havailable⟩, htried.append _⟩
          · simp [GetaclFails, getaclStatus, statusOf]
          · simp [listDenied]
    · obtain ⟨err, other, heq, -⟩ := hsiNfs3Getxattr_path hclient hget
      cases heq
  · rw [if_neg hdir] at hpath
    cases type with
    | access =>
      rw [if_pos rfl] at hpath
      rw [SetxattrUnblocked, and_iff_right (Or.inr rfl)]
      exact setxattrLists_outcome hpath
    | default =>
      rw [if_neg (by decide)] at hpath
      obtain ⟨rfl, rfl⟩ := hpath
      exact Or.inl ⟨fun h ↦ h.1.elim hdir (by decide), by simp, rfl⟩

/-- A run that tried says the truth about a value that was not rejected. -/
theorem statusHonest_tried {value : List UInt8} {trace : Trace} {ending : Ending Fault Daemon ℤ}
    (htried : SetaclTried trace ending) :
    StatusHonest value trace ending ↔ (ValueRejected value trace → isRemoval value = true) := by
  constructor
  · intro hhonest hrejected
    by_contra hremoval
    obtain ⟨hunsent, err, daemon', -, hending⟩ :=
      hhonest.rejection hrejected (by simpa using hremoval)
    rcases htried with ⟨daemon, rfl⟩ | ⟨fh, args, outcome, daemon, hmem, -⟩
    · cases hending
    · cases hunsent _ hmem
  · intro haccepted
    refine ⟨fun daemon hending ↦ ?_, fun hrejected hremoval ↦ ?_⟩
    · rcases htried with ⟨daemon', rfl⟩ | ⟨fh, args, outcome, daemon', hmem, rfl⟩
      · cases hending
      · obtain ⟨hstatus, -⟩ := Ending.done.inj hending
        obtain ⟨body, rfl⟩ := (statusOf_eq_zero_iff outcome).mp hstatus
        exact ⟨_, hmem, rfl⟩
    · rw [haccepted hrejected] at hremoval
      cases hremoval

/-- **When the status of `setxattr` is honest.** Without a client for the ACL protocol; else
exactly if the value is well formed or a removal and nothing makes the procedure return early. -/
theorem setxattr_honest_iff (index : ℕ) (value : List UInt8) (type : AclType) (daemon : Daemon)
    (trace : Trace) (ending : Ending Fault Daemon ℤ)
    (hpath : ((hsiNfs3Setxattr index value type).run daemon).Path trace ending) :
    StatusHonest value trace ending ↔ daemon.sb.aclClntp = none ∨
      ((parseXattr value ≠ none ∨ isRemoval value = true) ∧
        SetxattrUnblocked (daemon.inode index).iattr.mode type trace) := by
  unfold hsiNfs3Setxattr at hpath
  rw [Prog.getInode_bind, Program.get_bind] at hpath
  by_cases hclient : daemon.sb.aclClntp = none
  · rw [if_pos hclient] at hpath
    obtain ⟨rfl, rfl⟩ := hpath
    refine iff_of_true ⟨fun daemon' hending ↦ ?_, fun _ _ ↦ ?_⟩ (Or.inl hclient)
    · cases hending
    · exact ⟨by simp, _, _, by decide, rfl⟩
  rw [if_neg hclient] at hpath
  rw [or_iff_right hclient]
  change ((posixAclFromXattr value >>= setxattrDecoded index type
    (daemon.inode index).iattr.mode).run
    daemon).Path trace ending at hpath
  obtain ⟨memory, parsed, rest, rfl, hrest, hmemory⟩ := path_posixAclFromXattr_bind' hpath
  have hcalls : ∀ event ∈ memory, isSetacl event = false := by
    rcases hmemory with ⟨rfl, -⟩ | ⟨granted, rfl, -⟩
    · simp
    · simp [isSetacl]
  rcases setxattrDecoded_outcome hclient hrest with ⟨hblocked, hunsent, rfl⟩ | ⟨hunblocked, htried⟩
  · -- The run returns 0 without a `SETACL`.
    refine iff_of_false (fun hhonest ↦ ?_) fun hcondition ↦ hblocked
      ⟨hcondition.2.1, ((listsAvailable_append _ _).mp hcondition.2.2).2⟩
    obtain ⟨event, hmem, hset⟩ := hhonest.success daemon rfl
    have hnot : isSetacl event = false :=
      (List.mem_append.mp hmem).elim (hcalls event) (hunsent event)
    unfold isListSet at hset
    split at hset
    · cases hnot
    · cases hset
  · rw [statusHonest_tried (htried.append memory)]
    obtain ⟨hkind, havailable⟩ := hunblocked
    rw [SetxattrUnblocked, and_iff_right hkind, listsAvailable_append, and_iff_left havailable]
    rcases hmemory with ⟨rfl, -, hnone⟩ | ⟨granted, rfl, hheader, -⟩
    · simp [ValueRejected, hnone, ListsAvailable, GetaclFails]
    · rw [isRemoval_of_header hheader]
      cases granted with
      | false => simp [ValueRejected, ListsAvailable, listDenied]
      | true => simp [ValueRejected, ListsAvailable, listDenied, GetaclFails, getaclStatus]

/-- The access list of the root directory is set, with every answer a success. -/
theorem setxattr_honest_owner :
    StatusHonest ownerValue (setOwnerAccess (ownerAcls 5 1)) (.done 0 aclCache) :=
  (setxattr_honest_iff 0 ownerValue .access aclCache _ _ (setOwnerAccess_path 5 1)).mpr
    (Or.inr ⟨Or.inl (by decide), Or.inl (by decide),
      by simp [GetaclFails, setOwnerAccess, getaclStatus, statusOf],
      by simp [setOwnerAccess, listDenied]⟩)

/-- Setting the access list of the root to a value with a bad version. -/
def setMalformed : Trace :=
  [⟨.call (.getacl [0] 15), .done (.ok ((ownerAcls 5 1).getacl 15))⟩, ⟨.malloc .posixAcl, true⟩,
    ⟨.malloc .posixAcl, true⟩, ⟨.malloc .aclent, true⟩, ⟨.malloc .dfaclent, true⟩,
    ⟨.call (.setacl [0] (sentAcl (modeAcl (aclCache.inode 0).iattr.mode) (some (ownerAcl 5)))),
      .done (.ok ())⟩]

/-- A malformed value replaces the access list, and the status is 0. -/
theorem malformed_value_sent :
    ((hsiNfs3Setxattr 0 [3, 0, 0, 0] .access).run aclCache).Path setMalformed (.done 0 aclCache) ∧
      ¬ StatusHonest [3, 0, 0, 0] setMalformed (.done 0 aclCache) := by
  refine ⟨⟨_, _, rfl, _, _, rfl, _, _, rfl, _, _, rfl, _, _, rfl, _, _, rfl, rfl, rfl⟩, fun h ↦ ?_⟩
  obtain ⟨-, err, daemon, hne, hending⟩ := h.rejection (Or.inl (by decide)) (by decide)
  exact hne (Ending.done.inj hending).1.symm

end NfsFuse
