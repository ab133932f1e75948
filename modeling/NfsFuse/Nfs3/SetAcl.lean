import NfsFuse.Lib.Server
import NfsFuse.Inode.Identity
import NfsFuse.Nfs3.Acl

/-!
# Setting one of two access control lists

The server keeps an access and a default list for a directory.  `hsi_nfs3_setxattr` sets one of
them by a read-modify-write of both, but it reads back the list it is about to set and sends it in
the place of the other.  A successful run therefore does what it should only when the two stored
lists are equal, or when nothing was sent and the list was there before.
-/

namespace NfsFuse

open Lib

/-- The tags of POSIX ACL entries. -/
def validTag (tag : Int16) : Bool :=
  tag = aclUserObj || tag = aclUser || tag = aclGroupObj || tag = aclGroup || tag = aclMask ||
    tag = aclOther

/-- The lists of a directory. -/
structure ServerAcls where
  access : PosixAcl
  default : PosixAcl
  access_valid : ∀ entry ∈ access, validTag entry.eTag = true
  default_valid : ∀ entry ∈ default, validTag entry.eTag = true

/-- The list of a type. -/
def ServerAcls.get (acls : ServerAcls) : AclType → PosixAcl
  | .access => acls.access
  | .default => acls.default

/-- The other type. -/
def AclType.other : AclType → AclType
  | .access => .default
  | .default => .access

/-- An entry of the default list on the wire. -/
def dfaclentOfEntry (entry : PosixAclEntry) : Aclent :=
  ⟨entry.eTag.toInt32 ||| naAclDefault, entry.eId.toInt32, entry.ePerm⟩

/-- The reply to `GETACL`: the lists selected by the mask. -/
def ServerAcls.getacl (acls : ServerAcls) (mask : UInt32) : Secattr where
  mask := mask
  aclcnt := if mask &&& naAclcnt ≠ 0 then acls.access.length else 0
  aclent := if mask &&& naAcl ≠ 0 then acls.access.map aclentOfEntry else []
  dfaclcnt := if mask &&& naDfaclcnt ≠ 0 then acls.default.length else 0
  dfaclent := if mask &&& naDfacl ≠ 0 then acls.default.map dfaclentOfEntry else []

/-- `SETACL` replaces the lists that its mask announces. -/
def ServerAcls.Replaced (acls : ServerAcls) (acl : Secattr) (acls' : ServerAcls) : Prop :=
  acls'.access = (if acl.mask &&& naAcl ≠ 0 then acl.aclent.map entryOfAclent else acls.access) ∧
  acls'.default =
    (if acl.mask &&& naDfacl ≠ 0 then acl.dfaclent.map entryOfDfaclent else acls.default)

/-- A server of the ACL protocol.  A call that the client takes for lost may have been carried
out. -/
def aclServer : Server EnvAns ServerAcls := fun acls event acls' ↦
  match event with
  | ⟨.call (.getacl _ mask), .done (.ok reply)⟩ => reply = acls.getacl mask ∧ acls' = acls
  | ⟨.call (.setacl _ acl), .done (.ok _)⟩ => acls.Replaced acl acls'
  | ⟨.call (.setacl _ acl), .fail _ _⟩ => acls' = acls ∨ acls.Replaced acl acls'
  | _ => acls' = acls

theorem validTag_iff (tag : Int16) : validTag tag = true ↔
    tag ∈ [aclUserObj, aclUser, aclGroupObj, aclGroup, aclMask, aclOther] := by
  simp [validTag, or_assoc]

theorem entryOfAclent_aclentOfEntry (entry : PosixAclEntry) :
    entryOfAclent (aclentOfEntry entry) = entry := by
  simp [entryOfAclent, aclentOfEntry]

/-- A valid tag has no default flag. -/
theorem toInt32_and_not_naAclDefault {tag : Int16} (h : validTag tag = true) :
    (tag.toInt32 &&& ~~~naAclDefault).toInt16 = tag := by
  rw [validTag_iff] at h
  simp only [List.mem_cons, List.not_mem_nil, or_false] at h
  rcases h with rfl | rfl | rfl | rfl | rfl | rfl <;> rfl

theorem toInt32_or_naAclDefault {tag : Int16} (h : validTag tag = true) :
    ((tag.toInt32 ||| naAclDefault) &&& ~~~naAclDefault).toInt16 = tag := by
  rw [validTag_iff] at h
  simp only [List.mem_cons, List.not_mem_nil, or_false] at h
  rcases h with rfl | rfl | rfl | rfl | rfl | rfl <;> rfl

theorem entryOfDfaclent_aclentOfEntry {entry : PosixAclEntry} (h : validTag entry.eTag = true) :
    entryOfDfaclent (aclentOfEntry entry) = entry := by
  simp [entryOfDfaclent, aclentOfEntry, toInt32_and_not_naAclDefault h]

theorem entryOfDfaclent_dfaclentOfEntry {entry : PosixAclEntry} (h : validTag entry.eTag = true) :
    entryOfDfaclent (dfaclentOfEntry entry) = entry := by
  simp [entryOfDfaclent, dfaclentOfEntry, toInt32_or_naAclDefault h]

/-- A list survives the way to the server as an access list. -/
theorem map_entryOfAclent (acl : PosixAcl) : (acl.map aclentOfEntry).map entryOfAclent = acl := by
  simp [entryOfAclent_aclentOfEntry, Function.comp_def]

/-- A valid list survives the way to the server as a default list, without its flags. -/
theorem map_entryOfDfaclent {acl : PosixAcl} (h : ∀ entry ∈ acl, validTag entry.eTag = true) :
    (acl.map aclentOfEntry).map entryOfDfaclent = acl := by
  rw [List.map_map]
  calc acl.map (entryOfDfaclent ∘ aclentOfEntry)
      = acl.map id := List.map_congr_left fun entry hmem ↦ entryOfDfaclent_aclentOfEntry
        (h entry hmem)
    _ = acl := List.map_id acl

/-- The argument of `SETACL` for a directory. -/
def sentAcl (acl : PosixAcl) (dfacl : Option PosixAcl) : Secattr where
  mask := naAcl ||| naDfacl
  aclcnt := acl.length
  aclent := acl.map aclentOfEntry
  dfaclcnt := (dfacl.getD []).length
  dfaclent := (dfacl.getD []).map aclentOfEntry

/-- The question is for memory for a copy of a list. -/
def EnvOp.isCopy : EnvOp → Bool
  | .malloc .aclent => true
  | .malloc .dfaclent => true
  | _ => false

theorem EnvOp.eq_of_isCopy {op : EnvOp} (h : op.isCopy = true) :
    op = .malloc .aclent ∨ op = .malloc .dfaclent := by
  unfold EnvOp.isCopy at h
  split at h
  · exact Or.inl rfl
  · exact Or.inr rfl
  · cases h

/-- A run that begins with the copy of a list: without memory for it the copy is undefined. -/
theorem path_allocAclent_bind {α : Type} {site : MallocSite} {acl : PosixAcl} {daemon : Daemon}
    {trace : Trace} {ending : Ending Fault Daemon α} {next : List Aclent → Prog α}
    (hpath : ((allocAclent site acl >>= next).run daemon).Path trace ending) :
    ∃ granted rest, trace = ⟨.malloc site, granted⟩ :: rest ∧
      ((granted = false ∧ rest = [] ∧ ending = .crashed .undefined daemon) ∨
        ((next (acl.map aclentOfEntry)).run daemon).Path rest ending) := by
  obtain ⟨granted, rest, rfl, hrest⟩ := hpath
  refine ⟨granted, rest, rfl, ?_⟩
  change (((if granted = false ∧ acl ≠ [] then Program.crash .undefined
    else pure (acl.map aclentOfEntry) : Prog (List Aclent)) >>= next).run daemon).Path rest
      ending at hrest
  by_cases hcrash : granted = false ∧ acl ≠ []
  · rw [if_pos hcrash] at hrest
    exact Or.inl ⟨hcrash.1, hrest⟩
  · rw [if_neg hcrash] at hrest
    exact Or.inr hrest

/-- The argument of `SETACL` for a file of some mode. -/
def setaclArgs (mode : UInt32) (acl : PosixAcl) (dfacl : Option PosixAcl) : Secattr :=
  { sentAcl acl dfacl with mask := if sIsdir mode then naAcl ||| naDfacl else naAcl }

theorem setaclArgs_of_dir {mode : UInt32} (hdir : sIsdir mode = true) (acl : PosixAcl)
    (dfacl : Option PosixAcl) : setaclArgs mode acl dfacl = sentAcl acl dfacl := by
  rw [setaclArgs, if_pos hdir]
  rfl

/-- `SETACL` is the last event of the last part, unless there is no memory for a copy. -/
theorem sendSetacl_path {index : ℕ} {acl : PosixAcl} {dfacl : Option PosixAcl} {daemon : Daemon}
    {trace : Trace} {ending : Ending Fault Daemon ℤ}
    (hpath : ((sendSetacl index acl dfacl).run daemon).Path trace ending) :
    ∃ front, (∀ event ∈ front, event.op.isCopy = true) ∧
      ((trace = front ∧ (∃ event ∈ front, ¬ Favourable event) ∧
          ending = .crashed .undefined daemon) ∨
        ∃ fh args outcome, args = setaclArgs (daemon.inode index).iattr.mode acl dfacl ∧
          trace = front ++ [⟨.call (.setacl fh args), outcome⟩] ∧
          ending = .done (statusOf outcome) daemon) := by
  unfold sendSetacl at hpath
  rw [Prog.getInode_bind] at hpath
  obtain ⟨granted, rest, rfl, ⟨rfl, rfl, rfl⟩ | hrest⟩ := path_allocAclent_bind hpath
  · exact ⟨_, List.forall_mem_singleton.mpr rfl, Or.inl ⟨rfl, ⟨_, List.mem_cons_self, id⟩, rfl⟩⟩
  cases dfacl with
  | none =>
    obtain ⟨outcome, rest, rfl, rfl, rfl⟩ := hrest
    exact ⟨[_], List.forall_mem_singleton.mpr rfl, Or.inr ⟨_, _, outcome, rfl, rfl, rfl⟩⟩
  | some dfacl =>
    obtain ⟨granted', rest, rfl, ⟨rfl, rfl, rfl⟩ | hrest⟩ := path_allocAclent_bind hrest
    · exact ⟨[_, _], by simp [EnvOp.isCopy],
        Or.inl ⟨rfl, ⟨_, List.mem_cons_of_mem _ List.mem_cons_self, id⟩, rfl⟩⟩
    · obtain ⟨outcome, rest, rfl, rfl, rfl⟩ := hrest
      exact ⟨[_, _], by simp [EnvOp.isCopy], Or.inr ⟨_, _, outcome, rfl, rfl, rfl⟩⟩

/-! ## When it works -/

/-- The answer to the allocation of a list. -/
def listAnswer : Event EnvAns → Option Bool
  | ⟨.malloc .posixAcl, granted⟩ => some granted
  | _ => none

/-- The status of a `GETACL` call. -/
def getaclStatus : Event EnvAns → Option ℤ
  | ⟨.call (.getacl _ _), outcome⟩ => some (statusOf outcome)
  | _ => none

/-- The status of a `SETACL` call. -/
def setaclStatus : Event EnvAns → Option ℤ
  | ⟨.call (.setacl _ _), outcome⟩ => some (statusOf outcome)
  | _ => none

/-- A `GETACL` call of the run failed. -/
def GetaclFails (trace : Trace) : Prop := ∃ status ∈ trace.filterMap getaclStatus, status ≠ 0

/-- A `SETACL` call of the run failed. -/
def SetaclFails (trace : Trace) : Prop := ∃ status ∈ trace.filterMap setaclStatus, status ≠ 0

/-- The stored lists could not be read, or there was no memory for a list besides the value. -/
def Unsent (trace : Trace) : Prop :=
  GetaclFails trace ∨ false ∈ (trace.filterMap listAnswer).tail

/-- The runs that set one list and leave the other alone: without a client for the ACL protocol,
with nothing sent and the list in place, with `SETACL` refused, or with two equal lists.  Where
there is no memory for the value, the list that stands for the mode has to be the right one. -/
def SetxattrSafe (daemon : Daemon) (index : ℕ) (acls : ServerAcls) (acl : PosixAcl) (type : AclType)
    (trace : Trace) : Prop :=
  daemon.sb.aclClntp = none ∨ (Unsent trace ∧ acls.get type = acl) ∨
    (¬ Unsent trace ∧ (SetaclFails trace ∨ (acls.access = acls.default ∧
      ((trace.filterMap listAnswer).head? = some true ∨
        (type = .access ∧ modeAcl (daemon.inode index).iattr.mode = acl)))))

/-- The result of the run is right: a success means that the list was set and the other kept. -/
def SetxattrRight (ret : ℤ) (acls : ServerAcls) (acl : PosixAcl) (type : AclType)
    (acls' : ServerAcls) : Prop :=
  ret = 0 → acls'.get type = acl ∧ acls'.get type.other = acls.get type.other

/-- Allocating copies says nothing about the calls, and changes nothing on the server. -/
theorem copies_quiet {front : Trace} (h : ∀ event ∈ front, event.op.isCopy = true) :
    front.filterMap listAnswer = [] ∧ front.filterMap getaclStatus = [] ∧
      front.filterMap setaclStatus = [] ∧
      ∀ acls acls', aclServer.Gives acls front acls' → acls' = acls := by
  have hall : ∀ event : Event EnvAns, event.op.isCopy = true → listAnswer event = none ∧
      getaclStatus event = none ∧ setaclStatus event = none ∧
      ∀ acls acls', aclServer acls event acls' → acls' = acls := by
    rintro ⟨op, answer⟩ hcopy
    rcases EnvOp.eq_of_isCopy hcopy with rfl | rfl
    · exact ⟨rfl, rfl, rfl, fun _ _ hstep ↦ hstep⟩
    · exact ⟨rfl, rfl, rfl, fun _ _ hstep ↦ hstep⟩
  refine ⟨?_, ?_, ?_, fun acls acls' hgives ↦ ?_⟩
  · exact List.filterMap_eq_nil_iff.mpr fun event hmem ↦ (hall event (h event hmem)).1
  · exact List.filterMap_eq_nil_iff.mpr fun event hmem ↦ (hall event (h event hmem)).2.1
  · exact List.filterMap_eq_nil_iff.mpr fun event hmem ↦ (hall event (h event hmem)).2.2.1
  · induction front generalizing acls with
    | nil => exact hgives
    | cons event rest ih =>
      rw [List.forall_mem_cons] at h
      obtain ⟨middle, hstep, hrest⟩ := hgives
      rw [ih h.2 middle hrest, (hall event h.1).2.2.2 _ _ hstep]

/-- What a successful `SETACL` leaves on the server. -/
theorem replaced_sentAcl_iff {acls acls' : ServerAcls} {acl : PosixAcl} {dfacl : Option PosixAcl}
    (hdfacl : ∀ entry ∈ dfacl.getD [], validTag entry.eTag = true) :
    acls.Replaced (sentAcl acl dfacl) acls' ↔
      acls'.access = acl ∧ acls'.default = dfacl.getD [] := by
  have hmask : (naAcl ||| naDfacl) &&& naAcl ≠ 0 ∧ (naAcl ||| naDfacl) &&& naDfacl ≠ 0 := by decide
  simp only [ServerAcls.Replaced, sentAcl, if_pos hmask.1, if_pos hmask.2, map_entryOfAclent,
    map_entryOfDfaclent hdfacl]

/-- A run that gets as far as `SETACL`. -/
theorem setxattrRight_sent {acls acls' : ServerAcls} {acl sent : PosixAcl} {dfacl : Option PosixAcl}
    (hdfacl : ∀ entry ∈ dfacl.getD [], validTag entry.eTag = true) {front : Trace}
    (hfront : ∀ event ∈ front, event.op.isCopy = true) {fh : List UInt8} {type : AclType}
    {outcome : RpcOutcome Unit}
    (hgives : aclServer.Gives acls (front ++ [⟨.call (.setacl fh (sentAcl sent dfacl)), outcome⟩])
      acls') :
    SetxattrRight (statusOf outcome) acls acl type acls' ↔ statusOf outcome ≠ 0 ∨
      match type with
      | .access => sent = acl ∧ dfacl.getD [] = acls.default
      | .default => dfacl.getD [] = acl ∧ sent = acls.access := by
  obtain ⟨-, -, -, hserver⟩ := copies_quiet hfront
  by_cases hstatus : statusOf outcome = 0
  · obtain ⟨⟨⟩, rfl⟩ := (statusOf_eq_zero_iff outcome).mp hstatus
    obtain ⟨middle, hmiddle, last, hstep, rfl⟩ := Server.gives_append.mp hgives
    rw [hserver _ _ hmiddle] at hstep
    obtain ⟨haccess, hdefault⟩ := (replaced_sentAcl_iff hdfacl).mp hstep
    cases type with
    | access => simp [SetxattrRight, hstatus, ServerAcls.get, AclType.other, haccess, hdefault]
    | default => simp [SetxattrRight, hstatus, ServerAcls.get, AclType.other, haccess, hdefault]
  · exact iff_of_true (fun h ↦ absurd h hstatus) (Or.inl hstatus)

theorem validTag_of_entryFromXattr {tag : Int16} {perm : UInt16} {id : UInt32}
    {entry : PosixAclEntry} (h : entryFromXattr tag perm id = some entry) :
    validTag entry.eTag = true := by
  unfold entryFromXattr at h
  rw [validTag_iff]
  split_ifs at h with hplain hnamed
  · cases h
    simpa using by tauto
  · cases h
    simpa using by tauto

theorem validTag_of_entriesFromXattr {value : List UInt8} {acl : PosixAcl}
    (h : entriesFromXattr value = some acl) : ∀ entry ∈ acl, validTag entry.eTag = true := by
  fun_induction entriesFromXattr value generalizing acl with
  | case1 =>
    cases h
    simp
  | case2 t₀ t₁ p₀ p₁ i₀ i₁ i₂ i₃ rest ih =>
    obtain ⟨entry, hentry, hrest⟩ := Option.bind_eq_some_iff.mp h
    obtain ⟨entries, hentries, heq⟩ := Option.bind_eq_some_iff.mp hrest
    cases heq
    rw [List.forall_mem_cons]
    exact ⟨validTag_of_entryFromXattr hentry, ih hentries⟩
  | case3 => cases h

theorem eq_nil_of_entriesFromXattr {value : List UInt8} (h : entriesFromXattr value = some []) :
    value = [] := by
  unfold entriesFromXattr at h
  split at h
  · rfl
  · obtain ⟨entry, -, hrest⟩ := Option.bind_eq_some_iff.mp h
    obtain ⟨entries, -, heq⟩ := Option.bind_eq_some_iff.mp hrest
    cases heq
  · cases h

/-- Behind a good header there is an entry. -/
theorem xattrEntries_ne_nil {value : List UInt8} (h : xattrHeaderOk value = true) :
    xattrEntries value ≠ [] := by
  unfold xattrHeaderOk at h
  split at h
  · rename_i v₀ v₁ v₂ v₃ entries
    simp only [Bool.and_eq_true, decide_eq_true_eq] at h
    obtain ⟨-, hcount⟩ := h
    change entries.take (8 * (xattrCount entries).toNat) ≠ []
    rw [ne_eq, List.take_eq_nil_iff]
    rintro (hzero | rfl)
    · omega
    · exact absurd hcount (by decide)
  · cases h

theorem parseXattr_of_header {value : List UInt8} (h : xattrHeaderOk value = true) :
    parseXattr value = entriesFromXattr (xattrEntries value) := by
  unfold parseXattr
  rw [if_pos h]

theorem parseXattr_of_not_header {value : List UInt8} (h : ¬ xattrHeaderOk value = true) :
    parseXattr value = none := by
  unfold parseXattr
  rw [if_neg h]

/-- A well-formed value has a good header, and valid entries behind it. -/
theorem parseXattr_eq_some {value : List UInt8} {acl : PosixAcl} (h : parseXattr value = some acl) :
    xattrHeaderOk value = true ∧ entriesFromXattr (xattrEntries value) = some acl ∧
      (∀ entry ∈ acl, validTag entry.eTag = true) ∧ acl ≠ [] := by
  unfold parseXattr at h
  split_ifs at h with hheader
  refine ⟨hheader, h, validTag_of_entriesFromXattr h, ?_⟩
  rintro rfl
  exact xattrEntries_ne_nil hheader (eq_nil_of_entriesFromXattr h)

/-! ## The runs -/

/-- The list of a type in a reply to `GETACL`. -/
def Secattr.list (reply : Secattr) : AclType → PosixAcl
  | .access => reply.aclent.map entryOfAclent
  | .default => reply.dfaclent.map entryOfDfaclent

/-- For a directory, both calls that set a list ask for that list. -/
theorem getacl_list (acls : ServerAcls) {mode : UInt32} (hdir : sIsdir mode = true)
    (type : AclType) : (acls.getacl (setxattrMask mode type)).list type = acls.get type := by
  cases type with
  | access =>
    have hmask : setxattrMask mode .access &&& naAcl ≠ 0 := by
      simp only [setxattrMask, hdir, if_true]
      decide
    simp only [Secattr.list, ServerAcls.getacl, if_pos hmask, ServerAcls.get, map_entryOfAclent]
  | default =>
    have hmask : setxattrMask mode .default &&& naDfacl ≠ 0 := by
      simp only [setxattrMask, hdir, if_true]
      decide
    simp only [Secattr.list, ServerAcls.getacl, if_pos hmask, ServerAcls.get, List.map_map]
    calc acls.default.map (entryOfDfaclent ∘ dfaclentOfEntry)
        = acls.default.map id := List.map_congr_left fun entry hmem ↦
          entryOfDfaclent_dfaclentOfEntry (acls.default_valid entry hmem)
      _ = acls.default := List.map_id _

/-- The runs of `hsi_nfs3_getxattr` with a client. -/
theorem hsiNfs3Getxattr_path {index : ℕ} {mask : UInt32} {type : AclType} {daemon : Daemon}
    {trace : Trace} {ending : Ending Fault Daemon (ℤ × Option PosixAcl)}
    (hclient : daemon.sb.aclClntp ≠ none)
    (hpath : ((hsiNfs3Getxattr index mask type).run daemon).Path trace ending) :
    ∃ err other, ending = .done (err, other) daemon ∧
      ∃ fh outcome rest, trace = ⟨.call (.getacl fh mask), outcome⟩ :: rest ∧
      ((statusOf outcome ≠ 0 ∧ err ≠ 0 ∧ rest = []) ∨
        ∃ reply granted, outcome = .done (.ok reply) ∧ rest = [⟨.malloc .posixAcl, granted⟩] ∧
          ((granted = false ∧ err ≠ 0) ∨
            (granted = true ∧ err = 0 ∧ other = some (reply.list type)))) := by
  unfold hsiNfs3Getxattr at hpath
  rw [Prog.getInode_bind, Program.get_bind, if_neg hclient] at hpath
  obtain ⟨outcome, rest, rfl, hrest⟩ := Prog.path_clntCall_bind.mp hpath
  match outcome with
  | .fail err hne =>
    obtain ⟨rfl, rfl⟩ := hrest
    exact ⟨_, _, rfl, _, _, _, rfl, Or.inl ⟨hne, hne, rfl⟩⟩
  | .done (.fail status hne) =>
    obtain ⟨rfl, rfl⟩ := hrest
    have hstatus := hsiNfs3StatToErrno_ne_zero hne
    exact ⟨_, _, rfl, _, _, _, rfl, Or.inl ⟨hstatus, hstatus, rfl⟩⟩
  | .done (.ok reply) =>
    obtain ⟨granted, rest, rfl, hlist⟩ := Prog.path_malloc_bind.mp hrest
    cases granted with
    | false =>
      obtain ⟨rfl, rfl⟩ := hlist
      exact ⟨_, _, rfl, _, _, _, rfl, Or.inr ⟨reply, false, rfl, rfl, Or.inl ⟨rfl, by decide⟩⟩⟩
    | true =>
      cases type with
      | access =>
        obtain ⟨rfl, rfl⟩ := hlist
        exact ⟨_, _, rfl, _, _, _, rfl, Or.inr ⟨reply, true, rfl, rfl, Or.inr ⟨rfl, rfl, rfl⟩⟩⟩
      | default =>
        obtain ⟨rfl, rfl⟩ := hlist
        exact ⟨_, _, rfl, _, _, _, rfl, Or.inr ⟨reply, true, rfl, rfl, Or.inr ⟨rfl, rfl, rfl⟩⟩⟩

/-- The runs of the part that replaces a missing list by the one that stands for the mode. -/
theorem setxattrLists_path {index : ℕ} {first dfacl : Option PosixAcl} {daemon : Daemon}
    {trace : Trace} {ending : Ending Fault Daemon ℤ}
    (hpath : ((setxattrLists index first dfacl).run daemon).Path trace ending) :
    (first = none ∧ trace = [⟨.malloc .posixAcl, false⟩] ∧ ending = .done 0 daemon) ∨
      ∃ memory front, memory = (if first = none then [⟨.malloc .posixAcl, true⟩] else []) ∧
        (∀ event ∈ front, event.op.isCopy = true) ∧
        ((trace = memory ++ front ∧ (∃ event ∈ front, ¬ Favourable event) ∧
            ending = .crashed .undefined daemon) ∨
          ∃ fh args outcome, args = setaclArgs (daemon.inode index).iattr.mode
              (first.getD (modeAcl (daemon.inode index).iattr.mode)) dfacl ∧
            trace = memory ++ (front ++ [⟨.call (.setacl fh args), outcome⟩]) ∧
            ending = .done (statusOf outcome) daemon) := by
  cases first with
  | some acl =>
    obtain ⟨front, hcopies, hsent⟩ := sendSetacl_path hpath
    exact Or.inr ⟨[], front, rfl, hcopies, hsent⟩
  | none =>
    unfold setxattrLists at hpath
    rw [Prog.getInode_bind] at hpath
    obtain ⟨granted, rest, rfl, hrest⟩ := hpath
    cases granted with
    | false =>
      obtain ⟨rfl, rfl⟩ := hrest
      exact Or.inl ⟨rfl, rfl, rfl⟩
    | true =>
      obtain ⟨front, hcopies, ⟨rfl, hrefused, rfl⟩ | ⟨fh, args, outcome, hargs, rfl, rfl⟩⟩ :=
        sendSetacl_path hrest
      · exact Or.inr ⟨_, rest, rfl, hcopies, Or.inl ⟨rfl, hrefused, rfl⟩⟩
      · exact Or.inr ⟨_, front, rfl, hcopies, Or.inr ⟨fh, args, outcome, hargs, rfl, rfl⟩⟩

theorem setxattrLists_done {index : ℕ} {first dfacl : Option PosixAcl} {daemon daemon' : Daemon}
    {trace : Trace} {ret : ℤ} (hdir : sIsdir (daemon.inode index).iattr.mode = true)
    (hpath : ((setxattrLists index first dfacl).run daemon).Path trace (.done ret daemon')) :
    (first = none ∧ trace = [⟨.malloc .posixAcl, false⟩] ∧ ret = 0) ∨
      ∃ memory front fh outcome, ret = statusOf outcome ∧
        (∀ event ∈ front, event.op.isCopy = true) ∧
        memory = (if first = none then [⟨.malloc .posixAcl, true⟩] else []) ∧
        trace = memory ++ (front ++ [⟨.call (.setacl fh
          (sentAcl (first.getD (modeAcl (daemon.inode index).iattr.mode)) dfacl)), outcome⟩]) := by
  rcases setxattrLists_path hpath with ⟨hfirst, htrace, heq⟩ |
    ⟨memory, front, hmemory, hcopies, ⟨-, -, heq⟩ | ⟨fh, args, outcome, hargs, htrace, heq⟩⟩
  · cases heq
    exact Or.inl ⟨hfirst, htrace, rfl⟩
  · cases heq
  · cases heq
    rw [setaclArgs_of_dir hdir] at hargs
    subst hargs
    exact Or.inr ⟨memory, front, fh, outcome, rfl, hcopies, hmemory, htrace⟩

/-- A run that begins with the decoding of a value. -/
theorem path_posixAclFromXattr_bind' {α : Type} {value : List UInt8}
    {next : Option PosixAcl → Prog α} {daemon : Daemon} {trace : Trace}
    {ending : Ending Fault Daemon α}
    (hpath : ((posixAclFromXattr value >>= next).run daemon).Path trace ending) :
    ∃ memory parsed rest, trace = memory ++ rest ∧ ((next parsed).run daemon).Path rest ending ∧
      ((memory = [] ∧ parsed = none ∧ parseXattr value = none) ∨
        ∃ granted, memory = [⟨.malloc .posixAcl, granted⟩] ∧ xattrHeaderOk value = true ∧
          parsed = if granted then parseXattr value else none) := by
  unfold posixAclFromXattr at hpath
  by_cases hheader : xattrHeaderOk value = true
  · rw [if_pos hheader, ← parseXattr_of_header hheader] at hpath
    obtain ⟨granted, rest, rfl, hrest⟩ := hpath
    refine ⟨[⟨.malloc .posixAcl, granted⟩], if granted then parseXattr value else none, rest, rfl,
      ?_, Or.inr ⟨granted, rfl, hheader, rfl⟩⟩
    change (((if granted = true then pure (parseXattr value) else pure none :
      Prog (Option PosixAcl)) >>= next).run daemon).Path rest ending at hrest
    cases granted with
    | false => rwa [if_neg (by decide)] at hrest ⊢
    | true => rwa [if_pos rfl] at hrest ⊢
  · rw [if_neg hheader] at hpath
    exact ⟨[], none, trace, rfl, hpath, Or.inl ⟨rfl, rfl, parseXattr_of_not_header hheader⟩⟩

/-- A run that begins with the decoding of a well-formed value. -/
theorem path_posixAclFromXattr_bind {α : Type} {value : List UInt8} {acl : PosixAcl}
    (hvalue : parseXattr value = some acl) {next : Option PosixAcl → Prog α} {daemon : Daemon}
    {trace : Trace} {ending : Ending Fault Daemon α}
    (hpath : ((posixAclFromXattr value >>= next).run daemon).Path trace ending) :
    ∃ parsed rest, trace = ⟨.malloc .posixAcl, parsed⟩ :: rest ∧
      ((next (if parsed then some acl else none)).run daemon).Path rest ending := by
  obtain ⟨memory, parsed, rest, rfl, hrest, ⟨-, -, hnone⟩ | ⟨granted, rfl, -, rfl⟩⟩ :=
    path_posixAclFromXattr_bind' hpath
  · cases hnone.symm.trans hvalue
  · rw [hvalue] at hrest
    exact ⟨granted, rest, rfl, hrest⟩

/-- `GETACL` changes nothing, and a reply carries the stored lists. -/
theorem aclServer_getacl {acls acls' : ServerAcls} {fh : List UInt8} {mask : UInt32}
    {outcome : RpcOutcome Secattr} (h : aclServer acls ⟨.call (.getacl fh mask), outcome⟩ acls') :
    acls' = acls ∧ ∀ reply, outcome = .done (.ok reply) → reply = acls.getacl mask := by
  match outcome with
  | .fail _ _ => exact ⟨h, nofun⟩
  | .done (.fail _ _) => exact ⟨h, nofun⟩
  | .done (.ok reply) =>
    refine ⟨h.2, fun reply' heq ↦ ?_⟩
    cases heq
    exact h.1

/-- The events of a run that gets as far as `SETACL`. -/
theorem setxattrSafe_sent {daemon : Daemon} {index : ℕ} {acls : ServerAcls} {acl : PosixAcl}
    {type : AclType} (hclient : daemon.sb.aclClntp ≠ none) (before : Trace) {front : Trace}
    {parsed : Bool} (more : List Bool) {fh : List UInt8} {sent : Secattr}
    {outcome : RpcOutcome Unit} (hfront : ∀ event ∈ front, event.op.isCopy = true)
    (hlist : before.filterMap listAnswer = parsed :: more) (hmore : false ∉ more)
    (hget : before.filterMap getaclStatus = [0]) (hset : before.filterMap setaclStatus = []) :
    SetxattrSafe daemon index acls acl type
        (before ++ (front ++ [⟨.call (.setacl fh sent), outcome⟩])) ↔
      statusOf outcome ≠ 0 ∨ (acls.access = acls.default ∧ (parsed = true ∨
        (type = .access ∧ modeAcl (daemon.inode index).iattr.mode = acl))) := by
  obtain ⟨hlist', hget', hset', -⟩ := copies_quiet hfront
  have hlists : List.filterMap listAnswer
      (before ++ (front ++ [⟨.call (.setacl fh sent), outcome⟩])) = parsed :: more := by
    rw [List.filterMap_append, List.filterMap_append, hlist, hlist']
    exact List.append_nil _
  have hsent : ¬ Unsent (before ++ (front ++ [⟨.call (.setacl fh sent), outcome⟩])) := by
    rw [Unsent, GetaclFails, hlists, List.filterMap_append, List.filterMap_append, hget, hget']
    simpa [getaclStatus] using hmore
  have hfails : SetaclFails (before ++ (front ++ [⟨.call (.setacl fh sent), outcome⟩])) ↔
      statusOf outcome ≠ 0 := by
    rw [SetaclFails, List.filterMap_append, List.filterMap_append, hset, hset']
    simp [setaclStatus]
  rw [SetxattrSafe, hfails, hlists, List.head?_cons, Option.some_inj]
  simp [hclient, hsent]

/-- Where nothing is sent the procedure returns 0, which is right only if the list is stored
already. -/
theorem setxattrRight_unsent {daemon : Daemon} {index : ℕ} {acls : ServerAcls} {acl : PosixAcl}
    {type : AclType} {trace : Trace} (hclient : daemon.sb.aclClntp ≠ none) (h : Unsent trace) :
    SetxattrRight 0 acls acl type acls ↔ SetxattrSafe daemon index acls acl type trace := by
  have hnothing : SetxattrRight 0 acls acl type acls ↔ acls.get type = acl := by
    simp [SetxattrRight]
  rw [hnothing]
  simp [SetxattrSafe, hclient, h]

/-- The second half of `hsi_nfs3_setxattr`: the other list is at hand, and both are sent. -/
theorem setxattrLists_right_iff {daemon daemon' : Daemon} {index : ℕ} {acls acls' : ServerAcls}
    {acl : PosixAcl} {type : AclType} {ret : ℤ} {parsed : Bool} {fh : List UInt8} {mask : UInt32}
    {reply : Secattr} {back : Trace} (hclient : daemon.sb.aclClntp ≠ none)
    (hdir : sIsdir (daemon.inode index).iattr.mode = true)
    (hvalid : ∀ entry ∈ acl, validTag entry.eTag = true) (hnonempty : acl ≠ [])
    (hpath : ((match type with
      | .access => setxattrLists index (if parsed = true then some acl else none)
          (some (acls.get type))
      | .default => setxattrLists index (some (acls.get type))
          (if parsed = true then some acl else none)).run daemon).Path back (.done ret daemon'))
    (hgives : aclServer.Gives acls back acls') :
    SetxattrRight ret acls acl type acls' ↔ SetxattrSafe daemon index acls acl type
      (⟨.malloc .posixAcl, parsed⟩ :: ⟨.call (.getacl fh mask), .done (.ok reply)⟩ ::
        ⟨.malloc .posixAcl, true⟩ :: back) := by
  cases type with
  | access =>
    rcases setxattrLists_done hdir hpath with
      ⟨-, rfl, rfl⟩ | ⟨memory, front, fh', outcome, rfl, hcopies, rfl, rfl⟩
    · obtain ⟨middle, hlast, rfl⟩ := hgives
      cases hlast
      exact setxattrRight_unsent hclient (Or.inr (by simp [listAnswer]))
    · have hdfacl : ∀ entry ∈ (some acls.access).getD [], validTag entry.eTag = true :=
        acls.access_valid
      cases parsed with
      | true =>
        refine (setxattrRight_sent hdfacl hcopies hgives).trans (Iff.trans ?_
          (setxattrSafe_sent hclient [_, _, _] [true] hcopies rfl (by decide) rfl rfl).symm)
        simp
      | false =>
        obtain ⟨acls₂, hmalloc, hsending⟩ := hgives
        cases hmalloc
        refine (setxattrRight_sent hdfacl hcopies hsending).trans (Iff.trans ?_
          (setxattrSafe_sent hclient [_, _, _, _] [true, true] hcopies rfl (by decide)
            rfl rfl).symm)
        simp [and_comm]
  | default =>
    rcases setxattrLists_done hdir hpath with
      ⟨heq, -⟩ | ⟨memory, front, fh', outcome, rfl, hcopies, rfl, rfl⟩
    · cases heq
    · have hdfacl : ∀ entry ∈ (if parsed = true then some acl else none).getD [],
          validTag entry.eTag = true := by
        cases parsed with
        | true => exact hvalid
        | false => simp
      refine (setxattrRight_sent hdfacl hcopies hgives).trans (Iff.trans ?_
        (setxattrSafe_sent hclient [_, _, _] [true] hcopies rfl (by decide) rfl rfl).symm)
      cases parsed with
      | true => simp [ServerAcls.get, @eq_comm _ acls.default]
      | false => simp [hnonempty.symm]

/-- **A successful `hsi_nfs3_setxattr` on a directory sets one list and leaves the other alone
exactly on the runs that `SetxattrSafe` lists.** -/
theorem setxattr_right_iff (index : ℕ) (value : List UInt8) (acl : PosixAcl) (type : AclType)
    (daemon daemon' : Daemon) (acls acls' : ServerAcls) (trace : Trace) (ret : ℤ)
    (hdir : sIsdir (daemon.inode index).iattr.mode = true) (hvalue : parseXattr value = some acl)
    (hpath : ((hsiNfs3Setxattr index value type).run daemon).Path trace (.done ret daemon'))
    (hgives : aclServer.Gives acls trace acls') :
    SetxattrRight ret acls acl type acls' ↔ SetxattrSafe daemon index acls acl type trace := by
  obtain ⟨-, -, hvalid, hnonempty⟩ := parseXattr_eq_some hvalue
  unfold hsiNfs3Setxattr at hpath
  rw [Prog.getInode_bind, Program.get_bind] at hpath
  by_cases hclient : daemon.sb.aclClntp = none
  · rw [if_pos hclient] at hpath
    cases hpath.2
    exact iff_of_true (fun h ↦ absurd h (by decide)) (Or.inl hclient)
  rw [if_neg hclient] at hpath
  obtain ⟨parsed, rest, rfl, hrest⟩ := path_posixAclFromXattr_bind hvalue hpath
  rw [if_pos hdir] at hrest
  obtain ⟨⟨err, other⟩, daemon₁, front, back, hget, hback, rfl⟩ := Program.path_bind_done.mp hrest
  obtain ⟨err, other, heq, fh, outcome, rest', rfl, hcases⟩ := hsiNfs3Getxattr_path hclient hget
  cases heq
  obtain ⟨acls₁, hparse, acls₂, hgetacl, hgives'⟩ := hgives
  obtain ⟨rfl, hreply⟩ := aclServer_getacl hgetacl
  cases hparse
  dsimp only at hback
  rcases hcases with ⟨hstatus, herr, rfl⟩ | ⟨reply, granted, rfl, rfl, hgranted⟩
  · -- `GETACL` failed, and the procedure returns 0 all the same.
    rw [if_pos herr] at hback
    obtain ⟨rfl, heq⟩ := hback
    cases heq
    cases hgives'
    exact setxattrRight_unsent hclient (Or.inl ⟨_, by simp [getaclStatus], hstatus⟩)
  have hlist : reply.list type = acls.get type := by
    rw [hreply reply rfl, getacl_list acls hdir type]
  obtain ⟨acls₂, hmalloc, hgives''⟩ := hgives'
  cases hmalloc
  rcases hgranted with ⟨rfl, herr⟩ | ⟨rfl, rfl, rfl⟩
  · rw [if_pos herr] at hback
    obtain ⟨rfl, heq⟩ := hback
    cases heq
    cases hgives''
    exact setxattrRight_unsent hclient (Or.inr (by simp [listAnswer]))
  rw [if_neg (by simp), hlist] at hback
  exact setxattrLists_right_iff hclient hdir hvalid hnonempty hback hgives''

/-- A mounted root with a client for the ACL protocol. -/
def aclCache : Daemon := { rootCache with sb := { rootCache.sb with aclClntp := some 0 } }

/-- The list that gives the owner some permissions. -/
def ownerAcl (perm : UInt16) : PosixAcl := [⟨aclUserObj, perm, aclUndefinedId⟩]

/-- Lists of that kind on the server. -/
def ownerAcls (access default : UInt16) : ServerAcls :=
  ⟨ownerAcl access, ownerAcl default, by simp [ownerAcl, validTag], by simp [ownerAcl, validTag]⟩

/-- The extended attribute value for `ownerAcl 7`. -/
def ownerValue : List UInt8 := [2, 0, 0, 0, 1, 0, 7, 0, 0xff, 0xff, 0xff, 0xff]

/-- Setting the access list of the root, with every answer a success. -/
def setOwnerAccess (acls : ServerAcls) : Trace :=
  [⟨.malloc .posixAcl, true⟩, ⟨.call (.getacl [0] 15), .done (.ok (acls.getacl 15))⟩,
    ⟨.malloc .posixAcl, true⟩, ⟨.malloc .aclent, true⟩, ⟨.malloc .dfaclent, true⟩,
    ⟨.call (.setacl [0] (sentAcl (ownerAcl 7) (some acls.access))), .done (.ok ())⟩]

theorem setOwnerAccess_path (access default : UInt16) :
    ((hsiNfs3Setxattr 0 ownerValue .access).run aclCache).Path
      (setOwnerAccess (ownerAcls access default)) (.done 0 aclCache) :=
  ⟨_, _, rfl, _, _, rfl, _, _, rfl, _, _, rfl, _, _, rfl, _, _, rfl, rfl, rfl⟩

theorem setOwnerAccess_gives (access default : UInt16) :
    aclServer.Gives (ownerAcls access default) (setOwnerAccess (ownerAcls access default))
      (ownerAcls 7 access) := by
  have hvalid : ∀ entry ∈ (some (ownerAcls access default).access).getD [],
      validTag entry.eTag = true := (ownerAcls access default).access_valid
  have hreplaced : (ownerAcls access default).Replaced
      (sentAcl (ownerAcl 7) (some (ownerAcls access default).access)) (ownerAcls 7 access) :=
    (replaced_sentAcl_iff hvalid).mpr ⟨rfl, rfl⟩
  exact ⟨_, rfl, _, ⟨rfl, rfl⟩, _, rfl, _, rfl, _, rfl, _, hreplaced, rfl⟩

/-- With two equal lists, setting the access list leaves the default list alone. -/
theorem setxattr_right_equal_lists :
    SetxattrRight 0 (ownerAcls 5 5) (ownerAcl 7) .access (ownerAcls 7 5) := by
  refine (setxattr_right_iff 0 ownerValue (ownerAcl 7) .access aclCache aclCache (ownerAcls 5 5)
    (ownerAcls 7 5) _ 0 (by decide) (by decide) (setOwnerAccess_path 5 5)
    (setOwnerAccess_gives 5 5)).mpr ?_
  refine Or.inr (Or.inr ⟨?_, Or.inr ⟨rfl, Or.inl rfl⟩⟩)
  rintro (⟨status, hmem, hne⟩ | hmem)
  · exact hne (List.mem_singleton.mp hmem)
  · exact absurd (List.mem_singleton.mp hmem) (by decide)

/-- Setting the access list makes the default list a copy of the old access list. -/
theorem setxattr_overwrites_default :
    ((hsiNfs3Setxattr 0 ownerValue .access).run aclCache).Path (setOwnerAccess (ownerAcls 5 1))
      (.done 0 aclCache) ∧
    aclServer.Gives (ownerAcls 5 1) (setOwnerAccess (ownerAcls 5 1)) (ownerAcls 7 5) ∧
    ¬ SetxattrRight 0 (ownerAcls 5 1) (ownerAcl 7) .access (ownerAcls 7 5) :=
  ⟨setOwnerAccess_path 5 1, setOwnerAccess_gives 5 1, fun h ↦ absurd (h rfl).2 (by decide)⟩

end NfsFuse
