import NfsFuse.Fuse.Acknowledged
import NfsFuse.Nfs3.AclCodec

/-!
# The size protocol of extended attributes

A request with size 0 asks how long a value is, and one with a size reads it.  `posix_acl_to_xattr`
tells a query by its `NULL` buffer and returns sizes and `ERANGE` through one integer; the handler
tells a query by its size and passes the buffer that `calloc` returned for 0 bytes.  A query is
therefore answered with the number of the error.
-/

namespace NfsFuse

open Lib

/-! ## The value -/

/-- The value of a list. -/
def encodedAcl (list : PosixAcl) : List UInt8 := [2, 0, 0, 0] ++ list.flatMap entryToXattr

theorem length_encodedAcl (list : PosixAcl) : (encodedAcl list).length = 4 + 8 * list.length := by
  rw [encodedAcl, List.length_append, length_flatMap_entryToXattr]
  rfl

/-- What the handler replies when its buffer is there. -/
def getxattrReply (list : PosixAcl) (size : ℕ) : FuseReply :=
  if size = 0 then .xattr (posixAclToXattr list true size).1
  else if (posixAclToXattr list true size).1 = erange then .err erange
  else .buf ((posixAclToXattr list true size).2.map some)

/-- A size is never taken for the error: it leaves 4 when divided by 8. -/
theorem getxattrReply_eq {list : PosixAcl} (hcount : list.length ≤ 1024) (size : ℕ) :
    getxattrReply list size =
      if size = 0 then .xattr erange
      else if size < 4 + 8 * list.length then .err erange
      else .buf ((encodedAcl list).map some) := by
  have hlength : posixAclXattrSize list.length = 4 + 8 * list.length := by
    rw [posixAclXattrSize, Nat.mul_comm]
  unfold getxattrReply
  by_cases hfits : 4 + 8 * list.length ≤ size
  · have hsize : posixAclXattrSize list.length ≤ size := hlength.trans_le hfits
    have hne : (posixAclToXattr list true size).1 ≠ erange := by
      rw [posixAclToXattr_size hsize (by omega), hlength, erange]
      omega
    rw [if_neg (by omega), if_neg hne, posixAclToXattr_bytes hsize, if_neg (by omega),
      if_neg (by omega)]
    rfl
  · have hshort : (posixAclToXattr list true size).1 = erange := by
      have hmod : posixAclXattrSize list.length % 2 ^ 32 > size := by
        rw [hlength, Nat.mod_eq_of_lt (by omega)]
        omega
      simp only [posixAclToXattr, if_pos hmod, Bool.true_eq_false, if_false]
    rw [hshort, if_pos rfl, if_pos (not_le.mp hfits)]

/-! ## Requests -/

/-- A request for a list, which the server returns and for which there is memory; `calloc` returns a
buffer for 0 bytes too. -/
structure ReadsAcl (daemon : Daemon) (ino : UInt64) (name : CString) (list : PosixAcl) (size : ℕ)
    (ending : Ending Fault Daemon Unit) : Prop where
  cached : (daemon.findIno ino).isSome
  client : daemon.sb.aclClntp ≠ none
  path : ∃ type reply fh mask, xattrType name = some type ∧ reply.list type = list ∧
    ((hsxFuseGetxattr ino name size).run daemon).Path
      [⟨.call (.getacl fh mask), .done (.ok reply)⟩, ⟨.malloc .posixAcl, true⟩,
        ⟨.malloc .xattrBuf, true⟩] ending

theorem ReadsAcl.replied {daemon : Daemon} {ino : UInt64} {name : CString} {list : PosixAcl}
    {size : ℕ} {ending : Ending Fault Daemon Unit} (h : ReadsAcl daemon ino name list size ending)
    (hcoherent : Coherent daemon) :
    ((Prog.reply (getxattrReply list size)).run daemon).Path [] ending := by
  obtain ⟨type, reply, fh, mask, htype, rfl, hpath⟩ := h.path
  obtain ⟨index, hfind⟩ := Option.isSome_iff_exists.mp h.cached
  rw [hsxFuseGetxattr, htype] at hpath
  dsimp only at hpath
  rw [hcoherent.ilookup_bind, hfind] at hpath
  rcases Program.path_bind.mp hpath with ⟨⟨err, other⟩, daemon₁, front, rest, hget, hrest, htrace⟩ |
    ⟨reason, daemon₁, hget, -⟩
  · obtain ⟨err', other', heq, fh', outcome, back, rfl, hanswers⟩ :=
      hsiNfs3Getxattr_path h.client hget
    cases heq
    rcases hanswers with ⟨hstatus, -, rfl⟩ | ⟨reply', granted, rfl, rfl, hlist⟩
    · cases htrace
      exact absurd rfl hstatus
    · cases htrace
      rcases hlist with ⟨hdenied, -⟩ | ⟨-, rfl, rfl⟩
      · cases hdenied
      · obtain ⟨buf, last, heq, hreply⟩ := Prog.path_malloc_bind.mp hrest
        cases heq
        rw [if_neg (fun hdenied ↦ Bool.noConfusion hdenied.1)] at hreply
        unfold getxattrReply
        split_ifs at hreply ⊢ <;> exact hreply
  · obtain ⟨_, _, heq, -⟩ := hsiNfs3Getxattr_path h.client hget
    cases heq

/-- The replies line up: a query is answered with the length of the value, a buffer that is too
short with `ERANGE`, any other one with the value, and the answer to a query can be used to read. -/
structure SizesLineUp (daemon : Daemon) (ino : UInt64) (name : CString) (list : PosixAcl) (size : ℕ)
    (ending : Ending Fault Daemon Unit) : Prop where
  query : size = 0 → RepliedWith (· = .xattr (4 + 8 * list.length : ℕ)) daemon ending
  short : 0 < size → size < 4 + 8 * list.length → RepliedWith (· = .err erange) daemon ending
  read : 4 + 8 * list.length ≤ size → (encodedAcl list).length = 4 + 8 * list.length ∧
    RepliedWith (· = .buf ((encodedAcl list).map some)) daemon ending
  reread : size = 0 → ∀ daemon' answer ending', ending = .done () daemon' →
    daemon'.replies = daemon.replies ++ [.xattr answer] →
    ReadsAcl daemon' ino name list answer.toNat ending' →
    RepliedWith (· = .buf ((encodedAcl list).map some)) daemon' ending'

/-- They line up exactly for the requests that are no queries. -/
theorem getxattr_sizes_iff (daemon : Daemon) (ino : UInt64) (name : CString) (list : PosixAcl)
    (size : ℕ) (ending : Ending Fault Daemon Unit) (hcoherent : Coherent daemon)
    (hcount : list.length ≤ 1024) (hreads : ReadsAcl daemon ino name list size ending) :
    SizesLineUp daemon ino name list size ending ↔ size ≠ 0 := by
  have hpath := hreads.replied hcoherent
  have hreplied (kind : FuseReply → Prop) :
      RepliedWith kind daemon ending ↔ kind (getxattrReply list size) :=
    repliedWith_reply_iff rfl hpath
  have hreply := getxattrReply_eq hcount size
  constructor
  · intro h hzero
    have hquery := (hreplied _).mp (h.query hzero)
    rw [hreply, if_pos hzero] at hquery
    -- `ERANGE` is 34, and a length leaves 4 when divided by 8
    have hsame : erange = ((4 + 8 * list.length : ℕ) : ℤ) := FuseReply.xattr.inj hquery
    rw [erange] at hsame
    omega
  · intro hne
    refine ⟨fun hzero ↦ absurd hzero hne, fun _ hshort ↦ ?_, fun hfits ↦ ?_,
      fun hzero ↦ absurd hzero hne⟩
    · rw [hreplied, hreply, if_neg hne, if_pos hshort]
    · refine ⟨length_encodedAcl list, ?_⟩
      rw [hreplied, hreply, if_neg hne, if_neg (not_lt.mpr hfits)]

/-- The owner's list in the reply of the server. -/
def ownerRead : Trace :=
  [⟨.call (.getacl [0] (naAclcnt ||| naAcl)), .done (.ok (sentAcl (ownerAcl 7) none))⟩,
    ⟨.malloc .posixAcl, true⟩, ⟨.malloc .xattrBuf, true⟩]

theorem readsAcl_owner {size : ℕ} {ending : Ending Fault Daemon Unit}
    (hpath : ((hsxFuseGetxattr 1 (cstr "system.posix_acl_access") size).run aclCache).Path ownerRead
      ending) : ReadsAcl aclCache 1 (cstr "system.posix_acl_access") (ownerAcl 7) size ending :=
  ⟨rfl, by decide, .access, _, _, _, by decide, by decide, hpath⟩

/-- A read of 12 bytes. -/
theorem getxattr_sizes_read : ∃ ending,
    ReadsAcl aclCache 1 (cstr "system.posix_acl_access") (ownerAcl 7) 12 ending ∧
    SizesLineUp aclCache 1 (cstr "system.posix_acl_access") (ownerAcl 7) 12 ending := by
  have hpath : ∃ ending, ((hsxFuseGetxattr 1 (cstr "system.posix_acl_access") 12).run aclCache).Path
      ownerRead ending := ⟨_, _, _, rfl, _, _, rfl, _, _, rfl, rfl, rfl⟩
  obtain ⟨ending, hpath⟩ := hpath
  have hreads := readsAcl_owner hpath
  exact ⟨ending, hreads, (getxattr_sizes_iff aclCache 1 _ (ownerAcl 7) 12 ending
    (coherent_rootCache.congr rfl rfl rfl rfl rfl) (by decide) hreads).mpr (by decide)⟩

/-- A query for these 12 bytes is answered with 34. -/
theorem query_answered_with_erange :
    ReadsAcl aclCache 1 (cstr "system.posix_acl_access") (ownerAcl 7) 0
      (.done () (aclCache.setReplies [.xattr 34])) ∧
    (encodedAcl (ownerAcl 7)).length = 12 ∧
    ¬ SizesLineUp aclCache 1 (cstr "system.posix_acl_access") (ownerAcl 7) 0
      (.done () (aclCache.setReplies [.xattr 34])) := by
  refine ⟨readsAcl_owner ⟨_, _, rfl, _, _, rfl, _, _, rfl, rfl, rfl⟩, by decide, fun h ↦ ?_⟩
  obtain ⟨daemon, message, heq, hmessage, hkind⟩ := h.query rfl
  cases heq
  cases hmessage
  exact absurd hkind (by decide)

end NfsFuse
