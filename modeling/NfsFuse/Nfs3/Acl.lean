import NfsFuse.Nfs3.Procedures

/-!
# Access control lists

The embedding of `nfs3/hsi_acl3.c`, `nfs3/hsi_nfs3_getxattr.c` and `nfs3/hsi_nfs3_setxattr.c` on a
little-endian host: the POSIX ACL encoding used by the extended attribute interface, and the two
procedures of the ACL protocol.
-/

namespace NfsFuse

open Lib

/-! ## POSIX ACLs -/

/-- `ACL_TYPE_ACCESS` and `ACL_TYPE_DEFAULT` -/
inductive AclType where
  | access
  | default
  deriving DecidableEq, Repr

/-- `struct posix_acl_entry` -/
structure PosixAclEntry where
  eTag : Int16
  ePerm : UInt16
  eId : UInt32
  deriving DecidableEq, Repr

/-- `struct posix_acl` -/
abbrev PosixAcl := List PosixAclEntry

def aclUserObj : Int16 := 0x01
def aclUser : Int16 := 0x02
def aclGroupObj : Int16 := 0x04
def aclGroup : Int16 := 0x08
def aclMask : Int16 := 0x10
def aclOther : Int16 := 0x20

/-- `ACL_UNDEFINED_ID` -/
def aclUndefinedId : UInt32 := 0xffffffff

/-- A little-endian 16-bit word. -/
def le16 (low high : UInt8) : UInt16 := low.toUInt16 ||| (high.toUInt16 <<< 8)

/-- A little-endian 32-bit word. -/
def le32 (b₀ b₁ b₂ b₃ : UInt8) : UInt32 :=
  b₀.toUInt32 ||| (b₁.toUInt32 <<< 8) ||| (b₂.toUInt32 <<< 16) ||| (b₃.toUInt32 <<< 24)

/-- One iteration of the loop of `posix_acl_from_xattr`. -/
def entryFromXattr (tag : Int16) (perm : UInt16) (id : UInt32) : Option PosixAclEntry :=
  if tag = aclUserObj ∨ tag = aclGroupObj ∨ tag = aclMask ∨ tag = aclOther then
    some ⟨tag, perm, aclUndefinedId⟩
  else if tag = aclUser ∨ tag = aclGroup then some ⟨tag, perm, id⟩
  else none

/-- The loop of `posix_acl_from_xattr` over the eight-byte entries behind the header. -/
def entriesFromXattr : List UInt8 → Option PosixAcl
  | [] => some []
  | t₀ :: t₁ :: p₀ :: p₁ :: i₀ :: i₁ :: i₂ :: i₃ :: rest => do
      let entry ← entryFromXattr (le16 t₀ t₁).toInt16 (le16 p₀ p₁) (le32 i₀ i₁ i₂ i₃)
      let entries ← entriesFromXattr rest
      return entry :: entries
  | _ => none

/-- The `int count` of `posix_acl_from_xattr`, given the bytes behind the header. -/
def xattrCount (entries : List UInt8) : ℤ := toInt32 (entries.length / 8 : ℕ)

/-- The checks of `posix_acl_from_xattr` before it allocates: the size, the version word and the
number of entries. -/
def xattrHeaderOk (value : List UInt8) : Bool :=
  match value with
  | v₀ :: v₁ :: v₂ :: v₃ :: entries =>
      le32 v₀ v₁ v₂ v₃ = 2 && entries.length % 8 = 0 && 0 < xattrCount entries
  | _ => false

/-- The bytes that the loop of `posix_acl_from_xattr` reads. -/
def xattrEntries (value : List UInt8) : List UInt8 :=
  (value.drop 4).take (8 * (xattrCount (value.drop 4)).toNat)

/-- The list a value encodes, if it is well formed. -/
def parseXattr (value : List UInt8) : Option PosixAcl :=
  if xattrHeaderOk value then entriesFromXattr (xattrEntries value) else none

/-- `posix_acl_from_xattr`; `NULL` for a malformed value and without memory. -/
def posixAclFromXattr (value : List UInt8) : Prog (Option PosixAcl) := do
  if xattrHeaderOk value then
    if ← Prog.malloc .posixAcl then return entriesFromXattr (xattrEntries value) else return none
  else
    return none

/-- The list that stands for a mode. -/
def modeAcl (mode : UInt32) : PosixAcl :=
  [⟨aclUserObj, ((mode &&& 0o700) >>> 6).toUInt16, aclUndefinedId⟩,
    ⟨aclGroupObj, ((mode &&& 0o070) >>> 3).toUInt16, aclUndefinedId⟩,
    ⟨aclOther, (mode &&& 0o007).toUInt16, aclUndefinedId⟩]

/-- `posix_acl_from_mode` -/
def posixAclFromMode (mode : UInt32) : Prog (Option PosixAcl) := do
  if ← Prog.malloc .posixAcl then return some (modeAcl mode) else return none

/-- The bytes of one entry written by `posix_acl_to_xattr`. -/
def entryToXattr (entry : PosixAclEntry) : List UInt8 :=
  let tag := entry.eTag.toUInt16
  [tag.toUInt8, (tag >>> 8).toUInt8, entry.ePerm.toUInt8, (entry.ePerm >>> 8).toUInt8,
    entry.eId.toUInt8, (entry.eId >>> 8).toUInt8, (entry.eId >>> 16).toUInt8,
    (entry.eId >>> 24).toUInt8]

/-- `posix_acl_xattr_size` -/
def posixAclXattrSize (count : ℕ) : ℕ := 4 + count * 8

/-- `posix_acl_to_xattr`: its result and the bytes written to a non-`NULL` buffer.  The size is
computed as an `unsigned int` and returned as an `int`. -/
def posixAclToXattr (acl : PosixAcl) (buffer : Bool) (size : ℕ) : ℤ × List UInt8 :=
  let realSize : ℕ := posixAclXattrSize acl.length % 2 ^ 32
  if buffer = false then (toInt32 realSize, [])
  else if realSize > size then (erange, [])
  else (toInt32 realSize, [2, 0, 0, 0] ++ acl.flatMap entryToXattr)

/-! ## The ACL procedures -/

def naAcl : UInt32 := 1
def naAclcnt : UInt32 := 2
def naDfacl : UInt32 := 4
def naDfaclcnt : UInt32 := 8

/-- `NA_ACL_DEFAULT` -/
def naAclDefault : Int32 := 0x1000

/-- An access entry of a reply as `hsi_nfs3_getxattr` stores it. -/
def entryOfAclent (ent : Aclent) : PosixAclEntry :=
  ⟨ent.type.toInt16, ent.perm, ent.id.toUInt32⟩

/-- A default entry of a reply as `hsi_nfs3_getxattr` stores it. -/
def entryOfDfaclent (ent : Aclent) : PosixAclEntry :=
  ⟨(ent.type &&& ~~~naAclDefault).toInt16, ent.perm, ent.id.toUInt32⟩

/-- An entry as `hsi_nfs3_setxattr` sends it. -/
def aclentOfEntry (entry : PosixAclEntry) : Aclent :=
  ⟨entry.eTag.toInt32, entry.eId.toInt32, entry.ePerm⟩

/-- `hsi_nfs3_getxattr`: the error and the list of the requested type. -/
def hsiNfs3Getxattr (index : ℕ) (mask : UInt32) (type : AclType) :
    Prog (ℤ × Option PosixAcl) := do
  let inode ← Prog.getInode index
  let daemon ← Program.get
  if daemon.sb.aclClntp = none then
    return (enotsup, none)
  else
    match ← Prog.clntCall (.getacl (hsiNfs3Getfh3 inode) mask) with
    | .fail err _ => return (err, none)
    | .done (.fail status _) => return (hsiNfs3StatToErrno status, none)
    | .done (.ok acl) =>
        if ← Prog.malloc .posixAcl then
          match type with
          | .access => return (0, some (acl.aclent.map entryOfAclent))
          | .default => return (0, some (acl.dfaclent.map entryOfDfaclent))
        else
          return (enomem, none)

/-- The mask that `hsi_nfs3_setxattr` asks `GETACL` for. -/
def setxattrMask (mode : UInt32) (type : AclType) : UInt32 :=
  (if type = .access then naAclcnt ||| naAcl else 0) |||
    (if sIsdir mode then naDfaclcnt ||| naDfacl else 0)

/-- An allocated copy of a list for the call; writing to a failed allocation is undefined. -/
def allocAclent (site : MallocSite) (acl : PosixAcl) : Prog (List Aclent) := do
  let ok ← Prog.malloc site
  if ok = false ∧ acl ≠ [] then Program.crash .undefined else return acl.map aclentOfEntry

/-- The last part of `hsi_nfs3_setxattr`: build the arguments and call `SETACL`. -/
def sendSetacl (index : ℕ) (acl : PosixAcl) (dfacl : Option PosixAcl) : Prog ℤ := do
  let inode ← Prog.getInode index
  let mask := if sIsdir inode.iattr.mode then naAcl ||| naDfacl else naAcl
  let aclent ← allocAclent .aclent acl
  let secattr ← match dfacl with
    | none => pure (Secattr.mk mask acl.length aclent 0 [])
    | some dfacl => do
        let dfaclent ← allocAclent .dfaclent dfacl
        pure (Secattr.mk mask acl.length aclent dfacl.length dfaclent)
  return statusOf (← Prog.clntCall (.setacl (hsiNfs3Getfh3 inode) secattr))

/-- The part of `hsi_nfs3_setxattr` that replaces a missing list by one made from the mode. -/
def setxattrLists (index : ℕ) (acl dfacl : Option PosixAcl) : Prog ℤ := do
  match acl with
  | some acl => sendSetacl index acl dfacl
  | none => do
      let inode ← Prog.getInode index
      match ← posixAclFromMode inode.iattr.mode with
      | some acl => sendSetacl index acl dfacl
      | none => return 0

/-- `hsi_nfs3_setxattr`.  For a directory the list that is not being set is first read back, with
the type of the list that is; a failure to read it returns 0. -/
def hsiNfs3Setxattr (index : ℕ) (value : List UInt8) (type : AclType) : Prog ℤ := do
  let inode ← Prog.getInode index
  let daemon ← Program.get
  if daemon.sb.aclClntp = none then
    return enotsup
  else
    let acl ← posixAclFromXattr value
    if sIsdir inode.iattr.mode then
      let (err, other) ← hsiNfs3Getxattr index (setxattrMask inode.iattr.mode type) type
      if err ≠ 0 then
        return 0
      else
        match type with
        | .access => setxattrLists index acl other
        | .default => setxattrLists index other acl
    else if type = .access then
      setxattrLists index acl none
    else
      return 0

end NfsFuse
