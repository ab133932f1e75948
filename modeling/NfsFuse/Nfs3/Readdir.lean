import NfsFuse.Nfs3.Procedures

/-!
# Reading directories

The embedding of `nfs3/hsi_nfs3_readdir.c`.  A reply's entries are copied one by one into a chain
of `struct hsfs_readdir_ctx`; with attributes and handles, each entry's inode is looked up in or
entered into the cache on the way.  A failure frees the chain built so far.
-/

namespace NfsFuse

open Lib

/-- `struct hsfs_readdir_ctx` -/
structure ReaddirCtx where
  off : ℤ
  name : CString
  stIno : UInt64
  inode : InodePtr

/-- `__alloc_copy_name`: at most 255 bytes of the name, or nothing without memory. -/
def allocCopyName (name : CString) : Prog (Option CString) := do
  if ← Prog.malloc .readdirCtx then
    if ← Prog.malloc .readdirName then return some ((name.takeWhile (· != 0)).take 255)
    else return none
  else
    return none

/-- `__free_ctx` -/
def freeCtx : List ReaddirCtx → Prog Unit
  | [] => return ()
  | ctx :: rest => do
      hsfsIput ctx.inode
      freeCtx rest

/-- The head of `hsi_nfs3_readdir` and `hsi_nfs3_readdir_plus` after the call: refresh the
directory and remember the cookie verifier. -/
def beginListing (parent : ℕ) (dirAttributes : Option Fattr3) (cookieverf : UInt64) : Prog ℤ := do
  let err ← nfsRefreshInode parent (postFattr dirAttributes)
  if err ≠ 0 then
    return err
  else
    Prog.modifyInode parent fun inode ↦ { inode with cookieverf := cookieverf }
    return 0

/-- The loop of `hsi_nfs3_readdir` over the entries of a reply. -/
def copyEntries : List Entry3 → List ReaddirCtx → Prog (ℤ × List ReaddirCtx)
  | [], chain => return (0, chain)
  | entry :: rest, chain => do
      match ← allocCopyName entry.name with
      | none =>
          freeCtx chain
          return (enomem, [])
      | some name => copyEntries rest (chain ++ [⟨toOffT entry.cookie, name, entry.fileid, .null⟩])

/-- `hsi_nfs3_readdir` -/
def hsiNfs3Readdir (parent : ℕ) (count : UInt32) (cookie : UInt64) :
    Prog (ℤ × List ReaddirCtx) := do
  let inode ← Prog.getInode parent
  match ← Prog.clntCall (.readdir (hsiNfs3Getfh3 inode) cookie inode.cookieverf count) with
  | .fail err _ => return (err, [])
  | .done (.fail status _) => return (hsiNfs3StatToErrno status, [])
  | .done (.ok res) =>
      let err ← beginListing parent res.dirAttributes res.cookieverf
      if err ≠ 0 then return (err, []) else copyEntries res.entries []

/-- The loop of `hsi_nfs3_readdir_plus` over the entries of a reply. -/
def copyEntriesPlus (plat : Platform) :
    List Entryplus3 → List ReaddirCtx → Prog (ℤ × List ReaddirCtx)
  | [], chain => return (0, chain)
  | entry :: rest, chain => do
      match ← allocCopyName entry.name with
      | none =>
          freeCtx chain
          return (enomem, [])
      | some name =>
          match entry.nameHandle with
          | none =>
              freeCtx (chain ++ [⟨toOffT entry.cookie, name, entry.fileid, .null⟩])
              return (enoent, [])
          | some handle =>
              let new ← hsiNfsFhget plat (nfsCopyFh3 handle) (postFattr entry.nameAttributes)
              if isErr plat new then
                freeCtx (chain ++ [⟨toOffT entry.cookie, name, entry.fileid, .null⟩])
                return (toInt32 (ptrErr plat new), [])
              else
                copyEntriesPlus plat rest
                  (chain ++ [⟨toOffT entry.cookie, name, entry.fileid, new⟩])

/-- `hsi_nfs3_readdir_plus` -/
def hsiNfs3ReaddirPlus (plat : Platform) (parent : ℕ) (count : UInt32) (cookie : UInt64)
    (maxcount : UInt32) : Prog (ℤ × List ReaddirCtx) := do
  let inode ← Prog.getInode parent
  match ← Prog.clntCall
      (.readdirplus (hsiNfs3Getfh3 inode) cookie inode.cookieverf count maxcount) with
  | .fail err _ => return (err, [])
  | .done (.fail status _) => return (hsiNfs3StatToErrno status, [])
  | .done (.ok res) =>
      let err ← beginListing parent res.dirAttributes res.cookieverf
      if err ≠ 0 then return (err, []) else copyEntriesPlus plat res.entries []

end NfsFuse
