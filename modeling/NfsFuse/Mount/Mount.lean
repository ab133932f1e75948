import NfsFuse.Mount.Options
import NfsFuse.Nfs3.Procedures

/-!
# Mounting

The embedding of `hsfs_do_unmount`, of `hsfs_do_mount` and what it calls: the `MNT` call with its
retry loop, the creation of the two RPC clients, and `hsi_fill_super` with `FSINFO`, the root inode
and `PATHCONF`.  The answer of the `MNT` call is looked at only after the clients exist.  If there
is no NFS client, the label `umnt_fail` hands the `NULL` pointer to `clnt_destroy` and crashes.
Every other failure behind the `MNT` call leaves through a label that returns the 0 of that call.
-/

namespace NfsFuse

open Lib

/-- `HSFS_MAX_FILE_IO_SIZE` -/
def hsfsMaxFileIoSize : UInt32 := 1048576

/-- The transfer size that `hsi_fsinfo_to_super` settles on. -/
def negotiate (size pref max : UInt32) : UInt32 :=
  let size := if size = 0 then (hsfsBlockSize pref.toUInt64 false).1.toUInt32 else size
  let size :=
    if max ≥ 512 ∧ size > max then (hsfsBlockSize max.toUInt64 false).1.toUInt32 else size
  if size > hsfsMaxFileIoSize then hsfsMaxFileIoSize else size

/-- `hsi_fsinfo_to_super`, up to the fields that are only recorded. -/
def hsiFsinfoToSuper (plat : Platform) (super : HsfsSuper) (fsinfo : Fsinfo3resok) : HsfsSuper :=
  let rsize := negotiate super.rsize fsinfo.rtpref fsinfo.rtmax
  let dtsize := (hsfsBlockSize fsinfo.dtpref.toUInt64 false).1.toUInt32
  let dtsize := if dtsize > plat.pageSize * 8 then plat.pageSize * 8 else dtsize
  { super with
    rsize := rsize
    wsize := negotiate super.wsize fsinfo.wtpref fsinfo.wtmax
    dtsize := if dtsize > rsize then rsize else dtsize }

/-- `hsi_nfs3_fsinfo`: the error and the attributes of the root. -/
def hsiNfs3Fsinfo (plat : Platform) (fh : NfsFh3) (fattr : NfsFattr) : Prog (ℤ × NfsFattr) := do
  match ← Prog.clntCall (.fsinfo fh.data) with
  | .fail err _ => return (err, fattr)
  | .done (.fail status _) => return (hsiNfs3StatToErrno status, fattr)
  | .done (.ok res) =>
      Prog.modifySuper fun sb ↦ hsiFsinfoToSuper plat sb res
      let fattr := hsiNfs3Post2fattr res.objAttributes fattr
      if fattr.valid &&& nfsAttrFattr = 0 then
        let (ret, fattr, _) ← hsiNfs3DoGetattr fh.data fattr .cleared
        return (ret, fattr)
      else
        return (0, fattr)

/-- `hsi_nfs3_pathconf` -/
def hsiNfs3Pathconf (index : ℕ) : Prog ℤ := do
  let inode ← Prog.getInode index
  match ← Prog.clntCall (.pathconf (hsiNfs3Getfh3 inode)) with
  | .fail err _ => return err
  | .done (.fail status _) => return hsiNfs3StatToErrno status
  | .done (.ok res) =>
      Prog.modifySuper fun sb ↦ { sb with namlen := toInt32 res.nameMax.toNat }
      return 0

/-- Store the root inode. -/
def HsfsSuper.setRoot (sb : HsfsSuper) (root : InodePtr) : HsfsSuper := { sb with root := root }

/-- The part of `hsi_fill_super` behind the acquisition of the root. -/
def useRoot (root : InodePtr) : Prog ℤ := do
  Prog.modifySuper fun sb ↦ sb.setRoot root
  let index ← Prog.deref root
  let inode ← Prog.getInode index
  Prog.assert (inode.ino == 1) .rootIno
  hsiNfs3Pathconf index

/-- `hsi_fill_super` -/
def hsiFillSuper (plat : Platform) (fh : NfsFh3) : Prog ℤ := do
  Prog.modifySuper fun sb ↦ { hsfsInitIcache sb with currId := 0 }
  let (ret, fattr) ← hsiNfs3Fsinfo plat fh nfsInitFattr
  if ret ≠ 0 then
    return ret
  else
    let root ← hsiNfsFhget plat (nfsCopyFh3 fh) fattr
    if isErr plat root then return toInt32 (ptrErr plat root) else useRoot root

/-- `hsi_mnt_openclnt` -/
def hsiMntOpenclnt (server : Pmap) : Prog Bool := do
  if server.pmProt = ipprotoUdp ∨ server.pmProt = ipprotoTcp then Prog.host (.openClient server)
  else return false

/-- `hsi_nfs3_mount`: the result, and the reply when there is one to look at. -/
def hsiNfs3Mount (server : Pmap) (dirname : CString) :
    Prog (ℤ × Option (NfsRes NfsFh3)) := do
  if ← hsiMntOpenclnt server then
    let outcome ← Prog.host (.mnt dirname)
    if ← Prog.malloc .mountFh then
      match outcome with
      | .fail err _ => return (err, none)
      | .done res => return (0, some res)
    else
      return (enomem, none)
  else
    return (-1, none)

/-- `hsi_nfs3_unmount` -/
def hsiNfs3Unmount (server : Pmap) (dirname : CString) : Prog ℤ := do
  if ← hsiMntOpenclnt server then Prog.host (.umnt dirname) else return -1

/-- `hsi_nfs3_clnt_create`: a new client, or `NULL`. -/
def hsiNfs3ClntCreate (server : Pmap) : Prog (Option ℕ) := do
  if ← hsiMntOpenclnt server then
    let ret ← Prog.host (.ping server)
    if ret ≠ 0 then
      return none
    else
      let daemon ← Program.get
      Program.modify fun daemon ↦
        { daemon with
          clients := daemon.clients + 1
          liveClients := daemon.clients :: daemon.liveClients }
      return some daemon.clients
  else
    return none

/-- `clnt_destroy`, which goes through the client's operations. -/
def clntDestroy (client : Option ℕ) : Prog Unit :=
  match client with
  | none => Program.crash .undefined
  | some client => Program.modify fun daemon ↦
      { daemon with liveClients := daemon.liveClients.filter (· != client) }

/-! ## `hsfs_do_mount` -/

/-- `struct hsfs_cmdline_opts`, as far as `hsfs_do_mount` reads it. -/
structure CmdlineOpts where
  spec : CString
  udata : Option CString
  fg : Bool

/-- The retry loop of `hsfs_do_mount`: the value of `ret`, and the reply to `MNT` after a success.
In the background it goes on until the call succeeds. -/
def mountLoop (fg : Bool) (server : Pmap) (dirname : CString) (timeout : ℤ) :
    ℕ → Prog (ℤ × Option (NfsRes NfsFh3))
  | 0 => Program.crash .outOfFuel
  | fuel + 1 => do
      let (ret, res) ← hsiNfs3Mount server dirname
      if ret = 0 then
        return (ret, res)
      else if fg then
        let (cfStat, errno) ← Prog.host .rpcCreateerr
        -- RPC_TIMEDOUT, or RPC_SYSTEMERROR with a timeout as its cause
        if cfStat = 5 ∨ (cfStat = 12 ∧ errno = etimedout) then
          let t ← Prog.host .time
          if t ≥ timeout then return (ret, none)
          else mountLoop fg server dirname timeout fuel
        else
          return (ret, none)
      else
        mountLoop fg server dirname timeout fuel

/-- The label `umnt_fail` -/
def umntFail (server : Pmap) (dirname : CString) : Prog Unit := do
  let daemon ← Program.get
  if daemon.sb.aclClntp ≠ none then clntDestroy daemon.sb.aclClntp
  clntDestroy daemon.sb.clntp
  let _ ← hsiNfs3Unmount server dirname
  return ()

/-- The part of `hsfs_do_mount` behind the retry loop, entered with `ret` equal to 0. -/
def finishMount (plat : Platform) (mnt nfs : Pmap) (dirname : CString) (mntres : NfsRes NfsFh3) :
    Prog ℤ := do
  let clntp ← hsiNfs3ClntCreate nfs
  Prog.modifySuper fun sb ↦ { sb with clntp := clntp }
  if clntp = none then
    umntFail mnt dirname
    return 0
  else
    let aclClntp ← hsiNfs3ClntCreate { nfs with pmProg := 100227, pmVers := 3 }
    Prog.modifySuper fun sb ↦ { sb with aclClntp := aclClntp }
    match mntres with
    | .fail _ _ => return 0
    | .ok fh =>
        let err ← hsiFillSuper plat fh
        if err ≠ 0 then
          umntFail mnt dirname
          return 0
        else
          return 0

/-- `sizeof(hostdir)` and `sizeof(new_opts)` -/
def hostdirSize : ℕ := 1024

/-- The part of `hsfs_do_mount` between the options and the clients. -/
def mountServer (plat : Platform) (fuel : ℕ) (fg : Bool) (data : MountData) (dirname : CString) :
    Prog ℤ := do
  -- 60 * retry is computed as an int
  if 60 * data.retry ≠ toInt32 (60 * data.retry) then
    Program.crash .undefined
  else
    let now ← Prog.host .time
    let (ret, res) ← mountLoop fg data.mnt dirname (now + 60 * data.retry) fuel
    match res with
    | none => return ret
    | some mntres => finishMount plat data.mnt data.nfs dirname mntres

/-- `hsfs_do_mount` -/
def hsfsDoMount (plat : Platform) (fuel : ℕ) (opts : CmdlineOpts) : Prog ℤ := do
  if opts.spec.length ≥ hostdirSize then
    return -1
  else
    match ← nfsParseDevname opts.spec with
    | none => return -1
    | some (hostname, dirname) =>
        let (err, addr) ← hsiGethostbyname hostname
        Prog.modifySuper fun sb ↦ { sb with addr := addr.getD sb.addr }
        if err ≠ 0 then
          return -1
        else
          let daemon ← Program.get
          let (bad, data) ← hsiNfs3ParseOptions (opts.udata.getD [])
            { super := daemon.sb, retry := -1, mnt := ⟨0, 0, 0, 0⟩, nfs := ⟨0, 0, 0, 0⟩,
              mounthost := none, mntAddr := 0, newOpts := [] } hostdirSize
          Prog.modifySuper fun _ ↦ data.super
          if bad ≠ 0 then
            return -1
          else if hsiNfsmntCheckCompat data.nfs data.mnt ≠ 0 then
            return -1
          else
            let data := hsiValidateMountData data
            Prog.modifySuper fun _ ↦ data.super
            mountServer plat fuel opts.fg data dirname

/-- `hsfs_do_unmount`; the transport is read off the flags of the superblock. -/
def hsfsDoUnmount (opts : CmdlineOpts) : Prog ℤ := do
  -- strcpy to hostdir
  if opts.spec.length ≥ hostdirSize then
    Program.crash .undefined
  else
    match ← nfsParseDevname opts.spec with
    | none => return -1
    | some (_, dirname) =>
        let daemon ← Program.get
        clntDestroy daemon.sb.clntp
        let prot := if daemon.sb.flags &&& nfsMountTcp ≠ 0 then ipprotoTcp else ipprotoUdp
        hsfsIput daemon.sb.root
        hsiNfs3Unmount { pmProg := 100005, pmVers := 3, pmProt := prot, pmPort := 0 } dirname

/-- The daemon as `main` enters `hsfs_do_mount`. -/
def Daemon.initial : Daemon where
  sb := .zeroed
  heap := []
  freed := []
  replies := []
  clients := 0
  liveClients := []

end NfsFuse
