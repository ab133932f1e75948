import NfsFuse.Inode.Daemon

/-!
# Mount options

The embedding of `hsi_nfs3_parse_options`, `hsi_nfsmnt_check_compat`, `hsi_validate_mount_data` and
of the parser for `host:dir`.  Items of an option string are split at the commas outside quotes and
applied from left to right to the superblock, the two server addresses and the retry count.
-/

namespace NfsFuse

open Lib

/-- What an option string is applied to, with the option string rebuilt so far. -/
structure MountData where
  super : HsfsSuper
  retry : ℤ
  mnt : Pmap
  nfs : Pmap
  mounthost : Option CString
  mntAddr : UInt32
  newOpts : CString

/-- The character loop of `hsi_nfs3_parse_options`: the items it processes, given whether a quote
is open and the item begun so far.  An item with an open quote at the end is dropped. -/
def splitItems (openQuote : Bool) (begun : CString) : CString → List CString
  | [] => []
  | c :: rest =>
      let quoted := if c = 34 then !openQuote else openQuote
      if quoted then splitItems quoted (begun ++ [c]) rest
      else if c = 44 then begun :: splitItems quoted [] rest
      else if rest = [] then [begun ++ [c]]
      else splitItems quoted (begun ++ [c]) rest

/-- `isdigit` -/
def isDigit (c : UInt8) : Bool := 48 ≤ c && c ≤ 57

/-- `atoi` of a text that starts with a digit: `strtol` saturates and the result is truncated. -/
def atoi (text : CString) : ℤ :=
  let value := (text.takeWhile isDigit).foldl (fun total c ↦ total * 10 + (c.toNat - 48)) 0
  toInt32 (min value (2 ^ 63 - 1) : ℕ)

/-- The host name that `xstrndup` copies: up to a blank or a comma. -/
def hostOf (text : CString) : CString :=
  text.takeWhile fun c ↦ !(c = 32 || c = 9 || c = 10 || c = 13 || c = 44)

/-- How one item ends: the loop goes on, or `hsi_nfs3_parse_options` stops at `bad_parameter` or
`out_bad`, or `sprintf` leaves `cbuf`. -/
inductive ItemResult where
  | next (data : MountData)
  | badParameter (data : MountData)
  | outBad (data : MountData)
  | overflow

/-- `sizeof(cbuf)` -/
def cbufSize : ℕ := 128

/-- The end of an iteration: `sprintf` to `cbuf` and `strcat` to the rebuilt options. -/
def appendOption (data : MountData) (cbuf : CString) (optSize : ℕ) : ItemResult :=
  if cbuf.length + 1 > cbufSize then .overflow
  else if data.newOpts.length + cbuf.length ≥ optSize then .outBad data
  else .next { data with newOpts := data.newOpts ++ cbuf }

/-- `IPPROTO_TCP` -/
def ipprotoTcp : UInt64 := 6

/-- `IPPROTO_UDP` -/
def ipprotoUdp : UInt64 := 17

/-- `NFS_MOUNT_TCP` -/
def nfsMountTcp : UInt32 := 1

/-- Set the protocol of both servers. -/
def MountData.setProt (data : MountData) (prot : UInt64) : MountData :=
  { data with
    mnt := { data.mnt with pmProt := prot }
    nfs := { data.nfs with pmProt := prot } }

/-- Change the flags of the superblock. -/
def MountData.mapFlags (data : MountData) (update : UInt32 → UInt32) : MountData :=
  { data with super := { data.super with flags := update data.super.flags } }

/-- An item `name=value` whose value starts with a digit: the changed data and the name to record,
or `none` for an option that is skipped, or a bad parameter. -/
def applyNumber (data : MountData) (name value : CString) : Option (MountData × Option CString) :=
  let val := atoi value
  let super := data.super
  let setSuper (super : HsfsSuper) := some ({ data with super := super }, some name)
  if name = cstr "rsize" then setSuper { super with rsize := UInt32.ofInt val }
  else if name = cstr "wsize" then setSuper { super with wsize := UInt32.ofInt val }
  else if name = cstr "timeo" then setSuper { super with timeo := val }
  else if name = cstr "retrans" then setSuper { super with retrans := val }
  else if name = cstr "acregmin" then setSuper { super with acregmin := val }
  else if name = cstr "acregmax" then setSuper { super with acregmax := val }
  else if name = cstr "acdirmin" then setSuper { super with acdirmin := val }
  else if name = cstr "acdirmax" then setSuper { super with acdirmax := val }
  else if name = cstr "actimeo" then
    setSuper { super with acregmin := val, acregmax := val, acdirmin := val, acdirmax := val }
  else if name = cstr "retry" then some ({ data with retry := val }, some name)
  else if name = cstr "port" then
    some ({ data with nfs := { data.nfs with pmPort := UInt64.ofInt val } }, some name)
  else if name = cstr "mountport" then
    some ({ data with mnt := { data.mnt with pmPort := UInt64.ofInt val } }, some name)
  else if name = cstr "mountprog" then
    some ({ data with mnt := { data.mnt with pmProg := UInt64.ofInt val } }, some name)
  else if name = cstr "mountvers" then
    some ({ data with mnt := { data.mnt with pmVers := UInt64.ofInt val } }, some name)
  else if name = cstr "mounthost" then
    some ({ data with mounthost := some (hostOf value) }, some name)
  else if name = cstr "nfsprog" then
    some ({ data with nfs := { data.nfs with pmProg := UInt64.ofInt val } }, some name)
  else if name = cstr "nfsvers" ∨ name = cstr "vers" then
    some ({ data with nfs := { data.nfs with pmVers := UInt64.ofInt val } },
      some (cstr "nfsvers"))
  else if name = cstr "namlen" then some (data, none)
  else if name = cstr "addr" then some (data, none)
  else none

/-- An item `name=value` whose value does not start with a digit. -/
def applyText (data : MountData) (name value : CString) : Option (MountData × Option CString) :=
  if name = cstr "proto" then
    if value = cstr "udp" then
      some ((data.setProt ipprotoUdp).mapFlags (· &&& ~~~nfsMountTcp), some name)
    else if value = cstr "tcp" then
      some ((data.setProt ipprotoTcp).mapFlags (· ||| nfsMountTcp), some name)
    else none
  else if name = cstr "sec" then some (data, none)
  else if name = cstr "mounthost" then
    some ({ data with mounthost := some (hostOf value) }, some name)
  else if name = cstr "context" then some (data, some name)
  else none

/-- The flags that are recognised and skipped. -/
def skippedFlags : List CString :=
  [cstr "bg", cstr "fg", cstr "soft", cstr "hard", cstr "intr", cstr "posix", cstr "cto",
    cstr "ac", cstr "lock", cstr "broken_suid", cstr "acl", cstr "rdirplus", cstr "sharecache"]

/-- An item without `=`: the name without `no`, and whether `no` was absent. -/
def applyFlag (data : MountData) (val : Bool) (name : CString) :
    Option (MountData × Option CString) :=
  if name ∈ skippedFlags then some (data, none)
  else if name = cstr "tcp" then
    if val then some ((data.setProt ipprotoTcp).mapFlags (· ||| nfsMountTcp), some name)
    else some (data.setProt ipprotoUdp, some name)
  else if name = cstr "udp" then
    if val then some ((data.setProt ipprotoUdp).mapFlags (· &&& ~~~nfsMountTcp), some name)
    else
      some ((data.setProt ipprotoTcp).mapFlags fun flags ↦ flags &&& ~~~nfsMountTcp ||| nfsMountTcp,
        some name)
  else none

/-- One iteration of `hsi_nfs3_parse_options` on a complete item. -/
def parseItem (data : MountData) (item : CString) (optSize : ℕ) : ItemResult :=
  if item.length ≥ cbufSize then .badParameter data
  else
    let name := item.takeWhile (· != 61)
    match item.dropWhile (· != 61) with
    | _ :: value =>
        let applied :=
          if (value.head?.map isDigit).getD false then applyNumber data name value
          else applyText data name value
        match applied with
        | none => .badParameter data
        | some (data, none) => .next data
        | some (data, some name) => appendOption data (name ++ [61] ++ value ++ [44]) optSize
    | [] =>
        let val := !(item.take 2 = cstr "no")
        let opt := if val then item else item.drop 2
        match applyFlag data val opt with
        | none => .outBad data
        | some (data, none) => .next data
        | some (data, some name) =>
            appendOption data ((if val then [] else cstr "no") ++ name ++ [44]) optSize

/-- The loop of `hsi_nfs3_parse_options` over the items. -/
def parseItems (optSize : ℕ) : MountData → List CString → ItemResult
  | data, [] => .next data
  | data, item :: rest =>
      match parseItem data item optSize with
      | .next data => parseItems optSize data rest
      | other => other

/-- `hsi_gethostbyname`: the result, which is `errno` after a failed lookup, and the address. -/
def hsiGethostbyname (hostname : CString) : Prog (ℤ × Option UInt32) := do
  match ← Prog.host (.resolve hostname) with
  | .found addr => return (0, some addr)
  | .failed errno => return (errno, none)

/-- `hsi_nfs3_parse_options`; a bad parameter ends it with 0. -/
def hsiNfs3ParseOptions (oldOpts : CString) (data : MountData) (optSize : ℕ) :
    Prog (ℤ × MountData) := do
  match parseItems optSize data (splitItems false [] oldOpts) with
  | .overflow => Program.crash .undefined
  | .badParameter data => return (0, data)
  | .outBad data => return (1, data)
  | .next data =>
      match data.mounthost with
      | none => return (0, data)
      | some mounthost =>
          let (err, addr) ← hsiGethostbyname mounthost
          if err ≠ 0 then return (1, data)
          else return (0, { data with mntAddr := addr.getD data.mntAddr })

/-- `hsi_nfsmnt_check_compat`; any mount version is refused. -/
def hsiNfsmntCheckCompat (nfs mnt : Pmap) : ℤ :=
  if nfs.pmVers ≠ 0 ∧ nfs.pmVers ≠ 3 then 1
  else if mnt.pmVers ≠ 0 then 1
  else 0

/-- `1 << nrbits` as an `int`, converted to `unsigned long`. -/
def intBit (nrbits : ℕ) : UInt64 :=
  if nrbits = 31 then 0xffffffff80000000 else 1 <<< nrbits.toUInt64

/-- The loop of `hsfs_block_bits`: the highest bit at or below a position, or 0. -/
def highestBit (bsize : UInt64) : ℕ → ℕ
  | 0 => 0
  | nrbits + 1 => if bsize &&& intBit (nrbits + 1) ≠ 0 then nrbits + 1 else highestBit bsize nrbits

/-- `hsfs_block_bits`: the block size, and the bits stored through a pointer if there is one. -/
def hsfsBlockBits (bsize : UInt64) (bits : Bool) : UInt64 × Option UInt8 :=
  if bsize &&& (bsize - 1) ≠ 0 ∨ bits then
    (intBit (highestBit bsize 31), if bits then some (highestBit bsize 31).toUInt8 else none)
  else
    (bsize, none)

/-- `hsfs_block_size` -/
def hsfsBlockSize (bsize : UInt64) (bits : Bool) : UInt64 × Option UInt8 :=
  if bsize < 1024 then hsfsBlockBits 4096 bits
  else if bsize ≥ 1048576 then hsfsBlockBits 1048576 bits
  else hsfsBlockBits bsize bits

/-- A pair of cache timeouts with defaults, which also replace an inverted pair. -/
def cacheTimeouts (least most defaultLeast : ℤ) : ℤ × ℤ :=
  let least := if least = 0 then defaultLeast else least
  let most := if most = 0 then 60 else most
  if least > most then (defaultLeast, 60) else (least, most)

/-- The transfer size that belongs to a protocol. -/
def transferSize (prot : UInt64) : UInt32 :=
  if prot = ipprotoTcp then 65536 else if prot = ipprotoUdp then 8800 else 9000

/-- `hsi_validate_mount_data` -/
def hsiValidateMountData (data : MountData) : MountData :=
  let super := data.super
  let reg := cacheTimeouts super.acregmin super.acregmax 3
  let dir := cacheTimeouts super.acdirmin super.acdirmax 30
  let block := hsfsBlockSize super.bsize.toUInt64 true
  let nfsProt := if data.nfs.pmProt = 0 then ipprotoTcp else data.nfs.pmProt
  let mntProt := if data.mnt.pmProt = 0 then ipprotoTcp else data.mnt.pmProt
  { data with
    super := { super with
      timeo := if super.timeo = 0 then 600 else super.timeo
      retrans := if super.retrans = 0 then 3 else super.retrans
      acregmin := reg.1
      acregmax := reg.2
      acdirmin := dir.1
      acdirmax := dir.2
      bsize := block.1.toUInt32
      bsizeBits := block.2.getD super.bsizeBits
      rsize := transferSize nfsProt
      wsize := transferSize nfsProt }
    mnt := { data.mnt with pmProg := 100005, pmVers := 3, pmProt := mntProt }
    nfs := { data.nfs with pmProg := 100003, pmVers := 3, pmProt := nfsProt }
    mntAddr := super.addr
    retry := if data.retry = -1 then 10000 else data.retry }

/-- Copy the two parts of a device name. -/
def copyDevname (host path : CString) : Prog (Option (CString × CString)) := do
  if host.length > 255 then return none
  else if path.length > 1024 then return none
  else if ← Prog.malloc .hostname then
    if ← Prog.malloc .pathname then return some (host, path) else return none
  else
    return none

/-- `nfs_parse_simple_hostname`; a comma in the host part leaves the path at the terminated colon,
and the length limit applies to the list in front of the colon. -/
def nfsParseSimpleHostname (dev : CString) : Prog (Option (CString × CString)) :=
  let host := dev.takeWhile (· != 58)
  match dev.dropWhile (· != 58) with
  | [] => return none
  | _ :: path =>
      if host.length > 255 then return none
      else if 44 ∈ host then copyDevname (host.takeWhile (· != 44)) []
      else copyDevname host path

/-- `nfs_parse_square_bracket`, given the text behind the bracket. -/
def nfsParseSquareBracket (dev : CString) : Prog (Option (CString × CString)) :=
  match dev.dropWhile (· != 93) with
  | _ :: 58 :: path => copyDevname (dev.takeWhile (· != 93)) path
  | _ => return none

/-- `nfs_parse_devname` -/
def nfsParseDevname (devname : CString) : Prog (Option (CString × CString)) := do
  if ← Prog.malloc .devname then
    match devname with
    | 91 :: dev => nfsParseSquareBracket dev
    | dev => if dev.take 6 = cstr "nfs://" then return none else nfsParseSimpleHostname dev
  else
    return none

end NfsFuse
