import Mathlib.Data.List.TakeWhile
import NfsFuse.Lib.Cursor
import NfsFuse.Fuse.Acknowledged
import NfsFuse.Fuse.Listings

/-!
# Reading a directory in pages

The kernel reads a directory by requests that each go on behind the last entry received, until a
buffer comes back empty.  The server cuts the directory into pages and the handlers cut a page to
the size of the buffer.  The loops of the handlers leave out an entry that fits exactly, so that a
buffer of the size of the next entry comes back empty before the end.
-/

namespace NfsFuse

open Lib

/-- A directory: its entries have distinct cookies other than 0 and names of at most 255 bytes. -/
structure Directory where
  entries : List Entry3
  cookies_nodup : (entries.map Entry3.cookie).Nodup
  zero_notMem : 0 ∉ entries.map Entry3.cookie
  name_fits : ∀ entry ∈ entries, entry.name.length ≤ 255 ∧ 0 ∉ entry.name

/-- What a complete listing holds. -/
def Directory.listing (dir : Directory) : List Dirent :=
  dir.entries.map fun entry ↦ ⟨entry.name, entry.fileid, toOffT entry.cookie⟩

/-- The entry with attributes and a handle for its object. -/
def Entryplus3.Described (entry : Entryplus3) : Prop :=
  entry.nameHandle.isSome = true ∧ usableAttrs entry.nameAttributes = true ∧
    ∀ attributes, entry.nameAttributes = some attributes → attributes.fileid = entry.fileid

/-- The server answers a listing with a page of what follows the cookie. -/
def Serves (dir : Directory) : Event EnvAns → Prop
  | ⟨.call (.readdir _ cookie _ _), .done (.ok res)⟩ =>
      Page res.entries (afterKey Entry3.cookie 0 dir.entries cookie)
  | ⟨.call (.readdirplus _ cookie _ _ _), .done (.ok res)⟩ =>
      Page (res.entries.map Entryplus3.plain) (afterKey Entry3.cookie 0 dir.entries cookie) ∧
        ∀ entry ∈ res.entries, entry.Described
  | _ => True

/-- The entry as the kernel reads it. -/
def DirentPlus.dirent (entry : DirentPlus) : Dirent :=
  ⟨entry.name, entry.entry.attr.stIno, entry.off⟩

/-- The entries of a reply. -/
def FuseReply.listing? : FuseReply → Option (List Dirent)
  | .dirents entries => some entries
  | .direntsPlus entries => some (entries.map DirentPlus.dirent)
  | _ => none

/-- The offset at which the kernel goes on. -/
def resumeOffset (received : List Dirent) : UInt64 :=
  lastKey (fun dirent ↦ UInt64.ofInt dirent.off) 0 received

/-- `hsx_fuse_readdir` or `hsx_fuse_readdir_plus` -/
def listDirectory (plat : Platform) (plus : Bool) (ino : UInt64) (size : ℕ) (off : UInt64) :
    Prog Unit :=
  if plus then hsxFuseReaddirPlus plat ino size off else hsxFuseReaddir plat ino size off

/-- The space that an entry takes in a buffer. -/
def Platform.entrySize (plat : Platform) (plus : Bool) (dirent : Dirent) : ℕ :=
  if plus then plat.direntPlusSize dirent.name else plat.direntSize dirent.name

/-- The run has replied with the entries given. -/
def Delivers (daemon : Daemon) (ending : Ending Fault Daemon Unit) (buffer : List Dirent) : Prop :=
  RepliedWith (fun message ↦ message.listing? = some buffer) daemon ending

/-- One request of a scan that has received some entries already, in any coherent state of the
daemon. -/
structure ScanCall (plat : Platform) (dir : Directory) (ino : UInt64) (received : List Dirent)
    (plus : Bool) (size : ℕ) (daemon : Daemon) (trace : Trace) (ending : Ending Fault Daemon Unit) :
    Prop where
  coherent : Coherent daemon
  large : ∀ next ∈ dir.listing[received.length]?, plat.entrySize plus next ≤ size
  serves : ∀ event ∈ trace, Serves dir event
  path : ((listDirectory plat plus ino size (resumeOffset received)).run daemon).Path trace ending

/-- What a scan has received, as long as no buffer was empty. -/
inductive Scan (plat : Platform) (dir : Directory) (ino : UInt64) : List Dirent → Prop
  | start : Scan plat dir ino []
  | next {received buffer : List Dirent} {plus : Bool} {size : ℕ} {daemon : Daemon} {trace : Trace}
      {ending : Ending Fault Daemon Unit} (hscan : Scan plat dir ino received)
      (hcall : ScanCall plat dir ino received plus size daemon trace ending)
      (hdelivers : Delivers daemon ending buffer) (hne : buffer ≠ []) :
      Scan plat dir ino (received ++ buffer)

theorem ofInt_toOffT (cookie : UInt64) : UInt64.ofInt (toOffT cookie) = cookie := by
  have hmod : toOffT cookie % (2 ^ 64 : ℕ) = cookie.toNat := by
    rw [toOffT, Int64.toInt, UInt64.toBitVec_toInt64, BitVec.toInt_eq_toNat_bmod, Int.bmod_emod]
    exact Int.emod_eq_of_lt (Int.natCast_nonneg _) (Int.ofNat_lt.mpr cookie.toNat_lt)
  rw [UInt64.ofInt]
  exact (congrArg (fun value : ℤ ↦ UInt64.ofNat value.toNat) hmod).trans UInt64.ofNat_toNat

theorem copiedName_eq_self {name : CString} (hlength : name.length ≤ 255) (hzero : 0 ∉ name) :
    copiedName name = name := by
  have hall : ∀ byte ∈ name, (byte != 0) = true := fun byte hmem ↦
    bne_iff_ne.mpr fun heq ↦ hzero (heq ▸ hmem)
  have htake : name.takeWhile (· != 0) = name := List.takeWhile_eq_self_iff.mpr hall
  rw [copiedName, htake, List.take_of_length_le hlength]

theorem Directory.listing_eq (dir : Directory) : dir.listing = dir.entries.map Entry3.dirent := by
  refine List.map_congr_left fun entry hmem ↦ ?_
  obtain ⟨hlength, hzero⟩ := dir.name_fits entry hmem
  rw [Entry3.dirent, copiedName_eq_self hlength hzero]

/-- The kernel goes on at the cookie of the last entry. -/
theorem resumeOffset_map_dirent (read : List Entry3) :
    resumeOffset (read.map Entry3.dirent) = lastKey Entry3.cookie 0 read := by
  have hkey : (fun dirent : Dirent ↦ UInt64.ofInt dirent.off) ∘ Entry3.dirent = Entry3.cookie :=
    funext fun entry ↦ ofInt_toOffT entry.cookie
  rw [resumeOffset, lastKey, lastKey, List.getLast?_map, Option.map_map, hkey]

/-! ## What a request delivers -/

/-- The entries are those of a page that fit into the buffer. -/
def FromPage (plat : Platform) (dir : Directory) (plus : Bool) (size : ℕ) (off : UInt64)
    (buffer : List Dirent) : Prop :=
  ∃ page, Page page (afterKey Entry3.cookie 0 dir.entries off) ∧
    buffer = fitting (plat.entrySize plus) size (page.map Entry3.dirent) 0

theorem packDirents_eq (plat : Platform) (size : ℕ) (chain : List ReaddirCtx) (len : ℕ) :
    packDirents plat size chain len =
      fitting (plat.entrySize false) size (chain.map ReaddirCtx.dirent) len := by
  induction chain generalizing len with
  | nil => rfl
  | cons ctx rest ih =>
    rw [packDirents, ih]
    rfl

section Calls

variable {plat : Platform} {dir : Directory} {ino off : UInt64} {size : ℕ} {daemon : Daemon}
  {trace : Trace} {ending : Ending Fault Daemon Unit} {buffer : List Dirent}

/-- The steps that both handlers take before they fill the buffer. -/
def listThen (ino : UInt64) (procedure : ℕ → Prog (ℤ × List ReaddirCtx))
    (fill : List ReaddirCtx → Prog Unit) : Prog Unit := do
  match ← hsfsIlookup ino with
  | .obj parent =>
      let (err, chain) ← procedure parent
      if err ≠ 0 then
        Prog.reply (.err err)
      else if ← Prog.malloc .readdirBuf then
        fill chain
      else
        Prog.reply (.err enomem)
  | _ => Program.crash (.assertFailed .readdirParent)

theorem hsxFuseReaddir_eq : hsxFuseReaddir plat ino size off =
    listThen ino (fun parent ↦ hsiNfs3Readdir parent (UInt32.ofNat size) off)
      (fun chain ↦ Prog.reply (.dirents (packDirents plat size chain 0))) := rfl

theorem hsxFuseReaddirPlus_eq : hsxFuseReaddirPlus plat ino size off =
    listThen ino
      (fun parent ↦ hsiNfs3ReaddirPlus plat parent (UInt32.ofNat size) off (UInt32.ofNat size))
      (fun chain ↦ packDirentsPlus plat size chain 0 [] >>= fun entries ↦
        Prog.reply (.direntsPlus entries)) := rfl

section Steps

variable {procedure : ℕ → Prog (ℤ × List ReaddirCtx)} {fill : List ReaddirCtx → Prog Unit}

/-- A request that delivers a buffer has listed the directory. -/
theorem listThen_delivered (hcoherent : Coherent daemon)
    (hpath : ((listThen ino procedure fill).run daemon).Path trace ending)
    (hsilent : ∀ parent, (procedure parent).Within Change.apply silentParts)
    (hdelivers : Delivers daemon ending buffer) :
    ∃ parent chain daemon₁ front rest,
      ((procedure parent).run daemon).Path front (.done (0, chain) daemon₁) ∧
      ((fill chain).run daemon₁).Path rest ending ∧ daemon₁.replies = daemon.replies ∧
      front <+: trace := by
  rw [listThen] at hpath
  rcases hcoherent.path_ilookup hpath with ⟨-, hpath⟩ | ⟨parent, -, hpath⟩
  · rw [hpath.2] at hdelivers
    exact absurd hdelivers not_repliedWith_crashed
  · rcases Program.path_bind.mp hpath with
      ⟨⟨err, chain⟩, daemon₁, front, rest, hfirst, hrest, rfl⟩ |
      ⟨reason, daemon₁, -, rfl⟩
    · have hreplies : daemon₁.replies = daemon.replies :=
        silent (hsilent parent) daemon front _ hfirst
      dsimp only at hrest
      by_cases herr : err ≠ 0
      · rw [if_pos herr] at hrest
        cases (repliedWith_reply_iff hreplies hrest).mp hdelivers
      · rw [if_neg herr] at hrest
        obtain rfl : err = 0 := not_not.mp herr
        obtain ⟨granted, last, rfl, hlast⟩ := Prog.path_malloc_bind.mp hrest
        cases granted with
        | false => cases (repliedWith_reply_iff hreplies hlast).mp hdelivers
        | true =>
          exact ⟨parent, chain, daemon₁, front, last, hfirst, hlast, hreplies,
            List.prefix_append _ _⟩
    · exact absurd hdelivers not_repliedWith_crashed

/-- A request delivers a buffer if the directory can be listed and the buffer filled. -/
theorem listThen_delivers (hcoherent : Coherent daemon)
    (hpath : ((listThen ino procedure fill).run daemon).Path trace ending) {parent : ℕ}
    (hfind : daemon.findIno ino = some parent) (hfavourable : ∀ event ∈ trace, Favourable event)
    (hsilent : (procedure parent).Within Change.apply silentParts)
    (hprocedure : ∀ front listed, front <+: trace →
      ((procedure parent).run daemon).Path front listed →
      ∃ chain daemon₁, listed = .done (0, chain) daemon₁ ∧
        ∀ rest filled, ((fill chain).run daemon₁).Path rest filled →
          ∃ buffer, Delivers daemon₁ filled buffer) : ∃ buffer, Delivers daemon ending buffer := by
  rw [listThen, hcoherent.ilookup_bind, hfind] at hpath
  rcases Program.path_bind.mp hpath with ⟨⟨err, chain⟩, daemon₁, front, rest, hfirst, hrest, rfl⟩ |
    ⟨reason, daemon₁, hcrash, rfl⟩
  · obtain ⟨_, _, heq, hfill⟩ := hprocedure front _ (List.prefix_append _ _) hfirst
    cases heq
    have hreplies : daemon₁.replies = daemon.replies := silent hsilent daemon front _ hfirst
    dsimp only at hrest
    rw [if_neg (not_not.mpr rfl)] at hrest
    obtain ⟨granted, last, rfl, hlast⟩ := Prog.path_malloc_bind.mp hrest
    cases granted with
    | false => cases hfavourable _ (List.mem_append_right _ List.mem_cons_self)
    | true =>
      obtain ⟨buffer, hdelivers⟩ := hfill _ _ hlast
      rw [Delivers, RepliedWith, hreplies] at hdelivers
      exact ⟨buffer, hdelivers⟩
  · obtain ⟨_, _, heq, -⟩ := hprocedure trace _ List.prefix_rfl hcrash
    cases heq

end Steps

/-- What `hsx_fuse_readdir` delivers. -/
theorem hsxFuseReaddir_fromPage (hcoherent : Coherent daemon)
    (hserves : ∀ event ∈ trace, Serves dir event)
    (hpath : ((hsxFuseReaddir plat ino size off).run daemon).Path trace ending)
    (hdelivers : Delivers daemon ending buffer) : FromPage plat dir false size off buffer := by
  rw [hsxFuseReaddir_eq] at hpath
  obtain ⟨parent, chain, daemon₁, front, rest, hfirst, hrest, hreplies, hstarts⟩ :=
    listThen_delivered hcoherent hpath
      (fun parent ↦ within_hsiNfs3Readdir silentCalls parent silent_verifier _ _) hdelivers
  obtain ⟨res, back, rfl, -, -, hchain⟩ := hsiNfs3Readdir_listed hfirst
  cases (repliedWith_reply_iff hreplies hrest).mp hdelivers
  refine ⟨res.entries, hserves _ (hstarts.mem List.mem_cons_self), ?_⟩
  rw [packDirents_eq, hchain]

/-- The acquired objects are those of the entries. -/
def Identified (daemon : Daemon) (chain : List ReaddirCtx) : Prop :=
  ∀ ctx ∈ chain, ∀ index, ctx.inode = .obj index →
    index < daemon.heap.length ∧ (daemon.inode index).fileid = ctx.stIno

/-- The loop of `hsx_fuse_readdir_plus` keeps the entries that fit. -/
theorem packDirentsPlus_listed {chain : List ReaddirCtx} {len : ℕ} {done entries : List DirentPlus}
    {daemon' : Daemon} (hcoherent : Coherent daemon) (hids : Identified daemon chain)
    (hpath : ((packDirentsPlus plat size chain len done).run daemon).Path trace
      (.done entries daemon')) :
    entries.map DirentPlus.dirent = done.map DirentPlus.dirent ++
      fitting (plat.entrySize true) size (chain.map ReaddirCtx.dirent) len := by
  induction chain generalizing len done daemon with
  | nil =>
    cases hpath.2
    exact (List.append_nil _).symm
  | cons ctx rest ih =>
    obtain ⟨hctx, hrest⟩ := List.forall_mem_cons.mp hids
    unfold packDirentsPlus at hpath
    cases hptr : ctx.inode with
    | null =>
      rw [hptr] at hpath
      cases hpath.2
    | err error =>
      rw [hptr] at hpath
      cases hpath.2
    | obj index =>
      obtain ⟨hlt, hfileid⟩ := hctx index hptr
      have hentry : (hsfsGenericFillattr (daemon.inode index)).stIno = ctx.stIno :=
        (hcoherent.inodeOk index hlt).realIno_eq.trans hfileid
      rw [hptr, Program.bind_run_of_ret (hsxFuseFillReply_obj_run hcoherent index)] at hpath
      have hcost : plat.entrySize true ctx.dirent = plat.direntPlusSize ctx.name := rfl
      rw [List.map_cons, fitting, hcost]
      by_cases hfull : plat.direntPlusSize ctx.name ≥ size - len
      · rw [if_pos hfull] at hpath ⊢
        cases hpath.2
        exact (List.append_nil _).symm
      · rw [if_neg hfull,
          Program.bind_run_of_ret (hsxFuseRefInc_obj_run hcoherent index 1)] at hpath
        have hids' : Identified (daemon.setInode index
            { daemon.inode index with priv := (daemon.inode index).priv + 1 }) rest := by
          intro other hmem index' hptr'
          obtain ⟨hlt', hfileid'⟩ := hrest other hmem index' hptr'
          rw [Daemon.setInode_length]
          refine ⟨hlt', ?_⟩
          rcases eq_or_ne index' index with rfl | hne
          · rw [Daemon.inode_setInode_self hlt']
            exact hfileid'
          · rw [Daemon.inode_setInode_ne hne]
            exact hfileid'
        rw [if_neg hfull, ih (hcoherent.setPriv hlt _) hids' hpath, List.map_append,
          List.append_assoc]
        have hdirent : DirentPlus.dirent
          ⟨ctx.name, entryParam daemon.sb (daemon.inode index), ctx.off⟩ =
            ctx.dirent := by
          rw [DirentPlus.dirent, ReaddirCtx.dirent, ← hentry]
          rfl
        rw [List.map_singleton, hdirent]
        rfl

/-- The objects acquired for described entries are those of the entries. -/
theorem Acquiring.identified {daemon' : Daemon} {entries : List Entryplus3}
    {acquired : List ReaddirCtx} {stop : ListingStop}
    (h : Acquiring daemon entries trace acquired stop daemon') (hstop : stop ≠ .spin)
    (hcoherent : Coherent daemon) (hdescribed : ∀ entry ∈ entries, entry.Described) :
    Identified daemon' acquired := by
  induction h with
  | spin _ _ => exact absurd rfl hstop
  | @step daemon daemon₁ daemon' entry rest handle front back ptr acquired stop hhandle hpath hrest
      ih =>
    obtain ⟨⟨hcoherent₁, -⟩, hptr, -⟩ := hcoherent.fhget (nfsCopyFh3_wellFormed handle) hpath
    obtain ⟨-, hgrows⟩ := hrest.keeps hstop hcoherent₁
    rw [List.forall_mem_cons] at hdescribed
    refine List.forall_mem_cons.mpr ⟨fun index heq ↦ ?_, ih hstop hcoherent₁ hdescribed.2⟩
    obtain ⟨hlt, hfileid, -⟩ := hptr index heq
    refine ⟨hlt.trans_le hgrows.length_le, ?_⟩
    rw [hgrows.fileid_eq index hlt, hfileid]
    obtain ⟨-, husable, hsame⟩ := hdescribed.1
    cases hattr : entry.nameAttributes with
    | none =>
      rw [hattr] at husable
      cases husable
    | some attributes => exact hsame attributes hattr
  | _ => exact List.forall_mem_nil _

/-- What `hsx_fuse_readdir_plus` delivers. -/
theorem hsxFuseReaddirPlus_fromPage (hcoherent : Coherent daemon)
    (hserves : ∀ event ∈ trace, Serves dir event)
    (hpath : ((hsxFuseReaddirPlus plat ino size off).run daemon).Path trace ending)
    (hdelivers : Delivers daemon ending buffer) : FromPage plat dir true size off buffer := by
  rw [hsxFuseReaddirPlus_eq] at hpath
  obtain ⟨parent, chain, daemon₁, front, rest, hfirst, hrest, hreplies, hstarts⟩ :=
    listThen_delivered hcoherent hpath
      (fun parent ↦ within_hsiNfs3ReaddirPlus silentCalls plat parent silent_verifier _ _ _)
        hdelivers
  obtain ⟨outcome, back, rfl, ⟨-, -, err, hne, heq⟩ |
    ⟨res, acquired, stop, daemon₂, rfl, hstatus, hacquiring, hfinish⟩⟩ :=
      hsiNfs3ReaddirPlus_path hcoherent hfirst
  · cases heq
    exact absurd rfl hne
  obtain rfl := ListingStop.completed_of_listed hfinish
  cases hfinish.2
  obtain ⟨hpage, hdescribed⟩ := hserves _ (hstarts.mem List.mem_cons_self)
  obtain ⟨hcoherent₀, -⟩ := hcoherent.listing hstatus res.cookieverf
  have hcoherent₂ := (hacquiring.keeps ListingStop.completed_ne_spin hcoherent₀).1
  have hids := hacquiring.identified ListingStop.completed_ne_spin hcoherent₀ hdescribed
  have hchain : chain.map ReaddirCtx.dirent =
      (res.entries.map Entryplus3.plain).map Entry3.dirent := by
    rw [hacquiring.map_dirent, hacquiring.completed_iff.mp rfl, List.take_length, List.map_map]
    rfl
  rcases Program.path_bind.mp hrest with ⟨entries, daemon₃, t₁, t₂, hpack, hreply, -⟩ |
    ⟨reason, daemon₃, -, rfl⟩
  · have hsilent := silent (within_packDirentsPlus silentCounts plat size chain 0 []) _ _ _ hpack
    cases (repliedWith_reply_iff (hsilent.trans hreplies) hreply).mp hdelivers
    refine ⟨_, hpage, ?_⟩
    rw [packDirentsPlus_listed hcoherent₂ hids hpack, hchain]
    rfl
  · exact absurd hdelivers not_repliedWith_crashed

/-- The server answers every call, there is memory, the directory is cached, the attributes that
come with its entries are its own, and there are numbers for new inodes. -/
structure Undisturbed (daemon : Daemon) (ino : UInt64) (trace : Trace) : Prop where
  favourable : ∀ event ∈ trace, Favourable event
  accepted : ∃ parent < daemon.heap.length, daemon.findIno ino = some parent ∧
    ¬ Refused (daemon.inode parent) trace
  room : daemon.heap.length + grantedCount trace < 2 ^ 64

theorem copyEntries_succeeds {entries : List Entry3} {chain : List ReaddirCtx}
    {listed : Ending Fault Daemon (ℤ × List ReaddirCtx)}
    (hfavourable : ∀ event ∈ trace, Favourable event)
    (hpath : ((copyEntries entries chain).run daemon).Path trace listed) :
    ∃ result daemon', listed = .done (0, result) daemon' := by
  induction entries generalizing chain trace with
  | nil => exact ⟨_, _, hpath.2⟩
  | cons entry rest ih =>
    rcases path_allocCopyName_bind.mp hpath with
      ⟨t, rfl, hloop⟩ | ⟨t, rfl, hloop⟩ | ⟨t, rfl, hloop⟩
    · cases hfavourable _ List.mem_cons_self
    · cases hfavourable _ (List.mem_cons_of_mem _ List.mem_cons_self)
    · exact ih (fun event hmem ↦ hfavourable event (List.mem_cons_of_mem _
        (List.mem_cons_of_mem _ hmem))) hloop

/-- A listing whose reply is accepted succeeds. -/
theorem hsiNfs3Readdir_succeeds {parent : ℕ} {count : UInt32} {cookie : UInt64}
    {listed : Ending Fault Daemon (ℤ × List ReaddirCtx)}
    (hfavourable : ∀ event ∈ trace, Favourable event)
    (haccepted : ¬ Refused (daemon.inode parent) trace)
    (hpath : ((hsiNfs3Readdir parent count cookie).run daemon).Path trace listed) :
    ∃ chain daemon', listed = .done (0, chain) daemon' := by
  unfold hsiNfs3Readdir at hpath
  rw [Prog.getInode_bind] at hpath
  obtain ⟨outcome, rest, rfl, hrest⟩ := Prog.path_clntCall_bind.mp hpath
  obtain ⟨res, rfl⟩ := favourable_call (hfavourable _ List.mem_cons_self)
  have hstatus : ¬ daemon.listingStatus parent res.dirAttributes ≠ 0 := fun hne ↦
    haccepted ⟨_, List.mem_cons_self, res.dirAttributes, rfl, hne⟩
  dsimp only at hrest
  rw [Program.bind_run, beginListing_run, if_neg hstatus, Resumption.bind_ret,
    if_neg (not_not.mpr rfl)] at hrest
  exact copyEntries_succeeds (fun event hmem ↦ hfavourable event (List.mem_cons_of_mem _ hmem))
    hrest

/-- With memory, an object is acquired for every described entry. -/
theorem Acquiring.isObj_of_described {daemon' : Daemon} {entries : List Entryplus3}
    {acquired : List ReaddirCtx} {stop : ListingStop}
    (h : Acquiring daemon entries trace acquired stop daemon')
    (hdescribed : ∀ entry ∈ entries, entry.Described) (hgranted : inodeDenied ∉ trace) :
    ∀ ctx ∈ acquired, ctx.inode.isObj = true := by
  induction h with
  | step hhandle hpath hrest ih =>
    rw [List.forall_mem_cons] at hdescribed
    simp only [List.mem_cons, List.mem_append, not_or] at hgranted
    obtain ⟨-, -, hfront, hback⟩ := hgranted
    refine List.forall_mem_cons.mpr ⟨?_, ih hdescribed.2 hback⟩
    rcases hpath.ptr_cases with ⟨index, rfl, -⟩ | ⟨error, rfl, -, hunusable | hdenied⟩
    · rfl
    · rw [hdescribed.1.2.1] at hunusable
      cases hunusable
    · exact absurd hdenied hfront
  | _ => exact List.forall_mem_nil _

theorem hsxFuseReaddir_delivers (hcoherent : Coherent daemon)
    (hundisturbed : Undisturbed daemon ino trace)
    (hpath : ((hsxFuseReaddir plat ino size off).run daemon).Path trace ending) :
    ∃ buffer, Delivers daemon ending buffer := by
  obtain ⟨hfavourable, ⟨parent, -, hfind, haccepted⟩, -⟩ := hundisturbed
  rw [hsxFuseReaddir_eq] at hpath
  refine listThen_delivers hcoherent hpath hfind hfavourable
    (within_hsiNfs3Readdir silentCalls parent silent_verifier _ _)
      fun front listed hstarts hlist ↦ ?_
  obtain ⟨chain, daemon₁, rfl⟩ := hsiNfs3Readdir_succeeds
    (fun event hmem ↦ hfavourable event (hstarts.mem hmem))
    (fun ⟨event, hmem, hrefused⟩ ↦ haccepted ⟨event, hstarts.mem hmem, hrefused⟩) hlist
  exact ⟨chain, daemon₁, rfl, fun rest filled hfill ↦
    ⟨_, (repliedWith_reply_iff rfl hfill).mpr rfl⟩⟩

theorem hsxFuseReaddirPlus_delivers (hcoherent : Coherent daemon)
    (hserves : ∀ event ∈ trace, Serves dir event) (hundisturbed : Undisturbed daemon ino trace)
    (hpath : ((hsxFuseReaddirPlus plat ino size off).run daemon).Path trace ending) :
    ∃ buffer, Delivers daemon ending buffer := by
  obtain ⟨hfavourable, ⟨parent, hlt, hfind, haccepted⟩, hroom⟩ := hundisturbed
  rw [hsxFuseReaddirPlus_eq] at hpath
  refine listThen_delivers hcoherent hpath hfind hfavourable
    (within_hsiNfs3ReaddirPlus silentCalls plat parent silent_verifier _ _ _)
    fun front listed hstarts hlist ↦ ?_
  obtain ⟨outcome, back, rfl, hruns⟩ := hsiNfs3ReaddirPlus_path hcoherent hlist
  have hmem := hstarts.mem List.mem_cons_self
  obtain ⟨res, rfl⟩ := favourable_call (hfavourable _ hmem)
  rcases hruns with ⟨-, hrefused, -⟩ |
    ⟨_, acquired, stop, daemon₁, heq, hstatus, hacquiring, hfinish⟩
  · exact absurd ⟨_, hmem, res.dirAttributes, rfl, hrefused res rfl⟩ haccepted
  cases heq
  obtain ⟨-, hdescribed⟩ := hserves _ hmem
  obtain ⟨hcoherent₀, -⟩ := hcoherent.listing hstatus res.cookieverf
  have hlength := daemon.listing_length parent res.dirAttributes res.cookieverf
  have hgranted (site : MallocSite) : (⟨.malloc site, false⟩ : Event EnvAns) ∉ back := fun hdenied ↦
    hfavourable _ (hstarts.mem (List.mem_cons_of_mem _ hdenied))
  have hcount : grantedCount back ≤ grantedCount trace :=
    ((List.sublist_cons_self _ _).trans hstarts.sublist).countP_le
  obtain rfl : stop = .completed := by
    rcases hacquiring.completed_or hgranted with ⟨hstop, -⟩ | ⟨-, entry, hentry, hnone⟩ | rfl
    · exact hstop
    · rw [(hdescribed entry hentry).1] at hnone
      cases hnone
    · rcases hacquiring.room hcoherent₀ (by omega) with ⟨hne, -⟩ | ⟨-, hfull⟩
      · exact absurd rfl hne
      · omega
  cases hfinish.2
  have hcoherent₁ := (hacquiring.keeps ListingStop.completed_ne_spin hcoherent₀).1
  have hcached : ∀ ctx ∈ acquired, ctx.inode.Cached daemon₁ :=
    hacquiring.lt_length ListingStop.completed_ne_spin hcoherent₀
  have hobj := hacquiring.isObj_of_described hdescribed (hgranted .nfsInode)
  refine ⟨acquired, daemon₁, rfl, fun rest filled hfill ↦ ?_⟩
  have hvisited : ∀ ok ∈ (acquired.map (·.inode.isObj)).take
      (visitedCount plat size (acquired.map (·.name)) 0), ok = true := fun ok hok ↦ by
    obtain ⟨ctx, hctx, rfl⟩ := List.mem_map.mp (List.mem_of_mem_take hok)
    exact hobj ctx hctx
  rcases Program.path_bind.mp hfill with ⟨entries, daemon₂, t₁, t₂, hpack, hreply, -⟩ |
    ⟨reason, daemon₂, hcrash, -⟩
  · have hsilent := silent (within_packDirentsPlus silentCounts plat size acquired 0 []) _ _ _ hpack
    exact ⟨_, (repliedWith_reply_iff hsilent hreply).mpr rfl⟩
  · obtain ⟨-, ⟨-, _, _, heq, -⟩ | ⟨hnot, -⟩⟩ := packDirentsPlus_ending hcoherent₁ hcached hcrash
    · cases heq
    · exact absurd hvisited hnot

end Calls

/-! ## Scans -/

section Scans

variable {plat : Platform} {dir : Directory} {ino : UInt64} {received buffer : List Dirent}
  {plus : Bool} {size : ℕ} {daemon : Daemon} {trace : Trace} {ending : Ending Fault Daemon Unit}

theorem ScanCall.fromPage (h : ScanCall plat dir ino received plus size daemon trace ending)
    (hdelivers : Delivers daemon ending buffer) :
    FromPage plat dir plus size (resumeOffset received) buffer := by
  have hpath := h.path
  cases plus with
  | false => exact hsxFuseReaddir_fromPage h.coherent h.serves hpath hdelivers
  | true => exact hsxFuseReaddirPlus_fromPage h.coherent h.serves hpath hdelivers

theorem ScanCall.delivers (h : ScanCall plat dir ino received plus size daemon trace ending)
    (hundisturbed : Undisturbed daemon ino trace) : ∃ buffer, Delivers daemon ending buffer := by
  have hpath := h.path
  cases plus with
  | false => exact hsxFuseReaddir_delivers h.coherent hundisturbed hpath
  | true => exact hsxFuseReaddirPlus_delivers h.coherent h.serves hundisturbed hpath

/-- A request goes on where the scan was, and an empty buffer means the end exactly if the next
entry fits with room to spare. -/
theorem ScanCall.goes_on (h : ScanCall plat dir ino received plus size daemon trace ending)
    (hreceived : received <+: dir.listing) (hdelivers : Delivers daemon ending buffer) :
    received ++ buffer <+: dir.listing ∧ ((buffer = [] → received = dir.listing) ↔
      ∀ next ∈ dir.listing[received.length]?, plat.entrySize plus next < size) := by
  rw [dir.listing_eq] at hreceived ⊢
  obtain ⟨read, ⟨rest, hentries⟩, rfl⟩ := List.prefix_map_iff.mp hreceived
  obtain ⟨page, hpage, rfl⟩ := h.fromPage hdelivers
  rw [resumeOffset_map_dirent, afterKey_lastKey dir.cookies_nodup dir.zero_notMem hentries.symm]
    at hpage
  obtain ⟨hstarts, hiff⟩ := (hpage.map Entry3.dirent).reading (read.map Entry3.dirent)
    (plat.entrySize plus) size
  have hlisting : dir.entries.map Entry3.dirent =
      read.map Entry3.dirent ++ rest.map Entry3.dirent := by
    rw [← hentries, List.map_append]
  have hnext : (dir.entries.map Entry3.dirent)[(read.map Entry3.dirent).length]? =
      (rest.map Entry3.dirent).head? := by
    rw [hlisting, List.getElem?_append_right le_rfl, Nat.sub_self, List.head?_eq_getElem?]
  rw [hnext, ← hiff, hlisting]
  exact ⟨hstarts, imp_congr_right fun _ ↦ by simp⟩

/-- What a scan has received is the beginning of the listing. -/
theorem Scan.isPrefix (h : Scan plat dir ino received) : received <+: dir.listing := by
  induction h with
  | start => exact List.nil_prefix
  | next _ hcall hdelivers _ ih => exact (hcall.goes_on ih hdelivers).1

end Scans

/-- A request of a scan delivers what follows, with an empty buffer only at the end, exactly if the
buffer is larger than the next entry. -/
theorem paging_exact_iff (plat : Platform) (dir : Directory) (ino : UInt64) (received : List Dirent)
    (hscan : Scan plat dir ino received) (plus : Bool) (size : ℕ) (daemon : Daemon) (trace : Trace)
    (ending : Ending Fault Daemon Unit)
    (hcall : ScanCall plat dir ino received plus size daemon trace ending)
    (hundisturbed : Undisturbed daemon ino trace) :
    (∃ buffer, Delivers daemon ending buffer ∧ received ++ buffer <+: dir.listing ∧
      (buffer = [] → received = dir.listing)) ↔
    ∀ next ∈ dir.listing[received.length]?, plat.entrySize plus next < size := by
  constructor
  · rintro ⟨buffer, hdelivers, -, hend⟩
    exact (hcall.goes_on hscan.isPrefix hdelivers).2.mp hend
  · intro hfits
    obtain ⟨buffer, hdelivers⟩ := hcall.delivers hundisturbed
    obtain ⟨hstarts, hiff⟩ := hcall.goes_on hscan.isPrefix hdelivers
    exact ⟨buffer, hdelivers, hstarts, hiff.mpr hfits⟩

/-- The directory with the one file `f`. -/
def singleFile : Directory where
  entries := [⟨7, [102], 1⟩]
  cookies_nodup := List.nodup_singleton _
  zero_notMem := List.not_mem_cons_of_ne_of_not_mem (by decide) List.not_mem_nil
  name_fits := List.forall_mem_singleton.mpr ⟨by decide, by decide⟩

/-- The answers to a request for it with a buffer of the given size. -/
def singleFileAnswers (size : ℕ) : Trace :=
  [⟨.call (.readdir [0] 0 0 (UInt32.ofNat size)), RpcOutcome.done (.ok ⟨none, 0, [⟨7, [102], 1⟩]⟩)⟩,
    ⟨.malloc .readdirCtx, true⟩, ⟨.malloc .readdirName, true⟩, ⟨.malloc .readdirBuf, true⟩]

/-- The state after that request. -/
def singleFileListed (size : ℕ) : Daemon :=
  (mountedCache.listing 0 none 0).setReplies
    [.dirents (packDirents linuxHost size [⟨1, [102], 7, .null⟩] 0)]

/-- The entry takes 32 bytes, so that a buffer of 32 bytes is large enough. -/
theorem singleFile_call {size : ℕ} (hsize : 32 ≤ size) :
    ScanCall linuxHost singleFile 1 [] false size mountedCache (singleFileAnswers size)
      (.done () (singleFileListed size)) where
  coherent := mounted_mountedCache.coherent
  large next hnext := by
    cases hnext
    exact hsize
  serves := by
    refine List.forall_mem_cons.mpr ⟨⟨List.prefix_rfl, id⟩, ?_⟩
    simp [Serves]
  path := ⟨_, _, rfl, true, _, rfl, true, _, rfl, true, _, rfl, rfl, rfl⟩

/-- Replies without attributes of the directory are not refused. -/
theorem not_refused_of_none {inode : NfsInode} {trace : Trace}
    (h : ∀ event ∈ trace, ∀ attributes ∈ refreshAttributes event, attributes = none) :
    ¬ Refused inode trace := by
  rintro ⟨event, hmem, attributes, hsome, hrefused⟩
  obtain rfl := h event hmem attributes hsome
  exact hrefused rfl

theorem singleFile_undisturbed (size : ℕ) :
    Undisturbed mountedCache 1 (singleFileAnswers size) where
  favourable := by simp [singleFileAnswers, Favourable]
  accepted := by
    refine ⟨0, by decide, rfl, not_refused_of_none ?_⟩
    simp [singleFileAnswers, refreshAttributes]
  room := show mountedCache.heap.length + 0 < 2 ^ 64 by decide

/-- The directory with three files. -/
def threeFiles : Directory where
  entries := [⟨7, [102], 1⟩, ⟨8, [103], 2⟩, ⟨9, [104], 3⟩]
  cookies_nodup := by decide
  zero_notMem := by decide
  name_fits := by decide

/-- The answers to a request of its scan with a buffer of 65 bytes. -/
def pageAnswers (cookie cookieverf : UInt64) (entries : List Entry3) : Trace :=
  ⟨.call (.readdir [0] cookie cookieverf 65), RpcOutcome.done (.ok ⟨none, 5, entries⟩)⟩ ::
    (entries.flatMap fun _ ↦ [⟨.malloc .readdirCtx, true⟩, ⟨.malloc .readdirName, true⟩]) ++
      [⟨.malloc .readdirBuf, true⟩]

/-- The state after a request that has delivered these entries. -/
def pageListed (daemon : Daemon) (buffer : List Dirent) : Daemon :=
  (daemon.listing 0 none 5).setReplies (daemon.replies ++ [.dirents buffer])

/-- The first request of the scan receives two entries. -/
theorem threeFiles_first : ScanCall linuxHost threeFiles 1 [] false 65 mountedCache
    (pageAnswers 0 0 threeFiles.entries)
    (.done () (pageListed mountedCache (threeFiles.listing.take 2))) where
  coherent := mounted_mountedCache.coherent
  large next hnext := by
    cases hnext
    decide
  serves := by
    refine List.forall_mem_cons.mpr ⟨⟨List.prefix_rfl, id⟩, ?_⟩
    simp [threeFiles, Serves]
  path := ⟨_, _, rfl, true, _, rfl, true, _, rfl, true, _, rfl, true, _, rfl, true, _, rfl,
    true, _, rfl, true, _, rfl, rfl, rfl⟩

/-- The second one goes on behind them, with the verifier of the first reply. -/
theorem threeFiles_second : ScanCall linuxHost threeFiles 1 (threeFiles.listing.take 2) false 65
    (pageListed mountedCache (threeFiles.listing.take 2))
    (pageAnswers 2 5 (threeFiles.entries.drop 2))
    (.done () (pageListed (pageListed mountedCache (threeFiles.listing.take 2))
      (threeFiles.listing.drop 2))) where
  coherent := by
    have hstatus : mountedCache.listingStatus 0 none = 0 := by decide
    exact (mounted_mountedCache.coherent.listing hstatus 5).1.setReplies _
  large next hnext := by
    cases hnext
    decide
  serves := by
    refine List.forall_mem_cons.mpr ⟨⟨List.prefix_rfl, id⟩, ?_⟩
    simp [threeFiles, Serves]
  path := ⟨_, _, rfl, true, _, rfl, true, _, rfl, true, _, rfl, rfl, rfl⟩

/-- The second request of the scan delivers the rest of the directory. -/
theorem paging_exact_resumed :
    Scan linuxHost threeFiles 1 (threeFiles.listing.take 2) ∧
    ∃ buffer, Delivers (pageListed mountedCache (threeFiles.listing.take 2))
        (.done () (pageListed (pageListed mountedCache (threeFiles.listing.take 2))
          (threeFiles.listing.drop 2))) buffer ∧
      threeFiles.listing.take 2 ++ buffer <+: threeFiles.listing ∧
      (buffer = [] → threeFiles.listing.take 2 = threeFiles.listing) := by
  have hscan : Scan linuxHost threeFiles 1 (threeFiles.listing.take 2) :=
    .next .start threeFiles_first ⟨_, _, rfl, rfl, rfl⟩ nofun
  have hundisturbed : Undisturbed (pageListed mountedCache (threeFiles.listing.take 2)) 1
      (pageAnswers 2 5 (threeFiles.entries.drop 2)) := by
    refine ⟨?_, ⟨0, by decide, rfl, ?_⟩, ?_⟩
    · simp [pageAnswers, threeFiles, Favourable]
    · apply not_refused_of_none
      simp [pageAnswers, threeFiles, refreshAttributes]
    · decide
  refine ⟨hscan, (paging_exact_iff linuxHost threeFiles 1 _ hscan false 65 _ _ _
    threeFiles_second hundisturbed).mpr ?_⟩
  rintro next ⟨⟩
  decide

/-- A buffer of 32 bytes has room for the entry and comes back empty. -/
theorem paging_exact_fit : ScanCall linuxHost singleFile 1 [] false 32 mountedCache
      (singleFileAnswers 32) (.done () (singleFileListed 32)) ∧
    Undisturbed mountedCache 1 (singleFileAnswers 32) ∧
    Delivers mountedCache (.done () (singleFileListed 32)) [] ∧ [] ≠ singleFile.listing :=
  ⟨singleFile_call le_rfl, singleFile_undisturbed 32, ⟨_, _, rfl, rfl, rfl⟩, nofun⟩

end NfsFuse
