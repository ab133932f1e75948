import NfsFuse.Fuse.ListingReplies
import NfsFuse.Fuse.LookupCounts

/-!
# Listings with and without attributes

`hsi_nfs3_readdir` and `hsi_nfs3_readdir_plus` copy the entries of a reply in loops of their own.
An entry without attributes is listed by both.  An entry without a handle, which the protocol
allows, is listed by the first only: the second gives up the whole listing.
-/

namespace NfsFuse

open Lib

/-- The entry as a plain listing has it. -/
def Entryplus3.plain (entry : Entryplus3) : Entry3 := ⟨entry.fileid, entry.name, entry.cookie⟩

/-- The plain reply with the same entries. -/
def Readdirplus3resok.plain (res : Readdirplus3resok) : Readdir3resok :=
  ⟨res.dirAttributes, res.cookieverf, res.entries.map Entryplus3.plain⟩

/-- What an element of the chain lists. -/
def ReaddirCtx.dirent (ctx : ReaddirCtx) : Dirent := ⟨ctx.name, ctx.stIno, ctx.off⟩

/-- What an entry of a reply is listed as. -/
def Entry3.dirent (entry : Entry3) : Dirent :=
  ⟨copiedName entry.name, entry.fileid, toOffT entry.cookie⟩

/-! ## The loops -/

/-- Where a loop gives up its chain, it returns the error. -/
theorem not_listed_of_freeCtx {chain result : List ReaddirCtx} {err : ℤ} (herr : err ≠ 0)
    {daemon daemon' : Daemon} {trace : Trace} :
    ¬ ((do
      freeCtx chain
      return (err, []) : Prog (ℤ × List ReaddirCtx)).run daemon).Path trace
        (.done (0, result) daemon') := by
  intro hpath
  rcases Program.path_bind.mp hpath with ⟨_, _, _, _, -, hrest, -⟩ | ⟨_, _, -, heq⟩
  · cases hrest.2
    exact herr rfl
  · cases heq

/-- A run of the loop of `hsi_nfs3_readdir` that succeeds lists every entry. -/
theorem copyEntries_listed {entries : List Entry3} {chain result : List ReaddirCtx}
    {daemon daemon' : Daemon} {trace : Trace}
    (hpath : ((copyEntries entries chain).run daemon).Path trace (.done (0, result) daemon')) :
    daemon' = daemon ∧
      result.map ReaddirCtx.dirent = chain.map ReaddirCtx.dirent ++ entries.map Entry3.dirent := by
  induction entries generalizing chain trace with
  | nil =>
    cases hpath.2
    exact ⟨rfl, (List.append_nil _).symm⟩
  | cons entry rest ih =>
    rcases path_allocCopyName_bind.mp hpath with
      ⟨t, rfl, hloop⟩ | ⟨t, rfl, hloop⟩ | ⟨t, rfl, hloop⟩
    · exact absurd hloop (not_listed_of_freeCtx (by decide))
    · exact absurd hloop (not_listed_of_freeCtx (by decide))
    · obtain ⟨hdaemon, hresult⟩ := ih hloop
      refine ⟨hdaemon, hresult.trans ?_⟩
      rw [List.map_append, List.append_assoc]
      rfl

/-- A run of `hsi_nfs3_readdir` that succeeds has refreshed the directory and lists every entry of
the reply. -/
theorem hsiNfs3Readdir_listed {parent : ℕ} {count : UInt32} {cookie : UInt64} {daemon : Daemon}
    {trace : Trace} {chain : List ReaddirCtx} {daemon' : Daemon}
    (hpath : ((hsiNfs3Readdir parent count cookie).run daemon).Path trace
      (.done (0, chain) daemon')) :
    ∃ res rest, trace = ⟨.call (.readdir (hsiNfs3Getfh3 (daemon.inode parent)) cookie
        (daemon.inode parent).cookieverf count), RpcOutcome.done (.ok res)⟩ :: rest ∧
      daemon.listingStatus parent res.dirAttributes = 0 ∧
      daemon' = daemon.listing parent res.dirAttributes res.cookieverf ∧
      chain.map ReaddirCtx.dirent = res.entries.map Entry3.dirent := by
  unfold hsiNfs3Readdir at hpath
  rw [Prog.getInode_bind] at hpath
  obtain ⟨outcome, rest, rfl, hrest⟩ := Prog.path_clntCall_bind.mp hpath
  rcases outcome with ⟨err, hne⟩ | res | ⟨status, hne⟩
  · cases hrest.2
    exact absurd rfl hne
  · dsimp only at hrest
    rw [Program.bind_run, beginListing_run] at hrest
    by_cases hstatus : daemon.listingStatus parent res.dirAttributes ≠ 0
    · rw [if_pos hstatus, Resumption.bind_ret, if_pos hstatus] at hrest
      injection hrest.2 with hvalue
      exact absurd (congrArg Prod.fst hvalue).symm hstatus
    · rw [if_neg hstatus, Resumption.bind_ret, if_neg (not_not.mpr rfl)] at hrest
      obtain ⟨hdaemon, hchain⟩ := copyEntries_listed hrest
      exact ⟨res, rest, rfl, not_not.mp hstatus, hdaemon, hchain⟩
  · injection hrest.2 with hvalue
    exact absurd (congrArg Prod.fst hvalue).symm (hsiNfs3StatToErrno_ne_zero hne)

section Acquiring

variable {daemon daemon' : Daemon} {entries : List Entryplus3} {trace : Trace}
  {acquired : List ReaddirCtx} {stop : ListingStop}

/-- The entries acquired before the loop of `hsi_nfs3_readdir_plus` stops are listed as in the plain
loop. -/
theorem Acquiring.map_dirent (h : Acquiring daemon entries trace acquired stop daemon') :
    acquired.map ReaddirCtx.dirent =
      (entries.take acquired.length).map fun entry ↦ entry.plain.dirent := by
  induction h with
  | step _ _ _ ih => exact congrArg _ ih
  | _ => rfl

/-- With memory for the names, the loop stops early only at an entry without a handle or for want of
a number. -/
theorem Acquiring.completed_or (h : Acquiring daemon entries trace acquired stop daemon')
    (hgranted : ∀ site, (⟨.malloc site, false⟩ : Event EnvAns) ∉ trace) :
    (stop = .completed ∧ ∀ entry ∈ entries, entry.nameHandle.isSome = true) ∨
      ((∃ ctx, stop = .noHandle ctx) ∧ ∃ entry ∈ entries, entry.nameHandle.isSome = false) ∨
      stop = .spin := by
  induction h with
  | completed => exact Or.inl ⟨rfl, List.forall_mem_nil _⟩
  | noCtx => exact absurd List.mem_cons_self (hgranted .readdirCtx)
  | noName => exact absurd (List.mem_cons_of_mem _ List.mem_cons_self) (hgranted .readdirName)
  | noHandle hhandle =>
    exact Or.inr (Or.inl ⟨⟨_, rfl⟩, _, List.mem_cons_self, by rw [hhandle]; rfl⟩)
  | spin _ _ => exact Or.inr (Or.inr rfl)
  | step hhandle _ _ ih =>
    rcases ih fun site hmem ↦ hgranted site (List.mem_cons_of_mem _ (List.mem_cons_of_mem _
      (List.mem_append_right _ hmem))) with ⟨hstop, hall⟩ | ⟨hstop, entry, hmem, hnone⟩ | hstop
    · refine Or.inl ⟨hstop, List.forall_mem_cons.mpr ⟨?_, hall⟩⟩
      rw [hhandle]
      rfl
    · exact Or.inr (Or.inl ⟨hstop, entry, List.mem_cons_of_mem _ hmem, hnone⟩)
    · exact Or.inr (Or.inr hstop)

/-- Only a listing of all entries succeeds. -/
theorem ListingStop.completed_of_listed {chain result : List ReaddirCtx}
    (hpath : ((stop.finish chain).run daemon).Path trace (.done (0, result) daemon')) :
    stop = .completed := by
  cases stop with
  | completed => rfl
  | noMemory => exact absurd hpath (not_listed_of_freeCtx (by decide))
  | noHandle ctx => exact absurd hpath (not_listed_of_freeCtx (by decide))
  | spin => cases hpath.2

end Acquiring

/-! ## The two procedures -/

/-- The environment of two listings of the same entries, with memory. -/
def Lists (res : Readdirplus3resok) : Event EnvAns → Prop
  | ⟨.call (.readdir ..), outcome⟩ => outcome = .done (.ok res.plain)
  | ⟨.call (.readdirplus ..), outcome⟩ => outcome = .done (.ok res)
  | ⟨.malloc _, granted⟩ => granted = true
  | _ => True

/-- `hsi_nfs3_readdir_plus` lists what `hsi_nfs3_readdir` lists exactly if every entry has a handle
and the numbers do not run out. -/
theorem readdirPlus_lists_iff (plat : Platform) (daemon : Daemon) (hcoherent : Coherent daemon)
    (parent : ℕ) (hparent : parent < daemon.heap.length) (count dircount maxcount : UInt32)
    (cookie : UInt64) (res : Readdirplus3resok) (trace plusTrace : Trace) (chain : List ReaddirCtx)
    (daemon' : Daemon) (ending : Ending Fault Daemon (ℤ × List ReaddirCtx))
    (hplain : ((hsiNfs3Readdir parent count cookie).run daemon).Path trace
      (.done (0, chain) daemon'))
    (hlists : ∀ event ∈ trace, Lists res event)
    (hplus : ((hsiNfs3ReaddirPlus plat parent dircount cookie maxcount).run daemon).Path plusTrace
      ending)
    (hplusLists : ∀ event ∈ plusTrace, Lists res event) :
    (∃ plusChain daemon'', ending = .done (0, plusChain) daemon'' ∧
      plusChain.map ReaddirCtx.dirent = chain.map ReaddirCtx.dirent) ↔
    (∀ entry ∈ res.entries, entry.nameHandle.isSome = true) ∧
      daemon.heap.length + grantedCount plusTrace < 2 ^ 64 := by
  obtain ⟨plain, rest, rfl, hstatus, -, hchain⟩ := hsiNfs3Readdir_listed hplain
  cases show RpcOutcome.done (.ok plain) = .done (.ok res.plain) from hlists _ List.mem_cons_self
  have hlisted : chain.map ReaddirCtx.dirent = res.entries.map fun entry ↦ entry.plain.dirent := by
    rw [hchain]
    exact List.map_map
  obtain ⟨outcome, back, rfl, hruns⟩ := hsiNfs3ReaddirPlus_path hcoherent hplus
  cases show outcome = .done (.ok res) from hplusLists _ List.mem_cons_self
  rcases hruns with ⟨-, hrefused, -⟩ | ⟨_, acquired, stop, daemon₁, heq, -, hacquiring, hfinish⟩
  · exact absurd hstatus (hrefused res rfl)
  cases heq
  obtain ⟨hcoherent₁, -⟩ := hcoherent.listing hstatus res.cookieverf
  have hlength := daemon.listing_length parent res.dirAttributes res.cookieverf
  have hroom := hacquiring.room hcoherent₁ (by omega)
  have hcount : grantedCount (⟨.call (.readdirplus (hsiNfs3Getfh3 (daemon.inode parent)) cookie
    (daemon.inode parent).cookieverf dircount maxcount), RpcOutcome.done (.ok res)⟩ :: back) =
      grantedCount back := rfl
  have hgranted (site : MallocSite) : (⟨.malloc site, false⟩ : Event EnvAns) ∉ back := fun hmem ↦
    Bool.false_ne_true (hplusLists _ (List.mem_cons_of_mem _ hmem))
  rw [hcount, hlisted]
  rcases hacquiring.completed_or hgranted with ⟨rfl, hhandles⟩ | ⟨⟨ctx, rfl⟩, entry, hmem, hnone⟩ |
    rfl
  · cases hfinish.2
    have hcoherent₂ := (hacquiring.keeps ListingStop.completed_ne_spin hcoherent₁).1
    refine iff_of_true ⟨acquired, daemon₁, rfl, ?_⟩ ⟨hhandles, ?_⟩
    · rw [hacquiring.map_dirent, hacquiring.completed_iff.mp rfl, List.take_length]
    · rcases hroom with ⟨-, hgrown⟩ | ⟨heq, -⟩
      · have hlt := hcoherent₂.length_lt
        omega
      · cases heq
  · refine iff_of_false ?_ fun h ↦ ?_
    · rintro ⟨_, _, rfl, -⟩
      cases ListingStop.completed_of_listed hfinish
    · rw [h.1 entry hmem] at hnone
      cases hnone
  · refine iff_of_false ?_ fun h ↦ ?_
    · rintro ⟨_, _, rfl, -⟩
      cases ListingStop.completed_of_listed hfinish
    · rcases hroom with ⟨hne, -⟩ | ⟨-, hfull⟩
      · exact hne rfl
      · omega

theorem otherHandle_fits : [(8 : UInt8)].length ≤ 64 := by
  decide

/-- A directory with the file `f`, a file `g` whose attributes are not reported, and a second name
`h` of `f`. -/
def threeEntries : Readdirplus3resok :=
  ⟨none, 0, [⟨7, [102], 1, some plainAttr, some ⟨[7], fileHandle_fits⟩⟩,
    ⟨8, [103], 2, none, some ⟨[8], otherHandle_fits⟩⟩,
    ⟨7, [104], 3, some plainAttr, some ⟨[7], fileHandle_fits⟩⟩]⟩

/-- The answers to a plain listing of it. -/
def threePlain : Trace :=
  [⟨.call (.readdir [0] 0 0 4096), RpcOutcome.done (.ok threeEntries.plain)⟩,
    ⟨.malloc .readdirCtx, true⟩, ⟨.malloc .readdirName, true⟩, ⟨.malloc .readdirCtx, true⟩,
    ⟨.malloc .readdirName, true⟩, ⟨.malloc .readdirCtx, true⟩, ⟨.malloc .readdirName, true⟩]

/-- The answers to a listing of it with attributes, in which only `f` needs a new inode. -/
def threePlus : Trace :=
  [⟨.call (.readdirplus [0] 0 0 4096 4096), RpcOutcome.done (.ok threeEntries)⟩,
    ⟨.malloc .readdirCtx, true⟩, ⟨.malloc .readdirName, true⟩, ⟨.malloc .nfsInode, true⟩,
    ⟨.malloc .readdirCtx, true⟩, ⟨.malloc .readdirName, true⟩,
    ⟨.malloc .readdirCtx, true⟩, ⟨.malloc .readdirName, true⟩]

/-- Every entry has a handle, and both list the three names. -/
theorem readdirPlus_lists_three : ∃ chain daemon' plusChain daemon'',
    ((hsiNfs3Readdir 0 4096 0).run mountedCache).Path threePlain (.done (0, chain) daemon') ∧
    ((hsiNfs3ReaddirPlus linuxHost 0 4096 0 4096).run mountedCache).Path threePlus
      (.done (0, plusChain) daemon'') ∧
    chain.map ReaddirCtx.name = [[102], [103], [104]] ∧
    plusChain.map ReaddirCtx.dirent = chain.map ReaddirCtx.dirent := by
  obtain ⟨chain, daemon', hplain, hnames⟩ : ∃ chain daemon',
      ((hsiNfs3Readdir 0 4096 0).run mountedCache).Path threePlain (.done (0, chain) daemon') ∧
      chain.map ReaddirCtx.name = [[102], [103], [104]] :=
    ⟨_, _, ⟨_, _, rfl, true, _, rfl, true, _, rfl, true, _, rfl, true, _, rfl, true, _, rfl,
      true, _, rfl, rfl, rfl⟩, rfl⟩
  obtain ⟨ending, hplus⟩ : ∃ ending,
      ((hsiNfs3ReaddirPlus linuxHost 0 4096 0 4096).run mountedCache).Path threePlus ending :=
    ⟨_, _, _, rfl, true, _, rfl, true, _, rfl, true, _, rfl, true, _, rfl, true, _, rfl,
      true, _, rfl, true, _, rfl, rfl, rfl⟩
  obtain ⟨plusChain, daemon'', rfl, hsame⟩ := (readdirPlus_lists_iff linuxHost mountedCache
    mounted_mountedCache.coherent 0 (by decide) 4096 4096 4096 0 threeEntries _ _ _ _ ending hplain
    (by simp [threePlain, Lists]) hplus (by simp [threePlus, Lists])).mpr
    ⟨by simp [threeEntries], by decide⟩
  exact ⟨chain, daemon', plusChain, daemon'', hplain, hplus, hnames, hsame⟩

/-- A directory with the one file `f`. -/
def oneEntry (handle : Option NfsFh3) : Readdirplus3resok :=
  ⟨none, 0, [⟨7, [102], 1, some plainAttr, handle⟩]⟩

/-- The answers to a plain listing of it. -/
def plainAnswers : Trace :=
  [⟨.call (.readdir [0] 0 0 4096), RpcOutcome.done (.ok ⟨none, 0, [⟨7, [102], 1⟩]⟩)⟩,
    ⟨.malloc .readdirCtx, true⟩, ⟨.malloc .readdirName, true⟩]

/-- The answers to a listing of it with attributes, up to the names. -/
def plusAnswers (res : Readdirplus3resok) : Trace :=
  [⟨.call (.readdirplus [0] 0 0 4096 4096), RpcOutcome.done (.ok res)⟩, ⟨.malloc .readdirCtx, true⟩,
    ⟨.malloc .readdirName, true⟩]

theorem plainAnswers_path : ((hsiNfs3Readdir 0 4096 0).run mountedCache).Path plainAnswers
    (.done (0, [⟨1, [102], 7, .null⟩]) (mountedCache.listing 0 none 0)) :=
  ⟨_, _, rfl, true, _, rfl, true, _, rfl, rfl, rfl⟩

/-- A file without a handle makes the listing with attributes fail. -/
theorem readdirPlus_without_handle : ∃ chain daemon' daemon'',
    ((hsiNfs3Readdir 0 4096 0).run mountedCache).Path plainAnswers (.done (0, chain) daemon') ∧
    ((hsiNfs3ReaddirPlus linuxHost 0 4096 0 4096).run mountedCache).Path
      (plusAnswers (oneEntry none)) (.done (enoent, []) daemon'') :=
  ⟨_, _, _, plainAnswers_path, _, _, rfl, true, _, rfl, true, _, rfl, rfl, rfl⟩

end NfsFuse
