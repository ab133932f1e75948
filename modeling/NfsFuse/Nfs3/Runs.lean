import NfsFuse.Nfs3.Coherence

/-!
# Runs of the attribute procedures

Every procedure that gets attributes for an inode it already has ends in `nfs_refresh_inode`.  Here
are the complete runs of those procedures: the one call each of them sends, what it makes of the
outcome, and the inode it leaves behind.
-/

namespace NfsFuse

open Lib

/-- The daemon after `nfs_refresh_inode`. -/
def Daemon.refreshed (daemon : Daemon) (index : ℕ) (fattr : NfsFattr) : Daemon :=
  daemon.setInode index (nfsRefresh fattr (daemon.inode index)).1

theorem nfsRefreshInode_bind {α : Type} (index : ℕ) (fattr : NfsFattr) (next : ℤ → Prog α)
    (daemon : Daemon) : (nfsRefreshInode index fattr >>= next).run daemon =
      (next (nfsRefresh fattr (daemon.inode index)).2).run (daemon.refreshed index fattr) := rfl

/-- Attributes that are refused change nothing. -/
theorem Daemon.refreshed_of_refused {daemon : Daemon} {index : ℕ} {fattr : NfsFattr}
    (h : (nfsRefresh fattr (daemon.inode index)).2 ≠ 0) :
    daemon.refreshed index fattr = daemon := by
  have hsame : (nfsRefresh fattr (daemon.inode index)).1 = daemon.inode index := by
    unfold nfsRefresh nfsUpdateInode at h ⊢
    split_ifs at h ⊢
    · rfl
    · rfl
    · rfl
    · exact absurd rfl h
  rw [Daemon.refreshed, hsame, Daemon.setInode_inode]

/-- What `hsi_nfs3_setattr` makes of an outcome. -/
def setattrResult : RpcOutcome (Option Fattr3) → ℤ × NfsFattr
  | .fail err _ => (err, nfsInitFattr)
  | .done (.fail status _) => (hsiNfs3StatToErrno status, nfsInitFattr)
  | .done (.ok none) => (eagain, nfsInitFattr)
  | .done (.ok (some attributes)) => (0, postFattr (some attributes))

/-- Only a reply with attributes is a success. -/
theorem setattrResult_eq_zero_iff (outcome : RpcOutcome (Option Fattr3)) :
    (setattrResult outcome).1 = 0 ↔ ∃ attributes, outcome = .done (.ok (some attributes)) := by
  match outcome with
  | .fail err hne => simp [setattrResult, hne]
  | .done (.fail status hne) => simp [setattrResult, hsiNfs3StatToErrno_ne_zero hne]
  | .done (.ok none) => simp [setattrResult, eagain]
  | .done (.ok (some attributes)) => simp [setattrResult]

theorem hsiNfs3Setattr_bind_path {α : Type} {index : ℕ} {attr : HsfsIattr}
    {next : ℤ × NfsFattr → Prog α} {daemon : Daemon} {trace : Trace}
    {ending : Ending Fault Daemon α}
    (hpath : ((hsiNfs3Setattr index attr >>= next).run daemon).Path trace ending) :
    ∃ outcome rest,
      trace = ⟨.call (.setattr (hsiNfs3Getfh3 (daemon.inode index)) (sattrOfIattr attr)),
        outcome⟩ ::
        rest ∧ ((next (setattrResult outcome)).run daemon).Path rest ending := by
  obtain ⟨outcome, rest, rfl, hrest⟩ := hpath
  refine ⟨outcome, rest, rfl, ?_⟩
  match outcome with
  | .fail err hne => exact hrest
  | .done (.fail status hne) => exact hrest
  | .done (.ok none) => exact hrest
  | .done (.ok (some attributes)) => exact hrest

/-- The attributes that `hsi_nfs_setattr` passes on. -/
def passedIattr (inode : NfsInode) (attr : HsfsIattr) : HsfsIattr :=
  { attr with valid := setattrValid inode attr }

/-- The daemon after a `SETATTR` with this outcome. -/
def Daemon.afterSetattr (daemon : Daemon) (index : ℕ) (outcome : RpcOutcome (Option Fattr3)) :
    Daemon :=
  if (setattrResult outcome).1 = 0 then daemon.refreshed index (setattrResult outcome).2 else daemon

/-- `hsi_nfs_setattr` either finds nothing to change or sends one `SETATTR`. -/
theorem hsiNfsSetattr_path {index : ℕ} {attr : HsfsIattr} {daemon : Daemon} {trace : Trace}
    {ending : Ending Fault Daemon ℤ}
    (hpath : ((hsiNfsSetattr index attr).run daemon).Path trace ending) :
    (setattrValid (daemon.inode index) attr = 0 ∧ trace = [] ∧ ending = .done 0 daemon) ∨
    (setattrValid (daemon.inode index) attr ≠ 0 ∧ ∃ outcome,
      trace = [⟨.call (.setattr (hsiNfs3Getfh3 (daemon.inode index))
        (sattrOfIattr (passedIattr (daemon.inode index) attr))), outcome⟩] ∧
      ending = .done (setattrResult outcome).1 (daemon.afterSetattr index outcome)) := by
  unfold hsiNfsSetattr at hpath
  rw [Prog.getInode_bind] at hpath
  by_cases hvalid : setattrValid (daemon.inode index) attr = 0
  · left
    simp only [hvalid, if_true] at hpath
    exact ⟨hvalid, hpath⟩
  · right
    simp only [hvalid, if_false] at hpath
    obtain ⟨outcome, rest, rfl, hrest⟩ := hsiNfs3Setattr_bind_path hpath
    refine ⟨hvalid, outcome, ?_⟩
    rw [Daemon.afterSetattr]
    split_ifs at hrest ⊢
    · obtain ⟨rfl, rfl⟩ := hrest
      exact ⟨rfl, rfl⟩
    · obtain ⟨rfl, rfl⟩ := hrest
      exact ⟨rfl, rfl⟩

/-- What `hsi_nfs3_do_getattr` makes of an outcome. -/
def getattrResult (st : Stat) : RpcOutcome Fattr3 → ℤ × NfsFattr × Stat
  | .fail err _ => (err, nfsInitFattr, st)
  | .done (.fail status _) => (hsiNfs3StatToErrno status, nfsInitFattr, st)
  | .done (.ok attr) => (0, hsiNfs3Fattr2fattr attr nfsInitFattr, (hsiNfs3Fattr2stat attr st).2)

/-- The result of `hsi_nfs3_getattr` and the daemon after it. -/
def getattrEnding (daemon : Daemon) (index : ℕ) (st : Stat) (outcome : RpcOutcome Fattr3) :
    Ending Fault Daemon (ℤ × Stat) :=
  let result := getattrResult st outcome
  if result.1 ≠ 0 then .done (result.1, result.2.2) daemon
  else .done ((nfsRefresh result.2.1 (daemon.inode index)).2, result.2.2)
    (daemon.refreshed index result.2.1)

theorem hsiNfs3DoGetattr_bind_path {α : Type} {fh : List UInt8} {st : Stat}
    {next : ℤ × NfsFattr × Stat → Prog α} {daemon : Daemon} {trace : Trace}
    {ending : Ending Fault Daemon α}
    (hpath : ((hsiNfs3DoGetattr fh nfsInitFattr st >>= next).run daemon).Path trace ending) :
    ∃ outcome rest, trace = ⟨.call (.getattr fh), outcome⟩ :: rest ∧
      ((next (getattrResult st outcome)).run daemon).Path rest ending := by
  obtain ⟨outcome, rest, rfl, hrest⟩ := hpath
  refine ⟨outcome, rest, rfl, ?_⟩
  match outcome with
  | .fail err hne => exact hrest
  | .done (.fail status hne) => exact hrest
  | .done (.ok attr) => exact hrest

theorem hsiNfs3Getattr_path {index : ℕ} {st : Stat} {daemon : Daemon} {trace : Trace}
    {ending : Ending Fault Daemon (ℤ × Stat)}
    (hpath : ((hsiNfs3Getattr index st).run daemon).Path trace ending) :
    ∃ outcome, trace = [⟨.call (.getattr (hsiNfs3Getfh3 (daemon.inode index))), outcome⟩] ∧
      ending = getattrEnding daemon index st outcome := by
  unfold hsiNfs3Getattr at hpath
  rw [Prog.getInode_bind] at hpath
  obtain ⟨outcome, rest, rfl, hrest⟩ := hsiNfs3DoGetattr_bind_path hpath
  refine ⟨outcome, ?_⟩
  unfold getattrEnding
  dsimp only at hrest ⊢
  split_ifs at hrest ⊢
  · obtain ⟨rfl, rfl⟩ := hrest
    exact ⟨rfl, rfl⟩
  · obtain ⟨rfl, rfl⟩ := hrest
    exact ⟨rfl, rfl⟩

/-- The call of `hsi_nfs3_link`. -/
abbrev linkCall (daemon : Daemon) (index newparent : ℕ) (name : CString) : Call :=
  .link (hsiNfs3Getfh3 (daemon.inode index)) ⟨hsiNfs3Getfh3 (daemon.inode newparent), name⟩

/-- What `hsi_nfs3_link` can do: a reply with attributes refreshes the inode, and after one without
them the attributes are read. -/
inductive LinkPath (daemon : Daemon) (index newparent : ℕ) (name : CString) :
    Trace → Ending Fault Daemon ℤ → Prop
  | tooLong (hlong : nameMax < name.length) :
      LinkPath daemon index newparent name [] (.done enametoolong daemon)
  | noMemory (hshort : name.length ≤ nameMax) :
      LinkPath daemon index newparent name [⟨.malloc .linkName, false⟩] (.done enomem daemon)
  | overrun (hfull : name.length = nameMax) :
      LinkPath daemon index newparent name [⟨.malloc .linkName, true⟩] (.crashed .undefined daemon)
  | failed (hfits : name.length < nameMax) (outcome : RpcOutcome (Option Fattr3))
      (hstatus : statusOf outcome ≠ 0) :
      LinkPath daemon index newparent name
        [⟨.malloc .linkName, true⟩, ⟨.call (linkCall daemon index newparent name), outcome⟩]
        (.done (statusOf outcome) daemon)
  | refreshed (hfits : name.length < nameMax) (attributes : Fattr3) :
      LinkPath daemon index newparent name
        [⟨.malloc .linkName, true⟩,
          ⟨.call (linkCall daemon index newparent name), .done (.ok (some attributes))⟩]
        (.done (nfsRefresh (postFattr (some attributes)) (daemon.inode index)).2
          (daemon.refreshed index (postFattr (some attributes))))
  | reread (hfits : name.length < nameMax) (outcome : RpcOutcome Fattr3) {value : ℤ × Stat}
      {daemon' : Daemon}
        (hread : getattrEnding daemon index .cleared outcome = .done value daemon') :
      LinkPath daemon index newparent name
        [⟨.malloc .linkName, true⟩,
          ⟨.call (linkCall daemon index newparent name), .done (.ok none)⟩,
          ⟨.call (.getattr (hsiNfs3Getfh3 (daemon.inode index))), outcome⟩]
        (.done value.1 daemon')

theorem getattrEnding_eq_done (daemon : Daemon) (index : ℕ) (st : Stat)
    (outcome : RpcOutcome Fattr3) :
    ∃ value daemon', getattrEnding daemon index st outcome = .done value daemon' := by
  rw [getattrEnding]
  split <;> exact ⟨_, _, rfl⟩

theorem hsiNfs3Link_path {index newparent : ℕ} {name : CString} {daemon : Daemon} {trace : Trace}
    {ending : Ending Fault Daemon ℤ}
    (hpath : ((hsiNfs3Link index newparent name).run daemon).Path trace ending) :
    LinkPath daemon index newparent name trace ending := by
  unfold hsiNfs3Link at hpath
  by_cases hlong : name.length > nameMax
  · rw [if_pos hlong] at hpath
    obtain ⟨rfl, rfl⟩ := hpath
    exact .tooLong hlong
  rw [if_neg hlong] at hpath
  obtain ⟨copied, rest, rfl, hrest⟩ := path_copyName_bind.mp hpath
  cases copied with
  | false =>
    obtain ⟨rfl, rfl⟩ : rest = [] ∧ ending = .done enomem daemon := by simpa using hrest
    exact .noMemory (not_lt.mp hlong)
  | true =>
    by_cases hfits : name.length + 1 ≤ nameMax
    · rw [if_neg (fun h ↦ h.2 hfits), if_pos rfl, Prog.getInode_bind, Prog.getInode_bind] at hrest
      obtain ⟨outcome, back, rfl, hback⟩ := Prog.path_clntCall_bind.mp hrest
      rcases outcome with ⟨err, hne⟩ | attributes | ⟨status, hne⟩
      · obtain ⟨rfl, rfl⟩ := hback
        exact .failed hfits (.fail err hne) hne
      · dsimp only at hback
        cases attributes with
        | none =>
          rw [if_pos (by decide)] at hback
          rcases Program.path_bind.mp hback with ⟨value, daemon₁, front, last, hfirst, hlast, rfl⟩ |
            ⟨reason, daemon₁, hcrash, rfl⟩
          · obtain ⟨outcome, rfl, hread⟩ := hsiNfs3Getattr_path hfirst
            obtain ⟨rfl, rfl⟩ := hlast
            exact .reread hfits outcome hread.symm
          · obtain ⟨outcome, rfl, hread⟩ := hsiNfs3Getattr_path hcrash
            obtain ⟨value, daemon', hdone⟩ := getattrEnding_eq_done daemon index .cleared outcome
            rw [hdone] at hread
            cases hread
        | some attributes =>
          rw [if_neg (postFattr_valid_some attributes)] at hback
          obtain ⟨rfl, rfl⟩ := hback
          exact .refreshed hfits attributes
      · obtain ⟨rfl, rfl⟩ := hback
        exact .failed hfits (.done (.fail status hne)) (hsiNfs3StatToErrno_ne_zero hne)
    · rw [if_pos ⟨rfl, hfits⟩] at hrest
      obtain ⟨rfl, rfl⟩ := hrest
      exact .overrun (by omega)

/-- The status of refreshing a directory from the attributes of a reply. -/
def Daemon.listingStatus (daemon : Daemon) (parent : ℕ) (dirAttributes : Option Fattr3) : ℤ :=
  (nfsRefresh (postFattr dirAttributes) (daemon.inode parent)).2

/-- The daemon after a directory has been refreshed and the verifier of the reply stored. -/
def Daemon.listing (daemon : Daemon) (parent : ℕ) (dirAttributes : Option Fattr3)
    (cookieverf : UInt64) : Daemon :=
  let refreshed := daemon.refreshed parent (postFattr dirAttributes)
  refreshed.setInode parent { refreshed.inode parent with cookieverf := cookieverf }

theorem beginListing_run (daemon : Daemon) (parent : ℕ) (dirAttributes : Option Fattr3)
    (cookieverf : UInt64) : (beginListing parent dirAttributes cookieverf).run daemon =
      if daemon.listingStatus parent dirAttributes ≠ 0 then
        .ret (daemon.listingStatus parent dirAttributes) daemon
      else .ret 0 (daemon.listing parent dirAttributes cookieverf) := by
  unfold Daemon.listingStatus
  rw [beginListing, nfsRefreshInode_bind]
  split_ifs with hstatus
  · rw [Daemon.refreshed_of_refused hstatus]
    rfl
  · rfl

@[simp]
theorem Daemon.listing_length (daemon : Daemon) (parent : ℕ) (dirAttributes : Option Fattr3)
    (cookieverf : UInt64) :
    (daemon.listing parent dirAttributes cookieverf).heap.length = daemon.heap.length := by
  simp [Daemon.listing, Daemon.refreshed]

end NfsFuse
