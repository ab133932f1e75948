import NfsFuse.Fuse.Acknowledged
import NfsFuse.Fuse.AttributeRequests
import NfsFuse.Fuse.Overlap
import NfsFuse.Fuse.Transfer

/-!
# Truncations

`hsi_nfs_setattr` leaves a size out that is the cached one, and sends nothing at all if nothing is
left.  That loses a truncation or an extension when the cached size is not the one on the server.
The replies to `LOOKUP`, `GETATTR` and `SETATTR` refresh the cached size, but the one to `WRITE`
does not, although a `WRITE` may extend the file.
-/

namespace NfsFuse

open Lib

attribute [local irreducible] hsiNfsFhget

/-- The size of a file after a `WRITE`.  A call whose reply is lost may have been executed. -/
def Written (offset : UInt64) (count : ℕ) (outcome : RpcOutcome UInt32) (size size' : ℕ) : Prop :=
  match outcome with
  | .done (.ok written) => size' = max size (offset.toNat + written.toNat)
  | .done (.fail _ _) => size' = size
  | .fail _ _ => size' = size ∨ size' = max size (offset.toNat + count)

/-- The size of a file after a `SETATTR`, whose reply reports it. -/
def Resized (asked : Option UInt64) (outcome : RpcOutcome (Option Fattr3)) (size size' : ℕ) :
    Prop :=
  match outcome with
  | .done (.ok attributes) =>
      size' = asked.elim size UInt64.toNat ∧ ∀ attr, attributes = some attr →
        attr.size.toNat = size'
  | .done (.fail _ _) => size' = size
  | .fail _ _ => size' = size ∨ size' = asked.elim size UInt64.toNat

/-- A server on which the size of a file changes by `WRITE` and `SETATTR` only.  Its state is the
size. -/
def sizeServer (file : CachedObject) : Server EnvAns ℕ := fun size event size' ↦
  match event with
  | ⟨.call (.write fh offset count _ _), outcome⟩ =>
      if fh = file.handle.data then Written offset count outcome size size' else size' = size
  | ⟨.call (.setattr fh attributes), outcome⟩ =>
      if fh = file.handle.data then Resized attributes.size outcome size size' else size' = size
  | ⟨.call (.getattr fh), outcome⟩ => size' = size ∧
      (fh = file.handle.data → ∀ attr, outcome = .done (.ok attr) → attr.size.toNat = size)
  | ⟨.call (.lookup _), outcome⟩ => size' = size ∧
      ∀ res, outcome = .done (.ok res) → res.object = file.handle →
        ∀ attr, res.objAttributes = some attr → attr.size.toNat = size
  | _ => size' = size

/-- The requests on a file, and lookups, which may find it. -/
def Request.onFile (ino : UInt64) : Request → Prop
  | .getattr number => number = ino
  | .setattr number _ _ => number = ino
  | .write number _ _ _ => number = ino
  | .lookup _ _ => True
  | _ => False

/-- A request of a run, with the states of the daemon and the sizes of the file before and after. -/
structure SizeMoment where
  before : Daemon
  size : ℕ
  request : Request
  after : Daemon
  size' : ℕ

/-- A request on a file is carried out. -/
inductive SizeStep (plat : Platform) (file : CachedObject) :
    Daemon × ℕ → SizeMoment → Daemon × ℕ → Prop
  | mk {daemon daemon' : Daemon} {size size' fuel : ℕ} {request : Request} {trace : Trace}
      (hrequest : request.onFile file.ino)
      (hpath : ((handle plat fuel request).run daemon).Path trace (.done () daemon'))
      (hserver : (sizeServer file).Gives size trace size') :
      SizeStep plat file (daemon, size) ⟨daemon, size, request, daemon', size'⟩ (daemon', size')

/-- The size that a request asks for. -/
def askedSize (attr : Stat) : ℕ := (UInt64.ofInt attr.stSize).toNat

/-- A step after which an object is still cached. -/
def KeepsHeld (object : CachedObject) (daemon daemon' : Daemon) : Prop :=
  object.Held daemon → object.Held daemon'

section Held

variable {object : CachedObject}

instance : Std.Refl (KeepsHeld object) := ⟨fun _ h ↦ h⟩

instance : IsTrans Daemon (KeepsHeld object) where
  trans _ _ _ h h' := fun hheld ↦ h' (h hheld)

theorem nfsRefresh_format (fattr : NfsFattr) (inode : NfsInode) :
    (nfsRefresh fattr inode).1.iattr.mode &&& sIfmt = inode.iattr.mode &&& sIfmt := by
  unfold nfsRefresh nfsUpdateInode
  split_ifs with _ _ hformat
  · rfl
  · rfl
  · rfl
  · exact (not_not.mp hformat).symm

/-- A refresh keeps the format of an inode. -/
theorem CachedObject.Held.setRefreshed {daemon : Daemon} (h : object.Held daemon) {index : ℕ}
    (hlt : index < daemon.heap.length) (fattr : NfsFattr) :
    object.Held (daemon.setInode index (nfsRefresh fattr (daemon.inode index)).1) := by
  obtain ⟨hino, hfileid, hfh, -⟩ := nfsRefresh_same fattr (daemon.inode index)
  exact h.setInode hlt hino hfileid hfh (nfsRefresh_format _ _)
    ((h.coherent.inodeOk index hlt).nfsRefresh fattr)

theorem held_modifyInode (index : ℕ) {update : NfsInode → NfsInode}
    (h : ∀ daemon, object.Held daemon → index < daemon.heap.length →
      object.Held (daemon.setInode index (update (daemon.inode index)))) :
    (Prog.modifyInode index update).Respects (KeepsHeld object) := by
  refine .modify fun daemon hheld ↦ ?_
  by_cases hlt : index < daemon.heap.length
  · exact h daemon hheld hlt
  · rwa [Daemon.setInode_of_le (not_lt.mp hlt)]

theorem held_nfsRefreshInode (index : ℕ) (fattr : NfsFattr) :
    (nfsRefreshInode index fattr).Respects (KeepsHeld object) := by
  refine .bind (.getInode index) fun _ ↦ .bind ?_ fun _ ↦ .pure _
  exact held_modifyInode index fun _ hheld hlt ↦ hheld.setRefreshed hlt fattr

theorem held_reply (message : FuseReply) : (Prog.reply message).Respects (KeepsHeld object) :=
  .modify fun _ hheld ↦ hheld.setReplies _

theorem held_hsfsIlookup (ino : UInt64) : (hsfsIlookup ino).Respects (KeepsHeld object) := by
  intro daemon trace ptr daemon' hpath hheld
  rw [hsfsIlookup_run hheld.coherent.live] at hpath
  cases hpath.2
  exact hheld

theorem held_ilookup {ino : UInt64} {found : ℕ → Prog Unit} {missing : Prog Unit}
    (hfound : ∀ index, (found index).Respects (KeepsHeld object))
    (hmissing : missing.Respects (KeepsHeld object)) :
    (hsfsIlookup ino >>= fun ptr ↦ match ptr with
      | .obj index => found index
      | _ => missing).Respects (KeepsHeld object) :=
  .ilookup (held_hsfsIlookup ino) hfound hmissing

theorem held_hsiNfsFhget (plat : Platform) {fh : NfsFh} (hfh : fh.WellFormed) (fattr : NfsFattr) :
    (hsiNfsFhget plat fh fattr).Respects (KeepsHeld object) := by
  intro daemon trace ptr daemon' hpath hheld
  have hfhget := (hsiNfsFhget_path_iff plat hheld.coherent.live fh fattr _ _).mp hpath
  have hcoherent := (hheld.coherent.fhget hfh hfhget).1.1
  cases hfhget with
  | rejected _ => exact hheld
  | noMemory _ _ => exact hheld
  | @hit index _ hfind =>
    obtain ⟨hlt, -⟩ := (hheld.coherent.findFile_eq_some_iff hfh fattr index).mp hfind
    rw [(hheld.coherent.inodeOk index hlt).fhgetUpdate_eq]
    exact hheld.setRefreshed hlt fattr
  | @entered id _ _ _ =>
    have hold := Daemon.enter_inode_lt hheld.lt_length fattr.fileid id (daemon.newFile id fh fattr)
    refine ⟨hcoherent, ?_, ?_, ?_, ?_, ?_⟩
    · rw [Daemon.enter_length]
      exact Nat.lt_succ_of_lt hheld.lt_length
    · rw [hold, hheld.ino_eq]
    · rw [hold, hheld.fileid_eq]
    · rw [hold, hheld.fh_eq]
    · rw [hold, hheld.format_eq]

theorem held_hsxFuseRefInc (ptr : InodePtr) (val : UInt64) :
    (hsxFuseRefInc ptr val).Respects (KeepsHeld object) := by
  refine .bind (.deref ptr) fun index ↦ .bind (.getInode index) fun _ ↦ .bind ?_ fun _ ↦ .pure _
  exact held_modifyInode index fun _ hheld hlt ↦ hheld.setPriv hlt _

theorem held_hsxFuseLookup (plat : Platform) (ino : UInt64) (name : CString) :
    (hsxFuseLookup plat ino name).Respects (KeepsHeld object) := by
  refine held_ilookup (fun parent ↦ .bind ?_ fun ⟨err, child⟩ ↦ .ite (held_reply _) ?_)
    (held_reply _)
  · refine .bind (.getInode parent) fun _ ↦ .bind (.clntCall _) fun outcome ↦ ?_
    split
    · exact .pure _
    · exact .pure _
    · exact .bind (held_hsiNfsFhget plat (nfsCopyFh3_wellFormed _) _) fun _ ↦ .pure _
  · have hfound (ptr : InodePtr) : (do
        let _ ← hsxFuseRefInc ptr 1
        let param ← hsxFuseFillReply ptr
        Prog.reply (.entry param)).Respects (KeepsHeld object) :=
      .bind (held_hsxFuseRefInc ptr 1) fun _ ↦ .bind (respects_hsxFuseFillReply ptr) fun _ ↦
        held_reply _
    cases child with
    | null => exact held_reply _
    | err error => exact hfound (.err error)
    | obj index => exact hfound (.obj index)

theorem held_hsxFuseGetattr (ino : UInt64) : (hsxFuseGetattr ino).Respects (KeepsHeld object) := by
  refine held_ilookup (fun index ↦ .bind ?_ fun ⟨err, st⟩ ↦ .ite (held_reply _) ?_) (held_reply _)
  · refine .bind (.getInode index) fun inode ↦ .bind ?_ fun result ↦ ?_
    · refine .bind (.clntCall _) fun outcome ↦ ?_
      split <;> exact .pure _
    · exact .ite (.pure _) (.bind (held_nfsRefreshInode index _) fun _ ↦ .pure _)
  · exact .bind (.getInode index) fun _ ↦ .bind .get fun _ ↦ held_reply _

theorem held_hsxFuseSetattr (ino : UInt64) (attr : Stat) (toSet : UInt32) :
    (hsxFuseSetattr ino attr toSet).Respects (KeepsHeld object) := by
  refine held_ilookup (fun index ↦ .bind ?_ fun err ↦ .ite (held_reply _) ?_) (held_reply _)
  · refine .bind (.getInode index) fun inode ↦ .ite (.pure _) (.bind ?_ fun result ↦ ?_)
    · refine .bind (.getInode index) fun inode ↦ .bind (.clntCall _) fun outcome ↦ ?_
      split <;> exact .pure _
    · exact .ite (.bind (held_nfsRefreshInode index _) fun _ ↦ .pure _) (.pure _)
  · exact .bind (.getInode index) fun _ ↦ .bind .get fun _ ↦ held_reply _

theorem held_writeLoop (index : ℕ) (data : List UInt8) (off : UInt64) (stable : ℤ) (fuel cnt : ℕ) :
    (writeLoop index data off stable fuel cnt).Respects (KeepsHeld object) := by
  induction fuel generalizing cnt with
  | zero => exact .crash _
  | succ fuel ih =>
    refine .ite (.bind .get fun _ ↦ .bind ?_ fun _ ↦ .ite (.pure _) (ih _)) (.pure _)
    refine .bind (.getInode index) fun _ ↦ .bind (.clntCall _) fun outcome ↦ ?_
    split <;> exact .pure _

theorem held_hsxFuseWrite (fuel : ℕ) (ino : UInt64) (data : List UInt8) (off : UInt64)
    (directIo : Bool) : (hsxFuseWrite fuel ino data off directIo).Respects (KeepsHeld object) := by
  refine .bind (.malloc _) fun _ ↦ .ite (held_ilookup (fun index ↦ ?_) (held_reply _))
    (held_reply _)
  exact .bind (held_writeLoop index data off _ fuel 0) fun _ ↦ .ite (held_reply _) (held_reply _)

/-- The file stays cached in every run. -/
theorem CachedObject.Held.step {plat : Platform} {config config' : Daemon × ℕ} {moment : SizeMoment}
    (h : object.Held config.1) (hstep : SizeStep plat object config moment config') :
    object.Held config'.1 := by
  obtain ⟨hrequest, hpath, -⟩ := hstep
  rename_i request _
  cases request with
  | lookup parent name => exact held_hsxFuseLookup plat parent name _ _ _ _ hpath h
  | getattr ino => exact held_hsxFuseGetattr ino _ _ _ _ hpath h
  | setattr ino attr toSet => exact held_hsxFuseSetattr ino attr toSet _ _ _ _ hpath h
  | write ino data off directIo => exact held_hsxFuseWrite _ ino data off directIo _ _ _ _ hpath h
  | _ => exact absurd hrequest id

end Held

/-! ## What a `setattr` does to the size -/

section Setattr

variable {file : CachedObject} {daemon daemon' : Daemon} {attr : Stat} {toSet : UInt32}
  {trace : Trace}

/-- A `setattr` that replies success has sent nothing, or one `SETATTR` that has succeeded. -/
theorem hsxFuseSetattr_succeeded (hheld : file.Held daemon)
    (hpath : ((hsxFuseSetattr file.ino attr toSet).run daemon).Path trace (.done () daemon'))
    (hsuccess : RepliedWith (Request.setattr file.ino attr toSet).isSuccess daemon
      (.done () daemon')) :
    (setattrValid (daemon.inode file.index) (hsxFuseStat2iattr attr toSet) = 0 ∧ trace = []) ∨
      ∃ attributes, trace = [⟨.call (.setattr file.handle.data
        (sentSattr (daemon.inode file.index) attr toSet)),
          RpcOutcome.done (.ok (some attributes))⟩] := by
  rw [hsxFuseSetattr, hheld.coherent.ilookup_bind, hheld.findIno_eq] at hpath
  obtain ⟨err, daemon₁, front, rest, hfirst, hrest, rfl⟩ := Program.path_bind_done.mp hpath
  obtain rfl : rest = [] := by
    refine Program.Emits.trace_eq_nil (.ite (.modify _) ?_) hrest
    exact .bind (.getInode _) fun _ ↦ .bind .get fun _ ↦ .modify _
  rw [List.append_nil]
  have hreplies : daemon₁.replies = daemon.replies :=
    silent (within_hsiNfsSetattr silentCalls file.index _) daemon front _ hfirst
  have herr : err = 0 := by
    by_contra hne
    rw [if_pos hne] at hrest
    exact (repliedWith_reply_iff hreplies hrest).mp hsuccess
  rcases hsiNfsSetattr_path hfirst with ⟨hvalid, rfl, -⟩ | ⟨-, outcome, rfl, hending⟩
  · exact .inl ⟨hvalid, rfl⟩
  · cases hending
    rw [hheld.getfh3_eq]
    obtain ⟨attributes, rfl⟩ := (setattrResult_eq_zero_iff outcome).mp herr
    exact .inr ⟨attributes, rfl⟩

/-- The size that is asked for reaches the server unless it is the cached one. -/
theorem sizeDropped_iff (hheld : file.Held daemon) (hregular : file.type = nf3reg) (size : ℤ) :
    SizeDropped (daemon.inode file.index) size ↔ (daemon.inode file.index).iattr.size = size := by
  have hreg : sIsreg (daemon.inode file.index).iattr.mode = true := by
    rw [sIsreg, hheld.format_eq, hregular]
    decide
  rw [SizeDropped, hreg]
  simp [eq_comm]

theorem setattr_size_iff (hheld : file.Held daemon) (hregular : file.type = nf3reg)
    (hsize : toSet &&& fuseSetAttrSize ≠ 0)
    (hpath : ((hsxFuseSetattr file.ino attr toSet).run daemon).Path trace (.done () daemon'))
    (hsuccess : RepliedWith (Request.setattr file.ino attr toSet).isSuccess daemon
      (.done () daemon'))
    {size size' : ℕ} (hserver : (sizeServer file).Gives size trace size') :
    size' = askedSize attr ↔
      ((daemon.inode file.index).iattr.size = attr.stSize → size = askedSize attr) := by
  rw [← sizeDropped_iff hheld hregular]
  have hasked : (hsxFuseStat2iattr attr toSet).valid &&& hsfsAttrSize ≠ 0 :=
    ((stat2iattr_valid_and_ne_zero attr toSet _).trans (by simp +decide)).mpr hsize
  rcases hsxFuseSetattr_succeeded hheld hpath hsuccess with ⟨hvalid, rfl⟩ | ⟨attributes, rfl⟩
  · -- nothing is left to be set, so the size has been dropped
    obtain rfl := hserver
    have hdropped : SizeDropped (daemon.inode file.index) attr.stSize := by
      by_contra hkept
      have hset := (setattrValid_and_size _ _).mpr ⟨hasked, hkept⟩
      rw [hvalid] at hset
      exact hset UInt32.zero_and
    rw [forall_prop_of_true hdropped]
  · obtain ⟨middle, hresized, rfl⟩ := hserver
    have hsent : (sentSattr (daemon.inode file.index) attr toSet).size =
        if toSet &&& fuseSetAttrSize ≠ 0 ∧ ¬ SizeDropped (daemon.inode file.index) attr.stSize then
          some (UInt64.ofInt attr.stSize)
        else none := by rw [sentSattr_eq]
    rw [sizeServer, if_pos rfl] at hresized
    rw [hresized.1, hsent]
    by_cases hdropped : SizeDropped (daemon.inode file.index) attr.stSize
    · rw [forall_prop_of_true hdropped, if_neg fun h ↦ h.2 hdropped]
      exact Iff.rfl
    · rw [if_pos ⟨hsize, hdropped⟩]
      exact iff_of_true rfl fun h ↦ absurd h hdropped

end Setattr

/-- In every run of requests on a regular file, a `setattr` that replies success leaves the size
that was asked for exactly if that was the size on the server already when it was the cached one. -/
theorem truncation_kept_iff {plat : Platform} {file : CachedObject} {daemon : Daemon} {size : ℕ}
    {trail : List SizeMoment} {last : Daemon × ℕ} (hheld : file.Held daemon)
    (hregular : file.type = nf3reg) (hrun : Run (SizeStep plat file) (daemon, size) trail last)
    {moment : SizeMoment} (hmem : moment ∈ trail) {ino : UInt64} {attr : Stat} {toSet : UInt32}
    (hrequest : moment.request = .setattr ino attr toSet) (hsize : toSet &&& fuseSetAttrSize ≠ 0)
    (hsuccess : RepliedWith moment.request.isSuccess moment.before (.done () moment.after)) :
    moment.size' = askedSize attr ↔
      ((moment.before.inode file.index).iattr.size = attr.stSize →
        moment.size = askedSize attr) := by
  let holds (trail : List SizeMoment) (config : Daemon × ℕ) : Prop :=
    file.Held config.1 ∧ ∀ moment ∈ trail, file.Held moment.before ∧
      ∃ after, SizeStep plat file (moment.before, moment.size) moment after
  have hinitial : holds [] (daemon, size) := ⟨hheld, fun _ hnil ↦ absurd hnil List.not_mem_nil⟩
  have hlast : holds trail last := by
    refine hrun.invariant hinitial ?_
    rintro trail _ _ _ ⟨hheld, htrail⟩ hstep
    refine ⟨hheld.step hstep, fun moment hmoment ↦ ?_⟩
    rcases List.mem_append.mp hmoment with hold | hnew
    · exact htrail moment hold
    · obtain rfl := List.mem_singleton.mp hnew
      cases hstep with
      | mk hrequest hpath hserver => exact ⟨hheld, _, .mk hrequest hpath hserver⟩
  obtain ⟨hbefore, after, hstep⟩ := hlast.2 moment hmem
  obtain ⟨before, size, request, daemon', size'⟩ := moment
  cases hstep with
  | mk honFile hpath hserver =>
    subst hrequest
    obtain rfl : ino = file.ino := honFile
    exact setattr_size_iff hbefore hregular hsize hpath hsuccess hserver

/-- The file of `smallChunks`. -/
def chunkFile : CachedObject := ⟨1, 2, 7, ⟨[7], fileHandle_fits⟩, nf3reg⟩

theorem held_chunkFile : chunkFile.Held smallChunks :=
  ⟨coherent_smallChunks, by decide, rfl, rfl, rfl, rfl⟩

/-- The attributes of a request to set a size. -/
def sizedStat (size : ℤ) : Stat := { (default : Stat) with stSize := size }

/-- A request to set the size of the file. -/
def resize (size : ℤ) : Request := .setattr 2 (sizedStat size) fuseSetAttrSize

theorem resize_onFile (size : ℤ) : (resize size).onFile chunkFile.ino := rfl

/-- The answers to a truncation to 256 bytes. -/
def shortened : Trace :=
  [⟨.call (.setattr [7] (sentSattr (smallChunks.inode 1) (sizedStat 256) fuseSetAttrSize)),
    RpcOutcome.done (.ok (some { plainAttr with size := 256 }))⟩]

/-- A truncation to a size that is not the cached one reaches the server. -/
theorem truncation_kept_shorter : ∃ moment last,
    Run (SizeStep linuxHost chunkFile) (smallChunks, 512) [moment] last ∧
    moment.request = resize 256 ∧ moment.size' = 256 := by
  obtain ⟨daemon', hpath, hsuccess⟩ : ∃ daemon',
      ((handle linuxHost 0 (resize 256)).run smallChunks).Path shortened (.done () daemon') ∧
      RepliedWith (resize 256).isSuccess smallChunks (.done () daemon') :=
    ⟨_, ⟨_, _, rfl, rfl, rfl⟩, _, _, rfl, rfl, trivial⟩
  have hserver : (sizeServer chunkFile).Gives 512 shortened 256 := by
    refine ⟨256, ⟨rfl, ?_⟩, rfl⟩
    rintro _ ⟨rfl⟩
    rfl
  have hrun : Run (SizeStep linuxHost chunkFile) (smallChunks, 512) _ _ :=
    Run.nil.snoc (.mk (resize_onFile 256) hpath hserver)
  have hkept := truncation_kept_iff held_chunkFile rfl hrun (List.mem_singleton_self _) rfl
    (by decide) hsuccess
  have hdiffers : (smallChunks.inode 1).iattr.size ≠ 256 := by decide
  exact ⟨_, _, hrun, rfl, hkept.mpr fun hcached ↦ absurd hcached hdiffers⟩

/-- The answers to a write of two bytes at the end of the file. -/
def appended : Trace :=
  [⟨.malloc .writeBuf, true⟩, ⟨.call (.write [7] 512 2 0 [1, 2]), RpcOutcome.done (.ok 2)⟩]

/-- A write makes the file longer than it is cached, and a truncation to the cached size then
succeeds and leaves the file as it is. -/
theorem truncation_lost : ∃ write truncate last,
    Run (SizeStep linuxHost chunkFile) (smallChunks, 512) [write, truncate] last ∧
    truncate.request = resize 512 ∧
    RepliedWith truncate.request.isSuccess truncate.before (.done () truncate.after) ∧
    truncate.size' ≠ 512 := by
  obtain ⟨written, hwrite, hcached⟩ : ∃ written,
      ((handle linuxHost 2 (.write 2 [1, 2] 512 false)).run smallChunks).Path appended
        (.done () written) ∧ written = smallChunks.setReplies [.write 2] :=
    ⟨_, ⟨_, _, rfl, _, _, rfl, rfl, rfl⟩, rfl⟩
  subst hcached
  obtain ⟨daemon', hpath, hsuccess⟩ : ∃ daemon',
      ((handle linuxHost 0 (resize 512)).run (smallChunks.setReplies [.write 2])).Path []
        (.done () daemon') ∧
      RepliedWith (resize 512).isSuccess (smallChunks.setReplies [.write 2]) (.done () daemon') :=
    ⟨_, ⟨rfl, rfl⟩, _, _, rfl, rfl, trivial⟩
  have honFile : (Request.write 2 [1, 2] 512 false).onFile chunkFile.ino := rfl
  have hserver : (sizeServer chunkFile).Gives 512 appended 514 := ⟨512, rfl, 514, rfl, rfl⟩
  have hrun : Run (SizeStep linuxHost chunkFile) (smallChunks, 512) _ _ :=
    (Run.nil.snoc (.mk honFile hwrite hserver)).snoc (.mk (resize_onFile 512) hpath rfl)
  have hlonger : 514 ≠ 512 := by decide
  exact ⟨_, _, _, hrun, rfl, hsuccess, hlonger⟩

end NfsFuse
