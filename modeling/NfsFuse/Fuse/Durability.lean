import NfsFuse.Fuse.Forwarding

/-!
# What survives a restart of the server

A server may keep the data of an unstable `WRITE` in memory until a `COMMIT`, and loses it if it
restarts before that.  The daemon asks for stable storage only for files that are open for direct
I/O; it never sends `COMMIT`, it does not look at the verifier by which a client notices a restart,
and it has no handler for `fsync`.

So the data of an acknowledged direct write is on stable storage, whatever happens later, and for a
run without direct writes nothing that the kernel was told has been written is ever known to be.
-/

namespace NfsFuse

open Lib

/-- Bytes that a `WRITE` has put into a file. -/
structure StoredPiece where
  file : List UInt8
  offset : UInt64
  bytes : List UInt8

/-- What is on stable storage, and what a restart would lose. -/
structure Storage where
  settled : List StoredPiece
  pending : List StoredPiece

namespace Storage

/-- The server goes on, or it restarts. -/
def Continues (before after : Storage) : Prop :=
  after = before ∨ after = { before with pending := [] }

/-- A piece is stored, on stable storage if that was asked for. -/
def put (storage : Storage) (stable : ℤ) (piece : StoredPiece) : Storage :=
  if stable = 0 then { storage with pending := storage.pending ++ [piece] }
  else { storage with settled := storage.settled ++ [piece] }

end Storage

/-- What a server guarantees.  It may restart before any call; a `WRITE` whose reply is not a
success may have been executed or not. -/
def storageServer : Server EnvAns Storage
  | before, ⟨.call (.write file offset _ stable bytes), outcome⟩, after =>
    ∃ current, before.Continues current ∧
      ((∃ count : UInt32, outcome = .done (.ok count) ∧ count.toNat ≤ bytes.length ∧
          after = current.put stable ⟨file, offset, bytes.take count.toNat⟩) ∨
        ((∀ count, outcome ≠ .done (.ok count)) ∧ (after = current ∨
          ∃ count, after = current.put stable ⟨file, offset, bytes.take count⟩)))
  | before, _, after => before.Continues after

/-- A `WRITE` that asks for stable storage. -/
def Settles : Event EnvAns → Prop
  | ⟨.call (.write _ _ _ stable _), _⟩ => stable ≠ 0
  | _ => False

/-- What is on stable storage stays there. -/
def Storage.Keeps (before after : Storage) : Prop := before.settled <+: after.settled

instance : Std.Refl Storage.Keeps := ⟨fun _ ↦ List.prefix_rfl⟩

instance : IsTrans Storage Storage.Keeps := ⟨fun _ _ _ h h' ↦ h.trans h'⟩

/-- Nothing is added to stable storage. -/
def Storage.SameSettled (before after : Storage) : Prop := after.settled = before.settled

instance : Std.Refl Storage.SameSettled := ⟨fun _ ↦ rfl⟩

instance : IsTrans Storage Storage.SameSettled := ⟨fun _ _ _ h h' ↦ h'.trans h⟩

theorem Storage.Continues.settled_eq {before after : Storage} (h : before.Continues after) :
    after.settled = before.settled := by
  rcases h with rfl | rfl <;> rfl

theorem Storage.settled_put_of_eq_zero (storage : Storage) {stable : ℤ} (hstable : stable = 0)
    (piece : StoredPiece) : (storage.put stable piece).settled = storage.settled := by
  rw [put, if_pos hstable]

theorem Storage.settled_put_of_ne_zero (storage : Storage) {stable : ℤ} (hstable : stable ≠ 0)
    (piece : StoredPiece) :
    (storage.put stable piece).settled = storage.settled ++ [piece] := by
  rw [put, if_neg hstable]

/-- A step adds to stable storage only if that is asked for, and takes nothing away. -/
theorem storageServer_step {before after : Storage} {event : Event EnvAns}
    (h : storageServer before event after) : after.settled = before.settled ∨
      Settles event ∧ ∃ piece, after.settled = before.settled ++ [piece] := by
  -- of all events only a `WRITE` does more than go on
  have hput {current : Storage} (hcurrent : before.Continues current) (stable : ℤ)
      (piece : StoredPiece) : (current.put stable piece).settled = before.settled ∨
        stable ≠ 0 ∧ ∃ added, (current.put stable piece).settled = before.settled ++ [added] := by
    by_cases hstable : stable = 0
    · left
      rw [current.settled_put_of_eq_zero hstable, hcurrent.settled_eq]
    · right
      exact ⟨hstable, piece, by
        rw [current.settled_put_of_ne_zero hstable, hcurrent.settled_eq]⟩
  obtain ⟨op, answer⟩ := event
  cases op with
  | call procedure =>
    cases procedure with
    | write file offset count stable bytes =>
      obtain ⟨current, hcurrent, ⟨count, -, -, rfl⟩ | ⟨-, rfl | ⟨count, rfl⟩⟩⟩ := h
      · exact hput hcurrent stable _
      · exact .inl hcurrent.settled_eq
      · exact hput hcurrent stable _
    | _ => exact .inl h.settled_eq
  | _ => exact .inl h.settled_eq

theorem storageServer_keeps {before after : Storage} {event : Event EnvAns}
    (h : storageServer before event after) : before.Keeps after := by
  rcases storageServer_step h with hsame | ⟨-, piece, hadded⟩
  · exact ⟨[], by rw [hsame, List.append_nil]⟩
  · exact ⟨[piece], hadded.symm⟩

theorem gives_keeps {before after : Storage} {trace : Trace}
    (h : storageServer.Gives before trace after) : before.Keeps after :=
  h.respects (fun _ _ _ (_ : True) hstep ↦ storageServer_keeps hstep) fun _ _ ↦ trivial

theorem gives_sameSettled {before after : Storage} {trace : Trace}
    (h : storageServer.Gives before trace after) (hnone : ∀ event ∈ trace, ¬Settles event) :
    before.SameSettled after := by
  apply h.respects _ hnone
  intro before event after hnot hstep
  exact (storageServer_step hstep).resolve_right fun hsettles ↦ hnot hsettles.1

/-! ## Buffered writes -/

/-- A write to a file that is open for direct I/O. -/
def Request.direct : Request → Bool
  | .write _ _ _ directIo => directIo
  | _ => false

/-- No other request stands for a `WRITE`. -/
theorem modification_ne_write {cached : UInt64 → Option NfsInode} {request : Request}
    {file bytes : List UInt8} {offset : UInt64} {count : ℕ} {stable : ℤ} :
    request.modification cached ≠ some (.write file offset count stable bytes) := by
  cases request <;> simp [Request.modification, Option.bind_eq_some_iff]

/-- Only direct writes ask for stable storage. -/
theorem Effect.not_settles {daemon : Daemon} {request : Request} {events : Trace}
    (h : Effect daemon request events) (hbuffered : request.direct = false) :
    ∀ event ∈ events, ¬Settles event := by
  cases h with
  | none => exact List.forall_mem_nil _
  | @one _ procedure outcome hmodification =>
    rw [List.forall_mem_singleton]
    cases procedure with
    | write => exact absurd hmodification modification_ne_write
    | _ => exact id
  | exclusive outcome hmodification hobj =>
    rw [List.forall_mem_cons, List.forall_mem_singleton]
    exact ⟨id, id⟩
  | @parts _ _ _ directIo _ _ hcached hparts =>
    obtain rfl : directIo = false := hbuffered
    intro event hmem hsettles
    have hpart := hparts event hmem
    obtain ⟨op, answer⟩ := event
    cases op with
    | call procedure =>
      cases procedure with
      | write => exact hsettles hpart.2.2.1
      | _ => exact hpart
    | _ => exact hpart
  | acl outcome hcached =>
    rw [List.forall_mem_singleton]
    exact id

theorem Settles.isModification {event : Event EnvAns} (h : Settles event) :
    isModification event = true := by
  obtain ⟨op, answer⟩ := event
  cases op with
  | call procedure =>
    cases procedure with
    | write => rfl
    | _ => exact h.elim
  | _ => exact h.elim

section Runs

variable {plat : Platform} {daemon : Daemon} {state : Storage} {moments : List ServedMoment}
  {last : Daemon × Storage}

/-- In a run without direct writes, nothing is ever added to stable storage: what the kernel has
been told is written may all be lost. -/
theorem buffered_writes_never_settle (hcoherent : Coherent daemon)
    (hbuffered : ∀ moment ∈ moments, moment.request.direct = false)
    (hrun : Run (ServedStep plat storageServer) (daemon, state) moments last) :
    last.2.settled = state.settled := by
  let holds (moments : List ServedMoment) (config : Daemon × Storage) : Prop :=
    (∀ moment ∈ moments, moment.request.direct = false) →
      Coherent config.1 ∧ config.2.settled = state.settled
  have hinitial : holds [] (daemon, state) := fun _ ↦ ⟨hcoherent, rfl⟩
  have hlast : holds moments last := by
    refine hrun.invariant hinitial ?_
    rintro moments _ _ _ hbefore ⟨hpath, hserved⟩ hbuffered
    rw [List.forall_mem_append, List.forall_mem_singleton] at hbuffered
    obtain ⟨hcoherent, hsettled⟩ := hbefore hbuffered.1
    refine ⟨(kept_handle plat _ _ _ _ _ _ hpath hcoherent).1, ?_⟩
    have heffect := effect_handle hcoherent _ _ hpath
    have hsame := gives_sameSettled hserved fun event hmem hsettles ↦
      heffect.not_settles hbuffered.2 event
        (List.mem_filter.mpr ⟨hmem, hsettles.isModification⟩) hsettles
    exact hsame.trans hsettled
  exact (hlast hbuffered).2

end Runs

/-- The events of a write of two bytes that succeeds. -/
def writtenTrace (stable : ℤ) : Trace :=
  [⟨.malloc .writeBuf, true⟩,
    ⟨.call (.write [7] 0 2 stable [1, 2]), RpcOutcome.done (.ok 2)⟩]

/-- A server that has been written to. -/
theorem gives_writtenTrace (stable : ℤ) : storageServer.Gives ⟨[], []⟩ (writtenTrace stable)
    (Storage.put ⟨[], []⟩ stable ⟨[7], 0, [1, 2]⟩) :=
  ⟨_, .inl rfl, _, ⟨_, .inl rfl, .inl ⟨2, rfl, by decide, rfl⟩⟩, rfl⟩

/-- A buffered write of two bytes that is acknowledged. -/
theorem buffered_writes_never_settle_acknowledged : ∃ moment last,
    Run (ServedStep linuxHost storageServer) (smallChunks, ⟨[], []⟩) [moment] last ∧
    last.1.replies = smallChunks.replies ++ [.write 2] ∧
    last.2.pending = [⟨[7], 0, [1, 2]⟩] ∧ last.2.settled = [] := by
  obtain ⟨daemon', hpath, hreplies⟩ : ∃ daemon',
      ((handle linuxHost 2 (.write 2 [1, 2] 0 false)).run smallChunks).Path (writtenTrace 0)
        (.done () daemon') ∧ daemon'.replies = smallChunks.replies ++ [.write 2] :=
    ⟨_, ⟨_, _, rfl, _, _, rfl, rfl, rfl⟩, rfl⟩
  have hrun : Run (ServedStep linuxHost storageServer) (smallChunks, ⟨[], []⟩) _ _ :=
    Run.nil.snoc (.mk hpath (gives_writtenTrace 0))
  exact ⟨_, _, hrun, hreplies, rfl, buffered_writes_never_settle coherent_smallChunks
    (List.forall_mem_singleton.mpr rfl) hrun⟩

/-! ## Direct writes -/

/-- Pieces that put the data behind a count into a file, one after the other and up to the end. -/
def Tiles (file : List UInt8) (off : UInt64) (data : List UInt8) : ℕ → List StoredPiece → Prop
  | cnt, [] => cnt = data.length
  | cnt, piece :: rest =>
    piece.file = file ∧ piece.offset = off + UInt64.ofNat cnt ∧ piece.bytes <+: data.drop cnt ∧
      Tiles file off data (cnt + piece.bytes.length) rest

/-- The loop of `hsx_fuse_write` for direct I/O ends without an error only if all pieces are on
stable storage. -/
theorem writeLoop_settles {index cnt total fuel : ℕ} {data : List UInt8} {off : UInt64}
    {daemon daemon' : Daemon} {trace : Trace} {before after : Storage}
    (hpath : ((writeLoop index data off 2 fuel cnt).run daemon).Path trace
      (.done (0, total) daemon'))
    (hgives : storageServer.Gives before trace after) (hcnt : cnt ≤ data.length) :
    ∃ pieces, after.settled = before.settled ++ pieces ∧
      Tiles (hsiNfs3Getfh3 (daemon.inode index)) off data cnt pieces := by
  induction fuel generalizing cnt trace before with
  | zero =>
    obtain ⟨-, hending⟩ := hpath
    cases hending
  | succ fuel ih =>
    rcases writeLoop_step hpath with ⟨hdone, rfl, -⟩ |
      ⟨-, chunk, outcome, rest, hchunk, rfl, ⟨hstatus, -, hending⟩ | ⟨count, rfl, hrest⟩⟩
    · refine ⟨[], ?_, Nat.le_antisymm hcnt hdone⟩
      rw [Server.gives_nil.mp hgives, List.append_nil]
    · injection hending with hresult
      exact absurd (congrArg Prod.fst hresult).symm hstatus
    · obtain ⟨middle, ⟨current, hcurrent, hput⟩, hgives⟩ := hgives
      rcases hput with ⟨count', hcount', hle, rfl⟩ | ⟨hfailed, -⟩
      · cases hcount'
        -- the piece is what the server has taken of the chunk
        have hprefix : chunk <+: data.drop cnt := hchunk ▸ List.take_prefix _ _
        have htaken : chunk.take count.toNat <+: chunk := List.take_prefix _ _
        have hlength : (chunk.take count.toNat).length = count.toNat :=
          List.length_take_of_le hle
        have hroom : cnt + count.toNat ≤ data.length := by
          have hchunkLength := hprefix.length_le
          rw [List.length_drop] at hchunkLength
          omega
        obtain ⟨pieces, hsettled, htiles⟩ := ih hrest hgives hroom
        refine ⟨⟨_, _, chunk.take count.toNat⟩ :: pieces, ?_, rfl, rfl,
          htaken.trans hprefix, by rwa [hlength]⟩
        rw [hsettled, current.settled_put_of_ne_zero (by decide), hcurrent.settled_eq,
          List.append_assoc]
        rfl
      · exact absurd rfl (hfailed count)

/-- A direct write that has been acknowledged. -/
theorem hsxFuseWrite_settles {fuel cnt : ℕ} {ino off : UInt64} {data : List UInt8}
    {daemon daemon' : Daemon} {trace : Trace} {before after : Storage}
    (hcoherent : Coherent daemon)
    (hpath : ((hsxFuseWrite fuel ino data off true).run daemon).Path trace (.done () daemon'))
    (hack : daemon'.replies = daemon.replies ++ [.write cnt])
    (hgives : storageServer.Gives before trace after) :
    ∃ inode pieces, daemon.cached ino = some inode ∧
      after.settled = before.settled ++ pieces ∧ Tiles (hsiNfs3Getfh3 inode) off data 0 pieces := by
  -- an error is not the acknowledgement
  have herror {current : Daemon} {code : ℤ} {rest : Trace}
      (hreply : ((Prog.reply (.err code)).run current).Path rest (.done () daemon')) : False := by
    obtain ⟨-, hending⟩ := hreply
    injection hending with _ hstate
    rw [hstate] at hack
    have hlast := congrArg List.getLast? hack
    rw [List.getLast?_concat, List.getLast?_concat] at hlast
    cases hlast
  obtain ⟨granted, rest, rfl, hrest⟩ := hpath
  cases granted with
  | false => exact (herror hrest).elim
  | true =>
    obtain ⟨middle, hmalloc, hgives⟩ := hgives
    rcases hcoherent.path_ilookup hrest with ⟨-, hmissing⟩ | ⟨index, hfind, hfound⟩
    · exact (herror hmissing).elim
    · obtain ⟨⟨err, total⟩, current, front, back, hloop, hreply, rfl⟩ :=
        Program.path_bind_done.mp hfound
      obtain ⟨stored, hfront, hback⟩ := Server.gives_append.mp hgives
      dsimp only at hreply
      split_ifs at hreply with herr
      · exact (herror hreply).elim
      · rw [not_not] at herr
        subst herr
        obtain ⟨pieces, hsettled, htiles⟩ := writeLoop_settles hloop hfront (Nat.zero_le _)
        refine ⟨_, pieces, cached_of_findIno hfind, ?_, htiles⟩
        obtain rfl : back = [] := hreply.1
        rw [Server.gives_nil.mp hback, hsettled, Storage.Continues.settled_eq hmalloc]

section Survival

variable {plat : Platform} {daemon daemon' : Daemon} {before after : Storage} {trace : Trace}
  {moments : List ServedMoment} {last : Daemon × Storage}

/-- The data of a direct write that has been acknowledged is on stable storage after every run that
follows, restarts of the server included. -/
theorem direct_write_survives {ino off : UInt64} {data : List UInt8} {cnt : ℕ}
    (hcoherent : Coherent daemon)
    (hwrite : ServedStep plat storageServer (daemon, before)
      ⟨daemon, .write ino data off true, trace⟩ (daemon', after))
    (hack : daemon'.replies = daemon.replies ++ [.write cnt])
    (hrun : Run (ServedStep plat storageServer) (daemon', after) moments last) :
    ∃ inode pieces rest, daemon.cached ino = some inode ∧
      Tiles (hsiNfs3Getfh3 inode) off data 0 pieces ∧
      last.2.settled = before.settled ++ pieces ++ rest := by
  cases hwrite with
  | mk hpath hgives =>
    obtain ⟨inode, pieces, hcached, hsettled, htiles⟩ :=
      hsxFuseWrite_settles hcoherent hpath hack hgives
    let holds (_ : List ServedMoment) (config : Daemon × Storage) : Prop := after.Keeps config.2
    have hinitial : holds [] (daemon', after) := List.prefix_rfl
    obtain ⟨rest, hrest⟩ : holds moments last := by
      refine hrun.invariant hinitial ?_
      rintro moments _ _ _ hkeeps ⟨-, hserved⟩
      exact hkeeps.trans (gives_keeps hserved)
    exact ⟨inode, pieces, rest, hcached, htiles, by rw [← hrest, hsettled]⟩

end Survival

/-- After a direct write, two more bytes are written without direct I/O and a restart of the server
loses them. -/
theorem direct_write_survives_restart : ∃ daemon' moments last,
    ServedStep linuxHost storageServer (smallChunks, ⟨[], []⟩)
      ⟨smallChunks, .write 2 [1, 2] 0 true, writtenTrace 2⟩
      (daemon', ⟨[⟨[7], 0, [1, 2]⟩], []⟩) ∧
    daemon'.replies = smallChunks.replies ++ [.write 2] ∧
    Run (ServedStep linuxHost storageServer) (daemon', ⟨[⟨[7], 0, [1, 2]⟩], []⟩) moments
      (last, ⟨[⟨[7], 0, [1, 2]⟩], []⟩) ∧
    moments.map ServedMoment.request = [.write 2 [3, 4] 2 false, .getattr 2] ∧
    ∃ inode pieces rest, smallChunks.cached 2 = some inode ∧
      Tiles (hsiNfs3Getfh3 inode) 0 [1, 2] 0 pieces ∧
      [⟨[7], 0, [1, 2]⟩] = [] ++ pieces ++ rest := by
  obtain ⟨daemon', middle, last, hdirect, hreplies, hbuffered, hgetattr⟩ : ∃ daemon' middle last,
      ((handle linuxHost 2 (.write 2 [1, 2] 0 true)).run smallChunks).Path (writtenTrace 2)
        (.done () daemon') ∧ daemon'.replies = smallChunks.replies ++ [.write 2] ∧
      ((handle linuxHost 2 (.write 2 [3, 4] 2 false)).run daemon').Path
        [⟨.malloc .writeBuf, true⟩,
          ⟨.call (.write [7] 2 2 0 [3, 4]), RpcOutcome.done (.ok 2)⟩] (.done () middle) ∧
      ((handle linuxHost 0 (.getattr 2)).run middle).Path
        [⟨.call (.getattr [7]), RpcOutcome.done (.ok plainAttr)⟩] (.done () last) :=
    ⟨_, _, _, ⟨_, _, rfl, _, _, rfl, rfl, rfl⟩, rfl, ⟨_, _, rfl, _, _, rfl, rfl, rfl⟩,
      ⟨_, _, rfl, rfl, rfl⟩⟩
  have hwrite : ServedStep linuxHost storageServer (smallChunks, ⟨[], []⟩)
      ⟨smallChunks, .write 2 [1, 2] 0 true, writtenTrace 2⟩ (daemon', ⟨[⟨[7], 0, [1, 2]⟩], []⟩) :=
    .mk hdirect (gives_writtenTrace 2)
  have hpending : storageServer.Gives ⟨[⟨[7], 0, [1, 2]⟩], []⟩
      [⟨.malloc .writeBuf, true⟩, ⟨.call (.write [7] 2 2 0 [3, 4]), RpcOutcome.done (.ok 2)⟩]
      ⟨[⟨[7], 0, [1, 2]⟩], [⟨[7], 2, [3, 4]⟩]⟩ :=
    ⟨_, .inl rfl, _, ⟨_, .inl rfl, .inl ⟨2, rfl, by decide, rfl⟩⟩, rfl⟩
  have hrestart : storageServer.Gives ⟨[⟨[7], 0, [1, 2]⟩], [⟨[7], 2, [3, 4]⟩]⟩
      [⟨.call (.getattr [7]), RpcOutcome.done (.ok plainAttr)⟩] ⟨[⟨[7], 0, [1, 2]⟩], []⟩ :=
    ⟨_, .inr rfl, rfl⟩
  have hrun : Run (ServedStep linuxHost storageServer) (daemon', ⟨[⟨[7], 0, [1, 2]⟩], []⟩) _
      (last, ⟨[⟨[7], 0, [1, 2]⟩], []⟩) :=
    (Run.nil.snoc (.mk hbuffered hpending)).snoc (.mk hgetattr hrestart)
  exact ⟨daemon', _, last, hwrite, hreplies, hrun, rfl,
    direct_write_survives coherent_smallChunks hwrite hreplies hrun⟩

end NfsFuse
