import NfsFuse.Lib.Patch
import NfsFuse.Lib.Server
import NfsFuse.Fuse.Replies
import NfsFuse.Fuse.Serving

/-!
# Reading and writing in chunks

`hsx_fuse_read` and `hsx_fuse_write` cut a request into calls of at most `rsize` and `wsize` bytes
and resume where the count of the last reply says.  With a server that keeps to the protocol both
loops end and move the right bytes, however short its replies are.
-/

namespace NfsFuse

open Lib

section Steps

variable {index : ℕ} {off : UInt64} {fuel cnt : ℕ} {daemon : Daemon} {trace : Trace}

/-- One iteration of the loop of `hsx_fuse_read`. -/
theorem readLoop_step {size : ℕ} {buf : List (Option UInt8)}
    {ending : Ending Fault Daemon (ℤ × ℕ × List (Option UInt8))}
    (hpath : ((readLoop index size off (fuel + 1) cnt buf).run daemon).Path trace ending) :
    (size ≤ cnt ∧ trace = [] ∧ ending = .done (0, cnt, buf) daemon) ∨
      (cnt < size ∧ ∃ outcome rest,
        trace = ⟨.call (.read (hsiNfs3Getfh3 (daemon.inode index)) (off + UInt64.ofNat cnt)
          (min (size - cnt) daemon.sb.rsize.toNat)), outcome⟩ :: rest ∧
        ((statusOf outcome ≠ 0 ∧ rest = [] ∧ ending = .done (statusOf outcome, cnt, buf) daemon) ∨
          ∃ res, outcome = .done (.ok res) ∧
            ((size < cnt + res.data.length ∧ rest = [] ∧ ending = .crashed .undefined daemon) ∨
              (cnt + res.data.length ≤ size ∧ res.eof = true ∧ rest = [] ∧
                ending = .done (0, cnt + res.count.toNat, overwrite buf cnt res.data) daemon) ∨
              (cnt + res.data.length ≤ size ∧ res.eof = false ∧
                ((readLoop index size off fuel (cnt + res.count.toNat)
                  (overwrite buf cnt res.data)).run daemon).Path rest ending)))) := by
  unfold readLoop at hpath
  split_ifs at hpath with hlt
  · refine Or.inr ⟨hlt, ?_⟩
    rw [Program.get_bind] at hpath
    obtain ⟨outcome, rest, rfl, hrest⟩ := hsiNfs3Read_bind_path hpath
    refine ⟨outcome, rest, rfl, ?_⟩
    rcases outcome with ⟨err, hne⟩ | ⟨res | ⟨status, hne⟩⟩
    · exact Or.inl ⟨hne, hrest⟩
    · refine Or.inr ⟨res, rfl, ?_⟩
      simp only [readResult] at hrest
      split_ifs at hrest with hfits heof
      · exact Or.inr (Or.inl ⟨hfits, heof, hrest⟩)
      · exact Or.inr (Or.inr ⟨hfits, Bool.eq_false_of_not_eq_true heof, hrest⟩)
      · exact Or.inl ⟨Nat.lt_of_not_le hfits, hrest⟩
    · exact Or.inl ⟨hsiNfs3StatToErrno_ne_zero hne, hrest⟩
  · exact Or.inl ⟨Nat.le_of_not_lt hlt, hpath⟩

/-- One iteration of the loop of `hsx_fuse_write`. -/
theorem writeLoop_step {data : List UInt8} {stable : ℤ} {ending : Ending Fault Daemon (ℤ × ℕ)}
    (hpath : ((writeLoop index data off stable (fuel + 1) cnt).run daemon).Path trace ending) :
    (data.length ≤ cnt ∧ trace = [] ∧ ending = .done (0, cnt) daemon) ∨
      (cnt < data.length ∧ ∃ chunk outcome rest,
        chunk = (data.drop cnt).take (min (data.length - cnt) daemon.sb.wsize.toNat) ∧
        trace = ⟨.call (.write (hsiNfs3Getfh3 (daemon.inode index)) (off + UInt64.ofNat cnt)
          chunk.length stable chunk), outcome⟩ :: rest ∧
        ((statusOf outcome ≠ 0 ∧ rest = [] ∧ ending = .done (statusOf outcome, cnt) daemon) ∨
          ∃ count, outcome = .done (.ok count) ∧
            ((writeLoop index data off stable fuel (cnt + count.toNat)).run daemon).Path
              rest ending)) := by
  unfold writeLoop at hpath
  split_ifs at hpath with hlt
  · refine Or.inr ⟨hlt, ?_⟩
    rw [Program.get_bind] at hpath
    obtain ⟨outcome, rest, rfl, hrest⟩ := hsiNfs3Write_bind_path hpath
    refine ⟨_, outcome, rest, rfl, rfl, ?_⟩
    have hresult : (writeResult outcome).1 = statusOf outcome := by
      rcases outcome with ⟨err, hne⟩ | ⟨count | ⟨status, hne⟩⟩
      · rfl
      · rfl
      · rfl
    dsimp only at hrest
    split_ifs at hrest with herr
    · rw [hresult] at herr hrest
      exact Or.inl ⟨herr, hrest⟩
    · rw [not_not, hresult] at herr
      obtain ⟨count, rfl⟩ := (statusOf_eq_zero_iff outcome).mp herr
      exact Or.inr ⟨count, rfl, hrest⟩
  · exact Or.inl ⟨Nat.le_of_not_lt hlt, hpath⟩

end Steps

/-- The ending of a handler that replies to what its loop returns. -/
def repliedEnding {α : Type} (message : α → FuseReply) :
    Ending Fault Daemon α → Ending Fault Daemon Unit
  | .done value daemon => .done () { daemon with replies := daemon.replies ++ [message value] }
  | .crashed reason daemon => .crashed reason daemon

/-- The reply of `hsx_fuse_read` to what its loop returns. -/
def readMessage : ℤ × ℕ × List (Option UInt8) → FuseReply
  | (err, cnt, buf) => if err ≠ 0 then .err err else .buf (bufferPrefix buf cnt)

/-- The reply of `hsx_fuse_write` to what its loop returns. -/
def writeMessage : ℤ × ℕ → FuseReply
  | (err, cnt) => if err ≠ 0 then .err err else .write cnt

/-- A run that ends with a reply to what its first part returns. -/
theorem path_bind_reply {α : Type} {first : Prog α} {last : α → Prog Unit}
    {message : α → FuseReply} (hlast : ∀ value, last value = Prog.reply (message value))
    {daemon : Daemon} {trace : Trace} {ending : Ending Fault Daemon Unit}
    (hpath : ((first >>= last).run daemon).Path trace ending) :
    ∃ middle, (first.run daemon).Path trace middle ∧ ending = repliedEnding message middle := by
  rcases Program.path_bind.mp hpath with ⟨value, daemon₁, front, back, hfirst, hback, rfl⟩ |
    ⟨reason, daemon₁, hfirst, rfl⟩
  · rw [hlast] at hback
    obtain ⟨rfl, rfl⟩ := hback
    rw [List.append_nil]
    exact ⟨_, hfirst, rfl⟩
  · exact ⟨_, hfirst, rfl⟩

section Handlers

variable {daemon : Daemon} (hcoherent : Coherent daemon) {fuel : ℕ} {ino off : UInt64}
  {trace : Trace}
  {ending : Ending Fault Daemon Unit}

include hcoherent

/-- `hsx_fuse_read` allocates its buffer, looks the inode up and runs its loop. -/
theorem hsxFuseRead_path {size : ℕ}
    (hpath : ((hsxFuseRead fuel ino size off).run daemon).Path trace ending) :
    ∃ granted rest, trace = ⟨.malloc .readBuf, granted⟩ :: rest ∧
      ((∃ err, err ≠ 0 ∧ (granted = false ∨ daemon.findIno ino = none) ∧ rest = [] ∧
          ending = .done () { daemon with replies := daemon.replies ++ [.err err] }) ∨
        ∃ index middle, granted = true ∧ daemon.findIno ino = some index ∧
          ((readLoop index size off fuel 0 (List.replicate size none)).run daemon).Path rest
            middle ∧
          ending = repliedEnding readMessage middle) := by
  obtain ⟨granted, rest, rfl, hrest⟩ := Prog.path_malloc_bind.mp hpath
  refine ⟨granted, rest, rfl, ?_⟩
  cases granted with
  | false => exact Or.inl ⟨enomem, by decide, Or.inl rfl, hrest⟩
  | true =>
    rw [if_pos rfl] at hrest
    rcases hcoherent.path_ilookup hrest with ⟨hfind, hrest⟩ | ⟨index, hfind, hrest⟩
    · exact Or.inl ⟨enoent, by decide, Or.inr hfind, hrest⟩
    · have hlast (value : ℤ × ℕ × List (Option UInt8)) :
          (match value with
            | (err, cnt, buf) => if err ≠ 0 then Prog.reply (.err err)
              else Prog.reply (.buf (bufferPrefix buf cnt))) = Prog.reply (readMessage value) := by
        obtain ⟨err, cnt, buf⟩ := value
        exact (apply_ite Prog.reply _ _ _).symm
      obtain ⟨middle, hloop, hending⟩ := path_bind_reply hlast hrest
      exact Or.inr ⟨index, middle, rfl, hfind, hloop, hending⟩

/-- `hsx_fuse_write` allocates its buffer, looks the inode up and runs its loop. -/
theorem hsxFuseWrite_path {data : List UInt8} {directIo : Bool}
    (hpath : ((hsxFuseWrite fuel ino data off directIo).run daemon).Path trace ending) :
    ∃ granted rest, trace = ⟨.malloc .writeBuf, granted⟩ :: rest ∧
      ((∃ err, err ≠ 0 ∧ (granted = false ∨ daemon.findIno ino = none) ∧ rest = [] ∧
          ending = .done () { daemon with replies := daemon.replies ++ [.err err] }) ∨
        ∃ index middle, granted = true ∧ daemon.findIno ino = some index ∧
          ((writeLoop index data off (if directIo then 2 else 0) fuel 0).run daemon).Path rest
            middle ∧
          ending = repliedEnding writeMessage middle) := by
  obtain ⟨granted, rest, rfl, hrest⟩ := Prog.path_malloc_bind.mp hpath
  refine ⟨granted, rest, rfl, ?_⟩
  cases granted with
  | false => exact Or.inl ⟨enomem, by decide, Or.inl rfl, hrest⟩
  | true =>
    rw [if_pos rfl] at hrest
    rcases hcoherent.path_ilookup hrest with ⟨hfind, hrest⟩ | ⟨index, hfind, hrest⟩
    · exact Or.inl ⟨enoent, by decide, Or.inr hfind, hrest⟩
    · have hlast (value : ℤ × ℕ) : (match value with
          | (err, cnt) => if err ≠ 0 then Prog.reply (.err err) else Prog.reply (.write cnt)) =
            Prog.reply (writeMessage value) := by
        obtain ⟨err, cnt⟩ := value
        exact (apply_ite Prog.reply _ _ _).symm
      obtain ⟨middle, hloop, hending⟩ := path_bind_reply hlast hrest
      exact Or.inr ⟨index, middle, rfl, hfind, hloop, hending⟩

end Handlers

/-- A cached file, and small transfer sizes. -/
def smallChunks : Daemon :=
  { foundDaemon with sb := { foundDaemon.sb with rsize := 4, wsize := 2 }, replies := [] }

theorem coherent_smallChunks : Coherent smallChunks := by
  have hfound := Session.Run.step (initialSession_run fun _ _ _ ↦ True)
    (Session.legal_of_forgotten_eq_zero rfl) trivial foundDaemon_answer
  exact hfound.serving.coherent.congr rfl rfl rfl rfl rfl

/-! ## Reading from a server that keeps to the protocol -/

/-- A reply to `READ`: a prefix of the bytes that were asked for, not empty unless there are none,
with its length as the count and `eof` if it reaches the end of the file. -/
structure ReadReply (content : List UInt8) (offset count : ℕ) (res : Read3resok) : Prop where
  starts : res.data <+: (content.drop offset).take count
  data_nil : res.data = [] → (content.drop offset).take count = []
  count_eq : res.count.toNat = res.data.length
  eof_iff : res.eof = true ↔ content.length ≤ offset + res.data.length

/-- The successful replies about a file are replies to `READ` of its content. -/
def ServesContent (file content : List UInt8) : Event EnvAns → Prop
  | ⟨.call (.read fh offset count), .done (.ok res)⟩ =>
      fh = file → ReadReply content offset.toNat count res
  | _ => True

/-- The buffer of a read begins with the bytes of the file at the offset. -/
structure ReadSoFar (content : List UInt8) (off size cnt : ℕ) (buf : List (Option UInt8)) :
    Prop where
  length_eq : buf.length = size
  count_le : cnt ≤ size
  exists_bytes : cnt ≤ (content.drop off).length
  take_eq : buf.take cnt = ((content.drop off).take cnt).map some

theorem overwrite_eq_patch {buf : List (Option UInt8)} {cnt : ℕ} (h : cnt ≤ buf.length)
    (data : List UInt8) : overwrite buf cnt data = patch none buf cnt (data.map some) := by
  rw [patch_of_le h, overwrite, List.length_map]

/-- A prefix of a part of the file is given by its length. -/
theorem ReadReply.data_eq {content : List UInt8} {offset count : ℕ} {res : Read3resok}
    (h : ReadReply content offset count res) :
    res.data = (content.drop offset).take res.data.length ∧ res.data.length ≤ count ∧
      res.data.length ≤ (content.drop offset).length := by
  have hle := h.starts.length_le
  rw [List.length_take] at hle
  refine ⟨?_, by omega, by omega⟩
  have heq := List.prefix_iff_eq_take.mp h.starts
  rwa [List.take_take, Nat.min_eq_left (by omega)] at heq

/-- A reply that fits extends what has been read. -/
theorem ReadSoFar.extend {content : List UInt8} {off size cnt count : ℕ}
    {buf : List (Option UInt8)} (h : ReadSoFar content off size cnt buf)
    (hcount : count ≤ size - cnt)
    {res : Read3resok} (hreply : ReadReply content (off + cnt) count res) :
    cnt + res.data.length ≤ size ∧
      ReadSoFar content off size (cnt + res.count.toNat) (overwrite buf cnt res.data) := by
  obtain ⟨hdata, hasked, hexists⟩ := hreply.data_eq
  have hle : cnt ≤ buf.length := h.length_eq ▸ h.count_le
  have hfits : cnt + res.data.length ≤ size := by
    have := h.count_le
    omega
  rw [hreply.count_eq, overwrite_eq_patch hle]
  refine ⟨hfits, ?_, hfits, ?_, ?_⟩
  · rw [length_patch (by rw [List.length_map, h.length_eq]; exact hfits), h.length_eq]
  · rw [List.length_drop] at hexists ⊢
    have := h.exists_bytes
    rw [List.length_drop] at this
    omega
  · have htake := @take_patch _ none buf (res.data.map some) cnt hle
    rw [List.length_map] at htake
    rw [htake, h.take_eq, List.take_add, List.map_append, List.drop_drop, ← hdata]

/-- What is replied at the end of the request or of the file. -/
theorem ReadSoFar.message {content : List UInt8} {off size cnt : ℕ} {buf : List (Option UInt8)}
    (h : ReadSoFar content off size cnt buf) (hend : cnt = size ∨ content.length ≤ off + cnt) :
    readMessage (0, cnt, buf) = .buf (((content.drop off).take size).map some) := by
  have hfits : cnt - buf.length = 0 := Nat.sub_eq_zero_of_le (h.length_eq ▸ h.count_le)
  have hall : (content.drop off).take cnt = (content.drop off).take size := by
    rcases hend with rfl | hend
    · rfl
    · have hle : (content.drop off).length ≤ cnt := by
        rw [List.length_drop]
        omega
      rw [List.take_of_length_le hle, List.take_of_length_le (hle.trans h.count_le)]
  rw [readMessage, if_neg (by simp), bufferPrefix, hfits, List.replicate_zero, List.append_nil,
    h.take_eq, hall]

/-- The offset of a call does not wrap. -/
theorem toNat_offset {off : UInt64} {cnt size : ℕ} (hsize : off.toNat + size < 2 ^ 63)
    (hle : cnt ≤ size) : (off + UInt64.ofNat cnt).toNat = off.toNat + cnt := by
  rw [UInt64.toNat_add, UInt64.toNat_ofNat']
  omega

/-- With a conforming server the loop of `hsx_fuse_read` returns, and without a failing call its
buffer holds the bytes of the file. -/
theorem readLoop_exact {index size fuel cnt : ℕ} {off : UInt64} {buf : List (Option UInt8)}
    {daemon : Daemon} {trace : Trace} {ending : Ending Fault Daemon (ℤ × ℕ × List (Option UInt8))}
    {content : List UInt8} (hsize : off.toNat + size < 2 ^ 63) (hrsize : 0 < daemon.sb.rsize.toNat)
    (hserves : ∀ event ∈ trace, ServesContent (hsiNfs3Getfh3 (daemon.inode index)) content event)
    (hread : ReadSoFar content off.toNat size cnt buf) (hfuel : size - cnt < fuel)
    (hpath : ((readLoop index size off fuel cnt buf).run daemon).Path trace ending) :
    ∃ result, ending = .done result daemon ∧ ((∀ event ∈ trace, Favourable event) →
      readMessage result = .buf (((content.drop off.toNat).take size).map some)) := by
  induction fuel generalizing cnt buf trace with
  | zero => exact absurd hfuel (Nat.not_lt_zero _)
  | succ fuel ih =>
    rcases readLoop_step hpath with ⟨hle, -, rfl⟩ | ⟨hlt, outcome, rest, rfl, hcases⟩
    · exact ⟨_, rfl, fun _ ↦ hread.message (Or.inl (Nat.le_antisymm hread.count_le hle))⟩
    obtain ⟨hreply, hservesRest⟩ := List.forall_mem_cons.mp hserves
    rcases hcases with ⟨hstatus, rfl, rfl⟩ | ⟨res, rfl, hcases⟩
    · refine ⟨_, rfl, fun hfavourable ↦ absurd ?_ hstatus⟩
      exact (statusOf_eq_zero_iff outcome).mpr (favourable_call (hfavourable _ List.mem_cons_self))
    · have hreply := hreply rfl
      rw [toNat_offset hsize hread.count_le] at hreply
      obtain ⟨hfits, hextended⟩ := hread.extend (Nat.min_le_left _ _) hreply
      rcases hcases with ⟨hover, -⟩ | ⟨-, heof, rfl, rfl⟩ | ⟨-, hmore, hrest⟩
      · omega
      · refine ⟨_, rfl, fun _ ↦ hextended.message (Or.inr ?_)⟩
        have := hreply.eof_iff.mp heof
        rw [hreply.count_eq]
        omega
      · -- A reply that does not reach the end of the file is not empty.
        have hprogress : res.data ≠ [] := by
          intro hnil
          have hnone := hreply.data_nil hnil
          rw [List.take_eq_nil_iff, List.drop_eq_nil_iff] at hnone
          have heof : content.length ≤ off.toNat + cnt + res.data.length := by omega
          rw [hreply.eof_iff.mpr heof] at hmore
          cases hmore
        have hcount : 0 < res.count.toNat := by
          rw [hreply.count_eq]
          exact List.length_pos_iff.mpr hprogress
        obtain ⟨result, hending, hmessage⟩ := ih hservesRest hextended (by omega) hrest
        exact ⟨result, hending, fun hfavourable ↦
          hmessage (List.forall_mem_cons.mp hfavourable).2⟩

/-- **Chunked reads are exact.** With a server that keeps to the protocol `hsx_fuse_read` ends, and
if no call fails it replies the bytes of the file. -/
theorem read_exact (daemon : Daemon) (hcoherent : Coherent daemon) (ino off : UInt64) (index : ℕ)
    (hfind : daemon.findIno ino = some index) (size : ℕ) (hsize : off.toNat + size < 2 ^ 63)
    (hrsize : 0 < daemon.sb.rsize) (content : List UInt8) (fuel : ℕ) (hfuel : size < fuel)
    (trace : Trace) (ending : Ending Fault Daemon Unit)
    (hpath : ((hsxFuseRead fuel ino size off).run daemon).Path trace ending)
    (hserves : ∀ event ∈ trace, ServesContent (hsiNfs3Getfh3 (daemon.inode index)) content event) :
    ∃ daemon', ending = .done () daemon' ∧ ((∀ event ∈ trace, Favourable event) →
      daemon'.replies =
        daemon.replies ++ [.buf (((content.drop off.toNat).take size).map some)]) := by
  obtain ⟨granted, rest, rfl, hcases⟩ := hsxFuseRead_path hcoherent hpath
  rcases hcases with ⟨err, -, hnone, -, rfl⟩ | ⟨index', middle, -, hfind', hloop, rfl⟩
  · refine ⟨_, rfl, fun hfavourable ↦ ?_⟩
    rcases hnone with rfl | hnone
    · exact absurd (hfavourable _ List.mem_cons_self) id
    · cases hnone.symm.trans hfind
  · cases hfind.symm.trans hfind'
    have hstart : ReadSoFar content off.toNat size 0 (List.replicate size none) :=
      ⟨List.length_replicate, Nat.zero_le _, Nat.zero_le _, rfl⟩
    obtain ⟨result, rfl, hmessage⟩ := readLoop_exact hsize (UInt32.lt_iff_toNat_lt.mp hrsize)
      (List.forall_mem_cons.mp hserves).2 hstart (by omega) hloop
    refine ⟨_, rfl, fun hfavourable ↦ ?_⟩
    rw [← hmessage (List.forall_mem_cons.mp hfavourable).2]

/-- Three bytes from the second of three on, with a short first reply. -/
theorem read_exact_short_reply : ∃ trace daemon',
    ((hsxFuseRead 4 2 3 1).run smallChunks).Path trace (.done () daemon') ∧
      daemon'.replies = smallChunks.replies ++ [.buf [some 20, some 30]] := by
  have hpath : ((hsxFuseRead 4 2 3 1).run smallChunks).Path
      [⟨.malloc .readBuf, true⟩, ⟨.call (.read [7] 1 3), .done (.ok ⟨1, false, [20]⟩)⟩,
        ⟨.call (.read [7] 2 2), .done (.ok ⟨1, true, [30]⟩)⟩] _ :=
    ⟨_, _, rfl, _, _, rfl, _, _, rfl, rfl, rfl⟩
  obtain ⟨daemon', hending, hreplies⟩ :=
    read_exact smallChunks coherent_smallChunks 2 1 1 rfl 3 (by decide)
    (by decide) [10, 20, 30] 4 (by decide) _ _ hpath (by
      simp only [List.forall_mem_cons]
      exact ⟨trivial, fun _ ↦ ⟨by decide, by decide, rfl, by decide⟩,
        fun _ ↦ ⟨by decide, by decide, rfl, by decide⟩, by simp⟩)
  exact ⟨_, daemon', hending ▸ hpath, hreplies (by simp [Favourable])⟩

/-! ## Writing to a server that keeps to the protocol -/

/-- The server stores a part of the data from its start, and not nothing; if the call fails it may
have stored any part of it.  The state is the content of the file. -/
def storingServer (file : List UInt8) : Server EnvAns (List UInt8) := fun content event content' ↦
  match event with
  | ⟨.call (.write fh offset _ _ data), outcome⟩ =>
      if fh = file then
        ∃ stored ≤ data.length, content' = patch 0 content offset.toNat (data.take stored) ∧
          ∀ count, outcome = .done (.ok count) → count.toNat = stored ∧ (data ≠ [] → 0 < stored)
      else content' = content
  | _ => content' = content

/-- What the loop of `hsx_fuse_write` returns and leaves in the file. -/
structure WriteOutcome (content : List UInt8) (off : ℕ) (data : List UInt8) (trace : Trace)
    (result : ℤ × ℕ) (content' : List UInt8) : Prop where
  complete : (∀ event ∈ trace, Favourable event) →
    result = (0, data.length) ∧ content' = patch 0 content off data
  failed : (∃ event ∈ trace, ¬ Favourable event) → result.1 ≠ 0
  partly : ∃ stored ≤ data.length, content' = patch 0 content off (data.take stored)

/-- A part of a chunk is stored behind what has been stored. -/
theorem patch_take_chunk (content data : List UInt8) (off : ℕ) {cnt length stored : ℕ}
    (hcnt : cnt ≤ data.length) (hstored : stored ≤ ((data.drop cnt).take length).length) :
    patch 0 (patch 0 content off (data.take cnt)) (off + cnt)
        (((data.drop cnt).take length).take stored) =
      patch 0 content off (data.take (cnt + stored)) := by
  have hlength : (data.take cnt).length = cnt := by rw [List.length_take, Nat.min_eq_left hcnt]
  have hmin : min stored length = stored := by
    rw [List.length_take] at hstored
    omega
  have hpatch := patch_patch 0 content off (data.take cnt) ((data.drop cnt).take stored)
  rw [hlength] at hpatch
  rw [List.take_take, hmin, hpatch, List.take_add]

theorem writeLoop_stores {index fuel cnt : ℕ} {off : UInt64} {data : List UInt8} {stable : ℤ}
    {daemon : Daemon} {trace : Trace} {ending : Ending Fault Daemon (ℤ × ℕ)}
    {content content' : List UInt8} (hsize : off.toNat + data.length < 2 ^ 63)
    (hwsize : 0 < daemon.sb.wsize.toNat) (hcnt : cnt ≤ data.length)
    (hfuel : data.length - cnt < fuel)
    (hpath : ((writeLoop index data off stable fuel cnt).run daemon).Path trace ending)
    (hgives : (storingServer (hsiNfs3Getfh3 (daemon.inode index))).Gives
      (patch 0 content off.toNat (data.take cnt)) trace content') :
    ∃ result, ending = .done result daemon ∧
      WriteOutcome content off.toNat data trace result content' := by
  induction fuel generalizing cnt trace with
  | zero => exact absurd hfuel (Nat.not_lt_zero _)
  | succ fuel ih =>
    rcases writeLoop_step hpath with ⟨hle, rfl, rfl⟩ |
      ⟨hlt, chunk, outcome, rest, hchunk, rfl, hcases⟩
    · obtain rfl : cnt = data.length := Nat.le_antisymm hcnt hle
      rw [List.take_length] at hgives
      refine ⟨_, rfl, fun _ ↦ ⟨rfl, hgives⟩, by simp, data.length, Nat.le_refl _, ?_⟩
      rw [List.take_length]
      exact hgives
    obtain ⟨middle, hstep, hrest⟩ := hgives
    obtain ⟨stored, hstored, hmiddle, hcount⟩ := (if_pos rfl).mp hstep
    have hchunkLength : chunk.length = min (data.length - cnt) daemon.sb.wsize.toNat := by
      rw [hchunk, List.length_take, List.length_drop]
      omega
    have hmiddle' : middle = patch 0 content off.toNat (data.take (cnt + stored)) := by
      rw [hmiddle, toNat_offset hsize hcnt, hchunk]
      exact patch_take_chunk content data off.toNat hcnt (hchunk ▸ hstored)
    rcases hcases with ⟨hstatus, rfl, rfl⟩ | ⟨count, rfl, hloop⟩
    · refine ⟨_, rfl, fun hfavourable ↦ absurd ?_ hstatus, fun _ ↦ hstatus, cnt + stored, by omega,
        hrest.trans hmiddle'⟩
      exact (statusOf_eq_zero_iff outcome).mpr (favourable_call (hfavourable _ List.mem_cons_self))
    · obtain ⟨rfl, hpos⟩ := hcount count rfl
      have hprogress : 0 < count.toNat := hpos (List.ne_nil_of_length_pos (by omega))
      subst hmiddle'
      obtain ⟨result, hending, houtcome⟩ := ih (by omega) (by omega) hloop hrest
      refine ⟨result, hending, fun hfavourable ↦
        houtcome.complete (List.forall_mem_cons.mp hfavourable).2, ?_, houtcome.partly⟩
      rintro ⟨event, hmem, hbad⟩
      rcases List.mem_cons.mp hmem with rfl | hmem
      · exact absurd trivial hbad
      · exact houtcome.failed ⟨event, hmem, hbad⟩

/-- **Chunked writes are exact.** With a server that keeps to the protocol `hsx_fuse_write` ends; if
no call fails it replies the size of the request and the whole buffer is in the file, and if one
fails it replies an error and has changed nothing outside of the request's range. -/
theorem write_exact (daemon : Daemon) (hcoherent : Coherent daemon) (ino off : UInt64) (index : ℕ)
    (hfind : daemon.findIno ino = some index) (data : List UInt8)
    (hsize : off.toNat + data.length < 2 ^ 63) (hwsize : 0 < daemon.sb.wsize) (directIo : Bool)
    (content content' : List UInt8) (fuel : ℕ) (hfuel : data.length < fuel) (trace : Trace)
    (ending : Ending Fault Daemon Unit)
    (hpath : ((hsxFuseWrite fuel ino data off directIo).run daemon).Path trace ending)
    (hgives : (storingServer (hsiNfs3Getfh3 (daemon.inode index))).Gives content trace content') :
    ∃ daemon', ending = .done () daemon' ∧
      ((∀ event ∈ trace, Favourable event) →
        daemon'.replies = daemon.replies ++ [.write data.length] ∧
          content' = patch 0 content off.toNat data) ∧
      ((∃ event ∈ trace, ¬ Favourable event) →
        (∃ err, err ≠ 0 ∧ daemon'.replies = daemon.replies ++ [.err err]) ∧
          ∀ position < content.length,
            position < off.toNat ∨ off.toNat + data.length ≤ position →
              content'[position]? = content[position]?) := by
  obtain ⟨granted, rest, rfl, hcases⟩ := hsxFuseWrite_path hcoherent hpath
  obtain ⟨content₁, hfirst, hrest⟩ := hgives
  cases hfirst
  rcases hcases with ⟨err, herr, hnone, rfl, rfl⟩ | ⟨index', middle, rfl, hfind', hloop, rfl⟩
  · cases hrest
    refine ⟨_, rfl, fun hfavourable ↦ ?_, fun _ ↦ ⟨⟨err, herr, rfl⟩, fun _ _ _ ↦ rfl⟩⟩
    rcases hnone with rfl | hnone
    · exact absurd (hfavourable _ List.mem_cons_self) id
    · cases hnone.symm.trans hfind
  · cases hfind.symm.trans hfind'
    obtain ⟨⟨err, cnt⟩, rfl, hcomplete, hfailed, stored, hstored, hcontent⟩ :=
      writeLoop_stores hsize (UInt32.lt_iff_toNat_lt.mp hwsize) (Nat.zero_le _)
        (by omega) hloop hrest
    refine ⟨_, rfl, fun hfavourable ↦ ?_, ?_⟩
    · obtain ⟨heq, hpatch⟩ := hcomplete (List.forall_mem_cons.mp hfavourable).2
      cases heq
      exact ⟨rfl, hpatch⟩
    · rintro ⟨event, hmem, hbad⟩
      refine ⟨⟨err, ?_⟩, fun position hlt houtside ↦ ?_⟩
      · rcases List.mem_cons.mp hmem with rfl | hmem
        · exact absurd trivial hbad
        · have herr := hfailed ⟨event, hmem, hbad⟩
          refine ⟨herr, ?_⟩
          simp only [writeMessage, if_pos herr]
      · rw [hcontent]
        refine getElem?_patch_outside hlt (houtside.imp_right fun hle ↦ ?_)
        rw [List.length_take]
        omega

/-- Three bytes behind a gap, stored in two parts. -/
theorem write_exact_two_parts : ∃ trace daemon',
    ((hsxFuseWrite 4 2 [1, 2, 3] 2 false).run smallChunks).Path trace (.done () daemon') ∧
      daemon'.replies = smallChunks.replies ++ [.write 3] ∧
      [10, 0, 1, 2, 3] = patch 0 [10] 2 [(1 : UInt8), 2, 3] := by
  have hpath : ((hsxFuseWrite 4 2 [1, 2, 3] 2 false).run smallChunks).Path
      [⟨.malloc .writeBuf, true⟩, ⟨.call (.write [7] 2 2 0 [1, 2]), .done (.ok 2)⟩,
        ⟨.call (.write [7] 4 1 0 [3]), .done (.ok 1)⟩] _ :=
    ⟨_, _, rfl, _, _, rfl, _, _, rfl, rfl, rfl⟩
  obtain ⟨daemon', hending, hcomplete, -⟩ := write_exact smallChunks coherent_smallChunks 2 2 1 rfl
    [1, 2, 3] (by decide) (by decide) false [10] [10, 0, 1, 2, 3] 4 (by decide) _ _ hpath
    ⟨[10], rfl, [10, 0, 1, 2], ⟨2, by decide, rfl, fun count heq ↦ by cases heq; decide⟩,
      [10, 0, 1, 2, 3], ⟨1, by decide, rfl, fun count heq ↦ by cases heq; decide⟩, rfl⟩
  exact ⟨_, daemon', hending ▸ hpath, hcomplete (by simp [Favourable])⟩

end NfsFuse
