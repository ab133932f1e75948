import NfsFuse.Fuse.Transfer

/-!
# Reads and writes against any server

Nothing in a reply to `READ` or `WRITE` is checked: the data may be longer than the room left in the
buffer, the count may be larger than the data, and a count of 0 makes no progress.  Here the loops
of `hsx_fuse_read` and `hsx_fuse_write` meet arbitrary answers, and the exact demands on the answers
are stated under which they stay within their buffers, reply what they have received and stop.

Whether a loop stops is a matter of the counts, the `eof` marks and the failures among the first
answers, as many as there are bytes to move.
-/

namespace NfsFuse

open Lib

/-- The reply of a call that has succeeded. -/
def RpcOutcome.reply? {α : Type} : RpcOutcome α → Option α
  | .done (.ok reply) => some reply
  | _ => none

/-- The replies among the answers to calls. -/
def repliesOf {α : Type} (answers : List (RpcOutcome α)) : List α :=
  answers.filterMap RpcOutcome.reply?

/-- What the replies say has been moved. -/
def totalCount {α : Type} (count : α → ℕ) (replies : List α) : ℕ := (replies.map count).sum

section Stops

variable {α : Type} (count : α → ℕ) (final : α → Bool) (size : ℕ)

/-- The answers stop a loop of calls by their counts and marks: one of the first `size` replies is
final, the counts of these replies reach `size`, or a call fails before there are more of them. -/
def Stops (answers : List (RpcOutcome α)) : Prop :=
  (∃ reply ∈ repliesOf (answers.take size), final reply = true) ∨
    size ≤ totalCount count (repliesOf (answers.take size)) ∨
    ∃ answer ∈ answers.take (size + 1), statusOf answer ≠ 0

/-- A loop that has moved `cnt` bytes goes on behind these replies. -/
def GoesOn (cnt : ℕ) (replies : List α) : Prop :=
  (∀ reply ∈ replies, final reply = false) ∧ cnt + totalCount count replies < size

/-- The answers to the calls of a loop: replies, and perhaps a failure at the end. -/
def loopAnswers (replies : List α) (failure : Option (RpcOutcome α)) : List (RpcOutcome α) :=
  replies.map (fun reply ↦ .done (.ok reply)) ++ failure.toList

/-- The loop has gone on before each of the replies, and only a failure stands at the end. -/
structure Looped (cnt : ℕ) (replies : List α) (failure : Option (RpcOutcome α)) : Prop where
  goesOn : ∀ n < replies.length, GoesOn count final size cnt (replies.take n)
  failed : ∀ answer ∈ failure, statusOf answer ≠ 0

variable {count final size} {cnt : ℕ} {replies : List α} {failure : Option (RpcOutcome α)}

theorem reply?_of_status {outcome : RpcOutcome α} (h : statusOf outcome ≠ 0) :
    outcome.reply? = none := by
  match outcome with
  | .fail err hne => rfl
  | .done (.fail status hne) => rfl
  | .done (.ok reply) => exact absurd rfl h

theorem repliesOf_map (replies : List α) :
    repliesOf (replies.map fun reply ↦ .done (.ok reply)) = replies := by
  rw [repliesOf, List.filterMap_map]
  exact List.filterMap_some

theorem Looped.repliesOf_eq (h : Looped count final size cnt replies failure) :
    repliesOf (loopAnswers replies failure) = replies := by
  cases failure with
  | none => rw [loopAnswers, Option.toList_none, List.append_nil, repliesOf_map]
  | some answer =>
    have hnone := reply?_of_status (h.failed answer rfl)
    rw [loopAnswers, repliesOf, List.filterMap_append, Option.toList_some,
      List.filterMap_cons_none hnone, List.filterMap_nil, List.append_nil]
    exact repliesOf_map replies

theorem Looped.failures_iff (h : Looped count final size cnt replies failure) :
    (∀ answer ∈ loopAnswers replies failure, statusOf answer = 0) ↔ failure = none := by
  constructor
  · intro hall
    cases failure with
    | none => rfl
    | some answer =>
      exact absurd (hall answer (List.mem_append_right _ (List.mem_singleton_self _)))
        (h.failed answer rfl)
  · rintro rfl answer hmem
    rw [loopAnswers, Option.toList_none, List.append_nil] at hmem
    obtain ⟨reply, -, rfl⟩ := List.mem_map.mp hmem
    rfl

theorem Looped.nil (size cnt : ℕ) : Looped count final size cnt [] none :=
  ⟨fun _ hlt ↦ absurd hlt (Nat.not_lt_zero _), nofun⟩

theorem Looped.of_failed {answer : RpcOutcome α} (h : statusOf answer ≠ 0) (size cnt : ℕ) :
    Looped count final size cnt [] (some answer) := by
  refine ⟨fun _ hlt ↦ absurd hlt (Nat.not_lt_zero _), ?_⟩
  rintro _ ⟨⟩
  exact h

/-- The reply to one more call in front. -/
theorem Looped.cons {reply : α} (hlt : cnt < size) (hreply : replies ≠ [] → final reply = false)
    (h : Looped count final size (cnt + count reply) replies failure) :
    Looped count final size cnt (reply :: replies) failure := by
  refine ⟨fun n hn ↦ ?_, h.failed⟩
  cases n with
  | zero => exact ⟨nofun, hlt⟩
  | succ n =>
    have hn' : n < replies.length := Nat.lt_of_succ_lt_succ hn
    obtain ⟨hfinal, hcount⟩ := h.goesOn n hn'
    rw [List.take_succ_cons]
    refine ⟨List.forall_mem_cons.mpr ⟨hreply (List.ne_nil_of_length_pos (by omega)), hfinal⟩, ?_⟩
    rwa [totalCount, List.map_cons, List.sum_cons, ← Nat.add_assoc]

theorem GoesOn.of_cons {reply : α} (h : GoesOn count final size cnt (reply :: replies)) :
    GoesOn count final size (cnt + count reply) replies := by
  refine ⟨(List.forall_mem_cons.mp h.1).2, ?_⟩
  have hlt := h.2
  rwa [totalCount, List.map_cons, List.sum_cons, ← Nat.add_assoc] at hlt

/-- More replies than bytes have not stopped the loop. -/
theorem Looped.not_stops (h : Looped count final size 0 replies failure)
    (hmany : size < replies.length) : ¬ Stops count final size (loopAnswers replies failure) := by
  have hfirst (n : ℕ) (hn : n ≤ replies.length) : (loopAnswers replies failure).take n =
      (replies.take n).map fun reply ↦ .done (.ok reply) := by
    rw [loopAnswers, List.take_append_of_le_length (by rwa [List.length_map]), List.map_take]
  obtain ⟨hfinal, hcount⟩ := h.goesOn size hmany
  rintro (⟨reply, hmem, hreply⟩ | hreached | ⟨answer, hmem, hstatus⟩)
  · rw [hfirst size hmany.le, repliesOf_map] at hmem
    exact absurd (hreply.symm.trans (hfinal reply hmem)) nofun
  · rw [hfirst size hmany.le, repliesOf_map] at hreached
    omega
  · rw [hfirst (size + 1) hmany] at hmem
    obtain ⟨reply, -, rfl⟩ := List.mem_map.mp hmem
    exact hstatus rfl

/-- A loop that has ended within `size` replies has been stopped by the answers. -/
theorem Looped.stops (h : Looped count final size 0 replies failure)
    (hfew : replies.length ≤ size)
    (hended : failure = none → ¬ GoesOn count final size 0 replies) :
    Stops count final size (loopAnswers replies failure) := by
  cases failure with
  | some answer =>
    have hall : (loopAnswers replies (some answer)).take (size + 1) =
        loopAnswers replies (some answer) := by
      apply List.take_of_length_le
      rw [loopAnswers, List.length_append, List.length_map]
      exact Nat.succ_le_succ hfew
    refine .inr (.inr ⟨answer, ?_, h.failed answer rfl⟩)
    rw [hall]
    exact List.mem_append_right _ (List.mem_singleton_self _)
  | none =>
    have hall : repliesOf ((loopAnswers replies none).take size) = replies := by
      rw [loopAnswers, Option.toList_none, List.append_nil,
        List.take_of_length_le (by rwa [List.length_map]), repliesOf_map]
    have hended := hended rfl
    rw [Stops, hall]
    by_cases hfinal : ∀ reply ∈ replies, final reply = false
    · exact .inr (.inl (not_lt.mp fun hlt ↦ hended ⟨hfinal, by rwa [Nat.zero_add]⟩))
    · refine .inl ?_
      by_contra hnone
      exact hfinal fun reply hmem ↦ Bool.eq_false_iff.mpr fun htrue ↦ hnone ⟨reply, hmem, htrue⟩

/-- A loop that has ended has been stopped by the answers exactly if it has taken at most `size`
replies. -/
theorem Looped.stops_iff (h : Looped count final size 0 replies failure)
    (hended : failure = none → ¬ GoesOn count final size 0 replies) :
    Stops count final size (loopAnswers replies failure) ↔
      (repliesOf (loopAnswers replies failure)).length ≤ size := by
  rw [h.repliesOf_eq]
  exact ⟨fun hstops ↦ not_lt.mp fun hmany ↦ h.not_stops hmany hstops,
    fun hfew ↦ h.stops hfew hended⟩

end Stops

/-- The request ends before its first call: it gets no buffer, or its inode is not cached. -/
def NeverCalls (daemon : Daemon) (ino : UInt64) (site : MallocSite) (trace : Trace) : Prop :=
  trace = [⟨.malloc site, false⟩] ∨ daemon.findIno ino = none

theorem not_neverCalls {daemon : Daemon} {ino : UInt64} {site : MallocSite} {rest : Trace}
    {index : ℕ} (hfind : daemon.findIno ino = some index) :
    ¬ NeverCalls daemon ino site (⟨.malloc site, true⟩ :: rest) := by
  rintro (heq | hnone)
  · cases heq
  · cases hfind.symm.trans hnone

/-! ## Reading -/

/-- The answer to a `READ`. -/
def readAnswer : Event EnvAns → Option (RpcOutcome Read3resok)
  | ⟨.call (.read _ _ _), outcome⟩ => some outcome
  | _ => none

/-- The count of a reply to `READ`. -/
def readCount (res : Read3resok) : ℕ := res.count.toNat

/-- Where the data of the replies is copied to: a start and a length for each. -/
def spans : ℕ → List Read3resok → List (ℕ × ℕ)
  | _, [] => []
  | cnt, res :: rest => (cnt, res.data.length) :: spans (cnt + readCount res) rest

/-- The bytes of a buffer that have been received. -/
def Received (buf : List (Option UInt8)) (position : ℕ) : Prop :=
  ∃ byte : UInt8, buf[position]? = some (some byte)

/-- A position lies in one of the spans. -/
def Covered (spans : List (ℕ × ℕ)) (position : ℕ) : Prop :=
  ∃ span ∈ spans, span.1 ≤ position ∧ position < span.1 + span.2

theorem covered_cons (start length : ℕ) (rest : List (ℕ × ℕ)) (position : ℕ) :
    Covered ((start, length) :: rest) position ↔
      (start ≤ position ∧ position < start + length) ∨ Covered rest position :=
  List.exists_mem_cons_iff ..

theorem length_overwrite {buf : List (Option UInt8)} {cnt : ℕ} {data : List UInt8}
    (h : cnt + data.length ≤ buf.length) : (overwrite buf cnt data).length = buf.length := by
  rw [overwrite_eq_patch (by omega), length_patch (by rwa [List.length_map])]

theorem received_overwrite {buf : List (Option UInt8)} {cnt : ℕ} {data : List UInt8}
    (h : cnt + data.length ≤ buf.length) (position : ℕ) :
    Received (overwrite buf cnt data) position ↔
      (cnt ≤ position ∧ position < cnt + data.length) ∨ Received buf position := by
  by_cases hinside : cnt ≤ position ∧ position < cnt + data.length
  · refine iff_of_true ?_ (Or.inl hinside)
    have hlt : position - cnt < data.length := by omega
    refine ⟨data.get ⟨position - cnt, hlt⟩, ?_⟩
    rw [overwrite_eq_patch (by omega),
      getElem?_patch_inside hinside.1 (by simpa using hinside.2)]
    simp [hlt]
  · rw [or_iff_right hinside, Received, Received]
    by_cases hlt : position < buf.length
    · rw [overwrite_eq_patch (by omega),
        getElem?_patch_outside hlt (by rw [List.length_map]; omega)]
    · rw [List.getElem?_eq_none (by rw [length_overwrite h]; omega),
        List.getElem?_eq_none (by omega)]

/-- How the loop of `hsx_fuse_read` ends, given its replies and whether a call failed. -/
inductive ReadEnding (size fuel cnt : ℕ) (buf : List (Option UInt8)) (daemon : Daemon) :
    List Read3resok → Option (RpcOutcome Read3resok) →
      Ending Fault Daemon (ℤ × ℕ × List (Option UInt8)) → Prop
  /-- A copy runs over the end of the buffer. -/
  | overrun {replies : List Read3resok} {failure : Option (RpcOutcome Read3resok)}
      (hover : ∃ span ∈ spans cnt replies, size < span.1 + span.2) :
      ReadEnding size fuel cnt buf daemon replies failure (.crashed .undefined daemon)
  /-- Every unit of fuel has been spent on a reply. -/
  | spent {replies : List Read3resok} {failure : Option (RpcOutcome Read3resok)}
      (hlength : replies.length = fuel) :
      ReadEnding size fuel cnt buf daemon replies failure (.crashed .outOfFuel daemon)
  /-- A call failed. -/
  | failed {replies : List Read3resok} (hfits : ∀ span ∈ spans cnt replies, span.1 + span.2 ≤ size)
      {answer : RpcOutcome Read3resok} {err : ℤ} (herr : err ≠ 0)
      (rest : ℕ × List (Option UInt8)) :
      ReadEnding size fuel cnt buf daemon replies (some answer) (.done (err, rest) daemon)
  /-- The request has been filled or the end of the file reached. -/
  | complete {replies : List Read3resok}
      (hfits : ∀ span ∈ spans cnt replies, span.1 + span.2 ≤ size)
      (hended : ¬ GoesOn readCount Read3resok.eof size cnt replies)
      {buf' : List (Option UInt8)} (hlength : buf'.length = buf.length)
      (hreceived : ∀ position, Received buf' position ↔
        Covered (spans cnt replies) position ∨ Received buf position) :
      ReadEnding size fuel cnt buf daemon replies none
        (.done (0, cnt + totalCount readCount replies, buf') daemon)

section ReadLoop

variable {size fuel cnt : ℕ} {buf : List (Option UInt8)} {daemon : Daemon}
  {replies : List Read3resok} {failure : Option (RpcOutcome Read3resok)} {res : Read3resok}
  {ending : Ending Fault Daemon (ℤ × ℕ × List (Option UInt8))}

/-- The counts have reached the size of the request. -/
theorem ReadEnding.filled (h : size ≤ cnt) :
    ReadEnding size fuel cnt buf daemon [] none (.done (0, cnt, buf) daemon) := by
  refine .complete (by simp [spans]) (fun hgoes ↦ ?_) rfl (by simp [spans, Covered])
  exact absurd hgoes.2 (Nat.not_lt.mpr h)

/-- The reply has reached the end of the file. -/
theorem ReadEnding.reached (hlength : buf.length = size) (hfits : cnt + res.data.length ≤ size)
    (heof : res.eof = true) : ReadEnding size fuel cnt buf daemon [res] none
      (.done (0, cnt + readCount res, overwrite buf cnt res.data) daemon) := by
  have hended : ¬ GoesOn readCount Read3resok.eof size cnt [res] :=
    fun hgoes ↦ absurd (heof.symm.trans (hgoes.1 res List.mem_cons_self)) nofun
  refine .complete ?_ hended (length_overwrite (hlength ▸ hfits)) fun position ↦ ?_
  · exact List.forall_mem_singleton.mpr hfits
  · rw [received_overwrite (hlength ▸ hfits), spans, spans, covered_cons]
    simp [Covered]

/-- A reply that fits in front of the others. -/
theorem ReadEnding.cons (hlength : buf.length = size) (hfits : cnt + res.data.length ≤ size)
    (h : ReadEnding size fuel (cnt + readCount res) (overwrite buf cnt res.data) daemon replies
      failure ending) :
    ReadEnding size (fuel + 1) cnt buf daemon (res :: replies) failure ending := by
  have hall (hrest : ∀ span ∈ spans (cnt + readCount res) replies, span.1 + span.2 ≤ size) :
      ∀ span ∈ spans cnt (res :: replies), span.1 + span.2 ≤ size :=
    List.forall_mem_cons.mpr ⟨hfits, hrest⟩
  cases h with
  | overrun hover =>
    obtain ⟨span, hmem, hlt⟩ := hover
    exact .overrun ⟨span, List.mem_cons_of_mem _ hmem, hlt⟩
  | spent hspent => exact .spent (congrArg Nat.succ hspent)
  | failed hrest herr rest => exact .failed (hall hrest) herr rest
  | complete hrest hended hlen hreceived =>
    rw [Nat.add_assoc, show readCount res + totalCount readCount replies =
      totalCount readCount (res :: replies) from rfl]
    refine .complete (hall hrest) (fun hgoes ↦ hended hgoes.of_cons) ?_ fun position ↦ ?_
    · rw [hlen, length_overwrite (hlength ▸ hfits)]
    · rw [hreceived, received_overwrite (hlength ▸ hfits), spans, covered_cons, or_left_comm,
        or_assoc]

/-- The induction is on the fuel. -/
theorem readLoop_ends {index : ℕ} {off : UInt64} {trace : Trace} (hlength : buf.length = size)
    (hpath : ((readLoop index size off fuel cnt buf).run daemon).Path trace ending) :
    ∃ replies failure, trace.filterMap readAnswer = loopAnswers replies failure ∧
      Looped readCount Read3resok.eof size cnt replies failure ∧
      ReadEnding size fuel cnt buf daemon replies failure ending := by
  induction fuel generalizing cnt buf trace with
  | zero =>
    obtain ⟨rfl, rfl⟩ := hpath
    exact ⟨[], none, rfl, .nil size cnt, .spent rfl⟩
  | succ fuel ih =>
    rcases readLoop_step hpath with ⟨hle, rfl, rfl⟩ | ⟨hlt, outcome, rest, rfl, hcases⟩
    · exact ⟨[], none, rfl, .nil size cnt, .filled hle⟩
    rcases hcases with ⟨hstatus, rfl, rfl⟩ |
      ⟨res, rfl, ⟨hover, rfl, rfl⟩ | ⟨hfits, heof, rfl, rfl⟩ | ⟨hfits, hmore, hrest⟩⟩
    · exact ⟨[], some outcome, rfl, .of_failed hstatus size cnt,
        .failed (by simp [spans]) hstatus _⟩
    · exact ⟨[res], none, rfl, .cons hlt (fun hne ↦ absurd rfl hne) (.nil size _),
        .overrun ⟨_, List.mem_cons_self, hover⟩⟩
    · exact ⟨[res], none, rfl, .cons hlt (fun hne ↦ absurd rfl hne) (.nil size _),
        .reached hlength hfits heof⟩
    · obtain ⟨replies, failure, hanswers, hlooped, hends⟩ :=
        ih ((length_overwrite (hlength ▸ hfits)).trans hlength) hrest
      exact ⟨res :: replies, failure, congrArg (List.cons _) hanswers,
        hlooped.cons hlt fun _ ↦ hmore, hends.cons hlength hfits⟩

end ReadLoop

/-- What no reply may bring about: a read that does not end, more replies than bytes asked for, more
bytes than asked for, or bytes that have not been received. -/
structure ReadWithstands (size : ℕ) (answers : List (RpcOutcome Read3resok)) (daemon : Daemon)
    (ending : Ending Fault Daemon Unit) : Prop where
  few : (repliesOf answers).length ≤ size
  ends : ∃ daemon', ending = .done () daemon' ∧
    ∀ bytes, daemon'.replies = daemon.replies ++ [.buf bytes] → bytes.length ≤ size ∧ none ∉ bytes

/-- The answers that `hsx_fuse_read` withstands: they stop the loop, the data of each reply fits
where the counts so far have led, and, if no call fails, the counts fit and are covered. -/
structure RepliesFit (size : ℕ) (answers : List (RpcOutcome Read3resok)) : Prop where
  stops : Stops readCount Read3resok.eof size answers
  fits : ∀ span ∈ spans 0 (repliesOf answers), span.1 + span.2 ≤ size
  covered : (∀ answer ∈ answers, statusOf answer = 0) →
    totalCount readCount (repliesOf answers) ≤ size ∧
      ∀ position < totalCount readCount (repliesOf answers),
        Covered (spans 0 (repliesOf answers)) position

theorem length_bufferPrefix (buf : List (Option UInt8)) (count : ℕ) :
    (bufferPrefix buf count).length = count := by
  rw [bufferPrefix, List.length_append, List.length_take, List.length_replicate]
  omega

theorem none_notMem_bufferPrefix_iff {buf : List (Option UInt8)} {count : ℕ}
    (h : count ≤ buf.length) :
    none ∉ bufferPrefix buf count ↔ ∀ position < count, Received buf position := by
  rw [bufferPrefix, Nat.sub_eq_zero_of_le h, List.replicate_zero, List.append_nil,
    List.mem_iff_getElem?]
  constructor
  · intro hnone position hlt
    cases hbyte : buf.get ⟨position, hlt.trans_le h⟩ with
    | none =>
      refine absurd ⟨position, ?_⟩ hnone
      rw [List.getElem?_take_of_lt hlt, List.getElem?_eq_getElem (hlt.trans_le h)]
      exact congrArg some hbyte
    | some byte =>
      refine ⟨byte, ?_⟩
      rw [List.getElem?_eq_getElem (hlt.trans_le h)]
      exact congrArg some hbyte
  · rintro hreceived ⟨position, hnone⟩
    by_cases hlt : position < count
    · obtain ⟨byte, hbyte⟩ := hreceived position hlt
      rw [List.getElem?_take_of_lt hlt, hbyte] at hnone
      cases hnone
    · rw [List.getElem?_eq_none (by rw [List.length_take]; omega)] at hnone
      cases hnone

/-- An error as the only reply is always safe. -/
theorem readWithstands_err {size : ℕ} {daemon : Daemon} {answers : List (RpcOutcome Read3resok)}
    (err : ℤ) (hfew : (repliesOf answers).length ≤ size) : ReadWithstands size answers daemon
      (.done () { daemon with replies := daemon.replies ++ [.err err] }) := by
  refine ⟨hfew, _, rfl, fun bytes heq ↦ ?_⟩
  cases List.append_cancel_left heq

/-- Nothing has been received in a new buffer. -/
theorem not_received_replicate (size position : ℕ) :
    ¬ Received (List.replicate size none) position := by
  rintro ⟨byte, hbyte⟩
  rw [List.getElem?_replicate] at hbyte
  split_ifs at hbyte
  cases hbyte

/-- The reply with the data is safe exactly if the data fits the request and has been received. -/
theorem readWithstands_buf_iff {size count : ℕ} {daemon : Daemon} {buf : List (Option UInt8)}
    {answers : List (RpcOutcome Read3resok)} (hlength : buf.length = size) :
    ReadWithstands size answers daemon (.done ()
        { daemon with replies := daemon.replies ++ [.buf (bufferPrefix buf count)] }) ↔
      (repliesOf answers).length ≤ size ∧ count ≤ size ∧
        ∀ position < count, Received buf position := by
  constructor
  · rintro ⟨hfew, daemon', heq, hbytes⟩
    cases heq
    obtain ⟨hle, hnone⟩ := hbytes _ rfl
    rw [length_bufferPrefix] at hle
    rw [none_notMem_bufferPrefix_iff (hlength ▸ hle)] at hnone
    exact ⟨hfew, hle, hnone⟩
  · rintro ⟨hfew, hle, hreceived⟩
    refine ⟨hfew, _, rfl, fun bytes heq ↦ ?_⟩
    cases List.append_cancel_left heq
    rw [length_bufferPrefix, none_notMem_bufferPrefix_iff (hlength ▸ hle)]
    exact ⟨hle, hreceived⟩

/-- The loop of `hsx_fuse_read`, with enough fuel, withstands exactly the answers that fit. -/
theorem ReadEnding.withstands_iff {size fuel : ℕ} {daemon : Daemon} {replies : List Read3resok}
    {failure : Option (RpcOutcome Read3resok)}
    {middle : Ending Fault Daemon (ℤ × ℕ × List (Option UInt8))}
    (h : ReadEnding size fuel 0 (List.replicate size none) daemon replies failure middle)
    (hlooped : Looped readCount Read3resok.eof size 0 replies failure) (hfuel : size < fuel) :
    ReadWithstands size (loopAnswers replies failure) daemon (repliedEnding readMessage middle) ↔
      RepliesFit size (loopAnswers replies failure) := by
  have hreplies := hlooped.repliesOf_eq
  cases h with
  | overrun hover =>
    refine iff_of_false (fun h ↦ ?_) fun h ↦ ?_
    · obtain ⟨daemon', heq, -⟩ := h.ends
      cases heq
    · obtain ⟨span, hmem, hlt⟩ := hover
      exact absurd (h.fits span (hreplies.symm ▸ hmem)) (Nat.not_le.mpr hlt)
  | spent hlength =>
    have hmany : size < replies.length := hlength ▸ hfuel
    refine iff_of_false (fun h ↦ ?_) fun h ↦ hlooped.not_stops hmany h.stops
    have hfew := h.few
    rw [hreplies] at hfew
    omega
  | @failed hfits answer err herr result =>
    obtain ⟨cnt, buf⟩ := result
    have hmessage : readMessage (err, cnt, buf) = .err err := if_pos herr
    have hstops := hlooped.stops_iff nofun
    rw [repliedEnding, hmessage]
    constructor
    · intro h
      refine ⟨hstops.mpr h.few, hreplies.symm ▸ hfits, fun hall ↦ ?_⟩
      cases hlooped.failures_iff.mp hall
    · intro h
      exact readWithstands_err err (hstops.mp h.stops)
  | @complete hfits hended buf' hlength hreceived =>
    rw [List.length_replicate] at hlength
    have hcovered (position : ℕ) : Received buf' position ↔ Covered (spans 0 replies) position := by
      rw [hreceived, or_iff_left (not_received_replicate size position)]
    have hstops := hlooped.stops_iff fun _ ↦ hended
    have hmessage : readMessage (0, 0 + totalCount readCount replies, buf') =
        .buf (bufferPrefix buf' (totalCount readCount replies)) := by
      rw [Nat.zero_add]
      rfl
    rw [repliedEnding, hmessage, readWithstands_buf_iff hlength, ← hstops]
    constructor
    · rintro ⟨hstopped, hle, hall⟩
      refine ⟨hstopped, hreplies.symm ▸ hfits, fun _ ↦ ?_⟩
      rw [hreplies]
      exact ⟨hle, fun position hlt ↦ (hcovered position).mp (hall position hlt)⟩
    · intro h
      have hcovers := h.covered (hlooped.failures_iff.mpr rfl)
      rw [hreplies] at hcovers
      exact ⟨h.stops, hcovers.1, fun position hlt ↦
        (hcovered position).mpr (hcovers.2 position hlt)⟩

/-- With enough fuel, `hsx_fuse_read` withstands exactly the answers that fit. -/
theorem readWithstands_iff {daemon : Daemon} {fuel size : ℕ} {ino off : UInt64} {trace : Trace}
    {ending : Ending Fault Daemon Unit} (hcoherent : Coherent daemon) (hfuel : size < fuel)
    (hpath : ((hsxFuseRead fuel ino size off).run daemon).Path trace ending) :
    ReadWithstands size (trace.filterMap readAnswer) daemon ending ↔
      NeverCalls daemon ino .readBuf trace ∨ RepliesFit size (trace.filterMap readAnswer) := by
  obtain ⟨granted, rest, rfl, hcases⟩ := hsxFuseRead_path hcoherent hpath
  rcases hcases with ⟨err, -, hrefused, rfl, rfl⟩ | ⟨index, middle, rfl, hfind, hloop, rfl⟩
  · refine iff_of_true (readWithstands_err err (Nat.zero_le _)) (.inl (hrefused.imp_left ?_))
    rintro rfl
    rfl
  · obtain ⟨replies, failure, hanswers, hlooped, hends⟩ :=
      readLoop_ends List.length_replicate hloop
    rw [or_iff_right (not_neverCalls hfind), List.filterMap_cons_none rfl, hanswers]
    exact hends.withstands_iff hlooped hfuel

/-! ## Writing -/

/-- The answer to a `WRITE`. -/
def writeAnswer : Event EnvAns → Option (RpcOutcome UInt32)
  | ⟨.call (.write _ _ _ _ _), outcome⟩ => some outcome
  | _ => none

/-- No count is final. -/
def neverFinal (_ : UInt32) : Bool := false

/-- The data of a `WRITE` is a part of the buffer of the request. -/
def SendsPart (data : List UInt8) : Event EnvAns → Prop
  | ⟨.call (.write _ _ count _ sent), _⟩ =>
      ∃ start, start + count ≤ data.length ∧ sent = (data.drop start).take count
  | _ => True

/-- How the loop of `hsx_fuse_write` ends, given the counts and whether a call failed. -/
inductive WriteEnding (size fuel cnt : ℕ) (daemon : Daemon) :
    List UInt32 → Option (RpcOutcome UInt32) → Ending Fault Daemon (ℤ × ℕ) → Prop
  | spent {counts : List UInt32} {failure : Option (RpcOutcome UInt32)}
      (hlength : counts.length = fuel) :
      WriteEnding size fuel cnt daemon counts failure (.crashed .outOfFuel daemon)
  | failed {counts : List UInt32} {answer : RpcOutcome UInt32} {err : ℤ} (herr : err ≠ 0)
      (rest : ℕ) : WriteEnding size fuel cnt daemon counts (some answer) (.done (err, rest) daemon)
  | complete {counts : List UInt32} (hended : ¬ GoesOn UInt32.toNat neverFinal size cnt counts) :
      WriteEnding size fuel cnt daemon counts none
        (.done (0, cnt + totalCount UInt32.toNat counts) daemon)

section WriteLoop

variable {fuel cnt : ℕ} {daemon : Daemon} {counts : List UInt32}
  {failure : Option (RpcOutcome UInt32)} {ending : Ending Fault Daemon (ℤ × ℕ)}

theorem WriteEnding.cons {size : ℕ} {count : UInt32}
    (h : WriteEnding size fuel (cnt + count.toNat) daemon counts failure ending) :
    WriteEnding size (fuel + 1) cnt daemon (count :: counts) failure ending := by
  cases h with
  | spent hlength => exact .spent (congrArg Nat.succ hlength)
  | failed herr rest => exact .failed herr rest
  | complete hended =>
    rw [Nat.add_assoc, show count.toNat + totalCount UInt32.toNat counts =
      totalCount UInt32.toNat (count :: counts) from rfl]
    exact .complete fun hgoes ↦ hended hgoes.of_cons

/-- The induction is on the fuel. -/
theorem writeLoop_ends {index : ℕ} {off : UInt64} {data : List UInt8} {stable : ℤ} {trace : Trace}
    (hpath : ((writeLoop index data off stable fuel cnt).run daemon).Path trace ending) :
    (∀ event ∈ trace, SendsPart data event) ∧
      ∃ counts failure, trace.filterMap writeAnswer = loopAnswers counts failure ∧
        Looped UInt32.toNat neverFinal data.length cnt counts failure ∧
        WriteEnding data.length fuel cnt daemon counts failure ending := by
  induction fuel generalizing cnt trace with
  | zero =>
    obtain ⟨rfl, rfl⟩ := hpath
    exact ⟨by simp, [], none, rfl, .nil _ cnt, .spent rfl⟩
  | succ fuel ih =>
    rcases writeLoop_step hpath with ⟨hle, rfl, rfl⟩ |
      ⟨hlt, chunk, outcome, rest, hchunk, rfl, hcases⟩
    · refine ⟨by simp, [], none, rfl, .nil _ cnt, .complete fun hgoes ↦ ?_⟩
      exact absurd hgoes.2 (Nat.not_lt.mpr hle)
    have hlength : chunk.length = min (data.length - cnt) daemon.sb.wsize.toNat := by
      rw [hchunk, List.length_take, List.length_drop]
      omega
    have hpart (outcome : RpcOutcome UInt32) : SendsPart data ⟨.call (.write
        (hsiNfs3Getfh3 (daemon.inode index)) (off + UInt64.ofNat cnt) chunk.length stable chunk),
        outcome⟩ :=
      ⟨cnt, by omega, by rw [hlength, ← hchunk]⟩
    rcases hcases with ⟨hstatus, rfl, rfl⟩ | ⟨count, rfl, hrest⟩
    · exact ⟨List.forall_mem_singleton.mpr (hpart outcome), [], some outcome, rfl,
        .of_failed hstatus _ cnt, .failed hstatus _⟩
    · obtain ⟨hparts, counts, failure, hanswers, hlooped, hends⟩ := ih hrest
      exact ⟨List.forall_mem_cons.mpr ⟨hpart _, hparts⟩, count :: counts, failure,
        congrArg (List.cons _) hanswers, hlooped.cons hlt fun _ ↦ rfl, hends.cons⟩

end WriteLoop

/-- What no reply may bring about: a write that does not end, more replies than bytes, data from
outside of the request's buffer, or a count above its size. -/
structure WriteWithstands (data : List UInt8) (trace : Trace) (daemon : Daemon)
    (ending : Ending Fault Daemon Unit) : Prop where
  few : (repliesOf (trace.filterMap writeAnswer)).length ≤ data.length
  parts : ∀ event ∈ trace, SendsPart data event
  ends : ∃ daemon', ending = .done () daemon' ∧
    ∀ count, daemon'.replies = daemon.replies ++ [.write count] → count ≤ data.length

/-- The answers that `hsx_fuse_write` withstands: they stop the loop, and, if no call fails, the
counts fit. -/
structure CountsFit (size : ℕ) (answers : List (RpcOutcome UInt32)) : Prop where
  stops : Stops UInt32.toNat neverFinal size answers
  sum_le : (∀ answer ∈ answers, statusOf answer = 0) →
    totalCount UInt32.toNat (repliesOf answers) ≤ size

/-- The loop of `hsx_fuse_write`, with enough fuel. -/
theorem WriteEnding.withstands_iff {size fuel : ℕ} {daemon : Daemon} {counts : List UInt32}
    {failure : Option (RpcOutcome UInt32)} {middle : Ending Fault Daemon (ℤ × ℕ)}
    (h : WriteEnding size fuel 0 daemon counts failure middle)
    (hlooped : Looped UInt32.toNat neverFinal size 0 counts failure) (hfuel : size < fuel) :
    ((repliesOf (loopAnswers counts failure)).length ≤ size ∧
      ∃ daemon', repliedEnding writeMessage middle = .done () daemon' ∧
        ∀ count, daemon'.replies = daemon.replies ++ [.write count] → count ≤ size) ↔
      CountsFit size (loopAnswers counts failure) := by
  have hcounts := hlooped.repliesOf_eq
  cases h with
  | spent hlength =>
    have hmany : size < counts.length := hlength ▸ hfuel
    rw [hcounts]
    exact iff_of_false (fun h ↦ Nat.not_le.mpr hmany h.1) fun h ↦ hlooped.not_stops hmany h.stops
  | @failed answer err herr cnt =>
    have hmessage : writeMessage (err, cnt) = .err err := if_pos herr
    rw [repliedEnding, hmessage, ← hlooped.stops_iff nofun]
    constructor
    · rintro ⟨hstopped, -⟩
      refine ⟨hstopped, fun hall ↦ ?_⟩
      cases hlooped.failures_iff.mp hall
    · intro h
      refine ⟨h.stops, _, rfl, fun count heq ↦ ?_⟩
      cases List.append_cancel_left heq
  | complete hended =>
    have hmessage : writeMessage (0, 0 + totalCount UInt32.toNat counts) =
        .write (totalCount UInt32.toNat counts) := by
      rw [Nat.zero_add]
      rfl
    rw [repliedEnding, hmessage, ← hlooped.stops_iff fun _ ↦ hended]
    constructor
    · rintro ⟨hstopped, daemon', heq, hcount⟩
      cases heq
      refine ⟨hstopped, fun _ ↦ ?_⟩
      rw [hcounts]
      exact hcount _ rfl
    · intro h
      refine ⟨h.stops, _, rfl, fun count heq ↦ ?_⟩
      cases List.append_cancel_left heq
      have hsum := h.sum_le (hlooped.failures_iff.mpr rfl)
      rwa [hcounts] at hsum

/-- With enough fuel, `hsx_fuse_write` withstands exactly the answers that fit. -/
theorem writeWithstands_iff {daemon : Daemon} {fuel : ℕ} {data : List UInt8} {ino off : UInt64}
    {directIo : Bool} {trace : Trace} {ending : Ending Fault Daemon Unit}
    (hcoherent : Coherent daemon) (hfuel : data.length < fuel)
    (hpath : ((hsxFuseWrite fuel ino data off directIo).run daemon).Path trace ending) :
    WriteWithstands data trace daemon ending ↔
      NeverCalls daemon ino .writeBuf trace ∨
        CountsFit data.length (trace.filterMap writeAnswer) := by
  obtain ⟨granted, rest, rfl, hcases⟩ := hsxFuseWrite_path hcoherent hpath
  rcases hcases with ⟨err, -, hrefused, rfl, rfl⟩ | ⟨index, middle, rfl, hfind, hloop, rfl⟩
  · refine iff_of_true ⟨Nat.zero_le _, List.forall_mem_singleton.mpr trivial, _, rfl,
      fun count heq ↦ ?_⟩ (.inl (hrefused.imp_left ?_))
    · cases List.append_cancel_left heq
    · rintro rfl
      rfl
  · obtain ⟨hparts, counts, failure, hanswers, hlooped, hends⟩ := writeLoop_ends hloop
    have hall : ∀ event ∈ (⟨.malloc .writeBuf, true⟩ :: rest : Trace), SendsPart data event :=
      List.forall_mem_cons.mpr ⟨trivial, hparts⟩
    have hsame : (⟨.malloc .writeBuf, true⟩ :: rest : Trace).filterMap writeAnswer =
        loopAnswers counts failure := hanswers
    rw [or_iff_right (not_neverCalls hfind), hsame, ← hends.withstands_iff hlooped hfuel, ← hsame]
    exact ⟨fun h ↦ ⟨h.few, h.ends⟩, fun h ↦ ⟨h.1, hall, h.2⟩⟩

/-- **What the I/O loops withstand.** From every coherent cache and with enough fuel: a read, unless
it ends before its first call, exactly the answers that stop it and fit, and a write likewise. -/
theorem io_withstands_iff (daemon : Daemon) (hcoherent : Coherent daemon) :
    (∀ fuel ino size off trace ending, size < fuel →
      ((hsxFuseRead fuel ino size off).run daemon).Path trace ending →
      (ReadWithstands size (trace.filterMap readAnswer) daemon ending ↔
        NeverCalls daemon ino .readBuf trace ∨ RepliesFit size (trace.filterMap readAnswer))) ∧
    (∀ fuel ino data off directIo trace ending, data.length < fuel →
      ((hsxFuseWrite fuel ino data off directIo).run daemon).Path trace ending →
      (WriteWithstands data trace daemon ending ↔
        NeverCalls daemon ino .writeBuf trace ∨
          CountsFit data.length (trace.filterMap writeAnswer))) :=
  ⟨fun _ _ _ _ _ _ hfuel hpath ↦ readWithstands_iff hcoherent hfuel hpath,
    fun _ _ _ _ _ _ _ hfuel hpath ↦ writeWithstands_iff hcoherent hfuel hpath⟩

/-- Two short replies to a read of four bytes. -/
def shortReplies : List (RpcOutcome Read3resok) :=
  [.done (.ok ⟨1, false, [20]⟩), .done (.ok ⟨1, true, [30]⟩)]

theorem repliesFit_shortReplies : RepliesFit 4 shortReplies := by
  have hspans : spans 0 (repliesOf shortReplies) = [(0, 1), (1, 1)] := rfl
  refine ⟨.inl ⟨⟨1, true, [30]⟩, List.mem_cons_of_mem _ List.mem_cons_self, rfl⟩, ?_, fun _ ↦ ?_⟩
  · rw [hspans]
    exact List.forall_mem_cons.mpr ⟨by decide, List.forall_mem_singleton.mpr (by decide)⟩
  · have htotal : totalCount readCount (repliesOf shortReplies) = 2 := rfl
    rw [htotal, hspans]
    refine ⟨by decide, fun position hlt ↦ ⟨(position, 1), ?_, le_rfl, Nat.lt_succ_self _⟩⟩
    have hposition : position = 0 ∨ position = 1 := by omega
    rcases hposition with rfl | rfl <;> decide

/-- The second reply to the read is marked as the last, and the counts of the write reach its
size. -/
theorem io_withstands_short_replies : ∃ ending ending',
    ReadWithstands 4 shortReplies smallChunks ending ∧
      WriteWithstands [1, 2, 3] [⟨.malloc .writeBuf, true⟩,
        ⟨.call (.write [7] 0 2 0 [1, 2]), .done (.ok 2)⟩,
        ⟨.call (.write [7] 2 1 0 [3]), .done (.ok 1)⟩] smallChunks ending' := by
  have hread : ((hsxFuseRead 5 2 4 0).run smallChunks).Path
      [⟨.malloc .readBuf, true⟩, ⟨.call (.read [7] 0 4), .done (.ok ⟨1, false, [20]⟩)⟩,
        ⟨.call (.read [7] 1 3), .done (.ok ⟨1, true, [30]⟩)⟩] _ :=
    ⟨_, _, rfl, _, _, rfl, _, _, rfl, rfl, rfl⟩
  have hwrite : ((hsxFuseWrite 4 2 [1, 2, 3] 0 false).run smallChunks).Path
      [⟨.malloc .writeBuf, true⟩, ⟨.call (.write [7] 0 2 0 [1, 2]), .done (.ok 2)⟩,
        ⟨.call (.write [7] 2 1 0 [3]), .done (.ok 1)⟩] _ :=
    ⟨_, _, rfl, _, _, rfl, _, _, rfl, rfl, rfl⟩
  have hcounts : CountsFit 3 [.done (.ok 2), .done (.ok 1)] :=
    ⟨.inr (.inl (by decide)), fun _ ↦ by decide⟩
  obtain ⟨hreads, hwrites⟩ := io_withstands_iff smallChunks coherent_smallChunks
  exact ⟨_, _, (hreads 5 2 4 0 _ _ (by decide) hread).mpr (.inr repliesFit_shortReplies),
    (hwrites 4 2 [1, 2, 3] 0 false _ _ (by decide) hwrite).mpr (.inr hcounts)⟩

/-- A reply with two bytes to a read of one is copied past the end of the buffer. -/
theorem long_reply_overruns : ∃ ending,
    ((hsxFuseRead 2 2 1 0).run smallChunks).Path
      [⟨.malloc .readBuf, true⟩, ⟨.call (.read [7] 0 1), .done (.ok ⟨1, false, [5, 6]⟩)⟩] ending ∧
    ¬ ReadWithstands 1 [.done (.ok ⟨1, false, [5, 6]⟩)] smallChunks ending := by
  refine ⟨.crashed .undefined smallChunks, ⟨_, _, rfl, _, _, rfl, rfl, rfl⟩, fun h ↦ ?_⟩
  obtain ⟨daemon', heq, -⟩ := h.ends
  cases heq

end NfsFuse
