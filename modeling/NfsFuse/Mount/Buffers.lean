import NfsFuse.Lib.CString
import NfsFuse.Mount.Transport

/-!
# Buffers of the option parser

The loop of `hsi_nfs3_parse_options` with its memory.  Each recorded option is printed to `cbuf` and
appended to `new_opts`, whose length is kept in `len`.  The length of `new_opts` is checked before
the append, so it stays in its buffer.  The length of an item is checked against the size of `cbuf`,
but what is printed is longer than the item: by a comma and a terminator, and by three letters more
when `vers` becomes `nfsvers`.
-/

namespace NfsFuse

open Lib

/-- What an item sets, and what is printed to `cbuf` for it. -/
def applyItem (data : MountData) (item : CString) : Option (MountData × Option CString) :=
  match item.dropWhile (· != 61) with
  | _ :: value =>
      let name := item.takeWhile (· != 61)
      (if (value.head?.map isDigit).getD false then applyNumber data name value
        else applyText data name value).map
        fun applied ↦ (applied.1, applied.2.map (· ++ [61] ++ value ++ [44]))
  | [] =>
      let val := !(item.take 2 = cstr "no")
      (applyFlag data val (if val then item else item.drop 2)).map
        fun applied ↦ (applied.1, applied.2.map ((if val then [] else cstr "no") ++ · ++ [44]))

/-- The variables of the loop: what the options set, `cbuf`, `new_opts` and `len`. -/
structure LoopMemory where
  data : MountData
  cbuf : List UInt8
  newOpts : List UInt8
  len : ℕ

/-- The loop goes on, is left, or writes outside of a buffer. -/
inductive LoopResult where
  | next (state : LoopMemory)
  | leave
  | undefined

/-- The end of an iteration, with the printed text in `cbuf`. -/
def appendPrinted (optSize : ℕ) (state : LoopMemory) : LoopResult :=
  match readString 0 state.cbuf with
  | none => .undefined
  | some printed =>
      let len := state.len + printed.length
      if len ≥ optSize then .leave
      else match appendString 0 state.newOpts printed with
        | none => .undefined
        | some newOpts => .next { state with newOpts := newOpts, len := len }

/-- An iteration. -/
def loopItem (optSize : ℕ) (state : LoopMemory) (item : CString) : LoopResult :=
  if item.length ≥ cbufSize then .leave
  else match applyItem state.data item with
    | none => .leave
    | some (data, none) => .next { state with data := data }
    | some (data, some printed) =>
        match copyString 0 state.cbuf printed with
        | none => .undefined
        | some cbuf => appendPrinted optSize { state with data := data, cbuf := cbuf }

/-- All iterations. -/
def loopItems (optSize : ℕ) : LoopMemory → List CString → LoopResult
  | state, [] => .next state
  | state, item :: rest =>
      match loopItem optSize state item with
      | .next state => loopItems optSize state rest
      | other => other

/-- The states in which the loop begins an iteration, with the item that comes next. -/
def loopHeads (optSize : ℕ) : LoopMemory → List CString → List (LoopMemory × Option CString)
  | state, [] => [(state, none)]
  | state, item :: rest =>
      (state, some item) :: match loopItem optSize state item with
        | .next state => loopHeads optSize state rest
        | _ => []

/-- The letters that are added to the name of an option when it is printed. -/
def addedLetters (item : CString) : CString :=
  if item.takeWhile (· != 61) = cstr "vers" then cstr "nfs" else []

theorem map_returns {data : MountData} {text : CString → CString} {read : Option MountOption}
    {applied : Option (MountData × Option CString)}
    (hspec : read.elim (applied = none) fun option ↦ option.Returns data text applied) :
    read.elim (applied.map (fun pair ↦ (pair.1, pair.2.map text)) = none) fun option ↦ ∃ printed,
      applied.map (fun pair ↦ (pair.1, pair.2.map text)) =
          some (option.change parserMark data, printed) ∧ option.record = printed.getD [] := by
  cases read with
  | none =>
    rw [show applied = none from hspec]
    rfl
  | some option =>
    obtain ⟨name, rfl, hrecord⟩ := hspec
    refine ⟨name.map text, rfl, hrecord.trans ?_⟩
    cases name <;> rfl

/-- An item is read as an option, which is applied and printed. -/
theorem applyItem_spec (data : MountData) (item : CString) :
    (readOption item).elim (applyItem data item = none) fun option ↦ ∃ printed,
      applyItem data item = some (option.change parserMark data, printed) ∧
        option.record = printed.getD [] := by
  unfold applyItem readOption
  cases item.dropWhile (· != 61) with
  | nil =>
    by_cases hno : item.take 2 = cstr "no"
    · simp only [hno, if_true]
      exact map_returns (applyFlag_spec data false _)
    · simp only [hno, if_false]
      exact map_returns (applyFlag_spec data true _)
  | cons c value =>
    dsimp only
    by_cases hdigit : (value.head?.map isDigit).getD false = true
    · rw [if_pos hdigit, if_pos hdigit]
      exact map_returns (applyNumber_spec data _ value)
    · rw [if_neg hdigit, if_neg hdigit]
      exact map_returns (applyText_spec data _ value)

theorem readNumber_record {name value : CString} {option : MountOption}
    (hread : readNumber name value = some option) :
    option = .ignored ∨ option.record =
      (if name = cstr "vers" then cstr "nfs" else []) ++ (name ++ [61] ++ value) ++ [44] := by
  rw [readNumber] at hread
  split_ifs at hread with hhost hskipped
  · cases hread
    subst hhost
    exact .inr rfl
  · cases hread
    exact .inl rfl
  · obtain ⟨key, hlookup, rfl⟩ := Option.map_eq_some_iff.mp hread
    have hmem : (name, key) ∈ numberNames := by
      obtain ⟨front, back, hsplit, -⟩ := List.lookup_eq_some_iff.mp hlookup
      rw [hsplit]
      exact List.mem_append_right _ List.mem_cons_self
    simp only [numberNames, List.mem_cons, Prod.mk.injEq, List.not_mem_nil, or_false] at hmem
    right
    rcases hmem with ⟨rfl, rfl⟩ | ⟨rfl, rfl⟩ | ⟨rfl, rfl⟩ | ⟨rfl, rfl⟩ | ⟨rfl, rfl⟩ | ⟨rfl, rfl⟩ |
      ⟨rfl, rfl⟩ | ⟨rfl, rfl⟩ | ⟨rfl, rfl⟩ | ⟨rfl, rfl⟩ | ⟨rfl, rfl⟩ | ⟨rfl, rfl⟩ | ⟨rfl, rfl⟩ |
      ⟨rfl, rfl⟩ | ⟨rfl, rfl⟩ | ⟨rfl, rfl⟩ | ⟨rfl, rfl⟩
    all_goals rfl

theorem readText_record {name value : CString} {option : MountOption}
    (hread : readText name value = some option) :
    option = .ignored ∨ option.record =
      (if name = cstr "vers" then cstr "nfs" else []) ++ (name ++ [61] ++ value) ++ [44] := by
  rw [readText] at hread
  split_ifs at hread with hhost hcontext hsec htcp hudp
  · cases hread
    subst hhost
    exact .inr rfl
  · cases hread
    subst hcontext
    exact .inr rfl
  · cases hread
    exact .inl rfl
  · cases hread
    obtain ⟨rfl, rfl⟩ := htcp
    exact .inr rfl
  · cases hread
    obtain ⟨rfl, rfl⟩ := hudp
    exact .inr rfl

theorem readFlag_record {negated : Bool} {name : CString} {option : MountOption}
    (hread : readFlag negated name = some option) :
    option = .ignored ∨ option.record = (if negated then cstr "no" else []) ++ name ++ [44] := by
  rw [readFlag] at hread
  by_cases hskipped : skippedFlags.contains name = true
  · rw [if_pos hskipped] at hread
    exact .inl (Option.some.inj hread).symm
  rw [if_neg hskipped] at hread
  by_cases htcp : name = cstr "tcp"
  · rw [if_pos htcp] at hread
    cases hread
    subst htcp
    cases negated <;> exact .inr rfl
  rw [if_neg htcp] at hread
  by_cases hudp : name = cstr "udp"
  · rw [if_pos hudp] at hread
    cases hread
    subst hudp
    cases negated <;> exact .inr rfl
  · rw [if_neg hudp] at hread
    cases hread

/-- What is printed of an item: the item with a comma, and with the letters that are added. -/
theorem record_eq {item : CString} {option : MountOption} (hread : readOption item = some option) :
    option = .ignored ∨ option.record = addedLetters item ++ item ++ [44] := by
  have hitem : item.takeWhile (· != 61) ++ item.dropWhile (· != 61) = item :=
    List.takeWhile_append_dropWhile
  rw [readOption] at hread
  unfold addedLetters
  cases hdrop : item.dropWhile (· != 61) with
  | nil =>
    rw [hdrop] at hread hitem
    rw [List.append_nil] at hitem
    by_cases hvers : item = cstr "vers"
    · subst hvers
      cases hread
    rw [hitem, if_neg hvers, List.nil_append]
    dsimp only at hread
    by_cases hno : item.take 2 = cstr "no"
    · rw [if_pos hno] at hread
      have hrecord := readFlag_record hread
      rwa [if_pos rfl, ← hno, List.take_append_drop] at hrecord
    · rw [if_neg hno] at hread
      exact readFlag_record hread
  | cons c value =>
    have hhead : c = 61 := by
      have hnot := List.head?_dropWhile_not (· != 61) item
      rw [hdrop] at hnot
      simpa using hnot
    rw [hdrop] at hread hitem
    subst hhead
    dsimp only at hread
    have hrecord : option = .ignored ∨ option.record =
        (if item.takeWhile (· != 61) = cstr "vers" then cstr "nfs" else []) ++
          (item.takeWhile (· != 61) ++ [61] ++ value) ++ [44] := by
      split_ifs at hread
      · exact readNumber_record hread
      · exact readText_record hread
    have hwhole : item.takeWhile (· != 61) ++ [61] ++ value = item := by
      rw [List.append_assoc]
      exact hitem
    rwa [hwhole] at hrecord

theorem zero_notMem_record {item : CString} {option : MountOption}
    (hread : readOption item = some option) (hitem : 0 ∉ item) : 0 ∉ option.record := by
  rcases record_eq hread with rfl | hrecord
  · exact List.not_mem_nil
  · have hadded : 0 ∉ addedLetters item := by
      unfold addedLetters
      split_ifs <;> decide
    rw [hrecord, List.mem_append, List.mem_append, not_or, not_or]
    exact ⟨⟨hadded, hitem⟩, by decide⟩

/-- The buffers have their sizes, and `new_opts` holds a string of the length that is kept. -/
structure Intact (optSize : ℕ) (state : LoopMemory) (text : CString) : Prop where
  cbuf_length : state.cbuf.length = cbufSize
  newOpts_length : state.newOpts.length = optSize
  holds : Holds 0 state.newOpts text
  len_eq : state.len = text.length

section Iteration

variable {optSize : ℕ} {state : LoopMemory} {text item : CString} {option : MountOption}

theorem Intact.length_lt (h : Intact optSize state text) : text.length < optSize :=
  h.newOpts_length ▸ h.holds.length_lt

theorem loopItem_of_none (hread : readOption item = none) :
    loopItem optSize state item = .leave := by
  have hspec := applyItem_spec state.data item
  rw [hread, Option.elim_none] at hspec
  rw [loopItem, hspec]
  split_ifs <;> rfl

/-- What an iteration with an option does: it leaves `cbuf`, or the loop when `new_opts` has no
room, or it applies and records the option. -/
theorem loopItem_of_some (h : Intact optSize state text) (hread : readOption item = some option)
    (hitem : 0 ∉ item) (hshort : item.length < cbufSize) :
    (cbufSize < option.record.length + 1 ∧ loopItem optSize state item = .undefined) ∨
    (option.record.length + 1 ≤ cbufSize ∧ optSize ≤ text.length + option.record.length ∧
      loopItem optSize state item = .leave) ∨
    (option.record.length + 1 ≤ cbufSize ∧ text.length + option.record.length < optSize ∧
      ∃ state', loopItem optSize state item = .next state' ∧
        Intact optSize state' (text ++ option.record) ∧
        state'.data = option.change parserMark state.data) := by
  have hspec := applyItem_spec state.data item
  rw [hread, Option.elim_some] at hspec
  obtain ⟨printed, happly, hrecord⟩ := hspec
  have hzero := zero_notMem_record hread hitem
  rw [loopItem, if_neg (not_le.mpr hshort), happly]
  cases printed with
  | none =>
    change option.record = [] at hrecord
    rw [hrecord, List.append_nil]
    refine .inr (.inr ⟨by decide, h.length_lt, _, rfl, ?_, rfl⟩)
    exact ⟨h.cbuf_length, h.newOpts_length, h.holds, h.len_eq⟩
  | some printed =>
    change option.record = printed at hrecord
    subst hrecord
    dsimp only
    by_cases hfits : option.record.length + 1 ≤ cbufSize
    · obtain ⟨cbuf, hcopy, hcbuf, hlength⟩ :=
        holds_copyString (hfits.trans_eq h.cbuf_length.symm) hzero
      rw [hcopy]
      dsimp only
      unfold appendPrinted
      rw [hcbuf.readString_eq]
      dsimp only
      rw [h.len_eq]
      by_cases hroom : text.length + option.record.length < optSize
      · obtain ⟨newOpts, happend, hnew, hnewLength⟩ := h.holds.appendString
          (hroom.trans_eq h.newOpts_length.symm) hzero
        rw [if_neg (not_le.mpr hroom), happend]
        refine .inr (.inr ⟨hfits, hroom, _, rfl, ?_, rfl⟩)
        exact ⟨hlength.trans h.cbuf_length, hnewLength.trans h.newOpts_length, hnew,
          List.length_append.symm⟩
      · rw [if_pos (not_lt.mp hroom)]
        exact .inr (.inl ⟨hfits, not_lt.mp hroom, rfl⟩)
    · have hcopy : copyString 0 state.cbuf option.record = none :=
        copyString_eq_none_iff.mpr (h.cbuf_length.trans_lt (not_le.mp hfits))
      rw [hcopy]
      exact .inl ⟨not_le.mp hfits, rfl⟩

end Iteration

/-- The data of the loop with the string that `new_opts` holds. -/
def LoopMemory.withText (state : LoopMemory) (text : CString) : MountData :=
  { state.data with newOpts := text }

/-- The loop with its memory ends as the loop over the data does. -/
inductive LoopMatches (optSize : ℕ) : LoopResult → ItemResult → Prop
  | next {state : LoopMemory} {text : CString} (h : Intact optSize state text) :
      LoopMatches optSize (.next state) (.next (state.withText text))
  | badParameter (data : MountData) : LoopMatches optSize .leave (.badParameter data)
  | outBad (data : MountData) : LoopMatches optSize .leave (.outBad data)
  | overflow : LoopMatches optSize .undefined .overflow

theorem change_withText (state : LoopMemory) (text : CString) (option : MountOption) :
    option.change parserMark (state.withText text) =
      { option.change parserMark state.data with newOpts := text } := by
  cases option with
  | number option value =>
    rw [MountOption.change, MountOption.change]
    generalize atoi value = value
    cases option <;> rfl
  | _ => rfl

theorem loopItem_matches {optSize : ℕ} {state : LoopMemory} {text item : CString}
    (h : Intact optSize state text) (hitem : 0 ∉ item) :
    LoopMatches optSize (loopItem optSize state item)
      (parseItem (state.withText text) item optSize) := by
  have hnew : (state.withText text).newOpts.length < optSize := h.length_lt
  rw [parseItem_eq hnew]
  by_cases hshort : item.length < cbufSize
  · rw [if_neg (not_le.mpr hshort)]
    cases hread : readOption item with
    | none =>
      rw [loopItem_of_none hread, Option.elim_none]
      split_ifs
      · exact .badParameter _
      · exact .outBad _
    | some option =>
      rw [Option.elim_some, appendOption_change]
      rcases loopItem_of_some h hread hitem hshort with ⟨hlong, hloop⟩ | ⟨hfits, hfull, hloop⟩ |
        ⟨hfits, hroom, state', hloop, hintact, hdata⟩
      · rw [hloop, if_pos hlong]
        exact .overflow
      · rw [hloop, if_neg (not_lt.mpr hfits)]
        change LoopMatches _ _ (if text.length + _ ≥ _ then _ else _)
        rw [if_pos hfull]
        exact .outBad _
      · rw [hloop, if_neg (not_lt.mpr hfits)]
        change LoopMatches _ _ (if text.length + _ ≥ _ then _ else _)
        rw [if_neg (not_le.mpr hroom), change_withText]
        have hsame : ({ option.change parserMark state.data with newOpts := text } :
          MountData).append
            option.record = state'.withText (text ++ option.record) := by
          rw [LoopMemory.withText, hdata]
          rfl
        rw [hsame]
        exact .next hintact
  · rw [loopItem, if_pos (not_lt.mp hshort), if_pos (not_lt.mp hshort)]
    exact .badParameter _

/-- The loop with its memory refines the loop over the data. -/
theorem loopItems_matches {optSize : ℕ} {state : LoopMemory} {text : CString}
    (h : Intact optSize state text) {items : List CString} (hitems : ∀ item ∈ items, 0 ∉ item) :
    LoopMatches optSize (loopItems optSize state items)
      (parseItems optSize (state.withText text) items) := by
  induction items generalizing state text with
  | nil => exact .next h
  | cons item rest ih =>
    obtain ⟨hitem, hrest⟩ := List.forall_mem_cons.mp hitems
    have hstep := loopItem_matches h hitem
    rw [loopItems, parseItems]
    generalize loopItem optSize state item = result at hstep ⊢
    generalize parseItem (state.withText text) item optSize = result' at hstep ⊢
    cases hstep with
    | next h' => exact ih h' hrest
    | badParameter data => exact .badParameter data
    | outBad data => exact .outBad data
    | overflow => exact .overflow

/-! ## Bounds -/

/-- The number of bytes that `sprintf` writes in an iteration that comes to it. -/
def sprintfBytes (state : LoopMemory) (item : CString) : Option ℕ :=
  if item.length ≥ cbufSize then none
  else (applyItem state.data item).bind fun applied ↦ applied.2.map (·.length + 1)

/-- In every iteration `new_opts` is a string of the length that is kept, which is below its size,
and what is printed fits in `cbuf`. -/
def BuffersKept (optSize : ℕ) (state : LoopMemory) (items : List CString) : Prop :=
  ∀ head ∈ loopHeads optSize state items,
    (∃ text, Holds 0 head.1.newOpts text ∧ head.1.len = text.length ∧ head.1.len < optSize) ∧
      ∀ item, head.2 = some item → ∀ bytes, sprintfBytes head.1 item = some bytes → bytes ≤ cbufSize

/-- An item leaves room in `cbuf` for a comma, a terminator and the letters that are added, unless
nothing is printed for it. -/
def LeavesRoom (item : CString) : Prop :=
  item.length < cbufSize → ∀ option, readOption item = some option → option ≠ .ignored →
    item.length + (addedLetters item).length + 2 ≤ cbufSize

/-- All items that the loop comes to leave room, given how much is recorded already. -/
def AllLeaveRoom (optSize : ℕ) : ℕ → List CString → Prop
  | _, [] => True
  | used, item :: rest =>
      LeavesRoom item ∧ (item.length < cbufSize → ∀ option, readOption item = some option →
        used + option.record.length < optSize →
          AllLeaveRoom optSize (used + option.record.length) rest)

theorem length_record_le_iff {item : CString} {option : MountOption}
    (hread : readOption item = some option) :
    option.record.length + 1 ≤ cbufSize ↔
      (option ≠ .ignored → item.length + (addedLetters item).length + 2 ≤ cbufSize) := by
  by_cases hignored : option = .ignored
  · subst hignored
    exact iff_of_true (by decide) fun hne ↦ absurd rfl hne
  · have hrecord := (record_eq hread).resolve_left hignored
    rw [hrecord, forall_prop_of_true hignored, List.length_append, List.length_append,
      List.length_singleton]
    omega

/-- `sprintf` keeps to `cbuf` exactly if the item leaves room. -/
theorem sprintfBytes_le_iff (state : LoopMemory) (item : CString) :
    (∀ bytes, sprintfBytes state item = some bytes → bytes ≤ cbufSize) ↔ LeavesRoom item := by
  rw [sprintfBytes, LeavesRoom]
  by_cases hshort : item.length < cbufSize
  · rw [if_neg (not_le.mpr hshort), forall_prop_of_true hshort]
    have hspec := applyItem_spec state.data item
    cases hread : readOption item with
    | none =>
      rw [hread, Option.elim_none] at hspec
      rw [hspec]
      exact iff_of_true (fun _ hnone ↦ by cases hnone) fun _ hnone ↦ by cases hnone
    | some option =>
      rw [hread, Option.elim_some] at hspec
      obtain ⟨printed, happly, hrecord⟩ := hspec
      have hiff := length_record_le_iff hread
      have hroom : (∀ option', some option = some option' → option' ≠ .ignored →
          item.length + (addedLetters item).length + 2 ≤ cbufSize) ↔
            option.record.length + 1 ≤ cbufSize :=
        ⟨fun h ↦ hiff.mpr (h option rfl), fun h option' heq ↦ by cases heq; exact hiff.mp h⟩
      rw [hroom, happly, Option.bind_some, hrecord]
      cases printed with
      | none => exact iff_of_true (fun _ hnone ↦ by cases hnone) (by decide)
      | some printed =>
        exact ⟨fun h ↦ h _ rfl, fun h bytes heq ↦ by cases heq; exact h⟩
  · rw [if_pos (not_lt.mp hshort)]
    exact iff_of_true (fun _ hnone ↦ by cases hnone) fun h ↦ absurd h hshort

/-- The bounds hold exactly if all items that the loop comes to leave room. -/
theorem buffersKept_iff {optSize : ℕ} {state : LoopMemory} {text : CString}
    (h : Intact optSize state text) {items : List CString} (hitems : ∀ item ∈ items, 0 ∉ item) :
    BuffersKept optSize state items ↔ AllLeaveRoom optSize state.len items := by
  have hheld : ∃ text, Holds 0 state.newOpts text ∧ state.len = text.length ∧ state.len < optSize :=
    ⟨text, h.holds, h.len_eq, h.len_eq.trans_lt h.length_lt⟩
  induction items generalizing state text with
  | nil =>
    refine iff_of_true (fun head hmem ↦ ?_) trivial
    obtain rfl := List.mem_singleton.mp hmem
    exact ⟨hheld, fun item hnone ↦ by cases hnone⟩
  | cons item rest ih =>
    obtain ⟨hitem, hrest⟩ := List.forall_mem_cons.mp hitems
    rw [BuffersKept, loopHeads, List.forall_mem_cons, AllLeaveRoom]
    have hhead : ((∃ text, Holds 0 state.newOpts text ∧ state.len = text.length ∧
        state.len < optSize) ∧ ∀ item', some item = some item' → ∀ bytes,
          sprintfBytes state item' = some bytes → bytes ≤ cbufSize) ↔ LeavesRoom item := by
      rw [and_iff_right hheld, ← sprintfBytes_le_iff state item]
      exact ⟨fun h ↦ h item rfl, fun h item' heq ↦ by cases heq; exact h⟩
    rw [hhead]
    refine and_congr_right fun hroom ↦ ?_
    by_cases hshort : item.length < cbufSize
    · rw [forall_prop_of_true hshort]
      cases hread : readOption item with
      | none =>
        rw [loopItem_of_none hread]
        exact iff_of_true (fun _ hmem ↦ absurd hmem List.not_mem_nil) fun _ hnone ↦ by cases hnone
      | some option =>
        have hsome : (∀ option', some option = some option' →
            state.len + option'.record.length < optSize →
              AllLeaveRoom optSize (state.len + option'.record.length) rest) ↔
            (state.len + option.record.length < optSize →
              AllLeaveRoom optSize (state.len + option.record.length) rest) :=
          ⟨fun h ↦ h option rfl, fun h option' heq ↦ by cases heq; exact h⟩
        have hprinted : option.record.length + 1 ≤ cbufSize :=
          (length_record_le_iff hread).mpr (hroom hshort option hread)
        rw [hsome, h.len_eq]
        rcases loopItem_of_some h hread hitem hshort with ⟨hlong, -⟩ | ⟨-, hfull, hloop⟩ |
          ⟨-, hnew, state', hloop, hintact, -⟩
        · exact absurd hprinted (not_le.mpr hlong)
        · rw [hloop]
          exact iff_of_true (fun _ hmem ↦ absurd hmem List.not_mem_nil) fun h ↦
            absurd h (not_lt.mpr hfull)
        · have hlen : state'.len = text.length + option.record.length :=
            hintact.len_eq.trans List.length_append
          rw [hloop, forall_prop_of_true hnew, ← hlen]
          exact ih hintact hrest ⟨_, hintact.holds, hintact.len_eq, hlen.trans_lt hnew⟩
    · rw [loopItem, if_pos (not_lt.mp hshort)]
      exact iff_of_true (fun _ hmem ↦ absurd hmem List.not_mem_nil) fun h ↦ absurd h hshort

/-- The items of an option string have no other characters than the string. -/
theorem mem_of_mem_splitItems {quote : Bool} {begun opts item : CString} {c : UInt8}
    (hitem : item ∈ splitItems quote begun opts) (hc : c ∈ item) : c ∈ begun ++ opts := by
  induction opts generalizing quote begun with
  | nil => exact absurd hitem List.not_mem_nil
  | cons first rest ih =>
    have hlonger : ∀ {quote}, item ∈ splitItems quote (begun ++ [first]) rest →
        c ∈ begun ++ first :: rest := fun h ↦ by
      have hmem := ih h
      rwa [List.append_assoc] at hmem
    rw [splitItems] at hitem
    generalize (if first = 34 then !quote else quote) = quoted at hitem
    split_ifs at hitem with hquoted hcomma hlast
    · exact hlonger hitem
    · rcases List.mem_cons.mp hitem with rfl | hrest
      · exact List.mem_append_left _ hc
      · exact List.mem_append_right _ (List.mem_cons_of_mem _ (ih hrest))
    · obtain rfl := List.mem_singleton.mp hitem
      rw [hlast]
      exact hc
    · exact hlonger hitem

/-- Memory of `NAME_MAX` bytes has room for a name exactly if `copyName` goes on. -/
theorem copyString_name_iff {memory : List UInt8} (hmemory : memory.length = nameMax)
    {name : CString} (hname : 0 ∉ name) :
    (∃ memory', copyString 0 memory name = some memory' ∧ Holds 0 memory' name) ↔
      name.length + 1 ≤ nameMax := by
  constructor
  · rintro ⟨memory', hcopy, -⟩
    by_contra hlong
    rw [copyString_eq_none_iff.mpr (hmemory.trans_lt (not_le.mp hlong))] at hcopy
    cases hcopy
  · intro hfits
    obtain ⟨memory', hcopy, hholds, -⟩ := holds_copyString (hfits.trans_eq hmemory.symm) hname
    exact ⟨memory', hcopy, hholds⟩

/-- A name is refused exactly if it is longer than `NAME_MAX`, and otherwise the memory that is
allocated for it has room for the name and its terminator, and the copy is made. -/
structure NameSafe {α : Type} (code : Prog α) (refusal : α) (site : MallocSite) (name : CString) :
    Prop where
  refused_iff : ∀ daemon, code.run daemon = .ret refusal daemon ↔ nameMax < name.length
  copied : name.length ≤ nameMax → ∀ daemon, ∃ resume,
    code.run daemon = .ask (.malloc site) daemon resume ∧
      ∀ (memory : List UInt8) (current : Daemon), memory.length = nameMax →
        (∃ memory', copyString 0 memory name = some memory' ∧ Holds 0 memory' name) ∧
          resume true current ≠ .fault .undefined current

/-- Code that begins with the check and the copy of a name is safe unless the terminator is the one
byte too many. -/
theorem nameSafe_iff {α : Type} {refusal : α} {site : MallocSite} {name : CString}
    {next : Bool → Prog α} (hname : 0 ∉ name)
    (hnext : ∀ current, (next true).run current ≠ .fault .undefined current) :
    NameSafe (if name.length > nameMax then pure refusal else copyName site name >>= next)
      refusal site name ↔ name.length ≠ nameMax := by
  constructor
  · rintro ⟨-, hcopied⟩ heq
    obtain ⟨resume, -, hresume⟩ := hcopied heq.le .initial
    have hlength : (List.replicate nameMax (0 : UInt8)).length = nameMax := List.length_replicate
    have hfits := (copyString_name_iff hlength hname).mp (hresume _ .initial hlength).1
    omega
  · intro hne
    refine ⟨fun daemon ↦ ?_, fun hle daemon ↦ ?_⟩
    · by_cases hlong : nameMax < name.length
      · rw [if_pos hlong]
        exact iff_of_true rfl hlong
      · rw [if_neg hlong, copyName_bind_run]
        exact iff_of_false (fun hret ↦ by cases hret) hlong
    · have hfits : name.length + 1 ≤ nameMax := by omega
      rw [if_neg (not_lt.mpr hle), copyName_bind_run]
      refine ⟨_, rfl, fun memory current hmemory ↦
        ⟨(copyString_name_iff hmemory hname).mpr hfits, ?_⟩⟩
      rw [if_neg fun h ↦ h.2 hfits]
      exact hnext current

theorem nameSafe_hsiNfs3Mknod (plat : Platform) (parent : ℕ) {name : CString} (mode : UInt32)
    (rdev : UInt64) (hname : 0 ∉ name) :
    NameSafe (hsiNfs3Mknod plat parent name mode rdev) (enametoolong, .null) .mknodName name ↔
      name.length ≠ nameMax := by
  unfold hsiNfs3Mknod
  exact nameSafe_iff hname fun current hfault ↦ by cases hfault

theorem nameSafe_hsiNfs3Link (index newparent : ℕ) {name : CString} (hname : 0 ∉ name) :
    NameSafe (hsiNfs3Link index newparent name) enametoolong .linkName name ↔
      name.length ≠ nameMax := by
  unfold hsiNfs3Link
  exact nameSafe_iff hname fun current hfault ↦ by cases hfault

/-- Options and names stay in their buffers exactly if every item that the loop comes to leaves room
for what is added to it, and the name does not have exactly `NAME_MAX` bytes. -/
theorem copies_inside_iff {optSize : ℕ} {state : LoopMemory} {text oldOpts : CString}
    (hstart : Intact optSize state text) (hopts : 0 ∉ oldOpts) (plat : Platform)
    (parent index newparent : ℕ) (mode : UInt32) (rdev : UInt64) {name : CString}
    (hname : 0 ∉ name) :
    (BuffersKept optSize state (splitItems false [] oldOpts) ↔
      AllLeaveRoom optSize state.len (splitItems false [] oldOpts)) ∧
    (NameSafe (hsiNfs3Mknod plat parent name mode rdev) (enametoolong, .null) .mknodName name ↔
      name.length ≠ nameMax) ∧
    (NameSafe (hsiNfs3Link index newparent name) enametoolong .linkName name ↔
      name.length ≠ nameMax) := by
  have hitems : ∀ item ∈ splitItems false [] oldOpts, 0 ∉ item := fun item hitem hzero ↦
    hopts (mem_of_mem_splitItems hitem hzero)
  exact ⟨buffersKept_iff hstart hitems, nameSafe_hsiNfs3Mknod plat parent mode rdev hname,
    nameSafe_hsiNfs3Link index newparent hname⟩

/-- The loop before its first iteration, with empty options. -/
def emptyOptions : LoopMemory where
  data := zeroedData
  cbuf := List.replicate cbufSize 0
  newOpts := List.replicate 256 0
  len := 0

theorem intact_emptyOptions : Intact 256 emptyOptions [] where
  cbuf_length := List.length_replicate
  newOpts_length := List.length_replicate
  holds := ⟨List.not_mem_nil, List.replicate 255 0, rfl⟩
  len_eq := rfl

/-- Short options and a short name stay in their buffers. -/
theorem copies_inside_short :
    BuffersKept 256 emptyOptions (splitItems false [] (cstr "vers=3,tcp")) ∧
    NameSafe (hsiNfs3Mknod linuxHost 0 (cstr "fifo") sIfifo 0) (enametoolong, .null) .mknodName
      (cstr "fifo") ∧
    NameSafe (hsiNfs3Link 1 0 (cstr "fifo")) enametoolong .linkName (cstr "fifo") := by
  have hopts : 0 ∉ cstr "vers=3,tcp" := by decide
  have hname : 0 ∉ cstr "fifo" := by decide
  obtain ⟨hoptions, hmknod, hlink⟩ :=
    copies_inside_iff intact_emptyOptions hopts linuxHost 0 1 0 sIfifo 0 hname
  refine ⟨hoptions.mpr ?_, hmknod.mpr (by decide), hlink.mpr (by decide)⟩
  have hsplit : splitItems false [] (cstr "vers=3,tcp") = [cstr "vers=3", cstr "tcp"] := by decide
  rw [hsplit]
  exact ⟨fun _ _ _ _ ↦ by decide, fun _ _ _ _ ↦ ⟨fun _ _ _ _ ↦ by decide, fun _ _ _ _ ↦ trivial⟩⟩

/-- A name of 117 letters for `mounthost`, an item of 127 bytes. -/
def longHost : CString := cstr "mounthost=" ++ List.replicate 117 97

/-- A name of exactly `NAME_MAX` bytes. -/
def longName : CString := List.replicate nameMax 97

/-- An item of 127 bytes passes the check and is printed with 129 bytes, and a name of 255 bytes
passes the check and is copied with 256 bytes. -/
theorem full_copies_overflow :
    splitItems false [] longHost = [longHost] ∧ longHost.length = 127 ∧
    sprintfBytes emptyOptions longHost = some 129 ∧
    ¬ BuffersKept 256 emptyOptions (splitItems false [] longHost) ∧
    (∀ memory : List UInt8, memory.length = nameMax → copyString 0 memory longName = none) ∧
    ¬ NameSafe (hsiNfs3Mknod linuxHost 0 longName sIfifo 0) (enametoolong, .null) .mknodName
      longName ∧
    ¬ NameSafe (hsiNfs3Link 1 0 longName) enametoolong .linkName longName := by
  have hsplit : splitItems false [] longHost = [longHost] := by decide +kernel
  have hprinted : sprintfBytes emptyOptions longHost = some 129 := by decide +kernel
  have hlength : longName.length = nameMax := List.length_replicate
  have hname : 0 ∉ longName := fun hmem ↦ absurd (List.eq_of_mem_replicate hmem) (by decide)
  refine ⟨hsplit, by decide +kernel, hprinted, fun hkept ↦ ?_, fun memory hmemory ↦ ?_,
    fun hsafe ↦ (nameSafe_hsiNfs3Mknod linuxHost 0 sIfifo 0 hname).mp hsafe hlength,
    fun hsafe ↦ (nameSafe_hsiNfs3Link 1 0 hname).mp hsafe hlength⟩
  · rw [hsplit] at hkept
    have hle := (hkept _ List.mem_cons_self).2 longHost rfl 129 hprinted
    exact absurd hle (by decide)
  · rw [copyString_eq_none_iff, hmemory, hlength]
    exact Nat.lt_succ_self _

end NfsFuse
