import Mathlib.Algebra.Group.Nat.Even
import Mathlib.Data.List.Forall2
import Mathlib.Data.List.TakeWhile
import NfsFuse.Mount.Options

/-!
# The grammar of the mount options

An option string is split at the commas outside quotes, each item is read as an option, and the
options are applied from left to right.  `hsi_nfs3_parse_options` does this in one loop over
characters.  The loop agrees with the grammar up to the options it stops at: an unknown `name=value`
or an item of 128 bytes ends it with success, `sprintf` leaves `cbuf` for an item that nearly fills
it, and `notcp` leaves the flag of an earlier `tcp` set.
-/

namespace NfsFuse

open Lib

/-- The parts of a text between the commas outside quotes. -/
def optionParts (inside : Bool) : CString → List CString
  | [] => [[]]
  | c :: rest =>
      let inside := if c = 34 then !inside else inside
      if c = 44 ∧ inside = false then [] :: optionParts inside rest
      else (optionParts inside rest).modifyHead (c :: ·)

/-- The items of an option string; an empty string has none. -/
def optionItems (opts : CString) : List CString := if opts = [] then [] else optionParts false opts

theorem modifyHead_nil_append (parts : List CString) : parts.modifyHead ([] ++ ·) = parts := by
  cases parts <;> rfl

/-- The character loop finds the items, if all quotes are closed and no item is empty. -/
theorem splitItems_eq_optionParts {inside : Bool} {begun text : CString} (hne : text ≠ [])
    (hbalanced : Even (text.count 34) ↔ inside = false)
    (hitems : [] ∉ (optionParts inside text).modifyHead (begun ++ ·)) :
    splitItems inside begun text = (optionParts inside text).modifyHead (begun ++ ·) := by
  induction text generalizing inside begun with
  | nil => exact absurd rfl hne
  | cons c rest ih =>
    have hparts (parts : List CString) : (parts.modifyHead (c :: ·)).modifyHead (begun ++ ·) =
        parts.modifyHead ((begun ++ [c]) ++ ·) := by
      cases parts <;> simp
    have hquoted : Even (rest.count 34) ↔ (if c = 34 then !inside else inside) = false := by
      by_cases hquote : c = 34
      · rw [if_pos hquote]
        rw [hquote, List.count_cons_self, Nat.even_add_one] at hbalanced
        cases inside <;> simp_all
      · rw [if_neg hquote, ← hbalanced, List.count_cons_of_ne hquote]
    rw [optionParts] at hitems ⊢
    rw [splitItems]
    generalize (if c = 34 then !inside else inside) = quoted at hquoted hitems ⊢
    cases quoted with
    | true =>
      have hrest : rest ≠ [] := by
        rintro rfl
        exact Bool.false_ne_true (hquoted.mp Even.zero).symm
      rw [if_pos rfl]
      rw [if_neg (fun h ↦ Bool.false_ne_true h.2.symm), hparts] at hitems ⊢
      exact ih hrest hquoted hitems
    | false =>
      rw [if_neg Bool.false_ne_true]
      by_cases hcomma : c = 44
      · rw [if_pos hcomma]
        rw [if_pos ⟨hcomma, rfl⟩] at hitems ⊢
        simp only [List.modifyHead_cons, List.append_nil, List.mem_cons, not_or] at hitems ⊢
        have hrest : rest ≠ [] := by
          rintro rfl
          exact hitems.2 (List.mem_singleton.mpr rfl)
        rw [ih hrest hquoted (by rw [modifyHead_nil_append]; exact hitems.2), modifyHead_nil_append]
      · have hmore : ¬ (c = 44 ∧ false = false) := fun h ↦ hcomma h.1
        rw [if_neg hmore, hparts] at hitems ⊢
        rw [if_neg hcomma]
        by_cases hrest : rest = []
        · subst hrest
          rw [if_pos rfl, optionParts, List.modifyHead_cons, List.append_nil]
        · rw [if_neg hrest]
          exact ih hrest hquoted hitems

/-- The items the loop processes are those of the grammar. -/
theorem splitItems_eq_optionItems {opts : CString} (hbalanced : Even (opts.count 34))
    (hitems : [] ∉ optionItems opts) : splitItems false [] opts = optionItems opts := by
  rw [optionItems] at hitems ⊢
  split_ifs at hitems ⊢ with hempty
  · rw [hempty]
    rfl
  · rw [splitItems_eq_optionParts hempty (iff_of_true hbalanced rfl)
      (by rwa [modifyHead_nil_append]), modifyHead_nil_append]

/-- The options with a number, but for those that are skipped. -/
inductive NumberOption where
  | rsize | wsize | timeo | retrans | acregmin | acregmax | acdirmin | acdirmax | actimeo
  | retry | port | mountport | mountprog | mountvers | nfsprog | nfsvers
  deriving DecidableEq

/-- Their names; `vers` is another one for `nfsvers`. -/
def numberNames : List (CString × NumberOption) :=
  [(cstr "rsize", .rsize), (cstr "wsize", .wsize), (cstr "timeo", .timeo),
    (cstr "retrans", .retrans), (cstr "acregmin", .acregmin), (cstr "acregmax", .acregmax),
    (cstr "acdirmin", .acdirmin), (cstr "acdirmax", .acdirmax), (cstr "actimeo", .actimeo),
    (cstr "retry", .retry), (cstr "port", .port), (cstr "mountport", .mountport),
    (cstr "mountprog", .mountprog), (cstr "mountvers", .mountvers), (cstr "nfsprog", .nfsprog),
    (cstr "nfsvers", .nfsvers), (cstr "vers", .nfsvers)]

/-- The name under which an option with a number is recorded. -/
def NumberOption.name : NumberOption → CString
  | .rsize => cstr "rsize"
  | .wsize => cstr "wsize"
  | .timeo => cstr "timeo"
  | .retrans => cstr "retrans"
  | .acregmin => cstr "acregmin"
  | .acregmax => cstr "acregmax"
  | .acdirmin => cstr "acdirmin"
  | .acdirmax => cstr "acdirmax"
  | .actimeo => cstr "actimeo"
  | .retry => cstr "retry"
  | .port => cstr "port"
  | .mountport => cstr "mountport"
  | .mountprog => cstr "mountprog"
  | .mountvers => cstr "mountvers"
  | .nfsprog => cstr "nfsprog"
  | .nfsvers => cstr "nfsvers"

/-- What an option with a number sets. -/
def NumberOption.set (val : ℤ) (data : MountData) : NumberOption → MountData
  | .rsize => { data with super := { data.super with rsize := UInt32.ofInt val } }
  | .wsize => { data with super := { data.super with wsize := UInt32.ofInt val } }
  | .timeo => { data with super := { data.super with timeo := val } }
  | .retrans => { data with super := { data.super with retrans := val } }
  | .acregmin => { data with super := { data.super with acregmin := val } }
  | .acregmax => { data with super := { data.super with acregmax := val } }
  | .acdirmin => { data with super := { data.super with acdirmin := val } }
  | .acdirmax => { data with super := { data.super with acdirmax := val } }
  | .actimeo => { data with super := { data.super with
      acregmin := val, acregmax := val, acdirmin := val, acdirmax := val } }
  | .retry => { data with retry := val }
  | .port => { data with nfs := { data.nfs with pmPort := UInt64.ofInt val } }
  | .mountport => { data with mnt := { data.mnt with pmPort := UInt64.ofInt val } }
  | .mountprog => { data with mnt := { data.mnt with pmProg := UInt64.ofInt val } }
  | .mountvers => { data with mnt := { data.mnt with pmVers := UInt64.ofInt val } }
  | .nfsprog => { data with nfs := { data.nfs with pmProg := UInt64.ofInt val } }
  | .nfsvers => { data with nfs := { data.nfs with pmVers := UInt64.ofInt val } }

/-- The options that choose the transport. -/
inductive TransportOption where
  | tcp | notcp | udp | noudp | protoTcp | protoUdp
  deriving DecidableEq

/-- The texts of these options. -/
def TransportOption.text : TransportOption → CString
  | .tcp => cstr "tcp"
  | .notcp => cstr "notcp"
  | .udp => cstr "udp"
  | .noudp => cstr "noudp"
  | .protoTcp => cstr "proto=tcp"
  | .protoUdp => cstr "proto=udp"

/-- Whether the option chooses TCP. -/
def TransportOption.isTcp : TransportOption → Bool
  | .tcp | .noudp | .protoTcp => true
  | .notcp | .udp | .protoUdp => false

/-- The options. -/
inductive MountOption where
  | number (option : NumberOption) (value : CString)
  | mounthost (value : CString)
  | transport (option : TransportOption)
  | context (value : CString)
  | ignored
  deriving DecidableEq

/-- `name=value` with a value that starts with a digit. -/
def readNumber (name value : CString) : Option MountOption :=
  if name = cstr "mounthost" then some (.mounthost value)
  else if name = cstr "namlen" ∨ name = cstr "addr" then some .ignored
  else (numberNames.lookup name).map fun option ↦ .number option value

/-- `name=value` with another value. -/
def readText (name value : CString) : Option MountOption :=
  if name = cstr "mounthost" then some (.mounthost value)
  else if name = cstr "context" then some (.context value)
  else if name = cstr "sec" then some .ignored
  else if name = cstr "proto" ∧ value = cstr "tcp" then some (.transport .protoTcp)
  else if name = cstr "proto" ∧ value = cstr "udp" then some (.transport .protoUdp)
  else none

/-- A flag, without its `no`. -/
def readFlag (negated : Bool) (name : CString) : Option MountOption :=
  if skippedFlags.contains name then some .ignored
  else if name = cstr "tcp" then some (.transport (if negated then .notcp else .tcp))
  else if name = cstr "udp" then some (.transport (if negated then .noudp else .udp))
  else none

/-- The option that an item stands for, if it is one. -/
def readOption (item : CString) : Option MountOption :=
  match item.dropWhile (· != 61) with
  | _ :: value =>
      if (value.head?.map isDigit).getD false then readNumber (item.takeWhile (· != 61)) value
      else readText (item.takeWhile (· != 61)) value
  | [] => if item.take 2 = cstr "no" then readFlag true (item.drop 2) else readFlag false item

/-- What is recorded of an option for the table of mounts. -/
def MountOption.record : MountOption → CString
  | .number option value => option.name ++ [61] ++ value ++ [44]
  | .mounthost value => cstr "mounthost" ++ [61] ++ value ++ [44]
  | .transport option => option.text ++ [44]
  | .context value => cstr "context" ++ [61] ++ value ++ [44]
  | .ignored => []

/-- The protocol number of a transport. -/
def TransportOption.prot (option : TransportOption) : UInt64 :=
  if option.isTcp then ipprotoTcp else ipprotoUdp

/-- Set or clear the flag for TCP. -/
def setTcp (tcp : Bool) (flags : UInt32) : UInt32 :=
  if tcp then flags ||| nfsMountTcp else flags &&& ~~~nfsMountTcp

/-- What an option sets, given how the transport is marked in the flags. -/
def MountOption.change (mark : TransportOption → UInt32 → UInt32) (data : MountData) :
    MountOption → MountData
  | .number option value => option.set (atoi value) data
  | .mounthost value => { data with mounthost := some (hostOf value) }
  | .transport option => (data.setProt option.prot).mapFlags (mark option)
  | .context _ => data
  | .ignored => data

/-- Append to the rebuilt options. -/
def MountData.append (data : MountData) (text : CString) : MountData :=
  { data with newOpts := data.newOpts ++ text }

/-- Apply options from left to right. -/
def applyOptions (mark : TransportOption → UInt32 → UInt32) (data : MountData)
    (options : List MountOption) : MountData :=
  options.foldl (fun data option ↦ (option.change mark data).append option.record) data

/-- A transport option sets or clears the flag. -/
def transportMark (option : TransportOption) : UInt32 → UInt32 := setTcp option.isTcp

/-- How `hsi_nfs3_parse_options` marks a transport in the flags, if it does. -/
def TransportOption.marks : TransportOption → Option Bool
  | .notcp => none
  | option => some option.isTcp

/-- The marks of `hsi_nfs3_parse_options`. -/
def parserMark (option : TransportOption) : UInt32 → UInt32 := (option.marks.map setTcp).getD id

/-! ## One iteration -/

theorem and_not_or_nfsMountTcp (flags : UInt32) :
    flags &&& ~~~nfsMountTcp ||| nfsMountTcp = flags ||| nfsMountTcp := by
  apply UInt32.eq_of_toBitVec_eq
  ext bit
  simp only [UInt32.toBitVec_or, UInt32.toBitVec_and, UInt32.toBitVec_not, BitVec.getElem_or,
    BitVec.getElem_and, BitVec.getElem_not]
  cases nfsMountTcp.toBitVec[bit] <;> simp

theorem appendOption_nil {data : MountData} {optSize : ℕ} (h : data.newOpts.length < optSize) :
    appendOption data [] optSize = .next data := by
  rw [appendOption, if_neg (by decide), if_neg (by rwa [List.length_nil, add_zero, not_le]),
    List.append_nil]

/-- What the parser returns for an option, with the name it records, given how a name is
recorded. -/
def MountOption.Returns (data : MountData) (text : CString → CString) (option : MountOption)
    (applied : Option (MountData × Option CString)) : Prop :=
  ∃ name, applied = some (option.change parserMark data, name) ∧ option.record = name.elim [] text

theorem applyNumber_spec (data : MountData) (name value : CString) :
    (readNumber name value).elim (applyNumber data name value = none) fun option ↦
      option.Returns data (· ++ [61] ++ value ++ [44]) (applyNumber data name value) := by
  by_cases hknown : name ∈ cstr "mounthost" :: cstr "namlen" :: cstr "addr" ::
      numberNames.map Prod.fst
  · simp only [numberNames, List.map_cons, List.map_nil, List.mem_cons, List.not_mem_nil,
      or_false] at hknown
    rcases hknown with rfl | rfl | rfl | rfl | rfl | rfl | rfl | rfl | rfl | rfl | rfl | rfl | rfl |
      rfl | rfl | rfl | rfl | rfl | rfl | rfl
    all_goals exact ⟨_, rfl, rfl⟩
  · rw [List.mem_cons, List.mem_cons, List.mem_cons, not_or, not_or, not_or] at hknown
    obtain ⟨hhost, hnamlen, haddr, htable⟩ := hknown
    have hlookup : numberNames.lookup name = none := by
      refine List.lookup_eq_none_iff.mpr fun pair hmem ↦ bne_iff_ne.mpr ?_
      rintro rfl
      exact htable (List.mem_map_of_mem hmem)
    have hnone : readNumber name value = none := by
      rw [readNumber, if_neg hhost, if_neg (not_or.mpr ⟨hnamlen, haddr⟩), hlookup]
      rfl
    simp only [numberNames, List.map_cons, List.map_nil, List.mem_cons, List.not_mem_nil, not_or,
      or_false] at htable
    rw [hnone]
    simp only [applyNumber, hhost, hnamlen, haddr, htable, if_false, or_self, Option.elim_none]

theorem applyText_spec (data : MountData) (name value : CString) :
    (readText name value).elim (applyText data name value = none) fun option ↦
      option.Returns data (· ++ [61] ++ value ++ [44]) (applyText data name value) := by
  by_cases hproto : name = cstr "proto"
  · subst hproto
    by_cases hudp : value = cstr "udp"
    · subst hudp
      exact ⟨_, rfl, rfl⟩
    · by_cases htcp : value = cstr "tcp"
      · subst htcp
        exact ⟨_, rfl, rfl⟩
      · have hnone : readText (cstr "proto") value = none := by
          simp +decide [readText, hudp, htcp]
        rw [hnone]
        simp only [applyText, hudp, htcp, if_true, if_false, Option.elim_none]
  · by_cases hknown : name = cstr "sec" ∨ name = cstr "mounthost" ∨ name = cstr "context"
    · rcases hknown with rfl | rfl | rfl
      all_goals exact ⟨_, rfl, rfl⟩
    · rw [not_or, not_or] at hknown
      simp only [readText, applyText, hproto, hknown, if_false, false_and, Option.elim_none]

theorem applyFlag_spec (data : MountData) (val : Bool) (name : CString) :
    (readFlag (!val) name).elim (applyFlag data val name = none) fun option ↦
      option.Returns data (fun name ↦ (if val then [] else cstr "no") ++ name ++ [44])
        (applyFlag data val name) := by
  by_cases hskipped : name ∈ skippedFlags
  · rw [readFlag, applyFlag, if_pos hskipped, if_pos (List.contains_iff_mem.mpr hskipped)]
    exact ⟨_, rfl, rfl⟩
  · by_cases htcp : name = cstr "tcp"
    · subst htcp
      cases val <;> exact ⟨_, rfl, rfl⟩
    · by_cases hudp : name = cstr "udp"
      · subst hudp
        cases val with
        | true => exact ⟨_, rfl, rfl⟩
        | false =>
          have hflags : (fun flags ↦ flags &&& ~~~nfsMountTcp ||| nfsMountTcp) =
            (· ||| nfsMountTcp) :=
            funext and_not_or_nfsMountTcp
          refine ⟨some (cstr "udp"), ?_, rfl⟩
          change some ((data.setProt ipprotoTcp).mapFlags
            (fun flags ↦ flags &&& ~~~nfsMountTcp ||| nfsMountTcp), some (cstr "udp")) = _
          rw [hflags]
          rfl
      · simp only [readFlag, applyFlag, List.contains_iff_mem, hskipped, htcp, hudp, if_false,
          Option.elim_none]

theorem NumberOption.newOpts_set (val : ℤ) (data : MountData) (option : NumberOption) :
    (option.set val data).newOpts = data.newOpts := by
  cases option <;> rfl

@[simp]
theorem newOpts_change (mark : TransportOption → UInt32 → UInt32) (data : MountData)
    (option : MountOption) : (option.change mark data).newOpts = data.newOpts := by
  cases option with
  | number option value => exact NumberOption.newOpts_set (atoi value) data option
  | _ => rfl

theorem length_newOpts_append (mark : TransportOption → UInt32 → UInt32) (data : MountData)
    (option : MountOption) : ((option.change mark data).append option.record).newOpts.length =
      data.newOpts.length + option.record.length := by
  rw [MountData.append, List.length_append, newOpts_change]

theorem appendOption_change (data : MountData) (option : MountOption) (optSize : ℕ) :
    appendOption (option.change parserMark data) option.record optSize =
      if option.record.length + 1 > cbufSize then .overflow
      else if data.newOpts.length + option.record.length ≥ optSize then
        .outBad (option.change parserMark data)
      else .next ((option.change parserMark data).append option.record) := by
  rw [appendOption, newOpts_change, MountData.append, newOpts_change]

/-- The end of an iteration of `hsi_nfs3_parse_options`. -/
def afterOption (optSize : ℕ) (missing : ItemResult) (text : CString → CString) :
    Option (MountData × Option CString) → ItemResult
  | none => missing
  | some (data, none) => .next data
  | some (data, some name) => appendOption data (text name) optSize

section Items

variable {data : MountData} {optSize : ℕ} (hnew : data.newOpts.length < optSize)

include hnew

theorem afterOption_eq {missing : ItemResult} {text : CString → CString} {read : Option MountOption}
    {applied : Option (MountData × Option CString)}
    (hspec : read.elim (applied = none) fun option ↦ option.Returns data text applied) :
    afterOption optSize missing text applied = read.elim missing fun option ↦
      appendOption (option.change parserMark data) option.record optSize := by
  cases read with
  | none =>
    rw [show applied = none from hspec]
    rfl
  | some option =>
    obtain ⟨name, rfl, hrecord⟩ := hspec
    rw [Option.elim_some, hrecord]
    cases name with
    | none => exact (appendOption_nil (by rwa [newOpts_change])).symm
    | some name => rfl

/-- One iteration: the item is read as an option, which is applied and recorded. -/
theorem parseItem_eq (item : CString) :
    parseItem data item optSize =
      if item.length ≥ cbufSize then .badParameter data
      else (readOption item).elim (if 61 ∈ item then .badParameter data else .outBad data)
        fun option ↦ appendOption (option.change parserMark data) option.record optSize := by
  rw [parseItem, readOption]
  refine if_congr Iff.rfl rfl ?_
  have hdrops : item.dropWhile (· != 61) = [] ↔ 61 ∉ item := by
    rw [List.dropWhile_eq_nil_iff]
    exact ⟨fun h hmem ↦ bne_iff_ne.mp (h 61 hmem) rfl,
      fun h x hx ↦ bne_iff_ne.mpr fun heq ↦ h (heq ▸ hx)⟩
  cases hdrop : item.dropWhile (· != 61) with
  | nil =>
    rw [hdrop, eq_self_iff_true, true_iff] at hdrops
    rw [if_neg hdrops]
    by_cases hno : item.take 2 = cstr "no"
    · simp only [hno, if_true]
      exact afterOption_eq hnew (applyFlag_spec data false _)
    · simp only [hno, if_false]
      exact afterOption_eq hnew (applyFlag_spec data true _)
  | cons c value =>
    rw [hdrop] at hdrops
    rw [if_pos (not_not.mp fun hnot ↦ List.cons_ne_nil c value (hdrops.mpr hnot))]
    dsimp only
    by_cases hdigit : (value.head?.map isDigit).getD false = true
    · rw [if_pos hdigit, if_pos hdigit]
      exact afterOption_eq hnew (applyNumber_spec data _ value)
    · rw [if_neg hdigit, if_neg hdigit]
      exact afterOption_eq hnew (applyText_spec data _ value)

end Items

/-! ## All iterations -/

/-- The items are options and short enough, and what is recorded of them fits. -/
def Accepts (data : MountData) (optSize : ℕ) (items : List CString) (options : List MountOption) :
    Prop :=
  List.Forall₂ (fun item option ↦ readOption item = some option ∧ item.length < cbufSize) items
    options ∧ data.newOpts.length + (options.flatMap MountOption.record).length < optSize

/-- An item that the loop deals with as the grammar says: one that is not an option is refused, and
`cbuf` holds what is recorded. -/
def ItemSound (item : CString) : Prop :=
  item.length < cbufSize ∧ (readOption item = none → 61 ∉ item) ∧
    ∀ option, readOption item = some option → option.record.length < cbufSize

/-- All items that the loop comes to are such items, given how much is recorded already. -/
def Sound (optSize : ℕ) : ℕ → List CString → Prop
  | _, [] => True
  | used, item :: rest =>
      ItemSound item ∧ ∀ option, readOption item = some option →
        used + option.record.length < optSize → Sound optSize (used + option.record.length) rest

theorem Accepts.unique {data : MountData} {optSize : ℕ} {items : List CString}
    {options options' : List MountOption} (h : Accepts data optSize items options)
    (h' : Accepts data optSize items options') : options = options' := by
  refine List.right_unique_forall₂' (fun item option option' hread hread' ↦ ?_) h.1 h'.1
  exact Option.some.inj (hread.1.symm.trans hread'.1)

/-- How the loop ends, compared with the grammar. -/
inductive LoopEnding (data : MountData) (optSize : ℕ) (items : List CString) : ItemResult → Prop
  | accepted {options : List MountOption} (hsound : Sound optSize data.newOpts.length items)
      (haccepts : Accepts data optSize items options) :
      LoopEnding data optSize items (.next (applyOptions parserMark data options))
  | refused (hsound : Sound optSize data.newOpts.length items)
      (hnot : ∀ options, ¬ Accepts data optSize items options) (data' : MountData) :
      LoopEnding data optSize items (.outBad data')
  | passed (hunsound : ¬ Sound optSize data.newOpts.length items)
      (hnot : ∀ options, ¬ Accepts data optSize items options) (data' : MountData) :
      LoopEnding data optSize items (.badParameter data')
  | overrun (hunsound : ¬ Sound optSize data.newOpts.length items) :
      LoopEnding data optSize items .overflow

section Loop

variable {data : MountData} {optSize : ℕ} {item : CString} {rest : List CString}

theorem itemSound_of_none (hread : readOption item = none) :
    ItemSound item ↔ item.length < cbufSize ∧ 61 ∉ item := by
  simp [ItemSound, hread]

theorem itemSound_of_some {option : MountOption} (hread : readOption item = some option) :
    ItemSound item ↔ item.length < cbufSize ∧ option.record.length < cbufSize := by
  simp [ItemSound, hread]

theorem sound_cons_of_none {used : ℕ} (hread : readOption item = none) :
    Sound optSize used (item :: rest) ↔ item.length < cbufSize ∧ 61 ∉ item := by
  simp [Sound, itemSound_of_none hread, hread]

theorem sound_cons_of_some {used : ℕ} {option : MountOption}
    (hread : readOption item = some option) :
    Sound optSize used (item :: rest) ↔
      (item.length < cbufSize ∧ option.record.length < cbufSize) ∧
        (used + option.record.length < optSize →
          Sound optSize (used + option.record.length) rest) := by
  simp [Sound, itemSound_of_some hread, hread]

/-- An item that is not an option, or is too long, is not accepted. -/
theorem not_accepts_cons (hnot : readOption item = none ∨ item.length ≥ cbufSize)
    (options : List MountOption) : ¬ Accepts data optSize (item :: rest) options := by
  rintro ⟨hall, -⟩
  cases hall with
  | cons hitem _ =>
    rcases hnot with hread | hlong
    · rw [hread] at hitem
      cases hitem.1
    · exact absurd hitem.2 (not_lt.mpr hlong)

theorem accepts_cons_iff {option : MountOption} (hread : readOption item = some option)
    {options : List MountOption} :
    Accepts data optSize (item :: rest) options ↔ item.length < cbufSize ∧ ∃ more,
      options = option :: more ∧
        Accepts ((option.change parserMark data).append option.record) optSize rest more := by
  simp only [Accepts, length_newOpts_append]
  constructor
  · rintro ⟨hall, hfits⟩
    cases hall with
    | cons hitem hmore =>
      cases hread.symm.trans hitem.1
      rw [List.flatMap_cons, List.length_append, ← add_assoc] at hfits
      exact ⟨hitem.2, _, rfl, hmore, hfits⟩
  · rintro ⟨hshort, more, rfl, hmore, hfits⟩
    rw [List.flatMap_cons, List.length_append, ← add_assoc]
    exact ⟨.cons ⟨hread, hshort⟩ hmore, hfits⟩

/-- The first iteration of the loop, if it does not stop. -/
theorem LoopEnding.cons {option : MountOption} (hread : readOption item = some option)
    (hshort : item.length < cbufSize) (hcbuf : option.record.length < cbufSize)
    (hfits : data.newOpts.length + option.record.length < optSize) {result : ItemResult}
    (h : LoopEnding ((option.change parserMark data).append option.record) optSize rest result) :
    LoopEnding data optSize (item :: rest) result := by
  have hsounds : Sound optSize data.newOpts.length (item :: rest) ↔
      Sound optSize ((option.change parserMark data).append option.record).newOpts.length rest := by
    rw [sound_cons_of_some hread, length_newOpts_append, and_iff_right ⟨hshort, hcbuf⟩]
    exact ⟨fun hsound ↦ hsound hfits, fun hsound _ ↦ hsound⟩
  have hnot (hnone : ∀ more, ¬ Accepts ((option.change parserMark data).append option.record)
      optSize rest more) (options : List MountOption) :
      ¬ Accepts data optSize (item :: rest) options := by
    rw [accepts_cons_iff hread]
    rintro ⟨-, more, -, hmore⟩
    exact hnone more hmore
  cases h with
  | @accepted options hsound haccepts =>
    exact @LoopEnding.accepted data optSize _ (option :: options) (hsounds.mpr hsound)
      ((accepts_cons_iff hread).mpr ⟨hshort, options, rfl, haccepts⟩)
  | refused hsound hnone data' => exact .refused (hsounds.mpr hsound) (hnot hnone) data'
  | passed hunsound hnone data' => exact .passed (mt hsounds.mp hunsound) (hnot hnone) data'
  | overrun hunsound => exact .overrun (mt hsounds.mp hunsound)

/-- The loop over the items. -/
theorem parseItems_ending (hnew : data.newOpts.length < optSize) (items : List CString) :
    LoopEnding data optSize items (parseItems optSize data items) := by
  induction items generalizing data with
  | nil => exact @LoopEnding.accepted data optSize [] [] trivial ⟨.nil, hnew⟩
  | cons item rest ih =>
    rw [parseItems, parseItem_eq hnew]
    by_cases hlong : item.length ≥ cbufSize
    · rw [if_pos hlong]
      refine .passed (fun hsound ↦ ?_) (not_accepts_cons (Or.inr hlong)) data
      exact absurd hsound.1.1 (not_lt.mpr hlong)
    rw [if_neg hlong]
    have hshort := not_le.mp hlong
    cases hread : readOption item with
    | none =>
      rw [Option.elim_none]
      by_cases hvalue : 61 ∈ item
      · rw [if_pos hvalue]
        refine .passed ?_ (not_accepts_cons (Or.inl hread)) data
        rw [sound_cons_of_none hread]
        exact fun h ↦ h.2 hvalue
      · rw [if_neg hvalue]
        exact .refused ((sound_cons_of_none hread).mpr ⟨hshort, hvalue⟩)
          (not_accepts_cons (Or.inl hread)) data
    | some option =>
      rw [Option.elim_some, appendOption_change]
      by_cases hcbuf : option.record.length + 1 > cbufSize
      · rw [if_pos hcbuf]
        refine .overrun ?_
        rw [sound_cons_of_some hread]
        omega
      rw [if_neg hcbuf]
      by_cases hfull : data.newOpts.length + option.record.length ≥ optSize
      · rw [if_pos hfull]
        refine .refused ?_ (fun options haccepts ↦ ?_) _
        · rw [sound_cons_of_some hread]
          omega
        · obtain ⟨-, more, -, -, hfits⟩ := (accepts_cons_iff hread).mp haccepts
          rw [length_newOpts_append] at hfits
          omega
      rw [if_neg hfull]
      refine .cons hread hshort (by omega) (not_le.mp hfull) (ih ?_)
      rw [length_newOpts_append]
      exact not_le.mp hfull

end Loop

end NfsFuse
