import NfsFuse.Mount.Grammar
import NfsFuse.Mount.Outcome
import NfsFuse.Nfs3.Acquisition

/-!
# The transport of mount and unmount

Six options choose the transport of both servers, and a flag of the superblock remembers the choice
until `hsfs_do_unmount`.  The last of these options decides the protocol, but `notcp` does not touch
the flag, and the default protocol is chosen without it.
-/

namespace NfsFuse

open Lib

/-- The transport options among the options. -/
def transports (options : List MountOption) : List TransportOption :=
  options.filterMap fun option ↦ match option with
    | .transport option => some option
    | _ => none

theorem setTcp_setTcp (tcp tcp' : Bool) (flags : UInt32) :
    setTcp tcp (setTcp tcp' flags) = setTcp tcp flags := by
  apply UInt32.eq_of_toBitVec_eq
  ext bit
  cases tcp <;> cases tcp' <;> cases h : nfsMountTcp.toBitVec[bit] <;> simp [setTcp, h]

theorem setTcp_and (tcp : Bool) (flags : UInt32) :
    setTcp tcp flags &&& nfsMountTcp = if tcp then nfsMountTcp else 0 := by
  apply UInt32.eq_of_toBitVec_eq
  ext bit
  cases tcp <;> cases h : nfsMountTcp.toBitVec[bit] <;> simp [setTcp, h]

/-- Whether the flag is set. -/
def hasTcp (flags : UInt32) : Bool := decide (flags &&& nfsMountTcp ≠ 0)

theorem hasTcp_eq_true_iff (flags : UInt32) : hasTcp flags = true ↔ flags &&& nfsMountTcp ≠ 0 :=
  decide_eq_true_iff

theorem hasTcp_setTcp (tcp : Bool) (flags : UInt32) : hasTcp (setTcp tcp flags) = tcp := by
  rw [hasTcp, setTcp_and]
  cases tcp <;> decide

theorem nfsMountTcp_getElem {bit : ℕ} (hbit : bit < 32) :
    nfsMountTcp.toBitVec[bit] = decide (bit = 0) := by
  change (1 : BitVec 32)[bit] = _
  simp [BitVec.getElem_one]

theorem hasTcp_eq (flags : UInt32) : hasTcp flags = flags.toBitVec[0] := by
  rw [hasTcp]
  cases hfirst : flags.toBitVec[0] with
  | true =>
    refine decide_eq_true fun hzero ↦ ?_
    have hbit : (flags &&& nfsMountTcp).toBitVec[0] = true := by
      rw [UInt32.toBitVec_and, BitVec.getElem_and, hfirst, nfsMountTcp_getElem]
      rfl
    rw [hzero] at hbit
    cases hbit
  | false =>
    refine decide_eq_false (not_not.mpr ?_)
    apply UInt32.eq_of_toBitVec_eq
    ext bit hlt
    rw [UInt32.toBitVec_and, BitVec.getElem_and, nfsMountTcp_getElem hlt]
    by_cases hbit : bit = 0
    · subst hbit
      simp [hfirst]
    · simp [hbit]

theorem setTcp_hasTcp (flags : UInt32) : setTcp (hasTcp flags) flags = flags := by
  apply UInt32.eq_of_toBitVec_eq
  ext bit hlt
  have hfirst := hasTcp_eq flags
  cases h : hasTcp flags <;> by_cases hbit : bit = 0 <;> simp_all [setTcp, nfsMountTcp_getElem]

/-- A sequence of marks leaves the last one. -/
theorem foldl_setTcp (marks : List Bool) (flags : UInt32) :
    marks.foldl (fun flags tcp ↦ setTcp tcp flags) flags =
      setTcp (marks.getLast?.getD (hasTcp flags)) flags := by
  induction marks generalizing flags with
  | nil => exact (setTcp_hasTcp flags).symm
  | cons tcp rest ih =>
    rw [List.foldl_cons, ih, setTcp_setTcp, hasTcp_setTcp, List.getLast?_cons, Option.getD_some]

/-- Forget the flags. -/
def MountData.clearFlags (data : MountData) : MountData := data.mapFlags fun _ ↦ 0

theorem eq_iff_clearFlags {data data' : MountData} :
    data = data' ↔ data.clearFlags = data'.clearFlags ∧ data.super.flags = data'.super.flags := by
  refine ⟨fun h ↦ h ▸ ⟨rfl, rfl⟩, fun ⟨hclear, hflags⟩ ↦ ?_⟩
  have hback (data : MountData) : data.clearFlags.mapFlags (fun _ ↦ data.super.flags) = data := rfl
  rw [← hback data, ← hback data', hclear, hflags]

theorem NumberOption.set_clearFlags (val : ℤ) (data : MountData) (option : NumberOption) :
    (option.set val data).clearFlags = option.set val data.clearFlags := by
  cases option <;> rfl

theorem NumberOption.flags_set (val : ℤ) (data : MountData) (option : NumberOption) :
    (option.set val data).super.flags = data.super.flags := by
  cases option <;> rfl

section Options

variable (mark : TransportOption → UInt32 → UInt32)

/-- The marks make no difference but in the flags. -/
theorem change_clearFlags (data : MountData) (option : MountOption) :
    (option.change mark data).clearFlags = option.change (fun _ ↦ id) data.clearFlags := by
  cases option with
  | number option value => exact option.set_clearFlags (atoi value) data
  | _ => rfl

theorem applyOptions_clearFlags (data : MountData) (options : List MountOption) :
    (applyOptions mark data options).clearFlags =
      applyOptions (fun _ ↦ id) data.clearFlags options := by
  induction options generalizing data with
  | nil => rfl
  | cons option rest ih =>
    have hstep : ((option.change mark data).append option.record).clearFlags =
        (option.change (fun _ ↦ id) data.clearFlags).append option.record := by
      rw [← change_clearFlags mark]
      rfl
    exact (ih _).trans (congrArg (applyOptions _ · rest) hstep)

theorem flags_applyOptions (data : MountData) (options : List MountOption) :
    (applyOptions mark data options).super.flags =
      (transports options).foldl (fun flags option ↦ mark option flags) data.super.flags := by
  induction options generalizing data with
  | nil => rfl
  | cons option rest ih =>
    refine (ih _).trans ?_
    cases option with
    | number option value =>
      exact congrArg (fun flags ↦ List.foldl (fun flags option ↦ mark option flags) flags
        (transports rest)) (option.flags_set (atoi value) data)
    | _ => rfl

end Options

/-- A transport is marked by every option that chooses it. -/
theorem flags_transportMark (data : MountData) (options : List MountOption) :
    (applyOptions transportMark data options).super.flags =
      setTcp (((transports options).map TransportOption.isTcp).getLast?.getD
        (hasTcp data.super.flags)) data.super.flags := by
  rw [flags_applyOptions, ← foldl_setTcp, List.foldl_map]
  rfl

/-- The parser leaves the last mark, of the options that make one. -/
theorem flags_parserMark (data : MountData) (options : List MountOption) :
    (applyOptions parserMark data options).super.flags =
      setTcp (((transports options).filterMap TransportOption.marks).getLast?.getD
        (hasTcp data.super.flags)) data.super.flags := by
  rw [flags_applyOptions, ← foldl_setTcp, List.foldl_filterMap]
  refine congrArg (fun step ↦ List.foldl step data.super.flags (transports options)) ?_
  funext flags option
  cases option <;> rfl

/-- No option undoes the choice of TCP without clearing the flag. -/
def NotcpHarmless (tcp : Bool) (options : List TransportOption) : Prop :=
  options.getLast? = some .notcp →
    (options.filterMap TransportOption.marks).getLast?.getD tcp = false

theorem getLast?_marks_iff (tcp : Bool) (options : List TransportOption) :
    (options.filterMap TransportOption.marks).getLast?.getD tcp =
      (options.map TransportOption.isTcp).getLast?.getD tcp ↔ NotcpHarmless tcp options := by
  rcases List.eq_nil_or_concat options with rfl | ⟨front, last, rfl⟩
  · simp [NotcpHarmless]
  · rw [NotcpHarmless, List.concat_eq_append, List.getLast?_concat]
    cases last <;> simp [TransportOption.marks, TransportOption.isTcp]

/-- The parser's result is that of the options, unless a `notcp` leaves the flag set. -/
theorem applyOptions_parserMark_iff (data : MountData) (options : List MountOption) :
    applyOptions parserMark data options = applyOptions transportMark data options ↔
      NotcpHarmless (hasTcp data.super.flags) (transports options) := by
  rw [eq_iff_clearFlags, applyOptions_clearFlags, applyOptions_clearFlags, flags_parserMark,
    flags_transportMark, and_iff_right rfl, ← getLast?_marks_iff]
  refine ⟨fun h ↦ ?_, fun h ↦ by rw [h]⟩
  have := congrArg hasTcp h
  rwa [hasTcp_setTcp, hasTcp_setTcp] at this

theorem NumberOption.prots_set (val : ℤ) (data : MountData) (option : NumberOption) :
    (option.set val data).nfs.pmProt = data.nfs.pmProt ∧
      (option.set val data).mnt.pmProt = data.mnt.pmProt := by
  cases option <;> exact ⟨rfl, rfl⟩

/-- The last transport option decides the protocol of both servers. -/
theorem prots_applyOptions (mark : TransportOption → UInt32 → UInt32) (data : MountData)
    (options : List MountOption) :
    (applyOptions mark data options).nfs.pmProt =
        ((transports options).getLast?.map TransportOption.prot).getD data.nfs.pmProt ∧
      (applyOptions mark data options).mnt.pmProt =
        ((transports options).getLast?.map TransportOption.prot).getD data.mnt.pmProt := by
  induction options generalizing data with
  | nil => exact ⟨rfl, rfl⟩
  | cons option rest ih =>
    obtain ⟨hnfs, hmnt⟩ := ih ((option.change mark data).append option.record)
    cases option with
    | number option value =>
      obtain ⟨hnfs', hmnt'⟩ := option.prots_set (atoi value) data
      exact ⟨hnfs.trans (congrArg _ hnfs'), hmnt.trans (congrArg _ hmnt')⟩
    | transport option =>
      have hlast (prot : UInt64) :
          ((transports (.transport option :: rest)).getLast?.map TransportOption.prot).getD prot =
            ((transports rest).getLast?.map TransportOption.prot).getD option.prot := by
        change ((option :: transports rest).getLast?.map TransportOption.prot).getD prot = _
        rw [List.getLast?_cons]
        cases (transports rest).getLast? <;> rfl
      rw [hlast, hlast]
      exact ⟨hnfs, hmnt⟩
    | _ => exact ⟨hnfs, hmnt⟩

/-- The options in front of the first item that the parser does not take. -/
def takenOptions : List CString → List MountOption
  | [] => []
  | item :: rest =>
      if item.length ≥ cbufSize then []
      else match readOption item with
        | none => []
        | some option => option :: takenOptions rest

/-- The parser returns 0 after a bad parameter too, with the options in front of it applied. -/
theorem parseItems_taken {data data' : MountData} {optSize : ℕ}
    (hnew : data.newOpts.length < optSize) {items : List CString}
    (hresult : parseItems optSize data items = .next data' ∨
      parseItems optSize data items = .badParameter data') :
    data' = applyOptions parserMark data (takenOptions items) := by
  induction items generalizing data with
  | nil =>
    rcases hresult with hresult | hresult
    · cases hresult
      rfl
    · cases hresult
  | cons item rest ih =>
    rw [parseItems, parseItem_eq hnew] at hresult
    rw [takenOptions]
    by_cases hlong : item.length ≥ cbufSize
    · rw [if_pos hlong] at hresult ⊢
      rcases hresult with hresult | hresult
      · cases hresult
      · cases hresult
        rfl
    rw [if_neg hlong] at hresult ⊢
    cases hread : readOption item with
    | none =>
      rw [hread, Option.elim_none] at hresult
      by_cases hvalue : 61 ∈ item
      · rw [if_pos hvalue] at hresult
        rcases hresult with hresult | hresult
        · cases hresult
        · cases hresult
          rfl
      · rw [if_neg hvalue] at hresult
        rcases hresult with hresult | hresult <;> cases hresult
    | some option =>
      rw [hread, Option.elim_some, appendOption_change] at hresult
      by_cases hcbuf : option.record.length + 1 > cbufSize
      · rw [if_pos hcbuf] at hresult
        rcases hresult with hresult | hresult <;> cases hresult
      rw [if_neg hcbuf] at hresult
      by_cases hfull : data.newOpts.length + option.record.length ≥ optSize
      · rw [if_pos hfull] at hresult
        rcases hresult with hresult | hresult <;> cases hresult
      rw [if_neg hfull] at hresult
      rw [not_le, ← length_newOpts_append parserMark] at hfull
      exact ih hfull hresult

/-- What an accepted string leaves in the superblock and the two servers. -/
theorem hsiNfs3ParseOptions_accepted {oldOpts : CString} {data data' : MountData} {optSize : ℕ}
    (hnew : data.newOpts.length < optSize) {daemon daemon' : Daemon} {trace : Trace}
    (hpath : ((hsiNfs3ParseOptions oldOpts data optSize).run daemon).Path trace
      (.done (0, data') daemon')) :
    ∃ addr, data' = { applyOptions parserMark data (takenOptions (splitItems false [] oldOpts)) with
      mntAddr := addr } := by
  unfold hsiNfs3ParseOptions at hpath
  generalize hitems : splitItems false [] oldOpts = items at hpath ⊢
  cases hresult : parseItems optSize data items with
  | overflow =>
    rw [hresult] at hpath
    cases hpath.2
  | outBad bad =>
    rw [hresult] at hpath
    cases hpath.2
  | badParameter bad =>
    rw [hresult] at hpath
    cases hpath.2
    rw [← parseItems_taken hnew (Or.inr hresult)]
    exact ⟨_, rfl⟩
  | next applied =>
    rw [hresult] at hpath
    rw [← parseItems_taken hnew (Or.inl hresult)]
    dsimp only at hpath
    split at hpath
    · cases hpath.2
      exact ⟨_, rfl⟩
    · obtain ⟨⟨err, addr⟩, daemon₁, front, rest, -, hrest, rfl⟩ := Program.path_bind_done.mp hpath
      dsimp only at hrest
      split_ifs at hrest with herr
      · cases hrest.2
      · cases hrest.2
        exact ⟨_, rfl⟩

/-! ## Mount and unmount -/

/-- A client for this server was opened, or tried to be. -/
def Opens (trace : Trace) (server : Pmap) : Prop :=
  ∃ opened, ⟨.host (.openClient server), opened⟩ ∈ trace

/-- What only prepares opens clients for its servers. -/
theorem Prog.Prepares.opens {α : Type} {program : Prog α} {servers : Pmap → Prop}
    (h : program.Prepares servers) {daemon : Daemon} {trace : Trace}
    {ending : Ending Fault Daemon α} (hpath : (program.run daemon).Path trace ending)
    {server : Pmap} (hopens : Opens trace server) : servers server := by
  have hemits : program.Emits fun event ↦ PreparingOp servers event.op :=
    Program.Within.emits h fun op hop _ ↦ hop
  obtain ⟨opened, hmem⟩ := hopens
  cases hemits _ _ _ hpath _ hmem with
  | openClient hserver => exact hserver

/-- The protocol that `hsfs_do_unmount` chooses. -/
def unmountProt (flags : UInt32) : UInt64 :=
  if flags &&& nfsMountTcp ≠ 0 then ipprotoTcp else ipprotoUdp

/-- `hsfs_do_unmount` opens clients with this protocol only. -/
theorem hsfsDoUnmount_opens {opts : CmdlineOpts} {daemon : Daemon} {trace : Trace}
    {ending : Ending Fault Daemon ℤ}
    (hpath : ((hsfsDoUnmount opts).run daemon).Path trace ending) {server : Pmap}
    (hopens : Opens trace server) : server.pmProt = unmountProt daemon.sb.flags := by
  have hnone (trace : Trace) (h : trace = []) : ¬ Opens trace server := by
    rintro ⟨opened, hmem⟩
    rw [h] at hmem
    cases hmem
  have hprepares := @prepares_nfsParseDevname (fun _ ↦ False) opts.spec
  unfold hsfsDoUnmount at hpath
  by_cases hlong : opts.spec.length ≥ hostdirSize
  · rw [if_pos hlong] at hpath
    exact absurd hopens (hnone trace hpath.1)
  rw [if_neg hlong] at hpath
  rcases Program.path_bind.mp hpath with ⟨parts, daemon₁, front, rest, hfirst, hrest, rfl⟩ |
    ⟨reason, daemon₁, hcrash, rfl⟩
  · obtain ⟨opened, hmem⟩ := hopens
    rcases List.mem_append.mp hmem with hmem | hmem
    · exact (hprepares.opens hfirst ⟨opened, hmem⟩).elim
    · have hfixes : (nfsParseDevname opts.spec).Fixes id :=
        Program.Within.fixes hprepares fun label ↦ label.elim
      obtain rfl : daemon₁ = daemon := hfixes _ _ _ hfirst
      cases parts with
      | none => exact absurd ⟨opened, hmem⟩ (hnone rest hrest.1)
      | some parts =>
        dsimp only at hrest
        rw [Program.get_bind] at hrest
        have hdestroy {allowed : Event EnvAns → Prop} :
            (clntDestroy daemon₁.sb.clntp).Emits allowed := by
          unfold clntDestroy
          split
          · exact .crash _
          · exact .modify _
        have hemits : (clntDestroy daemon₁.sb.clntp >>= fun _ ↦ hsfsIput daemon₁.sb.root >>= fun _ ↦
            hsiNfs3Unmount ⟨100005, 3, unmountProt daemon₁.sb.flags, 0⟩ parts.2).Emits fun event ↦
              ∀ server, event.op = .host (.openClient server) →
                server.pmProt = unmountProt daemon₁.sb.flags := by
          refine .bind hdestroy fun _ ↦ .bind (emits_hsfsIput _) fun _ ↦ ?_
          refine .bind (.ite (.host ?_) (.pure _)) fun _ ↦ .ite (.host nofun) (.pure _)
          rintro answer server heq
          cases heq
          rfl
        exact hemits _ _ _ hrest _ hmem server rfl
  · exact (hprepares.opens hcrash hopens).elim

/-- Both servers use one protocol, the flag says which, and unmount uses it too. -/
structure TransportAgrees (data : MountData) : Prop where
  prot_eq : data.nfs.pmProt = data.mnt.pmProt
  tcp_or_udp : data.mnt.pmProt = ipprotoTcp ∨ data.mnt.pmProt = ipprotoUdp
  flag_iff : data.super.flags &&& nfsMountTcp ≠ 0 ↔ data.mnt.pmProt = ipprotoTcp
  unmount_eq : ∀ (fg : Bool) (dirname : CString) (timeout : ℤ) (fuel : ℕ) (daemon : Daemon)
    (trace : Trace) (ending : Ending Fault Daemon (ℤ × Option (NfsRes NfsFh3))),
    ((mountLoop fg data.mnt dirname timeout fuel).run daemon).Path trace ending →
    ∀ (opts : CmdlineOpts) (daemon' : Daemon) (trace' : Trace) (ending' : Ending Fault Daemon ℤ),
    daemon'.sb.flags = data.super.flags →
    ((hsfsDoUnmount opts).run daemon').Path trace' ending' →
    ∀ mounted unmounted, Opens trace mounted → Opens trace' unmounted →
      unmounted.pmProt = mounted.pmProt

/-- The flag is what the unmount needs. -/
theorem transportAgrees_iff {data : MountData} (hprot : data.nfs.pmProt = data.mnt.pmProt)
    (hknown : data.mnt.pmProt = ipprotoTcp ∨ data.mnt.pmProt = ipprotoUdp) :
    TransportAgrees data ↔
      (data.super.flags &&& nfsMountTcp ≠ 0 ↔ data.mnt.pmProt = ipprotoTcp) := by
  refine ⟨TransportAgrees.flag_iff, fun hflag ↦ ⟨hprot, hknown, hflag, ?_⟩⟩
  intro fg dirname timeout fuel daemon trace ending hmount opts daemon' trace' ending' hflags
    hunmount mounted unmounted hmounted hunmounted
  have hserver : mounted = data.mnt :=
    (@prepares_mountLoop (· = data.mnt) fg data.mnt rfl dirname timeout fuel).opens hmount hmounted
  rw [hsfsDoUnmount_opens hunmount hunmounted, hflags, hserver, unmountProt]
  rcases hknown with htcp | hudp
  · rw [if_pos (hflag.mpr htcp), htcp]
  · rw [if_neg fun hset ↦ ?_, hudp]
    rw [hudp] at hflag
    exact absurd (hflag.mp hset) (by decide)

/-- There is a transport option, and a final `notcp` does not follow one that has set the flag. -/
def FlagFollows (options : List TransportOption) : Prop :=
  options ≠ [] ∧ NotcpHarmless false options

/-- Mount and unmount use the same transport exactly if the flag follows the options. -/
theorem mount_transport_iff (oldOpts : CString) (data data' : MountData) (optSize : ℕ)
    (daemon daemon' : Daemon) (trace : Trace) (hnew : data.newOpts.length < optSize)
    (hflags : data.super.flags = 0) (hmnt : data.mnt = ⟨0, 0, 0, 0⟩)
    (hnfs : data.nfs = ⟨0, 0, 0, 0⟩)
    (hpath : ((hsiNfs3ParseOptions oldOpts data optSize).run daemon).Path trace
      (.done (0, data') daemon')) :
    TransportAgrees (hsiValidateMountData data') ↔
      FlagFollows (transports (takenOptions (splitItems false [] oldOpts))) := by
  obtain ⟨addr, rfl⟩ := hsiNfs3ParseOptions_accepted hnew hpath
  generalize takenOptions (splitItems false [] oldOpts) = options
  have hmark := flags_parserMark data options
  obtain ⟨hnfs', hmnt'⟩ := prots_applyOptions parserMark data options
  rw [hflags] at hmark
  rw [hnfs] at hnfs'
  rw [hmnt] at hmnt'
  generalize applyOptions parserMark data options = applied at *
  have hflag : (hsiValidateMountData { applied with mntAddr := addr }).super.flags &&&
      nfsMountTcp ≠ 0 ↔
        ((transports options).filterMap TransportOption.marks).getLast?.getD false = true := by
    change applied.super.flags &&& nfsMountTcp ≠ 0 ↔ _
    rw [← hasTcp_eq_true_iff, hmark, hasTcp_setTcp]
    rfl
  have hvalid : (hsiValidateMountData { applied with mntAddr := addr }).mnt.pmProt =
      if applied.mnt.pmProt = 0 then ipprotoTcp else applied.mnt.pmProt := rfl
  have hvalid' : (hsiValidateMountData { applied with mntAddr := addr }).nfs.pmProt =
      if applied.nfs.pmProt = 0 then ipprotoTcp else applied.nfs.pmProt := rfl
  cases hlast : (transports options).getLast? with
  | none =>
    rw [hlast] at hmnt' hnfs'
    change applied.mnt.pmProt = 0 at hmnt'
    change applied.nfs.pmProt = 0 at hnfs'
    rw [if_pos hmnt'] at hvalid
    rw [if_pos hnfs'] at hvalid'
    have hempty : transports options = [] := List.getLast?_eq_none_iff.mp hlast
    rw [transportAgrees_iff (hvalid'.trans hvalid.symm) (Or.inl hvalid), hflag, hempty, hvalid]
    exact iff_of_false (fun h ↦ Bool.false_ne_true (h.mpr rfl)) fun h ↦ h.1 rfl
  | some last =>
    have hne : last.prot ≠ 0 := by cases last <;> decide
    have htcp : last.prot = ipprotoTcp ↔ last.isTcp = true := by cases last <;> decide
    have hknown : last.prot = ipprotoTcp ∨ last.prot = ipprotoUdp := by cases last <;> decide
    have hlastTcp : ((transports options).map TransportOption.isTcp).getLast?.getD false =
        last.isTcp := by
      rw [List.getLast?_map, hlast]
      rfl
    have hsome : transports options ≠ [] := by
      intro hempty
      rw [hempty] at hlast
      cases hlast
    rw [hlast] at hmnt' hnfs'
    rw [hmnt', Option.map_some, Option.getD_some, if_neg hne] at hvalid
    rw [hnfs', Option.map_some, Option.getD_some, if_neg hne] at hvalid'
    rw [← hvalid] at hknown
    rw [transportAgrees_iff (hvalid'.trans hvalid.symm) hknown, hflag, hvalid, htcp,
      ← Bool.eq_iff_iff, ← hlastTcp, getLast?_marks_iff, FlagFollows, and_iff_right hsome]

/-- The data with which `hsfs_do_mount` parses its options. -/
def zeroedData : MountData where
  super := .zeroed
  retry := -1
  mnt := ⟨0, 0, 0, 0⟩
  nfs := ⟨0, 0, 0, 0⟩
  mounthost := none
  mntAddr := 0
  newOpts := []

/-- The last of several options counts: both use TCP. -/
theorem mount_transport_last : ∃ data',
    ((hsiNfs3ParseOptions (cstr "udp,rsize=8192,tcp") zeroedData hostdirSize).run .initial).Path []
      (.done (0, data') .initial) ∧ TransportAgrees (hsiValidateMountData data') := by
  obtain ⟨data', hpath⟩ : ∃ data', ((hsiNfs3ParseOptions (cstr "udp,rsize=8192,tcp") zeroedData
      hostdirSize).run .initial).Path [] (.done (0, data') .initial) :=
    ⟨_, rfl, rfl⟩
  have htransports : transports (takenOptions (splitItems false []
      (cstr "udp,rsize=8192,tcp"))) = [.udp, .tcp] := by
    decide
  have hfollows : FlagFollows (transports (takenOptions (splitItems false []
      (cstr "udp,rsize=8192,tcp")))) := by
    rw [htransports]
    exact ⟨List.cons_ne_nil _ _, nofun⟩
  exact ⟨data', hpath, (mount_transport_iff (cstr "udp,rsize=8192,tcp") zeroedData data'
    hostdirSize _ _ _ (by decide) rfl rfl rfl hpath).mpr hfollows⟩

/-- Without a transport option mount uses TCP and unmount UDP. -/
theorem default_transport_forgotten :
    ((hsiNfs3ParseOptions [] zeroedData hostdirSize).run .initial).Path []
      (.done (0, zeroedData) .initial) ∧
    (hsiValidateMountData zeroedData).mnt.pmProt = ipprotoTcp ∧
    unmountProt (hsiValidateMountData zeroedData).super.flags = ipprotoUdp ∧
    ¬ TransportAgrees (hsiValidateMountData zeroedData) := by
  refine ⟨⟨rfl, rfl⟩, rfl, rfl, fun h ↦ ?_⟩
  exact absurd (h.flag_iff.mpr rfl) (by decide)

end NfsFuse
