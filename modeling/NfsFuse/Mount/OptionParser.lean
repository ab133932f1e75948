import NfsFuse.Mount.Transport

/-!
# The option parser implements its grammar

`hsi_nfs3_parse_options` should return 0 exactly for the strings of the grammar, leave the result of
all options, and `hsi_nfsmnt_check_compat` should then accept version 3 of both protocols.  This
holds exactly for the strings whose items the loop deals with as the grammar says, if `mounthost`
can be resolved, no `notcp` leaves the flag of an earlier option set, and the mount version is not
3.
-/

namespace NfsFuse

open Lib

/-- A version that is not set, or 3. -/
def Pmap.Supported (pmap : Pmap) : Prop := pmap.pmVers = 0 ∨ pmap.pmVers = 3

/-- The address of the mount host, if there is one. -/
def HostResolved (data : MountData) (addr : UInt32) (trace : Trace) : Prop :=
  match data.mounthost with
  | none => addr = data.mntAddr
  | some host => ⟨.host (.resolve host), Resolution.found addr⟩ ∈ trace

theorem hostResolved_of_none {data : MountData} (h : data.mounthost = none) (addr : UInt32)
    (trace : Trace) : HostResolved data addr trace ↔ addr = data.mntAddr := by
  rw [HostResolved, h]

theorem hostResolved_of_some {data : MountData} {host : CString} (h : data.mounthost = some host)
    (addr : UInt32) (trace : Trace) : HostResolved data addr trace ↔
      ⟨.host (.resolve host), Resolution.found addr⟩ ∈ trace := by
  rw [HostResolved, h]

/-- The parser has done what the grammar says. -/
def ImplementsGrammar (data : MountData) (optSize : ℕ) (items : List CString) (trace : Trace)
    (ending : Ending Fault Daemon (ℤ × MountData)) : Prop :=
  ∃ ret data' daemon', ending = .done (ret, data') daemon' ∧
    (ret = 0 ↔ ∃ options, Accepts data optSize items options) ∧
    (ret = 0 → ∃ options addr, Accepts data optSize items options ∧
      HostResolved (applyOptions transportMark data options) addr trace ∧
      data' = { applyOptions transportMark data options with mntAddr := addr }) ∧
    (ret = 0 → (hsiNfsmntCheckCompat data'.nfs data'.mnt = 0 ↔
      data'.nfs.Supported ∧ data'.mnt.Supported))

/-- When it does. -/
def GrammarKept (data : MountData) (optSize : ℕ) (items : List CString) (trace : Trace) : Prop :=
  Sound optSize data.newOpts.length items ∧ ∀ options, Accepts data optSize items options →
    NotcpHarmless (hasTcp data.super.flags) (transports options) ∧
    (∃ addr, HostResolved (applyOptions transportMark data options) addr trace) ∧
    ((applyOptions transportMark data options).mnt.pmVers = 3 →
      ¬ (applyOptions transportMark data options).nfs.Supported)

theorem hsiNfsmntCheckCompat_eq_zero_iff (nfs mnt : Pmap) :
    hsiNfsmntCheckCompat nfs mnt = 0 ↔ nfs.Supported ∧ mnt.pmVers = 0 := by
  rw [hsiNfsmntCheckCompat, Pmap.Supported]
  split_ifs with hnfs hmnt
  · exact iff_of_false one_ne_zero fun h ↦ h.1.elim hnfs.1 hnfs.2
  · exact iff_of_false one_ne_zero fun h ↦ hmnt h.2
  · rw [not_and_or, not_not, not_not] at hnfs
    exact iff_of_true rfl ⟨hnfs, not_not.mp hmnt⟩

/-- The check is right unless it is about mount version 3. -/
theorem checkCompat_iff (nfs mnt : Pmap) :
    (hsiNfsmntCheckCompat nfs mnt = 0 ↔ nfs.Supported ∧ mnt.Supported) ↔
      (mnt.pmVers = 3 → ¬ nfs.Supported) := by
  rw [hsiNfsmntCheckCompat_eq_zero_iff]
  constructor
  · intro h hthree hnfs
    have hzero := (h.mpr ⟨hnfs, Or.inr hthree⟩).2
    rw [hthree] at hzero
    exact absurd hzero (by decide)
  · intro h
    refine and_congr_right fun hnfs ↦ ⟨Or.inl, fun hmnt ↦ ?_⟩
    exact hmnt.resolve_right fun hthree ↦ h hthree hnfs

/-- The end of `hsi_nfs3_parse_options` behind the loop. -/
theorem hsiNfs3ParseOptions_next {oldOpts : CString} {data applied : MountData} {optSize : ℕ}
    (hloop : parseItems optSize data (splitItems false [] oldOpts) = .next applied)
    {daemon : Daemon} {trace : Trace} {ending : Ending Fault Daemon (ℤ × MountData)}
    (hpath : ((hsiNfs3ParseOptions oldOpts data optSize).run daemon).Path trace ending) :
    (∃ addr, HostResolved applied addr trace ∧
      ending = .done (0, { applied with mntAddr := addr }) daemon) ∨
    ((∀ addr, ¬ HostResolved applied addr trace) ∧ ∃ ret,
        ending = .done (ret, applied) daemon) := by
  unfold hsiNfs3ParseOptions at hpath
  rw [hloop] at hpath
  dsimp only at hpath
  split at hpath
  · rename_i hnone
    exact Or.inl ⟨_, (hostResolved_of_none hnone _ trace).mpr rfl, hpath.2⟩
  · rename_i host hsome
    obtain ⟨⟨err, addr⟩, daemon₁, front, rest, hresolve, hrest, rfl⟩ | ⟨_, _, hcrash, -⟩ :=
      Program.path_bind.mp hpath
    · obtain ⟨resolution, back, rfl, hback⟩ := Prog.path_host_bind.mp hresolve
      cases resolution with
      | found resolved =>
        cases hback.2
        rw [if_neg (not_not.mpr rfl)] at hrest
        refine Or.inl ⟨resolved, ?_, hrest.2⟩
        exact (hostResolved_of_some hsome _ _).mpr List.mem_cons_self
      | failed errno =>
        cases hback.2
        obtain rfl := hback.1
        obtain ⟨ret, rfl, heq⟩ : ∃ ret, rest = [] ∧ ending = .done (ret, applied) daemon := by
          dsimp only at hrest
          split_ifs at hrest
          · exact ⟨1, hrest⟩
          · exact ⟨0, hrest⟩
        refine Or.inr ⟨fun addr hresolved ↦ ?_, ret, heq⟩
        rw [hostResolved_of_some hsome] at hresolved
        cases List.mem_singleton.mp hresolved
    · obtain ⟨resolution, back, rfl, hback⟩ := Prog.path_host_bind.mp hcrash
      cases resolution <;> cases hback.2

section Grammar

variable {data : MountData} {options : List MountOption}

/-- What the parser leaves differs from the result of the options in the flags only. -/
theorem applyOptions_parserMark_fields :
    (applyOptions parserMark data options).mounthost =
        (applyOptions transportMark data options).mounthost ∧
      (applyOptions parserMark data options).mntAddr =
        (applyOptions transportMark data options).mntAddr ∧
      (applyOptions parserMark data options).nfs = (applyOptions transportMark data options).nfs ∧
      (applyOptions parserMark data options).mnt =
        (applyOptions transportMark data options).mnt := by
  have hclear : (applyOptions parserMark data options).clearFlags =
      (applyOptions transportMark data options).clearFlags := by
    rw [applyOptions_clearFlags, applyOptions_clearFlags]
  exact ⟨(congrArg MountData.mounthost hclear :), (congrArg MountData.mntAddr hclear :),
    (congrArg MountData.nfs hclear :), (congrArg MountData.mnt hclear :)⟩

theorem hostResolved_parserMark_iff (addr : UInt32) (trace : Trace) :
    HostResolved (applyOptions parserMark data options) addr trace ↔
      HostResolved (applyOptions transportMark data options) addr trace := by
  obtain ⟨hhost, haddr, -, -⟩ := @applyOptions_parserMark_fields data options
  rw [HostResolved, HostResolved, hhost, haddr]

/-- An accepted string whose mount host has been resolved. -/
theorem implementsGrammar_resolved_iff {optSize : ℕ} {items : List CString}
    (haccepts : Accepts data optSize items options) {trace : Trace} {addr : UInt32}
    (hresolved : HostResolved (applyOptions transportMark data options) addr trace)
    (daemon : Daemon) :
    ImplementsGrammar data optSize items trace
        (.done (0, { applyOptions parserMark data options with mntAddr := addr }) daemon) ↔
      NotcpHarmless (hasTcp data.super.flags) (transports options) ∧
        ((applyOptions transportMark data options).mnt.pmVers = 3 →
          ¬ (applyOptions transportMark data options).nfs.Supported) := by
  obtain ⟨-, -, hnfs, hmnt⟩ := @applyOptions_parserMark_fields data options
  rw [← applyOptions_parserMark_iff, ← checkCompat_iff, ← hnfs, ← hmnt]
  constructor
  · rintro ⟨ret, data', daemon', heq, -, hresult, hcompat⟩
    cases heq
    obtain ⟨options', addr', haccepts', -, hdata⟩ := hresult rfl
    cases haccepts.unique haccepts'
    refine ⟨?_, hcompat rfl⟩
    rw [eq_iff_clearFlags, applyOptions_clearFlags, applyOptions_clearFlags]
    exact ⟨rfl, (congrArg (fun data ↦ data.super.flags) hdata :)⟩
  · rintro ⟨hsame, hcompat⟩
    refine ⟨0, _, daemon, rfl, iff_of_true rfl ⟨options, haccepts⟩, fun _ ↦ ?_, fun _ ↦ hcompat⟩
    exact ⟨options, addr, haccepts, hresolved, by rw [hsame]⟩

end Grammar

/-- The parser implements its grammar exactly when the condition holds. -/
theorem parse_options_grammar_iff (oldOpts : CString) (data : MountData) (optSize : ℕ)
    (daemon : Daemon) (trace : Trace) (ending : Ending Fault Daemon (ℤ × MountData))
    (hbalanced : Even (oldOpts.count 34)) (hitems : [] ∉ optionItems oldOpts)
    (hnew : data.newOpts.length < optSize)
    (hpath : ((hsiNfs3ParseOptions oldOpts data optSize).run daemon).Path trace ending) :
    ImplementsGrammar data optSize (optionItems oldOpts) trace ending ↔
      GrammarKept data optSize (optionItems oldOpts) trace := by
  have hloop := parseItems_ending hnew (optionItems oldOpts)
  have hsplit := splitItems_eq_optionItems hbalanced hitems
  generalize hresult : parseItems optSize data (optionItems oldOpts) = result at hloop
  have hpath' := hpath
  unfold hsiNfs3ParseOptions at hpath
  rw [hsplit, hresult] at hpath
  cases hloop with
  | @accepted options hsound haccepts =>
    rw [← hsplit] at hresult
    rcases hsiNfs3ParseOptions_next hresult hpath' with ⟨addr, hresolved, rfl⟩ | ⟨hnot, ret, rfl⟩
    · rw [hostResolved_parserMark_iff] at hresolved
      rw [implementsGrammar_resolved_iff haccepts hresolved]
      constructor
      · rintro ⟨hharmless, hvers⟩
        refine ⟨hsound, fun options' haccepts' ↦ ?_⟩
        cases haccepts.unique haccepts'
        exact ⟨hharmless, ⟨addr, hresolved⟩, hvers⟩
      · rintro ⟨-, hkept⟩
        obtain ⟨hharmless, -, hvers⟩ := hkept options haccepts
        exact ⟨hharmless, hvers⟩
    · simp only [hostResolved_parserMark_iff] at hnot
      refine iff_of_false ?_ ?_
      · rintro ⟨ret', data', daemon', heq, haccepted, hresult, -⟩
        obtain ⟨options', addr, haccepts', hresolved, -⟩ :=
          hresult (haccepted.mpr ⟨options, haccepts⟩)
        cases haccepts.unique haccepts'
        exact hnot addr hresolved
      · rintro ⟨-, hkept⟩
        obtain ⟨-, ⟨addr, hresolved⟩, -⟩ := hkept options haccepts
        exact hnot addr hresolved
  | refused hsound hnot data' =>
    refine iff_of_true ?_ ⟨hsound, fun options haccepts ↦ absurd haccepts (hnot options)⟩
    refine ⟨1, data', daemon, hpath.2, iff_of_false one_ne_zero fun ⟨options, h⟩ ↦ hnot options h,
      fun h ↦ absurd h one_ne_zero, fun h ↦ absurd h one_ne_zero⟩
  | passed hunsound hnot data' =>
    refine iff_of_false ?_ fun h ↦ hunsound h.1
    rintro ⟨ret, data'', daemon', heq, haccepted, -⟩
    cases hpath.2.symm.trans heq
    obtain ⟨options, h⟩ := haccepted.mp rfl
    exact hnot options h
  | overrun hunsound =>
    refine iff_of_false ?_ fun h ↦ hunsound h.1
    rintro ⟨ret, data', daemon', heq, -⟩
    cases hpath.2.symm.trans heq

/-- A string of two options. -/
def plainString : CString := cstr "rsize=4096,tcp"

theorem plainString_items : optionItems plainString = [cstr "rsize=4096", cstr "tcp"] := by decide

theorem plainString_accepts : Accepts zeroedData hostdirSize (optionItems plainString)
    [.number .rsize (cstr "4096"), .transport .tcp] := by
  rw [plainString_items]
  exact ⟨.cons ⟨by decide, by decide⟩ (.cons ⟨by decide, by decide⟩ .nil), by decide⟩

/-- The parser does with it what the grammar says. -/
theorem parse_options_plainString : ∃ ending,
    ((hsiNfs3ParseOptions plainString zeroedData hostdirSize).run .initial).Path [] ending ∧
      ImplementsGrammar zeroedData hostdirSize (optionItems plainString) [] ending := by
  have hpath : ∃ ending,
      ((hsiNfs3ParseOptions plainString zeroedData hostdirSize).run .initial).Path [] ending :=
    ⟨_, rfl, rfl⟩
  obtain ⟨ending, hpath⟩ := hpath
  have hrsize : readOption (cstr "rsize=4096") = some (.number .rsize (cstr "4096")) := by decide
  have htcp : readOption (cstr "tcp") = some (.transport .tcp) := by decide
  have hkept : GrammarKept zeroedData hostdirSize (optionItems plainString) [] := by
    refine ⟨?_, fun options haccepts ↦ ?_⟩
    · rw [plainString_items, sound_cons_of_some hrsize, sound_cons_of_some htcp]
      exact ⟨by decide, fun _ ↦ ⟨by decide, fun _ ↦ trivial⟩⟩
    · cases plainString_accepts.unique haccepts
      exact ⟨fun h ↦ absurd h (by decide), ⟨0, rfl⟩, fun h ↦ absurd h (by decide)⟩
  exact ⟨ending, hpath, (parse_options_grammar_iff plainString zeroedData
    hostdirSize _ _ _ (by decide)
    (by rw [plainString_items]; decide) (by decide) hpath).mpr hkept⟩

/-- An unknown option with a value ends the parser with success. -/
theorem unknown_option_accepted :
    ((hsiNfs3ParseOptions (cstr "foo=1") zeroedData hostdirSize).run .initial).Path []
      (.done (0, zeroedData) .initial) ∧
    optionItems (cstr "foo=1") = [cstr "foo=1"] ∧ readOption (cstr "foo=1") = none ∧
    ¬ ImplementsGrammar zeroedData hostdirSize (optionItems (cstr "foo=1")) []
      (.done (0, zeroedData) .initial) := by
  have hitems : optionItems (cstr "foo=1") = [cstr "foo=1"] := by decide
  have hread : readOption (cstr "foo=1") = none := by decide
  refine ⟨⟨rfl, rfl⟩, hitems, hread, ?_⟩
  rintro ⟨ret, data', daemon', heq, haccepted, -⟩
  cases heq
  obtain ⟨options, haccepts⟩ := haccepted.mp rfl
  rw [hitems] at haccepts
  exact not_accepts_cons (Or.inl hread) options haccepts

end NfsFuse
