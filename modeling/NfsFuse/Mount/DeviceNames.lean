import NfsFuse.Mount.Options

/-!
# Device names

`nfs_parse_devname` takes the first argument of the command apart into the name of the server and
the path of the export.  `DenotesExport` says what the accepted texts are: `host:path`, with the
address in square brackets if it contains colons, and a list of hosts in front of the colon, of
which the first one counts.

For a list of hosts the path is always empty.  The `else` behind the warning about several hosts has
no braces and takes in the `colon++` that follows, so that with a comma the path is read from the
terminator that has replaced the colon.
-/

namespace NfsFuse

open Lib

/-- A text names a host and a path. -/
inductive DenotesExport : CString → CString → CString → Prop where
  | bracket {host path : CString} (hhost : 93 ∉ host) (hlength : host.length ≤ 255)
      (hpath : path.length ≤ 1024) : DenotesExport (91 :: (host ++ 93 :: 58 :: path)) host path
  | simple {host path : CString} (hbracket : host.head? ≠ some 91) (hcolon : 58 ∉ host)
      (hcomma : 44 ∉ host) (hurl : (host ++ 58 :: path).take 6 ≠ cstr "nfs://")
      (hlength : host.length ≤ 255) (hpath : path.length ≤ 1024) :
      DenotesExport (host ++ 58 :: path) host path
  | list {host others path : CString} (hbracket : host.head? ≠ some 91) (hcolon : 58 ∉ host)
      (hothers : 58 ∉ others) (hcomma : 44 ∉ host) (hlength : host.length + others.length < 255) :
      DenotesExport (host ++ 44 :: (others ++ 58 :: path)) host []

/-- A text in front of the first separator. -/
theorem takeWhile_append_separator {separator : UInt8} {front : CString} (back : CString)
    (hfront : separator ∉ front) :
    (front ++ separator :: back).takeWhile (· != separator) = front := by
  have hpass : ∀ item ∈ front, (item != separator) = true := fun item hitem ↦
    bne_iff_ne.mpr fun heq ↦ hfront (heq ▸ hitem)
  rw [List.takeWhile_append_of_pos hpass, List.takeWhile_cons_of_neg (by simp), List.append_nil]

theorem dropWhile_append_separator {separator : UInt8} {front : CString} (back : CString)
    (hfront : separator ∉ front) :
    (front ++ separator :: back).dropWhile (· != separator) = separator :: back := by
  have hpass : ∀ item ∈ front, (item != separator) = true := fun item hitem ↦
    bne_iff_ne.mpr fun heq ↦ hfront (heq ▸ hitem)
  rw [List.dropWhile_append_of_pos hpass, List.dropWhile_cons_of_neg (by simp)]

/-- A text with the separator is its two parts. -/
theorem eq_append_separator {separator first : UInt8} {text back : CString}
    (hback : text.dropWhile (· != separator) = first :: back) :
    first = separator ∧ text = text.takeWhile (· != separator) ++ separator :: back := by
  have hfirst : first = separator := by
    have hstop := List.head?_dropWhile_not (· != separator) text
    rw [hback] at hstop
    simpa using hstop
  subst hfirst
  refine ⟨rfl, ?_⟩
  rw [← hback, List.takeWhile_append_dropWhile]

theorem notMem_takeWhile (separator : UInt8) (text : CString) :
    separator ∉ text.takeWhile (· != separator) := by
  intro hmem
  have hall : (text.takeWhile (· != separator)).all (· != separator) = true := List.all_takeWhile
  exact bne_iff_ne.mp (List.all_eq_true.mp hall separator hmem) rfl

/-! ## The parser -/

/-- A run returns these parts. -/
def SplitsInto (program : Prog (Option (CString × CString))) (daemon : Daemon)
    (host path : CString) : Prop :=
  ∃ trace daemon', (program.run daemon).Path trace (.done (some (host, path)) daemon')

variable {daemon : Daemon} {dev host path front back : CString}

theorem not_splitsInto_none : ¬SplitsInto (return none) daemon host path := by
  rintro ⟨_, _, _, hending⟩
  cases hending

/-- What is done once memory has been allocated. -/
theorem splitsInto_malloc {site : MallocSite} {next : Prog (Option (CString × CString))} :
    SplitsInto (do if ← Prog.malloc site then next else return none) daemon host path ↔
      SplitsInto next daemon host path := by
  constructor
  · rintro ⟨trace, daemon', granted, rest, -, hrest⟩
    cases granted with
    | false => exact absurd ⟨rest, daemon', hrest⟩ not_splitsInto_none
    | true => exact ⟨rest, daemon', hrest⟩
  · rintro ⟨rest, daemon', hrest⟩
    exact ⟨_, daemon', true, rest, rfl, hrest⟩

theorem splitsInto_copyDevname : SplitsInto (copyDevname front back) daemon host path ↔
    front.length ≤ 255 ∧ back.length ≤ 1024 ∧ host = front ∧ path = back := by
  unfold copyDevname
  by_cases hhost : front.length > 255
  · rw [if_pos hhost]
    exact iff_of_false not_splitsInto_none fun h ↦ absurd h.1 (Nat.not_le.mpr hhost)
  rw [if_neg hhost]
  by_cases hpath : back.length > 1024
  · rw [if_pos hpath]
    exact iff_of_false not_splitsInto_none fun h ↦ absurd h.2.1 (Nat.not_le.mpr hpath)
  rw [if_neg hpath, splitsInto_malloc, splitsInto_malloc]
  constructor
  · rintro ⟨_, _, _, hending⟩
    cases hending
    exact ⟨Nat.not_lt.mp hhost, Nat.not_lt.mp hpath, rfl, rfl⟩
  · rintro ⟨-, -, rfl, rfl⟩
    exact ⟨[], daemon, rfl, rfl⟩

theorem splitsInto_nfsParseSquareBracket :
    SplitsInto (nfsParseSquareBracket dev) daemon host path ↔
      dev = host ++ 93 :: 58 :: path ∧ 93 ∉ host ∧ host.length ≤ 255 ∧ path.length ≤ 1024 := by
  constructor
  · intro hsplits
    unfold nfsParseSquareBracket at hsplits
    split at hsplits
    · rename_i first back hback
      obtain ⟨hlength, hpath, rfl, rfl⟩ := splitsInto_copyDevname.mp hsplits
      exact ⟨(eq_append_separator hback).2, notMem_takeWhile 93 dev, hlength, hpath⟩
    · exact absurd hsplits not_splitsInto_none
  · rintro ⟨rfl, hhost, hlength, hpath⟩
    rw [nfsParseSquareBracket, dropWhile_append_separator _ hhost,
      takeWhile_append_separator _ hhost]
    exact splitsInto_copyDevname.mpr ⟨hlength, hpath, rfl, rfl⟩

/-- What the parser does with the text in front of the first colon. -/
theorem nfsParseSimpleHostname_append (hfront : 58 ∉ front) (back : CString) :
    nfsParseSimpleHostname (front ++ 58 :: back) =
      if front.length > 255 then return none
      else if 44 ∈ front then copyDevname (front.takeWhile (· != 44)) []
      else copyDevname front back := by
  rw [nfsParseSimpleHostname, takeWhile_append_separator _ hfront,
    dropWhile_append_separator _ hfront]

/-- Without brackets: one host, or the first one of several and no path. -/
theorem splitsInto_nfsParseSimpleHostname :
    SplitsInto (nfsParseSimpleHostname dev) daemon host path ↔
      (dev = host ++ 58 :: path ∧ 58 ∉ host ∧ 44 ∉ host ∧ host.length ≤ 255 ∧
        path.length ≤ 1024) ∨
      ∃ others rest, dev = host ++ 44 :: (others ++ 58 :: rest) ∧ 58 ∉ host ∧ 58 ∉ others ∧
        44 ∉ host ∧ host.length + others.length < 255 ∧ path = [] := by
  constructor
  · intro hsplits
    cases hback : dev.dropWhile (· != 58) with
    | nil =>
      rw [nfsParseSimpleHostname, hback] at hsplits
      exact absurd hsplits not_splitsInto_none
    | cons first back =>
      obtain ⟨-, hdev⟩ := eq_append_separator hback
      have hcolon := notMem_takeWhile 58 dev
      generalize dev.takeWhile (· != 58) = front at hdev hcolon
      subst hdev
      rw [nfsParseSimpleHostname_append hcolon] at hsplits
      split_ifs at hsplits with hlength hcomma
      · exact absurd hsplits not_splitsInto_none
      · -- the first of several hosts
        obtain ⟨-, -, rfl, rfl⟩ := splitsInto_copyDevname.mp hsplits
        obtain ⟨others, hfront⟩ : ∃ others,
            front = front.takeWhile (· != 44) ++ 44 :: others := by
          obtain ⟨before, after, rfl, hbefore⟩ := List.eq_append_cons_of_mem hcomma
          exact ⟨after, by rw [takeWhile_append_separator _ hbefore]⟩
        have hhost := notMem_takeWhile 44 front
        generalize front.takeWhile (· != 44) = host at hfront hhost
        subst hfront
        rw [List.mem_append, List.mem_cons, not_or, not_or] at hcolon
        rw [List.length_append, List.length_cons] at hlength
        refine .inr ⟨others, back, ?_, hcolon.1, hcolon.2.2, hhost, by omega, rfl⟩
        rw [List.append_assoc, List.cons_append]
      · obtain ⟨hhost, hpath, rfl, rfl⟩ := splitsInto_copyDevname.mp hsplits
        exact .inl ⟨rfl, hcolon, hcomma, hhost, hpath⟩
  · rintro (⟨rfl, hcolon, hcomma, hlength, hpath⟩ |
      ⟨others, rest, rfl, hcolon, hothers, hcomma, hlength, rfl⟩)
    · rw [nfsParseSimpleHostname_append hcolon, if_neg (Nat.not_lt.mpr hlength), if_neg hcomma]
      exact splitsInto_copyDevname.mpr ⟨hlength, hpath, rfl, rfl⟩
    · have hfront : 58 ∉ host ++ 44 :: others := by
        rw [List.mem_append, List.mem_cons, not_or, not_or]
        exact ⟨hcolon, by decide, hothers⟩
      have htext : host ++ 44 :: (others ++ 58 :: rest) = (host ++ 44 :: others) ++ 58 :: rest := by
        rw [List.append_assoc, List.cons_append]
      have hlist : ¬(host ++ 44 :: others).length > 255 := by
        rw [List.length_append, List.length_cons]
        omega
      rw [htext, nfsParseSimpleHostname_append hfront, if_neg hlist, if_pos (by simp),
        takeWhile_append_separator _ hcomma]
      exact splitsInto_copyDevname.mpr ⟨by omega, Nat.zero_le _, rfl, rfl⟩

/-- A list of hosts does not look like a URL, whose scheme has no comma. -/
theorem take_list_ne_url {others rest : CString} (hcolon : 58 ∉ host) :
    (host ++ 44 :: (others ++ 58 :: rest)).take 6 ≠ cstr "nfs://" := by
  intro hurl
  have hscheme : cstr "nfs://" = [110, 102, 115, 58, 47, 47] := by decide
  rw [hscheme] at hurl
  match host with
  | [] => simp at hurl
  | [_] => simp at hurl
  | [_, _] => simp at hurl
  | [_, _, _] => simp at hurl
  | _ :: _ :: _ :: fourth :: _ =>
    have hfourth : fourth = 58 := by
      simp only [List.cons_append, List.take_succ_cons, List.cons.injEq] at hurl
      exact hurl.2.2.2.1
    exact hcolon (by simp [hfourth])

/-- A text without a bracket begins with a host without one. -/
theorem head?_append_cons_eq_iff {separator : UInt8} (hseparator : separator ≠ 91) :
    (front ++ separator :: back).head? = some 91 ↔ front.head? = some 91 := by
  cases front with
  | nil => simp [hseparator]
  | cons first rest => rfl

theorem splitsInto_nfsParseDevname_bracket :
    SplitsInto (nfsParseDevname (91 :: dev)) daemon host path ↔
      SplitsInto (nfsParseSquareBracket dev) daemon host path :=
  splitsInto_malloc

theorem splitsInto_nfsParseDevname_plain (hdev : dev.head? ≠ some 91) :
    SplitsInto (nfsParseDevname dev) daemon host path ↔
      dev.take 6 ≠ cstr "nfs://" ∧ SplitsInto (nfsParseSimpleHostname dev) daemon host path := by
  have hcopied : nfsParseDevname dev = (do
      if ← Prog.malloc .devname then
        if dev.take 6 = cstr "nfs://" then return none else nfsParseSimpleHostname dev
      else
        return none) := by
    unfold nfsParseDevname
    split
    · exact absurd rfl hdev
    · rfl
  rw [hcopied, splitsInto_malloc]
  by_cases hurl : dev.take 6 = cstr "nfs://"
  · rw [if_pos hurl]
    exact iff_of_false not_splitsInto_none fun h ↦ h.1 hurl
  · rw [if_neg hurl]
    exact (and_iff_right hurl).symm

/-- `nfs_parse_devname` can return a host and a path exactly if the text names them. -/
theorem parse_devname_iff (daemon : Daemon) (devname host path : CString) :
    (∃ trace daemon', ((nfsParseDevname devname).run daemon).Path trace
      (.done (some (host, path)) daemon')) ↔ DenotesExport devname host path := by
  change SplitsInto (nfsParseDevname devname) daemon host path ↔ _
  constructor
  · intro hsplits
    by_cases hdev : devname.head? = some 91
    · obtain ⟨dev, rfl⟩ : ∃ dev, devname = 91 :: dev := by
        obtain ⟨dev, hdev⟩ := List.head?_eq_some_iff.mp hdev
        exact ⟨dev, hdev⟩
      obtain ⟨rfl, hhost, hlength, hpath⟩ :=
        splitsInto_nfsParseSquareBracket.mp (splitsInto_nfsParseDevname_bracket.mp hsplits)
      exact .bracket hhost hlength hpath
    · obtain ⟨hurl, hsimple⟩ := (splitsInto_nfsParseDevname_plain hdev).mp hsplits
      rcases splitsInto_nfsParseSimpleHostname.mp hsimple with
        ⟨rfl, hcolon, hcomma, hlength, hpath⟩ |
        ⟨others, rest, rfl, hcolon, hothers, hcomma, hlength, rfl⟩
      · rw [head?_append_cons_eq_iff (by decide)] at hdev
        exact .simple hdev hcolon hcomma hurl hlength hpath
      · rw [head?_append_cons_eq_iff (by decide)] at hdev
        exact .list hdev hcolon hothers hcomma hlength
  · rintro (⟨hhost, hlength, hpath⟩ | ⟨hbracket, hcolon, hcomma, hurl, hlength, hpath⟩ |
      ⟨hbracket, hcolon, hothers, hcomma, hlength⟩)
    · apply splitsInto_nfsParseDevname_bracket.mpr
      exact splitsInto_nfsParseSquareBracket.mpr ⟨rfl, hhost, hlength, hpath⟩
    · have hdev : (host ++ 58 :: path).head? ≠ some 91 := by
        rwa [ne_eq, head?_append_cons_eq_iff (by decide)]
      apply (splitsInto_nfsParseDevname_plain hdev).mpr
      exact ⟨hurl, splitsInto_nfsParseSimpleHostname.mpr
        (.inl ⟨rfl, hcolon, hcomma, hlength, hpath⟩)⟩
    · rename_i others rest
      have hdev : (host ++ 44 :: (others ++ 58 :: rest)).head? ≠ some 91 := by
        rwa [ne_eq, head?_append_cons_eq_iff (by decide)]
      apply (splitsInto_nfsParseDevname_plain hdev).mpr
      exact ⟨take_list_ne_url hcolon, splitsInto_nfsParseSimpleHostname.mpr
        (.inr ⟨others, rest, rfl, hcolon, hothers, hcomma, hlength, rfl⟩)⟩

end NfsFuse
