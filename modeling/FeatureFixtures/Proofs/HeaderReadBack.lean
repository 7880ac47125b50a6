import FeatureFixtures.Header
import FeatureFixtures.Proofs.LineEndings
import FeatureFixtures.Proofs.VersionText
/-!
# Reading headers back

A search for a label finds it exactly in the lines that hold it. The comment at the beginning of a
generated file holds each label on one line only, right before what the label stands for, and within
the lines that are searched; so the version and the digest of a fingerprint are read back whatever
follows the comment, and whatever way its lines end.
-/

namespace FeatureFixtures

namespace Header

/-! ### Searching a line for a label -/

theorem afterLabel?_isSome_iff {label t : Text} : (afterLabel? label t).isSome ↔ label <:+: t := by
  have hprefix (s : Text) : (Text.after? label s).isSome ↔ label <+: s := by
    simp only [Option.isSome_iff_exists, Text.after?_eq_some_iff]
    exact exists_congr fun rest => eq_comm
  induction t with
  | nil => rw [afterLabel?, hprefix, List.prefix_nil, List.infix_nil]
  | cons c rest ih =>
    rw [List.infix_cons_iff, ← hprefix, afterLabel?]
    cases Text.after? label (c :: rest) with
    | none => simpa using ih
    | some found => simp

theorem afterLabel?_eq_none_iff {label t : Text} : afterLabel? label t = none ↔ ¬ label <:+: t := by
  rw [← afterLabel?_isSome_iff, Option.not_isSome_iff_eq_none]

/-- A label is found behind a text without its first character. -/
theorem afterLabel?_append {first : Char} {label before : Text} (hfirst : label.head? = some first)
    (h : first ∉ before) (t : Text) : afterLabel? label (before ++ (label ++ t)) = some t := by
  obtain ⟨rest, rfl⟩ := List.head?_eq_some_iff.1 hfirst
  induction before with
  | nil =>
    have hfound : Text.after? (first :: rest) (first :: rest ++ t) = some t :=
      Text.after?_eq_some_iff.2 rfl
    rw [List.nil_append, List.cons_append, afterLabel?, ← List.cons_append, hfound]
  | cons c before ih =>
    rw [List.mem_cons, not_or] at h
    simp only [List.cons_append, afterLabel?, Text.after?, h.1, if_false]
    exact ih h.2

/-- A text without the last character of a label adds no occurrence of the label. -/
theorem infix_of_infix_append {last : Char} {label before t : Text}
    (hlast : label.getLast? = some last) (ht : last ∉ t) (h : label <:+: before ++ t) :
    label <:+: before := by
  obtain ⟨start, rfl⟩ := List.getLast?_eq_some_iff.1 hlast
  obtain ⟨left, right, heq⟩ := h
  rcases List.append_eq_append_iff.1 heq with ⟨rest, hbefore, -⟩ | ⟨rest, hlabel, hrest⟩
  · exact ⟨left, rest, hbefore.symm⟩
  · rcases List.eq_nil_or_concat rest with rfl | ⟨others, c, rfl⟩
    · exact ⟨left, [], by simpa using hlabel⟩
    · rw [List.concat_eq_append, ← List.append_assoc, ← List.append_assoc] at hlabel
      obtain ⟨-, hc⟩ := List.append_inj' hlabel rfl
      have hmem : last ∈ t := by
        rw [hrest]
        simp_all
      exact absurd hmem ht

/-! ### The lines of the comment -/

variable {fingerprint : Fingerprint}

theorem forall_mem_digestText {p : Char → Prop} (hdigit : ∀ d < 16, p (Nat.digitChar d)) :
    ∀ c ∈ fingerprint.digestText, p c :=
  Text.forall_mem_hexPadded hdigit 16 fingerprint.digest.toNat

/-- A space or a visible character. -/
def isPrinted (c : Char) : Bool :=
  c == ' ' || decide (IsVisible c)

theorem all_isPrinted {t : Text} (h : ∀ c ∈ t, IsVisible c) : t.all isPrinted = true := by
  rw [List.all_eq_true]
  intro c hc
  simp [isPrinted, h c hc]

/-- The comment is made of spaces and visible characters, and of line feeds only at the ends of its
lines. -/
theorem all_isPrinted_commentLines (h : fingerprint.version.IsWellFormed) :
    ∀ line ∈ commentLines fingerprint, line.all isPrinted = true := by
  have hversion := all_isPrinted (Version.isVisible_of_mem_toText h)
  have hdigest : fingerprint.digestText.all isPrinted = true :=
    all_isPrinted (forall_mem_digestText (by decide))
  simp only [commentLines, List.forall_mem_cons, List.all_append, Bool.and_eq_true]
  refine ⟨?_, ?_, ?_, ⟨?_, ?_⟩, ⟨⟨?_, ?_⟩, hversion⟩, ⟨⟨?_, ?_⟩, hdigest⟩, ?_⟩
  all_goals decide

theorem lines_comment_append (h : fingerprint.version.IsWellFormed) (language : Language)
    (rest : Text) :
    Text.lines (comment language fingerprint ++ rest) =
      (commentLines fingerprint).map (commentSign language ++ ·) ++ Text.lines rest := by
  have hsign : (commentSign language).all isPrinted = true := by
    cases language <;> decide
  have hprinted : ∀ line ∈ commentLines fingerprint, ∀ c ∈ commentSign language ++ line,
      isPrinted c = true := by
    intro line hline
    rw [← List.all_eq_true, List.all_append, hsign, all_isPrinted_commentLines h line hline]
    rfl
  unfold comment
  generalize commentLines fingerprint = lines at hprinted
  induction lines with
  | nil => rfl
  | cons line lines ih =>
    have hline := hprinted line List.mem_cons_self
    have hnewline : '\n' ∉ commentSign language ++ line := fun hmem =>
      absurd (hline '\n' hmem) (by decide)
    have hreturn : '\r' ∉ commentSign language ++ line := fun hmem =>
      absurd (hline '\r' hmem) (by decide)
    have hrest := ih fun other hother => hprinted other (List.mem_cons_of_mem line hother)
    have hsplit : (line :: lines).flatMap (fun line => commentSign language ++ line ++ ['\n']) ++
        rest = (commentSign language ++ line) ++ '\n' ::
          (lines.flatMap (fun line => commentSign language ++ line ++ ['\n']) ++ rest) := by
      simp
    rw [hsplit, Text.lines_append_newline hnewline, Text.dropReturn_of_not_mem hreturn, hrest]
    rfl

/-! ### Finding the version and the digest -/

/-- What a label stands for is found on the first line that holds it. -/
theorem find_of_line {label generated line found : Text} {before after : List Text}
    (hlines : Text.lines generated = before ++ line :: after)
    (hshort : before.length < searchedLines)
    (hbefore : ∀ other ∈ before, afterLabel? label other = none)
    (hline : afterLabel? label line = some found) :
    find label generated = .ok (Text.trim found) := by
  have htake : (Text.lines generated).take searchedLines =
      before ++ line :: after.take (searchedLines - before.length - 1) := by
    rw [hlines, List.take_append, List.take_of_length_le (Nat.le_of_lt hshort)]
    congr 1
    exact List.take_cons (by omega)
  unfold find
  rw [htake, List.findSome?_append, List.findSome?_eq_none_iff.2 hbefore, Option.none_or,
    List.findSome?_cons, hline]

/-- The lines of the comment before the ones that are read back, which are always the same. -/
def titleLines : List Text :=
  (commentLines ⟨.current, 0⟩).take 4

/-- The beginning of a line of the comment that is read back. -/
def margin (language : Language) : Text :=
  commentSign language ++ "      "

theorem commentLines_map (language : Language) :
    (commentLines fingerprint).map (commentSign language ++ ·) =
      titleLines.map (commentSign language ++ ·) ++
        (margin language ++ (versionLabel ++ fingerprint.version.toText)) ::
        (margin language ++ (fingerprintLabel ++ fingerprint.digestText)) ::
        ((commentLines ⟨.current, 0⟩).drop 6).map (commentSign language ++ ·) := by
  simp [commentLines, titleLines, margin]

theorem afterLabel?_margin (language : Language) {label : Text} (hfirst : label.head? = some 'S')
    (t : Text) : afterLabel? label (margin language ++ (label ++ t)) = some t :=
  afterLabel?_append hfirst (by cases language <;> decide) t

variable (language : Language) (rest : Text)

theorem find_versionLabel (h : fingerprint.version.IsWellFormed) :
    find versionLabel (comment language fingerprint ++ rest) = .ok fingerprint.version.toText := by
  have hlines := lines_comment_append h language rest
  rw [commentLines_map, List.append_assoc] at hlines
  have htitle : ∀ other ∈ titleLines.map (commentSign language ++ ·),
      afterLabel? versionLabel other = none := by
    cases language <;> decide
  have hshort : (titleLines.map (commentSign language ++ ·)).length < searchedLines := by
    rw [List.length_map]
    decide
  rw [find_of_line hlines hshort htitle (afterLabel?_margin language rfl _)]
  exact congrArg _ (Text.trim_eq_self (Version.isVisible_of_mem_toText h))

theorem find_fingerprintLabel (h : fingerprint.version.IsWellFormed) :
    find fingerprintLabel (comment language fingerprint ++ rest) = .ok fingerprint.digestText := by
  have hlines := lines_comment_append h language rest
  rw [commentLines_map, List.append_assoc, List.cons_append, List.cons_append,
    List.append_cons] at hlines
  have htitle : ∀ other ∈ titleLines.map (commentSign language ++ ·),
      afterLabel? fingerprintLabel other = none := by
    cases language <;> decide
  -- The version has no colon, so the label would have to end before it.
  have hversion : afterLabel? fingerprintLabel
      (margin language ++ (versionLabel ++ fingerprint.version.toText)) = none := by
    have hcolon : ':' ∉ fingerprint.version.toText := fun hmem =>
      absurd (Version.isIdentifierListChar_of_mem_toText h ':' hmem) (by decide)
    have hfixed : afterLabel? fingerprintLabel (margin language ++ versionLabel) = none := by
      cases language <;> decide
    rw [afterLabel?_eq_none_iff, ← List.append_assoc]
    intro hlabel
    exact afterLabel?_eq_none_iff.1 hfixed (infix_of_infix_append rfl hcolon hlabel)
  have hbefore : ∀ other ∈ titleLines.map (commentSign language ++ ·) ++
      [margin language ++ (versionLabel ++ fingerprint.version.toText)],
      afterLabel? fingerprintLabel other = none := by
    rw [List.forall_mem_append, List.forall_mem_singleton]
    exact ⟨htitle, hversion⟩
  have hshort : (titleLines.map (commentSign language ++ ·) ++
      [margin language ++ (versionLabel ++ fingerprint.version.toText)]).length <
        searchedLines := by
    rw [List.length_append, List.length_map, List.length_singleton]
    decide
  rw [find_of_line hlines hshort hbefore (afterLabel?_margin language rfl _)]
  exact congrArg _ (Text.trim_eq_self (forall_mem_digestText (by decide)))

theorem readFingerprint_comment_append (h : fingerprint.version.IsWellFormed) :
    readFingerprint (comment language fingerprint ++ rest) = .ok fingerprint := by
  have hdigest : Fingerprint.readDigest fingerprint.digestText = .ok fingerprint.digest :=
    Fingerprint.readDigest_hexPadded 16 fingerprint.digest
  unfold readFingerprint readVersion
  rw [find_versionLabel language rest h, find_fingerprintLabel language rest h]
  simp [bind, Except.bind, Except.mapError, Version.parse_toText h, hdigest]
  rfl

/-- **Headers are read back.** Whatever follows a header, the fingerprint it was written for is
found again. -/
theorem readFingerprint_write_append {info : Info} (h : info.fingerprint.version.IsWellFormed) :
    readFingerprint (write info ++ rest) = .ok info.fingerprint := by
  unfold write
  rw [List.append_assoc]
  exact readFingerprint_comment_append info.language _ h

/-- The version is a part of the fingerprint. -/
theorem readVersion_of_readFingerprint {generated : Text}
    (h : readFingerprint generated = .ok fingerprint) :
    readVersion generated = .ok fingerprint.version := by
  unfold readFingerprint at h
  obtain ⟨version, hversion, h⟩ := bind_eq_ok_iff.1 h
  obtain ⟨found, -, h⟩ := bind_eq_ok_iff.1 h
  obtain ⟨digest, -, h⟩ := bind_eq_ok_iff.1 h
  cases h
  exact hversion

/-! ### Other line endings -/

/-- A header is read by its lines. -/
theorem readFingerprint_eq_of_lines_eq {s t : Text} (h : Text.lines s = Text.lines t) :
    readFingerprint s = readFingerprint t := by
  unfold readFingerprint readVersion find
  rw [h]

/-- The comment is made of whole lines, none of which has a carriage return. -/
theorem exists_comment_eq_append_newline (h : fingerprint.version.IsWellFormed) :
    ∃ before, comment language fingerprint = before ++ ['\n'] ∧ '\r' ∉ before := by
  have hlines : commentLines fingerprint ≠ [] := List.cons_ne_nil _ _
  obtain ⟨before, hcomment⟩ : ∃ before, comment language fingerprint = before ++ ['\n'] := by
    unfold comment
    rw [← List.dropLast_append_getLast hlines, List.flatMap_append, List.flatMap_singleton,
      ← List.append_assoc]
    exact ⟨_, rfl⟩
  refine ⟨before, hcomment, fun hreturn => ?_⟩
  have hmem : '\r' ∈ comment language fingerprint := hcomment ▸ List.mem_append_left _ hreturn
  obtain ⟨line, hline, hmem⟩ := List.mem_flatMap.1 hmem
  have hprinted := List.all_eq_true.1 (all_isPrinted_commentLines h line hline) '\r'
  have hsign : '\r' ∉ commentSign language := by cases language <;> decide
  simp only [List.mem_append, List.mem_singleton, hsign, false_or, Char.reduceEq, or_false] at hmem
  exact absurd (hprinted hmem) (by decide)

theorem readFingerprint_withReturns_write_append {info : Info}
    (h : info.fingerprint.version.IsWellFormed) :
    readFingerprint (Text.withReturns (write info ++ rest)) = .ok info.fingerprint := by
  obtain ⟨before, hcomment, hreturn⟩ := exists_comment_eq_append_newline info.language h
  set others := Text.withReturns (openings info.language info.namespaceName ++ rest) with hothers
  have hsplit : Text.withReturns (write info ++ rest) =
      Text.withReturns (before ++ ['\n']) ++ others := by
    rw [hothers, ← hcomment, ← Text.withReturns_append, write, List.append_assoc]
  have hlines : Text.lines (Text.withReturns (write info ++ rest)) =
      Text.lines (comment info.language info.fingerprint ++ others) := by
    rw [hsplit, Text.lines_withReturns_append hreturn, hcomment, List.append_assoc,
      List.singleton_append]
  rw [readFingerprint_eq_of_lines_eq hlines]
  exact readFingerprint_comment_append info.language others h

/-- **A header is read back with any line endings.** Whatever the namespace holds and whatever
follows a header, the fingerprint and the version it was written for are found again; and so they
are when a carriage return is put before every line feed. -/
theorem read_write_append {info : Info} (h : info.fingerprint.version.IsWellFormed) :
    readFingerprint (write info ++ rest) = .ok info.fingerprint ∧
    readVersion (write info ++ rest) = .ok info.fingerprint.version ∧
    readFingerprint (Text.withReturns (write info ++ rest)) = .ok info.fingerprint ∧
    readVersion (Text.withReturns (write info ++ rest)) = .ok info.fingerprint.version := by
  have hread := readFingerprint_write_append rest h
  have hreturns := readFingerprint_withReturns_write_append rest h
  exact ⟨hread, readVersion_of_readFingerprint hread, hreturns,
    readVersion_of_readFingerprint hreturns⟩

/-- A namespace and a code that hold labels of their own do not come between. -/
theorem read_write_append_labels :
    let version : Version := ⟨2, 0, 0, ["rc".toList, "1".toList], ["build-5".toList]⟩
    let info : Info :=
      { fingerprint := { version, digest := 0x00abcdef01234567 }
        namespaceName := "Shop\nSpekgen Fingerprint:0"
        language := .visualBasic }
    let rest : Text := "\r\nSpekgen Generator Version:9.9.9\r\n"
    version.IsWellFormed ∧ readFingerprint (write info ++ rest) = .ok info.fingerprint ∧
      readVersion (Text.withReturns (write info ++ rest)) = .ok version := by
  intro version info rest
  have hparse : Version.parse "2.0.0-rc.1+build-5" = .ok version := by decide
  have hversion : info.fingerprint.version.IsWellFormed := Version.isWellFormed_of_parse hparse
  obtain ⟨hread, -, -, hreturns⟩ := read_write_append rest hversion
  exact ⟨hversion, hread, hreturns⟩

end Header

end FeatureFixtures
