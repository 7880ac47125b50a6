import FeatureFixtures.Proofs.FaultLines
import FeatureFixtures.Proofs.PrintedLines
import FeatureFixtures.Proofs.Renumbering
/-!
# Blank lines and comments

A blank line or a comment can be put anywhere into a file except into a text of several lines that
is closed further below. The lines below it get the next number, and that is all that changes: the
feature is the same but for the numbers, and so is the fault.

A file may end without a line feed. A line that is put below its last line makes that one a line
like the others, and this changes nothing either, although a carriage return at its end belongs to
the ending from then on.
-/

namespace FeatureFixtures

namespace Text

/-- A text whose last line ends in a line feed like all others. -/
def closeLine (t : Text) : Text :=
  if t = [] ∨ endsWith t '\n' then t else t ++ ['\n']

/-- A text with one more line below its first lines. -/
def insertLine (line : Text) (k : Nat) (t : Text) : Text :=
  closeLine (takeLines k t) ++ line ++ '\n' :: t.drop (takeLines k t).length

theorem endsWith_iff {t : Text} {c : Char} : endsWith t c = true ↔ ∃ before, t = before ++ [c] := by
  rw [endsWith, beq_iff_eq, List.getLast?_eq_some_iff]

/-! ### Lines above and below -/

theorem lines_append_newline_append (s t : Text) :
    lines (s ++ '\n' :: t) = lines (s ++ ['\n']) ++ lines t := by
  induction s using line_induction with
  | last s hlast =>
    rw [lines_append_newline hlast, lines_append_newline hlast]
    rfl
  | line first rest hfirst ih =>
    rw [List.append_assoc, List.cons_append, lines_append_newline hfirst, ih, List.append_assoc,
      List.cons_append, lines_append_newline hfirst, List.cons_append]

theorem lines_closeLine_append (s t : Text) :
    lines (closeLine s ++ t) = lines (closeLine s) ++ lines t := by
  unfold closeLine
  split
  · next h =>
    rcases h with rfl | hend
    · rfl
    · obtain ⟨before, rfl⟩ := endsWith_iff.1 hend
      rw [List.append_assoc]
      exact lines_append_newline_append before t
  · rw [List.append_assoc]
    exact lines_append_newline_append s t

theorem lines_drop_takeLines (k : Nat) (t : Text) :
    lines (t.drop (takeLines k t).length) = (lines t).drop k := by
  induction t using line_induction generalizing k with
  | last t hlast =>
    cases k with
    | zero => simp
    | succ k =>
      have hshort := length_lines_le_of_not_mem hlast
      rw [takeLines_of_not_mem hlast, List.drop_length, List.drop_of_length_le (by omega)]
      rfl
  | line first rest hfirst ih =>
    cases k with
    | zero => simp
    | succ k =>
      rw [takeLines_append_newline hfirst, lines_append_newline hfirst, List.drop_succ_cons, ← ih]
      congr 1
      simp [List.drop_append]

/-- The first lines of a text end in a line feed, or they are the whole text. -/
theorem takeLines_cases (k : Nat) (t : Text) :
    (takeLines k t = [] ∨ endsWith (takeLines k t) '\n' = true) ∨ takeLines k t = t := by
  induction t using line_induction generalizing k with
  | last t hlast =>
    cases k with
    | zero => simp
    | succ k => exact .inr (takeLines_of_not_mem hlast k)
  | line first rest hfirst ih =>
    cases k with
    | zero => simp
    | succ k =>
      rw [takeLines_append_newline hfirst]
      rcases ih k with (hnil | hend) | hall
      · left; right
        rw [hnil]
        exact endsWith_iff.2 ⟨first, rfl⟩
      · obtain ⟨before, hbefore⟩ := endsWith_iff.1 hend
        left; right
        rw [hbefore]
        exact endsWith_iff.2 ⟨first ++ '\n' :: before, by simp⟩
      · exact .inr (by rw [hall])

theorem lines_insertLine {line : Text} (hline : '\n' ∉ line) (k : Nat) (t : Text) :
    lines (insertLine line k t) =
      lines (closeLine (takeLines k t)) ++ dropReturn line :: (lines t).drop k := by
  rw [insertLine, List.append_assoc, lines_closeLine_append, lines_append_newline hline,
    lines_drop_takeLines]

/-! ### A carriage return at the end -/

theorem dropReturn_cases (t : Text) : dropReturn t = t ∨ t = dropReturn t ++ ['\r'] := by
  by_cases h : endsWith t '\r' = true
  · obtain ⟨before, rfl⟩ := endsWith_iff.1 h
    exact .inr (by rw [dropReturn_append_return])
  · exact .inl (dropReturn_of_endsWith (Bool.eq_false_iff.2 h))

/-- Ending the last line takes at most a carriage return from it. -/
theorem lines_closeLine (t : Text) :
    lines (closeLine t) = lines t ∨
      ∃ before last, lines t = before ++ [last] ∧
        lines (closeLine t) = before ++ [dropReturn last] := by
  unfold closeLine
  split
  · exact .inl rfl
  · next h =>
    right
    induction t using line_induction with
    | last t hlast =>
      refine ⟨[], t, ?_, lines_append_newline hlast []⟩
      rw [lines_of_not_mem hlast, if_neg]
      · rfl
      · rw [List.isEmpty_iff]
        exact fun hnil => h (.inl hnil)
    | line first rest hfirst ih =>
      have hrest : ¬(rest = [] ∨ endsWith rest '\n' = true) := by
        rintro (rfl | hend)
        · exact h (.inr (endsWith_iff.2 ⟨first, rfl⟩))
        · obtain ⟨before, rfl⟩ := endsWith_iff.1 hend
          exact h (.inr (endsWith_iff.2 ⟨first ++ '\n' :: before, by simp⟩))
      obtain ⟨before, last, hlines, hclosed⟩ := ih hrest
      refine ⟨dropReturn first :: before, last, ?_, ?_⟩
      · rw [lines_append_newline hfirst, hlines, List.cons_append]
      · rw [List.append_assoc, List.cons_append, lines_append_newline hfirst, hclosed,
          List.cons_append]

theorem length_lines_closeLine (t : Text) : (lines (closeLine t)).length = (lines t).length := by
  rcases lines_closeLine t with hsame | ⟨before, last, hlines, hclosed⟩
  · rw [hsame]
  · rw [hclosed, hlines, List.length_append, List.length_append]
    rfl

theorem trimStart_append_blank {c : Char} (h : isBlank c = true) (t : Text) :
    trimStart (t ++ [c]) = if trimStart t = [] then [] else trimStart t ++ [c] := by
  unfold trimStart
  rw [List.dropWhile_append]
  simp [h]

theorem trim_dropReturn (t : Text) : trim (dropReturn t) = trim t := by
  rcases dropReturn_cases t with hsame | hreturn
  · rw [hsame]
  · rw [hreturn, dropReturn_append_return, trim, trim, trimStart_append_blank (c := '\r') rfl]
    split
    · next hnil => rw [hnil]
    · rw [trimEnd_append_blank (c := '\r') rfl]

theorem startsWith_append_singleton {c : Char} {beginning : Text} (h : c ∉ beginning) (t : Text) :
    startsWith (t ++ [c]) beginning = startsWith t beginning := by
  rw [Bool.eq_iff_iff, startsWith_iff, startsWith_iff]
  constructor
  · rintro ⟨rest, hrest⟩
    rcases List.eq_nil_or_concat rest with rfl | ⟨middle, last, rfl⟩
    · refine absurd ?_ h
      rw [← List.append_nil beginning, ← hrest]
      simp
    · rw [List.concat_eq_append, ← List.append_assoc] at hrest
      exact ⟨middle, (List.append_inj' hrest rfl).1⟩
  · rintro ⟨rest, rfl⟩
    exact ⟨rest ++ [c], List.append_assoc _ _ _⟩

end Text

namespace Line

theorem ofText_dropReturn (line : Text) : ofText (Text.dropReturn line) = ofText line := by
  have hindent : indentOf (Text.dropReturn line) = indentOf line := by
    rcases Text.dropReturn_cases line with hsame | hreturn
    · rw [hsame]
    · rw [hreturn, Text.dropReturn_append_return, indentOf, indentOf, List.takeWhile_append]
      split
      · next hall =>
        simp [isIndent, hall]
      · rfl
  rw [ofText, ofText, Text.trim_dropReturn, hindent]

theorem isDocStringMark_dropReturn (line : Text) :
    isDocStringMark (Text.dropReturn line) = isDocStringMark line := by
  rcases Text.dropReturn_cases line with hsame | hreturn
  · rw [hsame]
  · rw [hreturn, Text.dropReturn_append_return, isDocStringMark, isDocStringMark,
      Text.trimStart_append_blank (c := '\r') rfl]
    split
    · next hnil => rw [hnil]
    · rw [Text.startsWith_append_singleton (by decide)]

end Line

namespace Feature

/-- The number of a line when there is one more line below the first ones. -/
def raiseFrom (k n : Nat) : Nat :=
  if k < n then n + 1 else n

/-- Whether a place lies within a text of several lines: the lines above leave the text open, and
a line below closes it. -/
def IsWithinText (lines : List Text) (k : Nat) : Prop :=
  ∃ draft, ({} : Draft).readAll 1 (lines.take k) = .ok draft ∧ draft.docString.isSome = true ∧
    ∃ line ∈ lines.drop k, Line.isDocStringMark line = true

theorem raiseFrom_of_le {k n : Nat} (h : n ≤ k) : raiseFrom k n = n :=
  if_neg (Nat.not_lt.2 h)

theorem raiseFrom_add (k i : Nat) : raiseFrom k (k + 1 + i) = k + 2 + i := by
  rw [raiseFrom, if_pos (by omega)]
  omega

namespace Draft

variable {draft : Draft} {number : Nat} {line : Text}

theorem read_of_ignored (h : Line.ofText line = .ignored) (hclosed : draft.docString = none) :
    draft.read number line = .ok draft := by
  simp only [read, hclosed, h]
  split <;> rfl

/-- A text that no line closes is refused at the end of the file. -/
theorem finish_of_unclosed {lines : List Text} {n : Nat}
    (h : ∀ line ∈ lines, Line.isDocStringMark line ≠ true)
    (hopen : draft.docString.map OpenDocString.line = some n) (number : Nat) :
    (draft.readAll number lines >>= finish) = .error ⟨some n, .openDocString⟩ := by
  induction lines generalizing draft number with
  | nil =>
    obtain ⟨opened, hopened, rfl⟩ := Option.map_eq_some_iff.1 hopen
    change draft.finish = _
    rw [finish, hopened]
  | cons line rest ih =>
    obtain ⟨opened, hopened, rfl⟩ := Option.map_eq_some_iff.1 hopen
    obtain ⟨hline, hrest⟩ := List.forall_mem_cons.1 h
    rw [readAll, read_of_open hopened hline]
    exact ih hrest rfl (number + 1)

theorem line_le_of_readAll {lines : List Text} {refused : ParseError}
    (h : ({} : Draft).readAll 1 lines = .error refused) : ∀ n ∈ refused.line, n ≤ lines.length := by
  rintro n hn
  have hrefused : ofLines lines = .error ⟨some n, refused.fault⟩ := by
    rw [ofLines, h, ← hn]
    rfl
  obtain ⟨above, line, below, -, rfl, rfl, -⟩ := exists_line_of_refused hrefused
  rw [List.length_append, List.length_cons]
  omega

theorem line_le_of_open {lines : List Text} {opened : OpenDocString}
    (h : ({} : Draft).readAll 1 lines = .ok draft) (hopen : draft.docString = some opened) :
    opened.line ≤ lines.length := by
  obtain ⟨above, line, below, -, -, rfl, -, -, -, -, -, hnumber, -⟩ := exists_opening h hopen
  rw [hnumber, List.length_append, List.length_cons]
  omega

end Draft

theorem ofLines_append_ignored (above below : List Text) {line : Text}
    (hline : Line.ofText line = .ignored) (hmark : Line.isDocStringMark line ≠ true)
    (hplace : ¬ IsWithinText (above ++ below) above.length) :
    ofLines (above ++ line :: below) =
      ((ofLines (above ++ below)).map (renumber (raiseFrom above.length))).mapError
        (ParseError.renumber (raiseFrom above.length)) := by
  rw [ofLines_append, ofLines_append]
  cases hread : ({} : Draft).readAll 1 above with
  | error refused =>
    have hsame : refused.renumber (raiseFrom above.length) = refused :=
      ParseError.renumber_eq_self fun n hn => raiseFrom_of_le (Draft.line_le_of_readAll hread n hn)
    change Except.error refused = Except.error (refused.renumber _)
    rw [hsame]
  | ok draft =>
    change (draft.readAll (above.length + 1) (line :: below) >>= Draft.finish) =
      ((draft.readAll (above.length + 1) below >>= Draft.finish).map _).mapError _
    cases hopen : draft.docString with
    | none =>
      have hsame : draft.renumber (raiseFrom above.length) = draft := by
        refine Draft.renumber_eq_self (fun n hn => raiseFrom_of_le ?_) hopen
        have hle := ((Draft.isSound_empty.readAll hread).feature.bounded n hn).2
        rwa [Nat.zero_add] at hle
      have hbelow := draft.readAll_renumber (raiseFrom_add above.length) below
      rw [hsame] at hbelow
      rw [Draft.readAll, Draft.read_of_ignored hline hopen]
      change (draft.readAll (above.length + 2) below >>= Draft.finish) = _
      rw [hbelow]
      cases draft.readAll (above.length + 1) below with
      | error refused => rfl
      | ok last => exact last.finish_renumber
    | some opened =>
      have hunclosed : ∀ other ∈ below, Line.isDocStringMark other ≠ true := by
        intro other hother hclosing
        refine hplace ⟨draft, ?_, by rw [hopen, Option.isSome_some], other, ?_, hclosing⟩
        · rwa [List.take_left]
        · rwa [List.drop_left]
      have hnumber := congrArg (Option.map OpenDocString.line) hopen
      rw [Draft.finish_of_unclosed (List.forall_mem_cons.2 ⟨hmark, hunclosed⟩) hnumber,
        Draft.finish_of_unclosed hunclosed hnumber]
      have hsame := raiseFrom_of_le (Draft.line_le_of_open hread hopen)
      simp [Except.map, Except.mapError, ParseError.renumber, hsame]

/-- A carriage return at the end of the last line is never seen. -/
theorem ofLines_dropReturn (above : List Text) (last : Text) :
    ofLines (above ++ [Text.dropReturn last]) = ofLines (above ++ [last]) := by
  rw [ofLines_append, ofLines_append]
  cases ({} : Draft).readAll 1 above with
  | error refused => rfl
  | ok draft =>
    change (draft.readAll (above.length + 1) [Text.dropReturn last] >>= Draft.finish) =
      (draft.readAll (above.length + 1) [last] >>= Draft.finish)
    by_cases hunclosed : draft.docString.isSome = true ∧ Line.isDocStringMark last ≠ true
    · -- The last line becomes a part of a text that is never closed.
      obtain ⟨hopen, hmark⟩ := hunclosed
      obtain ⟨opened, hopen⟩ := Option.isSome_iff_exists.1 hopen
      have hnumber := congrArg (Option.map OpenDocString.line) hopen
      have hother : Line.isDocStringMark (Text.dropReturn last) ≠ true := by
        rwa [Line.isDocStringMark_dropReturn]
      rw [Draft.finish_of_unclosed (List.forall_mem_singleton.2 hother) hnumber,
        Draft.finish_of_unclosed (List.forall_mem_singleton.2 hmark) hnumber]
    · have hread : draft.read (above.length + 1) (Text.dropReturn last) =
          draft.read (above.length + 1) last := by
        unfold Draft.read
        rw [Line.isDocStringMark_dropReturn, Line.ofText_dropReturn, Text.trim_dropReturn]
        cases hopen : draft.docString with
        | none => rfl
        | some opened =>
          have hmark : Line.isDocStringMark last = true := by
            by_contra hmark
            exact hunclosed ⟨by rw [hopen, Option.isSome_some], hmark⟩
          simp only [hmark, if_true]
      rw [Draft.readAll_singleton, Draft.readAll_singleton, hread]

theorem parse_closeLine (source : Text) : parse (Text.closeLine source) = parse source := by
  rcases Text.lines_closeLine source with hsame | ⟨before, last, hlines, hclosed⟩
  · rw [parse, hsame, parse]
  · rw [parse, hclosed, ofLines_dropReturn, parse, hlines]

/-- **Blank lines and comments change nothing but numbers.** A line that is blank, or whose first
character that is not blank is a number sign, may be put at any place of a file that does not lie
within a text of several lines. The feature that is read is the same, or the fault is the same; and
the line numbers in it are raised by one below that place, and are the same above it. -/
theorem parse_insertLine (source line : Text) (k : Nat) (hk : k ≤ (Text.lines source).length)
    (hnewline : '\n' ∉ line)
    (hline : Text.trimStart line = [] ∨ ∃ comment, Text.trimStart line = '#' :: comment)
    (hplace : ¬ IsWithinText (Text.lines source) k) :
    parse (Text.insertLine line k source) =
      ((parse source).map (renumber (raiseFrom k))).mapError
        (ParseError.renumber (raiseFrom k)) := by
  have hignored : Line.ofText (Text.dropReturn line) = .ignored := by
    rw [Line.ofText_dropReturn]
    apply Line.ofText_of_first
    rcases hline with hblank | ⟨comment, hcomment⟩
    · rw [hblank]
      rfl
    · rw [hcomment]
      rfl
  have hmark : Line.isDocStringMark (Text.dropReturn line) ≠ true := by
    rw [Line.isDocStringMark_dropReturn, Line.isDocStringMark]
    rcases hline with hblank | ⟨comment, hcomment⟩
    · rw [hblank]
      decide
    · rw [hcomment]
      simp [Text.startsWith, Text.after?, Line.docStringMark]
  rw [parse, Text.lines_insertLine hnewline]
  rcases Text.takeLines_cases k source with hclosed | hall
  · -- The lines above end in line feeds, so they stay as they are.
    have habove : Text.lines (Text.closeLine (Text.takeLines k source)) =
        (Text.lines source).take k := by
      rw [Text.closeLine, if_pos hclosed, Text.lines_takeLines]
    have hlength : ((Text.lines source).take k).length = k := List.length_take_of_le hk
    have hinsert := ofLines_append_ignored ((Text.lines source).take k)
      ((Text.lines source).drop k) hignored hmark (by rwa [List.take_append_drop, hlength])
    rwa [List.take_append_drop, hlength, ← habove] at hinsert
  · -- The line comes below the last one, which may not have ended in a line feed so far.
    have hend : (Text.lines source).take k = Text.lines source := by
      rw [← Text.lines_takeLines, hall]
    have hlength : (Text.lines (Text.closeLine source)).length = k := by
      rw [Text.length_lines_closeLine, ← hend, List.length_take_of_le hk]
    have hbelow : (Text.lines source).drop k = [] := by
      rw [← hlength, Text.length_lines_closeLine, List.drop_length]
    have hinsert := ofLines_append_ignored (Text.lines (Text.closeLine source)) [] hignored hmark
      (by simp [IsWithinText])
    rw [List.append_nil, hlength] at hinsert
    rw [hall, hbelow, hinsert, ← parse, parse_closeLine]

/-- A comment between the tags of a scenario and its heading, above a text of several lines in a
file that does not end in a line feed. -/
theorem parse_insertLine_comment :
    let source : Text := "Feature: F\n@t\nScenario: S\n  Given a\n  \"\"\"\n\n  \"\"\""
    parse (Text.insertLine "  # note" 2 source) =
      ((parse source).map (renumber (raiseFrom 2))).mapError (ParseError.renumber (raiseFrom 2)) ∧
    (parse source).toOption.map (·.lineNumbers) = some [3, 4] ∧
    (parse (Text.insertLine "  # note" 2 source)).toOption.map (·.lineNumbers) = some [4, 5] := by
  intro source
  have hlength : 2 ≤ (Text.lines source).length := by decide +kernel
  have hplace : ¬ IsWithinText (Text.lines source) 2 := by
    have hclosed : (({} : Draft).readAll 1 ((Text.lines source).take 2)).toOption.all
        (·.docString.isNone) = true := by decide +kernel
    rintro ⟨draft, hread, hopen, -⟩
    rw [hread] at hclosed
    simp [Except.toOption, ← Option.not_isSome, hopen] at hclosed
  refine ⟨parse_insertLine source "  # note" 2 hlength (by decide) (.inr ⟨" note", by decide⟩)
    hplace, ?_, ?_⟩
  · decide +kernel
  · decide +kernel

end Feature

end FeatureFixtures
