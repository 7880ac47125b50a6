import FeatureFixtures.Proofs.LineEndings
import FeatureFixtures.Proofs.TagLines
/-!
# Which line is at fault

A file is refused on the first line that cannot be read, so the lines above it are read well, and
nothing that follows it makes a difference. Some faults show later than the line that they are
reported on. A text of several lines is given to its step only when it is closed, and one that is
never closed is found at the end; both are faults of the line that opened the text. At the end it
turns out, too, that an outline has no examples or that there is no feature; only the last of all
has no line.
-/

namespace FeatureFixtures

namespace Text

/-- The first lines of a text, with their endings. -/
def takeLines : Nat → Text → Text
  | 0, _ => []
  | _ + 1, [] => []
  | n + 1, c :: t => c :: takeLines (if c = '\n' then n else n + 1) t

@[simp] theorem takeLines_zero (t : Text) : takeLines 0 t = [] := by
  cases t <;> rfl

theorem takeLines_of_not_mem {t : Text} (h : '\n' ∉ t) (n : Nat) : takeLines (n + 1) t = t := by
  induction t with
  | nil => rfl
  | cons c rest ih =>
    rw [List.mem_cons, not_or] at h
    rw [takeLines, if_neg (Ne.symm h.1), ih h.2]

theorem takeLines_append_newline {first : Text} (hfirst : '\n' ∉ first) (n : Nat) (rest : Text) :
    takeLines (n + 1) (first ++ '\n' :: rest) = first ++ '\n' :: takeLines n rest := by
  induction first with
  | nil => rfl
  | cons c others ih =>
    rw [List.mem_cons, not_or] at hfirst
    rw [List.cons_append, takeLines, if_neg (Ne.symm hfirst.1), ih hfirst.2, List.cons_append]

theorem length_lines_le_of_not_mem {t : Text} (h : '\n' ∉ t) : (lines t).length ≤ 1 := by
  rw [lines_of_not_mem h]
  split
  · exact Nat.zero_le 1
  · exact Nat.le_refl 1

theorem lines_takeLines (n : Nat) (t : Text) : lines (takeLines n t) = (lines t).take n := by
  induction t using line_induction generalizing n with
  | last t hlast =>
    cases n with
    | zero => simp [lines_eq_nil_iff]
    | succ n =>
      have hshort := length_lines_le_of_not_mem hlast
      rw [takeLines_of_not_mem hlast, List.take_of_length_le (by omega)]
  | line first rest hfirst ih =>
    cases n with
    | zero => simp [lines_eq_nil_iff]
    | succ n =>
      rw [takeLines_append_newline hfirst, lines_append_newline hfirst, lines_append_newline hfirst,
        List.take_succ_cons, ih]

end Text

namespace Line

theorem length_forms (inside : Bool) (lines : List Text) :
    (forms inside lines).length = lines.length := by
  induction lines generalizing inside with
  | nil => rfl
  | cons line rest ih => cases inside <;> simp [forms, ih]

/-- Where there are only margins, no text of several lines hides a line. -/
theorem isMargin_of_forall_forms {lines : List Text}
    (h : ∀ form ∈ forms false lines, isMargin form = true) :
    ∀ line ∈ lines, isMargin (some (ofText line)) = true := by
  induction lines with
  | nil => simp
  | cons line rest ih =>
    rw [forms, List.forall_mem_cons] at h
    have hopens : (ofText line).opensText = false := by
      cases hform : ofText line <;> simp_all [isMargin, opensText]
    rw [hopens] at h
    exact List.forall_mem_cons.2 ⟨h.1, ih h.2⟩

end Line

namespace Feature

/-- Whether a fault shows only at the end of a file that is read well up to there. -/
def Fault.isLate : Fault → Bool
  | .noFeature | .outlineWithoutExamples _ => true
  | _ => false

namespace Draft

variable {draft after : Draft} {opened : OpenDocString} {fault : Fault} {refused : ParseError}
  {number n : Nat} {line : Text} {lines : List Text}

/-! ### Reading up to a line -/

theorem readAll_append (draft : Draft) (number : Nat) (above below : List Text) :
    draft.readAll number (above ++ below) =
      draft.readAll number above >>= fun next => next.readAll (number + above.length) below := by
  induction above generalizing draft number with
  | nil => rfl
  | cons line rest ih =>
    rw [List.cons_append, readAll, readAll]
    cases draft.read number line with
    | error refused => rfl
    | ok next =>
      have hnumber : number + 1 + rest.length = number + (line :: rest).length := by
        rw [List.length_cons]
        omega
      rw [← hnumber]
      exact ih next (number + 1)

theorem readAll_singleton (draft : Draft) (number : Nat) (line : Text) :
    draft.readAll number [line] = draft.read number line := by
  rw [readAll]
  cases draft.read number line <;> rfl

/-- Reading stops at a line above which all is read well. -/
theorem exists_read_of_readAll (h : draft.readAll number lines = .error refused) :
    ∃ above line below next, lines = above ++ line :: below ∧
      draft.readAll number above = .ok next ∧
      next.read (number + above.length) line = .error refused := by
  induction lines generalizing draft number with
  | nil => cases h
  | cons first rest ih =>
    rcases bind_eq_error_iff.1 h with hfirst | ⟨next, hnext, hrest⟩
    · exact ⟨[], first, rest, draft, rfl, rfl, hfirst⟩
    · obtain ⟨above, line, below, last, rfl, habove, hline⟩ := ih hrest
      refine ⟨first :: above, line, below, last, rfl, bind_eq_ok_iff.2 ⟨next, hnext, habove⟩, ?_⟩
      rwa [List.length_cons, Nat.add_comm above.length, ← Nat.add_assoc]

theorem line_eq_of_read (h : draft.read number line = .error refused)
    (hclosed : draft.docString = none) : refused.line = some number := by
  unfold read at h
  rw [hclosed] at h
  obtain ⟨fault, -, rfl⟩ := mapError_eq_error_iff.1 h
  rfl

/-! ### Texts of several lines -/

theorem changeStep_eq_error {absent : Fault} {change other : Step → Except Fault Step}
    (h : draft.changeStep absent change = .error fault)
    (hother : ∀ step, change step = .error fault → other step = .error fault) :
    draft.changeStep absent other = .error fault := by
  -- A change of the last step fails in the same way as long as the changed step does.
  have hlast {steps : List Step} (hsteps : changeLast absent change steps = .error fault) :
      changeLast absent other steps = .error fault := by
    rw [changeLast_eq_error_iff] at hsteps ⊢
    apply hsteps.imp_right
    rintro ⟨before, step, heq, hstep⟩
    exact ⟨before, step, heq, hother step hstep⟩
  unfold changeStep at h ⊢
  split at h
  · rcases bind_eq_error_iff.1 h with hsteps | ⟨steps, -, hdone⟩
    · exact bind_eq_error_iff.2 (.inl (hlast hsteps))
    · cases hdone
  · rcases bind_eq_error_iff.1 h with hscenarios | ⟨scenarios, -, hdone⟩
    · refine bind_eq_error_iff.2 (.inl (changeLast_eq_error_iff.2 ?_))
      apply (changeLast_eq_error_iff.1 hscenarios).imp_right
      rintro ⟨before, scenario, heq, hscenario⟩
      rcases bind_eq_error_iff.1 hscenario with hsteps | ⟨steps, -, hdone⟩
      · exact ⟨before, scenario, heq, bind_eq_error_iff.2 (.inl (hlast hsteps))⟩
      · cases hdone
    · cases hdone
  · exact h

/-- Whether a step takes a text does not depend on what the text says. -/
theorem closeDocString_eq_error {content : List Text}
    (h : draft.closeDocString content = .error fault) (other : List Text) :
    draft.closeDocString other = .error fault := by
  refine changeStep_eq_error h fun step hstep => ?_
  unfold Step.addDocString at hstep ⊢
  split at hstep
  · cases hstep
  · exact hstep

theorem exists_indent_of_read (hclosed : draft.docString = none)
    (h : draft.read number line = .ok after) (hopen : after.docString = some opened) :
    draft.part ≠ .start ∧ opened.line = number ∧
      after = { draft with docString := some opened } := by
  unfold read at h
  rw [hclosed] at h
  have hadded := mapError_eq_ok_iff.1 h
  split at hadded
  · obtain ⟨hsame, -⟩ := docString_of_addFirstLine hadded
    rw [hopen, hclosed] at hsame
    cases hsame
  · next hpart =>
    have hopens := isSome_docString_of_addLine hclosed hadded
    rw [hopen, Option.isSome_some] at hopens
    cases hform : Line.ofText line <;> rw [hform] at hopens hadded <;> cases hopens
    next indent =>
      cases hadded
      cases hopen
      exact ⟨hpart, rfl, rfl⟩

theorem read_of_open (hopen : draft.docString = some opened)
    (hmark : Line.isDocStringMark line ≠ true) :
    draft.read number line = .ok { draft with docString := some { opened with
      content := Line.unindent opened.indent line :: opened.content } } := by
  simp only [read, hopen, if_neg hmark]

theorem docString_of_read (hopen : draft.docString = some opened)
    (h : draft.read number line = .ok after) {later : OpenDocString}
    (hlater : after.docString = some later) :
    later.line = opened.line ∧ after = { draft with docString := some later } := by
  unfold read at h
  rw [hopen] at h
  dsimp only at h
  split at h
  · have hclosed := (keepsTags_changeStep (mapError_eq_ok_iff.1 h)).docString
    rw [hlater] at hclosed
    cases hclosed
  · cases h
    cases hlater
    exact ⟨rfl, rfl⟩

/-- An open text was opened on a line, and nothing else has been read since. -/
theorem exists_opening (h : ({} : Draft).readAll 1 lines = .ok draft)
    (hopen : draft.docString = some opened) :
    ∃ above line below start first, lines = above ++ line :: below ∧
      ({} : Draft).readAll 1 above = .ok start ∧ start.docString = none ∧ start.part ≠ .start ∧
      start.read (above.length + 1) line = .ok { start with docString := some first } ∧
      first.line = above.length + 1 ∧ opened.line = above.length + 1 ∧
      draft = { start with docString := some opened } := by
  induction lines using List.reverseRecOn generalizing draft opened with
  | nil =>
    cases h
    cases hopen
  | append_singleton above line ih =>
    rw [readAll_append] at h
    obtain ⟨before, hbefore, hline⟩ := bind_eq_ok_iff.1 h
    rw [readAll_singleton, Nat.add_comm] at hline
    cases hdraft : before.docString with
    | none =>
      obtain ⟨hpart, hnumber, rfl⟩ := exists_indent_of_read hdraft hline hopen
      exact ⟨above, line, [], before, opened, rfl, hbefore, hdraft, hpart, hline, hnumber,
        hnumber, rfl⟩
    | some earlier =>
      obtain ⟨hsame, rfl⟩ := docString_of_read hdraft hline hopen
      obtain ⟨first, opening, below, start, text, rfl, hstart, hnone, hpart, hread, htext,
        hnumber, rfl⟩ := ih hbefore hdraft
      exact ⟨first, opening, below ++ [line], start, text, by simp, hstart, hnone, hpart, hread,
        htext, hsame.trans hnumber, rfl⟩

/-- A text that its step does not take, whatever follows and whether it is closed or not. -/
theorem finish_of_open (h : ∀ content, draft.closeDocString content = .error fault)
    (opened : OpenDocString) (number : Nat) (below : List Text) :
    (({ draft with docString := some opened } : Draft).readAll number below >>= finish) =
        .error ⟨some opened.line, fault⟩ ∨
      (({ draft with docString := some opened } : Draft).readAll number below >>= finish) =
        .error ⟨some opened.line, .openDocString⟩ := by
  induction below generalizing opened number with
  | nil => exact .inr rfl
  | cons line rest ih =>
    by_cases hmark : Line.isDocStringMark line = true
    · have hclosed : ({ draft with docString := some opened } : Draft).closeDocString
          opened.content = .error fault := h opened.content
      have hread : ({ draft with docString := some opened } : Draft).read number line =
          .error ⟨some opened.line, fault⟩ := by
        simp only [read, hmark, if_true, hclosed]
        rfl
      left
      rw [readAll, hread]
      rfl
    · rw [readAll, read_of_open rfl hmark]
      exact ih _ (number + 1)

/-! ### Headings -/

theorem IsTagged.forms_append {above : List (Option Line)} (h : draft.IsTagged above)
    (hbelow : draft.IsBelowFeature) (hafter : draft.readAll (above.length + 1) lines = .ok after)
    (rest : List Text) :
    Line.forms draft.docString.isSome (lines ++ rest) =
      Line.forms draft.docString.isSome lines ++ Line.forms after.docString.isSome rest := by
  induction lines generalizing draft above with
  | nil =>
    cases hafter
    rfl
  | cons line others ih =>
    obtain ⟨next, hnext, hafter⟩ := bind_eq_ok_iff.1 hafter
    obtain ⟨hbelow, form, hform, hforms⟩ := h.read hbelow hnext
    have hlength : above.length + 1 = (above ++ [form]).length := by simp
    rw [hlength] at hafter
    rw [List.cons_append, hforms, hforms, List.cons_append, ih hform hbelow hafter]

/-- The heading of a scenario stands on its line, and not within a text of several lines. -/
theorem exists_heading (h : ({} : Draft).readAll 1 lines = .ok draft) {scenario : Scenario}
    (hscenario : scenario ∈ draft.feature.scenarios) :
    ∃ above line below start, lines = above ++ line :: below ∧
      ({} : Draft).readAll 1 above = .ok start ∧ start.docString = none ∧
      scenario.line = above.length + 1 := by
  have hbelow : ({} : Draft).IsBelowFeature := fun hopen => absurd rfl hopen
  obtain ⟨before, rest, hforms, hline, -⟩ :=
    (isTagged_empty.readAll hbelow h).entries scenario hscenario
  simp only [List.nil_append, Option.isSome_none] at hforms hline
  have hlength : before.length < lines.length := by
    rw [← Line.length_forms false lines, hforms, List.length_append, List.length_cons]
    omega
  have hsplit : lines = lines.take before.length ++
      lines[before.length] :: lines.drop (before.length + 1) := by
    rw [← List.drop_eq_getElem_cons hlength, List.take_append_drop]
  rw [hsplit, readAll_append] at h
  obtain ⟨start, hstart, -⟩ := bind_eq_ok_iff.1 h
  refine ⟨_, _, _, start, hsplit, hstart, ?_, ?_⟩
  · have happend := isTagged_empty.forms_append hbelow hstart
      (lines[before.length] :: lines.drop (before.length + 1))
    rw [← hsplit, Option.isSome_none, hforms] at happend
    have hbefore : before.length = (Line.forms false (lines.take before.length)).length := by
      rw [Line.length_forms, List.length_take]
      omega
    cases hopen : start.docString with
    | none => rfl
    | some opened =>
      rw [hopen] at happend
      cases (List.append_inj happend hbefore).2
  · calc scenario.line = before.length + 1 := hline
      _ = (lines.take before.length).length + 1 := by
        rw [List.length_take]
        omega

theorem isLate_of_finish {refused : ParseError} (h : draft.finish = .error refused)
    (hclosed : draft.docString = none) : refused.fault.isLate = true := by
  unfold finish at h
  rw [hclosed] at h
  dsimp only at h
  split at h
  · cases h
    rfl
  · split at h
    · cases h
      rfl
    · cases h

end Draft

/-! ### Refused files -/

variable {lines : List Text} {n : Nat} {fault : Fault}

/-- Above the line that a fault is reported on, all is read well and no text is open. The line
itself is refused, or it opens a text that is not closed or not taken, or an outline begins on it
that has no examples. -/
theorem exists_line_of_refused (h : ofLines lines = .error ⟨some n, fault⟩) :
    ∃ above line below draft, lines = above ++ line :: below ∧ n = above.length + 1 ∧
      ({} : Draft).readAll 1 above = .ok draft ∧ draft.docString = none ∧
      (draft.read n line = .error ⟨some n, fault⟩ ∨
        (∃ opened, draft.read n line = .ok { draft with docString := some opened } ∧
          opened.line = n ∧
          (fault = .openDocString ∨ ∀ content, draft.closeDocString content = .error fault)) ∨
        ∃ title, fault = .outlineWithoutExamples title) := by
  rcases bind_eq_error_iff.1 h with hread | ⟨last, hread, hfinish⟩
  · obtain ⟨above, line, below, draft, rfl, habove, hline⟩ := Draft.exists_read_of_readAll hread
    rw [Nat.add_comm] at hline
    cases hdraft : draft.docString with
    | none =>
      have hnumber := Draft.line_eq_of_read hline hdraft
      cases hnumber
      exact ⟨above, line, below, draft, rfl, rfl, habove, hdraft, .inl hline⟩
    | some opened =>
      -- The fault is found on closing the text, and reported on the line that opened it.
      obtain ⟨first, opening, inside, start, text, rfl, hstart, hclosed, -, hopening, htext,
        hnumber, rfl⟩ := Draft.exists_opening habove hdraft
      unfold Draft.read at hline
      dsimp only at hline
      split at hline
      · obtain ⟨cause, hclose, hcause⟩ := mapError_eq_error_iff.1 hline
        cases hcause
        rw [hnumber]
        exact ⟨first, opening, inside ++ line :: below, start, by simp, rfl, hstart, hclosed,
          .inr (.inl ⟨text, hopening, htext, .inr (Draft.closeDocString_eq_error hclose)⟩)⟩
      · cases hline
  · cases hlast : last.docString with
    | some opened =>
      obtain ⟨above, line, below, start, text, rfl, hstart, hclosed, -, hopening, htext, hnumber,
        rfl⟩ := Draft.exists_opening hread hlast
      cases hfinish
      rw [hnumber]
      exact ⟨above, line, below, start, rfl, rfl, hstart, hclosed,
        .inr (.inl ⟨text, hopening, htext, .inl rfl⟩)⟩
    | none =>
      unfold Draft.finish at hfinish
      rw [hlast] at hfinish
      dsimp only at hfinish
      split at hfinish
      · cases hfinish
      · split at hfinish
        · next scenario hbare =>
          cases hfinish
          obtain ⟨above, line, below, start, rfl, hstart, hclosed, hnumber⟩ :=
            Draft.exists_heading hread (List.mem_of_find?_eq_some hbare)
          exact ⟨above, line, below, start, rfl, hnumber, hstart, hclosed,
            .inr (.inr ⟨scenario.title, rfl⟩)⟩
        · cases hfinish

theorem exists_ok_of_line_eq_none (h : ofLines lines = .error ⟨none, fault⟩) :
    ∃ draft, ({} : Draft).readAll 1 lines = .ok draft ∧ draft.part = .start := by
  rcases bind_eq_error_iff.1 h with hread | ⟨draft, hread, hfinish⟩
  · obtain ⟨above, line, below, draft, rfl, habove, hline⟩ := Draft.exists_read_of_readAll hread
    unfold Draft.read at hline
    split at hline
    · split at hline
      · obtain ⟨cause, -, hcause⟩ := mapError_eq_error_iff.1 hline
        cases hcause
      · cases hline
    · obtain ⟨cause, -, hcause⟩ := mapError_eq_error_iff.1 hline
      cases hcause
  · refine ⟨draft, hread, ?_⟩
    unfold Draft.finish at hfinish
    split at hfinish
    · cases hfinish
    · split at hfinish
      · next hpart => exact hpart
      · split at hfinish
        · cases hfinish
        · cases hfinish

/-- There is no feature in a file exactly if it is read to its end and no line is a feature line. -/
theorem exists_fault_iff_forall_ne_feature :
    (∃ fault, ofLines lines = .error ⟨none, fault⟩) ↔
      (∃ draft, ({} : Draft).readAll 1 lines = .ok draft) ∧
        ∀ line ∈ lines, ∀ title, Line.ofText line ≠ .feature title := by
  have hbelow : ({} : Draft).IsBelowFeature := fun hopen => absurd rfl hopen
  constructor
  · rintro ⟨fault, h⟩
    obtain ⟨draft, hread, hpart⟩ := exists_ok_of_line_eq_none h
    refine ⟨⟨draft, hread⟩, fun line hline title hform => ?_⟩
    have hmargin := (Draft.isTagged_empty.readAll hbelow hread).awaited hpart
    have hfeature := Line.isMargin_of_forall_forms hmargin line hline
    rw [hform] at hfeature
    cases hfeature
  · rintro ⟨⟨draft, hread⟩, hnone⟩
    have htagged := Draft.isTagged_empty.readAll hbelow hread
    have hpart : draft.part = .start := by
      by_contra hpart
      obtain ⟨before, rest, hforms, -⟩ := htagged.begun hpart
      have hmem : some (.feature draft.feature.title) ∈ Line.forms false lines := by
        rw [List.nil_append, Option.isSome_none] at hforms
        simp [hforms]
      obtain ⟨line, hline, hform⟩ := Line.exists_mem_of_mem_forms hmem
      exact hnone line hline _ hform
    have hclosed : draft.docString = none := by
      cases hopen : draft.docString with
      | none => rfl
      | some opened =>
        obtain ⟨-, -, -, start, -, -, -, -, hstart, -, -, -, rfl⟩ :=
          Draft.exists_opening hread hopen
        exact absurd hpart hstart
    refine ⟨.noFeature, bind_eq_error_iff.2 (.inr ⟨draft, hread, ?_⟩)⟩
    rw [Draft.finish, hclosed]
    exact if_pos hpart

theorem ofLines_append (above below : List Text) :
    ofLines (above ++ below) = ({} : Draft).readAll 1 above >>= fun draft =>
      draft.readAll (above.length + 1) below >>= Draft.finish := by
  rw [ofLines, Draft.readAll_append, Nat.add_comm 1]
  cases ({} : Draft).readAll 1 above <;> rfl

theorem ofLines_append_cons {above : List Text} {draft : Draft}
    (h : ({} : Draft).readAll 1 above = .ok draft) (line : Text) (below : List Text) :
    ofLines (above ++ line :: below) =
      draft.read (above.length + 1) line >>= fun next =>
        next.readAll (above.length + 2) below >>= Draft.finish := by
  rw [ofLines_append, h]
  change draft.readAll (above.length + 1) (line :: below) >>= Draft.finish = _
  rw [Draft.readAll]
  cases draft.read (above.length + 1) line <;> rfl

/-- **A fault is reported on the first line that is at fault.** The line is one of the file, and
the text above it is accepted, or is refused only because its end comes before a feature line or
before the examples of an outline. Every text with the same lines up to it is refused on that line
with the same fault, unless that fault is only shown by the end of the file; or it leaves open a
text of several lines that the line opens. A fault without a line is reported exactly if all lines
are read well and none of them is a feature line. -/
theorem parse_fault_line (source : Text) :
    (∀ n fault, parse source = .error ⟨some n, fault⟩ →
      (1 ≤ n ∧ n ≤ (Text.lines source).length) ∧
      (∀ refused, parse (Text.takeLines (n - 1) source) = .error refused →
        refused.fault.isLate = true) ∧
      (fault ≠ .openDocString → (∀ title, fault ≠ .outlineWithoutExamples title) →
        ∀ other : Text, (Text.lines other).take n = (Text.lines source).take n →
        parse other = .error ⟨some n, fault⟩ ∨ parse other = .error ⟨some n, .openDocString⟩)) ∧
    ((∃ fault, parse source = .error ⟨none, fault⟩) ↔
      (∃ draft, ({} : Draft).readAll 1 (Text.lines source) = .ok draft) ∧
        ∀ line ∈ Text.lines source, ∀ title, Line.ofText line ≠ .feature title) := by
  refine ⟨fun n fault h => ?_, exists_fault_iff_forall_ne_feature⟩
  obtain ⟨above, line, below, draft, hlines, rfl, habove, hclosed, hcases⟩ :=
    exists_line_of_refused h
  refine ⟨?inside, ?above, ?below⟩
  case inside =>
    rw [hlines, List.length_append, List.length_cons]
    omega
  case above =>
    intro refused hrefused
    have hcut : Text.lines (Text.takeLines (above.length + 1 - 1) source) = above := by
      rw [Text.lines_takeLines, hlines, Nat.add_sub_cancel, List.take_left']
      rfl
    rw [parse, hcut, ofLines, habove] at hrefused
    exact Draft.isLate_of_finish hrefused hclosed
  case below =>
    intro hopen houtline other hother
    have hbelow : Text.lines other =
        above ++ line :: (Text.lines other).drop (above.length + 1) := by
      calc Text.lines other
          = (Text.lines other).take (above.length + 1) ++
              (Text.lines other).drop (above.length + 1) := (List.take_append_drop _ _).symm
        _ = (above ++ [line]) ++ (Text.lines other).drop (above.length + 1) := by
            rw [hother, hlines, List.append_cons, List.take_left' (by simp)]
        _ = above ++ line :: (Text.lines other).drop (above.length + 1) := by simp
    rw [parse, hbelow, ofLines_append_cons habove]
    rcases hcases with hread | ⟨opened, hread, hnumber, hunclosed | hclose⟩ | ⟨title, hlast⟩
    · left
      rw [hread]
      rfl
    · exact absurd hunclosed hopen
    · rw [hread, ← hnumber]
      exact Draft.finish_of_open hclose opened _ _
    · exact absurd hlast (houtline title)

/-- A text of several lines below a background without steps, in a file that goes on, and one that
leaves it open; and a file with nothing but comments and tags. -/
theorem parse_fault_line_text :
    let source : Text := "Feature: F\nBackground:\n  \"\"\"\n  a\n  \"\"\"\nScenario: S\n"
    let other : Text := "Feature: F\r\nBackground:\r\n  \"\"\"\r\n@b"
    parse source = .error ⟨some 3, .docStringWithoutStep⟩ ∧
    (1 ≤ 3 ∧ 3 ≤ (Text.lines source).length) ∧
    (∀ refused, parse (Text.takeLines 2 source) = .error refused → refused.fault.isLate = true) ∧
    (Text.lines other).take 3 = (Text.lines source).take 3 ∧
    (parse other = .error ⟨some 3, .docStringWithoutStep⟩ ∨
      parse other = .error ⟨some 3, .openDocString⟩) ∧
    ∃ fault, parse "# none\n@a @b\n" = .error ⟨none, fault⟩ := by
  intro source other
  have hparse : parse source = .error ⟨some 3, .docStringWithoutStep⟩ := by decide +kernel
  have hother : (Text.lines other).take 3 = (Text.lines source).take 3 := by decide +kernel
  obtain ⟨hinside, habove, hbelow⟩ := (parse_fault_line source).1 3 _ hparse
  refine ⟨hparse, hinside, habove, hother, hbelow (by decide) nofun other hother, ?_⟩
  rw [(parse_fault_line _).2]
  have hread : (({} : Draft).readAll 1 (Text.lines "# none\n@a @b\n")).toOption.isSome = true := by
    decide +kernel
  have hlines : Text.lines "# none\n@a @b\n" = [("# none" : Text), ("@a @b" : Text)] := by decide
  refine ⟨exists_eq_ok_of_isSome hread, ?_⟩
  rw [hlines, List.forall_mem_cons, List.forall_mem_singleton]
  exact ⟨nofun, nofun⟩

end Feature

end FeatureFixtures
