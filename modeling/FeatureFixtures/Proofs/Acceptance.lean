import FeatureFixtures.Proofs.Grammar
/-!
# Accepted files and the grammar

The reader has no grammar: it takes a line or refuses it by the part of the file that it is in and
by what it has read so far. Yet what it has read is always written in a file of the grammar, which
grows by the tokens of every line that is taken. One rule the reader does not keep: it allows
another background line as long as no background step has been read, although its own message says
that the background comes once.
-/

namespace FeatureFixtures

/-- How far a file is written when the reader is in a part of it. -/
def WrittenFile.EndsIn (file : WrittenFile) : Feature.Part → Prop
  | .start => False
  | .feature => file.backgroundLines = 0 ∧ file.background = [] ∧ file.scenarios = []
  | .background => 0 < file.backgroundLines ∧ file.scenarios = []
  | .scenario => ∀ last ∈ file.scenarios.getLast?, last.sections = []
  | .examples => ∀ last ∈ file.scenarios.getLast?, last.sections ≠ []

namespace Feature.Draft

/-- The text of several lines that is open, as tokens are read. -/
def openText (draft : Draft) : Option (Nat × List Text) :=
  draft.docString.map fun opened => (opened.indent, opened.content)

/-- What has been read is written in a file as far as it goes. -/
structure IsReadFrom (draft : Draft) (file : WrittenFile) : Prop where
  tells : file.Tells draft.feature
  endsIn : file.EndsIn draft.part
  background : file.backgroundLines = 0 → file.background = []
  sectioned : ∀ written ∈ file.scenarios, written.IsSectioned

/-- What has been read is written in a file that goes on by some tokens. -/
def Extends (draft : Draft) (file : WrittenFile) (tokens : List Token) : Prop :=
  ∃ longer, draft.IsReadFrom longer ∧ longer.tokens = file.tokens ++ tokens

variable {draft after : Draft} {file : WrittenFile} {tokens : List Token}

theorem IsReadFrom.endsIn_of {part : Part} (h : draft.IsReadFrom file) (hpart : draft.part = part) :
    file.EndsIn part :=
  hpart ▸ h.endsIn

theorem IsReadFrom.extends_nil (h : draft.IsReadFrom file)
    (hfeature : after.feature = draft.feature) (hpart : after.part = draft.part) :
    after.Extends file [] :=
  ⟨file, ⟨hfeature ▸ h.tells, hpart ▸ h.endsIn, h.background, h.sectioned⟩,
    (List.append_nil _).symm⟩

theorem IsReadFrom.exists_last {before : List Scenario} {x : Scenario} (h : draft.IsReadFrom file)
    (hscenarios : draft.feature.scenarios = before ++ [x]) :
    ∃ earlier sections, file.scenarios = earlier ++ [⟨x, sections⟩] ∧
      earlier.map WrittenScenario.scenario = before := by
  rw [h.tells.scenarios] at hscenarios
  obtain ⟨earlier, others, hfile, hbefore, hlast⟩ := List.map_eq_append_iff.1 hscenarios
  obtain ⟨written, rfl, rfl⟩ := List.map_eq_singleton_iff.1 hlast
  exact ⟨earlier, written.sections, hfile, hbefore⟩

/-- The scenario read last may go on in its steps, or in its sections of examples. -/
theorem IsReadFrom.changeScenario {earlier : List WrittenScenario} {x y : WrittenScenario}
    (h : draft.IsReadFrom file) (hfile : file.scenarios = earlier ++ [x])
    (hy : y.IsSectioned) (htokens : y.tokens = x.tokens ++ tokens)
    (hfeature : after.feature =
      { draft.feature with scenarios := earlier.map WrittenScenario.scenario ++ [y.scenario] })
    (hpart : (after.part = .scenario ∧ y.sections = []) ∨
      (after.part = .examples ∧ y.sections ≠ [])) : after.Extends file tokens := by
  refine ⟨{ file with scenarios := earlier ++ [y] }, ⟨⟨?_, ?_, ?_, ?_⟩, ?_, h.background, ?_⟩, ?_⟩
  · rw [hfeature, h.tells.title]
  · rw [hfeature, h.tells.description]
  · rw [hfeature, h.tells.background]
  · simp [hfeature]
  · rcases hpart with ⟨hpart, hsections⟩ | ⟨hpart, hsections⟩ <;>
      simpa [hpart, WrittenFile.EndsIn] using hsections
  · intro written hwritten
    rcases List.mem_append.1 hwritten with hold | hnew
    · exact h.sectioned written (by simp [hfile, hold])
    · rwa [List.mem_singleton.1 hnew]
  · simp [WrittenFile.tokens, hfile, htokens]

theorem IsReadFrom.changeSteps {before : List Scenario} {x : Scenario} {steps : List Step}
    (h : draft.IsReadFrom file) (hpart : draft.part = .scenario)
    (hscenarios : draft.feature.scenarios = before ++ [x])
    (hsteps : steps.flatMap Step.tokens = x.steps.flatMap Step.tokens ++ tokens) :
    ({ draft with feature := { draft.feature with scenarios := before ++ [{ x with steps }] } } :
      Draft).Extends file tokens := by
  obtain ⟨earlier, sections, hfile, rfl⟩ := h.exists_last hscenarios
  have hnone : sections = [] := h.endsIn_of hpart ⟨x, sections⟩ (by simp [hfile])
  subst hnone
  have hsectioned := h.sectioned ⟨x, []⟩ (by simp [hfile])
  refine h.changeScenario (y := ⟨{ x with steps }, []⟩) hfile
    ⟨hsectioned.plain, hsectioned.outline, hsectioned.rows⟩ ?_ rfl (.inl ⟨hpart, rfl⟩)
  simp [WrittenScenario.tokens, Scenario.heading, hsteps]

theorem IsReadFrom.changeBackground {steps : List Step} (h : draft.IsReadFrom file)
    (hpart : draft.part = .background)
    (hsteps : steps.flatMap Step.tokens =
      draft.feature.background.flatMap Step.tokens ++ tokens) :
    ({ draft with feature := { draft.feature with background := steps } } : Draft).Extends
      file tokens := by
  obtain ⟨hlines, hnone⟩ := h.endsIn_of hpart
  rw [h.tells.background] at hsteps
  refine ⟨{ file with background := steps },
    ⟨⟨h.tells.title, h.tells.description, rfl, h.tells.scenarios⟩, ?_, ?_, h.sectioned⟩, ?_⟩
  · rw [hpart]
    exact ⟨hlines, hnone⟩
  · exact fun hzero => absurd hzero (Nat.pos_iff_ne_zero.1 hlines)
  · simp [WrittenFile.tokens, hnone, hsteps]

theorem IsReadFrom.changeStep {absent : Fault} {change : Step → Except Fault Step}
    (h : draft.IsReadFrom file)
    (hchange : ∀ step after, change step = .ok after → after.tokens = step.tokens ++ tokens)
    (hafter : draft.changeStep absent change = .ok after) : after.Extends file tokens := by
  unfold Draft.changeStep at hafter
  split at hafter
  · next hpart =>
    obtain ⟨steps, hsteps, hafter⟩ := bind_eq_ok_iff.1 hafter
    obtain ⟨before, x, y, hbackground, hxy, rfl⟩ := changeLast_eq_ok_iff.1 hsteps
    cases hafter
    exact h.changeBackground hpart (by simp [hbackground, hchange x y hxy])
  · next hpart =>
    obtain ⟨scenarios, hscenarios, hafter⟩ := bind_eq_ok_iff.1 hafter
    obtain ⟨before, x, y, hfeature, hxy, rfl⟩ := changeLast_eq_ok_iff.1 hscenarios
    obtain ⟨steps, hsteps, hy⟩ := bind_eq_ok_iff.1 hxy
    obtain ⟨first, step, changed, hx, hstep, rfl⟩ := changeLast_eq_ok_iff.1 hsteps
    cases hafter
    cases hy
    exact h.changeSteps hpart hfeature (by simp [hx, hchange step changed hstep])
  · cases hafter

theorem IsReadFrom.addStep {step : Step} (h : draft.IsReadFrom file)
    (hafter : draft.addStep step = .ok after) : after.Extends file step.tokens := by
  unfold Draft.addStep at hafter
  split at hafter
  · next hpart =>
    cases hafter
    exact h.changeBackground hpart (by simp)
  · next hpart =>
    obtain ⟨scenarios, hscenarios, hafter⟩ := bind_eq_ok_iff.1 hafter
    obtain ⟨before, x, y, hfeature, hxy, rfl⟩ := changeLast_eq_ok_iff.1 hscenarios
    cases hafter
    cases hxy
    exact h.changeSteps hpart hfeature (by simp)
  · cases hafter
  · cases hafter
  · cases hafter

theorem IsReadFrom.addRow {cells : List Text} (h : draft.IsReadFrom file) (hcells : cells ≠ [])
    (hafter : draft.addRow cells = .ok after) :
    after.Extends file [.line (.row (some cells))] := by
  unfold Draft.addRow at hafter
  split at hafter
  · next hpart =>
    obtain ⟨scenarios, hscenarios, hafter⟩ := bind_eq_ok_iff.1 hafter
    obtain ⟨before, x, y, hfeature, hxy, rfl⟩ := changeLast_eq_ok_iff.1 hscenarios
    cases hafter
    split at hxy
    · next examples hx =>
      obtain ⟨changed, hchanged, hy⟩ := bind_eq_ok_iff.1 hxy
      cases hy
      obtain ⟨earlier, sections, hfile, rfl⟩ := h.exists_last hfeature
      have hsome : sections ≠ [] := h.endsIn_of hpart ⟨x, sections⟩ (by simp [hfile])
      obtain ⟨others, rows, rfl⟩ := (List.eq_nil_or_concat sections).resolve_left hsome
      rw [List.concat_eq_append] at hfile
      have hsectioned := h.sectioned ⟨x, others ++ [rows]⟩ (by simp [hfile])
      have hflatten : (others ++ [rows ++ [cells]]).flatten =
          (others ++ [rows]).flatten ++ [cells] := by simp
      have hexamples := hsectioned.outline examples hx
      subst hexamples
      have hnext := Examples.addRow_ofRows hsectioned.rows hchanged
      refine h.changeScenario (x := ⟨x, others ++ [rows]⟩)
        (y := ⟨{ x with examples := some changed }, others ++ [rows ++ [cells]]⟩) hfile
        ⟨by simp, ?_, ?_⟩ ?_ rfl (.inr ⟨hpart, by simp⟩)
      · rintro _ ⟨⟩
        dsimp only
        rw [hflatten]
        exact hnext
      · intro row hrow
        dsimp only at hrow
        rw [hflatten] at hrow
        rcases List.mem_append.1 hrow with hold | hnew
        · exact hsectioned.rows row hold
        · rwa [List.mem_singleton.1 hnew]
      · simp [WrittenScenario.tokens, Scenario.heading, hx, Token.ofSection, Token.ofRows]
    · cases hxy
  · exact h.changeStep (fun _ _ => Step.tokens_addRow) hafter
  · exact h.changeStep (fun _ _ => Step.tokens_addRow) hafter
  · cases hafter

theorem IsReadFrom.beginScenario (h : draft.IsReadFrom file) (number : Nat) (title : Text)
    {examples : Option Examples} (hexamples : ∀ first, examples = some first → first = {}) :
    (draft.beginScenario number title examples).Extends file
      [.line (Scenario.heading { title, tags := [], steps := [], examples, line := number })] := by
  let scenario : Scenario := { title, tags := draft.tags, steps := [], examples, line := number }
  refine ⟨{ file with scenarios := file.scenarios ++ [⟨scenario, []⟩] },
    ⟨⟨h.tells.title, h.tells.description, h.tells.background, ?_⟩, ?_, h.background, ?_⟩, ?_⟩
  · simp [Draft.beginScenario, h.tells.scenarios, scenario]
  · simp [Draft.beginScenario, WrittenFile.EndsIn]
  · intro written hwritten
    rcases List.mem_append.1 hwritten with hold | hnew
    · exact h.sectioned written hold
    · rw [List.mem_singleton.1 hnew]
      exact ⟨fun _ => rfl, hexamples, by simp⟩
  · simp [WrittenFile.tokens, WrittenScenario.tokens, Scenario.heading, scenario]

theorem IsReadFrom.addExamples (h : draft.IsReadFrom file) (houtline : draft.inOutline = true) :
    ({ draft with part := .examples, tags := [] } : Draft).Extends file [.line .examples] := by
  unfold inOutline at houtline
  rw [Option.any_eq_true] at houtline
  obtain ⟨x, hlast, hx⟩ := houtline
  obtain ⟨before, hfeature⟩ := List.getLast?_eq_some_iff.1 hlast
  obtain ⟨earlier, sections, hfile, rfl⟩ := h.exists_last hfeature
  have hsectioned := h.sectioned ⟨x, sections⟩ (by simp [hfile])
  have hflatten : (sections ++ [[]]).flatten = sections.flatten := by simp
  obtain ⟨examples, hsome⟩ := Option.isSome_iff_exists.1 hx
  refine h.changeScenario (y := ⟨x, sections ++ [[]]⟩) hfile ⟨?_, ?_, ?_⟩ ?_ ?_
    (.inr ⟨rfl, by simp⟩)
  · intro hnone
    simp [hsome] at hnone
  · rw [hflatten]
    exact hsectioned.outline
  · rw [hflatten]
    exact hsectioned.rows
  · simp [WrittenScenario.tokens, Token.ofSection, Token.ofRows]
  · simp [← hfeature]

theorem IsReadFrom.addBackground (h : draft.IsReadFrom file)
    (hnone : (draft.feature.scenarios.isEmpty && draft.feature.background.isEmpty) = true) :
    ({ draft with part := .background } : Draft).Extends file [.line .background] := by
  simp only [Bool.and_eq_true, List.isEmpty_iff] at hnone
  obtain ⟨hscenarios, hbackground⟩ := hnone
  rw [h.tells.background] at hbackground
  rw [h.tells.scenarios, List.map_eq_nil_iff] at hscenarios
  refine ⟨{ file with backgroundLines := file.backgroundLines + 1 }, ⟨?_, ?_, ?_, ?_⟩, ?_⟩
  · exact ⟨h.tells.title, h.tells.description, h.tells.background, h.tells.scenarios⟩
  · exact ⟨Nat.succ_pos _, hscenarios⟩
  · exact fun _ => hbackground
  · exact h.sectioned
  · simp [WrittenFile.tokens, hscenarios, hbackground, List.replicate_succ']

theorem IsReadFrom.addDescription (h : draft.IsReadFrom file) (hpart : draft.part = .feature)
    (line : Text) :
    ({ draft with feature := { draft.feature with
        description := draft.feature.description ++ [line] } } : Draft).Extends
      file [.line .other] := by
  obtain ⟨hlines, hbackground, hscenarios⟩ := h.endsIn_of hpart
  refine ⟨{ file with description := file.description ++ [line] }, ⟨?_, ?_, ?_, ?_⟩, ?_⟩
  · refine ⟨h.tells.title, ?_, h.tells.background, h.tells.scenarios⟩
    rw [← h.tells.description]
  · rw [hpart]
    exact ⟨hlines, hbackground, hscenarios⟩
  · exact h.background
  · exact h.sectioned
  · simp [WrittenFile.tokens, hlines, hbackground, hscenarios]

theorem docString_of_changeStep {absent : Fault} {change : Step → Except Fault Step}
    (h : draft.changeStep absent change = .ok after) : after.docString = draft.docString := by
  unfold Draft.changeStep at h
  split at h
  · obtain ⟨steps, -, h⟩ := bind_eq_ok_iff.1 h
    cases h
    rfl
  · obtain ⟨scenarios, -, h⟩ := bind_eq_ok_iff.1 h
    cases h
    rfl
  · cases h

theorem docString_of_addRow {cells : List Text} (h : draft.addRow cells = .ok after) :
    after.docString = draft.docString := by
  unfold Draft.addRow at h
  split at h
  · obtain ⟨scenarios, -, h⟩ := bind_eq_ok_iff.1 h
    cases h
    rfl
  · exact docString_of_changeStep h
  · exact docString_of_changeStep h
  · cases h

theorem docString_of_addStep {step : Step} (h : draft.addStep step = .ok after) :
    after.docString = draft.docString := by
  unfold Draft.addStep at h
  split at h
  · cases h
    rfl
  · obtain ⟨scenarios, -, h⟩ := bind_eq_ok_iff.1 h
    cases h
    rfl
  · cases h
  · cases h
  · cases h

/-- A line adds its tokens to the file. -/
def Adds (draft after : Draft) (file : WrittenFile) (written : Text) : Prop :=
  ∃ tokens, after.Extends file tokens ∧ ∀ rest, Token.read draft.openText (written :: rest) =
    (Token.read after.openText rest).map (tokens ++ ·)

theorem IsReadFrom.addLine {number : Nat} {written : Text} {line : Line}
    (h : draft.IsReadFrom file) (hopen : draft.docString = none)
    (hline : Line.ofText written = line)
    (hafter : draft.addLine number (Text.trim written) line = .ok after) :
    draft.Adds after file written := by
  unfold Adds
  rw [openText, hopen, Option.map_none]
  cases line with
  | ignored =>
    cases hafter
    refine ⟨[], h.extends_nil rfl rfl, ?_⟩
    simp [Token.read, hline, openText, hopen]
  | tags words =>
    obtain ⟨names, -, hafter⟩ := bind_eq_ok_iff.1 hafter
    cases hafter
    refine ⟨[], h.extends_nil rfl rfl, ?_⟩
    simp [Token.read, hline, openText, hopen]
  | feature title => cases hafter
  | background =>
    simp only [Draft.addLine] at hafter
    split at hafter
    · next hnone =>
      cases hafter
      refine ⟨_, h.addBackground hnone, ?_⟩
      simp [Token.read, hline, openText, hopen]
    · cases hafter
  | outline title =>
    cases hafter
    refine ⟨_, h.beginScenario number title (by simp), ?_⟩
    simp [Token.read, hline, openText, hopen, Draft.beginScenario, Scenario.heading]
  | scenario title =>
    cases hafter
    refine ⟨_, h.beginScenario number title (by simp), ?_⟩
    simp [Token.read, hline, openText, hopen, Draft.beginScenario, Scenario.heading]
  | examples =>
    simp only [Draft.addLine] at hafter
    split at hafter
    · next houtline =>
      cases hafter
      rw [Bool.and_eq_true] at houtline
      refine ⟨_, h.addExamples houtline.1, ?_⟩
      simp [Token.read, hline, openText, hopen]
    · cases hafter
  | row cells =>
    cases cells with
    | none => cases hafter
    | some cells =>
      refine ⟨_, h.addRow (Line.ne_nil_of_ofText_eq_row hline) hafter, ?_⟩
      simp [Token.read, hline, openText, docString_of_addRow hafter, hopen]
  | docString indent =>
    cases hafter
    refine ⟨[], h.extends_nil rfl rfl, ?_⟩
    simp [Token.read, hline, openText]
  | step keyword text =>
    refine ⟨_, h.addStep hafter, ?_⟩
    simp [Token.read, hline, openText, docString_of_addStep hafter, hopen, Step.tokens]
  | other =>
    simp only [Draft.addLine] at hafter
    split at hafter
    · next hpart =>
      cases hafter
      refine ⟨_, h.addDescription hpart _, ?_⟩
      simp [Token.read, hline, openText, hopen]
    · cases hafter

theorem IsReadFrom.read {number : Nat} {written : Text} (h : draft.IsReadFrom file)
    (hafter : draft.read number written = .ok after) : draft.Adds after file written := by
  have hpart : draft.part ≠ .start := fun hstart => h.endsIn_of hstart
  unfold Draft.read at hafter
  cases hopen : draft.docString with
  | none =>
    simp only [hopen, if_neg hpart] at hafter
    exact h.addLine hopen rfl (mapError_eq_ok_iff.1 hafter)
  | some opened =>
    simp only [hopen] at hafter
    unfold Adds
    rw [openText, hopen, Option.map_some]
    split at hafter
    · next hmark =>
      have hclosed := mapError_eq_ok_iff.1 hafter
      have hsame : ({ draft with docString := none } : Draft).IsReadFrom file :=
        ⟨h.tells, h.endsIn, h.background, h.sectioned⟩
      refine ⟨_, hsame.changeStep (fun _ _ => Step.tokens_addDocString) hclosed, ?_⟩
      simp [Token.read, hmark, openText, docString_of_changeStep hclosed]
    · next hinner =>
      cases hafter
      refine ⟨[], h.extends_nil rfl rfl, ?_⟩
      simp [Token.read, hinner, openText]

theorem IsReadFrom.readAll {number : Nat} {lines : List Text} (h : draft.IsReadFrom file)
    (hafter : draft.readAll number lines = .ok after) (hclosed : after.docString = none) :
    ∃ longer tokens, after.IsReadFrom longer ∧ Token.read draft.openText lines = some tokens ∧
      longer.tokens = file.tokens ++ tokens := by
  -- The file goes on with every line, and what it has more are the tokens of that line.
  induction lines generalizing draft file number with
  | nil =>
    cases hafter
    exact ⟨file, [], h, by simp [openText, hclosed, Token.read], by simp⟩
  | cons written rest ih =>
    obtain ⟨next, hnext, hafter⟩ := bind_eq_ok_iff.1 hafter
    obtain ⟨tokens, ⟨longer, hlonger, htokens⟩, hread⟩ := h.read hnext
    obtain ⟨last, others, hlast, hothers, heq⟩ := ih hlonger hafter
    refine ⟨last, tokens ++ others, hlast, ?_, ?_⟩
    · rw [hread, hothers]
      rfl
    · rw [heq, htokens, List.append_assoc]

theorem exists_isReadFrom {number : Nat} {lines : List Text}
    (hafter : draft.readAll number lines = .ok after) (hstart : draft.part = .start)
    (hopen : draft.docString = none) (hempty : draft.feature = {})
    (hclosed : after.docString = none) (hpart : after.part ≠ .start) :
    ∃ file, after.IsReadFrom file ∧ Token.read none lines = some file.tokens := by
  -- Up to the feature line there are no tokens, and from it on the file grows.
  induction lines generalizing draft number with
  | nil =>
    cases hafter
    exact absurd hstart hpart
  | cons written rest ih =>
    obtain ⟨next, hnext, hafter⟩ := bind_eq_ok_iff.1 hafter
    simp only [Draft.read, hopen, hstart, if_true] at hnext
    have hadded := mapError_eq_ok_iff.1 hnext
    cases hline : Line.ofText written with
    | ignored =>
      rw [hline] at hadded
      cases hadded
      simpa [Token.read, hline] using ih hafter hstart hopen hempty
    | tags words =>
      rw [hline] at hadded
      obtain ⟨names, -, hadded⟩ := bind_eq_ok_iff.1 hadded
      cases hadded
      simpa [Token.read, hline] using ih hafter hstart hopen hempty
    | feature title =>
      rw [hline] at hadded
      cases hadded
      have hfirst : ({ draft with
          feature := { draft.feature with title, tags := draft.tags }, part := .feature,
          tags := [] } : Draft).IsReadFrom { title } := by
        refine ⟨⟨rfl, ?_, ?_, ?_⟩, ⟨rfl, rfl, rfl⟩, fun _ => rfl, by simp⟩ <;> simp [hempty]
      obtain ⟨file, tokens, hfile, htokens, heq⟩ := hfirst.readAll hafter hclosed
      refine ⟨file, hfile, ?_⟩
      simp only [openText, hopen, Option.map_none] at htokens
      rw [heq]
      simp [Token.read, hline, htokens, WrittenFile.tokens]
    | _ =>
      rw [hline] at hadded
      cases hadded

end Feature.Draft

namespace Feature

variable {source : Text} {feature : Feature}

/-- The draft that an accepted file leaves behind. -/
theorem exists_draft_of_parse (h : parse source = .ok feature) :
    ∃ draft : Draft, ({} : Draft).readAll 1 (Text.lines source) = .ok draft ∧
      draft.docString = none ∧ draft.part ≠ .start ∧ draft.bareOutline? = none ∧
      draft.feature = feature := by
  obtain ⟨draft, hread, hfinish⟩ := bind_eq_ok_iff.1 h
  refine ⟨draft, hread, ?_⟩
  unfold Draft.finish at hfinish
  split at hfinish
  · cases hfinish
  · next hclosed =>
    split at hfinish
    · cases hfinish
    · next hpart =>
      split at hfinish
      · cases hfinish
      · next hbare => exact ⟨hclosed, hpart, hbare, Except.ok.inj hfinish⟩

/-- **The files that are accepted are those of the grammar, and those that have more than one
background line.** The tokens of an accepted file are written out from a tree of the grammar, from
which the feature is made, and the text is well-formed exactly if there is one background line in it
at most. -/
theorem parse_grammar (h : parse source = .ok feature) :
    ∃ file : WrittenFile, Token.ofSource source = some file.tokens ∧ file.IsRegular ∧
      file.Tells feature ∧ (IsWellFormed source ↔ file.backgroundLines ≤ 1) := by
  obtain ⟨draft, hread, hclosed, hpart, hbare, rfl⟩ := exists_draft_of_parse h
  obtain ⟨file, hfile, htokens⟩ := Draft.exists_isReadFrom hread rfl rfl rfl hclosed hpart
  have hsound := (Draft.isSound_empty.readAll hread).feature
  have hregular : file.IsRegular := by
    refine ⟨hfile.background, fun step hstep => ?_, fun written hwritten => ?_⟩
    · refine hsound.steps step (List.mem_append_left _ ?_)
      rwa [hfile.tells.background]
    · have hmem : written.scenario ∈ draft.feature.scenarios := by
        rw [hfile.tells.scenarios]
        exact List.mem_map_of_mem hwritten
      refine (hfile.sectioned written hwritten).isRegular (fun step hstep => ?_)
        fun examples hsome => ⟨hsound.examples _ hmem examples hsome, fun hnil => ?_⟩
      · exact hsound.steps step (List.mem_append_right _ (List.mem_flatMap.2 ⟨_, hmem, hstep⟩))
      · exact List.find?_eq_none.1 hbare _ hmem (by simp [hsome, hnil])
  refine ⟨file, htokens, hregular, hfile.tells, fun ⟨other, hother, _, hle⟩ => ?_, fun hle => ?_⟩
  -- Another tree of the same tokens has as many background lines.
  · have hsame : other.tokens = file.tokens := Option.some.inj (hother.symm.trans htokens)
    rwa [← file.count_background, ← hsame, other.count_background]
  · exact ⟨file, htokens, hregular, hle⟩

/-- A file with all that the grammar has. -/
def outlineSource : Text :=
  Text.join ['\n'] ["Feature: Cart", "  A shop.", "# prices", "Background:", "  Given prices",
    "  | name | price |", "  | cup  | 3     |", "", "@slow", "Scenario Outline: Buy <what>",
    "  When one writes", "  \"\"\"", "  # <what>", "  \"\"\"", "Examples:", "| what |", "| cup |",
    "Scenarios:", "| what |", "| pot |", "Scenario: Leave"]

theorem isWellFormed_outlineSource :
    (∃ feature, parse outlineSource = .ok feature) ∧ IsWellFormed outlineSource := by
  have hparsed : (parse outlineSource).toOption.isSome = true := by decide +kernel
  have hcount : (Token.ofSource outlineSource).map (·.count (.line .background)) = some 1 := by
    decide +kernel
  cases hparse : parse outlineSource with
  | error fault => simp [hparse, Except.toOption] at hparsed
  | ok feature =>
    obtain ⟨file, htokens, -, -, hiff⟩ := parse_grammar hparse
    simp only [htokens, Option.map_some, file.count_background, Option.some.injEq] at hcount
    exact ⟨⟨feature, rfl⟩, hiff.2 (Nat.le_of_eq hcount)⟩

/-- The second background line is taken because no background step stands before it. -/
theorem not_isWellFormed_of_repeated_background :
    parse "Feature: F\nBackground:\nBackground:\n" = .ok { title := "F" } ∧
      ¬IsWellFormed "Feature: F\nBackground:\nBackground:\n" := by
  refine ⟨by decide, ?_⟩
  rintro ⟨file, htokens, -, hle⟩
  have hcount : (Token.ofSource "Feature: F\nBackground:\nBackground:\n").map
      (·.count (.line .background)) = some 2 := by decide
  simp only [htokens, Option.map_some, file.count_background, Option.some.injEq] at hcount
  omega

end Feature

end FeatureFixtures
