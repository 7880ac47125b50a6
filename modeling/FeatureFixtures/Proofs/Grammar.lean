import FeatureFixtures.Proofs.Drafts
/-!
# The grammar of feature files

Without blank lines, comments and tags a feature file is a row of tokens, and the grammar says which
rows are allowed: those that are written out from a tree. A file has a feature line and description
lines, then a background section, which may be missing, and then scenarios. A scenario has steps,
and an outline has sections of examples below them. A step has a table or a text of several lines
below it, or nothing. All of these may be missing, but an outline has an example. The number of
background lines is told apart, because there may be one at most.
-/

namespace FeatureFixtures

/-- A line that counts, or a text of several lines between its marks. -/
inductive Token where
  | line (form : Line)
  | docString (text : Text)
deriving DecidableEq, Repr, Inhabited

namespace Token

/-- The tokens of lines, which are none if a text of several lines is not closed. Of a text that is
open already, the width of its indentation and its lines so far are given, the last one first. -/
def read : Option (Nat × List Text) → List Text → Option (List Token)
  | none, [] => some []
  | some _, [] => none
  | none, written :: rest =>
    match Line.ofText written with
    | .ignored | .tags _ => read none rest
    | .docString indent => read (some (indent, [])) rest
    | form => (read none rest).map (line form :: ·)
  | some (indent, content), written :: rest =>
    if Line.isDocStringMark written then
      (read none rest).map (docString (Text.join ['\n'] content.reverse) :: ·)
    else read (some (indent, Line.unindent indent written :: content)) rest

def ofSource (source : Text) : Option (List Token) :=
  read none (Text.lines source)

def ofRows (rows : List (List Text)) : List Token :=
  rows.map fun cells => line (.row (some cells))

def ofSection (rows : List (List Text)) : List Token :=
  line .examples :: ofRows rows

end Token

/-- The tokens of a step: its line, and then the rows of its table or its text, if it has one. -/
def Step.tokens (step : Step) : List Token :=
  .line (.step step.keyword step.text) ::
    match step.argument with
    | none => []
    | some (.table rows) => Token.ofRows rows
    | some (.docString text) => [.docString text]

def Scenario.heading (scenario : Scenario) : Line :=
  match scenario.examples with
  | none => .scenario scenario.title
  | some _ => .outline scenario.title

/-- The examples that rows make: the first row names the placeholders, and those that repeat it are
not examples. -/
def Examples.ofRows : List (List Text) → Examples
  | [] => {}
  | header :: rows => { header, rows := rows.filter (· ≠ header) }

/-- A scenario with the rows of each section of examples that is written below it. -/
structure WrittenScenario where
  scenario : Scenario
  sections : List (List (List Text)) := []

namespace WrittenScenario

def tokens (written : WrittenScenario) : List Token :=
  .line written.scenario.heading ::
    (written.scenario.steps.flatMap Step.tokens ++ written.sections.flatMap Token.ofSection)

/-- A scenario whose examples, if it is an outline, are those of its sections. -/
structure IsSectioned (written : WrittenScenario) : Prop where
  plain : written.scenario.examples = none → written.sections = []
  outline : ∀ examples, written.scenario.examples = some examples →
    examples = .ofRows written.sections.flatten
  rows : ∀ row ∈ written.sections.flatten, row ≠ []

/-- A scenario of the grammar. It is plain and has no sections, or it is an outline and has one at
least. The rows of its sections are equally wide, and some of them are examples. -/
structure IsRegular (written : WrittenScenario) : Prop extends written.IsSectioned where
  steps : ∀ step ∈ written.scenario.steps, step.IsRegular
  sections : written.scenario.isOutline → written.sections ≠ []
  examples : ∀ examples, written.scenario.examples = some examples → examples.rows ≠ []
  width : ∃ width, ∀ row ∈ written.sections.flatten, row.length = width

end WrittenScenario

/-- What is written in a feature file, but for blank lines, comments and tags. -/
structure WrittenFile where
  title : Text
  description : List Text := []
  /-- The number of background lines, all of which stand before the background steps. -/
  backgroundLines : Nat := 0
  background : List Step := []
  scenarios : List WrittenScenario := []

namespace WrittenFile

def tokens (file : WrittenFile) : List Token :=
  .line (.feature file.title) :: (file.description.map (fun _ => .line .other) ++
    (List.replicate file.backgroundLines (.line .background) ++
      (file.background.flatMap Step.tokens ++ file.scenarios.flatMap WrittenScenario.tokens)))

/-- A file of the grammar, if it has one background line at most. -/
structure IsRegular (file : WrittenFile) : Prop where
  background : file.backgroundLines = 0 → file.background = []
  steps : ∀ step ∈ file.background, step.IsRegular
  scenarios : ∀ written ∈ file.scenarios, written.IsRegular

/-- The feature that is written in a file. -/
structure Tells (file : WrittenFile) (feature : Feature) : Prop where
  title : feature.title = file.title
  description : feature.description = file.description
  background : feature.background = file.background
  scenarios : feature.scenarios = file.scenarios.map WrittenScenario.scenario

end WrittenFile

/-- A text of the grammar: its tokens are those of a file with one background line at most. -/
def Feature.IsWellFormed (source : Text) : Prop :=
  ∃ file : WrittenFile, Token.ofSource source = some file.tokens ∧ file.IsRegular ∧
    file.backgroundLines ≤ 1

/-! ### Tokens -/

theorem Step.background_notMem_tokens (step : Step) : Token.line .background ∉ step.tokens := by
  unfold tokens
  split <;> simp [Token.ofRows]

theorem WrittenScenario.background_notMem_tokens (written : WrittenScenario) :
    Token.line .background ∉ written.tokens := by
  simp only [tokens, Scenario.heading, List.mem_cons, List.mem_append, List.mem_flatMap, not_or,
    not_exists, not_and]
  refine ⟨by split <;> simp, fun step _ => step.background_notMem_tokens, fun rows _ => ?_⟩
  simp [Token.ofSection, Token.ofRows]

theorem WrittenFile.count_background (file : WrittenFile) :
    file.tokens.count (.line .background) = file.backgroundLines := by
  have hsteps : (file.background.flatMap Step.tokens).count (.line .background) = 0 :=
    List.count_eq_zero.2 fun hmem =>
      have ⟨step, _, hstep⟩ := List.mem_flatMap.1 hmem
      step.background_notMem_tokens hstep
  have hscenarios : (file.scenarios.flatMap WrittenScenario.tokens).count (.line .background) = 0 :=
    List.count_eq_zero.2 fun hmem =>
      have ⟨written, _, hwritten⟩ := List.mem_flatMap.1 hmem
      written.background_notMem_tokens hwritten
  simp [tokens, hsteps, hscenarios, List.count_replicate]

theorem Step.tokens_addRow {step after : Step} {cells : List Text}
    (h : step.addRow cells = .ok after) :
    after.tokens = step.tokens ++ [.line (.row (some cells))] := by
  unfold addRow at h
  split at h
  · next hargument =>
    cases h
    simp [tokens, hargument, Token.ofRows]
  · cases h
  · next rows hargument =>
    dsimp only at h
    split at h
    · cases h
    · cases h
      simp [tokens, hargument, Token.ofRows]

theorem Step.tokens_addDocString {step after : Step} {text : Text}
    (h : step.addDocString text = .ok after) : after.tokens = step.tokens ++ [.docString text] := by
  unfold addDocString at h
  split at h
  · next hargument =>
    cases h
    simp [tokens, hargument]
  · cases h

/-! ### Rows of examples -/

namespace Examples

theorem addRow_ofRows {rows : List (List Text)} {cells : List Text} {after : Examples}
    (hrows : ∀ row ∈ rows, row ≠ []) (h : (ofRows rows).addRow cells = .ok after) :
    after = ofRows (rows ++ [cells]) := by
  cases rows with
  | nil =>
    cases h
    rfl
  | cons header rest =>
    unfold addRow at h
    split at h
    · next hempty => exact absurd (List.isEmpty_iff.1 hempty) (hrows header List.mem_cons_self)
    · split at h
      · next hsame =>
        cases h
        have hrepeated : cells = header := hsame
        simp [ofRows, hrepeated]
      · next hnew =>
        have hother : cells ≠ header := hnew
        split at h
        · cases h
        · cases h
          simp [ofRows, hother]

theorem IsRegular.width_ofRows {rows : List (List Text)} (h : (ofRows rows).IsRegular) :
    ∀ row ∈ rows, row.length = (ofRows rows).header.length := by
  cases rows with
  | nil => simp
  | cons header rest =>
    intro row hrow
    by_cases hsame : row = header
    · rw [hsame]
      rfl
    · refine h.width row (List.mem_filter.2 ⟨?_, by simpa using hsame⟩)
      exact (List.mem_cons.1 hrow).resolve_left hsame

end Examples

theorem WrittenScenario.IsSectioned.isRegular {written : WrittenScenario}
    (h : written.IsSectioned) (hsteps : ∀ step ∈ written.scenario.steps, step.IsRegular)
    (hexamples : ∀ examples, written.scenario.examples = some examples →
      examples.IsRegular ∧ examples.rows ≠ []) : written.IsRegular := by
  have hsections (examples) (hsome : written.scenario.examples = some examples) :
      written.sections ≠ [] := by
    intro hnil
    refine (hexamples examples hsome).2 ?_
    rw [h.outline examples hsome, hnil]
    rfl
  refine { h with steps := hsteps, sections := ?_, examples := fun _ hsome => (hexamples _ hsome).2,
                  width := ?_ }
  · intro houtline
    obtain ⟨examples, hsome⟩ := Option.isSome_iff_exists.1 houtline
    exact hsections examples hsome
  · cases hsome : written.scenario.examples with
    | none => exact ⟨0, by simp [h.plain hsome]⟩
    | some examples =>
      have hregular := (hexamples examples hsome).1
      rw [h.outline examples hsome] at hregular
      exact ⟨_, hregular.width_ofRows⟩

end FeatureFixtures
