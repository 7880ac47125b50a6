import FeatureFixtures.Proofs.Drafts
import FeatureFixtures.Proofs.Layouts
/-!
# Printed features

A feature is printed as its tags, its title, the lines of its description, the background and the
scenarios with their steps, tables, texts and examples. It can be printed if every text in it can
stand where it is printed: then its pieces are found again in a file.
-/

namespace FeatureFixtures

/-! ### The pieces of a feature -/

/-- The line of tags, if there are any. -/
def tagPieces (tags : List Text) : List Piece :=
  if tags.isEmpty then [] else [.line (tagLine tags)]

/-- The rows of a table. -/
def rowPieces (rows : List (List Text)) : List Piece :=
  rows.map (.line <| rowLine ·)

/-- What a step carries. -/
def StepArgument.pieces : StepArgument → List Piece
  | table rows => rowPieces rows
  | docString text => [.docString (text.splitOn '\n')]

/-- A step with what it carries. -/
def Step.pieces (step : Step) : List Piece :=
  .line (stepLine step.keyword step.text) ::
    (step.argument.map StepArgument.pieces).getD []

/-- The examples of an outline. -/
def Examples.pieces (examples : Examples) : List Piece :=
  .line "Examples:" :: rowPieces (examples.header :: examples.rows)

/-- The keyword of a scenario. -/
def Scenario.keyword (scenario : Scenario) : Text :=
  if scenario.isOutline then "Scenario Outline" else "Scenario"

/-- A scenario with its tags, steps and examples. -/
def Scenario.pieces (scenario : Scenario) : List Piece :=
  tagPieces scenario.tags ++ .line (titleLine scenario.keyword scenario.title) ::
    (scenario.steps.flatMap Step.pieces ++ (scenario.examples.map Examples.pieces).getD [])

/-- The background, if there is one. -/
def backgroundPieces (steps : List Step) : List Piece :=
  if steps.isEmpty then [] else .line "Background:" :: steps.flatMap Step.pieces

/-- A whole feature. -/
def Feature.pieces (feature : Feature) : List Piece :=
  tagPieces feature.tags ++ .line (titleLine "Feature" feature.title) ::
    (feature.description.map .line ++
      (backgroundPieces feature.background ++ feature.scenarios.flatMap Scenario.pieces))

/-! ### The lines of steps and scenarios -/

/-- Steps on the lines on which their pieces begin. -/
def Step.placeAll : List Nat → List Step → List Step
  | _, [] => []
  | numbers, step :: rest =>
    { step with line := numbers.headD 0 } :: placeAll (numbers.drop step.pieces.length) rest

/-- A scenario and its steps on the lines on which their pieces begin. -/
def Scenario.place (numbers : List Nat) (scenario : Scenario) : Scenario :=
  let numbers := numbers.drop (tagPieces scenario.tags).length
  { scenario with line := numbers.headD 0, steps := Step.placeAll numbers.tail scenario.steps }

/-- Scenarios on the lines on which their pieces begin. -/
def Scenario.placeAll : List Nat → List Scenario → List Scenario
  | _, [] => []
  | numbers, scenario :: rest =>
    scenario.place numbers :: placeAll (numbers.drop scenario.pieces.length) rest

/-- A feature whose steps and scenarios are on the lines on which their pieces begin. -/
def Feature.place (numbers : List Nat) (feature : Feature) : Feature :=
  let numbers := numbers.drop ((tagPieces feature.tags).length + 1 + feature.description.length)
  { feature with
    background := Step.placeAll numbers.tail feature.background
    scenarios := Scenario.placeAll
      (numbers.drop (backgroundPieces feature.background).length) feature.scenarios }

/-! ### Features that can be printed -/

/-- A word that can stand behind the sign of a tag. -/
def IsTag (tag : Text) : Prop :=
  tag ≠ [] ∧ ∀ c ∈ tag, isBlank c = false

instance (tag : Text) : Decidable (IsTag tag) :=
  decidable_of_iff (tag ≠ [] ∧ tag.all (!isBlank ·) = true) (by simp [IsTag])

/-- A row of cells that do not hold the bar between them. -/
def IsRow (cells : List Text) : Prop :=
  cells ≠ [] ∧ ∀ cell ∈ cells, Text.IsInline cell ∧ '|' ∉ cell

instance (cells : List Text) : Decidable (IsRow cells) :=
  inferInstanceAs (Decidable (cells ≠ [] ∧ ∀ cell ∈ cells, Text.IsInline cell ∧ '|' ∉ cell))

theorem IsRow.ofText {cells : List Text} (h : IsRow cells) :
    Line.ofText (rowLine cells) = .row (some cells) :=
  Line.ofText_rowLine h.1 fun cell hcell => ⟨(h.2 cell hcell).1.trim_eq, (h.2 cell hcell).2⟩

def StepArgument.IsPrintable : StepArgument → Prop
  | table rows => IsTable rows ∧ ∀ row ∈ rows, IsRow row
  | docString text => ∀ line ∈ text.splitOn '\n',
      Line.isDocStringMark line = false ∧ Text.endsWith line '\r' = false

structure Step.IsPrintable (step : Step) : Prop where
  text : Text.IsInline step.text
  argument : ∀ argument ∈ step.argument, argument.IsPrintable

structure Examples.IsPrintable (examples : Examples) : Prop where
  header : IsRow examples.header
  rows_ne_nil : examples.rows ≠ []
  rows : ∀ row ∈ examples.rows,
    IsRow row ∧ row.length = examples.header.length ∧ row ≠ examples.header

structure Scenario.IsPrintable (scenario : Scenario) : Prop where
  title : Text.IsInline scenario.title
  tags : ∀ tag ∈ scenario.tags, IsTag tag
  steps : ∀ step ∈ scenario.steps, step.IsPrintable
  examples : ∀ examples ∈ scenario.examples, examples.IsPrintable

/-- A feature whose texts can stand where they are printed. A line of the description is none of the
other forms of lines. -/
structure Feature.IsPrintable (feature : Feature) : Prop where
  title : Text.IsInline feature.title
  description : ∀ line ∈ feature.description, Text.IsInline line ∧ Line.ofText line = .other
  tags : ∀ tag ∈ feature.tags, IsTag tag
  background : ∀ step ∈ feature.background, step.IsPrintable
  scenarios : ∀ scenario ∈ feature.scenarios, scenario.IsPrintable

/-! ### The pieces are found again -/

theorem isLine_titleLine {keyword title : Text} (hkeyword : Text.IsLine keyword)
    (h : Text.IsInline title) : Text.IsLine (titleLine keyword title) := by
  have hsplit : titleLine keyword title = keyword ++ ([':', ' '] ++ title) := rfl
  rw [hsplit]
  exact hkeyword.append (Text.IsLine.append (by decide) h.isLine)

theorem isLine_stepLine (keyword : StepKeyword) {text : Text} (h : Text.IsInline text) :
    Text.IsLine (stepLine keyword text) := by
  have hsplit : stepLine keyword text = keyword.spelling ++ ([' '] ++ text) := rfl
  have hkeyword : Text.IsLine keyword.spelling := by cases keyword <;> decide
  rw [hsplit]
  exact hkeyword.append (Text.IsLine.append (by decide) h.isLine)

theorem isLine_tagLine {tags : List Text} (h : ∀ tag ∈ tags, IsTag tag) :
    Text.IsLine (tagLine tags) := by
  refine Text.isLine_join (by decide) (List.forall_mem_map.2 fun tag htag => ?_)
  exact Text.isLine_of_forall_visible (List.forall_mem_cons.2 ⟨by decide, (h tag htag).2⟩)

theorem IsRow.isLine {cells : List Text} (h : IsRow cells) : Text.IsLine (rowLine cells) := by
  have hcells : Text.IsLine (Text.join ['|'] (cells.map fun cell => ' ' :: cell ++ [' '])) := by
    refine Text.isLine_join (by decide) (List.forall_mem_map.2 fun cell hcell => ?_)
    have hcell := (h.2 cell hcell).1.isLine
    exact (Text.IsLine.append (s := [' ']) (by decide) hcell).append (by decide)
  have hsplit : rowLine cells =
      ['|'] ++ (Text.join ['|'] (cells.map fun cell => ' ' :: cell ++ [' ']) ++ ['|']) := rfl
  rw [hsplit]
  exact Text.IsLine.append (by decide) (hcells.append (by decide))

theorem isSound_tagPieces {tags : List Text} (h : ∀ tag ∈ tags, IsTag tag) :
    ∀ piece ∈ tagPieces tags, piece.IsSound := by
  unfold tagPieces
  split
  · simp
  · next hne =>
    have hform := Line.ofText_tags (by simpa using hne) fun tag htag => (h tag htag).2
    rw [List.forall_mem_singleton]
    exact Piece.isSound_line (isLine_tagLine h) hform (by simp)

theorem isSound_rowPieces {rows : List (List Text)} (h : ∀ row ∈ rows, IsRow row) :
    ∀ piece ∈ rowPieces rows, piece.IsSound :=
  List.forall_mem_map.2 fun row hrow =>
    Piece.isSound_line (h row hrow).isLine (h row hrow).ofText (by simp)

theorem StepArgument.IsPrintable.isSound_pieces {argument : StepArgument}
    (h : argument.IsPrintable) : ∀ piece ∈ argument.pieces, piece.IsSound := by
  cases argument with
  | table rows => exact isSound_rowPieces h.2
  | docString text =>
    rw [StepArgument.pieces, List.forall_mem_singleton]
    intro line hline
    have hnewline : '\n' ∉ line := fun hmem => (Text.mem_and_ne_of_mem_splitOn hline _ hmem).2 rfl
    exact ⟨⟨hnewline, (h line hline).2⟩, (h line hline).1⟩

theorem Step.IsPrintable.isSound_pieces {step : Step} (h : step.IsPrintable) :
    ∀ piece ∈ step.pieces, piece.IsSound := by
  refine List.forall_mem_cons.2 ⟨Piece.isSound_line (isLine_stepLine step.keyword h.text)
    (Line.ofText_stepLine step.keyword h.text.trim_eq) (by simp), ?_⟩
  cases hargument : step.argument with
  | none => simp
  | some argument => exact (h.argument _ hargument).isSound_pieces

theorem isSound_steps {steps : List Step} (h : ∀ step ∈ steps, step.IsPrintable) :
    ∀ piece ∈ steps.flatMap Step.pieces, piece.IsSound := by
  intro piece hpiece
  obtain ⟨step, hstep, hpiece⟩ := List.mem_flatMap.1 hpiece
  exact (h step hstep).isSound_pieces piece hpiece

theorem Scenario.IsPrintable.isSound_pieces {scenario : Scenario} (h : scenario.IsPrintable) :
    ∀ piece ∈ scenario.pieces, piece.IsSound := by
  have htitle : (Piece.line (titleLine scenario.keyword scenario.title)).IsSound := by
    have htrim := h.title.trim_eq
    unfold Scenario.keyword
    split
    · exact Piece.isSound_line (isLine_titleLine (by decide) h.title) (Line.ofText_outline htrim)
        (by simp)
    · exact Piece.isSound_line (isLine_titleLine (by decide) h.title) (Line.ofText_scenario htrim)
        (by simp)
  have hexamples : ∀ piece ∈ (scenario.examples.map Examples.pieces).getD [], piece.IsSound := by
    cases hexamples : scenario.examples with
    | none => simp
    | some examples =>
      have hprintable := h.examples _ hexamples
      refine List.forall_mem_cons.2
        ⟨Piece.isSound_line (by decide) Line.ofText_examples (by simp), ?_⟩
      exact isSound_rowPieces (List.forall_mem_cons.2
        ⟨hprintable.header, fun row hrow => (hprintable.rows row hrow).1⟩)
  rw [Scenario.pieces, List.forall_mem_append, List.forall_mem_cons, List.forall_mem_append]
  exact ⟨isSound_tagPieces h.tags, htitle, isSound_steps h.steps, hexamples⟩

theorem Feature.IsPrintable.isSound_pieces {feature : Feature} (h : feature.IsPrintable) :
    ∀ piece ∈ feature.pieces, piece.IsSound := by
  have htitle : (Piece.line (titleLine "Feature" feature.title)).IsSound :=
    Piece.isSound_line (isLine_titleLine (by decide) h.title)
      (Line.ofText_feature h.title.trim_eq) (by simp)
  have hdescription : ∀ piece ∈ feature.description.map Piece.line, piece.IsSound :=
    List.forall_mem_map.2 fun line hline =>
      Piece.isSound_line (h.description line hline).1.isLine (h.description line hline).2 (by simp)
  have hbackground : ∀ piece ∈ backgroundPieces feature.background, piece.IsSound := by
    unfold backgroundPieces
    split
    · simp
    · exact List.forall_mem_cons.2
        ⟨Piece.isSound_line (by decide) Line.ofText_background (by simp),
          isSound_steps h.background⟩
  rw [Feature.pieces, List.forall_mem_append, List.forall_mem_cons, List.forall_mem_append,
    List.forall_mem_append]
  refine ⟨isSound_tagPieces h.tags, htitle, hdescription, hbackground, fun piece hpiece => ?_⟩
  obtain ⟨scenario, hscenario, hpiece⟩ := List.mem_flatMap.1 hpiece
  exact (h.scenarios scenario hscenario).isSound_pieces piece hpiece

end FeatureFixtures
