import FeatureFixtures.Proofs.Drafts
/-!
# Other numbers for the lines

The reader puts the number of a line into what it makes of the line, and never looks at such a
number again. So the same lines under other numbers make the same feature with the other numbers in
it, or are refused with the same fault on the line that has the other number.
-/

namespace FeatureFixtures

def Step.renumber (f : Nat → Nat) (step : Step) : Step :=
  { step with line := f step.line }

def Scenario.renumber (f : Nat → Nat) (scenario : Scenario) : Scenario :=
  { scenario with line := f scenario.line, steps := scenario.steps.map (Step.renumber f) }

namespace Feature

/-- A feature with other numbers for the lines of its steps and scenarios. -/
def renumber (f : Nat → Nat) (feature : Feature) : Feature :=
  { feature with
    background := feature.background.map (Step.renumber f)
    scenarios := feature.scenarios.map (Scenario.renumber f) }

def ParseError.renumber (f : Nat → Nat) (refused : ParseError) : ParseError :=
  { refused with line := refused.line.map f }

def OpenDocString.renumber (f : Nat → Nat) (opened : OpenDocString) : OpenDocString :=
  { opened with line := f opened.line }

def Draft.renumber (f : Nat → Nat) (draft : Draft) : Draft :=
  { draft with
    feature := draft.feature.renumber f
    docString := draft.docString.map (OpenDocString.renumber f) }

end Feature

variable {f : Nat → Nat}

theorem changeLast_map {α ε : Type} {absent : ε} {change other : α → Except ε α} {g : α → α}
    (h : ∀ x, other (g x) = (change x).map g) (xs : List α) :
    changeLast absent other (xs.map g) = (changeLast absent change xs).map (List.map g) := by
  rcases List.eq_nil_or_concat xs with rfl | ⟨before, x, rfl⟩
  · rfl
  · rw [List.concat_eq_append, List.map_append, List.map_singleton, changeLast_append_singleton,
      changeLast_append_singleton, h]
    cases change x <;> simp [Except.map]

theorem Step.addRow_renumber (step : Step) (cells : List Text) :
    (step.renumber f).addRow cells = (step.addRow cells).map (Step.renumber f) := by
  unfold addRow renumber
  rcases step.argument with _ | (rows | text)
  · rfl
  · dsimp only
    split <;> rfl
  · rfl

theorem Step.addDocString_renumber (step : Step) (text : Text) :
    (step.renumber f).addDocString text = (step.addDocString text).map (Step.renumber f) := by
  unfold addDocString renumber
  cases step.argument <;> rfl

namespace Feature.Draft

variable (draft : Draft)

@[simp] theorem part_renumber : (draft.renumber f).part = draft.part := rfl

@[simp] theorem scenarios_renumber :
    (draft.renumber f).feature.scenarios = draft.feature.scenarios.map (Scenario.renumber f) :=
  rfl

/-- Changes the scenario read last. -/
def changeScenario (absent : Fault) (change : Scenario → Except Fault Scenario) :
    Except Fault Draft := do
  let scenarios ← changeLast absent change draft.feature.scenarios
  return { draft with feature := { draft.feature with scenarios } }

theorem changeScenario_renumber {absent : Fault} {change other : Scenario → Except Fault Scenario}
    (h : ∀ scenario, other (scenario.renumber f) = (change scenario).map (Scenario.renumber f)) :
    (draft.renumber f).changeScenario absent other =
      (draft.changeScenario absent change).map (renumber f) := by
  unfold changeScenario
  rw [scenarios_renumber, changeLast_map h]
  cases changeLast absent change draft.feature.scenarios <;> rfl

theorem changeStep_renumber {absent : Fault} {change : Step → Except Fault Step}
    (h : ∀ step, change (step.renumber f) = (change step).map (Step.renumber f)) :
    (draft.renumber f).changeStep absent change =
      (draft.changeStep absent change).map (renumber f) := by
  have hsteps (steps : List Step) : changeLast absent change (steps.map (Step.renumber f)) =
      (changeLast absent change steps).map (List.map (Step.renumber f)) :=
    changeLast_map h steps
  unfold changeStep
  rw [part_renumber]
  split
  · simp only [renumber, Feature.renumber, hsteps]
    cases changeLast absent change draft.feature.background <;> rfl
  · apply changeScenario_renumber draft
    intro scenario
    simp only [Scenario.renumber, hsteps]
    cases changeLast absent change scenario.steps <;> rfl
  · rfl

theorem addRow_renumber (cells : List Text) :
    (draft.renumber f).addRow cells = (draft.addRow cells).map (renumber f) := by
  have hrow : (draft.renumber f).changeStep .rowWithoutStep (·.addRow cells) =
      (draft.changeStep .rowWithoutStep (·.addRow cells)).map (renumber f) :=
    draft.changeStep_renumber fun step => step.addRow_renumber cells
  unfold addRow
  rw [part_renumber]
  split
  · apply changeScenario_renumber draft
    intro scenario
    simp only [Scenario.renumber]
    cases scenario.examples with
    | none => rfl
    | some examples =>
      dsimp only
      cases examples.addRow cells <;> rfl
  · exact hrow
  · exact hrow
  · rfl

theorem addStep_renumber (step : Step) :
    (draft.renumber f).addStep (step.renumber f) = (draft.addStep step).map (renumber f) := by
  unfold addStep
  rw [part_renumber]
  split
  · simp [renumber, Feature.renumber, Except.map]
  · apply changeScenario_renumber draft
    intro scenario
    simp [Scenario.renumber, Except.map]
  · rfl
  · rfl
  · rfl

theorem beginScenario_renumber (number : Nat) (title : Text) (examples : Option Examples) :
    (draft.renumber f).beginScenario (f number) title examples =
      (draft.beginScenario number title examples).renumber f := by
  simp [beginScenario, renumber, Feature.renumber, Scenario.renumber]

@[simp] theorem inOutline_renumber : (draft.renumber f).inOutline = draft.inOutline := by
  simp only [inOutline, scenarios_renumber, List.getLast?_map, Option.any_map]
  rfl

theorem addLine_renumber (number : Nat) (written : Text) (line : Line) :
    (draft.renumber f).addLine (f number) written line =
      (draft.addLine number written line).map (renumber f) := by
  cases line with
  | ignored => rfl
  | tags words =>
    simp only [addLine]
    cases words.mapM tagName <;> rfl
  | feature title => rfl
  | background =>
    have hempty : ((draft.renumber f).feature.scenarios.isEmpty &&
        (draft.renumber f).feature.background.isEmpty) =
        (draft.feature.scenarios.isEmpty && draft.feature.background.isEmpty) := by
      simp [renumber, Feature.renumber]
    simp only [addLine, hempty, apply_ite (Except.map (renumber f))]
    rfl
  | outline title =>
    exact congrArg Except.ok (draft.beginScenario_renumber number title _)
  | scenario title =>
    exact congrArg Except.ok (draft.beginScenario_renumber number title _)
  | examples =>
    simp only [addLine, inOutline_renumber, part_renumber, apply_ite (Except.map (renumber f))]
    rfl
  | row cells =>
    cases cells with
    | none => rfl
    | some cells => exact draft.addRow_renumber cells
  | docString indent => rfl
  | step keyword text =>
    exact draft.addStep_renumber { keyword, text, argument := none, line := number }
  | other =>
    simp only [addLine, part_renumber, apply_ite (Except.map (renumber f))]
    rfl

theorem addFirstLine_renumber (written : Text) (line : Line) :
    (draft.renumber f).addFirstLine written line =
      (draft.addFirstLine written line).map (renumber f) := by
  cases line with
  | tags words =>
    simp only [addFirstLine]
    cases words.mapM tagName <;> rfl
  | _ => rfl

theorem closeDocString_renumber (content : List Text) :
    (draft.renumber f).closeDocString content =
      (draft.closeDocString content).map (renumber f) :=
  changeStep_renumber { draft with docString := none } fun step => step.addDocString_renumber _

theorem read_renumber (number : Nat) (line : Text) :
    (draft.renumber f).read (f number) line =
      ((draft.read number line).map (renumber f)).mapError (ParseError.renumber f) := by
  cases hopen : draft.docString with
  | some opened =>
    have hother : (draft.renumber f).docString = some (opened.renumber f) := by
      rw [renumber, hopen]
      rfl
    simp only [read, hopen, hother]
    split
    · change ((draft.renumber f).closeDocString opened.content).mapError _ = _
      rw [closeDocString_renumber]
      cases draft.closeDocString opened.content <;> rfl
    · rfl
  | none =>
    have hother : (draft.renumber f).docString = none := by
      rw [renumber, hopen]
      rfl
    simp only [read, hopen, hother, part_renumber, addLine_renumber, addFirstLine_renumber]
    split
    · cases draft.addFirstLine (Text.trim line) (Line.ofText line) <;> rfl
    · cases draft.addLine number (Text.trim line) (Line.ofText line) <;> rfl

theorem readAll_renumber {number other : Nat} (h : ∀ i, f (number + i) = other + i)
    (lines : List Text) :
    (draft.renumber f).readAll other lines =
      ((draft.readAll number lines).map (renumber f)).mapError (ParseError.renumber f) := by
  induction lines generalizing draft number other with
  | nil => rfl
  | cons line rest ih =>
    have hfirst : f number = other := h 0
    have hrest : ∀ i, f (number + 1 + i) = other + 1 + i := by
      intro i
      rw [Nat.add_assoc, h, Nat.add_assoc]
    rw [readAll, readAll, ← hfirst, read_renumber, hfirst]
    cases draft.read number line with
    | error refused => rfl
    | ok next => exact ih next hrest

theorem finish_renumber :
    (draft.renumber f).finish =
      (draft.finish.map (Feature.renumber f)).mapError (ParseError.renumber f) := by
  have hbare : (draft.renumber f).bareOutline? = draft.bareOutline?.map (Scenario.renumber f) :=
    List.find?_map ..
  cases hopen : draft.docString with
  | some opened => simp only [finish, renumber, hopen]; rfl
  | none =>
    have hother : (draft.renumber f).docString = none := by
      rw [renumber, hopen]
      rfl
    simp only [finish, hopen, hother, part_renumber, hbare]
    split
    · rfl
    · cases draft.bareOutline? <;> rfl

end Feature.Draft

/-! ### Numbers that stay -/

theorem map_step_renumber_eq_self {steps : List Step} (h : ∀ n ∈ steps.map Step.line, f n = n) :
    steps.map (Step.renumber f) = steps := by
  rw [List.forall_mem_map] at h
  calc steps.map (Step.renumber f)
      = steps.map id := List.map_congr_left fun step hstep => by simp [Step.renumber, h step hstep]
    _ = steps := List.map_id steps

theorem Scenario.renumber_eq_self {scenario : Scenario}
    (h : ∀ n ∈ scenario.lineNumbers, f n = n) : scenario.renumber f = scenario := by
  obtain ⟨hline, hsteps⟩ := List.forall_mem_cons.1 h
  rw [renumber, hline, map_step_renumber_eq_self hsteps]

namespace Feature

theorem renumber_eq_self {feature : Feature} (h : ∀ n ∈ feature.lineNumbers, f n = n) :
    feature.renumber f = feature := by
  obtain ⟨hbackground, hscenarios⟩ := List.forall_mem_append.1 h
  have hmap : feature.scenarios.map (Scenario.renumber f) = feature.scenarios.map id :=
    List.map_congr_left fun scenario hscenario =>
      Scenario.renumber_eq_self fun n hn =>
        hscenarios n (List.mem_flatMap.2 ⟨scenario, hscenario, hn⟩)
  rw [renumber, map_step_renumber_eq_self hbackground, hmap, List.map_id]

theorem Draft.renumber_eq_self {draft : Draft} (h : ∀ n ∈ draft.feature.lineNumbers, f n = n)
    (hclosed : draft.docString = none) : draft.renumber f = draft := by
  rw [renumber, Feature.renumber_eq_self h, hclosed, Option.map_none, ← hclosed]

theorem ParseError.renumber_eq_self {refused : ParseError} (h : ∀ n ∈ refused.line, f n = n) :
    refused.renumber f = refused := by
  obtain ⟨line, fault⟩ := refused
  cases line with
  | none => rfl
  | some n => simp [renumber, h n rfl]

end Feature

end FeatureFixtures
