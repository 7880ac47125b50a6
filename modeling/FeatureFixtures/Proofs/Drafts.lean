import FeatureFixtures.Feature.Parser
import FeatureFixtures.Proofs.Results
import Mathlib.Data.List.Basic
/-!
# What reading a feature file keeps

However far a file has been read, the tables of its steps are not empty and as wide everywhere as
their first row, the examples are as wide as their header, and the lines of its steps and scenarios
come in the order of the file. Every line keeps this, so it holds of the feature that is read in the
end, whose outlines moreover have examples.
-/

namespace FeatureFixtures

theorem changeLast_append_singleton {α ε : Type} (absent : ε) (change : α → Except ε α)
    (before : List α) (x : α) :
    changeLast absent change (before ++ [x]) = (change x).map (before ++ [·]) := by
  induction before with
  | nil => rfl
  | cons first rest ih =>
    obtain ⟨next, others, hrest⟩ := List.exists_cons_of_ne_nil (List.concat_ne_nil x rest)
    rw [List.cons_append, hrest, changeLast, ← hrest, ih]
    cases change x <;> rfl

theorem changeLast_eq_ok_iff {α ε : Type} {absent : ε} {change : α → Except ε α} {xs ys : List α} :
    changeLast absent change xs = .ok ys ↔
      ∃ before x y, xs = before ++ [x] ∧ change x = .ok y ∧ ys = before ++ [y] := by
  constructor
  · intro h
    rcases List.eq_nil_or_concat xs with rfl | ⟨before, x, rfl⟩
    · cases h
    · rw [List.concat_eq_append, changeLast_append_singleton] at h
      cases hchange : change x with
      | error fault =>
        rw [hchange] at h
        cases h
      | ok y =>
        rw [hchange] at h
        cases h
        exact ⟨before, x, y, List.concat_eq_append, hchange, rfl⟩
  · rintro ⟨before, x, y, rfl, hchange, rfl⟩
    rw [changeLast_append_singleton, hchange]
    rfl

theorem changeLast_eq_error_iff {α ε : Type} {absent fault : ε} {change : α → Except ε α}
    {xs : List α} :
    changeLast absent change xs = .error fault ↔
      (xs = [] ∧ absent = fault) ∨ ∃ before x, xs = before ++ [x] ∧ change x = .error fault := by
  rcases List.eq_nil_or_concat xs with rfl | ⟨before, x, rfl⟩
  · simp [changeLast]
  · rw [List.concat_eq_append, changeLast_append_singleton]
    cases hchange : change x <;> simp [Except.map, hchange]

theorem changeLast_concat {α ε : Type} (absent : ε) {change : α → Except ε α} {x y : α}
    (h : change x = .ok y) (before : List α) :
    changeLast absent change (before ++ [x]) = .ok (before ++ [y]) :=
  changeLast_eq_ok_iff.2 ⟨before, x, y, rfl, h, rfl⟩

/-- The rows of a table: there is one, and all have the same number of cells, which is not zero. -/
structure IsTable (rows : List (List Text)) : Prop where
  ne_nil : rows ≠ []
  width : ∃ width, 0 < width ∧ ∀ row ∈ rows, row.length = width

/-- A step that carries a table if it carries rows. -/
def Step.IsRegular (step : Step) : Prop :=
  ∀ rows, step.argument = some (.table rows) → IsTable rows

/-- Examples as wide as their header. -/
structure Examples.IsRegular (examples : Examples) : Prop where
  rows_eq_nil : examples.header = [] → examples.rows = []
  width : ∀ row ∈ examples.rows, row.length = examples.header.length

/-- The line of a scenario and those of its steps. -/
def Scenario.lineNumbers (scenario : Scenario) : List Nat :=
  scenario.line :: scenario.steps.map Step.line

namespace Feature

/-- The steps of the background and then those of the scenarios. -/
def allSteps (feature : Feature) : List Step :=
  feature.background ++ feature.scenarios.flatMap Scenario.steps

/-- The lines of the background steps and then, scenario by scenario, its own and those of its
steps. -/
def lineNumbers (feature : Feature) : List Nat :=
  feature.background.map Step.line ++ feature.scenarios.flatMap Scenario.lineNumbers

/-- What holds of a feature as far as it was read, up to some line. -/
structure IsSound (feature : Feature) (count : Nat) : Prop where
  steps : ∀ step ∈ feature.allSteps, step.IsRegular
  examples : ∀ scenario ∈ feature.scenarios, ∀ examples, scenario.examples = some examples →
    examples.IsRegular
  ordered : feature.lineNumbers.Pairwise (· < ·)
  bounded : ∀ n ∈ feature.lineNumbers, 1 ≤ n ∧ n ≤ count

end Feature

/-! ### Rows and texts of steps, rows of examples -/

theorem Step.IsRegular.addRow {step after : Step} {cells : List Text} (h : step.IsRegular)
    (hcells : cells ≠ []) (hadd : step.addRow cells = .ok after) :
    after.IsRegular ∧ after.line = step.line := by
  unfold Step.addRow at hadd
  split at hadd
  · cases hadd
    refine ⟨?_, rfl⟩
    rintro rows ⟨⟩
    exact ⟨by simp, cells.length, List.length_pos_iff.2 hcells, by simp⟩
  · cases hadd
  · next rows hrows =>
    obtain ⟨hne, width, hpos, hwidth⟩ := h rows hrows
    dsimp only at hadd
    split at hadd
    · cases hadd
    · next heq =>
      cases hadd
      refine ⟨?_, rfl⟩
      rintro _ ⟨⟩
      have hfirst : (rows.headD []).length = width := by
        cases rows with
        | nil => exact absurd rfl hne
        | cons first rest => exact hwidth first List.mem_cons_self
      refine ⟨by simp, width, hpos, fun row hrow => ?_⟩
      rcases List.mem_append.1 hrow with hold | hnew
      · exact hwidth row hold
      · rw [List.mem_singleton.1 hnew, Decidable.not_not.1 heq, hfirst]

theorem Step.isRegular_of_addDocString {step after : Step} {text : Text}
    (hadd : step.addDocString text = .ok after) : after.IsRegular ∧ after.line = step.line := by
  unfold Step.addDocString at hadd
  split at hadd <;> cases hadd
  exact ⟨by rintro rows ⟨⟩, rfl⟩

theorem Examples.IsRegular.addRow {examples after : Examples} {cells : List Text}
    (h : examples.IsRegular) (hcells : cells ≠ []) (hadd : examples.addRow cells = .ok after) :
    after.IsRegular := by
  unfold Examples.addRow at hadd
  split at hadd
  · next hheader =>
    cases hadd
    have hrows := h.rows_eq_nil (List.isEmpty_iff.1 hheader)
    exact ⟨fun hnil => absurd hnil hcells, by simp [hrows]⟩
  · next hheader =>
    split at hadd
    · cases hadd
      exact h
    · split at hadd
      · cases hadd
      · next hwidth =>
        cases hadd
        refine ⟨fun hnil => absurd (List.isEmpty_iff.2 hnil) hheader, fun row hrow => ?_⟩
        rcases List.mem_append.1 hrow with hold | hnew
        · exact h.width row hold
        · rw [List.mem_singleton.1 hnew]
          exact Decidable.not_not.1 hwidth

theorem Line.cells?_ne_nil {line : Text} {cells : List Text} (h : cells? line = some cells) :
    cells ≠ [] := by
  unfold cells? at h
  split at h
  · split at h
    · cases h
      simp [List.splitOn_ne_nil]
    · cases h
  · cases h

theorem Line.ne_nil_of_ofText_eq_row {line : Text} {cells : List Text}
    (h : ofText line = .row (some cells)) : cells ≠ [] := by
  unfold ofText ofTrimmed at h
  repeat' split at h
  all_goals first
    | cases h
    | exact cells?_ne_nil (Line.row.inj h)

/-! ### Steps of reading -/

namespace Feature

variable {feature : Feature} {count number : Nat}

theorem IsSound.mono (h : feature.IsSound count) (hle : count ≤ number) : feature.IsSound number :=
  ⟨h.steps, h.examples, h.ordered, fun n hn =>
    ⟨(h.bounded n hn).1, Nat.le_trans (h.bounded n hn).2 hle⟩⟩

/-- A feature that has the same lines and nothing but regular steps and examples is sound, too. -/
theorem IsSound.of_lineNumbers_eq {after : Feature} (h : feature.IsSound count)
    (hlines : after.lineNumbers = feature.lineNumbers)
    (hsteps : ∀ step ∈ after.allSteps, step.IsRegular)
    (hexamples : ∀ scenario ∈ after.scenarios, ∀ examples, scenario.examples = some examples →
      examples.IsRegular) : after.IsSound count :=
  ⟨hsteps, hexamples, hlines ▸ h.ordered, hlines ▸ h.bounded⟩

/-- The next line may be that of another step or scenario at the end. -/
theorem IsSound.of_lineNumbers_append {after : Feature} (h : feature.IsSound count)
    (hlines : after.lineNumbers = feature.lineNumbers ++ [count + 1])
    (hsteps : ∀ step ∈ after.allSteps, step.IsRegular)
    (hexamples : ∀ scenario ∈ after.scenarios, ∀ examples, scenario.examples = some examples →
      examples.IsRegular) : after.IsSound (count + 1) where
  steps := hsteps
  examples := hexamples
  ordered := by
    rw [hlines]
    refine List.pairwise_append.2 ⟨h.ordered, List.pairwise_singleton _ _, ?_⟩
    intro n hn m hm
    rw [List.mem_singleton.1 hm]
    exact Nat.lt_succ_of_le (h.bounded n hn).2
  bounded := by
    intro n hn
    rw [hlines] at hn
    rcases List.mem_append.1 hn with hold | hnew
    · exact ⟨(h.bounded n hold).1, Nat.le_succ_of_le (h.bounded n hold).2⟩
    · rw [List.mem_singleton.1 hnew]
      exact ⟨Nat.le_add_left 1 count, Nat.le_refl _⟩

theorem IsSound.forall_steps_of_last {before : List Scenario} {x y : Scenario}
    (h : feature.IsSound count) (hscenarios : feature.scenarios = before ++ [x])
    (hsteps : ∀ step ∈ y.steps, step ∈ x.steps ∨ step.IsRegular) :
    ∀ step ∈ allSteps { feature with scenarios := before ++ [y] }, step.IsRegular := by
  intro step hstep
  have hold := h.steps step
  simp only [allSteps, hscenarios, List.mem_append, List.mem_flatMap, List.mem_singleton]
    at hold hstep
  rcases hstep with hbackground | ⟨scenario, hmem | rfl, hstep⟩
  · exact hold (.inl hbackground)
  · exact hold (.inr ⟨scenario, .inl hmem, hstep⟩)
  · rcases hsteps step hstep with hmem | hregular
    · exact hold (.inr ⟨x, .inr rfl, hmem⟩)
    · exact hregular

theorem IsSound.forall_examples_of_last {before : List Scenario} {x y : Scenario}
    (h : feature.IsSound count) (hscenarios : feature.scenarios = before ++ [x])
    (hexamples : y.examples = x.examples ∨
      ∀ examples, y.examples = some examples → examples.IsRegular) :
    ∀ scenario ∈ before ++ [y], ∀ examples, scenario.examples = some examples →
      examples.IsRegular := by
  have hold := h.examples
  rw [hscenarios] at hold
  intro scenario hscenario
  rcases List.mem_append.1 hscenario with hmem | hnew
  · exact hold scenario (List.mem_append_left _ hmem)
  · rw [List.mem_singleton.1 hnew]
    rcases hexamples with heq | hregular
    · rw [heq]
      exact hold x (List.mem_append_right _ (List.mem_singleton.2 rfl))
    · exact hregular

end Feature

namespace Feature.Draft

variable {draft after : Draft} {count : Nat}

/-- What holds of a draft up to some line: there is no scenario before the background ends. -/
structure IsSound (draft : Draft) (count : Nat) : Prop where
  feature : draft.feature.IsSound count
  background : draft.part = .background → draft.feature.scenarios = []

theorem IsSound.changeStep {absent : Fault} {change : Step → Except Fault Step}
    (h : draft.IsSound count)
    (hchange : ∀ step after, step.IsRegular → change step = .ok after →
      after.IsRegular ∧ after.line = step.line)
    (hafter : draft.changeStep absent change = .ok after) : after.IsSound count := by
  unfold Draft.changeStep at hafter
  split at hafter
  · next hpart =>
    obtain ⟨steps, hsteps, hafter⟩ := bind_eq_ok_iff.1 hafter
    obtain ⟨before, x, y, hbackground, hxy, rfl⟩ := changeLast_eq_ok_iff.1 hsteps
    cases hafter
    have hregular := h.feature.steps
    simp only [allSteps, hbackground, List.mem_append, List.mem_singleton] at hregular
    obtain ⟨hy, hline⟩ := hchange x y (hregular x (.inl (.inr rfl))) hxy
    refine ⟨h.feature.of_lineNumbers_eq ?_ ?_ h.feature.examples, h.background⟩
    · simp [lineNumbers, hbackground, hline]
    · simp only [allSteps, List.mem_append, List.mem_singleton]
      rintro step ((hmem | rfl) | hmem)
      · exact hregular step (.inl (.inl hmem))
      · exact hy
      · exact hregular step (.inr hmem)
  · next hpart =>
    obtain ⟨scenarios, hscenarios, hafter⟩ := bind_eq_ok_iff.1 hafter
    obtain ⟨before, x, y, hfeature, hxy, rfl⟩ := changeLast_eq_ok_iff.1 hscenarios
    obtain ⟨steps, hsteps, hy⟩ := bind_eq_ok_iff.1 hxy
    obtain ⟨first, step, changed, hx, hstep, rfl⟩ := changeLast_eq_ok_iff.1 hsteps
    cases hafter
    cases hy
    have hregular := h.feature.steps step (by simp [allSteps, hfeature, hx])
    obtain ⟨hchanged, hline⟩ := hchange step changed hregular hstep
    refine ⟨h.feature.of_lineNumbers_eq ?_ (h.feature.forall_steps_of_last hfeature ?_)
      (h.feature.forall_examples_of_last hfeature (.inl rfl)), by simp [hpart]⟩
    · simp [lineNumbers, Scenario.lineNumbers, hfeature, hx, hline]
    · simp only [hx, List.mem_append, List.mem_singleton]
      rintro other (hmem | rfl)
      · exact .inl (.inl hmem)
      · exact .inr hchanged
  · cases hafter

theorem IsSound.beginScenario (h : draft.IsSound count) (title : Text) {examples : Option Examples}
    (hexamples : ∀ some', examples = some some' → some'.IsRegular) :
    (draft.beginScenario (count + 1) title examples).IsSound (count + 1) := by
  refine ⟨h.feature.of_lineNumbers_append ?_ ?_ ?_, by simp [Draft.beginScenario]⟩
  · simp [Draft.beginScenario, lineNumbers, Scenario.lineNumbers]
  · simpa [Draft.beginScenario, allSteps] using h.feature.steps
  · intro scenario hscenario
    rcases List.mem_append.1 hscenario with hmem | hnew
    · exact h.feature.examples scenario hmem
    · rw [List.mem_singleton.1 hnew]
      exact hexamples

theorem IsSound.addRow {cells : List Text} (h : draft.IsSound count) (hcells : cells ≠ [])
    (hafter : draft.addRow cells = .ok after) : after.IsSound count := by
  unfold Draft.addRow at hafter
  split at hafter
  · next hpart =>
    obtain ⟨scenarios, hscenarios, hafter⟩ := bind_eq_ok_iff.1 hafter
    obtain ⟨before, x, y, hfeature, hxy, rfl⟩ := changeLast_eq_ok_iff.1 hscenarios
    cases hafter
    split at hxy
    · next examples hx =>
      obtain ⟨changed, hchanged, hy⟩ := bind_eq_ok_iff.1 hxy
      cases hy
      have hregular := h.feature.examples x (by simp [hfeature]) examples hx
      refine ⟨h.feature.of_lineNumbers_eq ?_
        (h.feature.forall_steps_of_last hfeature fun step hstep => .inl hstep)
        (h.feature.forall_examples_of_last hfeature (.inr ?_)), by simp [hpart]⟩
      · simp [lineNumbers, Scenario.lineNumbers, hfeature]
      · rintro _ ⟨⟩
        exact hregular.addRow hcells hchanged
    · cases hxy
  · exact h.changeStep (fun step after hstep => hstep.addRow hcells) hafter
  · exact h.changeStep (fun step after hstep => hstep.addRow hcells) hafter
  · cases hafter

theorem IsSound.addStep {step : Step} (h : draft.IsSound count) (hline : step.line = count + 1)
    (hargument : step.argument = none) (hafter : draft.addStep step = .ok after) :
    after.IsSound (count + 1) := by
  have hstep : step.IsRegular := by simp [Step.IsRegular, hargument]
  unfold Draft.addStep at hafter
  split at hafter
  · next hpart =>
    cases hafter
    have hnone := h.background hpart
    refine ⟨h.feature.of_lineNumbers_append ?_ ?_ h.feature.examples, h.background⟩
    · simp [lineNumbers, hnone, hline]
    · have hold := h.feature.steps
      simp only [allSteps, List.mem_append, List.mem_singleton] at hold ⊢
      rintro other ((hmem | rfl) | hmem)
      · exact hold other (.inl hmem)
      · exact hstep
      · exact hold other (.inr hmem)
  · next hpart =>
    obtain ⟨scenarios, hscenarios, hafter⟩ := bind_eq_ok_iff.1 hafter
    obtain ⟨before, x, y, hfeature, hxy, rfl⟩ := changeLast_eq_ok_iff.1 hscenarios
    cases hafter
    cases hxy
    refine ⟨h.feature.of_lineNumbers_append ?_ (h.feature.forall_steps_of_last hfeature ?_)
      (h.feature.forall_examples_of_last hfeature (.inl rfl)), by simp [hpart]⟩
    · simp [lineNumbers, Scenario.lineNumbers, hfeature, hline]
    · simp only [List.mem_append, List.mem_singleton]
      rintro other (hmem | rfl)
      · exact .inl hmem
      · exact .inr hstep
  · cases hafter
  · cases hafter
  · cases hafter

theorem IsSound.addLine {written : Text} {line : Line} (h : draft.IsSound count)
    (hcells : ∀ cells, line = .row (some cells) → cells ≠ [])
    (hafter : draft.addLine (count + 1) written line = .ok after) : after.IsSound (count + 1) := by
  have hsame := h.feature.mono (Nat.le_succ count)
  cases line with
  | ignored =>
    cases hafter
    exact ⟨hsame, h.background⟩
  | tags words =>
    obtain ⟨names, -, hafter⟩ := bind_eq_ok_iff.1 hafter
    cases hafter
    exact ⟨hsame, h.background⟩
  | feature title => cases hafter
  | background =>
    simp only [Draft.addLine] at hafter
    split at hafter
    · next hnone =>
      cases hafter
      simp only [Bool.and_eq_true, List.isEmpty_iff] at hnone
      exact ⟨hsame, fun _ => hnone.1⟩
    · cases hafter
  | outline title =>
    cases hafter
    refine h.beginScenario title ?_
    rintro _ ⟨⟩
    exact ⟨fun _ => rfl, by simp⟩
  | scenario title =>
    cases hafter
    exact h.beginScenario title (by simp)
  | examples =>
    simp only [Draft.addLine] at hafter
    split at hafter
    · cases hafter
      exact ⟨hsame, by simp⟩
    · cases hafter
  | row cells =>
    cases cells with
    | none => cases hafter
    | some cells =>
      have hadded := h.addRow (hcells cells rfl) hafter
      exact ⟨hadded.feature.mono (Nat.le_succ count), hadded.background⟩
  | docString indent =>
    cases hafter
    exact ⟨hsame, h.background⟩
  | step keyword text => exact h.addStep rfl rfl hafter
  | other =>
    simp only [Draft.addLine] at hafter
    split at hafter
    · cases hafter
      exact ⟨⟨hsame.steps, hsame.examples, hsame.ordered, hsame.bounded⟩, h.background⟩
    · cases hafter

theorem IsSound.addFirstLine {written : Text} {line : Line} (h : draft.IsSound count)
    (hafter : draft.addFirstLine written line = .ok after) : after.IsSound (count + 1) := by
  have hsame := h.feature.mono (Nat.le_succ count)
  unfold Draft.addFirstLine at hafter
  split at hafter
  · cases hafter
    exact ⟨hsame, h.background⟩
  · obtain ⟨names, -, hafter⟩ := bind_eq_ok_iff.1 hafter
    cases hafter
    exact ⟨hsame, h.background⟩
  · cases hafter
    exact ⟨⟨hsame.steps, hsame.examples, hsame.ordered, hsame.bounded⟩, by simp⟩
  · cases hafter

theorem IsSound.read {line : Text} (h : draft.IsSound count)
    (hafter : draft.read (count + 1) line = .ok after) : after.IsSound (count + 1) := by
  have hsame := h.feature.mono (Nat.le_succ count)
  unfold Draft.read at hafter
  split at hafter
  · split at hafter
    · have hclosed := mapError_eq_ok_iff.1 hafter
      have hopen : ({ draft with docString := none } : Draft).IsSound (count + 1) :=
        ⟨hsame, h.background⟩
      exact hopen.changeStep (fun _ _ _ => Step.isRegular_of_addDocString) hclosed
    · cases hafter
      exact ⟨hsame, h.background⟩
  · have hadded := mapError_eq_ok_iff.1 hafter
    split at hadded
    · exact h.addFirstLine hadded
    · exact h.addLine (fun cells => Line.ne_nil_of_ofText_eq_row) hadded

theorem IsSound.readAll {lines : List Text} (h : draft.IsSound count)
    (hafter : draft.readAll (count + 1) lines = .ok after) :
    after.IsSound (count + lines.length) := by
  induction lines generalizing draft count with
  | nil =>
    cases hafter
    exact h
  | cons line rest ih =>
    obtain ⟨next, hnext, hafter⟩ := bind_eq_ok_iff.1 hafter
    have hrest := ih (h.read hnext) hafter
    rwa [List.length_cons, Nat.add_comm rest.length, ← Nat.add_assoc]

theorem isSound_empty : ({} : Draft).IsSound 0 where
  feature := ⟨by simp [allSteps], by simp, .nil, by simp [lineNumbers]⟩
  background := by simp

end Feature.Draft

end FeatureFixtures
