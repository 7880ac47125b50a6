import FeatureFixtures.Proofs.Filling
import FeatureFixtures.Proofs.Methods
/-!
# The columns of examples

A placeholder that is made by the values of other columns is replaced or not, depending on the order
of the columns. Where none is made in a text of the outline, an example is the outline with all its
values filled in at once, and the code of the outline is that of the outline with its columns in any
other order.
-/

namespace FeatureFixtures

variable {f g : Text → Text}

/-! ### The texts of an outline -/

/-- A step's argument with its texts changed, but for the first row of a table. -/
def StepArgument.mapTexts (f : Text → Text) : StepArgument → StepArgument
  | .docString text => .docString (f text)
  | .table [] => .table []
  | .table (header :: rows) => .table (header :: rows.map (·.map f))

def Step.mapTexts (f : Text → Text) (step : Step) : Step :=
  { step with text := f step.text, argument := step.argument.map (·.mapTexts f) }

/-- A scenario with its texts changed, as a plain scenario. -/
def Scenario.mapTexts (f : Text → Text) (scenario : Scenario) : Scenario :=
  { scenario with
    title := f scenario.title
    steps := scenario.steps.map (·.mapTexts f)
    examples := none }

/-- The texts of an argument in which placeholders are replaced. -/
def StepArgument.texts : StepArgument → List Text
  | .docString text => [text]
  | .table rows => rows.tail.flatten

def Step.texts (step : Step) : List Text :=
  step.text :: step.argument.toList.flatMap StepArgument.texts

/-- The texts of a scenario in which placeholders are replaced. -/
def Scenario.texts (scenario : Scenario) : List Text :=
  scenario.title :: scenario.steps.flatMap Step.texts

/-- A scenario with the values filled in at once, as a plain scenario. -/
def Scenario.fillAtOnce (scenario : Scenario) (values : Values) : Scenario :=
  scenario.mapTexts values.fillAtOnce

theorem StepArgument.mapTexts_eq_iff (argument : StepArgument) :
    argument.mapTexts f = argument.mapTexts g ↔ ∀ t ∈ argument.texts, f t = g t := by
  cases argument with
  | docString text => simp [mapTexts, texts]
  | table rows =>
    cases rows with
    | nil => simp [mapTexts, texts]
    | cons header rows =>
      simp only [mapTexts, texts, table.injEq, List.cons.injEq, true_and, List.map_inj_left,
        List.tail_cons, List.mem_flatten]
      exact ⟨fun h t ⟨row, hrow, ht⟩ => h row hrow t ht, fun h row hrow t ht => h t ⟨row, hrow, ht⟩⟩

theorem Step.mapTexts_eq_iff (step : Step) :
    step.mapTexts f = step.mapTexts g ↔ ∀ t ∈ step.texts, f t = g t := by
  cases hargument : step.argument with
  | none => simp [mapTexts, texts, hargument]
  | some argument =>
    simp [mapTexts, texts, hargument, argument.mapTexts_eq_iff]

theorem Scenario.mapTexts_eq_iff (scenario : Scenario) :
    scenario.mapTexts f = scenario.mapTexts g ↔ ∀ t ∈ scenario.texts, f t = g t := by
  simp only [mapTexts, texts, mk.injEq, List.map_inj_left, Step.mapTexts_eq_iff, true_and, and_true,
    List.forall_mem_cons, List.mem_flatMap]
  exact and_congr_right fun _ =>
    ⟨fun h t ⟨step, hstep, ht⟩ => h step hstep t ht, fun h step hstep t ht => h t ⟨step, hstep, ht⟩⟩

theorem StepArgument.fill_eq_mapTexts (values : Values) (argument : StepArgument) :
    argument.fill values = argument.mapTexts values.fill := by
  cases argument with
  | docString text => rfl
  | table rows => cases rows <;> rfl

theorem Scenario.fill_eq_mapTexts (values : Values) (scenario : Scenario) :
    scenario.fill values = scenario.mapTexts values.fill := by
  have hsteps : Step.fill values = Step.mapTexts values.fill := by
    funext step
    simp only [Step.fill, Step.mapTexts, StepArgument.fill_eq_mapTexts]
  rw [fill, mapTexts, hsteps]

/-! ### The columns of examples in any order -/

/-- With a value for every column, and columns of different names. -/
theorem Examples.areApart_of_mem_values {examples : Examples} (hnodup : examples.header.Nodup)
    (hapart : ∀ name ∈ examples.header, ∀ other ∈ examples.header, Apart name other)
    (hwidth : ∀ row ∈ examples.rows, row.length = examples.header.length) {values : Values}
    (hvalues : values ∈ examples.values) : values.AreApart := by
  obtain ⟨row, hrow, rfl⟩ := List.mem_map.1 hvalues
  have hnames : (examples.header.zip row).map Prod.fst = examples.header :=
    List.map_fst_zip (Nat.le_of_eq (hwidth row hrow).symm)
  have hname (column) (hcolumn : column ∈ examples.header.zip row) : column.1 ∈ examples.header :=
    hnames ▸ List.mem_map_of_mem hcolumn
  exact ⟨hnames.symm ▸ hnodup, fun column hcolumn other hother =>
    hapart column.1 (hname column hcolumn) other.1 (hname other hother)⟩

/-- Where no placeholder is made, columns in any order stand for the values filled in at once. -/
theorem Scenario.fill_of_perm {outline : Scenario} {values columns : Values}
    (h : values.AreApart) (hnone : ∀ t ∈ outline.texts, values.MakesNone t)
    (hperm : columns.Perm values) : outline.fill columns = outline.fillAtOnce values := by
  rw [fill_eq_mapTexts, fillAtOnce, mapTexts_eq_iff]
  intro t ht
  have hall : (columns ++ []).Perm values := by simpa using hperm
  rw [h.fill_of_makesNone (hnone t ht) hall]
  exact (h.perm hperm.symm).fillAtOnce_perm hperm t

theorem Scenario.fill_eq_fillAtOnce_iff {values : Values} (h : values.AreApart)
    (outline : Scenario) :
    (∀ chosen others : Values, (chosen ++ others).Perm values →
      outline.fill chosen = outline.fillAtOnce chosen) ↔
      ∀ t ∈ outline.texts, values.MakesNone t := by
  have htexts (chosen : Values) : outline.fill chosen = outline.fillAtOnce chosen ↔
      ∀ t ∈ outline.texts, chosen.fill t = chosen.fillAtOnce t := by
    rw [fill_eq_mapTexts, fillAtOnce, mapTexts_eq_iff]
  simp only [htexts, ← h.fill_eq_fillAtOnce_iff]
  exact ⟨fun hall t ht chosen others hperm => hall chosen others hperm t ht,
    fun hall chosen others hperm t ht => hall t ht chosen others hperm⟩

namespace Generator

/-- Of the scenarios, the code has the names of the tests and what the tests are of. -/
theorem emit_congr {scenarios others : List Scenario}
    (hnames : scenarios.flatMap Fixture.wantedNames = others.flatMap Fixture.wantedNames)
    (hinstances : scenarios.flatMap Scenario.instances = others.flatMap Scenario.instances)
    (feature : Feature) (folder : Text) (platform : Platform) :
    emit { feature with scenarios } folder platform =
      emit { feature with scenarios := others } folder platform := by
  unfold emit Fixture.ofFeature Fixture.testNames
  simp only [hnames, hinstances]

/-- **Examples filled in at once.** Let the columns of an outline have different names, whose
placeholders are apart. If and only if the values of a row make no placeholder in a text of the
outline, its columns are filled in at once, whichever are chosen and in whatever order. And if no
row makes one, the plain scenarios of the outline are those with the values filled in at once, and
the code of a feature is not changed if the outline's columns are put in another order. -/
theorem emit_columns {outline : Scenario} {examples : Examples}
    (hexamples : outline.examples = some examples) (hnodup : examples.header.Nodup)
    (hapart : ∀ name ∈ examples.header, ∀ other ∈ examples.header, Apart name other)
    (hwidth : ∀ row ∈ examples.rows, row.length = examples.header.length) :
    (∀ values ∈ examples.values,
      (∀ chosen others : Values, (chosen ++ others).Perm values →
        outline.fill chosen = outline.fillAtOnce chosen) ↔
      ∀ t ∈ outline.texts, values.MakesNone t) ∧
    ((∀ values ∈ examples.values, ∀ t ∈ outline.texts, values.MakesNone t) →
      outline.instances = examples.values.map outline.fillAtOnce ∧
      ∀ permuted : Examples, List.Forall₂ List.Perm examples.values permuted.values →
        ∀ (feature : Feature) (before after : List Scenario) (folder : Text) (platform : Platform),
          emit { feature with
            scenarios := before ++ { outline with examples := some permuted } :: after }
            folder platform =
          emit { feature with scenarios := before ++ outline :: after } folder platform) := by
  have hvalues (values) (hmem : values ∈ examples.values) : values.AreApart :=
    Examples.areApart_of_mem_values hnodup hapart hwidth hmem
  refine ⟨fun values hmem => Scenario.fill_eq_fillAtOnce_iff (hvalues values hmem) outline,
    fun hnone => ?_⟩
  have hinstances : outline.instances = examples.values.map outline.fillAtOnce := by
    rw [Scenario.instances, hexamples]
    exact List.map_congr_left fun values hmem =>
      Scenario.fill_of_perm (hvalues values hmem) (hnone values hmem) (List.Perm.refl values)
  refine ⟨hinstances, fun permuted hpermuted feature before after folder platform => ?_⟩
  have hrows : permuted.rows.length = examples.rows.length := by
    simpa [Examples.values] using hpermuted.length_eq.symm
  have hnames : Fixture.wantedNames { outline with examples := some permuted } =
      Fixture.wantedNames outline := by
    simp only [Fixture.wantedNames, hexamples, hrows]
  have hsame : Scenario.instances { outline with examples := some permuted } =
      outline.instances := by
    rw [hinstances, Scenario.instances, ← List.forall₂_eq_eq_eq, List.forall₂_map_left_iff,
      List.forall₂_map_right_iff]
    refine ((List.forall₂_and_left _ _).2 ⟨fun _ hmem => hmem, hpermuted⟩).flip.imp ?_
    rintro columns values ⟨hmem, hperm⟩
    exact Scenario.fill_of_perm (hvalues values hmem) (hnone values hmem) hperm.symm
  apply emit_congr
  · rw [List.flatMap_append, List.flatMap_append, List.flatMap_cons, List.flatMap_cons, hnames]
  · rw [List.flatMap_append, List.flatMap_append, List.flatMap_cons, List.flatMap_cons, hsame]

/-- A sum of two columns. -/
theorem emit_columns_sum :
    let step : Step :=
      { keyword := .given, text := "<a> plus <b>", argument := none, line := 3 }
    let outline : Scenario :=
      { title := "S", tags := [], steps := [step], line := 2
        examples := some { header := ["a", "b"], rows := [["1", "2"]] } }
    let permuted : Scenario :=
      { outline with examples := some { header := ["b", "a"], rows := [["2", "1"]] } }
    outline.instances =
      [{ outline with steps := [{ step with text := "1 plus 2" }], examples := none }] ∧
    emit { title := "F", scenarios := [permuted] } "" {} =
      emit { title := "F", scenarios := [outline] } "" {} := by
  intro step outline permuted
  have hangle : ∀ name ∈ (["a", "b"] : List Text), '<' ∉ name ∧ '>' ∉ name := by decide
  have hexamples : outline.examples = some { header := ["a", "b"], rows := [["1", "2"]] } := rfl
  have hcolumns := emit_columns hexamples (by decide)
    (fun name hname other hother => apart_of_notMem (hangle name hname) (hangle other hother))
    (by decide)
  obtain ⟨hinstances, hpermuted⟩ := hcolumns.2 (by decide)
  refine ⟨hinstances, hpermuted { header := ["b", "a"], rows := [["2", "1"]] } ?_
    { title := "F" } [] [] "" {}⟩
  exact .cons (List.Perm.swap _ _ _) .nil

/-- A value that is the placeholder of the next column. -/
theorem emit_columns_ne :
    let step : Step := { keyword := .given, text := "<a>", argument := none, line := 3 }
    let outline : Scenario :=
      { title := "S", tags := [], steps := [step], line := 2
        examples := some { header := ["a", "b"], rows := [["<b>", "1"]] } }
    let permuted : Scenario :=
      { outline with examples := some { header := ["b", "a"], rows := [["1", "<b>"]] } }
    Feature.parse ("Feature: F\nScenario Outline: S\n  Given <a>\nExamples:\n| a | b |\n" ++
      "| <b> | 1 |\n") = .ok { title := "F", scenarios := [outline] } ∧
    outline.fillAtOnce [("a", "<b>"), ("b", "1")] =
      { outline with steps := [{ step with text := "<b>" }], examples := none } ∧
    outline.instances =
      [{ outline with steps := [{ step with text := "1" }], examples := none }] ∧
    permuted.instances =
      [{ outline with steps := [{ step with text := "<b>" }], examples := none }] ∧
    (emit { title := "F", scenarios := [permuted] } "" {}).toOption ≠
      (emit { title := "F", scenarios := [outline] } "" {}).toOption := by
  decide +kernel

end Generator

end FeatureFixtures
