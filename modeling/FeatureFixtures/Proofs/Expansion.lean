import FeatureFixtures.Proofs.Literals
import FeatureFixtures.Proofs.Methods
/-!
# Rows of examples as plain scenarios

The method of a row of an outline is made as if the row's values stood in the title of a plain
scenario, in the texts of its steps, and in the tables of its steps below their first rows. The
first row of a table is left out, so a placeholder in the name of a column stays in the code. The
method is that of the scenario with the values in all places exactly if they change no such name.
-/

namespace FeatureFixtures

theorem exists_append_of_forall₂ {α β : Type} {R : α → β → Prop} {xs ys : List α} {zs : List β}
    (h : List.Forall₂ R (xs ++ ys) zs) :
    ∃ first rest, zs = first ++ rest ∧ List.Forall₂ R xs first ∧ List.Forall₂ R ys rest :=
  ⟨zs.take xs.length, zs.drop xs.length, (List.take_append_drop xs.length zs).symm,
    (List.forall₂_take_append zs xs ys h.flip).flip,
    (List.forall₂_drop_append zs xs ys h.flip).flip⟩

/-- A step's argument with the values in all places, the first row of a table included. -/
def StepArgument.expand (values : Values) : StepArgument → StepArgument
  | .docString text => .docString (values.fill text)
  | .table rows => .table (rows.map (·.map values.fill))

def Step.expand (values : Values) (step : Step) : Step :=
  { step with text := values.fill step.text, argument := step.argument.map (·.expand values) }

/-- A scenario with the values in all places, as a plain scenario. -/
def Scenario.expand (values : Values) (scenario : Scenario) : Scenario :=
  { scenario with
    title := values.fill scenario.title
    steps := scenario.steps.map (·.expand values)
    examples := none }

/-- The columns of a step's table are named in the code as if the values were filled in. -/
def Step.KeepsHeader (language : Language) (values : Values) (step : Step) : Prop :=
  ∀ header rows, step.argument = some (.table (header :: rows)) →
    ∀ name ∈ header, Literal.told language (values.fill name) = Literal.told language name

variable {values : Values} {language : Language}

/-! ### Code with a gap -/

/-- Code with one gap, in which a piece may stand. -/
def IsTemplate (f : Text → Text) : Prop :=
  ∃ before after : Text, ∀ piece, f piece = before ++ (piece ++ after)

namespace IsTemplate

theorem comp {f g : Text → Text} (hf : IsTemplate f) (hg : IsTemplate g) : IsTemplate (f ∘ g) := by
  obtain ⟨before, after, hf⟩ := hf
  obtain ⟨first, last, hg⟩ := hg
  exact ⟨before ++ first, last ++ after, fun piece => by simp [hf, hg]⟩

theorem append_right {f : Text → Text} (hf : IsTemplate f) (rest : Text) :
    IsTemplate fun piece => f piece ++ rest := by
  obtain ⟨before, after, hf⟩ := hf
  exact ⟨before, after ++ rest, fun piece => by simp [hf]⟩

theorem statement (language : Language) : IsTemplate (Dialect.statement language) := by
  cases language with
  | csharp =>
    refine ⟨List.replicate 12 ' ', ";\n", fun piece => ?_⟩
    simp [Dialect.statement, Dialect.line]
  | visualBasic =>
    refine ⟨List.replicate 12 ' ', "\n", fun piece => ?_⟩
    simp [Dialect.statement, Dialect.line]

theorem declaration (language : Language) (name type : Text) :
    IsTemplate (Dialect.declaration language name type) := by
  cases language with
  | csharp =>
    refine ⟨type ++ " " ++ name ++ " = ", [], fun piece => ?_⟩
    rw [List.append_nil]
    rfl
  | visualBasic =>
    refine ⟨"Dim " ++ name ++ " As " ++ type ++ " = ", [], fun piece => ?_⟩
    rw [List.append_nil]
    rfl

theorem newObject (language : Language) (type : Text) :
    IsTemplate fun argument => Dialect.newObject language type [argument] := by
  unfold Dialect.newObject
  cases language with
  | csharp =>
    refine ⟨"new " ++ type ++ "(", ")", fun argument => ?_⟩
    simp [Text.join]
  | visualBasic =>
    refine ⟨"New " ++ type ++ "(", ")", fun argument => ?_⟩
    simp [Text.join]

end IsTemplate

/-- The names of the columns stand in one place of the code of a call. -/
theorem Call.exists_code_table (language : Language) (kind keyword : StepKeyword) (text : Text)
    (line : Nat) (rows : List (List Text)) :
    ∃ template, IsTemplate template ∧ ∀ header,
      (Call.mk kind keyword text (.table ⟨line, header, rows⟩)).code language =
        template (Literal.ofTexts language header) := by
  let name := CallTable.variableName ⟨line, [], rows⟩
  have hdeclared := (IsTemplate.statement language).comp
    ((IsTemplate.declaration language name "Spekgen.Table").comp
      (IsTemplate.newObject language "Spekgen.Table"))
  let addRows := rows.flatMap fun row =>
    Dialect.statement language (name ++ ".AddRow(" ++ Literal.ofTexts language row ++ ")")
  let arguments := [Literal.ofText language text, Literal.nothing language, name,
    Literal.ofText language (keyword.spelling ++ [' '])]
  let run := Dialect.statement language
    ("testRunner." ++ kind.spelling ++ "(" ++ Text.join ", " arguments ++ ")")
  exact ⟨_, (hdeclared.append_right addRows).append_right run, fun header => rfl⟩

theorem Step.keepsHeader_iff {step : Step} {header : List Text} {rows : List (List Text)}
    (h : step.argument = some (.table (header :: rows))) :
    step.KeepsHeader language values ↔ header.map (Literal.told language) =
      (header.map values.fill).map (Literal.told language) := by
  rw [List.map_map, List.map_inj_left]
  constructor
  · exact fun hkeeps name hname => (hkeeps header rows h name hname).symm
  · rintro hsame _ _ hargument name hname
    rw [h] at hargument
    cases hargument
    exact (hsame name hname).symm

theorem Step.exists_call_expand (language : Language) {step : Step} {kind : StepKeyword}
    {made : Call} (h : (step.fill values).call kind = .ok made) :
    ∃ expanded, (step.expand values).call kind = .ok expanded ∧ ∀ s t : Text,
      made.code language ++ s = expanded.code language ++ t ↔
        step.KeepsHeader language values ∧ s = t := by
  -- Only for a table do the two ways of filling in differ, and only in its first row.
  rcases hstep : step.argument with _ | (_ | ⟨header, rows⟩) | text
  · have hsame : step.expand values = step.fill values := by simp [expand, fill, hstep]
    refine ⟨made, hsame ▸ h, fun s t => ?_⟩
    simp [KeepsHeader, hstep]
  · simp [call, callArgument, fill, hstep, StepArgument.fill, bind, Except.bind] at h
  · simp only [call, callArgument, fill, hstep, StepArgument.fill, Option.map_some, bind,
      Except.bind, pure, Except.pure, Except.ok.injEq] at h
    subst h
    refine ⟨⟨kind, step.keyword, values.fill step.text,
      .table ⟨step.line, header.map values.fill, rows.map (·.map values.fill)⟩⟩, ?_, fun s t => ?_⟩
    · simp [call, callArgument, expand, hstep, StepArgument.expand, bind, Except.bind, pure,
        Except.pure]
    · obtain ⟨template, ⟨before, after, htemplate⟩, hcode⟩ := Call.exists_code_table language kind
        step.keyword (values.fill step.text) step.line (rows.map (·.map values.fill))
      rw [hcode, hcode, htemplate, htemplate, keepsHeader_iff hstep]
      simp only [List.append_assoc, List.append_cancel_left_eq]
      constructor
      · intro heq
        obtain ⟨hheader, hrest⟩ := Literal.ofTexts_append_inj (by simp) heq
        exact ⟨hheader, List.append_cancel_left hrest⟩
      · rintro ⟨hheader, rfl⟩
        rw [Literal.ofTexts_congr hheader]
  · have hsame : step.expand values = step.fill values := by
      simp [expand, fill, hstep, StepArgument.expand, StepArgument.fill]
    refine ⟨made, hsame ▸ h, fun s t => ?_⟩
    simp [KeepsHeader, hstep]

theorem Call.exists_ofSteps_expand (language : Language) {steps : List Step}
    {previous : Option StepKeyword} {calls : List Call}
    (h : ofSteps previous (steps.map (·.fill values)) = .ok calls) :
    ∃ expanded, ofSteps previous (steps.map (·.expand values)) = .ok expanded ∧
      ∀ s t : Text, calls.flatMap (code language) ++ s = expanded.flatMap (code language) ++ t ↔
        (∀ step ∈ steps, step.KeepsHeader language values) ∧ s = t := by
  induction steps generalizing previous calls with
  | nil =>
    cases h
    exact ⟨[], rfl, by simp⟩
  | cons step rest ih =>
    obtain ⟨first, hfirst, h⟩ := bind_eq_ok_iff.1 h
    obtain ⟨others, hothers, h⟩ := bind_eq_ok_iff.1 h
    cases h
    obtain ⟨call, hcall, hsame⟩ := Step.exists_call_expand language hfirst
    obtain ⟨expanded, hexpanded, hrest⟩ := ih hothers
    refine ⟨call :: expanded,
      bind_eq_ok_iff.2 ⟨call, hcall, bind_eq_ok_iff.2 ⟨expanded, hexpanded, rfl⟩⟩, fun s t => ?_⟩
    rw [List.flatMap_cons, List.flatMap_cons, List.append_assoc, List.append_assoc, hsame, hrest,
      List.forall_mem_cons, and_assoc]

/-! ### Methods -/

theorem Fixture.testCode_eq_iff (platform : Platform) (hasBackground : Bool) (name title : Text)
    (tags : List Text) (calls others : List Call) :
    testCode platform hasBackground ⟨name, title, tags, calls⟩ =
        testCode platform hasBackground ⟨name, title, tags, others⟩ ↔
      calls.flatMap (Call.code platform.language) =
        others.flatMap (Call.code platform.language) := by
  simp only [testCode, List.append_assoc, List.append_cancel_left_eq, List.append_cancel_right_eq]

theorem Method.isTestOf_expand_iff {platform : Platform} {hasBackground : Bool}
    {scenario : Scenario} {method : Method}
    (h : method.IsTestOf platform hasBackground (scenario.fill values)) :
    method.IsTestOf platform hasBackground (scenario.expand values) ↔
      ∀ step ∈ scenario.steps, step.KeepsHeader platform.language values := by
  obtain ⟨test, htest, hcode⟩ := h
  obtain ⟨calls, hcalls, htest⟩ := bind_eq_ok_iff.1 htest
  cases htest
  obtain ⟨expanded, hexpanded, hsame⟩ :=
    Call.exists_ofSteps_expand platform.language hcalls
  have hmade : Fixture.testOf method.name (scenario.expand values) =
      .ok ⟨method.name, values.fill scenario.title, scenario.tags, expanded⟩ :=
    bind_eq_ok_iff.2 ⟨expanded, hexpanded, rfl⟩
  have hcodes : method.code = Fixture.testCode platform hasBackground
      ⟨method.name, values.fill scenario.title, scenario.tags, expanded⟩ ↔
      ∀ step ∈ scenario.steps, step.KeepsHeader platform.language values := by
    rw [hcode]
    refine (Fixture.testCode_eq_iff ..).trans ?_
    simpa using hsame [] []
  rw [← hcodes]
  constructor
  · rintro ⟨other, hother, heq⟩
    rw [hmade, Except.ok.injEq] at hother
    rwa [← hother] at heq
  · exact fun heq => ⟨_, hmade, heq⟩

namespace Generator

variable {feature : Feature} {folder code : Text} {platform : Platform}

/-- What is emitted is the class of a fixture with the methods of its tests. -/
theorem exists_background_of_emit (h : emit feature folder platform = .ok code) :
    ∃ (background : List Call) (methods : List Method),
      code = Fixture.prologue platform folder feature.title
          (Text.join ['\n'] feature.description) feature.tags background ++
        methods.flatMap Method.code ++ Dialect.classEnd platform.language ∧
      Call.ofSteps none feature.background = .ok background ∧
      Method.AreFor platform (!feature.background.isEmpty) feature.scenarios methods := by
  cases hfixture : Fixture.ofFeature feature with
  | error fault => simp [emit, hfixture] at h
  | ok fixture =>
    unfold Fixture.ofFeature at hfixture
    split at hfixture
    · cases hfixture
    · next htitle =>
      obtain ⟨background, hbackground, hfixture⟩ := bind_eq_ok_iff.1 hfixture
      obtain ⟨tests, htests, -⟩ := bind_eq_ok_iff.1 hfixture
      have hemit := emit_of_testsOf (Bool.eq_false_iff.2 htitle) hbackground htests folder platform
      rw [h, Except.ok.injEq] at hemit
      refine ⟨_, _, hemit, hbackground, ?_⟩
      rw [← Call.isEmpty_ofSteps hbackground]
      exact Fixture.areFor_of_testsOf platform _ htests

theorem exists_prologue_of_emit (h : emit feature folder platform = .ok code) :
    ∃ (background : List Call) (methods : List Method),
      code = Fixture.prologue platform folder feature.title
          (Text.join ['\n'] feature.description) feature.tags background ++
        methods.flatMap Method.code ++ Dialect.classEnd platform.language ∧
      background.isEmpty = feature.background.isEmpty ∧
      Method.AreFor platform (!feature.background.isEmpty) feature.scenarios methods := by
  obtain ⟨background, methods, hcode, hbackground, hmethods⟩ := exists_background_of_emit h
  exact ⟨background, methods, hcode, Call.isEmpty_ofSteps hbackground, hmethods⟩

theorem exists_methods_of_emit (h : emit feature folder platform = .ok code) :
    ∃ (start : Text) (methods : List Method),
      code = start ++ methods.flatMap Method.code ++ Dialect.classEnd platform.language ∧
      Method.AreFor platform (!feature.background.isEmpty) feature.scenarios methods := by
  obtain ⟨_, methods, hcode, -, hmethods⟩ := exists_prologue_of_emit h
  exact ⟨_, methods, hcode, hmethods⟩

/-- **Rows of examples as plain scenarios.** The methods of an outline's rows stand behind those of
the scenarios before it. Each is the method, under the same name, of the plain scenario in which the
row's values are filled in, but not into the names of the columns; and it is the method of the
scenario in which they are filled in everywhere exactly if no column has another name then. -/
theorem emit_rows (h : emit feature folder platform = .ok code) {before after : List Scenario}
    {outline : Scenario} {examples : Examples}
    (hscenarios : feature.scenarios = before ++ outline :: after)
    (hexamples : outline.examples = some examples) :
    ∃ (start : Text) (earlier rows later : List Method),
      code = start ++ (earlier ++ (rows ++ later)).flatMap Method.code ++
        Dialect.classEnd platform.language ∧
      Method.AreFor platform (!feature.background.isEmpty) feature.scenarios
        (earlier ++ (rows ++ later)) ∧
      earlier.length = (before.map Scenario.testCount).sum ∧
      List.Forall₂ (fun values method =>
        method.IsTestOf platform (!feature.background.isEmpty) (outline.fill values) ∧
        (method.IsTestOf platform (!feature.background.isEmpty) (outline.expand values) ↔
          ∀ step ∈ outline.steps, step.KeepsHeader platform.language values))
        examples.values rows := by
  obtain ⟨start, methods, hcode, hmethods⟩ := exists_methods_of_emit h
  have htests := hmethods.tests
  rw [hscenarios, List.flatMap_append, List.flatMap_cons] at htests
  obtain ⟨earlier, others, rfl, hearlier, hothers⟩ := exists_append_of_forall₂ htests
  obtain ⟨rows, later, rfl, hrows, -⟩ := exists_append_of_forall₂ hothers
  refine ⟨start, earlier, rows, later, hcode, hmethods, ?_, ?_⟩
  · rw [← hearlier.length_eq, Scenario.length_flatMap_instances]
  · rw [Scenario.instances, hexamples, List.forall₂_map_left_iff] at hrows
    exact hrows.imp fun values method hmethod => ⟨hmethod, Method.isTestOf_expand_iff hmethod⟩

/-- An outline with a placeholder in a cell of a table, but not in the name of its column. -/
theorem emit_rows_cell :
    let step : Step :=
      { keyword := .given, text := "<a> users", line := 3
        argument := some (.table [["name"], ["<a>"]]) }
    let outline : Scenario :=
      { title := "S <a>", tags := [], steps := [step], line := 2
        examples := some { header := ["a"], rows := [["1"]] } }
    let feature : Feature := { title := "F", scenarios := [outline] }
    ∃ (code : Text) (method : Method), emit feature "" {} = .ok code ∧
      method.IsTestOf {} false (outline.fill [("a", "1")]) ∧
      method.IsTestOf {} false (outline.expand [("a", "1")]) := by
  intro step outline feature
  have hemitted : (emit feature "" {}).toOption.isSome = true := by decide +kernel
  cases hcode : emit feature "" {} with
  | error failure =>
    rw [hcode] at hemitted
    cases hemitted
  | ok code =>
    have hscenarios : feature.scenarios = [] ++ outline :: [] := rfl
    obtain ⟨-, -, rows, -, -, -, -, hrows⟩ := emit_rows hcode hscenarios rfl
    obtain ⟨method, -, ⟨hfilled, hexpanded⟩, -, -⟩ := List.forall₂_cons_left_iff.1 hrows
    refine ⟨code, method, rfl, hfilled, hexpanded.2 ?_⟩
    rw [List.forall_mem_singleton, Step.keepsHeader_iff rfl]
    decide

/-- A placeholder in the name of a column, which stays as it is written. -/
theorem emit_row_ne_expand :
    let step : Step :=
      { keyword := .given, text := "users", line := 3, argument := some (.table [["<a>"], ["x"]]) }
    let outline : Scenario :=
      { title := "S", tags := [], steps := [step], line := 2
        examples := some { header := ["a"], rows := [["1"]] } }
    let feature : Feature := { title := "F", scenarios := [outline] }
    Feature.parse ("Feature: F\nScenario Outline: S\n  Given users\n  | <a> |\n  | x |\n" ++
      "Examples:\n| a |\n| 1 |\n") = .ok feature ∧
    ∃ (start : Text) (method : Method),
      emit feature "" {} = .ok (start ++ method.code ++ Dialect.classEnd .csharp) ∧
      method.IsTestOf {} false (outline.fill [("a", "1")]) ∧
      ¬method.IsTestOf {} false (outline.expand [("a", "1")]) := by
  intro step outline feature
  refine ⟨by decide +kernel, ?_⟩
  have hemitted : (emit feature "" {}).toOption.isSome = true := by decide +kernel
  cases hcode : emit feature "" {} with
  | error failure =>
    rw [hcode] at hemitted
    cases hemitted
  | ok code =>
    obtain ⟨start, methods, rfl, hmethods⟩ := exists_methods_of_emit hcode
    obtain ⟨method, others, hfilled, hothers, rfl⟩ :=
      List.forall₂_cons_left_iff.1 hmethods.tests
    cases hothers
    have hfirst : method.IsTestOf {} false (outline.fill [("a", "1")]) := hfilled
    refine ⟨start, method, by simp, hfirst, ?_⟩
    rw [Method.isTestOf_expand_iff hfirst, List.forall_mem_singleton, Step.keepsHeader_iff rfl]
    decide

end Generator

end FeatureFixtures
