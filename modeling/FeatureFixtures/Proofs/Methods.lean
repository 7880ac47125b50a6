import FeatureFixtures.Proofs.Emission
import FeatureFixtures.Proofs.Names
import Mathlib.Algebra.GroupWithZero.Nat
import Mathlib.Data.List.Forall2
/-!
# The methods of a class

The code of a feature is a beginning in which its scenarios have no part, then one method for every
plain scenario and for every row of an outline's examples, and the end of the class. A method is
made of its name and its scenario alone, and the names are given in the order of the file. So what
follows a scenario in the file has no influence on its methods. The names are what the methods are
declared under, so no two methods are declared alike.
-/

namespace FeatureFixtures

/-- How many tests a scenario stands for: one, or one per row of its examples. -/
def Scenario.testCount (scenario : Scenario) : Nat :=
  match scenario.examples with
  | none => 1
  | some examples => examples.rows.length

theorem Scenario.length_instances (scenario : Scenario) :
    scenario.instances.length = scenario.testCount := by
  unfold instances testCount
  cases scenario.examples with
  | none => rfl
  | some examples => simp [Examples.values]

theorem Scenario.length_flatMap_instances (scenarios : List Scenario) :
    (scenarios.flatMap instances).length = (scenarios.map testCount).sum := by
  simp only [List.length_flatMap, length_instances]

theorem Fixture.length_wantedNames (scenario : Scenario) :
    (wantedNames scenario).length = scenario.testCount := by
  unfold wantedNames Scenario.testCount
  cases scenario.examples with
  | none => rfl
  | some examples => simp

/-- A method of a class: its name, and all its lines. -/
structure Method where
  name : Text
  code : Text

/-- A method that is the test of a plain scenario. -/
def Method.IsTestOf (platform : Platform) (hasBackground : Bool) (scenario : Scenario)
    (method : Method) : Prop :=
  ∃ test, Fixture.testOf method.name scenario = .ok test ∧
    method.code = Fixture.testCode platform hasBackground test

/-- A method that is written as the test of a plain scenario: attributes that make it a test and
tell the scenario's title and tags, the opening of a method of its name, statements, and the end of
the method. -/
def Method.IsBlockOf (platform : Platform) (scenario : Scenario) (method : Method) : Prop :=
  ∃ statements : List Text, method.code =
    Fixture.attributeLine platform 2 platform.framework.attributes.test ++
      Fixture.titleAttributes platform 2 scenario.title scenario.tags ++
      Dialect.methodStart platform.language method.name ++
      statements.flatMap (Dialect.statement platform.language) ++
      Dialect.methodEnd platform.language

/-- The methods of a class for scenarios: one for every plain scenario and for every row, under new
names in the order of the file. -/
structure Method.AreFor (platform : Platform) (hasBackground : Bool) (scenarios : List Scenario)
    (methods : List Method) : Prop where
  tests : List.Forall₂ (Method.IsTestOf platform hasBackground)
    (scenarios.flatMap Scenario.instances) methods
  names : Identifier.AreNewNames Fixture.reservedNames (scenarios.flatMap Fixture.wantedNames)
    (methods.map Method.name)

theorem Method.AreFor.length_eq {platform : Platform} {hasBackground : Bool}
    {scenarios : List Scenario} {methods : List Method}
    (h : AreFor platform hasBackground scenarios methods) :
    methods.length = (scenarios.map Scenario.testCount).sum := by
  rw [← h.tests.length_eq, Scenario.length_flatMap_instances]

/-- The names of methods differ from each other and from the names of the other methods. -/
theorem Method.AreFor.nodup_append {platform : Platform} {hasBackground : Bool}
    {scenarios : List Scenario} {methods : List Method}
    (h : AreFor platform hasBackground scenarios methods) :
    (Fixture.reservedNames ++ methods.map Method.name).Nodup := by
  rw [List.nodup_append]
  refine ⟨by decide, h.names.nodup, fun reserved hreserved name hname heq => ?_⟩
  exact h.names.notMem name hname (heq ▸ hreserved)

/-- The method of a test. -/
def Test.method (platform : Platform) (hasBackground : Bool) (test : Test) : Method :=
  { name := test.name, code := Fixture.testCode platform hasBackground test }

namespace Fixture

/-- The name of the field that holds the test runner. -/
def runnerName : Text := "testRunner"

/-- The names of the members besides the tests. -/
def memberNames (hasBackground : Bool) : List Text :=
  [runnerName, setUpName, tearDownName] ++ if hasBackground then [backgroundName] else []

/-- The lines that declare a member besides the tests. -/
def declaration (language : Language) (name : Text) : Text :=
  if name = runnerName then Dialect.sharedField language name "Spekgen.ITestRunner"
  else if name = backgroundName then Dialect.methodStart language name
  else Dialect.sharedMethodStart language name

/-! ### What the class declares first -/

section

variable (platform : Platform)

theorem isInfix_prologue (folder title description : Text) (tags : List Text)
    (background : List Call) :
    Dialect.classStart platform.language (className title) <:+:
      prologue platform folder title description tags background ∧
    ∀ name ∈ memberNames (!background.isEmpty), declaration platform.language name <:+:
      prologue platform folder title description tags background := by
  have hsetUp : Dialect.sharedMethodStart platform.language setUpName <:+:
      setUpCode platform folder title description tags := by
    unfold setUpCode
    iterate 4 apply List.infix_append_of_infix_left
    exact (List.suffix_append ..).isInfix
  have htearDown : Dialect.sharedMethodStart platform.language tearDownName <:+:
      tearDownCode platform := by
    unfold tearDownCode
    iterate 3 apply List.infix_append_of_infix_left
    exact (List.suffix_append ..).isInfix
  unfold prologue memberNames
  refine ⟨?_, ?_⟩
  · iterate 6 apply List.infix_append_of_infix_left
    exact (List.suffix_append ..).isInfix
  · intro name hname
    rcases List.mem_append.1 hname with hfirst | hbackground
    · simp only [List.mem_cons, List.not_mem_nil, or_false] at hfirst
      rcases hfirst with rfl | rfl | rfl
      · iterate 5 apply List.infix_append_of_infix_left
        exact (List.suffix_append ..).isInfix
      · iterate 2 apply List.infix_append_of_infix_left
        exact List.infix_append_of_infix_right hsetUp
      · apply List.infix_append_of_infix_left
        exact List.infix_append_of_infix_right htearDown
    · apply List.infix_append_of_infix_right
      cases hempty : background.isEmpty with
      | true => simp [hempty] at hbackground
      | false =>
        rw [hempty, Bool.not_false, if_pos rfl, List.mem_singleton] at hbackground
        subst hbackground
        rw [backgroundCode, hempty, if_neg Bool.false_ne_true, List.append_assoc]
        exact (List.prefix_append ..).isInfix

end

end Fixture

/-! ### What a method declares -/

namespace Dialect

/-- The name of a method can be read off its opening. -/
theorem methodStart_injective (language : Language) :
    Function.Injective (methodStart language) := by
  intro name other h
  cases language with
  | csharp => simpa [methodStart, line] using h
  | visualBasic => simpa [methodStart, line] using h

/-- Code that consists of statements. -/
def IsBody (language : Language) (code : Text) : Prop :=
  ∃ statements : List Text, code = statements.flatMap (statement language)

theorem isBody_nil (language : Language) : IsBody language [] :=
  ⟨[], rfl⟩

theorem isBody_statement (language : Language) (code : Text) :
    IsBody language (statement language code) :=
  ⟨[code], (List.append_nil _).symm⟩

theorem IsBody.append {language : Language} {code rest : Text} (h : IsBody language code)
    (hrest : IsBody language rest) : IsBody language (code ++ rest) := by
  obtain ⟨statements, rfl⟩ := h
  obtain ⟨others, rfl⟩ := hrest
  exact ⟨statements ++ others, List.flatMap_append.symm⟩

theorem isBody_flatMap {α : Type} {language : Language} {f : α → Text}
    (h : ∀ x, IsBody language (f x)) (xs : List α) : IsBody language (xs.flatMap f) := by
  induction xs with
  | nil => exact isBody_nil language
  | cons x rest ih => exact (h x).append ih

end Dialect

open Dialect in
theorem Call.isBody_code (language : Language) (call : Call) :
    IsBody language (call.code language) := by
  unfold code
  refine IsBody.append ?_ (isBody_statement ..)
  cases call.argument with
  | none => exact isBody_nil language
  | docString text => exact isBody_nil language
  | table passed =>
    exact (isBody_statement ..).append (isBody_flatMap (fun _ => isBody_statement ..) _)

open Dialect in
/-- Between the opening and the end of a method there are statements only. -/
theorem Fixture.exists_testCode_eq_statements (platform : Platform) (hasBackground : Bool)
    (test : Test) :
    ∃ statements : List Text, testCode platform hasBackground test =
      attributeLine platform 2 platform.framework.attributes.test ++
        titleAttributes platform 2 test.title test.tags ++
        methodStart platform.language test.name ++
        statements.flatMap (statement platform.language) ++ methodEnd platform.language := by
  have hopening := (isBody_statement platform.language
    (Dialect.declaration platform.language "scenarioInfo" "Spekgen.ScenarioInfo"
      (newObject platform.language "Spekgen.ScenarioInfo"
        [Literal.ofText platform.language test.title,
         Literal.ofTexts platform.language test.tags]))).append
    (isBody_statement _ "testRunner.OnScenarioStart(scenarioInfo)")
  have hbackground : IsBody platform.language
      (if hasBackground then statement platform.language (backgroundName ++ "()") else []) := by
    cases hasBackground with
    | false => exact isBody_nil _
    | true => exact isBody_statement ..
  have hcalls := isBody_flatMap (Call.isBody_code platform.language) test.calls
  have hending := (isBody_statement platform.language "testRunner.CollectScenarioErrors()").append
    (isBody_statement _ "testRunner.OnScenarioEnd()")
  obtain ⟨statements, hbody⟩ := ((hopening.append hbackground).append hcalls).append hending
  refine ⟨statements, ?_⟩
  rw [← hbody]
  simp only [testCode, List.append_assoc]

theorem Method.IsTestOf.isBlockOf {platform : Platform} {hasBackground : Bool}
    {scenario : Scenario} {method : Method} (h : method.IsTestOf platform hasBackground scenario) :
    method.IsBlockOf platform scenario := by
  obtain ⟨test, htest, hcode⟩ := h
  obtain ⟨calls, -, htest⟩ := bind_eq_ok_iff.1 htest
  cases htest
  unfold IsBlockOf
  rw [hcode]
  exact Fixture.exists_testCode_eq_statements platform hasBackground _

theorem Method.IsBlockOf.isInfix {platform : Platform} {scenario : Scenario} {method : Method}
    (h : method.IsBlockOf platform scenario) :
    Dialect.methodStart platform.language method.name <:+: method.code := by
  obtain ⟨statements, hcode⟩ := h
  rw [hcode]
  iterate 2 apply List.infix_append_of_infix_left
  exact (List.suffix_append ..).isInfix

/-! ### Tests under their names -/

namespace Fixture

theorem name_of_testOf {name : Text} {scenario : Scenario} {test : Test}
    (h : testOf name scenario = .ok test) : test.name = name := by
  obtain ⟨calls, -, h⟩ := bind_eq_ok_iff.1 h
  cases h
  rfl

theorem testsOf_eq_ok_iff {named : List (Text × Scenario)} {tests : List Test} :
    testsOf named = .ok tests ↔
      List.Forall₂ (fun pair test => testOf pair.1 pair.2 = .ok test) named tests := by
  induction named generalizing tests with
  | nil => simp [testsOf, eq_comm]
  | cons pair rest ih =>
    rw [testsOf, bind_eq_ok_iff, List.forall₂_cons_left_iff]
    constructor
    · rintro ⟨test, htest, h⟩
      obtain ⟨others, hothers, h⟩ := bind_eq_ok_iff.1 h
      cases h
      exact ⟨test, others, htest, ih.1 hothers, rfl⟩
    · rintro ⟨test, others, htest, hothers, rfl⟩
      exact ⟨test, htest, bind_eq_ok_iff.2 ⟨others, ih.2 hothers, rfl⟩⟩

theorem testsOf_append {named more : List (Text × Scenario)} {tests others : List Test}
    (h : testsOf named = .ok tests) (hmore : testsOf more = .ok others) :
    testsOf (named ++ more) = .ok (tests ++ others) :=
  testsOf_eq_ok_iff.2 (List.rel_append (testsOf_eq_ok_iff.1 h) (testsOf_eq_ok_iff.1 hmore))

theorem exists_testsOf_of_isCallable {named : List (Text × Scenario)}
    (h : ∀ pair ∈ named, ∀ step ∈ pair.2.steps, step.IsCallable) :
    ∃ tests, testsOf named = .ok tests := by
  induction named with
  | nil => exact ⟨[], rfl⟩
  | cons pair rest ih =>
    rw [List.forall_mem_cons] at h
    obtain ⟨calls, hcalls, -⟩ := Call.exists_ofSteps none h.1
    obtain ⟨others, hothers⟩ := ih h.2
    have htest : testOf pair.1 pair.2 = .ok ⟨pair.1, pair.2.title, pair.2.tags, calls⟩ :=
      bind_eq_ok_iff.2 ⟨calls, hcalls, rfl⟩
    exact ⟨_, bind_eq_ok_iff.2 ⟨_, htest, bind_eq_ok_iff.2 ⟨others, hothers, rfl⟩⟩⟩

variable {names : List Text} {scenarios : List Scenario} {tests : List Test}

theorem map_name_of_testsOf (hlength : names.length = scenarios.length)
    (h : testsOf (names.zip scenarios) = .ok tests) : tests.map Test.name = names := by
  have hnames : (names.zip scenarios).map Prod.fst = names :=
    List.map_fst_zip (Nat.le_of_eq hlength)
  rw [← List.forall₂_eq_eq_eq, List.forall₂_map_left_iff, ← hnames, List.forall₂_map_right_iff]
  exact ((testsOf_eq_ok_iff.1 h).imp fun _ _ htest => name_of_testOf htest).flip

theorem forall₂_isTestOf (platform : Platform) (hasBackground : Bool)
    (hlength : names.length = scenarios.length) (h : testsOf (names.zip scenarios) = .ok tests) :
    List.Forall₂ (Method.IsTestOf platform hasBackground) scenarios
      (tests.map (Test.method platform hasBackground)) := by
  have hscenarios : (names.zip scenarios).map Prod.snd = scenarios :=
    List.map_snd_zip (Nat.le_of_eq hlength.symm)
  rw [← hscenarios, List.forall₂_map_left_iff, List.forall₂_map_right_iff]
  refine (testsOf_eq_ok_iff.1 h).imp fun pair test htest => ⟨test, ?_, rfl⟩
  rwa [← name_of_testOf htest] at htest

/-! ### Names of tests -/

theorem areNewNames_testNames (feature : Feature) :
    Identifier.AreNewNames reservedNames (feature.scenarios.flatMap wantedNames)
      (testNames feature) :=
  (Identifier.Names.tracks_ofList reservedNames).takeAll _

theorem length_testNames (feature : Feature) :
    (testNames feature).length = (feature.scenarios.flatMap Scenario.instances).length := by
  rw [(areNewNames_testNames feature).length_eq, Scenario.length_flatMap_instances]
  simp only [List.length_flatMap, length_wantedNames]

/-- Scenarios that are added at the end leave the names before as they are. -/
theorem exists_testNames_append (feature : Feature) (more : List Scenario) :
    ∃ others, testNames { feature with scenarios := feature.scenarios ++ more } =
      testNames feature ++ others := by
  obtain ⟨others, hothers⟩ := Identifier.Names.takeAll_append
    (Identifier.Names.ofList reservedNames) (feature.scenarios.flatMap wantedNames)
    (more.flatMap wantedNames)
  refine ⟨others, ?_⟩
  rw [testNames, List.flatMap_append, hothers, testNames]

/-- Steps without empty tables can be called, under whatever names. -/
theorem exists_testsOf_zip {scenarios : List Scenario}
    (h : ∀ scenario ∈ scenarios, ∀ step ∈ scenario.steps, step.IsCallable) (names : List Text) :
    ∃ tests, testsOf (names.zip (scenarios.flatMap Scenario.instances)) = .ok tests := by
  refine exists_testsOf_of_isCallable fun pair hpair => ?_
  obtain ⟨scenario, hscenario, hmade⟩ := List.mem_flatMap.1 (List.of_mem_zip hpair).2
  exact (steps_of_mem_instances hmade).2 (h scenario hscenario)

theorem areFor_of_testsOf (platform : Platform) (hasBackground : Bool) {feature : Feature}
    {tests : List Test}
    (h : testsOf ((testNames feature).zip (feature.scenarios.flatMap Scenario.instances)) =
      .ok tests) :
    Method.AreFor platform hasBackground feature.scenarios
      (tests.map (Test.method platform hasBackground)) where
  tests := forall₂_isTestOf platform hasBackground (length_testNames feature) h
  names := by
    have hnames : (tests.map (Test.method platform hasBackground)).map Method.name =
        testNames feature := by
      rw [List.map_map, ← map_name_of_testsOf (length_testNames feature) h]
      rfl
    rw [hnames]
    exact areNewNames_testNames feature

end Fixture

/-! ### The code of a feature -/

theorem Call.length_ofSteps {previous : Option StepKeyword} {steps : List Step}
    {calls : List Call} (h : ofSteps previous steps = .ok calls) :
    calls.length = steps.length := by
  induction steps generalizing previous calls with
  | nil =>
    cases h
    rfl
  | cons step rest ih =>
    obtain ⟨first, -, h⟩ := bind_eq_ok_iff.1 h
    obtain ⟨others, hothers, h⟩ := bind_eq_ok_iff.1 h
    cases h
    rw [List.length_cons, List.length_cons, ih hothers]

theorem Call.isEmpty_ofSteps {previous : Option StepKeyword} {steps : List Step}
    {calls : List Call} (h : ofSteps previous steps = .ok calls) :
    calls.isEmpty = steps.isEmpty := by
  rw [Bool.eq_iff_iff, List.isEmpty_iff, List.isEmpty_iff, ← List.length_eq_zero_iff,
    length_ofSteps h, List.length_eq_zero_iff]

namespace Generator

open Fixture Identifier

theorem emit_of_testsOf {feature : Feature} (htitle : Text.isAllBlank feature.title = false)
    {background : List Call} (hbackground : Call.ofSteps none feature.background = .ok background)
    {tests : List Test}
    (htests : testsOf ((testNames feature).zip (feature.scenarios.flatMap Scenario.instances)) =
      .ok tests) (folder : Text) (platform : Platform) :
    emit feature folder platform =
      .ok (prologue platform folder feature.title (Text.join ['\n'] feature.description)
          feature.tags background ++
        (tests.map (Test.method platform (!background.isEmpty))).flatMap Method.code ++
        Dialect.classEnd platform.language) := by
  have hfixture : ofFeature feature = .ok ⟨feature.title, Text.join ['\n'] feature.description,
      feature.tags, background, tests⟩ := by
    simp [ofFeature, htitle, hbackground, htests, bind, Except.bind, pure, Except.pure]
  simp only [emit, hfixture, Fixture.code, List.flatMap_map, Test.method]

/-- **The methods of a class.** The code of a feature with a title and without empty tables begins
in the same way whatever its scenarios are: the class is opened there, with all members besides the
tests. Then there is one method for each plain scenario and for each row of an outline, in order,
and nothing else up to the end of the class. Each is written as a test with the title and tags of
its scenario, and is declared under its name. This name is the wanted one or the first numbered one
that is new, which always exists; so all names differ from each other and from the names of the
other methods, and all methods are declared differently. Scenarios that are added at the end add
methods at the end, and change none. -/
theorem emit_methods {feature : Feature} (htitle : Text.isAllBlank feature.title = false)
    (hbackground : ∀ step ∈ feature.background, step.IsCallable) (folder : Text)
    (platform : Platform) :
    ∃ start : Text,
      Dialect.classStart platform.language (className feature.title) <:+: start ∧
      (∀ name ∈ memberNames (!feature.background.isEmpty),
        declaration platform.language name <:+: start) ∧
      ∀ scenarios : List Scenario,
        (∀ scenario ∈ scenarios, ∀ step ∈ scenario.steps, step.IsCallable) →
        ∃ methods : List Method,
          emit { feature with scenarios } folder platform =
            .ok (start ++ methods.flatMap Method.code ++ Dialect.classEnd platform.language) ∧
          List.Forall₂ (Method.IsBlockOf platform) (scenarios.flatMap Scenario.instances) methods ∧
          Method.AreFor platform (!feature.background.isEmpty) scenarios methods ∧
          methods.length = (scenarios.map Scenario.testCount).sum ∧
          (reservedNames ++ methods.map Method.name).Nodup ∧
          ((reservedNames ++ methods.map Method.name).map
            (Dialect.methodStart platform.language)).Nodup ∧
          ∀ more : List Scenario,
            (∀ scenario ∈ more, ∀ step ∈ scenario.steps, step.IsCallable) →
            ∃ others : List Method,
              emit { feature with scenarios := scenarios ++ more } folder platform =
                .ok (start ++ (methods ++ others).flatMap Method.code ++
                  Dialect.classEnd platform.language) := by
  obtain ⟨background, hcalls, -⟩ := Call.exists_ofSteps none hbackground
  obtain ⟨hclass, hmembers⟩ := isInfix_prologue platform folder feature.title
    (Text.join ['\n'] feature.description) feature.tags background
  rw [← Call.isEmpty_ofSteps hcalls]
  refine ⟨prologue platform folder feature.title (Text.join ['\n'] feature.description)
    feature.tags background, hclass, hmembers, fun scenarios hscenarios => ?_⟩
  let whole : Feature := { feature with scenarios }
  have hwhole : Text.isAllBlank whole.title = false := htitle
  obtain ⟨tests, htests⟩ := exists_testsOf_zip hscenarios (testNames whole)
  have hmethods := areFor_of_testsOf platform (!background.isEmpty) htests
  refine ⟨tests.map (Test.method platform (!background.isEmpty)),
    emit_of_testsOf hwhole hcalls htests folder platform,
    hmethods.tests.imp fun _ _ hmethod => Method.IsTestOf.isBlockOf hmethod, hmethods,
    hmethods.length_eq, hmethods.nodup_append,
    hmethods.nodup_append.map (Dialect.methodStart_injective platform.language),
    fun more hmore => ?_⟩
  -- The names of the first scenarios are the same in the longer feature, so their tests are, too.
  let longer : Feature := { feature with scenarios := scenarios ++ more }
  have hlonger : Text.isAllBlank longer.title = false := htitle
  obtain ⟨others, hothers⟩ := exists_testNames_append whole more
  obtain ⟨added, hadded⟩ := exists_testsOf_zip hmore others
  have hall : testsOf ((testNames longer).zip (longer.scenarios.flatMap Scenario.instances)) =
      .ok (tests ++ added) := by
    rw [hothers, List.flatMap_append, List.zip_append (length_testNames whole)]
    exact testsOf_append htests hadded
  refine ⟨added.map (Test.method platform (!background.isEmpty)), ?_⟩
  rw [← List.map_append]
  exact emit_of_testsOf hlonger hcalls hall folder platform

/-- Scenarios of one title, an outline among them, and one whose title makes the name of another
method. -/
theorem emit_methods_same_titles :
    let steps : List Step := [
      { keyword := .given, text := "these", line := 3
        argument := some (.table [["name"], ["tea"]]) }]
    let scenarios : List Scenario := [
      { title := "Buy", tags := [], steps, examples := none, line := 2 },
      { title := "buy!", tags := ["slow"], steps := [], examples := none, line := 6 },
      { title := "Buy", tags := [], steps, line := 8
        examples := some { header := ["n"], rows := [["1"], ["2"]] } },
      { title := "Feature setup", tags := [], steps := [], examples := none, line := 15 }]
    let feature : Feature := { title := "Shop", background := steps }
    Text.isAllBlank feature.title = false ∧ (∀ step ∈ feature.background, step.IsCallable) ∧
    (∀ scenario ∈ scenarios, ∀ step ∈ scenario.steps, step.IsCallable) ∧
    ∃ (start : Text) (methods : List Method),
      emit { feature with scenarios } "Shop" {} =
        .ok (start ++ methods.flatMap Method.code ++ Dialect.classEnd .csharp) ∧
      List.Forall₂ (Method.IsBlockOf {}) (scenarios.flatMap Scenario.instances) methods ∧
      methods.length = 5 ∧ (reservedNames ++ methods.map Method.name).Nodup := by
  intro steps scenarios feature
  have htitle : Text.isAllBlank feature.title = false := by decide
  have hbackground : ∀ step ∈ feature.background, step.IsCallable := by
    simp [feature, steps, Step.IsCallable]
  have hscenarios : ∀ scenario ∈ scenarios, ∀ step ∈ scenario.steps, step.IsCallable := by
    simp [scenarios, steps, Step.IsCallable]
  obtain ⟨start, -, -, hall⟩ := emit_methods htitle hbackground "Shop" {}
  obtain ⟨methods, hemit, hblocks, -, hlength, hnodup, -⟩ := hall scenarios hscenarios
  exact ⟨htitle, hbackground, hscenarios, start, methods, hemit, hblocks, hlength, hnodup⟩

end Generator

end FeatureFixtures
