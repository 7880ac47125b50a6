import FeatureFixtures.Feature.Example
import FeatureFixtures.Fixture.Identifier
import FeatureFixtures.Text.Blank

/-!
# Fixtures

A fixture is the content of the test class made of a feature: one test for every plain scenario and
for every example of an outline, and the background that every test begins with. A test calls the
test runner once per step. The runner knows three kinds of steps only, so a step that continues the
one before it is called as that one was, and as a precondition if it is the first.
-/

namespace FeatureFixtures

/-- A table that goes with a call: the line that gives it its name, its columns and its rows. -/
structure CallTable where
  line : Nat
  header : List Text
  rows : List (List Text)
deriving DecidableEq, Repr, Inhabited

/-- What a call passes besides the text of the step. -/
inductive CallArgument where
  | none
  | docString (text : Text)
  | table (table : CallTable)
deriving DecidableEq, Repr, Inhabited

/-- One call of the test runner: the kind of step it is made as, the keyword that is written in the
feature file, and the step's text. -/
structure Call where
  kind : StepKeyword
  written : StepKeyword
  text : Text
  argument : CallArgument
deriving DecidableEq, Repr, Inhabited

/-- One test of a fixture. -/
structure Test where
  name : Text
  title : Text
  tags : List Text
  calls : List Call
deriving DecidableEq, Repr, Inhabited

/-- The test class of a feature. -/
structure Fixture where
  title : Text
  description : Text
  tags : List Text
  background : List Call
  tests : List Test
deriving DecidableEq, Repr, Inhabited

/-- Why a feature has no fixture. -/
inductive Fixture.Fault where
  | untitled
  /-- A step has a table without any row, so that there are no column names. -/
  | emptyTable
deriving DecidableEq, Repr, Inhabited

/-- The kind of step that a keyword stands for after a step of the given kind. -/
def StepKeyword.kindAfter (previous : Option StepKeyword) (keyword : StepKeyword) : StepKeyword :=
  if keyword.continues then previous.getD .given else keyword

/-- What the call for a step passes. -/
def Step.callArgument (step : Step) : Except Fixture.Fault CallArgument :=
  match step.argument with
  | none => .ok .none
  | some (.docString text) => .ok (.docString text)
  | some (.table []) => .error .emptyTable
  | some (.table (header :: rows)) => .ok (.table { line := step.line, header, rows })

/-- The call for a step of a given kind. -/
def Step.call (kind : StepKeyword) (step : Step) : Except Fixture.Fault Call := do
  return { kind, written := step.keyword, text := step.text, argument := ← step.callArgument }

/-- The calls for the steps that follow a step of a given kind. -/
def Call.ofSteps (previous : Option StepKeyword) : List Step → Except Fixture.Fault (List Call)
  | [] => .ok []
  | step :: rest => do
    let kind := step.keyword.kindAfter previous
    return (← step.call kind) :: (← ofSteps (some kind) rest)

namespace Fixture

/-- The name of the method that prepares the test runner. -/
def setUpName : Text := "FeatureSetup"

/-- The name of the method that ends the work of the test runner. -/
def tearDownName : Text := "FeatureTearDown"

/-- The name of the method that runs the background. -/
def backgroundName : Text := "FeatureBackground"

/-- The names that no test may have. -/
def reservedNames : List Text :=
  [setUpName, tearDownName, backgroundName]

/-- The name of the class of a feature. -/
def className (title : Text) : Text :=
  Identifier.ofTitle title ++ "Feature"

/-- The names that the tests of a scenario would have if no two clashed. -/
def wantedNames (scenario : Scenario) : List Text :=
  let base := Identifier.ofTitle scenario.title
  match scenario.examples with
  | none => [base]
  | some examples =>
    (List.range examples.rows.length).map fun i => base ++ "_Variant" ++ Text.ofNat i

/-- The test of a plain scenario under a name. -/
def testOf (name : Text) (scenario : Scenario) : Except Fault Test := do
  return { name, title := scenario.title, tags := scenario.tags,
           calls := ← Call.ofSteps none scenario.steps }

/-- The tests of plain scenarios under their names. -/
def testsOf : List (Text × Scenario) → Except Fault (List Test)
  | [] => .ok []
  | (name, scenario) :: rest => do return (← testOf name scenario) :: (← testsOf rest)

/-- The names of all tests of a feature, in order. -/
def testNames (feature : Feature) : List Text :=
  (Identifier.Names.ofList reservedNames).takeAll (feature.scenarios.flatMap wantedNames)

/-- The fixture of a feature. -/
def ofFeature (feature : Feature) : Except Fault Fixture := do
  if Text.isAllBlank feature.title then throw .untitled
  let background ← Call.ofSteps none feature.background
  let tests ← testsOf ((testNames feature).zip (feature.scenarios.flatMap Scenario.instances))
  return { title := feature.title, description := Text.join ['\n'] feature.description,
           tags := feature.tags, background, tests }

end Fixture

end FeatureFixtures
