import FeatureFixtures.Fixture.Basic
import FeatureFixtures.Fixture.Dialect

/-!
# The code of a fixture

The code of a fixture is the class that goes inside the namespace: first what does not depend on the
scenarios (attributes, the test runner, the methods that start and end it, and the background), then
one method for each test in order, and the end of the class. A framework without hooks for a whole
fixture starts the test runner from the constructor.
-/

namespace FeatureFixtures

/-- The method of the test runner that a call goes to. -/
def Call.runnerMethod (call : Call) : Text :=
  call.kind.spelling

/-- The local variable that holds a table. -/
def CallTable.variableName (table : CallTable) : Text :=
  "table" ++ Text.ofNat table.line

/-- The statements that build a table. -/
def CallTable.code (language : Language) (table : CallTable) : Text :=
  let type : Text := "Spekgen.Table"
  let value := Dialect.newObject language type [Literal.ofTexts language table.header]
  Dialect.statement language (Dialect.declaration language table.variableName type value) ++
    table.rows.flatMap fun row =>
      Dialect.statement language
        (table.variableName ++ ".AddRow(" ++ Literal.ofTexts language row ++ ")")

/-- The statements that build what a call passes. -/
def CallArgument.code (language : Language) : CallArgument → Text
  | .table passed => passed.code language
  | .none | .docString _ => []

/-- The text of several lines that a call passes. -/
def CallArgument.docStringCode (language : Language) : CallArgument → Text
  | .docString text => Literal.ofText language text
  | .none | .table _ => Literal.nothing language

/-- The table that a call passes. -/
def CallArgument.tableCode (language : Language) : CallArgument → Text
  | .table passed => passed.variableName
  | .none | .docString _ => Literal.nothing language

/-- The statements of a call. -/
def Call.code (language : Language) (call : Call) : Text :=
  let arguments :=
    [Literal.ofText language call.text, call.argument.docStringCode language,
     call.argument.tableCode language, Literal.ofText language (call.written.spelling ++ [' '])]
  call.argument.code language ++
    Dialect.statement language
      ("testRunner." ++ call.runnerMethod ++ "(" ++ Text.join ", " arguments ++ ")")

namespace Fixture

variable (platform : Platform)

/-- An attribute at a depth. -/
def attributeLine (depth : Nat) (name : Text) : Text :=
  Dialect.attributeLine platform.language depth name

/-- An attribute with a text as its argument. -/
def textAttribute (depth : Nat) (opening argument : Text) : Text :=
  attributeLine platform depth (opening ++ Literal.ofText platform.language argument ++ ")")

/-- The attributes that tell a title and tags. -/
def titleAttributes (depth : Nat) (title : Text) (tags : List Text) : Text :=
  let attributes := platform.framework.attributes
  textAttribute platform depth attributes.description title ++
    tags.flatMap (textAttribute platform depth attributes.category)

/-- An attribute of a method that not every framework has. -/
def hook (name : Option Text) : Text :=
  match name with
  | some name => attributeLine platform 2 name
  | none => []

/-- The constructor, where it has to start the test runner. -/
def constructorCode (title : Text) : Text :=
  let language := platform.language
  match platform.framework.attributes.setUp with
  | some _ => []
  | none =>
    Dialect.constructorStart language (className title) ++
      Dialect.statement language (setUpName ++ "()") ++ Dialect.methodEnd language

/-- The method that prepares the test runner. -/
def setUpCode (folder title description : Text) (tags : List Text) : Text :=
  let language := platform.language
  let culture := Dialect.newObject language "System.Globalization.CultureInfo"
    [Literal.ofText language "en-US"]
  let info := Dialect.newObject language "Spekgen.FeatureInfo"
    [culture, Literal.ofText language folder, Literal.ofText language title,
     Literal.ofText language description, Dialect.languageToken language,
     Literal.ofTexts language tags]
  hook platform platform.framework.attributes.setUp ++
    Dialect.sharedMethodStart language setUpName ++
    Dialect.statement language "testRunner = Spekgen.TestRunnerManager.GetTestRunner()" ++
    Dialect.statement language
      (Dialect.declaration language "featureInfo" "Spekgen.FeatureInfo" info) ++
    Dialect.statement language "testRunner.OnFeatureStart(featureInfo)" ++
    Dialect.methodEnd language

/-- The method that ends the work of the test runner. -/
def tearDownCode : Text :=
  let language := platform.language
  hook platform platform.framework.attributes.tearDown ++
    Dialect.sharedMethodStart language tearDownName ++
    Dialect.statement language "testRunner.OnFeatureEnd()" ++
    Dialect.statement language ("testRunner = " ++ Literal.nothing language) ++
    Dialect.methodEnd language

/-- The method that runs the background, if there is one. -/
def backgroundCode (background : List Call) : Text :=
  let language := platform.language
  if background.isEmpty then []
  else
    Dialect.methodStart language backgroundName ++
      background.flatMap (Call.code language) ++ Dialect.methodEnd language

/-- The class up to its first test. -/
def prologue (folder title description : Text) (tags : List Text) (background : List Call) : Text :=
  let language := platform.language
  let fixtureAttribute : Text := match platform.framework.attributes.fixture with
    | some name => attributeLine platform 1 name
    | none => []
  fixtureAttribute ++ titleAttributes platform 1 title tags ++
    Dialect.classStart language (className title) ++
    Dialect.sharedField language "testRunner" "Spekgen.ITestRunner" ++ ['\n'] ++
    constructorCode platform title ++ setUpCode platform folder title description tags ++
    tearDownCode platform ++ backgroundCode platform background

/-- The method of a test. -/
def testCode (hasBackground : Bool) (test : Test) : Text :=
  let language := platform.language
  let info := Dialect.newObject language "Spekgen.ScenarioInfo"
    [Literal.ofText language test.title, Literal.ofTexts language test.tags]
  attributeLine platform 2 platform.framework.attributes.test ++
    titleAttributes platform 2 test.title test.tags ++
    Dialect.methodStart language test.name ++
    Dialect.statement language
      (Dialect.declaration language "scenarioInfo" "Spekgen.ScenarioInfo" info) ++
    Dialect.statement language "testRunner.OnScenarioStart(scenarioInfo)" ++
    (if hasBackground then Dialect.statement language (backgroundName ++ "()") else []) ++
    test.calls.flatMap (Call.code language) ++
    Dialect.statement language "testRunner.CollectScenarioErrors()" ++
    Dialect.statement language "testRunner.OnScenarioEnd()" ++
    Dialect.methodEnd language

/-- The code of a fixture; the folder is told to the test runner. -/
def code (fixture : Fixture) (folder : Text) : Text :=
  prologue platform folder fixture.title fixture.description fixture.tags fixture.background ++
    fixture.tests.flatMap (testCode platform (!fixture.background.isEmpty)) ++
    Dialect.classEnd platform.language

end Fixture

end FeatureFixtures
