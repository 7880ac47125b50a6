import FeatureFixtures.Error
import FeatureFixtures.Fixture.Printer

/-!
# Generators

A generator turns the text of a feature file into the code of its fixture. It may fail with an
error, or crash; a crash carries a message if the one who caused it left a text. The built-in
generator reads the feature, makes its fixture and prints it.
-/

namespace FeatureFixtures

/-- What a generator needs to know about one feature file. -/
structure Request where
  feature : Text
  /-- The path of the feature file inside the project. -/
  sourceFile : Text
  /-- The folder of the feature file, as it is told to the test runner. -/
  folderPath : Text
  platform : Platform
deriving DecidableEq, Repr, Inhabited

/-- Why there is no result: an error, or a crash with its message. -/
inductive Failure where
  | error (error : Error)
  | crash (message : Option Text)
deriving DecidableEq, Repr, Inhabited

/-- A result, or why there is none. -/
abbrev Outcome (α : Type) := Except Failure α

/-- The text that a crash leaves behind. -/
def crashText (message : Option Text) : Text :=
  message.getD "unknown panic"

/-- A generator of a certain version. -/
structure Generator where
  version : Version
  generate : Request → Outcome Text

namespace Generator

/-- The failure to make a fixture. A step with an empty table is no expected input. -/
def failureOfFault : Fixture.Fault → Failure
  | .untitled => .error (.emission "feature has no title")
  | .emptyTable => .crash (some "index out of bounds: the len is 0 but the index is 0")

/-- The code of the fixture of a feature. -/
def emit (feature : Feature) (folderPath : Text) (platform : Platform) : Outcome Text :=
  match Fixture.ofFeature feature with
  | .ok fixture => .ok (fixture.code platform folderPath)
  | .error fault => .error (failureOfFault fault)

/-- The code of the fixture of a feature file. -/
def generateCode (request : Request) : Outcome Text :=
  match Feature.parse request.feature with
  | .ok feature => emit feature request.folderPath request.platform
  | .error refused => .error (.error (.ofParseError refused))

/-- The generator that is part of this program. -/
def builtin : Generator :=
  { version := .current, generate := generateCode }

end Generator

end FeatureFixtures
