import FeatureFixtures.Text.Basic

/-!
# Target platforms

Test code is written in one of two languages, for one of three unit test frameworks.
-/

namespace FeatureFixtures

/-- The language of the test code. -/
inductive Language where
  | csharp
  | visualBasic
deriving DecidableEq, Repr, Inhabited

/-- The extension of files in a language, without the dot. -/
def Language.extension : Language → Text
  | .csharp => "cs"
  | .visualBasic => "vb"

/-- The language with an extension. -/
def Language.ofExtension? (extension : Text) : Option Language :=
  [.csharp, .visualBasic].find? fun language => language.extension = extension

/-- The unit test framework that runs the test code. -/
inductive Framework where
  | nunit
  | xunit
  | mstest
deriving DecidableEq, Repr, Inhabited

/-- The name of a framework in settings. -/
def Framework.name : Framework → Text
  | .nunit => "nunit"
  | .xunit => "xunit"
  | .mstest => "mstest"

/-- The framework with a name. -/
def Framework.ofName? (name : Text) : Option Framework :=
  [.nunit, .xunit, .mstest].find? fun framework => framework.name = name

/-- What test code is written for. -/
structure Platform where
  language : Language := .csharp
  framework : Framework := .nunit
deriving DecidableEq, Repr, Inhabited

end FeatureFixtures
