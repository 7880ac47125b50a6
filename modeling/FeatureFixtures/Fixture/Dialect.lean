import FeatureFixtures.Fixture.Literal

/-!
# Forms of the target languages

The pieces of code that a fixture is put together from, in the two languages. Every form is one or
more whole lines at a given depth of indentation.
-/

namespace FeatureFixtures

namespace Dialect

/-- A line of code at a depth of indentation, four spaces each. -/
def line (depth : Nat) (code : Text) : Text :=
  List.replicate (4 * depth) ' ' ++ code ++ ['\n']

/-- An attribute. -/
def attributeLine (language : Language) (depth : Nat) (name : Text) : Text :=
  match language with
  | .csharp => line depth ("[" ++ name ++ "]")
  | .visualBasic => line depth ("<" ++ name ++ ">  _")

/-- A statement in the body of a method. -/
def statement (language : Language) (code : Text) : Text :=
  match language with
  | .csharp => line 3 (code ++ ";")
  | .visualBasic => line 3 code

/-- The expression that makes an object. -/
def newObject (language : Language) (type : Text) (arguments : List Text) : Text :=
  let keyword : Text := match language with
    | .csharp => "new "
    | .visualBasic => "New "
  keyword ++ type ++ "(" ++ Text.join ", " arguments ++ ")"

/-- The declaration of a local variable with its value. -/
def declaration (language : Language) (name type value : Text) : Text :=
  match language with
  | .csharp => type ++ " " ++ name ++ " = " ++ value
  | .visualBasic => "Dim " ++ name ++ " As " ++ type ++ " = " ++ value

/-- The opening of the class. -/
def classStart (language : Language) (name : Text) : Text :=
  match language with
  | .csharp => line 1 ("public partial class " ++ name) ++ line 1 "\x7b"
  | .visualBasic => line 1 ("Partial Public Class " ++ name)

/-- The end of the class. -/
def classEnd (language : Language) : Text :=
  match language with
  | .csharp => line 1 "\x7d"
  | .visualBasic => line 1 "End Class"

/-- A field that all objects of the class share. -/
def sharedField (language : Language) (name type : Text) : Text :=
  match language with
  | .csharp => line 2 ("private static " ++ type ++ " " ++ name ++ ";")
  | .visualBasic => line 2 ("Private Shared " ++ name ++ " As " ++ type)

/-- The opening of a method that belongs to the class. -/
def sharedMethodStart (language : Language) (name : Text) : Text :=
  match language with
  | .csharp => line 2 ("public static void " ++ name ++ "()") ++ line 2 "\x7b"
  | .visualBasic => line 2 ("Public Shared Sub " ++ name ++ "()")

/-- The opening of a method that belongs to each object. -/
def methodStart (language : Language) (name : Text) : Text :=
  match language with
  | .csharp => line 2 ("public virtual void " ++ name ++ "()") ++ line 2 "\x7b"
  | .visualBasic => line 2 ("Public Overridable Sub " ++ name ++ "()")

/-- The opening of the constructor. -/
def constructorStart (language : Language) (className : Text) : Text :=
  match language with
  | .csharp => line 2 ("public " ++ className ++ "()") ++ line 2 "\x7b"
  | .visualBasic => line 2 "Public Sub New()"

/-- The end of a method or constructor, with an empty line after it. -/
def methodEnd (language : Language) : Text :=
  match language with
  | .csharp => line 2 "\x7d" ++ ['\n']
  | .visualBasic => line 2 "End Sub" ++ ['\n']

/-- How the language itself is named in the code. -/
def languageToken : Language → Text
  | .csharp => "Spekgen.ProgrammingLanguage.CSharp"
  | .visualBasic => "Spekgen.ProgrammingLanguage.VB"

end Dialect

/-- The attributes by which a framework finds fixtures and tests. Those with an argument are given
by the text before it; a missing one is not written. -/
structure Attributes where
  fixture : Option Text
  setUp : Option Text
  tearDown : Option Text
  test : Text
  description : Text
  category : Text

/-- The attributes of a framework. -/
def Framework.attributes : Framework → Attributes
  | .nunit =>
    { fixture := some "NUnit.Framework.TestFixtureAttribute()"
      setUp := some "NUnit.Framework.OneTimeSetUpAttribute()"
      tearDown := some "NUnit.Framework.OneTimeTearDownAttribute()"
      test := "NUnit.Framework.TestAttribute()"
      description := "NUnit.Framework.DescriptionAttribute("
      category := "NUnit.Framework.CategoryAttribute(" }
  | .xunit =>
    { fixture := none
      setUp := none
      tearDown := none
      test := "Xunit.FactAttribute()"
      description := "Xunit.TraitAttribute(\"Description\", "
      category := "Xunit.TraitAttribute(\"Category\", " }
  | .mstest =>
    { fixture := some "Microsoft.VisualStudio.TestTools.UnitTesting.TestClassAttribute()"
      setUp := some "Microsoft.VisualStudio.TestTools.UnitTesting.ClassInitializeAttribute()"
      tearDown := some "Microsoft.VisualStudio.TestTools.UnitTesting.ClassCleanupAttribute()"
      test := "Microsoft.VisualStudio.TestTools.UnitTesting.TestMethodAttribute()"
      description := "Microsoft.VisualStudio.TestTools.UnitTesting.DescriptionAttribute("
      category := "Microsoft.VisualStudio.TestTools.UnitTesting.TestCategoryAttribute(" }

end FeatureFixtures
