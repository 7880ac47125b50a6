import FeatureFixtures.FileStore
import FeatureFixtures.Project.Settings
import FeatureFixtures.Text.Blank
import FeatureFixtures.Toml.Document

/-!
# Reading the settings of a project

The settings stand in one file in the project folder. Each table and each key may be missing, keys
that mean nothing here are passed over, and a value of the wrong kind makes the whole file invalid.
Tables that are read field by field may also be written as an array of their fields in order.
-/

namespace FeatureFixtures

open Toml

namespace ProjectConfig

/-- A text. -/
def text? : Value → Option Text
  | .text t => some t
  | _ => none

/-- A truth value. -/
def boolean? : Value → Option Bool
  | .boolean b => some b
  | _ => none

/-- A number that is not negative. -/
def natural? : Value → Option Nat
  | .integer n => if 0 ≤ n then some n.toNat else none
  | _ => none

/-- One of several names. A name may also be the only key of a table, if its value is void. -/
def choice? {α : Type} (isVoid : Value → Bool) (read? : Text → Option α) : Value → Option α
  | .text t => read? t
  | .table [(key, value)] => if isVoid value then read? key else none
  | _ => none

/-- Whether a value is a table without entries. -/
def isEmptyTable : Value → Bool
  | .table [] => true
  | _ => false

/-- Whether a value is a table or an array with nothing in it. -/
def isEmpty : Value → Bool
  | .table [] | .array [] => true
  | _ => false

/-- The names of the languages in settings. -/
def languageNames : List (Text × Language) :=
  [("csharp", .csharp), ("cs", .csharp), ("c#", .csharp), ("vb", .visualBasic),
   ("visualbasic", .visualBasic)]

/-- The language with a name. -/
def language? (name : Text) : Option Language :=
  languageNames.lookup name

/-- The name of a method in settings. -/
def methodName : CheckMethod → Text
  | .modificationTime => "modification_time_and_generator_version"
  | .fileContent => "file_content"

/-- The method with a name. -/
def method? (name : Text) : Option CheckMethod :=
  [.modificationTime, .fileContent].find? fun method => methodName method = name

/-- The fields of a table, found by their names or, in an array, by their places. A date has none.
-/
inductive Fields where
  | named (entries : List (Text × Value))
  | placed (values : List Value)

/-- The fields of a value. -/
def Fields.ofValue? : Value → Option Fields
  | .table entries => some (.named entries)
  | .array values => some (.placed values)
  | .date => some (.named [])
  | _ => none

/-- A field, given its name and its place. -/
def Fields.get? (fields : Fields) (name : Text) (place : Nat) : Option Value :=
  match fields with
  | .named entries => entries.lookup name
  | .placed values => values[place]?

/-- A field that may be missing. -/
def Fields.read {α : Type} (fields : Fields) (name : Text) (place : Nat)
    (decode? : Value → Option α) : Option (Option α) :=
  match fields.get? name place with
  | none => some none
  | some value => (decode? value).map some

/-- The fields under a name at the top; a missing table has none. -/
def fieldsOf (top : List (Text × Value)) (name : Text) : Option Fields :=
  match top.lookup name with
  | none => some (.named [])
  | some value => Fields.ofValue? value

/-- The generator that a project asks for. In an array, no field may be missing. -/
def pin? (fields : Fields) : Option GeneratorPin := do
  if let .placed values := fields then
    if values.length < 3 then none
  return { version := ← fields.read "version" 0 text?
           path := ← fields.read "path" 1 text?
           requirement := ← fields.read "requirement" 2 text? }

/-- How files are to be generated. -/
def generation? (fields : Fields) : Option GenerationSettings := do
  return { checkUpToDate := (← fields.read "check_up_to_date" 0 boolean?).getD false
           method := (← fields.read "method" 1 (choice? isEmpty method?)).getD .modificationTime
           writeResult := (← fields.read "write_result_to_file" 2 boolean?).getD false }

/-- The project itself, which is not written as an array. Its name is that of its folder unless it
has one. -/
def project? (folder : Text) (fields : Fields) (pin : GeneratorPin) : Option ProjectSettings := do
  if let .placed _ := fields then none
  let language := (← fields.read "language" 0 (choice? isEmptyTable language?)).getD .csharp
  let framework :=
    (← fields.read "unit_test_provider" 0 (choice? isEmptyTable Framework.ofName?)).getD .nunit
  let space ← fields.read "default_namespace" 0 text?
  return { name := (← fields.read "name" 0 text?).getD ((Path.fileName? folder).getD [])
           folder
           defaultNamespace := space.filter (!Text.isAllBlank ·)
           platform := { language, framework }
           pin }

/-- The settings in a table at the top. -/
def ofTable? (folder : Text) (top : List (Text × Value)) : Option ProjectConfig := do
  let pin ← pin? (← fieldsOf top "generator")
  let project ← project? folder (← fieldsOf top "project") pin
  let generation ← generation? (← fieldsOf top "generation")
  let startupTimeout := (← (← fieldsOf top "host").read "startup_timeout_ms" 0 natural?).getD 10000
  return { project, generation, startupTimeout }

/-- The settings of a project without a settings file. -/
def ofFolder (folder : Text) : ProjectConfig :=
  { project := { name := (Path.fileName? folder).getD [], folder } }

/-- Reads the text of a settings file. -/
def parse (folder : Text) (t : Text) : Except Error ProjectConfig :=
  match Toml.parse? t >>= ofTable? folder with
  | some config => .ok config
  | none => .error (.configuration "TOML parse error")

/-- The name of the settings file. -/
def fileName : Text := "spekgen.toml"

/-- The settings of a project folder. -/
def load (store : FileStore) (folder : Text) : Except Error ProjectConfig := do
  let path := Path.join folder fileName
  if store.pathExists path then parse folder (← (store.read path).mapError .file)
  else return ofFolder folder

end ProjectConfig

end FeatureFixtures
