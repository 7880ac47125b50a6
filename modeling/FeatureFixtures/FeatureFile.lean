import FeatureFixtures.FileStore

/-!
# Feature files

A feature file is known by its path inside the project. Its text, and the text generated for it
before, may be at hand already, say in an editor; otherwise they are read from the project folder.
-/

namespace FeatureFixtures

/-- A feature file to generate code for. -/
structure FeatureFile where
  /-- The path inside the project. -/
  path : Text
  /-- The text of the feature, if it is at hand. -/
  feature : Option Text := none
  /-- The path of the generated file inside the project, if it is not the default. -/
  generatedPath : Option Text := none
  /-- The text generated before, if it is at hand. -/
  generated : Option Text := none
  /-- The namespace to use in place of the one that follows from the path. -/
  namespaceName : Option Text := none
deriving DecidableEq, Repr, Inhabited

namespace FeatureFile

/-- The path of a feature file as it is recorded. -/
def recordedPath (file : FeatureFile) : Text :=
  Path.recorded file.path

/-- The path of a feature file in a project folder. -/
def pathIn (file : FeatureFile) (folder : Text) : Text :=
  Path.join folder file.path

/-- The path of the generated file in a project folder. -/
def generatedPathIn (file : FeatureFile) (folder : Text) (language : Language) : Text :=
  Path.join folder (file.generatedPath.getD (Path.generated file.path language))

/-- The text of the feature. -/
def loadFeature (file : FeatureFile) (store : FileStore) (folder : Text) : Except FileFault Text :=
  match file.feature with
  | some text => .ok text
  | none => store.read (file.pathIn folder)

/-- The text generated before. -/
def loadGenerated (file : FeatureFile) (store : FileStore) (folder : Text) (language : Language) :
    Except FileFault Text :=
  match file.generated with
  | some text => .ok text
  | none => store.read (file.generatedPathIn folder language)

end FeatureFile

end FeatureFixtures
