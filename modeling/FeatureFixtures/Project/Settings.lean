import FeatureFixtures.Platform

/-!
# Settings of a project

What a project decides about its generated files, about the generator that makes them, and about how
a file is judged to be up to date. Every setting has a default.
-/

namespace FeatureFixtures

/-- How a generated file is judged to be up to date. -/
inductive CheckMethod where
  /-- A feature file that is newer than its generated file needs no further check. -/
  | modificationTime
  /-- Only the fingerprint counts. -/
  | fileContent
deriving DecidableEq, Repr, Inhabited

/-- How one file is to be generated. -/
structure GenerationSettings where
  /-- Whether a file that is up to date is left alone. -/
  checkUpToDate : Bool := false
  method : CheckMethod := .modificationTime
  /-- Whether the result is written to its file. -/
  writeResult : Bool := false
deriving DecidableEq, Repr, Inhabited

/-- The generator that a project asks for. -/
structure GeneratorPin where
  version : Option Text := none
  /-- The folder of the generator. -/
  path : Option Text := none
  /-- What the version of an installed generator has to satisfy. -/
  requirement : Option Text := none
deriving DecidableEq, Repr, Inhabited

/-- A project. -/
structure ProjectSettings where
  name : Text := []
  folder : Text := "."
  defaultNamespace : Option Text := none
  platform : Platform := {}
  pin : GeneratorPin := {}
deriving DecidableEq, Repr, Inhabited

/-- Everything that is configured for a project. -/
structure ProjectConfig where
  project : ProjectSettings := {}
  generation : GenerationSettings := {}
  /-- How many milliseconds a generator may take to answer after its start. -/
  startupTimeout : Nat := 10000
deriving DecidableEq, Repr, Inhabited

end FeatureFixtures
