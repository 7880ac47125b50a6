import FeatureFixtures.Error

/-!
# Reports

How the generation for one feature file ended: the generated file is up to date, or there is new
code, or it failed with an error.
-/

namespace FeatureFixtures

/-- How the generation for a feature file ended. -/
inductive Report where
  /-- The generated file is up to date, and was made by a generator of a version. -/
  | upToDate (version : Version)
  | generated (code : Text) (version : Version)
  | failed (error : Error)
deriving DecidableEq, Repr, Inhabited

namespace Report

/-- Whether there is no error. -/
def isSuccess : Report → Bool
  | upToDate _ | generated .. => true
  | failed _ => false

/-- The new code. -/
def code? : Report → Option Text
  | generated code _ => some code
  | upToDate _ | failed _ => none

/-- Whether the generated file was up to date before; nothing is said about it after an error. -/
def wasUpToDate? : Report → Option Bool
  | upToDate _ => some true
  | generated .. => some false
  | failed _ => none

/-- The version that is recorded in the generated file. -/
def version? : Report → Option Version
  | upToDate version | generated _ version => some version
  | failed _ => none

/-- The errors. -/
def errors : Report → List Error
  | failed error => [error]
  | upToDate _ | generated .. => []

end Report

end FeatureFixtures
