import FeatureFixtures.Fingerprint
import FeatureFixtures.Project.Settings
import FeatureFixtures.Resolution.Basic

/-!
# Events

What a generation does besides its result: which generators it starts, runs and releases, and what
it asks about the state of a generated file. Isolated generators are known by serial numbers, which
count the attempts to create one.
-/

namespace FeatureFixtures

/-- Something that happens during generations. -/
inductive Event where
  /-- An isolated generator is to be created. -/
  | create (serial : Nat) (wanted : Installation)
  /-- An isolated generator is started. -/
  | start (serial : Nat)
  /-- An isolated generator is run. -/
  | invoke (serial : Nat) (request : Request)
  /-- An isolated generator is released. -/
  | release (serial : Nat)
  /-- The built-in generator takes the place of a generator that cannot be used. -/
  | fallBack (wanted : Installation) (reason : Error)
  /-- The built-in generator is run. -/
  | runBuiltin (request : Request)
  /-- The times of the files at two paths are compared. -/
  | compareTimes (featurePath generatedPath : Text) (method : CheckMethod)
  /-- A text generated before is compared with what is expected. -/
  | compareContent (generated : Text) (expected : Fingerprint) (method : CheckMethod)
deriving DecidableEq, Repr, Inhabited

end FeatureFixtures
