import FeatureFixtures.FileStore
import FeatureFixtures.Generator
import FeatureFixtures.Resolution.Basic

/-!
# Launchers

A launcher brings generators of other versions to life, apart from the program itself. It creates a
context for an installed generator, which is then started once, run any number of times, and
released. A launcher keeps a state of its own, which every operation may change.
-/

namespace FeatureFixtures

/-- A way to run generators of other versions, with contexts and a state of given types. -/
structure Launcher (κ σ : Type) where
  create : FileStore → Installation → σ → Except Error κ × σ
  start : κ → σ → Except Error Unit × σ
  /-- The version that a context is for. -/
  version : κ → Version
  invoke : κ → Request → σ → Outcome Text × σ
  /-- Has no effect on a context that was released before. -/
  release : κ → σ → σ

end FeatureFixtures
