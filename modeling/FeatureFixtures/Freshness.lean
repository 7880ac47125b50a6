import FeatureFixtures.FeatureFile
import FeatureFixtures.Header
import FeatureFixtures.Project.Settings

/-!
# Freshness

Whether a generated file is up to date is decided in two steps. The first one looks at the files
alone and may settle that it is not; it never settles that it is. The second one reads the
fingerprint of the text generated before and compares it with the expected one. The two methods of
checking differ in the first step only: by modification times, a feature file that is newer than its
generated file is enough.
-/

namespace FeatureFixtures

/-- A way to decide whether a generated file is up to date. The second step may crash. -/
structure Checker where
  /-- The first step, for the paths of the feature file and of the generated file. -/
  preliminary : FileStore → FeatureFile → Text → Text → CheckMethod → Option Bool
  /-- The second step, for the text generated before. -/
  content : Text → Fingerprint → CheckMethod → Except (Option Text) Bool

namespace Checker

/-- Whether a file is known to be newer than another one. -/
def isNewer (store : FileStore) (path other : Text) : Bool :=
  match store.modified? path, store.modified? other with
  | some time, some otherTime => otherTime < time
  | _, _ => false

/-- Settles that a generated file is not up to date: it is missing, or older than its feature file.
A text that is at hand is not compared by times. -/
def preliminaryStandard (store : FileStore) (file : FeatureFile) (featurePath generatedPath : Text)
    (method : CheckMethod) : Option Bool :=
  if file.generated.isSome then none
  else if !store.pathExists generatedPath then some false
  else if method = .modificationTime ∧ file.feature.isNone ∧
      isNewer store featurePath generatedPath then some false
  else none

/-- Whether the fingerprint of a text is the expected one. -/
def contentStandard (header : HeaderFormat) (generated : Text) (expected : Fingerprint) :
    Except (Option Text) Bool :=
  match header.readFingerprint generated with
  | .ok found => .ok (found = expected)
  | .error (.error _) => .ok false
  | .error (.crash message) => .error message

/-- The standard checker for a format of headers. -/
def standard (header : HeaderFormat) : Checker :=
  { preliminary := preliminaryStandard
    content := fun generated expected _ => contentStandard header generated expected }

end Checker

end FeatureFixtures
