import FeatureFixtures.Version.Basic

/-!
# Resolutions

Which generator a project asks for is looked up before each generation. The lookup never fails: it
ends either with an installed generator or with a reason why there is none, and then the built-in
generator is used.
-/

namespace FeatureFixtures

/-- A generator of a version in some folder. -/
structure Installation where
  version : Version
  location : Text
deriving DecidableEq, Repr, Inhabited

/-- Why no generator is known. -/
inductive UnknownReason where
  /-- The project asks for none. -/
  | notConfigured
  /-- The project names a version without a folder, or a folder without a version. -/
  | incomplete (missing : Text)
  /-- What the project names is no version, or no requirement on versions. -/
  | invalidVersion (found : Text)
  /-- The lookup could not be done. -/
  | lookupFailed (cause : Text)
  /-- No installed generator satisfies the requirement. -/
  | noMatch (requirement : Text)
deriving DecidableEq, Repr, Inhabited

/-- The wording of a reason. -/
def UnknownReason.message : UnknownReason → Text
  | .notConfigured => "no generator configured"
  | .incomplete missing => "incomplete generator configuration: " ++ missing
  | .invalidVersion found => "invalid generator version '" ++ found ++ "'"
  | .lookupFailed cause => "generator lookup failed: " ++ cause
  | .noMatch requirement => "no installed generator matches '" ++ requirement ++ "'"

/-- How a lookup ends. -/
inductive Resolution where
  | resolved (installation : Installation)
  | unknown (reason : UnknownReason)
deriving DecidableEq, Repr, Inhabited

namespace Resolution

/-- The generator that was found. -/
def installation? : Resolution → Option Installation
  | resolved installation => some installation
  | unknown _ => none

/-- The version of the generator that will be used, given that of the built-in one. -/
def effectiveVersion (resolution : Resolution) (builtin : Version) : Version :=
  match resolution with
  | resolved installation => installation.version
  | unknown _ => builtin

/-- The text form of a resolution. -/
def toText : Resolution → Text
  | resolved installation => installation.version.toText ++ " at " ++ installation.location
  | unknown reason => "unknown (" ++ reason.message ++ ")"

end Resolution

end FeatureFixtures
