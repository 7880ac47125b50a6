import FeatureFixtures.Text.Basic

/-!
# Versions

A version has three numbers, the identifiers of a pre-release and those of a build; most versions
have neither. The text form separates the numbers and the identifiers by dots and puts a hyphen
before the pre-release and a plus sign before the build.
-/

namespace FeatureFixtures

/-- A semantic version. -/
structure Version where
  major : Nat
  minor : Nat
  patch : Nat
  preRelease : List Text := []
  build : List Text := []
deriving DecidableEq, Repr, Inhabited

namespace Version

/-- Identifiers after their sign; nothing when there are none. -/
def identifierText (sign : Char) (identifiers : List Text) : Text :=
  if identifiers.isEmpty then [] else sign :: Text.join ['.'] identifiers

/-- The text form of a version. -/
def toText (version : Version) : Text :=
  Text.ofNat version.major ++ '.' :: Text.ofNat version.minor ++ '.' :: Text.ofNat version.patch ++
    identifierText '-' version.preRelease ++ identifierText '+' version.build

/-- The version of this program and of the generator that is built into it. -/
def current : Version :=
  { major := 1, minor := 2, patch := 0 }

end Version

end FeatureFixtures
