import FeatureFixtures.Version.Basic

/-!
# The order of versions

Versions are compared by their numbers, then by their pre-releases, then by their builds. A version
without a pre-release comes after those with one; a version without a build comes before those with
one. Identifiers are compared one by one, a list that goes on coming later: those of digits alone
come first and are compared as numbers, all others by their characters. Among builds, leading zeros
count last; pre-releases have none.
-/

namespace FeatureFixtures

/-- Compares two texts character by character; a text that goes on comes later. -/
def Text.compare : Text → Text → Ordering
  | [], [] => .eq
  | [], _ :: _ => .lt
  | _ :: _, [] => .gt
  | a :: s, b :: t => (Ord.compare a.toNat b.toNat).then (Text.compare s t)

namespace Version

/-- Compares two lists element by element; a list that goes on comes later. -/
def compareLists (compareElements : Text → Text → Ordering) : List Text → List Text → Ordering
  | [], [] => .eq
  | [], _ :: _ => .lt
  | _ :: _, [] => .gt
  | a :: s, b :: t => (compareElements a b).then (compareLists compareElements s t)

/-- Whether an identifier is written in digits alone. -/
def isNumeric (identifier : Text) : Bool :=
  identifier.all Char.isDigit

/-- Compares two identifiers, given how those of digits are compared. -/
def compareBy (compareNumbers : Text → Text → Ordering) (a b : Text) : Ordering :=
  match isNumeric a, isNumeric b with
  | true, true => compareNumbers a b
  | true, false => .lt
  | false, true => .gt
  | false, false => Text.compare a b

/-- Compares two numbers without leading zeros by their digits. -/
def compareDigits (a b : Text) : Ordering :=
  (Ord.compare a.length b.length).then (Text.compare a b)

/-- Compares two numbers by their values, and equal ones by their leading zeros. -/
def comparePadded (a b : Text) : Ordering :=
  (compareDigits (a.dropWhile (· == '0')) (b.dropWhile (· == '0'))).then
    (Ord.compare a.length b.length)

/-- Compares two pre-releases. -/
def comparePreReleases (a b : List Text) : Ordering :=
  match a, b with
  | [], [] => .eq
  | [], _ :: _ => .gt
  | _ :: _, [] => .lt
  | a, b => compareLists (compareBy compareDigits) a b

/-- Compares two builds. -/
def compareBuilds (a b : List Text) : Ordering :=
  compareLists (compareBy comparePadded) a b

/-- Compares two versions. -/
def compare (a b : Version) : Ordering :=
  (Ord.compare a.major b.major).then <|
  (Ord.compare a.minor b.minor).then <|
  (Ord.compare a.patch b.patch).then <|
  (comparePreReleases a.preRelease b.preRelease).then <|
  compareBuilds a.build b.build

end Version

end FeatureFixtures
