import FeatureFixtures.Version.Order
import FeatureFixtures.Version.Parser

/-!
# Version requirements

A requirement is a list of up to 32 comparators, all of which a version must satisfy; the
requirement without comparators is satisfied by every version that is no pre-release. A comparator
may leave out its last numbers or give wildcards for them. A pre-release satisfies a requirement
only if one of the comparators names a pre-release of the same three numbers, so that a plain
requirement never selects one. Build metadata is read and forgotten.
-/

namespace FeatureFixtures

namespace Version

/-- The relation that a comparator demands. -/
inductive Relation where
  | exact
  | greater
  | greaterEq
  | less
  | lessEq
  | tilde
  | caret
  | wildcard
deriving DecidableEq, Repr, Inhabited

/-- The sign of a relation. -/
def Relation.sign : Relation → Text
  | .exact => "="
  | .greater => ">"
  | .greaterEq => ">="
  | .less => "<"
  | .lessEq => "<="
  | .tilde => "~"
  | .caret => "^"
  | .wildcard => ""

/-- One condition on a version. -/
structure Comparator where
  relation : Relation
  major : Nat
  minor : Option Nat
  patch : Option Nat
  preRelease : List Text
deriving DecidableEq, Repr, Inhabited

/-- Conditions that a version must all satisfy. -/
abbrev Requirement := List Comparator

namespace Comparator

/-- The text form of a comparator. -/
def toText (c : Comparator) : Text :=
  let star : Text := if c.relation = .wildcard then ".*" else ""
  let numbers : Text := match c.minor, c.patch with
    | some minor, some patch =>
      '.' :: Text.ofNat minor ++ '.' :: Text.ofNat patch ++ identifierText '-' c.preRelease
    | some minor, none => '.' :: Text.ofNat minor ++ star
    | none, _ => star
  c.relation.sign ++ Text.ofNat c.major ++ numbers

/-- Whether a version agrees with a comparator in every number that is given. -/
def matchesExactly (c : Comparator) (v : Version) : Bool :=
  v.major == c.major && c.minor.all (v.minor == ·) && c.patch.all (v.patch == ·) &&
    v.preRelease == c.preRelease

/-- Whether a version lies on a given side of a comparator. -/
def matchesSide (side : Ordering) (c : Comparator) (v : Version) : Bool :=
  if v.major ≠ c.major then Ord.compare v.major c.major == side
  else match c.minor with
    | none => false
    | some minor =>
      if v.minor ≠ minor then Ord.compare v.minor minor == side
      else match c.patch with
        | none => false
        | some patch =>
          if v.patch ≠ patch then Ord.compare v.patch patch == side
          else comparePreReleases v.preRelease c.preRelease == side

/-- Whether the pre-release of a version is not before that of a comparator. -/
def preReleaseReached (c : Comparator) (v : Version) : Bool :=
  comparePreReleases v.preRelease c.preRelease != .lt

/-- Whether a version differs from a comparator at most by a later patch. -/
def matchesTilde (c : Comparator) (v : Version) : Bool :=
  if v.major ≠ c.major then false
  else if c.minor.any (v.minor ≠ ·) then false
  else match c.patch with
    | some patch => if v.patch ≠ patch then v.patch > patch else preReleaseReached c v
    | none => preReleaseReached c v

/-- Whether a version is compatible with a comparator: not before it, and equal up to the first
number that is not zero. -/
def matchesCaret (c : Comparator) (v : Version) : Bool :=
  if v.major ≠ c.major then false
  else match c.minor, c.patch with
    | none, _ => true
    | some minor, none => if c.major > 0 then v.minor ≥ minor else v.minor == minor
    | some minor, some patch =>
      if c.major > 0 then
        if v.minor ≠ minor then v.minor > minor
        else if v.patch ≠ patch then v.patch > patch
        else preReleaseReached c v
      else if v.minor ≠ minor then false
      else if minor > 0 then
        if v.patch ≠ patch then v.patch > patch else preReleaseReached c v
      else if v.patch ≠ patch then false
      else preReleaseReached c v

/-- Whether a version satisfies a comparator, pre-releases not yet considered. -/
def accepts (c : Comparator) (v : Version) : Bool :=
  match c.relation with
  | .exact | .wildcard => c.matchesExactly v
  | .greater => c.matchesSide .gt v
  | .greaterEq => c.matchesExactly v || c.matchesSide .gt v
  | .less => c.matchesSide .lt v
  | .lessEq => c.matchesExactly v || c.matchesSide .lt v
  | .tilde => c.matchesTilde v
  | .caret => c.matchesCaret v

/-- Whether a comparator names a pre-release of the three numbers of a version. -/
def admitsPreRelease (c : Comparator) (v : Version) : Bool :=
  c.major == v.major && c.minor == some v.minor && c.patch == some v.patch &&
    !c.preRelease.isEmpty

end Comparator

namespace Requirement

/-- The requirement without comparators. -/
def unrestricted : Requirement := []

/-- The text form of a requirement. -/
def toText (requirement : Requirement) : Text :=
  if requirement.isEmpty then "*" else Text.join ", " (requirement.map Comparator.toText)

/-- Whether a version satisfies a requirement. -/
def accepts (requirement : Requirement) (v : Version) : Bool :=
  requirement.all (·.accepts v) &&
    (v.preRelease.isEmpty || requirement.any (·.admitsPreRelease v))

/-- A text without the spaces at its beginning. -/
def skipSpaces (t : Text) : Text :=
  t.dropWhile (· == ' ')

/-- What follows a wildcard. -/
def afterWildcard? : Text → Option Text
  | '*' :: rest | 'x' :: rest | 'X' :: rest => some rest
  | _ => none

/-- The sign of a relation at the beginning of a text, and what follows it. -/
def readSign : Text → Option Relation × Text
  | '=' :: rest => (some .exact, rest)
  | '>' :: '=' :: rest => (some .greaterEq, rest)
  | '>' :: rest => (some .greater, rest)
  | '<' :: '=' :: rest => (some .lessEq, rest)
  | '<' :: rest => (some .less, rest)
  | '~' :: rest => (some .tilde, rest)
  | '^' :: rest => (some .caret, rest)
  | t => (none, t)

/-- A number of a comparator that may be left out. -/
inductive Component where
  | absent
  | wildcard
  | number (value : Nat)
deriving DecidableEq

/-- The value of a component, if it is given. -/
def Component.value? : Component → Option Nat
  | .number value => some value
  | .absent | .wildcard => none

/-- Reads a component that follows a dot. -/
def readComponent (field : Field) : Text → Option (Component × Text)
  | '.' :: rest =>
    match afterWildcard? rest with
    | some rest => some (.wildcard, rest)
    | none => (readNumber field rest).toOption.map fun (value, rest) => (.number value, rest)
  | t => some (.absent, t)

/-- Reads a comparator, and gives what follows it. After a wildcard for the minor number, no patch
number is allowed; without a patch number, no pre-release or build is read. -/
def readComparator (t : Text) : Option (Comparator × Text) := do
  let (sign, t) := readSign t
  let (major, t) ← (readNumber .major (skipSpaces t)).toOption
  let (minor, t) ← readComponent .minor t
  let (patch, t) ← readComponent .patch t
  if minor = .wildcard && patch.value?.isSome then none
  let (preRelease, t) ←
    if patch.value?.isSome then (readSigned '-' .preRelease t).toOption else some ([], t)
  let (_, t) ← if patch.value?.isSome then (readSigned '+' .build t).toOption else some ([], t)
  let hasWildcard := minor = .wildcard || patch = .wildcard
  let relation := sign.getD (if hasWildcard then .wildcard else .caret)
  return ({ relation, major, minor := minor.value?, patch := patch.value?, preRelease },
    skipSpaces t)

/-- Reads comparators separated by commas, at most as many as given. -/
def readComparators : Nat → Text → Option Requirement
  | 0, _ => none
  | n + 1, t => do
    let (comparator, t) ← readComparator t
    match t with
    | [] => some [comparator]
    | ',' :: rest => return comparator :: (← readComparators n (skipSpaces rest))
    | _ => none

/-- Reads a requirement. -/
def parse? (t : Text) : Option Requirement :=
  let t := skipSpaces t
  match afterWildcard? t with
  | some rest => if (skipSpaces rest).isEmpty then some unrestricted else none
  | none => readComparators 32 t

end Requirement

end Version

end FeatureFixtures
