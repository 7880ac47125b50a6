import FeatureFixtures.Text.Printable
import FeatureFixtures.Version.Basic

/-!
# Reading versions

A version is read from left to right, and the first fault is reported together with the part in
which it is found. Numbers have no leading zero and fit into 64 bits; the same holds of identifiers
of digits alone in a pre-release, except for the size. Identifiers consist of ASCII letters, digits
and hyphens and are never empty.
-/

namespace FeatureFixtures

namespace Version

/-- A part of the text form of a version. -/
inductive Field where
  | major
  | minor
  | patch
  | preRelease
  | build
deriving DecidableEq, Repr, Inhabited

/-- The wording of a part. -/
def Field.name : Field → Text
  | .major => "major version number"
  | .minor => "minor version number"
  | .patch => "patch version number"
  | .preRelease => "pre-release identifier"
  | .build => "build metadata"

/-- Why a text is no version. -/
inductive Fault where
  | empty
  | unexpectedEnd (field : Field)
  | unexpected (field : Field) (found : Char)
  | unexpectedAfter (field : Field) (found : Char)
  | leadingZero (field : Field)
  | tooLarge (field : Field)
  | emptyIdentifier (field : Field)
deriving DecidableEq, Repr, Inhabited

/-- The wording of a fault. -/
def Fault.message : Fault → Text
  | .empty => "empty string, expected a semver version"
  | .unexpectedEnd field => "unexpected end of input while parsing " ++ field.name
  | .unexpected field found =>
    "unexpected character " ++ Text.quoteChar found ++ " while parsing " ++ field.name
  | .unexpectedAfter field found =>
    "unexpected character " ++ Text.quoteChar found ++ " after " ++ field.name
  | .leadingZero field => "invalid leading zero in " ++ field.name
  | .tooLarge field => "value of " ++ field.name ++ " exceeds u64::MAX"
  | .emptyIdentifier field => "empty identifier segment in " ++ field.name

/-- Whether digits begin with a zero that is not the only one. -/
def hasLeadingZero : Text → Bool
  | '0' :: _ :: _ => true
  | _ => false

/-- Reads a number, and gives what follows it. -/
def readNumber (field : Field) (t : Text) : Except Fault (Nat × Text) :=
  let digits := t.takeWhile Char.isDigit
  let rest := t.dropWhile Char.isDigit
  if digits.isEmpty then
    match rest with
    | [] => .error (.unexpectedEnd field)
    | c :: _ => .error (.unexpected field c)
  else if hasLeadingZero digits then .error (.leadingZero field)
  else if Text.digitsValue digits < UInt64.size then .ok (Text.digitsValue digits, rest)
  else .error (.tooLarge field)

/-- Reads the dot after a number. -/
def readDot (field : Field) : Text → Except Fault Text
  | '.' :: rest => .ok rest
  | c :: _ => .error (.unexpectedAfter field c)
  | [] => .error (.unexpectedEnd field)

/-- Whether a character may stand in an identifier. -/
def isIdentifierChar (c : Char) : Bool :=
  c.isAlphanum || c == '-'

/-- Whether a character may stand in a list of identifiers. -/
def isIdentifierListChar (c : Char) : Bool :=
  isIdentifierChar c || c == '.'

/-- Checks one identifier. -/
def checkIdentifier (field : Field) (identifier : Text) : Except Fault Text :=
  if identifier.isEmpty then .error (.emptyIdentifier field)
  else if field = .preRelease && identifier.all Char.isDigit && hasLeadingZero identifier then
    .error (.leadingZero field)
  else .ok identifier

/-- Reads identifiers between dots, and gives what follows them. -/
def readIdentifiers (field : Field) (t : Text) : Except Fault (List Text × Text) := do
  let identifiers := (t.takeWhile isIdentifierListChar).splitOn '.'
  return (← identifiers.mapM (checkIdentifier field), t.dropWhile isIdentifierListChar)

/-- Reads identifiers that follow a sign; without the sign there are none. -/
def readSigned (sign : Char) (field : Field) (t : Text) : Except Fault (List Text × Text) :=
  match t with
  | c :: rest => if c = sign then readIdentifiers field rest else .ok ([], t)
  | [] => .ok ([], t)

/-- The last part that was read of a version. -/
def lastField (preRelease build : List Text) : Field :=
  if !build.isEmpty then .build else if !preRelease.isEmpty then .preRelease else .patch

/-- Reads a version. -/
def parse (t : Text) : Except Fault Version := do
  if t.isEmpty then throw .empty
  let (major, t) ← readNumber .major t
  let t ← readDot .major t
  let (minor, t) ← readNumber .minor t
  let t ← readDot .minor t
  let (patch, t) ← readNumber .patch t
  let (preRelease, t) ← readSigned '-' .preRelease t
  let (build, t) ← readSigned '+' .build t
  match t with
  | [] => return { major, minor, patch, preRelease, build }
  | c :: _ => throw (.unexpectedAfter (lastField preRelease build) c)

end Version

end FeatureFixtures
