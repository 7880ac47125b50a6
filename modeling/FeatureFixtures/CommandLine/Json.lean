import FeatureFixtures.Text.Basic

/-!
# Results as JSON

Results are written as JSON for other programs to read: every element of a list and every field of
an object on a line of its own, each level indented by two more spaces. In strings, quotation marks,
backslashes and control characters below the space are escaped, the common ones by a letter.
-/

namespace FeatureFixtures

namespace CommandLine

/-- A value to be written as JSON. -/
inductive Json where
  | null
  | boolean (value : Bool)
  | number (value : Nat)
  | text (text : Text)
  | list (elements : List Json)
  | object (fields : List (Text × Json))
deriving Inhabited

namespace Json

/-- A character in a string. -/
def escapeChar (c : Char) : Text :=
  if c = '"' then "\\\""
  else if c = '\\' then "\\\\"
  else if c = '\x08' then "\\b"
  else if c = '\x0c' then "\\f"
  else if c = '\n' then "\\n"
  else if c = '\r' then "\\r"
  else if c = '\t' then "\\t"
  else if c.toNat < 0x20 then "\\u" ++ Text.hexPadded 4 c.toNat
  else [c]

/-- A string in quotation marks. -/
def quote (t : Text) : Text :=
  '"' :: t.flatMap escapeChar ++ ['"']

/-- The beginning of a line at some depth. -/
def newLine (depth : Nat) : Text :=
  '\n' :: List.replicate (2 * depth) ' '

mutual

/-- The text form of a value that stands at some depth. -/
def toTextAt (depth : Nat) : Json → Text
  | null => "null"
  | boolean true => "true"
  | boolean false => "false"
  | number n => Text.ofNat n
  | text t => quote t
  | list [] => "[]"
  | list (first :: rest) =>
    '[' :: newLine (depth + 1) ++ toTextAt (depth + 1) first ++ elementsText (depth + 1) rest ++
      newLine depth ++ [']']
  | object [] => "\x7b\x7d"
  | object ((name, value) :: rest) =>
    '\x7b' :: newLine (depth + 1) ++ quote name ++ ": " ++ toTextAt (depth + 1) value ++
      fieldsText (depth + 1) rest ++ newLine depth ++ ['\x7d']

/-- The elements of a list after the first one. -/
def elementsText (depth : Nat) : List Json → Text
  | [] => []
  | value :: rest => ',' :: newLine depth ++ toTextAt depth value ++ elementsText depth rest

/-- The fields of an object after the first one. -/
def fieldsText (depth : Nat) : List (Text × Json) → Text
  | [] => []
  | (name, value) :: rest =>
    ',' :: newLine depth ++ quote name ++ ": " ++ toTextAt depth value ++ fieldsText depth rest

end

/-- The text form of a value. -/
def toText (value : Json) : Text :=
  toTextAt 0 value

/-- An optional value. -/
def ofOption {α : Type} (f : α → Json) : Option α → Json
  | some x => f x
  | none => null

end Json

end CommandLine

end FeatureFixtures
