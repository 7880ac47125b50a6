import FeatureFixtures.Text.Basic

/-!
# Settings text: values and layout

Settings are written as TOML. This module has the values that such a text can hold and the layout
between them: spaces and tabs, comments and the ends of lines. Every reader takes the text that is
still to be read and gives what it has read together with the rest, or nothing at a fault; all
faults are alike, because a text with a fault is refused as a whole. Readers that go on and on are
bounded by a number above the length of the whole text, which they never come to.
-/

namespace FeatureFixtures

namespace Toml

/-- A value. Fractions and dates can be written but no setting asks for one, so only their presence
is kept. -/
inductive Value where
  | text (text : Text)
  | integer (value : Int)
  | fraction
  | boolean (value : Bool)
  | date
  | array (elements : List Value)
  | table (entries : List (Text × Value))
deriving Repr, Inhabited

/-- Whether a character is a space or a tab. -/
def isSpace (c : Char) : Bool :=
  c == ' ' || c == '\t'

/-- Whether a character may stand in comments and strings: anything but control characters, of which
only the tab is allowed. -/
def isPlain (c : Char) : Bool :=
  c == '\t' || (0x20 ≤ c.toNat && c.toNat ≠ 0x7F)

/-- What follows the spaces and tabs at the beginning. -/
def skipSpaces (t : Text) : Text :=
  t.dropWhile isSpace

/-- What follows the end of a line. A carriage return ends a line only together with a line feed. -/
def newline? : Text → Option Text
  | '\n' :: rest => some rest
  | '\r' :: '\n' :: rest => some rest
  | _ => none

/-- What follows a comment, if there is one. -/
def skipComment : Text → Text
  | '#' :: rest => rest.dropWhile isPlain
  | t => t

/-- What follows spaces, a comment and the end of a line, or of the whole text. -/
def endOfLine? (t : Text) : Option Text :=
  match skipComment (skipSpaces t) with
  | [] => some []
  | t => newline? t

/-- What follows spaces and ends of lines, with a given way to come from the beginning of a line to
its end. The number bounds how many lines are passed. -/
def skipLinesWith (skipLine : Text → Text) : Nat → Text → Text
  | 0, t => t
  | n + 1, t =>
    match newline? (skipLine t) with
    | some rest => skipLinesWith skipLine n rest
    | none => skipSpaces t

/-- What follows spaces and ends of lines. -/
def skipBlankLines (bound : Nat) (t : Text) : Text :=
  skipLinesWith skipSpaces bound t

/-- What follows spaces, comments and ends of lines. -/
def skipLines (bound : Nat) (t : Text) : Text :=
  skipLinesWith (fun t => skipComment (skipSpaces t)) bound t

/-- What follows a given character. -/
def expect? (c : Char) (t : Text) : Option Text :=
  Text.after? [c] t

end Toml

end FeatureFixtures
