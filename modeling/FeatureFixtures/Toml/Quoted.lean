import FeatureFixtures.Toml.Basic

/-!
# Settings text: strings and keys

A string stands between quotation marks or between apostrophes. Only between quotation marks does a
backslash have a meaning. Three marks in a row open a string that may go over several lines; a line
end right after them is dropped, and all others become line feeds. Such a string ends with the next
three marks, and up to two more marks right before them belong to it.
-/

namespace FeatureFixtures

namespace Toml

/-- The value of hexadecimal digits. -/
def hexDigitsValue? (digits : Text) : Option Nat :=
  digits.foldlM (fun value c => (Text.hexValue? c).map (16 * value + ·)) 0

/-- The character with a given number, if there is one. -/
def charOfNumber? (n : Nat) : Option Char :=
  if h : n.isValidChar then some (Char.ofNatAux n h) else none

/-- A character given by a number of hexadecimal digits. -/
def readCharNumber (digits : Nat) (t : Text) : Option (Char × Text) := do
  if (t.take digits).length < digits then none
  let c ← charOfNumber? (← hexDigitsValue? (t.take digits))
  return (c, t.drop digits)

/-- The character that is written by what follows a backslash. -/
def readEscape : Text → Option (Char × Text)
  | 'b' :: rest => some ('\x08', rest)
  | 't' :: rest => some ('\t', rest)
  | 'n' :: rest => some ('\n', rest)
  | 'f' :: rest => some ('\x0c', rest)
  | 'r' :: rest => some ('\r', rest)
  | '"' :: rest => some ('"', rest)
  | '\\' :: rest => some ('\\', rest)
  | 'u' :: rest => readCharNumber 4 rest
  | 'U' :: rest => readCharNumber 8 rest
  | _ => none

/-- What follows a line end and all spaces and line ends after it, behind a backslash. -/
def skipContinuation? (bound : Nat) (t : Text) : Option Text := do
  let rest ← newline? (skipSpaces t)
  return skipBlankLines bound rest

/-- How many marks a text begins with. -/
def marksAhead (mark : Char) (t : Text) : Nat :=
  (t.takeWhile (· == mark)).length

/-- The rest of a string on one line. The number bounds the length. -/
def readLineString (mark : Char) : Nat → Text → Option (Text × Text)
  | 0, _ => none
  | n + 1, t =>
    match t with
    | [] => none
    | c :: rest =>
      if c = mark then some ([], rest)
      else if mark = '"' ∧ c = '\\' then do
        let (c, rest) ← readEscape rest
        let (s, rest) ← readLineString mark n rest
        return (c :: s, rest)
      else if isPlain c then do
        let (s, rest) ← readLineString mark n rest
        return (c :: s, rest)
      else none

/-- The rest of a string over several lines. The last number bounds the length. -/
def readLongString (bound : Nat) (mark : Char) : Nat → Text → Option (Text × Text)
  | 0, _ => none
  | n + 1, t =>
    match t with
    | [] => none
    | c :: rest =>
      if 3 ≤ marksAhead mark t then
        let extra := min (marksAhead mark t - 3) 2
        some (t.take extra, t.drop (extra + 3))
      else match newline? t with
      | some rest => do
        let (s, rest) ← readLongString bound mark n rest
        return ('\n' :: s, rest)
      | none =>
        if mark = '"' ∧ c = '\\' then
          match skipContinuation? bound rest with
          | some rest => readLongString bound mark n rest
          | none => do
            let (c, rest) ← readEscape rest
            let (s, rest) ← readLongString bound mark n rest
            return (c :: s, rest)
        else if isPlain c then do
          let (s, rest) ← readLongString bound mark n rest
          return (c :: s, rest)
        else none

/-- A string on one line, with the mark that opens it. -/
def readShort (bound : Nat) : Text → Option (Text × Text)
  | '"' :: rest => readLineString '"' bound rest
  | '\'' :: rest => readLineString '\'' bound rest
  | _ => none

/-- A string. -/
def readString (bound : Nat) (t : Text) : Option (Text × Text) :=
  match t with
  | c :: rest =>
    if (c = '"' ∨ c = '\'') ∧ Text.startsWith rest [c, c] then
      let rest := rest.drop 2
      let rest := (newline? rest).getD rest
      readLongString bound c bound rest
    else readShort bound t
  | [] => none

/-- Whether a character may stand in a key without marks. -/
def isKeyChar (c : Char) : Bool :=
  c.isAlphanum || c == '-' || c == '_'

/-- One key. -/
def readKey (bound : Nat) (t : Text) : Option (Text × Text) :=
  match t.takeWhile isKeyChar with
  | [] => readShort bound t
  | key => some (key, t.dropWhile isKeyChar)

/-- Keys with dots between them and spaces around each, at most as many as given. -/
def readKeys (bound : Nat) : Nat → Text → Option (List Text × Text)
  | 0, _ => none
  | n + 1, t => do
    let (key, rest) ← readKey bound (skipSpaces t)
    match skipSpaces rest with
    | '.' :: rest =>
      let (keys, rest) ← readKeys bound n rest
      return (key :: keys, rest)
    | rest => return ([key], rest)

/-- How deep keys and values may be nested. -/
def nestingLimit : Nat := 79

/-- The keys that lead to a value, the last one apart from those above it. -/
def readPath (bound : Nat) (t : Text) : Option ((List Text × Text) × Text) := do
  let (keys, rest) ← readKeys bound nestingLimit t
  let last ← keys.getLast?
  return ((keys.dropLast, last), rest)

end Toml

end FeatureFixtures
