import FeatureFixtures.Toml.Number
import FeatureFixtures.Toml.Quoted
import FeatureFixtures.Toml.Table

/-!
# Settings text: the whole document

A document consists of lines: pairs of a key and a value, and headers, each of which opens a
section. The pairs before the first header belong to the top. A value may be an array, which may go
over several lines and end with a comma, or a table in braces, which may not.
-/

namespace FeatureFixtures

namespace Toml

/-- The values of an array after its bracket, given a reader for one value. The last number bounds
how many there are. -/
def readElements (bound : Nat) (readValue : Text → Option (Value × Text)) : Nat → Text →
    Option (List Value × Text)
  | 0, _ => none
  | n + 1, t =>
    match skipLines bound t with
    | ']' :: rest => some ([], rest)
    | t => do
      let (value, rest) ← readValue t
      match skipLines bound rest with
      | ',' :: rest => do
        let (values, rest) ← readElements bound readValue n rest
        return (value :: values, rest)
      | ']' :: rest => return ([value], rest)
      | _ => none

/-- A key and its value, given a reader for the value. -/
def readPair (bound : Nat) (readValue : Text → Option (Value × Text)) (t : Text) :
    Option (Pair × Text) := do
  let ((path, key), rest) ← readPath bound t
  let (value, rest) ← readValue (skipSpaces (← expect? '=' rest))
  return ({ path, key, value }, rest)

/-- The pairs of a table in braces after one of them must follow, given a reader for one value. The
last number bounds how many there are. -/
def readPairs (bound : Nat) (readValue : Text → Option (Value × Text)) : Nat → Text →
    Option (List Pair × Text)
  | 0, _ => none
  | n + 1, t => do
    let (pair, rest) ← readPair bound readValue t
    match skipSpaces rest with
    | ',' :: rest => do
      let (pairs, rest) ← readPairs bound readValue n rest
      return (pair :: pairs, rest)
    | '}' :: rest => return ([pair], rest)
    | _ => none

/-- A table in braces after the first of them, given a reader for one value. -/
def readTable (bound : Nat) (readValue : Text → Option (Value × Text)) (t : Text) :
    Option (Value × Text) :=
  match skipSpaces t with
  | '}' :: rest => some (.table [], rest)
  | t => do
    let (pairs, rest) ← readPairs bound readValue bound t
    return (← tableValue? pairs, rest)

/-- A truth value. -/
def readBoolean (t : Text) : Option (Value × Text) :=
  match Text.after? "true" t with
  | some rest => some (.boolean true, rest)
  | none => (Text.after? "false" t).map (.boolean false, ·)

/-- A value in which others are nested at most as deep as given. -/
def readValue (bound : Nat) : Nat → Text → Option (Value × Text)
  | depth, t =>
    match t, depth with
    | '[' :: rest, depth + 1 => do
      let (elements, rest) ← readElements bound (readValue bound depth) bound rest
      return (.array elements, rest)
    | '{' :: rest, depth + 1 => readTable bound (readValue bound depth) rest
    | t, _ =>
      (readString bound t).map (fun (s, rest) => (.text s, rest)) <|> readBoolean t <|> readNumber t

/-- The header of a section, behind its first bracket. -/
def readOpening (bound : Nat) : Text → Option (Opening × Text)
  | '[' :: rest => do
    let ((path, key), rest) ← readPath bound rest
    return (.element path key, ← Text.after? [']', ']'] rest)
  | t => do
    let ((path, key), rest) ← readPath bound t
    return (.table path key, ← expect? ']' rest)

/-- The pairs before the first header and the sections after it. The last number bounds how many
lines there are. -/
def readSections (bound : Nat) : Nat → Text → Option (List Pair × List Section)
  | 0, _ => none
  | n + 1, t =>
    match skipSpaces t with
    | [] => some ([], [])
    | '[' :: rest => do
      let (opening, rest) ← readOpening bound rest
      let (pairs, sections) ← readSections bound n (← endOfLine? rest)
      return ([], { opening, pairs } :: sections)
    | t =>
      match endOfLine? t with
      | some rest => readSections bound n rest
      | none => do
        let (pair, rest) ← readPair bound (readValue bound nestingLimit) t
        let (pairs, sections) ← readSections bound n (← endOfLine? rest)
        return (pair :: pairs, sections)

/-- A text without a byte order mark at its beginning. -/
def dropMark : Text → Text
  | '\uFEFF' :: rest => rest
  | t => t

/-- The table at the top of a document. -/
def parse? (t : Text) : Option (List (Text × Value)) := do
  let bound := t.length + 1
  let (pairs, sections) ← readSections bound bound (dropMark t)
  let entries ← Entries.addAll [] pairs
  return entriesValues (← sections.foldlM Entries.addSection entries)

end Toml

end FeatureFixtures
