/-!
# Texts

A text is the list of its characters, so every rule about lines, titles, cells and paths is a
function by recursion on that list. A string literal stands for its list wherever a text is
expected. Numbers are written in decimal or lower-case hexadecimal without leading zeros unless a
width is given.
-/

namespace FeatureFixtures

/-- A text is the list of its characters. -/
abbrev Text := List Char

instance : Coe String Text := ⟨String.toList⟩

namespace Text

/-- A number in decimal. -/
def ofNat (n : Nat) : Text :=
  Nat.toDigits 10 n

/-- A number in lower-case hexadecimal. -/
def hex (n : Nat) : Text :=
  Nat.toDigits 16 n

/-- A number in lower-case hexadecimal, filled up with leading zeros to a width. -/
def hexPadded (width n : Nat) : Text :=
  List.replicate (width - (hex n).length) '0' ++ hex n

/-- The value of decimal digits. -/
def digitsValue (digits : Text) : Nat :=
  digits.foldl (fun value digit => 10 * value + (digit.toNat - '0'.toNat)) 0

/-- The value of a hexadecimal digit in either case. -/
def hexValue? (c : Char) : Option Nat :=
  if '0' ≤ c ∧ c ≤ '9' then some (c.toNat - '0'.toNat)
  else if 'a' ≤ c ∧ c ≤ 'f' then some (c.toNat - 'a'.toNat + 10)
  else if 'A' ≤ c ∧ c ≤ 'F' then some (c.toNat - 'A'.toNat + 10)
  else none

/-- What follows a given beginning of a text, if the text begins so. -/
def after? : Text → Text → Option Text
  | [], t => some t
  | _ :: _, [] => none
  | p :: ps, c :: cs => if p = c then after? ps cs else none

/-- Whether a text begins with another one. -/
def startsWith (t beginning : Text) : Bool :=
  (after? beginning t).isSome

/-- Whether a text ends with a given character. -/
def endsWith (t : Text) (c : Char) : Bool :=
  t.getLast? == some c

/-- The parts of a text with a separator between each two of them. -/
def join (separator : Text) (parts : List Text) : Text :=
  separator.intercalate parts

/-- Replaces every occurrence of a pattern, searching from the left; occurrences do not overlap and
what was put in is not searched again. The counter tells how many characters of the last occurrence
are still to be passed over. -/
def replaceFrom (pattern value : Text) : Nat → Text → Text
  | _, [] => []
  | n + 1, _ :: t => replaceFrom pattern value n t
  | 0, c :: t =>
    if startsWith (c :: t) pattern then value ++ replaceFrom pattern value (pattern.length - 1) t
    else c :: replaceFrom pattern value 0 t

/-- Replaces every occurrence of a non-empty pattern, searching from the left. -/
def replaceAll (pattern value t : Text) : Text :=
  replaceFrom pattern value 0 t

theorem after?_eq_some_iff {beginning t rest : Text} :
    after? beginning t = some rest ↔ t = beginning ++ rest := by
  induction beginning generalizing t with
  | nil => simp [after?, eq_comm]
  | cons p ps ih =>
    cases t with
    | nil => simp [after?]
    | cons c cs =>
      by_cases h : p = c
      · simp [after?, h, ih]
      · simp [after?, h, Ne.symm h]

theorem startsWith_iff {t beginning : Text} :
    startsWith t beginning = true ↔ ∃ rest, t = beginning ++ rest := by
  simp [startsWith, Option.isSome_iff_exists, after?_eq_some_iff]

end Text

end FeatureFixtures
