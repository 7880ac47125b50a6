import FeatureFixtures.Toml.Basic

/-!
# Settings text: numbers and dates

An integer is written in decimal with an optional sign, or in hexadecimal, octal or binary without
one, and fits into 64 bits. An underscore may stand between any two digits. A number with a fraction
or an exponent must not be too large for a binary fraction of double precision. A date, a time of
day, or both with an optional offset must exist in the calendar and on the clock.
-/

namespace FeatureFixtures

namespace Toml

/-- Digits after the first one: each may have one underscore before it. -/
def takeDigits (isDigit : Char → Bool) : Text → Text × Text
  | '_' :: c :: rest =>
    if isDigit c then
      let (digits, rest) := takeDigits isDigit rest
      (c :: digits, rest)
    else ([], '_' :: c :: rest)
  | c :: rest =>
    if isDigit c then
      let (digits, rest) := takeDigits isDigit rest
      (c :: digits, rest)
    else ([], c :: rest)
  | [] => ([], [])

/-- Digits, at least one, without their underscores. -/
def readDigits (isDigit : Char → Bool) : Text → Option (Text × Text)
  | c :: rest =>
    if isDigit c then
      let (digits, rest) := takeDigits isDigit rest
      some (c :: digits, rest)
    else none
  | [] => none

/-- Digits that are a lone zero or do not begin with a zero. -/
def readWhole : Text → Option (Text × Text)
  | '0' :: rest => some (['0'], rest)
  | t => readDigits Char.isDigit t

/-- A sign, if there is one: whether it is a minus sign. -/
def readSign : Text → Bool × Text
  | '-' :: rest => (true, rest)
  | '+' :: rest => (false, rest)
  | t => (false, t)

/-- An integer if it fits into 64 bits. -/
def fit? (value : Int) : Option Value :=
  if Int64.minValue.toInt ≤ value ∧ value ≤ Int64.maxValue.toInt then some (.integer value)
  else none

/-- An integer in a base that is a power of two. -/
def readInBase (base : Nat) (t : Text) : Option (Value × Text) := do
  let digitValue? c := (Text.hexValue? c).filter (· < base)
  let (digits, rest) ← readDigits (fun c => (digitValue? c).isSome) t
  let value := digits.foldl (fun value c => base * value + (digitValue? c).getD 0) 0
  return (← fit? value, rest)

/-- An integer. -/
def readInteger : Text → Option (Value × Text)
  | '0' :: 'x' :: rest => readInBase 16 rest
  | '0' :: 'o' :: rest => readInBase 8 rest
  | '0' :: 'b' :: rest => readInBase 2 rest
  | t => do
    let (isNegative, t) := readSign t
    let (digits, rest) ← readWhole t
    let value : Int := Text.digitsValue digits
    return (← fit? (if isNegative then -value else value), rest)

/-- Whether a number of the form `m · 10 ^ e` is rounded to infinity in double precision. The number
of digits decides unless it is the number of digits of the bound. -/
def overflows (m : Nat) (e : Int) : Bool :=
  let digits : Int := (Text.ofNat m).length
  if m = 0 ∨ digits + e ≤ 308 then false
  else if 310 ≤ digits + e then true
  else
    let bound := Nat.pow 2 1024 - Nat.pow 2 970
    if 0 ≤ e then bound ≤ m * Nat.pow 10 e.toNat else bound * Nat.pow 10 (-e).toNat ≤ m

/-- A fraction after its point; none is no digits. -/
def readFraction : Text → Option (Text × Text)
  | '.' :: rest => readDigits Char.isDigit rest
  | t => some ([], t)

/-- An exponent after its letter; none is zero. -/
def readExponent : Text → Option (Int × Text)
  | c :: rest =>
    if c = 'e' ∨ c = 'E' then do
      let (isNegative, rest) := readSign rest
      let (digits, rest) ← readDigits Char.isDigit rest
      let value : Int := Text.digitsValue digits
      return (if isNegative then -value else value, rest)
    else some (0, c :: rest)
  | [] => some (0, [])

/-- Infinity and the number that is none, after the sign. -/
def readSpecial (t : Text) : Option (Value × Text) :=
  match Text.after? "inf" t with
  | some rest => some (.fraction, rest)
  | none => (Text.after? "nan" t).map (.fraction, ·)

/-- Whether a character opens a fraction or an exponent. -/
def isFractionStart (c : Char) : Bool :=
  c == '.' || c == 'e' || c == 'E'

/-- A number with a fraction, an exponent or both. -/
def readFractional (t : Text) : Option (Value × Text) := do
  let (isNegative, t) := readSign t
  let (whole, afterWhole) ← readWhole t
  if !afterWhole.head?.any isFractionStart then none
  let (fraction, afterFraction) ← readFraction afterWhole
  let (exponent, rest) ← readExponent afterFraction
  let m := Text.digitsValue (whole ++ fraction)
  if !isNegative && overflows m (exponent - fraction.length) then none
  return (.fraction, rest)

/-- A number of a fixed count of digits within bounds. -/
def readClock (count low high : Nat) (t : Text) : Option (Nat × Text) :=
  let digits := t.take count
  let value := Text.digitsValue digits
  if digits.length = count ∧ digits.all Char.isDigit ∧ low ≤ value ∧ value ≤ high then
    some (value, t.drop count)
  else none

/-- How many days a month has. -/
def daysOfMonth (year month : Nat) : Nat :=
  if month = 2 then
    if year % 4 = 0 ∧ (year % 100 ≠ 0 ∨ year % 400 = 0) then 29 else 28
  else if month = 4 ∨ month = 6 ∨ month = 9 ∨ month = 11 then 30
  else 31

/-- What follows a day. -/
def skipDay? (t : Text) : Option Text := do
  let (year, t) ← readClock 4 0 9999 t
  let (month, t) ← readClock 2 1 12 (← expect? '-' t)
  let (_, t) ← readClock 2 1 (daysOfMonth year month) (← expect? '-' t)
  return t

/-- What follows hours and minutes. -/
def skipMinutes? (t : Text) : Option Text := do
  let (_, t) ← readClock 2 0 23 t
  let (_, t) ← readClock 2 0 59 (← expect? ':' t)
  return t

/-- What follows a time of day. -/
def skipTime? (t : Text) : Option Text := do
  let (_, t) ← readClock 2 0 60 (← expect? ':' (← skipMinutes? t))
  match t with
  | '.' :: c :: rest =>
    return if c.isDigit then rest.dropWhile Char.isDigit else t
  | t => return t

/-- What follows an offset. -/
def skipOffset? : Text → Option Text
  | 'Z' :: rest | 'z' :: rest => some rest
  | '+' :: rest | '-' :: rest => skipMinutes? rest
  | _ => none

/-- What follows a time of day after a day, with its offset. -/
def skipTimeOfDay? : Text → Option Text
  | c :: rest =>
    if c = 'T' ∨ c = 't' ∨ c = ' ' then do
      let t ← skipTime? rest
      return (skipOffset? t).getD t
    else none
  | [] => none

/-- A day, a time of day, or both. -/
def readDate (t : Text) : Option (Value × Text) :=
  match skipDay? t with
  | some rest => some (.date, (skipTimeOfDay? rest).getD rest)
  | none => (skipTime? t).map (.date, ·)

/-- A number or a date. -/
def readNumber (t : Text) : Option (Value × Text) :=
  readDate t <|> readFractional t <|> readSpecial (readSign t).2 <|> readInteger t

end Toml

end FeatureFixtures
