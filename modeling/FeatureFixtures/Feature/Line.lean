import FeatureFixtures.Feature.Basic
import FeatureFixtures.Text.Blank

/-!
# Lines of a feature file

A feature file is read line by line, and what a line is can be told from the line alone: blanks at
its ends do not matter, and the first form that fits wins. A keyword line is a keyword, blanks, a
colon and a title. A step line is a step keyword that ends the line or is followed by a blank. A
table row stands between two bars, and a line of three quotation marks opens a text of several
lines.
-/

namespace FeatureFixtures

/-- What a line of a feature file is. -/
inductive Line where
  /-- An empty line or a comment. -/
  | ignored
  /-- A line of tags, as the words that stand on it. -/
  | tags (words : List Text)
  | feature (title : Text)
  | background
  | outline (title : Text)
  | scenario (title : Text)
  | examples
  /-- A table row with its cells, if the row is closed by a bar. -/
  | row (cells : Option (List Text))
  /-- The opening of a text of several lines, with the width of the indentation before it. -/
  | docString (indent : Nat)
  | step (keyword : StepKeyword) (text : Text)
  | other
deriving DecidableEq, Repr, Inhabited

namespace Line

/-- The mark that opens and closes a text of several lines. -/
def docStringMark : Text := "\"\"\""

/-- The title on a line that opens with a keyword and a colon. -/
def titleAfter? (keyword line : Text) : Option Text :=
  match Text.after? keyword line with
  | some rest => (Text.after? [':'] (Text.trimStart rest)).map Text.trim
  | none => none

/-- The text of a step line that opens with a given keyword. -/
def stepAfter? (keyword : StepKeyword) (line : Text) : Option Text :=
  match Text.after? keyword.spelling line with
  | some [] => some []
  | some (c :: rest) => if isBlank c then some (Text.trim (c :: rest)) else none
  | none => none

/-- The keyword and the text of a step line. -/
def step? (line : Text) : Option (StepKeyword × Text) :=
  StepKeyword.all.findSome? fun keyword => (stepAfter? keyword line).map (keyword, ·)

/-- The cells between the bars of a table row, if it begins and ends with one. -/
def cells? : Text → Option (List Text)
  | '|' :: c :: rest =>
    if Text.endsWith (c :: rest) '|' then
      some (((c :: rest).dropLast.splitOn '|').map Text.trim)
    else none
  | _ => none

/-- Whether a character indents a line. -/
def isIndent (c : Char) : Bool :=
  c == ' ' || c == '\t'

/-- The number of spaces and tabs that a line begins with. -/
def indentOf (line : Text) : Nat :=
  (line.takeWhile isIndent).length

/-- A line without the spaces and tabs at its beginning, but at most so many of them. -/
def unindent : Nat → Text → Text
  | 0, line => line
  | _, [] => []
  | n + 1, c :: rest => if isIndent c then unindent n rest else c :: rest

/-- Whether a line opens or closes a text of several lines. -/
def isDocStringMark (line : Text) : Bool :=
  Text.startsWith (Text.trimStart line) docStringMark

/-- What a line is whose blanks at the ends have been taken off already. -/
def ofTrimmed (indent : Nat) (line : Text) : Line :=
  if line.isEmpty || Text.startsWith line ['#'] then ignored
  else if Text.startsWith line ['@'] then tags (Text.words line)
  else if let some title := titleAfter? "Feature" line then feature title
  else if (titleAfter? "Background" line).isSome then background
  else if let some title := titleAfter? "Scenario Outline" line then outline title
  else if let some title := titleAfter? "Scenario Template" line then outline title
  else if let some title := titleAfter? "Scenario" line then scenario title
  else if (titleAfter? "Examples" line).isSome then examples
  else if (titleAfter? "Scenarios" line).isSome then examples
  else if Text.startsWith line ['|'] then row (cells? line)
  else if Text.startsWith line docStringMark then docString indent
  else if let some (keyword, text) := step? line then step keyword text
  else other

/-- What a line is. -/
def ofText (line : Text) : Line :=
  ofTrimmed (indentOf line) (Text.trim line)

end Line

end FeatureFixtures
