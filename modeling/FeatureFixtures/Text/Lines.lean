import FeatureFixtures.Text.Basic

/-!
# Lines

A line feed ends a line, and one carriage return right before it belongs to the ending. A last line
without a line feed counts when it is not empty, and keeps a carriage return at its end.
-/

namespace FeatureFixtures

namespace Text

/-- A text without one carriage return at its end. -/
def dropReturn (t : Text) : Text :=
  if endsWith t '\r' then t.dropLast else t

/-- The lines among the pieces between line feeds: the last piece is a line only if it is not
empty. -/
def linesOfPieces : List Text → List Text
  | [] => []
  | [last] => if last.isEmpty then [] else [last]
  | piece :: next :: rest => dropReturn piece :: linesOfPieces (next :: rest)

/-- The lines of a text. -/
def lines (t : Text) : List Text :=
  linesOfPieces (t.splitOn '\n')

/-- The lines of a text, joined by single line feeds and without their endings. -/
def normalizeLines (t : Text) : Text :=
  join ['\n'] (lines t)

end Text

end FeatureFixtures
