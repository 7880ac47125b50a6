import FeatureFixtures.Platform

/-!
# Literals

A text becomes a string literal of the target language on one line. C# escapes backslashes,
quotation marks, line feeds and carriage returns. Visual Basic has no escapes: a quotation mark is
written twice, and a line feed, alone or after a carriage return, interrupts the literal and is
joined in as a constant.
-/

namespace FeatureFixtures

namespace Literal

/-- A character inside a C# literal. -/
def escape : Char → Text
  | '\\' => "\\\\"
  | '"' => "\\\""
  | '\n' => "\\n"
  | '\r' => "\\r"
  | c => [c]

/-- A text whose line endings of two characters are single line feeds. -/
def unifyNewlines : Text → Text
  | [] => []
  | '\r' :: '\n' :: rest => '\n' :: unifyNewlines rest
  | c :: rest => c :: unifyNewlines rest

/-- A character inside a Visual Basic literal. -/
def double : Char → Text
  | '"' => "\"\""
  | '\n' => "\" & vbLf & \""
  | c => [c]

/-- The literal of a text. -/
def ofText (language : Language) (t : Text) : Text :=
  match language with
  | .csharp => '"' :: t.flatMap escape ++ ['"']
  | .visualBasic => '"' :: (unifyNewlines t).flatMap double ++ ['"']

/-- The literal that stands for no value. -/
def nothing : Language → Text
  | .csharp => "null"
  | .visualBasic => "Nothing"

/-- An array of text literals; an array without elements is written as no value. -/
def ofTexts (language : Language) (ts : List Text) : Text :=
  if ts.isEmpty then nothing language
  else
    let items := Text.join ", " (ts.map (ofText language))
    match language with
    | .csharp => "new string[] \x7b " ++ items ++ " \x7d"
    | .visualBasic => "New String() \x7b " ++ items ++ " \x7d"

end Literal

end FeatureFixtures
