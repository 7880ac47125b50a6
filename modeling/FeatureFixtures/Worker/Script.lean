import FeatureFixtures.Text.Blank
import FeatureFixtures.Text.Lines
import FeatureFixtures.Text.Utf8

/-!
# Scripts

A script is a file that can be started as a program although it is none. It begins with a mark, and
the rest of its first line names the program that reads it. Only so many bytes at the beginning of a
file are looked at to find that name, as if zeros followed a shorter file. A first line that does
not end within them is cut there, but a name has to end within them in any case. Of what follows
only one thing matters here: a script without commands that take time is over at once.
-/

namespace FeatureFixtures

namespace Script

/-- How many bytes of a file are looked at. -/
def headSize : Nat := 256

/-- The beginning of a file, filled up with zeros. -/
def head (content : Bytes) : Bytes :=
  content.take headSize ++ List.replicate (headSize - content.length) 0

/-- The byte at the end of a line. -/
def lineEnd : UInt8 := 0x0A

/-- Whether a byte stands between the words of the first line. -/
def isGap (byte : UInt8) : Bool :=
  byte == 0x20 || byte == 0x09

/-- Whether a byte cannot be part of a name. -/
def endsName (byte : UInt8) : Bool :=
  isGap byte || byte == 0

/-- The first line, given the beginning of a file behind its mark. A line feed behind a zero does
not count. Without one, the last byte that is looked at ends the line. -/
def firstLine? (rest : Bytes) : Option Bytes :=
  let line := rest.takeWhile fun byte => byte != lineEnd && byte != 0
  if (rest.drop line.length).head? = some lineEnd then some line
  else if (rest.dropWhile isGap).any endsName then some rest.dropLast
  else none

/-- The name in a first line, up to the next gap or zero. Something has to follow the gap that the
line may begin with. -/
def nameIn? (line : Bytes) : Option Bytes :=
  match line.dropWhile isGap with
  | [] => none
  | name => some (name.takeWhile (!endsName ·))

/-- Bytes as a text; if they are not UTF-8, each stands for a character of its own. -/
def textOf (bytes : Bytes) : Text :=
  (Text.ofBytes? bytes).getD (bytes.map fun byte => Char.ofNat byte.toNat)

/-- The path of the program that reads a script; an empty name stands for the current folder. A file
that names no program is no script. -/
def reader? (content : Bytes) : Option Text :=
  match head content with
  | 0x23 :: 0x21 :: rest =>
    (firstLine? rest >>= nameIn?).map fun name => if name.isEmpty then ['.'] else textOf name
  | _ => none

/-- The commands of a script; neither blank lines nor comments are any. -/
def commands (content : Bytes) : List Text :=
  ((Text.lines (textOf content)).map Text.trim).filter fun line =>
    !line.isEmpty && !Text.startsWith line ['#']

/-- The name that a command begins with. -/
def commandName (command : Text) : Text :=
  (Text.words command).headD []

/-- Whether a command takes no time and leaves the next one to follow. -/
def isIdle (command : Text) : Bool :=
  [[':'], "true", "false"].contains (commandName command)

/-- Whether a script is over at once. -/
def isOver (content : Bytes) : Bool :=
  match (commands content).dropWhile isIdle with
  | [] => true
  | command :: _ => commandName command == "exit"

end Script

end FeatureFixtures
