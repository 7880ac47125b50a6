import FeatureFixtures.Platform
import FeatureFixtures.Text.Alphanumeric

/-!
# Paths

A path is a text whose parts are separated by slashes; one that begins with a slash is absolute. The
path of a feature file inside its project may come from a platform that separates parts by
backslashes. Its folder decides two things about the generated code: the folder that is told to the
test runner, and the namespace. Both take a slash and a backslash for the same separator.
-/

namespace FeatureFixtures

namespace Path

/-- Whether a path is absolute. -/
def isAbsolute (path : Text) : Bool :=
  Text.startsWith path ['/']

/-- A path as seen from a folder. An absolute path stays as it is, and the empty path means the
folder itself, with a slash at its end. -/
def join (folder path : Text) : Text :=
  if isAbsolute path then path
  else if folder.isEmpty || Text.endsWith folder '/' then folder ++ path
  else folder ++ '/' :: path

/-- The parts between slashes that are not empty. -/
def parts (path : Text) : List Text :=
  (path.splitOn '/').filter (!·.isEmpty)

/-- The parts that name something; a dot stands for the place itself. -/
def names (path : Text) : List Text :=
  (parts path).filter (· != ['.'])

/-- Pieces between slashes up to the last one that names something. -/
def untilName (pieces : List Text) : List Text :=
  (pieces.reverse.dropWhile fun piece => piece.isEmpty || piece == ['.']).reverse

/-- A path without slashes and dots at its end. -/
def trimEnd (path : Text) : Text :=
  Text.join ['/'] (untilName (path.splitOn '/'))

/-- The path of the folder that the last name of a path belongs to. -/
def parent (path : Text) : Text :=
  Text.join ['/'] (untilName (untilName (path.splitOn '/')).dropLast)

/-- The last name of a path; a path that leads upwards at its end has none. -/
def fileName? (path : Text) : Option Text :=
  match (names path).getLast? with
  | some name => if name = ['.', '.'] then none else some name
  | none => none

/-- The names of a path with single slashes between them. A part that is a lone backslash is left
out. -/
def normalize (path : Text) : Text :=
  Text.join ['/'] ((names path).filter (· != ['\\']))

/-- The path of a feature file inside its project as it is recorded: a path with a backslash is
taken to come from a platform that separates parts by backslashes alone. -/
def recorded (path : Text) : Text :=
  if '\\' ∈ path then Text.join ['/'] ((path.splitOn '\\').filter (!·.isEmpty))
  else normalize path

/-- Whether a character separates the parts of a path on some platform. -/
def isSeparator (c : Char) : Bool :=
  c == '/' || c == '\\'

/-- The names of the folders above a file inside its project. -/
def folderNames (path : Text) : List Text :=
  ((path.splitOnP isSeparator).filter fun part => !part.isEmpty && part != ['.']).dropLast

/-- The folder of a feature file as it is told to the test runner; empty at the top of the project.
-/
def folder (path : Text) : Text :=
  Text.join ['/'] (folderNames path)

/-- The path of the file that is generated for a feature file unless another one is given. -/
def generated (path : Text) (language : Language) : Text :=
  path ++ '.' :: language.extension

end Path

namespace Namespace

/-- The namespace of files at the top of a project without a namespace of its own. -/
def fallback : Text := "Spekgen.GeneratedTests"

/-- A folder name as a part of a namespace: whatever is no letter or number becomes an underscore,
and another one goes before a leading ASCII digit. -/
def ofFolderName (name : Text) : Text :=
  match name.map fun c => if isAlphanumeric c || c == '_' then c else '_' with
  | [] => []
  | c :: rest => if c.isDigit then '_' :: c :: rest else c :: rest

/-- The namespace of the code that is generated for a feature file: that of the project, followed by
one part per folder. -/
def ofPath (projectNamespace : Option Text) (path : Text) : Text :=
  let folders := Text.join ['.'] ((Path.folderNames path).map ofFolderName)
  match projectNamespace.filter (!·.isEmpty), folders with
  | some space, [] => space
  | some space, folders => space ++ '.' :: folders
  | none, [] => fallback
  | none, folders => folders

end Namespace

end FeatureFixtures
