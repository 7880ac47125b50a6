import FeatureFixtures.Feature.Parser
import FeatureFixtures.Version.Parser

/-!
# Errors

Every operation that can fail reports one of these errors. The text of an error says first what kind
it is; some kinds also have a hint for the reader of a command line.
-/

namespace FeatureFixtures

/-- Why an operation on files failed. -/
inductive FileFault where
  | notFound
  /-- A file cannot be started as a program. -/
  | notProgram
  | denied
  | alreadyExists
  | notFolder
  | isFolder
  | nameTooLong
  /-- Finding something never comes to an end. -/
  | tooManyLinks
  /-- A path holds the null character. -/
  | nullInPath
  | notText
  | other (text : Text)
deriving DecidableEq, Repr, Inhabited

/-- The wording of a fault. -/
def FileFault.message : FileFault → Text
  | .notFound => "No such file or directory (os error 2)"
  | .notProgram => "Exec format error (os error 8)"
  | .denied => "Permission denied (os error 13)"
  | .alreadyExists => "File exists (os error 17)"
  | .notFolder => "Not a directory (os error 20)"
  | .isFolder => "Is a directory (os error 21)"
  | .nameTooLong => "File name too long (os error 36)"
  | .tooManyLinks => "Too many levels of symbolic links (os error 40)"
  | .nullInPath => "file name contained an unexpected NUL byte"
  | .notText => "stream did not contain valid UTF-8"
  | .other text => text

/-- An error. -/
inductive Error where
  /-- A feature file cannot be read. -/
  | parse (line : Option Nat) (message : Text)
  /-- No code can be written for a feature. -/
  | emission (message : Text)
  /-- The settings of a project are invalid. -/
  | configuration (message : Text)
  /-- The connection to a worker is broken. -/
  | connection (message : Text)
  /-- A message cannot be encoded or decoded. -/
  | encoding (message : Text)
  /-- A worker reports that it failed. -/
  | worker (message : Text)
  /-- A worker runs another generator version than the wanted one. -/
  | versionMismatch (expected found : Version)
  /-- Something took too long. -/
  | timeout (message : Text)
  /-- The header of a generated file is missing or malformed. -/
  | header (message : Text)
  /-- An operation on files failed. -/
  | file (fault : FileFault)
deriving DecidableEq, Repr, Inhabited

namespace Error

/-- The text of an error. -/
def message : Error → Text
  | parse none text => "parse error: " ++ text
  | parse (some line) text => "parse error at line " ++ Text.ofNat line ++ ": " ++ text
  | emission text => "emit error: " ++ text
  | configuration text => "configuration error: " ++ text
  | connection text => "IPC error: " ++ text
  | encoding text => "serialization error: " ++ text
  | worker text => "worker error: " ++ text
  | versionMismatch expected found =>
    "generator version mismatch: expected " ++ expected.toText ++ ", worker reported " ++
      found.toText
  | timeout text => "timed out: " ++ text
  | header text => "header error: " ++ text
  | file fault => "IO error: " ++ fault.message

/-- The line of the feature file that an error belongs to, if there is one. -/
def line? : Error → Option Nat
  | parse line _ => line
  | _ => none

/-- What a user can do about an error. -/
def hint? : Error → Option Text
  | configuration _ => some "check spekgen.toml in the project folder"
  | connection _ | timeout _ =>
    some ("the pinned generator could not be started; set SPEKGEN_WORKER_PATH or fix " ++
      "[generator].path")
  | parse _ _ => some "fix the feature file and regenerate"
  | _ => none

/-- The text of an error, followed by the hint on a line of its own if there is one. -/
def messageWithHint (error : Error) : Text :=
  match error.hint? with
  | some hint => error.message ++ "\n  hint: " ++ hint
  | none => error.message

/-- A refused feature file as an error. -/
def ofParseError (refused : Feature.ParseError) : Error :=
  parse refused.line refused.fault.message

/-- A text that is no version as an error. -/
def ofVersionFault (fault : Version.Fault) : Error :=
  configuration ("invalid version: " ++ fault.message)

end Error

end FeatureFixtures
