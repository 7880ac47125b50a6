import FeatureFixtures.Fingerprint
import FeatureFixtures.Text.Blank
import FeatureFixtures.Text.Lines

/-!
# Headers of generated files

A generated file begins with a comment that names the tool, the version of the generator and the
fingerprint, followed by the openings of a region and of the namespace. The version and the
fingerprint are read back from the first lines of a file: each from the first line that holds its
label, from behind the first occurrence of the label on it.
-/

namespace FeatureFixtures

namespace Header

/-- What a header tells. -/
structure Info where
  fingerprint : Fingerprint
  namespaceName : Text
  language : Language

/-- The label of the generator's version. -/
def versionLabel : Text := "Spekgen Generator Version:"

/-- The label of the digest. -/
def fingerprintLabel : Text := "Spekgen Fingerprint:"

/-- How many lines at the beginning of a file are searched for a label. -/
def searchedLines : Nat := 30

/-- The sign that makes a line a comment. -/
def commentSign : Language → Text
  | .csharp => "//"
  | .visualBasic => "'"

/-- The lines of the comment, without the sign. -/
def commentLines (fingerprint : Fingerprint) : List Text :=
  let rule : Text := ' ' :: List.replicate 78 '-'
  [rule,
   "  <auto-generated>",
   "      This code was generated by Spekgen (https://github.com/spekgen/spekgen).",
   "      Spekgen Version:" ++ Version.current.toText,
   "      " ++ versionLabel ++ fingerprint.version.toText,
   "      " ++ fingerprintLabel ++ fingerprint.digestText,
   "",
   "      Changes to this file may cause incorrect behavior and will be lost if",
   "      the code is regenerated.",
   "  </auto-generated>",
   rule]

/-- The comment at the beginning of a file. -/
def comment (language : Language) (fingerprint : Fingerprint) : Text :=
  (commentLines fingerprint).flatMap fun line => commentSign language ++ line ++ ['\n']

/-- The openings of the region and of the namespace. -/
def openings (language : Language) (namespaceName : Text) : Text :=
  match language with
  | .csharp =>
    "#region Designer generated code\n#pragma warning disable\nnamespace " ++ namespaceName ++
      "\n\x7b\n"
  | .visualBasic =>
    "#Region \"Designer generated code\"\n#Disable Warning\nNamespace " ++ namespaceName ++ "\n"

/-- Everything before the code of a fixture. -/
def write (info : Info) : Text :=
  comment info.language info.fingerprint ++ openings info.language info.namespaceName

/-- Everything after the code of a fixture. -/
def footer : Language → Text
  | .csharp => "\x7d\n#pragma warning restore\n#endregion\n"
  | .visualBasic => "End Namespace\n#Enable Warning\n#End Region\n"

/-- Why a version or a fingerprint cannot be read back. -/
inductive Fault where
  /-- No line holds the label, which is given without its colon. -/
  | missing (label : Text)
  | invalidVersion (found : Text) (fault : Version.Fault)
  | invalidFingerprint (found : Text) (fault : Fingerprint.Fault)
deriving DecidableEq, Repr, Inhabited

/-- The wording of a fault. -/
def Fault.message : Fault → Text
  | .missing label => "'" ++ label ++ "' not found in generated file"
  | .invalidVersion found fault =>
    "invalid generator version '" ++ found ++ "': " ++ fault.message
  | .invalidFingerprint found fault => "invalid fingerprint '" ++ found ++ "': " ++ fault.message

/-- What follows the first occurrence of a label in a line. -/
def afterLabel? (label : Text) : Text → Option Text
  | [] => Text.after? label []
  | c :: rest =>
    match Text.after? label (c :: rest) with
    | some found => some found
    | none => afterLabel? label rest

/-- What follows a label in the first line that holds it, without blanks at the ends. -/
def find (label : Text) (generated : Text) : Except Fault Text :=
  match ((Text.lines generated).take searchedLines).findSome? (afterLabel? label) with
  | some found => .ok (Text.trim found)
  | none => .error (.missing label.dropLast)

/-- The version of the generator of a file. -/
def readVersion (generated : Text) : Except Fault Version := do
  let found ← find versionLabel generated
  (Version.parse found).mapError (.invalidVersion found)

/-- The fingerprint of a file. -/
def readFingerprint (generated : Text) : Except Fault Fingerprint := do
  let version ← readVersion generated
  let found ← find fingerprintLabel generated
  let digest ← (Fingerprint.readDigest found).mapError (.invalidFingerprint found)
  return { version, digest }

end Header

/-- A way to write headers and to read them back. Reading may fail or crash. -/
structure HeaderFormat where
  write : Header.Info → Text
  footer : Language → Text
  readVersion : Text → Outcome Version
  readFingerprint : Text → Outcome Fingerprint

/-- A fault of a header as a failure. -/
def Header.Fault.toFailure (fault : Header.Fault) : Failure :=
  .error (.header fault.message)

/-- The format of headers. -/
def HeaderFormat.standard : HeaderFormat :=
  { write := Header.write
    footer := Header.footer
    readVersion := fun generated => (Header.readVersion generated).mapError (·.toFailure)
    readFingerprint := fun generated => (Header.readFingerprint generated).mapError (·.toFailure) }

end FeatureFixtures
