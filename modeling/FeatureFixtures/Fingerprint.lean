import FeatureFixtures.Blake3
import FeatureFixtures.Generator

/-!
# Fingerprints

The fingerprint of a generated file consists of the version of its generator and a digest of all
that shapes its content. The digest is the beginning of a hash over an encoding of seven fields,
each preceded by its length, so that different fields have different encodings. The feature goes in
with its lines joined by line feeds: line endings do not make a difference.
-/

namespace FeatureFixtures

/-- The identity of a generated file. -/
structure Fingerprint where
  version : Version
  digest : UInt64
deriving DecidableEq, Repr, Inhabited

namespace Fingerprint

/-- A number as eight bytes, the highest first. -/
def lengthBytes (n : Nat) : Bytes :=
  [n >>> 56, n >>> 48, n >>> 40, n >>> 32, n >>> 24, n >>> 16, n >>> 8, n].map (·.toUInt8)

/-- A field after its length in bytes. -/
def fieldBytes (field : Text) : Bytes :=
  let bytes := Text.toBytes field
  lengthBytes bytes.length ++ bytes

/-- What all encodings begin with. -/
def domainTag : Text := "spekgen-fingerprint-v1"

/-- The fields that shape a generated file. -/
def fields (version : Version) (request : Request) (namespaceName : Text) : List Text :=
  [version.toText, Text.normalizeLines request.feature, request.sourceFile, request.folderPath,
   request.platform.language.extension, request.platform.framework.name, namespaceName]

/-- The encoding that is hashed. -/
def encoding (version : Version) (request : Request) (namespaceName : Text) : Bytes :=
  Text.toBytes domainTag ++ (fields version request namespaceName).flatMap fieldBytes

/-- The number whose eight bytes, the highest first, a hash begins with. -/
def digestOf (hash : Bytes) : UInt64 :=
  (hash.take 8).foldl (fun digest byte => (digest <<< 8) ||| byte.toUInt64) 0

/-- The fingerprint of the file that a generator would produce, for a given hash function. -/
def computeWith (hash : Bytes → Bytes) (version : Version) (request : Request)
    (namespaceName : Text) : Fingerprint :=
  { version, digest := digestOf (hash (encoding version request namespaceName)) }

/-- The fingerprint of the file that a generator of a version would produce. -/
def compute (version : Version) (request : Request) (namespaceName : Text) : Fingerprint :=
  computeWith Blake3.hash version request namespaceName

/-- The digest in sixteen hexadecimal digits. -/
def digestText (fingerprint : Fingerprint) : Text :=
  Text.hexPadded 16 fingerprint.digest.toNat

/-- Why a text is no digest. -/
inductive Fault where
  | empty
  | invalidDigit
  | tooLarge
deriving DecidableEq, Repr, Inhabited

/-- The wording of a fault. -/
def Fault.message : Fault → Text
  | .empty => "cannot parse integer from empty string"
  | .invalidDigit => "invalid digit found in string"
  | .tooLarge => "number too large to fit in target type"

/-- Reads hexadecimal digits after a value; the first fault from the left is reported. -/
def readHexDigits (value : Nat) : Text → Except Fault UInt64
  | [] => .ok value.toUInt64
  | c :: rest =>
    match Text.hexValue? c with
    | none => .error .invalidDigit
    | some digit =>
      if 16 * value + digit < UInt64.size then readHexDigits (16 * value + digit) rest
      else .error .tooLarge

/-- Reads a digest, which may have a plus sign and any number of leading zeros. -/
def readDigest : Text → Except Fault UInt64
  | [] => .error .empty
  | ['+'] => .error .invalidDigit
  | '+' :: rest => readHexDigits 0 rest
  | t => readHexDigits 0 t

end Fingerprint

end FeatureFixtures
