import FeatureFixtures.Generator
import FeatureFixtures.Text.Utf8

/-!
# Messages between the program and a worker

A worker runs a generator in a program of its own. It is sent commands and answers each with a
response. How messages are written as bytes is left open as long as they can be read back. Here a
message is written as a list of texts, the first of which names its kind; each text is written in
UTF-8 and followed by a byte that never occurs in UTF-8.
-/

namespace FeatureFixtures

namespace Worker

/-- What a worker can be asked. -/
inductive Command where
  /-- Whether it is there. -/
  | ping
  /-- Which version its generator has. -/
  | handshake
  /-- The code for a feature file. -/
  | generate (request : Request)
  /-- To end. -/
  | shutdown
deriving DecidableEq, Repr, Inhabited

/-- What a worker can answer. -/
inductive Response where
  | pong
  | ready (version : Text)
  | generated (code : Text)
  | failed (message : Text) (line : Option Nat)
  | crashed (message : Text)
  | shuttingDown
deriving DecidableEq, Repr, Inhabited

/-- Messages that can be written as bytes and read back. -/
class Message (μ : Type) where
  encode : μ → Bytes
  decode? : Bytes → Option μ

/-- The byte after each text. -/
def textEnd : UInt8 := 0xFF

/-- The bytes of a list of texts. -/
def encodeTexts (texts : List Text) : Bytes :=
  texts.flatMap fun t => Text.toBytes t ++ [textEnd]

/-- The list of texts with given bytes. -/
def decodeTexts? (bytes : Bytes) : Option (List Text) :=
  (bytes.splitOn textEnd).dropLast.mapM Text.ofBytes?

/-- The texts of a command. -/
def Command.toTexts : Command → List Text
  | ping => ["ping"]
  | handshake => ["handshake"]
  | generate request =>
    ["generate", request.feature, request.sourceFile, request.folderPath,
      request.platform.language.extension, request.platform.framework.name]
  | shutdown => ["shutdown"]

/-- The command with given texts. -/
def Command.ofTexts? (texts : List Text) : Option Command :=
  match texts with
  | [kind] =>
    if kind = ("ping" : String) then some ping
    else if kind = ("handshake" : String) then some handshake
    else if kind = ("shutdown" : String) then some shutdown
    else none
  | [kind, feature, sourceFile, folderPath, extension, name] =>
    if kind = ("generate" : String) then do
      let language ← Language.ofExtension? extension
      let framework ← Framework.ofName? name
      return generate { feature, sourceFile, folderPath, platform := { language, framework } }
    else none
  | _ => none

instance : Message Command where
  encode command := encodeTexts command.toTexts
  decode? bytes := decodeTexts? bytes >>= Command.ofTexts?

/-- The texts of a response. -/
def Response.toTexts : Response → List Text
  | pong => ["pong"]
  | ready version => ["ready", version]
  | generated code => ["generated", code]
  | failed message none => ["failed", message]
  | failed message (some line) => ["failed", message, Text.ofNat line]
  | crashed message => ["crashed", message]
  | shuttingDown => ["shutting down"]

/-- The response with given texts. -/
def Response.ofTexts? (texts : List Text) : Option Response :=
  match texts with
  | [kind] =>
    if kind = ("pong" : String) then some pong
    else if kind = ("shutting down" : String) then some shuttingDown
    else none
  | [kind, content] =>
    if kind = ("ready" : String) then some (ready content)
    else if kind = ("generated" : String) then some (generated content)
    else if kind = ("failed" : String) then some (failed content none)
    else if kind = ("crashed" : String) then some (crashed content)
    else none
  | [kind, message, line] =>
    if kind = ("failed" : String) then some (failed message (some (Text.digitsValue line)))
    else none
  | _ => none

instance : Message Response where
  encode response := encodeTexts response.toTexts
  decode? bytes := decodeTexts? bytes >>= Response.ofTexts?

end Worker

end FeatureFixtures
