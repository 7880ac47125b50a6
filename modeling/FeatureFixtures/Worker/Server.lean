import FeatureFixtures.Worker.Frame

/-!
# Serving a generator

A worker reads one command after the other and answers each before it reads the next. It ends when
it is told to, when its input ends before the next command, or with an error when a stream is
broken. An input that ends within the four bytes of a length counts as one that ends before the
command. A worker whose input goes on reads on where the last complete command ended.
-/

namespace FeatureFixtures

namespace Worker

/-- What a generator makes of a request, as a response. -/
def Response.ofOutcome : Outcome Text → Response
  | .ok code => .generated code
  | .error (.error error) => .failed error.message error.line?
  | .error (.crash message) => .crashed (crashText message)

/-- The response to a command. -/
def respond (generator : Generator) : Command → Response
  | .ping => .pong
  | .handshake => .ready generator.version.toText
  | .generate request => .ofOutcome (generator.generate request)
  | .shutdown => .shuttingDown

/-- The requests that a command brings to the generator. -/
def Command.requests : Command → List Request
  | generate request => [request]
  | ping | handshake | shutdown => []

/-- Why serving ended. -/
inductive Ending where
  /-- The worker was told to end. -/
  | told
  /-- The input ended before the next command. -/
  | inputEnded
  | broken (fault : StreamFault)
deriving DecidableEq, Repr, Inhabited

/-- Whether serving ended without an error. -/
def Ending.result : Ending → Except StreamFault Unit
  | told | inputEnded => .ok ()
  | broken fault => .error fault

/-- Whether a worker reads on when there is more input. -/
def Ending.goesOn : Ending → Bool
  | inputEnded | broken .bodyCut => true
  | told | broken _ => false

/-- How serving ended, and what came of it. -/
structure Served where
  ending : Ending
  /-- The bytes that were written. -/
  written : Bytes
  /-- The requests that were brought to the generator, in order. -/
  requests : List Request
  /-- What follows the last command that was read. -/
  unread : Bytes

variable [Message Command] [Message Response]

/-- Serves a generator: answers the commands of an input. -/
def serve (generator : Generator) (input : Bytes) (sink : Sink) : Served :=
  match _h : (readMessage input : Except StreamFault (Command × Bytes)) with
  | .error .lengthCut => { ending := .inputEnded, written := [], requests := [], unread := input }
  | .error fault => { ending := .broken fault, written := [], requests := [], unread := input }
  | .ok (command, rest) =>
    match sink.write (respond generator command) with
    | (written, .error fault) =>
      { ending := .broken fault, written, requests := command.requests, unread := rest }
    | (written, .ok ()) =>
      if command = .shutdown then
        { ending := .told, written, requests := command.requests, unread := rest }
      else
        let served := serve generator rest sink.next
        { served with
          written := written ++ served.written
          requests := command.requests ++ served.requests }
termination_by input.length
decreasing_by exact readMessage_length_lt _h

/-- A worker between two pieces of its input. -/
structure Server where
  generator : Generator
  /-- What follows the last command that was read. -/
  unread : Bytes := []
  /-- Whether the worker still serves. -/
  isServing : Bool := true

/-- What a worker writes when it is sent more bytes, and what becomes of it. -/
def Server.feed (server : Server) (bytes : Bytes) : Bytes × Server :=
  if server.isServing then
    let served := serve server.generator (server.unread ++ bytes) {}
    (served.written,
      { server with unread := served.unread, isServing := served.ending.goesOn })
  else ([], server)

end Worker

end FeatureFixtures
