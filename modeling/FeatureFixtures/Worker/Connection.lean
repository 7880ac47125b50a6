import FeatureFixtures.Worker.Server

/-!
# Talking to a worker

A worker is known by what it writes when it is sent some bytes, and by what then becomes of it. The
program sends it one command at a time and reads one response to each; what the worker wrote beyond
that is read before anything it writes later. A command can fail to be sent, as when the worker has
closed its input; then no response is read, even if the worker has written one. A worker is accepted
when it answers, and reports a version that can be read.
-/

namespace FeatureFixtures

namespace Worker

/-- A worker that can be talked to. -/
structure Connection (ω : Type) where
  /-- What a worker writes when it is sent some bytes, and what becomes of it. -/
  feed : ω → Bytes → Bytes × ω
  worker : ω
  /-- Where the commands are written. -/
  sink : Sink := {}
  /-- What the worker has written and nobody has read. -/
  unread : Bytes := []

variable [Message Command] [Message Response]

/-- The connection to a server. -/
def Server.connection (server : Server) : Connection Server :=
  { feed := Server.feed, worker := server }

/-- A response as it is shown in messages. -/
def Response.shown : Response → Text
  | pong => "Pong"
  | ready version => "Ready \x7b version: " ++ Text.quote version ++ " \x7d"
  | generated code => "Generated \x7b code: " ++ Text.quote code ++ " \x7d"
  | failed message none => "Error \x7b message: " ++ Text.quote message ++ ", line: None \x7d"
  | failed message (some line) =>
    "Error \x7b message: " ++ Text.quote message ++ ", line: Some(" ++ Text.ofNat line ++ ") \x7d"
  | crashed message => "Panic \x7b message: " ++ Text.quote message ++ " \x7d"
  | shuttingDown => "ShuttingDown"

namespace Connection

variable {ω : Type}

/-- Sends a command and gives what became of that. The worker gets what was accepted of it. -/
def send (connection : Connection ω) (command : Command) :
    Except StreamFault Unit × Connection ω :=
  let (accepted, result) := connection.sink.write command
  let (written, worker) := connection.feed connection.worker accepted
  (result, { connection with
    worker, sink := connection.sink.next, unread := connection.unread ++ written })

/-- Reads a response. -/
def receive (connection : Connection ω) : Except StreamFault Response × Connection ω :=
  match readMessage connection.unread with
  | .error fault => (.error fault, connection)
  | .ok (response, unread) => (.ok response, { connection with unread })

/-- Sends a command and reads the response. -/
def ask (connection : Connection ω) (command : Command) :
    Except Error Response × Connection ω :=
  match connection.send command with
  | (.error fault, connection) => (.error fault.toError, connection)
  | (.ok (), connection) =>
    let (response, connection) := connection.receive
    (response.mapError StreamFault.toError, connection)

/-- The version that a response to a handshake reports. -/
def reportedVersion : Response → Except Error Version
  | .ready version =>
    (Version.parse version).mapError fun fault =>
      .connection ("Worker reported invalid version '" ++ version ++ "': " ++ fault.message)
  | other => .error (.connection ("Unexpected response to handshake: " ++ other.shown))

/-- Asks whether the worker is there and which version its generator has. -/
def handshake (connection : Connection ω) : Except Error Version × Connection ω :=
  match connection.ask .ping with
  | (.error error, connection) => (.error error, connection)
  | (.ok .pong, connection) =>
    match connection.ask .handshake with
    | (.error error, connection) => (.error error, connection)
    | (.ok response, connection) => (reportedVersion response, connection)
  | (.ok other, connection) =>
    (.error (.connection ("Unexpected response to ping: " ++ other.shown)), connection)

/-- The code that a response to a request brings. -/
def generatedCode : Response → Except Error Text
  | .generated code => .ok code
  | .failed message (some line) => .error (.parse (some line) message)
  | .failed message none => .error (.worker message)
  | .crashed message => .error (.worker ("generator panicked: " ++ message))
  | other => .error (.connection ("Unexpected response when generating: " ++ other.shown))

/-- Asks for the code for a feature file. -/
def generate (connection : Connection ω) (request : Request) :
    Except Error Text × Connection ω :=
  match connection.ask (.generate request) with
  | (.error error, connection) => (.error error, connection)
  | (.ok response, connection) => (generatedCode response, connection)

end Connection

end Worker

end FeatureFixtures
