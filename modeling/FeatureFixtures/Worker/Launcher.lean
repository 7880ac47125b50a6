import FeatureFixtures.Launcher
import FeatureFixtures.Resolution.Resolver
import FeatureFixtures.Worker.Connection
import FeatureFixtures.Worker.Script

/-!
# Generators in worker programs

The program of an installed generator is its location itself, or the worker program in the folder
there, or one that the environment has instead, which may run any version. It is started as a
program of its own and has to answer, within a limit of time, that it runs the very version that is
wanted. The worker program serves the built-in generator. A file can be started when it is marked as
executable and is a script. Then the program that reads it is started, which may be a script again,
but not too often. A script never answers, and one that is not over at once is waited for.
-/

namespace FeatureFixtures

namespace Worker

/-- What the environment has in place of the program of a generator: a path in its variable, and
what is found under the name of the worker program on the search path. -/
structure Environment where
  named? : Option Text := none
  searched? : FileStore → Option Text := fun _ => none

/-- The path in the variable counts if there is a file, and comes first. -/
def Environment.program? (environment : Environment) (store : FileStore) : Option Text :=
  environment.named?.filter store.isFile <|> environment.searched? store

/-- The path of the program of a generator. -/
def findProgramIn (environment : Environment) (store : FileStore) (location : Text) :
    Except Error Text :=
  let candidate := Path.join location workerName
  if store.isFile location then .ok location
  else if store.isFile candidate then .ok candidate
  else match environment.program? store with
    | some program => .ok program
    | none => .error (.connection ("Could not find " ++ workerName ++ " in " ++ location ++
      ". Set SPEKGEN_WORKER_PATH or install the generator there."))

/-- The path of the program of a generator where the environment has none. -/
def findProgram (store : FileStore) (location : Text) : Except Error Text :=
  findProgramIn {} store location

/-- A program that was started, with a connection to it. -/
inductive Program (ω : Type) where
  /-- Answers what it is asked. -/
  | answering (connection : Connection ω)
  /-- Never answers. -/
  | silent

variable [Message Command] [Message Response]

namespace Program

/-- The program that serves the built-in generator. -/
def builtin : Program Server :=
  .answering (Server.connection { generator := .builtin })

/-- A program that is over. -/
def ended : Program Server :=
  .answering (Server.connection { generator := .builtin, isServing := false })

/-- What becomes of a script that is read. -/
def ofScript (content : Bytes) : Program Server :=
  if Script.isOver content then ended else silent

end Program

/-- What stands at a path, if it can be run. -/
def findRunnable (store : FileStore) (path : Text) : Except FileFault Entry := do
  match ← store.find path with
  | (_, .folder) => .error .denied
  | (_, .file file) => if file.executable then return .file file else .error .denied
  | (_, entry) => return entry

/-- The environment with a path in its variable and folders on its search path, in order. -/
def Environment.ofFolders (named? : Option Text) (folders : List Text) : Environment :=
  { named?
    searched? := fun store =>
      (folders.map (Path.join · workerName)).find? fun path =>
        (findRunnable store path).toOption.isSome }

/-- How many programs are looked at when each of them is read by the next one. -/
def readerLimit : Nat := 6

/-- Starts what can be run; a program that reads scripts is given the one that named it. The number
bounds how many programs are looked at. -/
def startEntry (store : FileStore) : Nat → Option Bytes → Entry → Except FileFault (Program Server)
  | 0, _, _ => .error .tooManyLinks
  | _, _, .folder => .error .denied
  | _, _, .worker => .ok .builtin
  | _, none, .scriptReader => .ok .silent
  | _, some script, .scriptReader => .ok (.ofScript script)
  | n + 1, _, .file file =>
    match Script.reader? file.content with
    | none => .error .notProgram
    | some reader => do startEntry store n (some file.content) (← findRunnable store reader)

/-- Starts the program at a path. -/
def spawn (store : FileStore) (path : Text) : Except Error (Program Server) :=
  (findRunnable store path >>= startEntry store readerLimit none).mapError fun fault =>
    .connection ("Failed to spawn worker process '" ++ path ++ "': " ++ fault.message)

/-- What the launcher knows of a context: its place among the programs, and the wanted version. -/
structure Context where
  place : Nat
  version : Version
deriving DecidableEq, Repr, Inhabited

/-- The programs by their places; those that were released are gone. -/
abbrev Programs (ω : Type) := List (Option (Program ω))

/-- A number of milliseconds in the largest unit that is not below one. -/
def durationText (milliseconds : Nat) : Text :=
  if milliseconds = 0 then "0ns"
  else if milliseconds < 1000 then Text.ofNat milliseconds ++ "ms"
  else
    let fraction := Text.ofNat (1000 + milliseconds % 1000)
    let digits := (fraction.tail.reverse.dropWhile (· == '0')).reverse
    let seconds := Text.ofNat (milliseconds / 1000)
    if digits.isEmpty then seconds ++ ['s'] else seconds ++ '.' :: digits ++ ['s']

variable {ω : Type}

/-- Creates the context of an installed generator, given how programs are started. -/
def create (environment : Environment) (spawn : FileStore → Text → Except Error (Program ω))
    (store : FileStore) (wanted : Installation) (programs : Programs ω) :
    Except Error Context × Programs ω :=
  match findProgramIn environment store wanted.location >>= spawn store with
  | .ok program =>
    (.ok { place := programs.length, version := wanted.version }, programs ++ [some program])
  | .error error => (.error error, programs)

/-- The error of a context whose program is gone. -/
def released (context : Context) : Error :=
  .connection ("generator " ++ context.version.toText ++ " has been released")

/-- Checks the version that a program reports. -/
def confirm (wanted : Version) : Except Error Version → Except Error Unit
  | .ok found =>
    if found = wanted then .ok () else .error (.versionMismatch wanted found)
  | .error error => .error error

/-- Makes sure that a program answers within the limit and runs the wanted version. -/
def start (limit : Nat) (context : Context) (programs : Programs ω) :
    Except Error Unit × Programs ω :=
  let late : Error := .timeout ("worker handshake exceeded " ++ durationText limit)
  match programs[context.place]?.join with
  | none => (.error (released context), programs)
  | some .silent => (.error late, programs)
  | some (.answering connection) =>
    let (reported, connection) := connection.handshake
    (if limit = 0 then .error late else confirm context.version reported,
      programs.set context.place (some (.answering connection)))

/-- Runs the generator of a context. -/
def invoke (context : Context) (request : Request) (programs : Programs ω) :
    Outcome Text × Programs ω :=
  match programs[context.place]?.join with
  | none => (.error (.error (released context)), programs)
  | some .silent => (.error (.error (.connection "Worker has been killed")), programs)
  | some (.answering connection) =>
    let (code, connection) := connection.generate request
    (code.mapError .error, programs.set context.place (some (.answering connection)))

/-- The launcher of worker programs, given how programs are started and a limit in milliseconds for
their first answers. -/
def launcherBy (environment : Environment) (spawn : FileStore → Text → Except Error (Program ω))
    (limit : Nat) : Launcher Context (Programs ω) :=
  { create := create environment spawn
    start := start limit
    version := Context.version
    invoke
    release := fun context programs => programs.set context.place none }

/-- The launcher of the worker programs in a file store. -/
def launcherIn (environment : Environment) (limit : Nat) : Launcher Context (Programs Server) :=
  launcherBy environment spawn limit

/-- The launcher of the worker programs in a file store where the environment has none. -/
def launcher (limit : Nat) : Launcher Context (Programs Server) :=
  launcherIn {} limit

end Worker

end FeatureFixtures
