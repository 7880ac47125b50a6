import FeatureFixtures.CommandLine.Run

/-!
# The program

Reads the environment and the part of the file system that a run can reach, runs the program on it,
writes back what has changed and prints the output. Under the name of the worker program it serves
the built-in generator instead: it reads one frame after the other and writes the response to each.
-/

namespace FeatureFixtures

namespace Program

/-- A number of nanoseconds as the time of a file. -/
def timeOf (time : IO.FS.SystemTime) : Nat :=
  time.sec.toNat * 1000000000 + time.nsec.toNat

/-- The file at a place of the disk. -/
def readFile (place : IO.FS.DirEntry) : IO Entry := do
  let info ← place.path.metadata
  let content ← IO.FS.readBinFile place.path
  return .file { content := content.toList, modified := timeOf info.modified }

/-- Adds what stands at a place of the disk, with all below it. Links are not followed to folders.
-/
partial def load (store : FileStore) (place : IO.FS.DirEntry) : IO FileStore := do
  let location := Path.names place.path.toString.toList
  match (← place.path.symlinkMetadata).type with
  | .dir =>
    let mut store := store.set location .folder
    for below in ← place.path.readDir do
      store ← try load store below catch _ => pure store
    return store
  | .file => return store.set location (← readFile place)
  | .symlink =>
    let target ← IO.FS.realPath place.path
    if target.fileName == some (String.ofList workerName) then
      let store := store.withWorker (Path.names target.toString.toList)
      let programsModified := timeOf (← target.metadata).modified
      return { store.set location .worker with programsModified }
    else return store.set location (← readFile place)
  | .other => return store

/-- Adds a link at a place of the disk, apart from what it leads to. -/
def loadLink (store : FileStore) (place : IO.FS.DirEntry) : IO FileStore := do
  match place.path.parent, place.path.fileName with
  | some above, some name =>
    if (← place.path.symlinkMetadata).type != .symlink then return store
    try load store { root := ← IO.FS.realPath above, fileName := name }
    catch _ => return store
  | _, _ => return store

/-- Adds what stands at a path, with all below it and the folders above it. -/
def loadPath (store : FileStore) (path : String) : IO FileStore := do
  let here ← IO.currentDir
  try
    let target ← IO.FS.realPath (here / path)
    let (_, store) := store.makeFoldersFor target.toString.toList
    let store ← load store { root := here, fileName := target.toString }
    loadLink store { root := here, fileName := path }
  catch _ => return store

/-- The paths that a run looks at besides the present folder. -/
def reachedPaths (arguments : List Text) : List Text :=
  match CommandLine.readInvocation arguments with
  | .error _ => []
  | .ok invocation =>
    match invocation.action with
    | .generate features .. | .check features _ => invocation.project :: features
    | .detectVersion feature => [invocation.project, feature]
    | .resolve => [invocation.project]

/-- The variable with the path of a worker program, and the folders to search for one. -/
def readEnvironment : IO (Option Text × List Text) := do
  let named? := (← IO.getEnv "SPEKGEN_WORKER_PATH").map String.toList
  let folders := ((← IO.getEnv "PATH").map String.toList).getD []
  return (named?, folders.splitOn ':')

/-- Writes to the disk what is new in a file store. -/
def save (before after : FileStore) : IO Unit := do
  for (location, entry) in after.entries.toList do
    if before.entry? location ≠ some entry then
      let path := String.ofList (FileStore.pathOf location)
      match entry with
      | .folder => IO.FS.createDirAll path
      | .file file => IO.FS.writeBinFile path file.content.toByteArray
      | .worker | .scriptReader => pure ()

/-- Runs the program on the disk. -/
def run (arguments : List Text) : IO UInt32 := do
  let present := (← IO.currentDir).toString.toList
  let empty := (FileStore.makeFolders { current := Path.names present } present).2
  let (named?, folders) ← readEnvironment
  let workers := named?.toList ++ folders.map (Path.join · workerName)
  let loaded ← (reachedPaths arguments ++ workers).foldlM
    (fun store path => loadPath store (String.ofList path)) empty
  let latest := loaded.entries.toList.foldl (fun latest (location, _) =>
    max latest ((loaded.modified? (FileStore.pathOf location)).getD 0)) 0
  let store := { loaded with now := latest + 1 }
  let launching := CommandLine.Launching.workers (.ofFolders named? folders)
  let (output, changed) := CommandLine.runBy launching store arguments
  save store changed
  (← IO.getStdout).putStr (String.ofList output.stdout)
  (← IO.getStderr).putStr (String.ofList output.stderr)
  return output.code.toUInt32

/-- Reads a number of bytes, or all that is left. -/
partial def readBytes (input : IO.FS.Stream) (count : Nat) : IO Bytes := do
  if count = 0 then return []
  let bytes := (← input.read count.toUSize).toList
  if bytes.isEmpty then return []
  return bytes ++ (← readBytes input (count - bytes.length))

/-- Serves the built-in generator, one frame at a time. -/
partial def serve (input output : IO.FS.Stream) : IO UInt32 := do
  let head ← readBytes input 4
  let length := Worker.lengthOf head
  let body ← if head.length < 4 ∨ Worker.bodyLimit < length then pure [] else readBytes input length
  let served := Worker.serve .builtin (head ++ body) {}
  output.write served.written.toByteArray
  output.flush
  match served.ending with
  | .broken fault =>
    (← IO.getStderr).putStrLn (String.ofList ("Error: " ++ fault.toError.message))
    return 1
  | .told => return 0
  | .inputEnded => if head.length < 4 then return 0 else serve input output

end Program

end FeatureFixtures

def main (arguments : List String) : IO UInt32 := do
  if (← IO.appPath).fileName == some (String.ofList FeatureFixtures.workerName) then
    FeatureFixtures.Program.serve (← IO.getStdin) (← IO.getStdout)
  else FeatureFixtures.Program.run (arguments.map String.toList)
