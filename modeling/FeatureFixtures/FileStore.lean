import FeatureFixtures.Error
import FeatureFixtures.Path
import FeatureFixtures.Text.Utf8
import FeatureFixtures.Trie

/-!
# Files and folders

A file store is what a program can see of the file system: which entry stands at which location. A
location lists the names from the top down; the top itself is always a folder. An entry is a folder,
a file with its bytes, or a program that comes with the machine. A path is followed part by part,
from the top if it is absolute and from the current folder if it is not. Every place on the way has
to be a folder, which is why a path that ends with a slash or a dot demands one. Names and paths
have limits in bytes: a path beyond its limit is refused before it is followed, a name beyond its
own where it is looked up. Files written now get the store's present time. The modification times of
folders are not kept; a folder may change at any time and counts as changed at present.
-/

namespace FeatureFixtures

/-- The names of the folders on the way to an entry, and its own name. -/
abbrev Location := List Text

/-- A file. -/
structure File where
  content : Bytes
  modified : Nat
  executable : Bool := false
deriving DecidableEq, Repr, Inhabited

/-- What stands at a location. -/
inductive Entry where
  | folder
  | file (file : File)
  /-- The program that serves as a worker, or a link to it. -/
  | worker
  /-- A program that reads scripts. -/
  | scriptReader
deriving DecidableEq, Repr, Inhabited

/-- The entries of a file system, and the present time. -/
structure FileStore where
  entries : Trie Text Entry := .empty
  now : Nat := 0
  /-- When the programs that come with the machine were modified last. -/
  programsModified : Nat := 0
  /-- Where the program that serves as a worker is kept. -/
  workerHome : Location := []
  /-- The folder that paths start from unless they are absolute. -/
  current : Location := []
deriving Inhabited

namespace FileStore

/-- The entry at a location. -/
def entry? (store : FileStore) (location : Location) : Option Entry :=
  if location.isEmpty then some .folder else store.entries.find? location

/-- The store with an entry at a location. -/
def set (store : FileStore) (location : Location) (entry : Entry) : FileStore :=
  { store with entries := store.entries.insert location entry }

/-- The store without an entry and all below it. -/
def remove (store : FileStore) (location : Location) : FileStore :=
  { store with entries := store.entries.clear location }

/-- A location as a path. -/
def pathOf (location : Location) : Text :=
  '/' :: Text.join ['/'] location

/-- How many bytes a name has at most. -/
def nameLimit : Nat := 255

/-- How many bytes a path has at most. -/
def pathLimit : Nat := 4095

/-- The fault of a location where nothing stands. -/
def absence (location : Location) : FileFault :=
  if pathLimit < Text.byteCount (pathOf location) then .nameTooLong else .notFound

/-- Refuses a place on the way that is no folder. -/
def requireFolder (store : FileStore) (location : Location) : Except FileFault Unit :=
  match store.entry? location with
  | some .folder => .ok ()
  | some _ => .error .notFolder
  | none => .error (absence location)

/-- Refuses a name that is too long. -/
def requireShortName (name : Text) : Except FileFault Unit :=
  if nameLimit < Text.byteCount name then .error .nameTooLong else .ok ()

/-- The place of a name in a folder. -/
def placeIn (store : FileStore) (folder : Location) (name : Text) : Except FileFault Location := do
  store.requireFolder folder
  requireShortName name
  return folder ++ [name]

/-- Follows parts of a path from a location. The last place need not exist. -/
def walk (store : FileStore) (start : Location) : List Text → Except FileFault Location
  | [] => .ok start
  | part :: rest => do
    if part = ['.'] then
      store.requireFolder start
      store.walk start rest
    else if part = ['.', '.'] then
      store.requireFolder start
      store.walk start.dropLast rest
    else store.walk (← store.placeIn start part) rest

/-- Where a path starts. -/
def start (store : FileStore) (path : Text) : Location :=
  if Path.isAbsolute path then [] else store.current

/-- The parts to follow for a path; a slash at its end stands for the place itself. -/
def steps (path : Text) : List Text :=
  Path.parts path ++ if Text.endsWith path '/' then [['.']] else []

/-- Refuses a path with the null character, and the empty one. -/
def requirePath (path : Text) : Except FileFault Unit :=
  if '\x00' ∈ path then .error .nullInPath
  else if path.isEmpty then .error .notFound
  else .ok ()

/-- Refuses a path that is too long, too. -/
def requireShortPath (path : Text) : Except FileFault Unit := do
  requirePath path
  if pathLimit < Text.byteCount path then .error .nameTooLong

/-- The location that the parts of a path lead to, and the entry that stands there. -/
def follow (store : FileStore) (path : Text) : Except FileFault (Location × Entry) := do
  let location ← store.walk (store.start path) (steps path)
  match store.entry? location with
  | some entry => return (location, entry)
  | none => .error (absence location)

/-- The location of a path and the entry that stands there. -/
def find (store : FileStore) (path : Text) : Except FileFault (Location × Entry) := do
  requireShortPath path
  store.follow path

/-- Whether something stands at a path. -/
def pathExists (store : FileStore) (path : Text) : Bool :=
  (store.find path).toOption.isSome

/-- Whether a folder stands at a path. -/
def isFolder (store : FileStore) (path : Text) : Bool :=
  match store.find path with
  | .ok (_, .folder) => true
  | _ => false

/-- Whether a file, or a link to one, stands at a path. -/
def isFile (store : FileStore) (path : Text) : Bool :=
  match store.find path with
  | .ok (_, .file _) | .ok (_, .worker) | .ok (_, .scriptReader) => true
  | .ok (_, .folder) | .error _ => false

/-- When what stands at a path was modified last. -/
def modified? (store : FileStore) (path : Text) : Option Nat :=
  match store.find path with
  | .ok (_, .folder) => some store.now
  | .ok (_, .file file) => some file.modified
  | .ok (_, .worker) | .ok (_, .scriptReader) => some store.programsModified
  | .error _ => none

/-- The text of the file at a path. -/
def read (store : FileStore) (path : Text) : Except FileFault Text := do
  match ← store.find path with
  | (_, .folder) => .error .isFolder
  | (_, .worker) | (_, .scriptReader) => .error .notText
  | (_, .file file) =>
    match Text.ofBytes? file.content with
    | some text => return text
    | none => .error .notText

/-- The names of the entries of a folder. -/
def children (store : FileStore) (folder : Location) : List Text :=
  (store.entries.descend folder).branches.filterMap fun (name, trie) =>
    trie.value?.map fun _ => name

/-- The location of what stands at a path, with links followed. Every step is looked up on its own,
so the length of the path itself does not matter. -/
def canonical (store : FileStore) (path : Text) : Except FileFault Location := do
  requirePath path
  match ← store.follow path with
  | (_, .worker) => return store.workerHome
  | (location, _) => return location

/-- Makes the folders along names from a folder, given whether one had to be made before. A file in
the way is met when the whole path is tried at first, unless a folder before it was missing then; in
that case, and as the last name, it counts as something that exists already. Folders made before a
fault stay. -/
def makeAlong (store : FileStore) (folder : Location) (made : Bool) :
    List Text → Except FileFault Unit × FileStore
  | [] => (.ok (), store)
  | name :: rest =>
    if name = ['.', '.'] then store.makeAlong folder.dropLast made rest
    else
      let place := folder ++ [name]
      match requireShortName name, store.entry? place with
      | .error fault, _ => (.error fault, store)
      | .ok (), some .folder => store.makeAlong place made rest
      | .ok (), some _ =>
        (.error (if made || rest.isEmpty then .alreadyExists else .notFolder), store)
      | .ok (), none => (store.set place .folder).makeAlong place true rest

/-- Makes the folder at a path and those above it. -/
def makeFolders (store : FileStore) (path : Text) : Except FileFault Unit × FileStore :=
  let path := Path.trimEnd path
  if path.isEmpty then (.ok (), store)
  else match requireShortPath path with
  | .error fault => (.error fault, store)
  | .ok () => store.makeAlong (store.start path) false (Path.names path)

/-- Makes the folder that a file at a path belongs to, and those above it. -/
def makeFoldersFor (store : FileStore) (path : Text) : Except FileFault Unit × FileStore :=
  store.makeFolders (Path.parent path)

/-- The store with the program that serves as a worker at a location, in folders made for it. -/
def withWorker (store : FileStore) (home : Location) : FileStore :=
  { (store.makeFoldersFor (pathOf home)).2.set home .worker with workerHome := home }

/-- Where a file can be written for a path. -/
def writableLocation (store : FileStore) (path : Text) : Except FileFault Location := do
  requireShortPath path
  match (Path.parts path).getLast? with
  | none => .error .isFolder
  | some name =>
    let above ← store.walk (store.start path) (Path.parts path).dropLast
    if Text.endsWith path '/' || name = ['.'] || name = ['.', '.'] then
      store.requireFolder above
      .error .isFolder
    else
      let location ← store.placeIn above name
      match store.entry? location with
      | some .folder => .error .isFolder
      | some .worker | some .scriptReader => .error .denied
      | some (.file _) | none => return location

/-- Whether the file at a location may be run. -/
def isExecutable (store : FileStore) (location : Location) : Bool :=
  match store.entry? location with
  | some (.file file) => file.executable
  | _ => false

/-- Writes a file, in a folder that has to be there already. -/
def write (store : FileStore) (path : Text) (content : Bytes) : Except FileFault FileStore := do
  let location ← store.writableLocation path
  let executable := store.isExecutable location
  return store.set location (.file { content, modified := store.now, executable })

/-- Writes a text to a file and makes the folders above it. -/
def writeText (store : FileStore) (path : Text) (text : Text) :
    Except FileFault Unit × FileStore :=
  match store.makeFoldersFor path with
  | (.error fault, store) => (.error fault, store)
  | (.ok (), store) =>
    match store.write path (Text.toBytes text) with
    | .ok store => (.ok (), store)
    | .error fault => (.error fault, store)

/-- The locations of the files below a folder, as seen from there. -/
def filesBelow (store : FileStore) (folder : Location) : List Location :=
  (store.entries.descend folder).toList.filterMap fun (location, entry) =>
    match entry with
    | .file _ => some location
    | .folder | .worker | .scriptReader => none

end FileStore

end FeatureFixtures
