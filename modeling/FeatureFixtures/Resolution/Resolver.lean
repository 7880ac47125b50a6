import FeatureFixtures.FileStore
import FeatureFixtures.Project.Settings
import FeatureFixtures.Resolution.Basic
import FeatureFixtures.Text.Blank
import FeatureFixtures.Version.Order
import FeatureFixtures.Version.Requirement

/-!
# Resolvers

A generator is looked up in the settings of the project, or among those that are installed in a
folder of the project, of which the highest one that satisfies the requirement is taken. In a chain
of resolvers the first one that finds a generator decides; if none does, the reason of the first one
is given.
-/

namespace FeatureFixtures

/-- The name of the program that serves as a worker. -/
def workerName : Text := "spekgen-worker"

/-- Where generators are installed in a project folder. -/
def toolsFolder : Text := ".spekgen/generators"

namespace Resolution

/-- The generator that the settings of a project name. -/
def ofSettings (project : ProjectSettings) : Resolution :=
  match project.pin.version, project.pin.path with
  | none, none => .unknown .notConfigured
  | some _, none => .unknown (.incomplete "missing path")
  | none, some _ => .unknown (.incomplete "missing version")
  | some version, some path =>
    match Version.parse (Text.trim version) with
    | .ok parsed => .resolved { version := parsed, location := Path.join project.folder path }
    | .error _ => .unknown (.invalidVersion version)

/-- The requirement of a project on installed generators, or why there is none. -/
def requirementOf (project : ProjectSettings) : Except UnknownReason Version.Requirement :=
  match project.pin.requirement with
  | none => .ok .unrestricted
  | some t =>
    match Version.Requirement.parse? t with
    | some requirement => .ok requirement
    | none => .error (.invalidVersion t)

/-- The installation under a name in the tools folder: the name has to be a version, and the program
has to be there. -/
def installed? (store : FileStore) (tools name : Text) : Option Installation :=
  match Version.parse name with
  | .error _ => none
  | .ok version =>
    let location := Path.join tools name
    if store.pathExists (Path.join location workerName) then some { version, location } else none

/-- The later one of two installations by version; the second one of equals. -/
def higher (a b : Installation) : Installation :=
  if a.version.compare b.version = .gt then a else b

/-- The highest installation. -/
def highest? : List Installation → Option Installation
  | [] => none
  | first :: rest => some (rest.foldl higher first)

/-- The installations in a folder that satisfy a requirement. -/
def candidates (store : FileStore) (tools : Text) (names : List Text)
    (requirement : Version.Requirement) : List Installation :=
  (names.filterMap (installed? store tools)).filter fun found => requirement.accepts found.version

/-- The names of what stands in the tools folder, if it is a folder. -/
def toolNames? (store : FileStore) (tools : Text) : Option (List Text) :=
  match store.find tools with
  | .ok (location, .folder) => some (store.children location)
  | _ => none

/-- The highest generator in the tools folder that satisfies the requirement of a project. -/
def ofTools (store : FileStore) (project : ProjectSettings) : Resolution :=
  match requirementOf project with
  | .error reason => .unknown reason
  | .ok requirement =>
    let tools := Path.join project.folder toolsFolder
    match toolNames? store tools with
    | none => .unknown .notConfigured
    | some names =>
      match highest? (candidates store tools names requirement) with
      | some found => .resolved found
      | none => .unknown (.noMatch requirement.toText)

end Resolution

/-- A way to look up generators. -/
inductive Resolver where
  | settings
  | tools
  | fixed (answer : Resolution)
  /-- One answer after the other; the last one is repeated. -/
  | sequence (answers : List Resolution)
  | chain (resolvers : List Resolver)
deriving Inhabited

namespace Resolver

/-- The settings first, then the installed generators. -/
def standard : Resolver :=
  chain [settings, tools]

mutual

/-- Looks up the generator of a project, and gives the resolver for the next lookup. -/
def resolve (store : FileStore) (project : ProjectSettings) : Resolver → Resolution × Resolver
  | settings => (.ofSettings project, settings)
  | tools => (.ofTools store project, tools)
  | fixed answer => (answer, fixed answer)
  | sequence [] => (.unknown .notConfigured, sequence [])
  | sequence [answer] => (answer, sequence [answer])
  | sequence (answer :: next :: rest) => (answer, sequence (next :: rest))
  | chain resolvers =>
    let (answer, resolvers) := resolveFirst store project resolvers
    (answer.getD (.unknown .notConfigured), chain resolvers)

/-- The first generator that is found, or else the first answer. -/
def resolveFirst (store : FileStore) (project : ProjectSettings) :
    List Resolver → Option Resolution × List Resolver
  | [] => (none, [])
  | first :: rest =>
    match resolve store project first with
    | (.resolved found, first) => (some (.resolved found), first :: rest)
    | (.unknown reason, first) =>
      match resolveFirst store project rest with
      | (some (.resolved found), rest) => (some (.resolved found), first :: rest)
      | (_, rest) => (some (.unknown reason), first :: rest)

end

end Resolver

end FeatureFixtures
