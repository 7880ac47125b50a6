import FeatureFixtures.CommandLine.Arguments
import FeatureFixtures.CommandLine.Json
import FeatureFixtures.Project.Config
import FeatureFixtures.Worker.Launcher
import FeatureFixtures.Workspace

/-!
# Running the program

Every action opens the project first. The feature files it is given may be named as seen from the
current folder or from the project folder, but have to lie inside the project. A name that leads to
no such file ends the whole run with an error at once; a feature file for which no code can be
generated is reported together with the others, and makes the run fail at its end. Generators of
other versions are worker programs, but nothing here depends on how they are launched.
-/

namespace FeatureFixtures

namespace CommandLine

/-- What a run leaves behind besides the files. -/
structure Output where
  code : Nat := 0
  stdout : Text := []
  stderr : Text := []
deriving DecidableEq, Repr, Inhabited

/-- How a piece of the output is marked. -/
inductive Style where
  | bold
  | dim
  | green
  | yellow
  | red

/-- The number of a style in the codes of a terminal. -/
def Style.number : Style → Text
  | bold => "1"
  | dim => "2"
  | green => "32"
  | yellow => "33"
  | red => "31"

/-- A text in a style. -/
def Style.apply (style : Style) (t : Text) : Text :=
  "\x1b[" ++ style.number ++ ['m'] ++ t ++ "\x1b[0m"

/-- What ends a run at once. -/
inductive Abort where
  | error (error : Error)
  /-- A name leads to nothing that can be used. -/
  | unusable (message cause : Text)
  /-- Reading a generated file crashed. -/
  | crash (message : Option Text)
deriving DecidableEq, Repr, Inhabited

/-- The output of a run that ends at once. -/
def Abort.output : Abort → Output
  | error e => { code := 1, stderr := "Error: " ++ e.messageWithHint ++ ['\n'] }
  | unusable message cause =>
    { code := 1, stderr := "Error: " ++ message ++ "\n\nCaused by:\n    " ++ cause ++ ['\n'] }
  | crash message => { code := 101, stderr := crashText message ++ ['\n'] }

/-- How generators of other versions are launched: the launcher for a limit in milliseconds for
their first answers, and the state that it begins with. -/
structure Launching (κ σ : Type) where
  launcher : Nat → Launcher κ σ
  state : σ

/-- Generators of other versions are worker programs. -/
def Launching.workers (environment : Worker.Environment) :
    Launching Worker.Context (Worker.Programs Worker.Server) :=
  { launcher := Worker.launcherIn environment, state := [] }

variable {κ σ : Type}

/-- The standard workspace for the settings of a project. -/
def workspaceOf (launching : Launching κ σ) (config : ProjectConfig) (store : FileStore) :
    Workspace κ σ :=
  { project := config.project
    resolver := .standard
    host :=
      { builtin := .builtin
        launcher := launching.launcher config.startupTimeout
        state := launching.state }
    header := .standard
    checker := .standard .standard
    hash := Blake3.hash
    store }

/-- A workspace with worker programs. -/
abbrev Project := Workspace Worker.Context (Worker.Programs Worker.Server)

/-- The workspace with worker programs for the settings of a project. -/
def Project.ofConfig (config : ProjectConfig) (store : FileStore) : Project :=
  workspaceOf (.workers {}) config store

/-- An open project. -/
structure Session (κ σ : Type) where
  /-- The location of the project folder. -/
  location : Location
  config : ProjectConfig
  project : Workspace κ σ

/-- Opens the project in a folder. -/
def openProject (launching : Launching κ σ) (store : FileStore) (folder : Text) :
    Except Abort (Session κ σ) :=
  match store.canonical folder with
  | .error fault => .error (.unusable ("Project folder not found: " ++ folder) fault.message)
  | .ok location =>
    match ProjectConfig.load store (FileStore.pathOf location) with
    | .error e => .error (.error e)
    | .ok config => .ok { location, config, project := workspaceOf launching config store }

/-- The feature file with a name. -/
def Session.featureFile (s : Session κ σ) (feature : Text) : Except Abort FeatureFile :=
  let store := s.project.store
  let path :=
    if store.pathExists feature then feature else Path.join s.config.project.folder feature
  match store.canonical path with
  | .error fault => .error (.unusable ("Feature file not found: " ++ feature) fault.message)
  | .ok location =>
    match s.location.isPrefixOf? location with
    | some names => .ok { path := Text.join ['/'] names }
    | none =>
      .error (.unusable (feature ++ " is outside the project folder " ++ s.config.project.folder)
        "prefix not found")

/-- A feature file as it is named in reports, and how its generation ended. -/
structure Reported where
  name : Text
  report : Report
deriving DecidableEq, Repr, Inhabited

/-- Generates the code for one feature file. -/
def Session.generateOne (s : Session κ σ) (settings : GenerationSettings) (feature : Text) :
    Except Abort Reported × Session κ σ :=
  match s.featureFile feature with
  | .error abort => (.error abort, s)
  | .ok file =>
    match s.project.generate file settings with
    | (.error message, project) => (.error (.crash message), { s with project })
    | (.ok report, project) => (.ok { name := file.recordedPath, report }, { s with project })

/-- Generates the code for feature files, up to the first name that ends the run. What was reported
until then is given together with how it ended. -/
def Session.generateAll (s : Session κ σ) (settings : GenerationSettings) :
    List Text → List Reported × Except Abort Unit × Session κ σ
  | [] => ([], .ok (), s)
  | feature :: rest =>
    match s.generateOne settings feature with
    | (.error abort, s) => ([], .error abort, s)
    | (.ok reported, s) =>
      let (others, ending, s) := s.generateAll settings rest
      (reported :: others, ending, s)

/-- Two outputs, one after the other; the code is that of the second one. -/
def Output.append (a b : Output) : Output :=
  { code := b.code, stdout := a.stdout ++ b.stdout, stderr := a.stderr ++ b.stderr }

/-- A line on the standard output. -/
def line (t : Text) : Output :=
  { stdout := t ++ ['\n'] }

/-- The output for a feature file whose generation failed. -/
def failure (name : Text) (errors : List Error) : Output :=
  { stderr := Style.red.apply "Failed" ++ ' ' :: name ++ ['\n'] ++
      errors.flatMap fun e => [' ', ' '] ++ e.message ++ ['\n'] }

/-- The output for a feature file after generating. -/
def generateOutput (toStdout : Bool) (reported : Reported) : Output :=
  match reported.report with
  | .failed e => failure reported.name [e]
  | .upToDate _ => line (Style.dim.apply "Up to date" ++ ' ' :: reported.name)
  | .generated code _ =>
    if toStdout then { stdout := code }
    else line (Style.green.apply "Generated" ++ ' ' :: reported.name)

/-- How many generations failed. -/
def failedCount (results : List Reported) : Nat :=
  (results.filter fun reported => !reported.report.isSuccess).length

/-- The line after the reports on several feature files. -/
def summary (results : List Reported) : Output :=
  if results.length ≤ 1 then {}
  else
    let failed := failedCount results
    let style := if failed = 0 then Style.dim else Style.red
    line ('\n' :: Text.ofNat results.length ++ " file(s), " ++
      style.apply (Text.ofNat failed ++ " failed"))

/-- An error as JSON. -/
def errorJson (e : Error) : Json :=
  .object [("line", .ofOption .number e.line?), ("message", .text e.message)]

/-- A report as JSON. -/
def reportedJson (reported : Reported) : Json :=
  let report := reported.report
  .object
    [("feature", .text reported.name),
     ("success", .boolean report.isSuccess),
     ("generated_test_code", .ofOption .text report.code?),
     ("is_up_to_date", .ofOption .boolean report.wasUpToDate?),
     ("detected_version", .ofOption (fun version => .text version.toText) report.version?),
     ("errors", .list (report.errors.map errorJson))]

/-- All outputs, one after the other. -/
def outputs (all : List Output) : Output :=
  all.foldl Output.append {}

/-- The code of a run that is to be refused or not. -/
def exitCode (isRefused : Bool) : Nat :=
  if isRefused then 1 else 0

/-- Generates the code for feature files and writes it, unless it goes to the standard output. -/
def Session.generate (s : Session κ σ) (features : List Text) (method : Option CheckMethod)
    (force stdout json : Bool) : Output × FileStore :=
  let defaults := s.config.generation
  let settings : GenerationSettings :=
    { checkUpToDate := defaults.checkUpToDate && !force
      method := method.getD defaults.method
      writeResult := !stdout }
  match s.generateAll settings features with
  | (_, .error abort, s) => (abort.output, s.project.store)
  | (results, .ok (), s) =>
    let body :=
      if json then line (Json.list (results.map reportedJson)).toText
      else (outputs (results.map (generateOutput stdout))).append (summary results)
    ({ body with code := exitCode (failedCount results ≠ 0) }, s.project.store)

/-- The output for a feature file after checking. -/
def checkOutput (reported : Reported) : Output :=
  match reported.report with
  | .failed e => failure reported.name [e]
  | .upToDate _ => line (Style.green.apply "Up to date" ++ ' ' :: reported.name)
  | .generated .. => line (Style.yellow.apply "Outdated" ++ ' ' :: reported.name)

/-- Checks whether feature files have generated files that are up to date. -/
def Session.check (s : Session κ σ) (features : List Text) (method : Option CheckMethod) :
    Output × FileStore :=
  let settings : GenerationSettings :=
    { checkUpToDate := true
      method := method.getD s.config.generation.method
      writeResult := false }
  match s.generateAll settings features with
  | (results, .error abort, s) =>
    ((outputs (results.map checkOutput)).append abort.output, s.project.store)
  | (results, .ok (), s) =>
    let outdated :=
      (results.filter fun reported => reported.report.wasUpToDate? ≠ some true).length
    let body := outputs (results.map checkOutput)
    if outdated = 0 then (body, s.project.store)
    else
      let last := line ('\n' :: Style.bold.apply (Text.ofNat outdated ++ " of " ++
        Text.ofNat features.length ++ " file(s) need regeneration"))
      ({ body.append last with code := 1 }, s.project.store)

/-- Shows the version of the generator of a feature's generated file. -/
def Session.detectVersion (s : Session κ σ) (feature : Text) : Output :=
  match s.featureFile feature with
  | .error abort => abort.output
  | .ok file =>
    match s.project.detectVersion file with
    | some version => line version.toText
    | none => line (Style.dim.apply "unknown")

/-- A resolution as it is shown. -/
def resolutionText : Resolution → Text
  | .resolved found =>
    if found.version = .current then found.version.toText ++ " (built in)"
    else found.version.toText ++ " at " ++ found.location
  | .unknown reason => "built-in generator " ++ Style.dim.apply ('(' :: reason.message ++ [')'])

/-- Shows which generator the project asks for. -/
def Session.resolve (s : Session κ σ) : Output :=
  outputs
    [line (Style.bold.apply "Project:" ++ ' ' :: s.config.project.name),
     line (Style.bold.apply "Built-in generator:" ++ ' ' :: Version.current.toText),
     line (Style.bold.apply "Resolved:" ++ ' ' :: resolutionText s.project.resolve.1)]

/-- Runs an action. -/
def Session.run (s : Session κ σ) : Action → Output × FileStore
  | .generate features method force stdout json => s.generate features method force stdout json
  | .check features method => s.check features method
  | .detectVersion feature => (s.detectVersion feature, s.project.store)
  | .resolve => (s.resolve, s.project.store)

/-- What is shown to those who ask for help, or whose arguments are at fault. -/
def usage : Text :=
  Text.join ['\n']
    ["Usage: spekgen [-p FOLDER] [-v] ACTION",
     "",
     "Actions:",
     "  generate [--force] [--method mtime|content] [--stdout] [--json] FEATURE...",
     "  check [--method mtime|content] FEATURE...",
     "  detect-version FEATURE",
     "  resolve",
     ""]

/-- Runs the program in the current folder of a store, given how generators are launched. -/
def runBy (launching : Launching κ σ) (store : FileStore) (arguments : List Text) :
    Output × FileStore :=
  match readInvocation arguments with
  | .error .help => ({ stdout := usage }, store)
  | .error .version => (line ("spekgen " ++ Version.current.toText), store)
  | .error .usage => ({ code := 2, stderr := usage }, store)
  | .ok invocation =>
    match openProject launching store invocation.project with
    | .error abort => (abort.output, store)
    | .ok session => session.run invocation.action

/-- Runs the program in the current folder of a store where the environment has no worker. -/
def run (store : FileStore) (arguments : List Text) : Output × FileStore :=
  runBy (.workers {}) store arguments

end CommandLine

end FeatureFixtures
