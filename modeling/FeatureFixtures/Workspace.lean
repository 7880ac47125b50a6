import FeatureFixtures.Freshness
import FeatureFixtures.Host
import FeatureFixtures.Report
import FeatureFixtures.Resolution.Resolver

/-!
# Workspaces

A workspace is a project together with all that takes part in generating its test code: the
resolver, the host, the checker, the format of headers, and the files. For a feature file it finds
out which generator is to be used and which fingerprint the generated file should have; if that is
already so, nothing else happens. Otherwise it runs the generator, puts the code between header and
footer, and writes it if that is asked for. A crash of the generator is an error like any other. An
isolated generator whose connection broke is not kept.
-/

namespace FeatureFixtures

/-- A project with all that takes part in generating its test code. -/
structure Workspace (κ σ : Type) where
  project : ProjectSettings
  resolver : Resolver
  host : Host κ σ
  header : HeaderFormat
  checker : Checker
  /-- The hash function for digests. -/
  hash : Bytes → Bytes
  store : FileStore

namespace Workspace

variable {κ σ : Type}

/-- What the generator is told about a feature file. -/
def request (w : Workspace κ σ) (file : FeatureFile) : Except FileFault Request := do
  let feature ← file.loadFeature w.store w.project.folder
  return { feature
           sourceFile := file.recordedPath
           folderPath := Path.folder file.recordedPath
           platform := w.project.platform }

/-- The namespace of the code for a feature file. -/
def namespaceFor (w : Workspace κ σ) (file : FeatureFile) : Text :=
  match file.namespaceName.filter (!Text.isAllBlank ·) with
  | some name => name
  | none => Namespace.ofPath w.project.defaultNamespace file.recordedPath

/-- The path of the generated file. -/
def generatedPath (w : Workspace κ σ) (file : FeatureFile) : Text :=
  file.generatedPathIn w.project.folder w.project.platform.language

/-- The text generated before. -/
def loadGenerated (w : Workspace κ σ) (file : FeatureFile) : Except FileFault Text :=
  file.loadGenerated w.store w.project.folder w.project.platform.language

/-- Looks up the generator of the project. -/
def resolve (w : Workspace κ σ) : Resolution × Workspace κ σ :=
  let (resolution, resolver) := w.resolver.resolve w.store w.project
  (resolution, { w with resolver })

/-- The workspace after an event. -/
def record (w : Workspace κ σ) (event : Event) : Workspace κ σ :=
  { w with host := w.host.record event }

/-- Whether the generated file has the expected fingerprint already. -/
def isUpToDate (w : Workspace κ σ) (file : FeatureFile) (method : CheckMethod)
    (expected : Fingerprint) : Except (Option Text) Bool × Workspace κ σ :=
  let featurePath := file.pathIn w.project.folder
  let generatedPath := w.generatedPath file
  let w := w.record (.compareTimes featurePath generatedPath method)
  match w.checker.preliminary w.store file featurePath generatedPath method with
  | some answer => (.ok answer, w)
  | none =>
    match w.loadGenerated file with
    | .error _ => (.ok false, w)
    | .ok generated =>
      (w.checker.content generated expected method,
        w.record (.compareContent generated expected method))

/-- The code of a generator between header and footer. -/
def wrap (w : Workspace κ σ) (body : Text) (fingerprint : Fingerprint) (namespaceName : Text) :
    Text :=
  let language := w.project.platform.language
  let ending : Text := if Text.endsWith body '\n' then [] else ['\n']
  w.header.write { fingerprint, namespaceName, language } ++ body ++ ending ++
    w.header.footer language

/-- Writes the generated file if that is asked for. -/
def save (w : Workspace κ σ) (file : FeatureFile) (settings : GenerationSettings) (code : Text)
    (version : Version) : Report × Workspace κ σ :=
  if settings.writeResult then
    match w.store.writeText (w.generatedPath file) code with
    | (.ok (), store) => (.generated code version, { w with store })
    | (.error fault, store) => (.failed (.file fault), { w with store })
  else (.generated code version, w)

/-- What remains of a failed run of a generator. -/
def failed (w : Workspace κ σ) (handle : Handle κ) : Failure → Report × Workspace κ σ
  | .crash message => (.failed (.emission ("generator panicked: " ++ crashText message)), w)
  | .error (.connection message) =>
    (.failed (.connection message), { w with host := w.host.discard handle })
  | .error error => (.failed error, w)

/-- Runs the generator of a resolution and saves what it makes. -/
def produce (w : Workspace κ σ) (file : FeatureFile) (settings : GenerationSettings)
    (request : Request) (resolution : Resolution) : Report × Workspace κ σ :=
  let (handle, host) := w.host.obtain w.store resolution
  let (outcome, host) := host.run handle request
  let w := { w with host }
  match outcome with
  | .error failure => w.failed handle failure
  | .ok body =>
    let namespaceName := w.namespaceFor file
    let fingerprint := Fingerprint.computeWith w.hash (w.host.version handle) request namespaceName
    w.save file settings (w.wrap body fingerprint namespaceName) fingerprint.version

/-- The fingerprint that the generated file should have. -/
def expected (w : Workspace κ σ) (file : FeatureFile) (request : Request)
    (resolution : Resolution) : Fingerprint :=
  Fingerprint.computeWith w.hash (resolution.effectiveVersion .current) request
    (w.namespaceFor file)

/-- Generates the code for a feature file, unless the generated file is found up to date. The only
crash that is passed on is one of the checker. -/
def generate (w : Workspace κ σ) (file : FeatureFile) (settings : GenerationSettings) :
    Except (Option Text) Report × Workspace κ σ :=
  match w.request file with
  | .error fault => (.ok (.failed (.file fault)), w)
  | .ok request =>
    let (resolution, w) := w.resolve
    if settings.checkUpToDate then
      let expected := w.expected file request resolution
      match w.isUpToDate file settings.method expected with
      | (.error message, w) => (.error message, w)
      | (.ok true, w) => (.ok (.upToDate expected.version), w)
      | (.ok false, w) => (w.produce file settings request resolution).map .ok id
    else (w.produce file settings request resolution).map .ok id

/-- The version of the generator of the text generated before, if it can be read. -/
def detectVersion (w : Workspace κ σ) (file : FeatureFile) : Option Version :=
  match w.loadGenerated file with
  | .error _ => none
  | .ok generated => (w.header.readVersion generated).toOption

/-- Forgets the isolated generator. -/
def invalidate (w : Workspace κ σ) : Workspace κ σ :=
  { w with host := w.host.invalidate }

end Workspace

end FeatureFixtures
