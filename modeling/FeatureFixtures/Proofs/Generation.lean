import FeatureFixtures.Proofs.Files
import FeatureFixtures.Proofs.HeaderReadBack
import FeatureFixtures.Proofs.HostChoice
import FeatureFixtures.Workspace
/-!
# What a generation does

A generation looks up the generator, judges the generated file if that is asked for, and otherwise
runs the generator. Up to the point where the generator is run, nothing changes but the resolver and
the events. The code carries the fingerprint of its own inputs, under the version of the generator
that ran, and that fingerprint is read back from it.
-/

namespace FeatureFixtures

/-- A generator lost its connection. -/
def BreaksConnection (outcome : Outcome Text) : Prop :=
  ∃ message, outcome = .error (.error (.connection message))

namespace Workspace

/-- A standard workspace in which no generator but the built-in one can be used. -/
def standalone (project : ProjectSettings) (hash : Bytes → Bytes) (store : FileStore) :
    Workspace Empty Unit :=
  { project, hash, store
    resolver := .standard
    host :=
      { builtin := .builtin
        launcher := .refusing (.connection "no worker")
        state := () }
    header := .standard
    checker := .standard .standard }

variable {κ σ : Type} {w after : Workspace κ σ} {file : FeatureFile} {settings : GenerationSettings}
  {request : Request} {resolution : Resolution} {code body : Text} {version : Version}

/-- The location that the path of a feature file denotes. -/
def locationOfFeature (w : Workspace κ σ) (file : FeatureFile) : Location :=
  w.store.locationOf (file.pathIn w.project.folder)

/-- The location that the path of a generated file denotes. -/
def locationOfGenerated (w : Workspace κ σ) (file : FeatureFile) : Location :=
  w.store.locationOf (w.generatedPath file)

/-- The workspace with another resolver and other events. -/
def noting (w : Workspace κ σ) (resolver : Resolver) (events : List Event) : Workspace κ σ :=
  { w with resolver, host := { w.host with events } }

/-- Whether the generated file has the expected fingerprint already, without what is recorded. -/
def judge (w : Workspace κ σ) (file : FeatureFile) (method : CheckMethod)
    (expected : Fingerprint) : Except (Option Text) Bool :=
  match w.checker.preliminary w.store file (file.pathIn w.project.folder) (w.generatedPath file)
      method with
  | some answer => .ok answer
  | none =>
    match w.loadGenerated file with
    | .error _ => .ok false
    | .ok generated => w.checker.content generated expected method

/-! ### Judging -/

theorem isUpToDate_eq (w : Workspace κ σ) (file : FeatureFile) (method : CheckMethod)
    (expected : Fingerprint) :
    ∃ events, w.isUpToDate file method expected =
      (w.judge file method expected, w.noting w.resolver events) := by
  unfold isUpToDate judge
  dsimp only [record, Host.record, loadGenerated]
  cases w.checker.preliminary w.store file (file.pathIn w.project.folder) (w.generatedPath file)
    method with
  | some answer => exact ⟨_, rfl⟩
  | none =>
    cases file.loadGenerated w.store w.project.folder w.project.platform.language with
    | error fault => exact ⟨_, rfl⟩
    | ok generated => exact ⟨_, rfl⟩

theorem generate_of_fault {fault : FileFault} (h : w.request file = .error fault)
    (settings : GenerationSettings) :
    w.generate file settings = (.ok (.failed (.file fault)), w) := by
  unfold generate
  rw [h]

theorem generate_of_request (h : w.request file = .ok request) (settings : GenerationSettings) :
    ∃ events, w.generate file settings =
      match settings.checkUpToDate,
        w.judge file settings.method (w.expected file request w.resolve.1) with
      | true, .error message => (.error message, w.noting w.resolve.2.resolver events)
      | true, .ok true =>
        (.ok (.upToDate (w.resolve.1.effectiveVersion .current)),
          w.noting w.resolve.2.resolver events)
      | true, .ok false | false, _ =>
        ((w.noting w.resolve.2.resolver events).produce file settings request w.resolve.1).map
          .ok id := by
  obtain ⟨events, hjudge⟩ := w.resolve.2.isUpToDate_eq file settings.method
    (w.expected file request w.resolve.1)
  have hsame : w.resolve.2.judge file settings.method (w.expected file request w.resolve.1) =
      w.judge file settings.method (w.expected file request w.resolve.1) := rfl
  have hexpected : w.resolve.2.expected file request w.resolve.1 =
      w.expected file request w.resolve.1 := rfl
  unfold generate
  rw [h]
  dsimp only
  cases settings.checkUpToDate with
  | false => exact ⟨w.host.events, rfl⟩
  | true =>
    refine ⟨events, ?_⟩
    rw [hexpected, hjudge, hsame]
    rcases w.judge file settings.method (w.expected file request w.resolve.1) with message | _ | _
    · rfl
    · rfl
    · rfl

/-- The generator is run where no check is asked for, or it does not find the file up to date. -/
theorem generate_of_reached (hrequest : w.request file = .ok request)
    (hreached : settings.checkUpToDate = true →
      w.judge file settings.method (w.expected file request w.resolve.1) = .ok false) :
    ∃ events, w.generate file settings =
      ((w.noting w.resolve.2.resolver events).produce file settings request w.resolve.1).map
        .ok id := by
  obtain ⟨events, heq⟩ := generate_of_request hrequest settings
  refine ⟨events, ?_⟩
  rw [heq]
  cases hcheck : settings.checkUpToDate with
  | false => rfl
  | true => rw [hreached hcheck]

/-! ### Producing -/

theorem save_eq_generated {text : Text} {made : Version}
    (h : w.save file settings text made = (.generated code version, after)) :
    text = code ∧ made = version ∧
      if settings.writeResult then
        w.store.writeText (w.generatedPath file) code = (.ok (), after.store)
      else after.store = w.store := by
  unfold save at h
  cases hwrite : settings.writeResult with
  | false =>
    rw [hwrite] at h
    cases h
    exact ⟨rfl, rfl, by simp⟩
  | true =>
    rw [hwrite, if_pos rfl] at h
    rcases hresult : w.store.writeText (w.generatedPath file) text with ⟨_ | ⟨⟩, store⟩
    · rw [hresult] at h
      cases h
    · rw [hresult] at h
      cases h
      exact ⟨rfl, rfl, by simpa using hresult⟩

/-- What the chosen generator makes of a request. -/
def outcome (w : Workspace κ σ) (request : Request) (resolution : Resolution) : Outcome Text :=
  ((w.host.obtain w.store resolution).2.run (w.host.chosen w.store resolution) request).1

/-- A body is wrapped under a header for the version of the chosen generator, and saved. -/
theorem produce_eq (w : Workspace κ σ) (file : FeatureFile) (settings : GenerationSettings)
    (request : Request) (resolution : Resolution) :
    ∃ host, w.produce file settings request resolution =
      match w.outcome request resolution with
      | .error failure => { w with host }.failed (w.host.chosen w.store resolution) failure
      | .ok body =>
        { w with host }.save file settings
          (w.wrap body
            (Fingerprint.computeWith w.hash (w.host.version (w.host.chosen w.store resolution))
              request (w.namespaceFor file))
            (w.namespaceFor file))
          (w.host.version (w.host.chosen w.store resolution)) := by
  have hversion := w.host.version_obtain w.store resolution
  unfold produce outcome
  rw [← Host.obtain_fst]
  rcases hobtain : w.host.obtain w.store resolution with ⟨handle, host⟩
  rw [hobtain] at hversion
  rcases hrun : host.run handle request with ⟨result, ran⟩
  have hran := host.version_run handle request
  simp only [hrun] at hran hversion ⊢
  refine ⟨ran, ?_⟩
  rw [← hversion, ← hran]
  cases result <;> rfl

theorem failed_eq (w : Workspace κ σ) (handle : Handle κ) (failure : Failure) :
    ∃ error host, w.failed handle failure = (.failed error, { w with host }) := by
  cases failure with
  | crash message => exact ⟨_, w.host, rfl⟩
  | error error => cases error <;> exact ⟨_, _, rfl⟩

theorem save_snd (w : Workspace κ σ) (file : FeatureFile) (settings : GenerationSettings)
    (text : Text) (made : Version) :
    ∃ store, (w.save file settings text made).2 = { w with store } ∧
      FileStore.Keeps [w.locationOfGenerated file] w.store store := by
  have hwritten := FileStore.keeps_writeText w.store (w.generatedPath file) text
  unfold save
  split
  · split <;> next hwrite =>
      rw [hwrite] at hwritten
      exact ⟨_, rfl, hwritten⟩
  · exact ⟨w.store, rfl, FileStore.Keeps.refl _ w.store⟩

/-- What becomes of the host when a generator is run: an isolated one whose connection broke is
discarded. -/
theorem produce_host (w : Workspace κ σ) (file : FeatureFile)
    (settings : GenerationSettings) (request : Request) (resolution : Resolution) :
    (w.produce file settings request resolution).2.host =
      let obtained := w.host.obtain w.store resolution
      let ran := obtained.2.run obtained.1 request
      match ran.1 with
      | .error (.error (.connection _)) => ran.2.discard obtained.1
      | _ => ran.2 := by
  unfold produce
  dsimp only
  rcases (w.host.obtain w.store resolution).2.run (w.host.obtain w.store resolution).1 request with
    ⟨failure | body, host⟩
  · rcases failure with error | message
    · cases error <;> rfl
    · rfl
  · obtain ⟨store, hsave, -⟩ := save_snd { w with host } file settings
      ({ w with host }.wrap body
        (Fingerprint.computeWith w.hash (host.version (w.host.obtain w.store resolution).1) request
          (w.namespaceFor file)) (w.namespaceFor file))
      (host.version (w.host.obtain w.store resolution).1)
    exact congrArg Workspace.host hsave

/-- The host after the run of the chosen generator. -/
def ran (w : Workspace κ σ) (request : Request) (resolution : Resolution) : Host κ σ :=
  ((w.host.obtain w.store resolution).2.run (w.host.obtain w.store resolution).1 request).2

theorem produce_host_of_breaks (hbreaks : BreaksConnection (w.outcome request resolution)) :
    (w.produce file settings request resolution).2.host =
      (w.ran request resolution).discard (w.host.obtain w.store resolution).1 := by
  obtain ⟨message, hbreaks⟩ := hbreaks
  unfold outcome at hbreaks
  rw [← Host.obtain_fst] at hbreaks
  rw [produce_host]
  simp only [hbreaks]
  rfl

theorem produce_host_of_holds (hholds : ¬ BreaksConnection (w.outcome request resolution)) :
    (w.produce file settings request resolution).2.host = w.ran request resolution := by
  unfold outcome at hholds
  rw [← Host.obtain_fst] at hholds
  rw [produce_host]
  dsimp only
  split
  · next message hbreaks => exact absurd ⟨message, hbreaks⟩ hholds
  · rfl

/-- Running a generator leaves the host that ran it, unless its connection broke. -/
theorem produce_host_cases (w : Workspace κ σ) (file : FeatureFile)
    (settings : GenerationSettings) (request : Request) (resolution : Resolution) :
    (w.produce file settings request resolution).2.host = w.ran request resolution ∨
      (w.produce file settings request resolution).2.host =
        (w.ran request resolution).discard (w.host.obtain w.store resolution).1 := by
  by_cases hbreaks : BreaksConnection (w.outcome request resolution)
  · exact .inr (produce_host_of_breaks hbreaks)
  · exact .inl (produce_host_of_holds hbreaks)

/-- New code is the work of the chosen generator under a header of its own version, and is written
if that is asked for. -/
theorem produce_eq_generated
    (h : w.produce file settings request resolution = (.generated code version, after)) :
    version = w.host.version (w.host.chosen w.store resolution) ∧
      (∃ body, w.outcome request resolution = .ok body ∧
        code = w.wrap body
          (Fingerprint.computeWith w.hash version request (w.namespaceFor file))
          (w.namespaceFor file)) ∧
      if settings.writeResult then
        w.store.writeText (w.generatedPath file) code = (.ok (), after.store)
      else after.store = w.store := by
  obtain ⟨host, hproduce⟩ := w.produce_eq file settings request resolution
  rw [hproduce] at h
  cases houtcome : w.outcome request resolution with
  | error failure =>
    obtain ⟨error, ran, hfailed⟩ :=
      { w with host }.failed_eq (w.host.chosen w.store resolution) failure
    rw [houtcome] at h
    cases hfailed.symm.trans h
  | ok body =>
    rw [houtcome] at h
    obtain ⟨rfl, rfl, hstore⟩ := save_eq_generated h
    exact ⟨rfl, ⟨body, rfl, rfl⟩, hstore⟩

theorem produce_snd (w : Workspace κ σ) (file : FeatureFile) (settings : GenerationSettings)
    (request : Request) (resolution : Resolution) :
    ∃ host store, (w.produce file settings request resolution).2 = { w with host, store } ∧
      FileStore.Keeps [w.locationOfGenerated file] w.store store := by
  obtain ⟨host, hproduce⟩ := w.produce_eq file settings request resolution
  rw [hproduce]
  split
  · next failure houtcome =>
    obtain ⟨error, ran, hfailed⟩ :=
      { w with host }.failed_eq (w.host.chosen w.store resolution) failure
    exact ⟨ran, w.store, congrArg Prod.snd hfailed, FileStore.Keeps.refl _ w.store⟩
  · next body houtcome =>
    obtain ⟨store, hsave, hkeeps⟩ := save_snd { w with host } file settings _ _
    exact ⟨host, store, hsave, hkeeps⟩

theorem produce_fst_ne_upToDate :
    (w.produce file settings request resolution).1 ≠ .upToDate version := by
  obtain ⟨host, hproduce⟩ := w.produce_eq file settings request resolution
  rw [hproduce]
  split
  · next failure houtcome =>
    obtain ⟨error, ran, hfailed⟩ :=
      { w with host }.failed_eq (w.host.chosen w.store resolution) failure
    rw [hfailed]
    simp
  · unfold save
    split
    · split <;> simp
    · simp

/-! ### Generating -/

/-- A generation ends before anything is looked up, or after the check, or with the run of the
generator. -/
theorem generate_snd_cases (w : Workspace κ σ) (file : FeatureFile)
    (settings : GenerationSettings) :
    (w.generate file settings).2 = w ∨
      ∃ events, (w.generate file settings).2 = w.noting w.resolve.2.resolver events ∨
        ∃ request, w.request file = .ok request ∧
          (w.generate file settings).2 = ((w.noting w.resolve.2.resolver events).produce file
            settings request w.resolve.1).2 := by
  cases hrequest : w.request file with
  | error fault =>
    rw [generate_of_fault hrequest]
    exact .inl rfl
  | ok request =>
    obtain ⟨events, heq⟩ := generate_of_request hrequest settings
    rw [heq]
    refine .inr ⟨events, ?_⟩
    split
    · exact .inl rfl
    · exact .inl rfl
    · exact .inr ⟨request, rfl, rfl⟩
    · exact .inr ⟨request, rfl, rfl⟩

/-- A generation changes nothing but the resolver, the host and the generated file. -/
theorem generate_snd (w : Workspace κ σ) (file : FeatureFile) (settings : GenerationSettings) :
    ∃ resolver host store, (w.generate file settings).2 = { w with resolver, host, store } ∧
      (resolver = w.resolver ∨ resolver = w.resolve.2.resolver) ∧
      FileStore.Keeps [w.locationOfGenerated file] w.store store := by
  have hsame := FileStore.Keeps.refl [w.locationOfGenerated file] w.store
  rcases w.generate_snd_cases file settings with heq | ⟨events, heq | ⟨request, -, heq⟩⟩
  · exact ⟨w.resolver, w.host, w.store, heq, .inl rfl, hsame⟩
  · exact ⟨_, _, _, heq, .inr rfl, hsame⟩
  · obtain ⟨host, store, hproduce, hkeeps⟩ :=
      (w.noting w.resolve.2.resolver events).produce_snd file settings request w.resolve.1
    exact ⟨_, host, store, heq.trans hproduce, .inr rfl, hkeeps⟩

theorem generate_eq_generated
    (h : w.generate file settings = (.ok (.generated code version), after)) :
    ∃ request events, w.request file = .ok request ∧
      (w.noting w.resolve.2.resolver events).produce file settings request w.resolve.1 =
        (.generated code version, after) := by
  cases hrequest : w.request file with
  | error fault =>
    rw [generate_of_fault hrequest] at h
    cases h
  | ok request =>
    obtain ⟨events, heq⟩ := generate_of_request hrequest settings
    rw [heq] at h
    refine ⟨request, events, rfl, ?_⟩
    rcases hproduce : (w.noting w.resolve.2.resolver events).produce file settings request
      w.resolve.1 with ⟨report, produced⟩
    rw [hproduce] at h
    split at h <;> cases h <;> rfl

theorem generate_eq_upToDate (h : w.generate file settings = (.ok (.upToDate version), after)) :
    ∃ request, w.request file = .ok request ∧ settings.checkUpToDate = true ∧
      w.judge file settings.method (w.expected file request w.resolve.1) = .ok true ∧
      after.store = w.store ∧ version = w.resolve.1.effectiveVersion .current := by
  cases hrequest : w.request file with
  | error fault =>
    rw [generate_of_fault hrequest] at h
    cases h
  | ok request =>
    obtain ⟨events, heq⟩ := generate_of_request hrequest settings
    rw [heq] at h
    refine ⟨request, rfl, ?_⟩
    split at h
    · cases h
    · next hcheck hjudge =>
      cases h
      exact ⟨hcheck, hjudge, rfl, rfl⟩
    · exact absurd (Except.ok.inj (congrArg Prod.fst h)) produce_fst_ne_upToDate
    · exact absurd (Except.ok.inj (congrArg Prod.fst h)) produce_fst_ne_upToDate

/-! ### The fingerprint of the code -/

theorem readFingerprint_wrap (hheader : w.header = .standard) {fingerprint : Fingerprint}
    (h : fingerprint.version.IsWellFormed) (body namespaceName : Text) :
    Header.readFingerprint (w.wrap body fingerprint namespaceName) = .ok fingerprint := by
  unfold wrap
  rw [hheader, List.append_assoc, List.append_assoc]
  exact Header.readFingerprint_write_append _ h

/-- Code is judged by the fingerprint it was wrapped with. -/
theorem content_wrap (hheader : w.header = .standard) {fingerprint : Fingerprint}
    (h : fingerprint.version.IsWellFormed) (body namespaceName : Text) (expected : Fingerprint)
    (method : CheckMethod) :
    (Checker.standard .standard).content (w.wrap body fingerprint namespaceName) expected method =
      .ok (fingerprint = expected) := by
  have hread : HeaderFormat.standard.readFingerprint (w.wrap body fingerprint namespaceName) =
      .ok fingerprint := by
    simp only [HeaderFormat.standard, readFingerprint_wrap hheader h, Except.mapError]
  simp only [Checker.standard, Checker.contentStandard, hread]

end Workspace

end FeatureFixtures
