import FeatureFixtures.Proofs.Crashes
import FeatureFixtures.Proofs.Launches
/-!
# Which version is recorded

The version that a resolution asks for, the version of the isolated generator in the cache and the
version of the built-in generator can all differ. Whatever was asked of a workspace before, the
version that is reported and recorded with new code is the version of the generator whose run made
it, and the version that is reported of a file that is up to date is the one its header tells.
-/

namespace FeatureFixtures

variable {κ σ : Type}

/-- What is noted when a generator is run. -/
def Handle.runEvent (handle : Handle κ) (request : Request) : Event :=
  match handle with
  | builtin => .runBuiltin request
  | isolated generator => .invoke generator.serial request

namespace Host

theorem run_events (host : Host κ σ) (handle : Handle κ) (request : Request) :
    (host.run handle request).2.events = host.events ++ [handle.runEvent request] := by
  cases handle <;> rfl

theorem version_invalidate (host : Host κ σ) : host.invalidate.version = host.version := by
  unfold invalidate
  split
  · funext handle
    cases handle <;> rfl
  · rfl

theorem version_discard (host : Host κ σ) (handle : Handle κ) :
    (host.discard handle).version = host.version := by
  rcases host.discard_cases handle with heq | heq
  · rw [heq, version_invalidate]
  · rw [heq]

end Host

namespace Workspace

variable {w after : Workspace κ σ} {file : FeatureFile} {settings : GenerationSettings}
  {report : Report} {code : Text} {version : Version}

/-! ### What a run keeps -/

theorem version_produce (w : Workspace κ σ) (file : FeatureFile) (settings : GenerationSettings)
    (request : Request) (resolution : Resolution) :
    (w.produce file settings request resolution).2.host.version = w.host.version := by
  have hran : (w.ran request resolution).version = w.host.version :=
    (Host.version_run _ _ request).trans (w.host.version_obtain w.store resolution)
  rcases w.produce_host_cases file settings request resolution with heq | heq
  · rw [heq, hran]
  · rw [heq, Host.version_discard, hran]

theorem version_generate (w : Workspace κ σ) (file : FeatureFile)
    (settings : GenerationSettings) :
    (w.generate file settings).2.host.version = w.host.version := by
  have hnoting (events : List Event) :
      (w.noting w.resolve.2.resolver events).host.version = w.host.version := by
    funext handle
    cases handle <;> rfl
  rcases w.generate_snd_cases file settings with heq | ⟨events, heq | ⟨request, -, heq⟩⟩
  · rw [heq]
  · rw [heq, hnoting]
  · rw [heq, version_produce, hnoting]

/-- The generators keep their versions. -/
theorem version_perform (w : Workspace κ σ) (operation : Operation κ) :
    (w.perform operation).host.version = w.host.version := by
  cases operation with
  | obtain resolution => exact w.host.version_obtain w.store resolution
  | generate file settings => exact w.version_generate file settings
  | invalidate => exact w.host.version_invalidate
  | discard handle => exact w.host.version_discard handle
  | dispose => exact w.host.version_invalidate
  | replaceFiles store => rfl

theorem format_perform (w : Workspace κ σ) (operation : Operation κ) :
    (w.perform operation).header = w.header ∧ (w.perform operation).checker = w.checker := by
  cases operation with
  | generate file settings =>
    obtain ⟨resolver, host, store, heq, -, -⟩ := w.generate_snd file settings
    simp only [perform, heq, and_self]
  | _ => exact ⟨rfl, rfl⟩

/-- A workspace with standard header and checker, whose generators have versions that can be
written. -/
structure RecordsVersions (w : Workspace κ σ) : Prop where
  header : w.header = .standard
  checker : w.checker = .standard .standard
  isWellFormed : ∀ generator, (w.host.version generator).IsWellFormed

theorem RecordsVersions.perform (hw : w.RecordsVersions) (operation : Operation κ) :
    (w.perform operation).RecordsVersions where
  header := (w.format_perform operation).1.trans hw.header
  checker := (w.format_perform operation).2.trans hw.checker
  isWellFormed := w.version_perform operation ▸ hw.isWellFormed

theorem RecordsVersions.foldl_perform (hw : w.RecordsVersions) (operations : List (Operation κ)) :
    (operations.foldl Workspace.perform w).RecordsVersions := by
  induction operations generalizing w with
  | nil => exact hw
  | cons operation rest ih => exact ih (hw.perform operation)

/-! ### One generation -/

/-- A generator that made a body is not discarded. -/
theorem produce_host_of_ok {request : Request} {resolution : Resolution} {body : Text}
    (h : w.outcome request resolution = .ok body) (file : FeatureFile)
    (settings : GenerationSettings) :
    (w.produce file settings request resolution).2.host =
      ((w.host.obtain w.store resolution).2.run (w.host.chosen w.store resolution) request).2 := by
  have hholds : ¬ BreaksConnection (w.outcome request resolution) := by
    rintro ⟨message, hbreaks⟩
    cases h.symm.trans hbreaks
  rw [produce_host_of_holds hholds, ran, ← Host.obtain_fst]

/-- In the generation for a feature file, a generator is handed out and run, which is the last thing
that is noted, and makes a body. -/
structure Makes (w after : Workspace κ σ) (file : FeatureFile) (generator : Handle κ)
    (request : Request) (body : Text) : Prop where
  asked : w.request file = .ok request
  obtained : (w.host.obtain w.store w.resolve.1).1 = generator
  outcome : ((w.host.obtain w.store w.resolve.1).2.run generator request).1 = .ok body
  noted : after.host.events.getLast? = some (generator.runEvent request)

/-- New code is made by one generator, under a header of the version of that generator. -/
theorem exists_makes_of_generate
    (h : w.generate file settings = (.ok (.generated code version), after)) :
    ∃ generator request body, w.Makes after file generator request body ∧
      w.host.version generator = version ∧
      code = w.wrap body (Fingerprint.computeWith w.hash version request (w.namespaceFor file))
        (w.namespaceFor file) := by
  obtain ⟨request, events, hrequest, hproduce⟩ := generate_eq_generated h
  obtain ⟨hversion, ⟨body, hbody, hcode⟩, -⟩ := produce_eq_generated hproduce
  have hhost := produce_host_of_ok hbody file settings
  rw [hproduce] at hhost
  rw [w.outcome_of_noting] at hbody
  refine ⟨w.host.chosen w.store w.resolve.1, request, body,
    ⟨hrequest, w.host.obtain_fst w.store w.resolve.1, hbody, ?_⟩, hversion.symm, hcode⟩
  rw [hhost, Host.run_events, List.getLast?_concat]
  rfl

theorem detectVersion_eq_some_iff (hheader : w.header = .standard) :
    w.detectVersion file = some version ↔
      ∃ text, w.HasGenerated file text ∧ Header.readVersion text = .ok version := by
  simp only [← loadGenerated_eq_ok_iff]
  unfold detectVersion
  rw [hheader]
  cases w.loadGenerated file with
  | error fault => simp
  | ok text =>
    cases hread : Header.readVersion text <;>
      simp [HeaderFormat.standard, hread, Except.mapError, Except.toOption]

/-- **The recorded version is the version that ran.** Whatever was asked of a workspace before, a
generation that succeeds reports a version. With new code, it is the version of the generator that
was handed out and whose run made the code, which was wrapped under a header of that version and
tells it when it is read. Of a file that is up to date, it is the version that is read from the text
generated before. -/
theorem version_of_generate (hw : w.RecordsVersions) (operations : List (Operation κ))
    (h : (operations.foldl perform w).generate file settings = (.ok report, after))
    (hsuccess : report.isSuccess = true) :
    let before := operations.foldl perform w
    ∃ version, report.version? = some version ∧
      ((∃ code generator request body, report = .generated code version ∧
          before.Makes after file generator request body ∧
          before.host.version generator = version ∧
          code = before.wrap body
            (Fingerprint.computeWith before.hash version request (before.namespaceFor file))
            (before.namespaceFor file) ∧
          Header.readVersion code = .ok version) ∨
        report = .upToDate version ∧ before.detectVersion file = some version) := by
  intro before
  have hbefore : before.RecordsVersions := hw.foldl_perform operations
  cases report with
  | failed error => cases hsuccess
  | generated code version =>
    obtain ⟨generator, request, body, hmakes, hversion, hcode⟩ := exists_makes_of_generate h
    refine ⟨version, rfl, .inl ⟨code, generator, request, body, rfl, hmakes, hversion, hcode, ?_⟩⟩
    have hwellFormed : version.IsWellFormed := hversion ▸ hbefore.isWellFormed generator
    rw [hcode]
    exact Header.readVersion_of_readFingerprint
      (readFingerprint_wrap hbefore.header hwellFormed body (before.namespaceFor file))
  | upToDate version =>
    obtain ⟨request, -, -, hjudge, -, hversion⟩ := generate_eq_upToDate h
    obtain ⟨⟨text, hgenerated, hcontent⟩, -⟩ :=
      (judge_eq_iff hbefore.checker (by simp)).1 hjudge
    have hread := Header.readVersion_of_readFingerprint
      (Checker.contentStandard_eq_true_iff.1 hcontent)
    refine ⟨version, rfl, .inr ⟨rfl, ?_⟩⟩
    rw [hversion]
    exact (detectVersion_eq_some_iff hbefore.header).2 ⟨text, hgenerated, hread⟩

/-- The cached generator is of another version than was asked for when it was launched, and than the
one that the project now asks for. -/
theorem version_of_generate_cached :
    let w : Workspace Unit Unit :=
      { project := {}
        resolver := .standard
        host :=
          { builtin := .builtin
            launcher := .steady ⟨9, 9, 9, [], []⟩ "class Buy;"
            state := () }
        header := .standard
        checker := .standard .standard
        hash := fun _ => []
        store := {} }
    let operations : List (Operation Unit) :=
      [.obtain (.resolved { version := ⟨8, 0, 0, [], []⟩, location := "/tools" })]
    let before := operations.foldl perform w
    let file : FeatureFile := { path := "buy.feature", feature := some "Feature: Buy\n" }
    before.resolve.1.effectiveVersion .current = .current ∧
    ∃ code, (before.generate file {}).1 = .ok (.generated code ⟨9, 9, 9, [], []⟩) ∧
      Header.readVersion code = .ok ⟨9, 9, 9, [], []⟩ := by
  intro w operations before file
  have hw : w.RecordsVersions := by
    refine ⟨rfl, rfl, ?_⟩
    intro generator
    cases generator with
    | builtin => exact Version.isWellFormed_current
    | isolated generator => exact Version.isWellFormed_numbers (by decide) (by decide) (by decide)
  have hgenerated : ∃ code, (before.generate file {}).1 =
      .ok (.generated code ⟨9, 9, 9, [], []⟩) := ⟨_, rfl⟩
  obtain ⟨code, hcode⟩ := hgenerated
  have hgenerate : before.generate file {} =
      (.ok (.generated code ⟨9, 9, 9, [], []⟩), (before.generate file {}).2) :=
    Prod.ext hcode rfl
  obtain ⟨version, -, ⟨_, _, _, _, hreport, -, -, -, hread⟩ | ⟨hreport, -⟩⟩ :=
    version_of_generate hw operations hgenerate rfl
  · cases hreport
    exact ⟨rfl, code, hcode, hread⟩
  · cases hreport

end Workspace

end FeatureFixtures
