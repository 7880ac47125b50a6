import FeatureFixtures.Proofs.Judging
/-!
# Which crashes are passed on

A generator that crashes is answered with a report, a header that is refused makes the file count as
not up to date, and a version that crashes on being read is not known. The one crash that a
generation passes on is that of the header when the check reads its fingerprint.
-/

namespace FeatureFixtures

/-- The standard format of headers, but reading them crashes. -/
def HeaderFormat.crashing (message : Option Text) : HeaderFormat :=
  { HeaderFormat.standard with
    readVersion := fun _ => .error (.crash message)
    readFingerprint := fun _ => .error (.crash message) }

namespace Host

variable {κ σ : Type}

theorem launch_of_events (host : Host κ σ) (store : FileStore) (wanted : Installation)
    (events : List Event) :
    ∃ noted, { host with events }.launch store wanted =
      (host.launch store wanted).map id ({ · with events := noted }) := by
  unfold launch start release record
  dsimp only
  rcases host.launcher.create store wanted host.state with ⟨error | context, created⟩
  · exact ⟨_, rfl⟩
  · dsimp only
    rcases host.launcher.start context created with ⟨error | ⟨⟩, started⟩
    · exact ⟨_, rfl⟩
    · exact ⟨_, rfl⟩

/-- What was noted before makes no difference to which generator is handed out. -/
theorem obtain_of_events (host : Host κ σ) (store : FileStore) (resolution : Resolution)
    (events : List Event) :
    ∃ noted, { host with events }.obtain store resolution =
      (host.obtain store resolution).map id ({ · with events := noted }) := by
  unfold obtain
  dsimp only
  split
  · exact ⟨_, rfl⟩
  · exact ⟨_, rfl⟩
  · next wanted hcached =>
    split
    · exact ⟨_, rfl⟩
    · obtain ⟨noted, hlaunch⟩ := host.launch_of_events store wanted events
      rw [hlaunch]
      rcases host.launch store wanted with ⟨error | generator, launched⟩
      · exact ⟨_, rfl⟩
      · exact ⟨_, rfl⟩

theorem run_fst_of_events (host : Host κ σ) (handle : Handle κ) (request : Request)
    (events : List Event) :
    ({ host with events }.run handle request).1 = (host.run handle request).1 := by
  cases handle with
  | builtin => rfl
  | isolated generator => rfl

end Host

namespace Workspace

variable {κ σ : Type} {w : Workspace κ σ} {file : FeatureFile} {method : CheckMethod}
  {settings : GenerationSettings} {expected : Fingerprint} {header : HeaderFormat} {text : Text}
  {request : Request} {resolution : Resolution}

/-- A header that is refused does not make a file count as up to date. -/
theorem judge_of_refused (hchecker : w.checker = .standard header) {error : Error}
    (hgenerated : w.HasGenerated file text)
    (hread : header.readFingerprint text = .error (.error error)) :
    w.judge file method expected = .ok false := by
  rw [judge_of_standard hchecker, loadGenerated_eq_ok_iff.2 hgenerated]
  cases hpreliminary : w.preliminary file method with
  | none => simp only [Checker.contentStandard, hread]
  | some answer =>
    cases answer with
    | false => rfl
    | true => exact absurd hpreliminary Checker.preliminaryStandard_ne_true

/-- What was noted before makes no difference to what a generator does. -/
theorem outcome_of_noting (w : Workspace κ σ) (resolver : Resolver) (events : List Event)
    (request : Request) (resolution : Resolution) :
    (w.noting resolver events).outcome request resolution = w.outcome request resolution := by
  obtain ⟨noted, hobtain⟩ := w.host.obtain_of_events w.store resolution events
  have hnoting : (w.noting resolver events).host.obtain (w.noting resolver events).store
      resolution = _ := hobtain
  -- The events of the two hosts differ from here on, but no generator is told about them.
  unfold outcome
  rw [hnoting, ← Host.obtain_fst, ← Host.obtain_fst, hnoting]
  exact Host.run_fst_of_events (w.host.obtain w.store resolution).2 _ request noted

theorem produce_of_crash {message : Option Text}
    (h : w.outcome request resolution = .error (.crash message)) :
    (w.produce file settings request resolution).1 =
      .failed (.emission ("generator panicked: " ++ crashText message)) := by
  obtain ⟨host, hproduce⟩ := w.produce_eq file settings request resolution
  rw [hproduce, h]
  rfl

/-- Where the generator is reached, its crash is reported. -/
theorem generate_of_crash (hrequest : w.request file = .ok request)
    (hreached : settings.checkUpToDate = true →
      w.judge file settings.method (w.expected file request w.resolve.1) = .ok false)
    {message : Option Text} (hcrash : w.outcome request w.resolve.1 = .error (.crash message)) :
    (w.generate file settings).1 =
      .ok (.failed (.emission ("generator panicked: " ++ crashText message))) := by
  obtain ⟨events, heq⟩ := generate_of_reached hrequest hreached
  have hproduce : ((w.noting w.resolve.2.resolver events).produce file settings request
      w.resolve.1).1 = .failed (.emission ("generator panicked: " ++ crashText message)) :=
    produce_of_crash ((w.outcome_of_noting _ events request _).trans hcrash)
  rw [heq]
  exact congrArg Except.ok hproduce

theorem detectVersion_of_crash {message : Option Text} (hgenerated : w.HasGenerated file text)
    (hcrash : w.header.readVersion text = .error (.crash message)) :
    w.detectVersion file = none := by
  unfold detectVersion
  rw [loadGenerated_eq_ok_iff.2 hgenerated]
  simp only [hcrash, Except.toOption]

theorem generate_eq_error_iff (hchecker : w.checker = .standard header) {message : Option Text} :
    (w.generate file settings).1 = .error message ↔
      settings.checkUpToDate = true ∧ (∃ request, w.request file = .ok request) ∧
        (∃ text, w.HasGenerated file text ∧
          header.readFingerprint text = .error (.crash message)) ∧
        ¬ w.IsOutdated file settings.method := by
  cases hrequest : w.request file with
  | error fault =>
    rw [generate_of_fault hrequest]
    simp
  | ok request =>
    obtain ⟨events, heq⟩ := generate_of_request hrequest settings
    have hjudge : w.judge file settings.method (w.expected file request w.resolve.1) =
        .error message ↔ _ := judge_eq_iff hchecker (by simp)
    -- The judgement is the only place from which a crash comes through.
    simp only [Checker.contentStandard_eq_error_iff] at hjudge
    rw [← hjudge, heq]
    cases settings.checkUpToDate with
    | false => simp
    | true =>
      rcases w.judge file settings.method (w.expected file request w.resolve.1) with crash | _ | _
      · simp
      · simp
      · simp

/-- **Which crashes a generation passes on.** Under the standard check, whatever the generators and
the header do, it passes on a crash exactly if a check is asked for that reaches the header of the
text generated before, and reading its fingerprint crashes. A header that is refused makes the file
count as not up to date, and a generator that crashes is reported as a failure. A version that
cannot be read because of a crash is not known. -/
theorem crash_of_generate_iff (hchecker : w.checker = .standard header) :
    (∀ message, (w.generate file settings).1 = .error message ↔
      settings.checkUpToDate = true ∧ (∃ request, w.request file = .ok request) ∧
        (∃ text, w.HasGenerated file text ∧
          header.readFingerprint text = .error (.crash message)) ∧
        ¬ w.IsOutdated file settings.method) ∧
    (∀ text error expected, w.HasGenerated file text →
      header.readFingerprint text = .error (.error error) →
      (w.isUpToDate file settings.method expected).1 = .ok false) ∧
    (∀ request message, w.request file = .ok request →
      (settings.checkUpToDate = true →
        (w.isUpToDate file settings.method (w.expected file request w.resolve.1)).1 = .ok false) →
      w.outcome request w.resolve.1 = .error (.crash message) →
      (w.generate file settings).1 =
        .ok (.failed (.emission ("generator panicked: " ++ crashText message)))) ∧
    ∀ text message, w.HasGenerated file text →
      w.header.readVersion text = .error (.crash message) → w.detectVersion file = none := by
  simp only [isUpToDate_fst]
  refine ⟨?_, ?_, ?_, ?_⟩
  · intro message
    exact generate_eq_error_iff hchecker
  · intro text error expected hgenerated hread
    exact judge_of_refused hchecker hgenerated hread
  · intro request message hrequest hreached hcrash
    exact generate_of_crash hrequest hreached hcrash
  · intro text message hgenerated hcrash
    exact detectVersion_of_crash hgenerated hcrash

/-- The check refuses the header of the text generated before, then the generator crashes; and the
header crashes when it is asked for the version. -/
theorem generate_ne_crash_refused :
    let header : HeaderFormat :=
      { HeaderFormat.standard with
        readVersion := fun _ => .error (.crash (some "header"))
        readFingerprint := fun _ => .error (.error (.header "corrupt")) }
    let host : Host Empty Unit :=
      { builtin := { version := .current, generate := fun _ => .error (.crash (some "generator")) }
        launcher := .refusing (.connection "no worker")
        state := () }
    let w := { standalone {} Blake3.hash {} with header, checker := .standard header, host }
    let file : FeatureFile :=
      { path := "buy.feature", feature := some "Feature: Buy\n", generated := some "x" }
    let settings : GenerationSettings := { checkUpToDate := true }
    (∀ message, (w.generate file settings).1 ≠ .error message) ∧
    (w.generate file settings).1 = .ok (.failed (.emission "generator panicked: generator")) ∧
    w.detectVersion file = none := by
  intro header host w file settings
  have hgenerated : w.HasGenerated file "x" := loadGenerated_eq_ok_iff.1 rfl
  obtain ⟨hescapes, hrefused, hcrashes, hunknown⟩ :=
    @crash_of_generate_iff Empty Unit w file settings header rfl
  refine ⟨fun message hcrash => ?_, ?_, hunknown "x" (some "header") hgenerated rfl⟩
  · obtain ⟨-, -, ⟨text, -, hread⟩, -⟩ := (hescapes message).1 hcrash
    cases hread
  · exact hcrashes _ (some "generator") rfl
      (fun _ => hrefused "x" (.header "corrupt") _ hgenerated rfl) rfl

/-- With a check, the crash of the header is passed on. -/
theorem generate_crashes_checked :
    let header := HeaderFormat.crashing (some "header")
    let w := { standalone {} Blake3.hash {} with header, checker := .standard header }
    let file : FeatureFile :=
      { path := "buy.feature", feature := some "Feature: Buy\n", generated := some "x" }
    (w.generate file { checkUpToDate := true }).1 = .error (some "header") := by
  rfl

end Workspace

end FeatureFixtures
