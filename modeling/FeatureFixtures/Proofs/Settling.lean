import FeatureFixtures.Proofs.Runs
/-!
# Generating settles

After a file was generated it has the fingerprint that is expected of it, and keeps it while other
files are generated. As long as it is not older than its feature file and the resolver answers the
same, every later check finds it up to date, and leaves the files as they are.
-/

namespace FeatureFixtures

namespace Checker

variable {store : FileStore} {file : FeatureFile} {featurePath generatedPath : Text}
  {method : CheckMethod}

theorem preliminaryStandard_ne_true :
    preliminaryStandard store file featurePath generatedPath method ≠ some true := by
  unfold preliminaryStandard
  split
  · simp
  · split
    · simp
    · split <;> simp

theorem preliminaryStandard_eq_none_iff (hgenerated : file.generated = none) :
    preliminaryStandard store file featurePath generatedPath method = none ↔
      store.pathExists generatedPath = true ∧
        (method = .modificationTime → file.feature = none →
          isNewer store featurePath generatedPath = false) := by
  unfold preliminaryStandard
  cases hexists : store.pathExists generatedPath with
  | false => simp [hgenerated]
  | true =>
    by_cases hnewer : method = .modificationTime ∧ file.feature.isNone = true ∧
        isNewer store featurePath generatedPath = true
    · simp_all
    · simp_all

theorem contentStandard_eq_true_iff {text : Text} {expected : Fingerprint} :
    contentStandard .standard text expected = .ok true ↔
      Header.readFingerprint text = .ok expected := by
  unfold contentStandard HeaderFormat.standard
  cases hread : Header.readFingerprint text with
  | ok found => simp [hread, Except.mapError]
  | error fault => simp [hread, Except.mapError, Header.Fault.toFailure]

end Checker

namespace Workspace

variable {κ σ : Type} {w after : Workspace κ σ} {targets : List Location} {file : FeatureFile}
  {request : Request} {resolution : Resolution} {method : CheckMethod} {text : Text}

/-- A feature file and its generated file are none of the files at some locations. -/
structure Untouched (w : Workspace κ σ) (targets : List Location) (file : FeatureFile) : Prop where
  feature : file.feature = none → w.locationOfFeature file ∉ targets
  generated : w.locationOfGenerated file ∉ targets

/-- The generated file is there with the fingerprint that is expected of it. -/
def IsCurrent (w : Workspace κ σ) (resolution : Resolution) (file : FeatureFile) : Prop :=
  ∃ request text, w.request file = .ok request ∧ w.loadGenerated file = .ok text ∧
    Header.readFingerprint text = .ok (w.expected file request resolution)

/-- The generated file is not older than the feature file, if that is a file. -/
def IsInTime (w : Workspace κ σ) (file : FeatureFile) : Prop :=
  file.feature = none →
    Checker.isNewer w.store (file.pathIn w.project.folder) (w.generatedPath file) = false

/-! ### Files that others leave alone -/

theorem Continues.request_eq (h : Continues targets w after)
    (hfile : file.feature = none → w.locationOfFeature file ∉ targets)
    (hrequest : w.request file = .ok request) : after.request file = .ok request := by
  obtain ⟨feature, hfeature, hmade⟩ := bind_eq_ok_iff.1 hrequest
  unfold Workspace.request
  rw [h.project]
  refine bind_eq_ok_iff.2 ⟨feature, ?_, hmade⟩
  unfold FeatureFile.loadFeature at hfeature ⊢
  cases hinline : file.feature with
  | some text => simpa [hinline] using hfeature
  | none =>
    rw [hinline] at hfeature
    exact FileStore.read_of_keeps h.store (hfile hinline) hfeature

theorem Continues.loadGenerated_eq (h : Continues targets w after)
    (hfile : w.Untouched targets file) (hload : w.loadGenerated file = .ok text) :
    after.loadGenerated file = .ok text := by
  unfold loadGenerated FeatureFile.loadGenerated at hload ⊢
  cases hinline : file.generated with
  | some text => simpa [hinline] using hload
  | none =>
    rw [hinline] at hload
    rw [h.project]
    exact FileStore.read_of_keeps h.store hfile.generated hload

theorem Continues.expected_eq (h : Continues targets w after) :
    after.expected file request resolution = w.expected file request resolution := by
  unfold expected namespaceFor
  rw [h.project, h.hash]

theorem IsCurrent.of_continues (hcurrent : w.IsCurrent resolution file)
    (h : Continues targets w after) (hfile : w.Untouched targets file) :
    after.IsCurrent resolution file := by
  obtain ⟨request, text, hrequest, hload, hread⟩ := hcurrent
  exact ⟨request, text, h.request_eq hfile.feature hrequest, h.loadGenerated_eq hfile hload,
    hread.trans (congrArg Except.ok h.expected_eq.symm)⟩

theorem IsInTime.of_continues (htime : w.IsInTime file) (hcurrent : w.IsCurrent resolution file)
    (hgenerated : file.generated = none) (h : Continues targets w after)
    (hfile : w.Untouched targets file) : after.IsInTime file := by
  intro hfeature
  obtain ⟨request, text, hrequest, hload, -⟩ := hcurrent
  obtain ⟨feature, hread, -⟩ := bind_eq_ok_iff.1 hrequest
  simp only [FeatureFile.loadFeature, hfeature] at hread
  simp only [loadGenerated, FeatureFile.loadGenerated, hgenerated] at hload
  have hfeatureTime := FileStore.modified?_of_keeps h.store (hfile.feature hfeature) hread
  have hgeneratedTime := FileStore.modified?_of_keeps h.store hfile.generated hload
  have hnewer := htime hfeature
  unfold Checker.isNewer generatedPath at hnewer ⊢
  rw [h.project, hfeatureTime]
  rw [generatedPath] at hgeneratedTime
  rwa [hgeneratedTime]

/-! ### Checking -/

/-- The standard check of a file that is current and in time finds it up to date. -/
theorem IsCurrent.judge_eq (hcurrent : w.IsCurrent resolution file) (hw : w.IsStandard)
    (hrequest : w.request file = .ok request) (hgenerated : file.generated = none)
    (htime : method = .modificationTime → w.IsInTime file) :
    w.judge file method (w.expected file request resolution) = .ok true := by
  obtain ⟨_, text, hsame, hload, hread⟩ := hcurrent
  obtain rfl := Except.ok.inj (hrequest.symm.trans hsame)
  have hexists : w.store.pathExists (w.generatedPath file) = true := by
    simp only [loadGenerated, FeatureFile.loadGenerated, hgenerated] at hload
    exact FileStore.pathExists_of_read hload
  have hpreliminary := (Checker.preliminaryStandard_eq_none_iff hgenerated).2 ⟨hexists, htime⟩
  unfold judge
  rw [hw.checker]
  simp only [Checker.standard, hpreliminary, hload]
  exact Checker.contentStandard_eq_true_iff.2 hread

/-- What the standard check finds up to date is current, and in time if times are compared. -/
theorem isCurrent_of_judge (hw : w.IsStandard) (hrequest : w.request file = .ok request)
    (hgenerated : file.generated = none)
    (hjudge : w.judge file method (w.expected file request resolution) = .ok true) :
    w.IsCurrent resolution file ∧ (method = .modificationTime → w.IsInTime file) := by
  unfold judge at hjudge
  rw [hw.checker] at hjudge
  simp only [Checker.standard] at hjudge
  split at hjudge
  · next answer hpreliminary =>
    cases hjudge
    exact absurd hpreliminary Checker.preliminaryStandard_ne_true
  · next hpreliminary =>
    split at hjudge
    · cases hjudge
    · next text hload =>
      exact ⟨⟨request, text, hrequest, hload, Checker.contentStandard_eq_true_iff.1 hjudge⟩,
        ((Checker.preliminaryStandard_eq_none_iff hgenerated).1 hpreliminary).2⟩

/-! ### Generating -/

theorem IsStandard.resolve_fst (hw : w.IsStandard) :
    w.resolve.1 = (Resolver.standard.resolve w.store w.project).1 := by
  unfold Workspace.resolve
  rw [hw.resolver]

/-- A generated file is current if its generator had the expected version. -/
theorem isCurrent_of_generated (hw : w.IsStandard) (hgenerated : file.generated = none)
    {settings : GenerationSettings} (hwrite : settings.writeResult = true)
    (hself : file.feature = none → w.locationOfFeature file ≠ w.locationOfGenerated file)
    (h : w.generate file settings =
      (.ok (.generated text (w.resolve.1.effectiveVersion .current)), after)) :
    after.IsCurrent w.resolve.1 file := by
  have hcontinues := continues_generate w file settings
  rw [h] at hcontinues
  obtain ⟨request, events, hrequest, hproduce⟩ := generate_eq_generated h
  obtain ⟨-, ⟨body, -, hcode⟩, hstore⟩ := produce_eq_generated hproduce
  rw [if_pos hwrite] at hstore
  have hfeature : file.feature = none → w.locationOfFeature file ∉ [w.locationOfGenerated file] :=
    fun hnone => mt List.mem_singleton.1 (hself hnone)
  have hload : after.loadGenerated file = .ok text := by
    have hread : after.store.read (w.generatedPath file) = .ok text :=
      FileStore.read_of_writeText hstore
    unfold loadGenerated FeatureFile.loadGenerated
    rw [hgenerated, hcontinues.project]
    exact hread
  have hwellFormed : (w.resolve.1.effectiveVersion .current).IsWellFormed := by
    rw [hw.resolve_fst]
    exact Resolver.isWellFormed_of_standard w.store w.project
  refine ⟨request, text, hcontinues.request_eq hfeature hrequest, hload, ?_⟩
  rw [hcontinues.expected_eq, hcode]
  exact readFingerprint_wrap hw.header hwellFormed _ _

theorem untouched_nil (w : Workspace κ σ) (file : FeatureFile) : w.Untouched [] file :=
  ⟨fun _ => List.not_mem_nil, List.not_mem_nil⟩

/-- What a successful job leaves behind is current. If it was found to be, it is in time, too. -/
theorem isCurrent_of_answer {job : Job} (hw : w.IsStandard) (hgenerated : job.file.generated = none)
    (hwrite : job.settings.writeResult = true)
    (hself : job.file.feature = none →
      w.locationOfFeature job.file ≠ w.locationOfGenerated job.file)
    (hversion : (w.answer job).1.report?.bind Report.version? =
      some ((w.answer job).1.resolution.effectiveVersion .current)) :
    (w.answer job).2.IsCurrent (w.answer job).1.resolution job.file ∧
      ((w.answer job).1.report?.bind Report.code? = none → job.settings.checkUpToDate = true ∧
        (job.settings.method = .modificationTime → (w.answer job).2.IsInTime job.file)) := by
  have htime := continues_asOf w job.now
  have hstandard := htime.standard hw
  rw [← htime.locationOfFeature_eq, ← htime.locationOfGenerated_eq] at hself
  have hcontinues := continues_generate (w.asOf job.now) job.file job.settings
  unfold answer at hversion ⊢
  rcases hgenerate : (w.asOf job.now).generate job.file job.settings with ⟨result, after⟩
  simp only [hgenerate, Answer.report?] at hversion hcontinues ⊢
  rcases result with message | report
  · cases hversion
  cases report with
  | failed error => cases hversion
  | generated code version =>
    obtain rfl := Option.some.inj hversion
    exact ⟨isCurrent_of_generated hstandard hgenerated hwrite hself hgenerate, nofun⟩
  | upToDate version =>
    obtain ⟨request, hrequest, hcheck, hjudge, hstore, -⟩ := generate_eq_upToDate hgenerate
    obtain ⟨hcurrent, hinTime⟩ := isCurrent_of_judge hstandard hrequest hgenerated hjudge
    have hsame : Continues [] (w.asOf job.now) after :=
      ⟨hcontinues.project, hcontinues.hash, hcontinues.standard,
        hstore ▸ FileStore.Keeps.refl [] (w.asOf job.now).store⟩
    have huntouched := untouched_nil (w.asOf job.now) job.file
    exact ⟨hcurrent.of_continues hsame huntouched, fun _ => ⟨hcheck, fun hmethod =>
      (hinTime hmethod).of_continues hcurrent hgenerated hsame huntouched⟩⟩

/-- What successful jobs leave behind is current after all of them, as long as none of them writes
to a file of another one. -/
theorem isCurrent_of_run {jobs : List Job} (hw : w.IsStandard)
    (hjobs : ∀ job ∈ jobs, job.file.generated = none ∧ job.settings.writeResult = true)
    (hdistinct : jobs.Pairwise fun job other =>
      w.locationOfGenerated job.file ≠ w.locationOfGenerated other.file)
    (hfeatures : ∀ job ∈ jobs, job.file.feature = none → ∀ other ∈ jobs,
      w.locationOfFeature job.file ≠ w.locationOfGenerated other.file)
    (hversions : ∀ answer ∈ (w.run jobs).1, answer.report?.bind Report.version? =
      some (answer.resolution.effectiveVersion .current)) :
    ∀ answer ∈ (w.run jobs).1, (w.run jobs).2.IsCurrent answer.resolution answer.job.file ∧
      (answer.report?.bind Report.code? = none → answer.job.settings.checkUpToDate = true ∧
        (answer.job.settings.method = .modificationTime →
          (w.run jobs).2.IsInTime answer.job.file)) := by
  induction jobs generalizing w with
  | nil => exact fun answer hanswer => absurd hanswer List.not_mem_nil
  | cons job rest ih =>
    rw [run_cons] at hversions ⊢
    rw [List.forall_mem_cons] at hversions hjobs ⊢
    obtain ⟨hversion, hrest⟩ := hversions
    obtain ⟨⟨hgenerated, hwrite⟩, hothers⟩ := hjobs
    obtain ⟨hfirst, hdistinct⟩ := List.pairwise_cons.1 hdistinct
    have hcontinues := continues_answer w job
    have hlast := continues_run (w.answer job).2 rest
    have hself := fun hnone => hfeatures job List.mem_cons_self hnone job List.mem_cons_self
    obtain ⟨hcurrent, hinTime⟩ := isCurrent_of_answer hw hgenerated hwrite hself hversion
    -- The jobs after the first one write to other files.
    have huntouched : (w.answer job).2.Untouched
        (rest.map fun other => (w.answer job).2.locationOfGenerated other.file) job.file := by
      constructor
      · intro hnone hmem
        obtain ⟨other, hother, heq⟩ := List.mem_map.1 hmem
        rw [hcontinues.locationOfFeature_eq, hcontinues.locationOfGenerated_eq] at heq
        exact hfeatures job List.mem_cons_self hnone other (List.mem_cons_of_mem job hother)
          heq.symm
      · intro hmem
        obtain ⟨other, hother, heq⟩ := List.mem_map.1 hmem
        rw [hcontinues.locationOfGenerated_eq] at heq
        exact hfirst other hother heq.symm
    refine ⟨⟨hcurrent.of_continues hlast huntouched, fun hcode => ⟨(hinTime hcode).1, fun hmethod =>
      ((hinTime hcode).2 hmethod).of_continues hcurrent hgenerated hlast huntouched⟩⟩, ?_⟩
    refine ih (hcontinues.standard hw) hothers ?_ ?_ hrest
    · rwa [hcontinues.locationOfGenerated_eq]
    · rw [hcontinues.locationOfFeature_eq, hcontinues.locationOfGenerated_eq]
      exact fun other hother hnone another hanother => hfeatures other
        (List.mem_cons_of_mem job hother) hnone another (List.mem_cons_of_mem job hanother)

/-! ### Checking again and again -/

/-- A workspace in which every check of certain files finds them up to date. -/
structure Settled (w : Workspace κ σ) (resolution : Resolution) (method : CheckMethod)
    (files : List FeatureFile) : Prop where
  standard : w.IsStandard
  resolve : w.resolve.1 = resolution
  generated : ∀ file ∈ files, file.generated = none
  current : ∀ file ∈ files, w.IsCurrent resolution file
  inTime : method = .modificationTime → ∀ file ∈ files, w.IsInTime file

variable {files : List FeatureFile}

theorem Settled.of_continues (h : w.Settled resolution method files) (hafter : Continues [] w after)
    (hresolution : after.resolve.1 = w.resolve.1) : after.Settled resolution method files where
  standard := hafter.standard h.standard
  resolve := hresolution.trans h.resolve
  generated := h.generated
  current := fun file hfile => (h.current file hfile).of_continues hafter (w.untouched_nil file)
  inTime := fun hmethod file hfile => (h.inTime hmethod file hfile).of_continues
    (h.current file hfile) (h.generated file hfile) hafter (w.untouched_nil file)

theorem Settled.asOf (h : w.Settled resolution method files) (now : Nat) :
    (w.asOf now).Settled resolution method files := by
  refine h.of_continues (continues_asOf w now) ?_
  rw [((continues_asOf w now).standard h.standard).resolve_fst, h.standard.resolve_fst]
  exact congrArg Prod.fst (Resolver.resolve_standard_now w.store now w.project)

/-- A check finds a file up to date and leaves all as it is. -/
theorem Settled.generate (h : w.Settled resolution method files) (hfile : file ∈ files)
    {settings : GenerationSettings} (hcheck : settings.checkUpToDate = true)
    (hmethod : settings.method = method) :
    (w.generate file settings).1 = .ok (.upToDate (resolution.effectiveVersion .current)) ∧
      (w.generate file settings).2.Settled resolution method files := by
  have hcurrent := h.current file hfile
  obtain ⟨request, -, hrequest, -⟩ := id hcurrent
  have hjudge := hcurrent.judge_eq h.standard hrequest (h.generated file hfile)
    fun htime => h.inTime htime file hfile
  obtain ⟨events, hgenerate⟩ := generate_of_request hrequest settings
  rw [hcheck, hmethod, h.resolve, hjudge] at hgenerate
  have hnoting : Continues [] w (w.noting w.resolve.2.resolver events) :=
    ⟨rfl, rfl, fun hw => ⟨hw.resolve, hw.header, hw.checker⟩, FileStore.Keeps.refl [] w.store⟩
  have hresolution : (w.noting w.resolve.2.resolver events).resolve.1 = w.resolve.1 := by
    rw [(hnoting.standard h.standard).resolve_fst, h.standard.resolve_fst]
    rfl
  rw [hgenerate]
  exact ⟨rfl, h.of_continues hnoting hresolution⟩

theorem Settled.run (h : w.Settled resolution method files) {jobs : List Job}
    (hjobs : ∀ job ∈ jobs, job.file ∈ files ∧ job.settings.checkUpToDate = true ∧
      job.settings.method = method) :
    ∀ answer ∈ (w.run jobs).1,
      answer.result = .ok (.upToDate (resolution.effectiveVersion .current)) := by
  induction jobs generalizing w with
  | nil => exact fun answer hanswer => absurd hanswer List.not_mem_nil
  | cons job rest ih =>
    rw [List.forall_mem_cons] at hjobs
    obtain ⟨⟨hfile, hcheck, hmethod⟩, hrest⟩ := hjobs
    obtain ⟨hresult, hsettled⟩ := (h.asOf job.now).generate hfile hcheck hmethod
    rw [run_cons, List.forall_mem_cons]
    exact ⟨hresult, ih hsettled hrest⟩

/-- **Generating settles.** After feature files were all generated with success, each by a generator
of the version that is expected of one and the same resolution, and none to a file of another one,
every later check of them, in any order and at any time, finds them up to date, provided that the
resolver answers the same and no written file is older than its feature file. -/
theorem upToDate_of_run {jobs later : List Job} (hw : w.IsStandard)
    (hjobs : ∀ job ∈ jobs, job.file.generated = none ∧ job.settings.writeResult = true ∧
      (job.settings.checkUpToDate = true → job.settings.method = method))
    (hdistinct : jobs.Pairwise fun job other =>
      w.locationOfGenerated job.file ≠ w.locationOfGenerated other.file)
    (hfeatures : ∀ job ∈ jobs, job.file.feature = none → ∀ other ∈ jobs,
      w.locationOfFeature job.file ≠ w.locationOfGenerated other.file)
    (hanswers : ∀ answer ∈ (w.run jobs).1, answer.resolution = resolution ∧
      answer.report?.bind Report.version? = some (resolution.effectiveVersion .current))
    (hresolve : (w.run jobs).2.resolve.1 = resolution)
    (htimes : ∀ answer ∈ (w.run jobs).1, (answer.report?.bind Report.code?).isSome = true →
      (w.run jobs).2.IsInTime answer.job.file)
    (hlater : ∀ job ∈ later, job.file ∈ jobs.map Job.file ∧ job.settings.checkUpToDate = true ∧
      job.settings.method = method) :
    ∀ answer ∈ ((w.run jobs).2.run later).1, ∃ report, answer.result = .ok report ∧
      report.isSuccess = true ∧ report.wasUpToDate? = some true ∧ report.code? = none := by
  have hcurrent := isCurrent_of_run hw (fun job hjob => ⟨(hjobs job hjob).1, (hjobs job hjob).2.1⟩)
    hdistinct hfeatures fun answer hanswer => by
      rw [(hanswers answer hanswer).1, (hanswers answer hanswer).2]
  have hanswer : ∀ file ∈ jobs.map Job.file, ∃ answer ∈ (w.run jobs).1,
      answer.job.file = file ∧ answer.job ∈ jobs := by
    intro file hfile
    obtain ⟨job, hjob, rfl⟩ := List.mem_map.1 hfile
    have hmem := hjob
    rw [← w.map_job_run jobs] at hmem
    obtain ⟨answer, hanswer, rfl⟩ := List.mem_map.1 hmem
    exact ⟨answer, hanswer, rfl, hjob⟩
  have hsettled : (w.run jobs).2.Settled resolution method (jobs.map Job.file) := by
    refine ⟨(continues_run w jobs).standard hw, hresolve, ?_, ?_, ?_⟩
    · intro file hfile
      obtain ⟨answer, -, rfl, hjob⟩ := hanswer file hfile
      exact (hjobs answer.job hjob).1
    · intro file hfile
      obtain ⟨answer, hmem, rfl, -⟩ := hanswer file hfile
      exact (hanswers answer hmem).1 ▸ (hcurrent answer hmem).1
    · intro hmethod file hfile
      obtain ⟨answer, hmem, rfl, hjob⟩ := hanswer file hfile
      cases hcode : answer.report?.bind Report.code? with
      | some code => exact htimes answer hmem (by rw [hcode]; rfl)
      | none =>
        obtain ⟨hcheck, hinTime⟩ := (hcurrent answer hmem).2 hcode
        exact hinTime (((hjobs answer.job hjob).2.2 hcheck).trans hmethod)
  intro answer hmem
  exact ⟨_, hsettled.run hlater answer hmem, rfl, rfl, rfl⟩

instance (w : Workspace κ σ) (file : FeatureFile) : Decidable (w.IsInTime file) :=
  inferInstanceAs (Decidable (_ → _))

/-- A feature at hand and one in a file settle, and are checked in another order. -/
theorem upToDate_of_run_shop :
    let store := (({} : FileStore).set ["shop"] .folder).set ["shop", "pay.feature"]
      (.file { content := Text.toBytes "Feature: Pay\n", modified := 1 })
    let w := standalone { folder := "/shop" } Blake3.hash store
    let buy : FeatureFile := { path := "buy.feature", feature := some "Feature: Buy\n".toList }
    let pay : FeatureFile := { path := "pay.feature", namespaceName := some "Desk".toList }
    let jobs : List Job := [⟨buy, { writeResult := true }, 5⟩, ⟨pay, { writeResult := true }, 6⟩]
    let later : List Job :=
      [⟨pay, { checkUpToDate := true }, 7⟩, ⟨buy, { checkUpToDate := true }, 8⟩]
    ∀ answer ∈ ((w.run jobs).2.run later).1, ∃ report, answer.result = .ok report ∧
      report.isSuccess = true ∧ report.wasUpToDate? = some true ∧ report.code? = none := by
  intro store w buy pay jobs later
  have hjobs : ∀ job ∈ jobs, job.file.generated = none ∧ job.settings.writeResult = true ∧
      (job.settings.checkUpToDate = true → job.settings.method = .modificationTime) := by
    decide
  have hanswers : ∀ answer ∈ (w.run jobs).1, answer.resolution = .unknown .notConfigured ∧
      answer.report?.bind Report.version? = some .current := by
    decide +kernel
  have hresolve : (w.run jobs).2.resolve.1 = .unknown .notConfigured := by decide +kernel
  have htimes : ∀ answer ∈ (w.run jobs).1, (answer.report?.bind Report.code?).isSome = true →
      (w.run jobs).2.IsInTime answer.job.file := by
    decide +kernel
  exact upToDate_of_run ⟨rfl, rfl, rfl⟩ hjobs (by decide +kernel) (by decide +kernel) hanswers
    hresolve htimes (by decide)

end Workspace

end FeatureFixtures
