import FeatureFixtures.CommandLine.Run
import FeatureFixtures.Proofs.Effects
import Mathlib.Data.List.Forall2
/-!
# Checking foretells generating

Checking and generating ask the same of every feature file, but only generating writes. So the two
part from each other at the first file that is not up to date, and not before it: as long as files
are found up to date, nothing is written and no generator is run. Checking succeeds exactly if there
is no such file, and then generating would find every file up to date as well.
-/

namespace FeatureFixtures

/-- A file that is found up to date is found so under all settings with the same method. -/
theorem Workspace.generate_eq_of_upToDate {κ σ : Type} {w after : Workspace κ σ}
    {file : FeatureFile} {settings other : GenerationSettings} {version : Version}
    (h : w.generate file settings = (.ok (.upToDate version), after))
    (hcheck : other.checkUpToDate = true) (hmethod : other.method = settings.method) :
    w.generate file other = (.ok (.upToDate version), after) := by
  -- A generator that runs makes code or fails, so the file was found up to date before that.
  have hproduce (checked : Workspace κ σ) (request : Request) (resolution : Resolution) :
      (checked.produce file settings request resolution).map
          (Except.ok : Report → Except (Option Text) Report) id ≠
        (.ok (.upToDate version), after) := by
    intro heq
    exact produce_fst_ne_upToDate (Except.ok.inj (congrArg Prod.fst heq))
  unfold generate at h ⊢
  split at h
  · cases h
  next request hrequest =>
  dsimp only at h ⊢
  rw [hcheck, if_pos rfl, hmethod]
  split at h
  · split at h
    · cases h
    · next checked hjudge => exact h
    · exact absurd h (hproduce _ _ _)
  · exact absurd h (hproduce _ _ _)

namespace CommandLine

variable {κ σ : Type}

/-- The settings with which feature files are checked. -/
def Session.checkSettings (s : Session κ σ) (method : Option CheckMethod) : GenerationSettings :=
  { checkUpToDate := true
    method := method.getD s.config.generation.method
    writeResult := false }

/-- The settings with which code is generated. -/
def Session.generateSettings (s : Session κ σ) (method : Option CheckMethod)
    (force stdout : Bool) : GenerationSettings :=
  { checkUpToDate := s.config.generation.checkUpToDate && !force
    method := method.getD s.config.generation.method
    writeResult := !stdout }

/-- What is printed after code has been generated for all feature files. -/
def reportsOutput (stdout json : Bool) (reports : List Reported) : Output :=
  let body :=
    if json then line (Json.list (reports.map reportedJson)).toText
    else (outputs (reports.map (generateOutput stdout))).append (summary reports)
  { body with code := exitCode (failedCount reports ≠ 0) }

/-- The reports name the feature files one by one, and tell of each that it is up to date. -/
def Session.AreUpToDate (s : Session κ σ) (features : List Text)
    (reports : List Reported) : Prop :=
  List.Forall₂ (fun feature reported => ∃ file version, s.featureFile feature = .ok file ∧
    reported = { name := file.recordedPath, report := .upToDate version }) features reports

variable {s after : Session κ σ} {settings : GenerationSettings} {feature : Text}
  {features : List Text} {reported : Reported} {reports : List Reported}

theorem Session.generate_eq (s : Session κ σ) (features : List Text) (method : Option CheckMethod)
    (force stdout json : Bool) :
    s.generate features method force stdout json =
      match s.generateAll (s.generateSettings method force stdout) features with
      | (_, .error abort, after) => (abort.output, after.project.store)
      | (reports, .ok (), after) => (reportsOutput stdout json reports, after.project.store) :=
  rfl

/-! ### One feature file after the other -/

theorem Session.generateOne_eq_ok (h : s.generateOne settings feature = (.ok reported, after)) :
    ∃ file project, s.featureFile feature = .ok file ∧ reported.name = file.recordedPath ∧
      s.project.generate file settings = (.ok reported.report, project) ∧
      after = { s with project } := by
  unfold generateOne at h
  split at h
  · cases h
  · next file hfile =>
    split at h
    · cases h
    · next report project hgenerate =>
      cases h
      exact ⟨file, project, hfile, rfl, hgenerate, rfl⟩

theorem Session.generateAll_cons_eq_ok
    (h : s.generateAll settings (feature :: features) = (reports, .ok (), after)) :
    ∃ reported next others, s.generateOne settings feature = (.ok reported, next) ∧
      next.generateAll settings features = (others, .ok (), after) ∧
      reports = reported :: others := by
  unfold generateAll at h
  split at h
  · cases h
  · next reported next hone =>
    rcases hall : next.generateAll settings features with ⟨others, ending, last⟩
    rw [hall] at h
    cases h
    exact ⟨reported, next, others, hone, hall, rfl⟩

theorem Session.store_of_generateOne (hwrite : settings.writeResult = false) (s : Session κ σ)
    (feature : Text) :
    (s.generateOne settings feature).2.project.store = s.project.store := by
  unfold generateOne
  split
  · rfl
  · next file hfile =>
    have hstore : (s.project.generate file settings).2.store = s.project.store :=
      Workspace.store_of_generate hwrite
    split
    · next message project hgenerate =>
      rw [hgenerate] at hstore
      exact hstore
    · next report project hgenerate =>
      rw [hgenerate] at hstore
      exact hstore

theorem Session.store_of_generateAll (hwrite : settings.writeResult = false) (s : Session κ σ)
    (features : List Text) :
    (s.generateAll settings features).2.2.project.store = s.project.store := by
  induction features generalizing s with
  | nil => rfl
  | cons feature rest ih =>
    have hone := s.store_of_generateOne hwrite feature
    unfold generateAll
    split
    · next abort next heq =>
      rw [heq] at hone
      exact hone
    · next reported next heq =>
      rw [heq] at hone
      exact (ih next).trans hone

/-- A feature file that is up to date is reported so in the same way under all settings with the
same method, and where the files are found does not change. -/
theorem Session.generateOne_of_upToDate
    (h : s.generateOne settings feature = (.ok reported, after))
    (hreport : reported.report.wasUpToDate? = some true) :
    (∃ file version, s.featureFile feature = .ok file ∧
      reported = { name := file.recordedPath, report := .upToDate version }) ∧
    after.project.store = s.project.store ∧ after.featureFile = s.featureFile ∧
    (∀ other : GenerationSettings, other.checkUpToDate = true → other.method = settings.method →
      s.generateOne other feature = (.ok reported, after)) := by
  obtain ⟨file, project, hfile, hname, hgenerate, rfl⟩ := generateOne_eq_ok h
  obtain ⟨name, report⟩ := reported
  dsimp only at hname hgenerate hreport
  subst hname
  cases report with
  | generated code version => cases hreport
  | failed error => cases hreport
  | upToDate version =>
    obtain ⟨checks, rfl, -⟩ := Workspace.snd_of_generate_upToDate hgenerate
    refine ⟨⟨file, version, hfile, rfl⟩, rfl, rfl, fun other hcheck hmethod => ?_⟩
    have hother := Workspace.generate_eq_of_upToDate hgenerate hcheck hmethod
    simp only [generateOne, hfile, hother]

theorem Session.generateAll_of_upToDate
    (h : s.generateAll settings features = (reports, .ok (), after))
    (hreports : ∀ reported ∈ reports, reported.report.wasUpToDate? = some true) :
    s.AreUpToDate features reports ∧ after.project.store = s.project.store ∧
    (∀ other : GenerationSettings, other.checkUpToDate = true → other.method = settings.method →
      s.generateAll other features = (reports, .ok (), after)) := by
  induction features generalizing s reports with
  | nil =>
    cases h
    exact ⟨.nil, rfl, fun _ _ _ => rfl⟩
  | cons feature rest ih =>
    obtain ⟨reported, next, others, hone, hall, rfl⟩ := generateAll_cons_eq_ok h
    rw [List.forall_mem_cons] at hreports
    obtain ⟨hfound, hstore, hfiles, hsame⟩ := generateOne_of_upToDate hone hreports.1
    obtain ⟨hothers, hlast, hrest⟩ := ih hall hreports.2
    rw [AreUpToDate, hfiles] at hothers
    refine ⟨.cons hfound hothers, hlast.trans hstore, fun other hcheck hmethod => ?_⟩
    simp only [generateAll, hsame other hcheck hmethod, hrest other hcheck hmethod]

theorem Session.AreUpToDate.wasUpToDate (h : s.AreUpToDate features reports) :
    ∀ reported ∈ reports, reported.report.wasUpToDate? = some true := by
  induction h with
  | nil => simp
  | cons hfound _ ih =>
    obtain ⟨file, version, -, rfl⟩ := hfound
    exact List.forall_mem_cons.2 ⟨rfl, ih⟩

/-! ### Exit codes -/

theorem Abort.code_output_ne_zero (abort : Abort) : abort.output.code ≠ 0 := by
  cases abort <;> simp [output]

theorem code_outputs {all : List Output} (h : ∀ output ∈ all, output.code = 0) :
    (outputs all).code = 0 := by
  unfold outputs
  suffices hfold : ∀ first : Output, first.code = 0 → (all.foldl Output.append first).code = 0 from
    hfold {} rfl
  induction all with
  | nil => exact fun first hfirst => hfirst
  | cons output rest ih =>
    rw [List.forall_mem_cons] at h
    exact fun first _ => ih h.2 (first.append output) h.1

theorem code_checkOutput (reported : Reported) : (checkOutput reported).code = 0 := by
  unfold checkOutput
  split <;> rfl

theorem Session.store_check (s : Session κ σ) (features : List Text) (method : Option CheckMethod) :
    (s.check features method).2 =
      (s.generateAll (s.checkSettings method) features).2.2.project.store := by
  rcases hall : s.generateAll (s.checkSettings method) features with ⟨reports, abort | ⟨⟩, after⟩
  · unfold checkSettings at hall
    simp only [check, hall]
  · unfold checkSettings at hall
    simp only [check, hall]
    split <;> rfl

theorem Session.code_check_eq_zero_iff (s : Session κ σ) (features : List Text)
    (method : Option CheckMethod) :
    (s.check features method).1.code = 0 ↔
      ∃ reports after, s.generateAll (s.checkSettings method) features = (reports, .ok (), after) ∧
        ∀ reported ∈ reports, reported.report.wasUpToDate? = some true := by
  rcases hall : s.generateAll (s.checkSettings method) features with ⟨reports, abort | ⟨⟩, after⟩
  · unfold checkSettings at hall
    simp [check, hall, Output.append, abort.code_output_ne_zero]
  · have hcode : (outputs (reports.map checkOutput)).code = 0 :=
      code_outputs (List.forall_mem_map.2 fun reported _ => code_checkOutput reported)
    unfold checkSettings at hall
    simp only [check, hall]
    split
    · next hnone =>
      rw [List.length_eq_zero_iff, List.filter_eq_nil_iff] at hnone
      have hall : ∀ reported ∈ reports, reported.report.wasUpToDate? = some true := by
        simpa using hnone
      exact iff_of_true hcode ⟨reports, after, rfl, hall⟩
    · next hsome =>
      refine iff_of_false (by simp) ?_
      rintro ⟨_, _, heq, hall⟩
      cases heq
      rw [List.length_eq_zero_iff, List.filter_eq_nil_iff] at hsome
      exact hsome (by simpa using hall)

theorem store_of_openProject {launching : Launching κ σ} {store : FileStore} {folder : Text}
    (h : openProject launching store folder = .ok s) : s.project.store = store := by
  unfold openProject at h
  split at h
  · cases h
  · split at h
    · cases h
    · cases h
      rfl

/-- **Checking foretells generating.** In a project whose settings ask for the check, whatever the
method, the feature files and the launcher: checking the files succeeds exactly if generating them
in the same folder without force, with the same method and whatever becomes of the code, ends with
reports that find every one of them up to date. These are the reports that are printed then, and
nothing is written. Checking writes nothing in any case. -/
theorem code_check_eq_zero_iff_generate {launching : Launching κ σ} {store : FileStore}
    {checkArguments generateArguments : List Text} {folder : Text} {features : List Text}
    {method : Option CheckMethod} {stdout json : Bool} {s : Session κ σ}
    (hcheck : readInvocation checkArguments = .ok ⟨folder, .check features method⟩)
    (hgenerate : readInvocation generateArguments =
      .ok ⟨folder, .generate features method false stdout json⟩)
    (hopen : openProject launching store folder = .ok s)
    (hconfig : s.config.generation.checkUpToDate = true) :
    ((runBy launching store checkArguments).1.code = 0 ↔
      ∃ reports after, s.AreUpToDate features reports ∧
        s.generateAll (s.generateSettings method false stdout) features =
          (reports, .ok (), after) ∧
        runBy launching store generateArguments = (reportsOutput stdout json reports, store)) ∧
    (runBy launching store checkArguments).2 = store := by
  have hchecked : runBy launching store checkArguments = s.check features method := by
    simp only [runBy, hcheck, hopen, Session.run]
  have hgenerated : runBy launching store generateArguments =
      s.generate features method false stdout json := by
    simp only [runBy, hgenerate, hopen, Session.run]
  have hstore := store_of_openProject hopen
  have hsettings : (s.generateSettings method false stdout).checkUpToDate = true := by
    simp [Session.generateSettings, hconfig]
  rw [hchecked, hgenerated]
  refine ⟨?_, ?_⟩
  · rw [s.code_check_eq_zero_iff]
    constructor
    · rintro ⟨reports, after, hall, hreports⟩
      obtain ⟨hupToDate, hafter, hsame⟩ := Session.generateAll_of_upToDate hall hreports
      have hother := hsame (s.generateSettings method false stdout) hsettings rfl
      refine ⟨reports, after, hupToDate, hother, ?_⟩
      simp only [Session.generate_eq, hother, hafter, hstore]
    · rintro ⟨reports, after, hupToDate, hall, -⟩
      have hreports := hupToDate.wasUpToDate
      obtain ⟨-, -, hsame⟩ := Session.generateAll_of_upToDate hall hreports
      exact ⟨reports, after, hsame (s.checkSettings method) rfl rfl, hreports⟩
  · have hkept : (s.generateAll (s.checkSettings method) features).2.2.project.store =
        s.project.store := s.store_of_generateAll rfl features
    rw [Session.store_check, hkept, hstore]

/-- A feature file that is named twice and was never generated. -/
theorem code_check_ne_zero_shop :
    let config : Text := "[generation]\ncheck_up_to_date = true\n"
    let store := ((({} : FileStore).set ["shop"] .folder).set ["shop", "spekgen.toml"]
      (.file { content := Text.toBytes config, modified := 1 })).set
      ["shop", "buy.feature"] (.file { content := Text.toBytes "Feature: Buy\n", modified := 2 })
    let features : List Text := ["buy.feature", "/shop/buy.feature"]
    let checkArguments : List Text := "check" :: "-p" :: "/shop" :: features
    let generateArguments : List Text := "-p" :: "/shop" :: "generate" :: "--json" :: features
    let launching : Launching _ _ := .workers {}
    ∃ s, openProject launching store "/shop" = .ok s ∧
      (runBy launching store checkArguments).1.code = 1 ∧
      (runBy launching store checkArguments).2 = store ∧
      ¬∃ reports after, s.AreUpToDate features reports ∧
        s.generateAll (s.generateSettings none false false) features = (reports, .ok (), after) ∧
        runBy launching store generateArguments = (reportsOutput false true reports, store) := by
  intro config store features checkArguments generateArguments launching
  have hconfig : (openProject launching store "/shop").toOption.map
      (·.config.generation.checkUpToDate) = some true := by decide +kernel
  have hcode : (runBy launching store checkArguments).1.code = 1 := by decide +kernel
  cases hopen : openProject launching store "/shop" with
  | error abort =>
    rw [hopen] at hconfig
    cases hconfig
  | ok s =>
    rw [hopen] at hconfig
    have hcheck : readInvocation checkArguments = .ok ⟨"/shop", .check features none⟩ := rfl
    have hgenerate : readInvocation generateArguments =
        .ok ⟨"/shop", .generate features none false false true⟩ := rfl
    obtain ⟨hiff, hstore⟩ :=
      code_check_eq_zero_iff_generate hcheck hgenerate hopen (Option.some.inj hconfig)
    refine ⟨s, rfl, hcode, hstore, fun hfound => ?_⟩
    rw [hiff.2 hfound] at hcode
    cases hcode

end CommandLine

end FeatureFixtures
