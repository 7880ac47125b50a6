import FeatureFixtures.Proofs.Foretelling
import FeatureFixtures.Proofs.Runs
/-!
# Which written files are reported

Feature files are generated one after the other, and what is written for each is written at once.
The reports are printed only after the last one. So every file that a run has written is named in
its output unless some name ends the run: then nothing is printed but the error, although the files
that were written until then stay.
-/

namespace FeatureFixtures

namespace CommandLine

variable {κ σ : Type}

/-- Whether there is new code for a feature file. Where code is written, it was written then. -/
def Reported.isNew (reported : Reported) : Bool :=
  reported.report.code?.isSome

/-- Whether an output names a feature file with new code: on a line of its own, or in the list of
all reports as JSON. -/
def Output.Names (json : Bool) (output : Output) (reported : Reported) : Prop :=
  if json then (reportedJson reported).toTextAt 1 <:+: output.stdout
  else (line (Style.green.apply "Generated" ++ ' ' :: reported.name)).stdout <:+: output.stdout

/-- Where the file with the code for a feature file of a project stands. -/
def Session.generatedLocation (s : Session κ σ) (path : Text) : Location :=
  s.project.locationOfGenerated { path }

/-- A later state of a session, in which nothing but the code for the feature files with new code
was written. -/
structure Session.Wrote (s : Session κ σ) (reports : List Reported) (after : Session κ σ) :
    Prop where
  located : after.generatedLocation = s.generatedLocation
  kept : ∀ location file, s.project.store.file? location = some (.file file) →
    ∃ later, after.project.store.file? location = some (.file later)
  changed : ∀ location, after.project.store.file? location ≠ s.project.store.file? location →
    ∃ reported ∈ reports, reported.isNew = true ∧
      ∃ path, Path.recorded path = reported.name ∧ s.generatedLocation path = location
  written : ∀ reported ∈ reports, reported.isNew = true →
    ∃ path, Path.recorded path = reported.name ∧
      ∃ file, after.project.store.file? (s.generatedLocation path) = some (.file file)

variable {s after last : Session κ σ} {settings : GenerationSettings} {feature : Text}
  {features : List Text} {reports others : List Reported}

/-! ### Files -/

theorem Session.Wrote.of_file?_eq (hlocated : after.generatedLocation = s.generatedLocation)
    (hfiles : after.project.store.file? = s.project.store.file?)
    (hreports : ∀ reported ∈ reports, reported.isNew = false) : s.Wrote reports after where
  located := hlocated
  kept := fun location file hfile => ⟨file, by rw [hfiles, hfile]⟩
  changed := fun location hchanged => absurd (congrFun hfiles location) hchanged
  written := fun reported hreported hnew => by
    rw [hreports reported hreported] at hnew
    cases hnew

theorem Session.Wrote.trans (h : s.Wrote reports after) (hlast : after.Wrote others last) :
    s.Wrote (reports ++ others) last where
  located := hlast.located.trans h.located
  kept := by
    intro location file hfile
    obtain ⟨later, hlater⟩ := h.kept location file hfile
    exact hlast.kept location later hlater
  changed := by
    intro location hchanged
    by_cases hsame : last.project.store.file? location = after.project.store.file? location
    · rw [hsame] at hchanged
      obtain ⟨reported, hreported, hnew⟩ := h.changed location hchanged
      exact ⟨reported, List.mem_append_left others hreported, hnew⟩
    · obtain ⟨reported, hreported, hnew⟩ := hlast.changed location hsame
      rw [h.located] at hnew
      exact ⟨reported, List.mem_append_right reports hreported, hnew⟩
  written := by
    intro reported hreported hnew
    rcases List.mem_append.1 hreported with hbefore | hnext
    · obtain ⟨path, hname, file, hfile⟩ := h.written reported hbefore hnew
      exact ⟨path, hname, hlast.kept _ file hfile⟩
    · obtain ⟨path, hname, hfile⟩ := hlast.written reported hnext hnew
      rw [h.located] at hfile
      exact ⟨path, hname, hfile⟩

theorem Session.generatedLocation_of_generate (s : Session κ σ) (file : FeatureFile)
    (settings : GenerationSettings) :
    Session.generatedLocation { s with project := (s.project.generate file settings).2 } =
      s.generatedLocation := by
  have hcontinues := Workspace.continues_generate s.project file settings
  funext path
  exact congrFun hcontinues.locationOfGenerated_eq { path }

theorem Session.exists_path_of_featureFile {file : FeatureFile}
    (h : s.featureFile feature = .ok file) : ∃ path, file = { path } := by
  unfold featureFile at h
  dsimp only at h
  split at h
  · cases h
  · split at h
    · cases h
      exact ⟨_, rfl⟩
    · cases h

theorem Session.wrote_generateOne (hwrite : settings.writeResult = true) (s : Session κ σ)
    (feature : Text) :
    s.Wrote (s.generateOne settings feature).1.toOption.toList
      (s.generateOne settings feature).2 := by
  unfold generateOne
  split
  · exact .of_file?_eq rfl rfl nofun
  · next file hfile =>
    have hlocated := s.generatedLocation_of_generate file settings
    split
    · next message project hgenerate =>
      rw [hgenerate] at hlocated
      exact .of_file?_eq hlocated
        (congrArg FileStore.file? (Workspace.store_of_generate_crash hgenerate)) nofun
    · next report project hgenerate =>
      rw [hgenerate] at hlocated
      cases report with
      | upToDate version =>
        obtain ⟨checks, rfl, -⟩ := Workspace.snd_of_generate_upToDate hgenerate
        exact .of_file?_eq hlocated rfl (List.forall_mem_singleton.2 rfl)
      | failed error =>
        exact .of_file?_eq hlocated (Workspace.file?_of_generate_failed hgenerate)
          (List.forall_mem_singleton.2 rfl)
      | generated code version =>
        obtain ⟨path, rfl⟩ := exists_path_of_featureFile hfile
        obtain ⟨-, ⟨written, -, hthere⟩, hothers⟩ :=
          Workspace.file?_of_generate_generated hwrite hgenerate
        refine ⟨hlocated, ?_, ?_, ?_⟩
        · intro location old hold
          by_cases heq : location = s.generatedLocation path
          · exact ⟨written, heq ▸ hthere⟩
          · exact ⟨old, (hothers location heq).trans hold⟩
        · intro location hchanged
          refine ⟨_, List.mem_singleton.2 rfl, rfl, path, rfl, ?_⟩
          by_contra hne
          exact hchanged (hothers location (Ne.symm hne))
        · exact List.forall_mem_singleton.2 fun _ => ⟨path, rfl, written, hthere⟩

/-- However a run ends, it has written what it has reports of. -/
theorem Session.wrote_generateAll (hwrite : settings.writeResult = true) (s : Session κ σ)
    (features : List Text) :
    s.Wrote (s.generateAll settings features).1 (s.generateAll settings features).2.2 := by
  induction features generalizing s with
  | nil => exact .of_file?_eq rfl rfl nofun
  | cons feature rest ih =>
    have hone := s.wrote_generateOne hwrite feature
    unfold generateAll
    split
    · next abort next heq =>
      rw [heq] at hone
      exact hone
    · next reported next heq =>
      rw [heq] at hone
      exact hone.trans (ih next)

/-! ### Output -/

theorem stdout_outputs (all : List Output) : (outputs all).stdout = all.flatMap Output.stdout := by
  unfold outputs
  suffices hfold : ∀ first : Output,
      (all.foldl Output.append first).stdout = first.stdout ++ all.flatMap Output.stdout from
    hfold {}
  induction all with
  | nil => simp
  | cons output rest ih =>
    intro first
    rw [List.foldl_cons, ih, List.flatMap_cons, ← List.append_assoc]
    rfl

theorem Json.isInfix_elementsText (depth : Nat) {value : Json} {values : List Json}
    (h : value ∈ values) : value.toTextAt depth <:+: elementsText depth values := by
  induction values with
  | nil => cases h
  | cons first rest ih =>
    rw [elementsText]
    rcases List.mem_cons.1 h with rfl | hrest
    · exact ⟨',' :: newLine depth, elementsText depth rest, rfl⟩
    · exact (ih hrest).trans (List.suffix_append ..).isInfix

theorem Json.isInfix_list (depth : Nat) {value : Json} {values : List Json} (h : value ∈ values) :
    value.toTextAt (depth + 1) <:+: (Json.list values).toTextAt depth := by
  cases values with
  | nil => cases h
  | cons first rest =>
    have hopening : '[' :: newLine (depth + 1) ++ toTextAt (depth + 1) first ++
        elementsText (depth + 1) rest <:+: (Json.list (first :: rest)).toTextAt depth :=
      ((List.prefix_append ..).trans (List.prefix_append _ [']'])).isInfix
    rcases List.mem_cons.1 h with rfl | hrest
    · exact List.IsInfix.trans ⟨_, _, rfl⟩ hopening
    · have hvalue := isInfix_elementsText (depth + 1) hrest
      exact (hvalue.trans (List.suffix_append ..).isInfix).trans hopening

theorem Json.toTextAt_object_ne_nil (depth : Nat) (fields : List (Text × Json)) :
    (Json.object fields).toTextAt depth ≠ [] := by
  cases fields with
  | nil => exact List.cons_ne_nil _ _
  | cons field rest => exact List.cons_ne_nil _ _

variable {reported : Reported} {json : Bool} {output : Output}

/-- After the last feature file, all new code is reported. -/
theorem names_reportsOutput (hreported : reported ∈ reports) (hnew : reported.isNew = true) :
    (reportsOutput false json reports).Names json reported := by
  unfold Output.Names
  split
  · next hjson =>
    rw [hjson]
    change _ <:+: (Json.list (reports.map reportedJson)).toText ++ ['\n']
    exact (Json.isInfix_list 0 (List.mem_map_of_mem hreported)).trans
      (List.prefix_append ..).isInfix
  · next hjson =>
    rw [Bool.eq_false_iff.2 hjson]
    change _ <:+: (outputs (reports.map (generateOutput false))).stdout ++ (summary reports).stdout
    have hline : generateOutput false reported =
        line (Style.green.apply "Generated" ++ ' ' :: reported.name) := by
      unfold Reported.isNew at hnew
      unfold generateOutput
      cases hreport : reported.report with
      | generated code version => rfl
      | upToDate version =>
        rw [hreport] at hnew
        cases hnew
      | failed error =>
        rw [hreport] at hnew
        cases hnew
    rw [stdout_outputs, ← hline]
    refine List.IsInfix.trans ?_ (List.prefix_append ..).isInfix
    exact List.infix_of_mem_flatten
      (List.mem_map_of_mem (f := Output.stdout) (List.mem_map_of_mem hreported))

/-- An error that ends a run is all that is printed then. -/
theorem Abort.not_names_output (abort : Abort) (json : Bool) (reported : Reported) :
    ¬ abort.output.Names json reported := by
  have hnothing : abort.output.stdout = [] := by cases abort <;> rfl
  unfold Output.Names
  rw [hnothing]
  split
  · rw [List.infix_nil]
    exact Json.toTextAt_object_ne_nil 1 _
  · rw [List.infix_nil]
    exact List.append_ne_nil_of_right_ne_nil _ (List.cons_ne_nil _ _)

/-- **Written files are reported unless a name ends the run.** However generators are launched,
generating without the standard output changes files only where the code for the reported feature
files with new code belongs, and there a file stands at the end for each of them. All of them are
named in the output exactly if no name ends the run, or there are none; the output is the error
otherwise. -/
theorem generate_names_written {launching : Launching κ σ} {store : FileStore}
    {arguments features : List Text} {folder : Text} {method : Option CheckMethod}
    {force json : Bool} {s : Session κ σ}
    (hread : readInvocation arguments = .ok ⟨folder, .generate features method force false json⟩)
    (hopen : openProject launching store folder = .ok s) :
    ∃ (reports : List Reported) (ending : Except Abort Unit) (last : Session κ σ),
      s.generateAll (s.generateSettings method force false) features = (reports, ending, last) ∧
      (runBy launching store arguments).2 = last.project.store ∧
      (∀ location, last.project.store.file? location ≠ store.file? location →
        ∃ reported ∈ reports, reported.isNew = true ∧
          ∃ path, Path.recorded path = reported.name ∧ s.generatedLocation path = location) ∧
      (∀ reported ∈ reports, reported.isNew = true →
        ∃ path, Path.recorded path = reported.name ∧
          ∃ file, last.project.store.file? (s.generatedLocation path) = some (.file file)) ∧
      ((∀ reported ∈ reports, reported.isNew = true →
          (runBy launching store arguments).1.Names json reported) ↔
        ending = .ok () ∨ ∀ reported ∈ reports, reported.isNew = false) ∧
      ∀ abort, ending = .error abort → (runBy launching store arguments).1 = abort.output := by
  have hrun : runBy launching store arguments = s.generate features method force false json := by
    simp only [runBy, hread, hopen, Session.run]
  have hwrite : (s.generateSettings method force false).writeResult = true := rfl
  have hwrote := s.wrote_generateAll hwrite features
  rcases hall : s.generateAll (s.generateSettings method force false) features with
    ⟨reports, ending, last⟩
  rw [hall] at hwrote
  rw [hrun, s.generate_eq, hall, ← store_of_openProject hopen]
  cases ending with
  | ok done =>
    refine ⟨reports, .ok (), last, rfl, rfl, hwrote.changed, hwrote.written, ?_, ?_⟩
    · exact iff_of_true (fun reported => names_reportsOutput) (.inl rfl)
    · rintro abort ⟨⟩
  | error abort =>
    refine ⟨reports, .error abort, last, rfl, rfl, hwrote.changed, hwrote.written, ?_, ?_⟩
    · constructor
      · intro hnames
        right
        intro reported hreported
        rw [Bool.eq_false_iff]
        exact fun hnew => abort.not_names_output json reported (hnames reported hreported hnew)
      · rintro (hok | hnone) reported hreported hnew
        · cases hok
        · rw [hnone reported hreported] at hnew
          cases hnew
    · rintro _ ⟨⟩
      rfl

/-- A feature file that is named twice. -/
theorem generate_names_written_shop :
    let store := (({} : FileStore).set ["shop"] .folder).set ["shop", "buy.feature"]
      (.file { content := Text.toBytes "Feature: Buy\n", modified := 2 })
    let features : List Text := ["buy.feature", "/shop/buy.feature"]
    let arguments : List Text := "-p" :: "/shop" :: "generate" :: "--json" :: features
    let launching : Launching _ _ := .workers {}
    ∃ s reports last, openProject launching store "/shop" = .ok s ∧
      s.generateAll (s.generateSettings none false false) features = (reports, .ok (), last) ∧
      (runBy launching store arguments).2 = last.project.store ∧
      ∀ reported ∈ reports, reported.isNew = true →
        (runBy launching store arguments).1.Names true reported := by
  intro store features arguments launching
  have hopened : (openProject launching store "/shop").toOption.isSome = true := by decide +kernel
  have hcode : (runBy launching store arguments).1.code = 0 := by decide +kernel
  obtain ⟨s, hopen⟩ := exists_eq_ok_of_isSome hopened
  have hread : readInvocation arguments =
      .ok ⟨"/shop", .generate features none false false true⟩ := rfl
  obtain ⟨reports, ending, last, hall, hstore, -, -, hnames, habort⟩ :=
    generate_names_written hread hopen
  cases ending with
  | ok done => exact ⟨s, reports, last, hopen, hall, hstore, hnames.2 (.inl rfl)⟩
  | error abort =>
    rw [habort abort rfl] at hcode
    exact absurd hcode abort.code_output_ne_zero

/-- A name that leads to no file, behind one whose code has been written already. -/
theorem generate_not_names_of_missing :
    let store := (({} : FileStore).set ["shop"] .folder).set ["shop", "buy.feature"]
      (.file { content := Text.toBytes "Feature: Buy\n", modified := 2 })
    let arguments : List Text := ["-p", "/shop", "generate", "buy.feature", "missing.feature"]
    store.file? ["shop", "buy.feature.cs"] = none ∧
    ((run store arguments).2.file? ["shop", "buy.feature.cs"]).isSome = true ∧
    (run store arguments).1 =
      { code := 1
        stderr := "Error: Feature file not found: missing.feature\n\nCaused by:\n" ++
          "    No such file or directory (os error 2)\n" } ∧
    ∀ reported, ¬ (run store arguments).1.Names false reported := by
  intro store arguments
  have hwritten : ((run store arguments).2.file? ["shop", "buy.feature.cs"]).isSome = true := by
    decide +kernel
  have houtput : (run store arguments).1 = (Abort.unusable "Feature file not found: missing.feature"
      "No such file or directory (os error 2)").output := by decide +kernel
  refine ⟨by decide +kernel, hwritten, ?_, fun reported => ?_⟩
  · rw [houtput]
    decide
  · rw [houtput]
    exact Abort.not_names_output _ false reported

end CommandLine

end FeatureFixtures
