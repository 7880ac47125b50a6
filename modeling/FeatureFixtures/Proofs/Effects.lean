import FeatureFixtures.Proofs.Generation
/-!
# What a generation leaves behind

Files change only where new code is written: a generation that fails, or finds its file up to date,
leaves every file as it was, although it may have made folders on the way to a file that could not
be written. A file that is found up to date does not even reach the generators. New code that is to
be written stands in the generated file afterwards, and all other files are untouched.
-/

namespace FeatureFixtures

namespace FileStore

variable {s t : FileStore} {location : Location} {path text : Text}

/-- What stands at a location, if it is no folder. -/
def file? (store : FileStore) (location : Location) : Option Entry :=
  (store.entry? location).filter (· ≠ .folder)

theorem file?_set {place : Location} (hplace : place ≠ []) (s : FileStore) (entry : Entry) :
    (s.set place entry).file? location =
      if location = place then (some entry).filter (· ≠ .folder) else s.file? location := by
  unfold file?
  rw [entry?_set hplace]
  split <;> rfl

/-- A new folder is no file. -/
theorem file?_set_folder {place : Location} (hplace : place ≠ []) (hnone : s.entry? place = none) :
    (s.set place .folder).file? = s.file? := by
  funext location
  rw [file?_set hplace]
  split
  · next heq =>
    unfold file?
    rw [heq, hnone]
    rfl
  · rfl

theorem file?_makeAlong (s : FileStore) (folder : Location) (made : Bool) (names : List Text) :
    (s.makeAlong folder made names).2.file? = s.file? := by
  induction names generalizing s folder made with
  | nil => rfl
  | cons name rest ih =>
    unfold makeAlong
    split
    · exact ih s folder.dropLast made
    · dsimp only
      split
      · rfl
      · exact ih s (folder ++ [name]) made
      · rfl
      -- Only where nothing is yet, a folder is made.
      · next hnone => exact (ih _ _ true).trans (file?_set_folder (by simp) hnone)

theorem file?_makeFoldersFor (s : FileStore) (path : Text) :
    (s.makeFoldersFor path).2.file? = s.file? := by
  unfold makeFoldersFor makeFolders
  dsimp only
  split
  · rfl
  · split
    · rfl
    · exact file?_makeAlong s _ false _

/-- Writing a file puts it where its path leads to. -/
theorem exists_eq_set_of_write {content : Bytes} (h : s.write path content = .ok t) :
    s.locationOf path ≠ [] ∧
      ∃ file, file.content = content ∧ t = s.set (s.locationOf path) (.file file) := by
  unfold write at h
  obtain ⟨location, hlocation, h⟩ := bind_eq_ok_iff.1 h
  cases h
  obtain ⟨-, hwalk, hne, -⟩ := writableLocation_eq_ok hlocation
  obtain rfl : location = s.locationOf path := eq_foldl_of_walk hwalk
  exact ⟨hne, _, rfl, rfl⟩

/-- A text that could not be written has changed no file. -/
theorem file?_of_writeText_error {fault : FileFault}
    (h : s.writeText path text = (.error fault, t)) : t.file? = s.file? := by
  have hfolders := file?_makeFoldersFor s path
  unfold writeText at h
  split at h
  · next failed made hmade =>
    rw [hmade] at hfolders
    cases h
    exact hfolders
  · next made hmade =>
    rw [hmade] at hfolders
    split at h
    · cases h
    · cases h
      exact hfolders

/-- A text that was written stands where its path leads to, and has changed no other file. -/
theorem file?_of_writeText (h : s.writeText path text = (.ok (), t)) :
    (∃ file, file.content = Text.toBytes text ∧
      t.file? (s.locationOf path) = some (.file file)) ∧
      ∀ location, location ≠ s.locationOf path → t.file? location = s.file? location := by
  have hfolders := file?_makeFoldersFor s path
  have hkeeps := keeps_makeFoldersFor s path
  unfold writeText at h
  split at h
  · cases h
  next made hmade =>
  rw [hmade] at hfolders hkeeps
  split at h
  · next written hwrite =>
    cases h
    obtain ⟨hne, file, hcontent, rfl⟩ := exists_eq_set_of_write hwrite
    rw [hkeeps.locationOf_eq] at hne ⊢
    refine ⟨⟨file, hcontent, ?_⟩, ?_⟩
    · rw [file?_set hne, if_pos rfl]
      rfl
    · intro location hlocation
      rw [file?_set hne, if_neg hlocation]
      exact congrFun hfolders location
  · cases h

end FileStore

/-- Whether an event only asks for the state of a generated file. -/
def Event.isCheck : Event → Bool
  | compareTimes .. | compareContent .. => true
  | _ => false

namespace Report

/-- There is code exactly if something new was generated. -/
theorem isSome_code?_iff (report : Report) : report.code?.isSome = true ↔
    report.isSuccess = true ∧ report.wasUpToDate? = some false := by
  cases report <;> simp [code?, isSuccess, wasUpToDate?]

theorem errors_ne_nil_iff (report : Report) : report.errors ≠ [] ↔ report.isSuccess = false := by
  cases report <;> simp [errors, isSuccess]

end Report

namespace Workspace

variable {κ σ : Type} {w after : Workspace κ σ} {file : FeatureFile} {settings : GenerationSettings}
  {request : Request} {resolution : Resolution} {version : Version} {error : Error}

/-! ### Checking -/

/-- A check notes what it asks for, and does nothing else. -/
theorem isUpToDate_snd (w : Workspace κ σ) (file : FeatureFile) (method : CheckMethod)
    (expected : Fingerprint) :
    ∃ checks, (w.isUpToDate file method expected).2 =
        w.noting w.resolver (w.host.events ++ checks) ∧
      ∀ event ∈ checks, event.isCheck = true := by
  have hcompare (generated : Text) : ∀ event ∈
      [Event.compareTimes (file.pathIn w.project.folder) (w.generatedPath file) method,
        .compareContent generated expected method], event.isCheck = true := by
    simp [Event.isCheck]
  unfold isUpToDate
  dsimp only [record, Host.record, loadGenerated]
  split
  · exact ⟨_, rfl, fun event hevent => hcompare [] event (by simp_all)⟩
  · split
    · exact ⟨_, rfl, fun event hevent => hcompare [] event (by simp_all)⟩
    · next generated hload =>
      exact ⟨_, congrArg (w.noting w.resolver) (List.append_assoc _ _ _), hcompare generated⟩

/-- A file that is found up to date has not reached the generators. -/
theorem snd_of_generate_upToDate
    (h : w.generate file settings = (.ok (.upToDate version), after)) :
    ∃ checks, after = w.noting w.resolve.2.resolver (w.host.events ++ checks) ∧
      ∀ event ∈ checks, event.isCheck = true := by
  unfold generate at h
  split at h
  · cases h
  next request hrequest =>
  dsimp only at h
  obtain ⟨checks, hchecked, hchecks⟩ := w.resolve.2.isUpToDate_snd file settings.method
    (w.resolve.2.expected file request w.resolve.1)
  have hproduce (checked : Workspace κ σ) :
      (checked.produce file settings request w.resolve.1).map
          (Except.ok : Report → Except (Option Text) Report) id ≠
        (.ok (.upToDate version), after) := by
    intro heq
    exact produce_fst_ne_upToDate (Except.ok.inj (congrArg Prod.fst heq))
  split at h
  · split at h
    · cases h
    · next checked hjudge =>
      cases h
      rw [hjudge] at hchecked
      exact ⟨checks, hchecked, hchecks⟩
    · exact absurd h (hproduce _)
  · exact absurd h (hproduce _)

/-! ### Files -/

theorem file?_of_save_failed {text : Text}
    (h : w.save file settings text version = (.failed error, after)) :
    after.store.file? = w.store.file? := by
  unfold save at h
  split at h
  · split at h
    · cases h
    · next fault store hwrite =>
      cases h
      exact FileStore.file?_of_writeText_error hwrite
  · cases h

theorem file?_of_produce_failed
    (h : w.produce file settings request resolution = (.failed error, after)) :
    after.store.file? = w.store.file? := by
  obtain ⟨host, hproduce⟩ := w.produce_eq file settings request resolution
  rw [hproduce] at h
  split at h
  · next failure houtcome =>
    obtain ⟨reason, ran, hfailed⟩ :=
      { w with host }.failed_eq (w.host.chosen w.store resolution) failure
    cases hfailed.symm.trans h
    rfl
  · have hsaved := file?_of_save_failed h
    exact hsaved

theorem store_of_produce (hwrite : settings.writeResult = false) :
    (w.produce file settings request resolution).2.store = w.store := by
  obtain ⟨host, hproduce⟩ := w.produce_eq file settings request resolution
  rw [hproduce]
  split
  · next failure houtcome =>
    obtain ⟨reason, ran, hfailed⟩ :=
      { w with host }.failed_eq (w.host.chosen w.store resolution) failure
    exact congrArg (Workspace.store ∘ Prod.snd) hfailed
  · unfold save
    rw [hwrite]
    rfl

theorem store_of_generate (hwrite : settings.writeResult = false) :
    (w.generate file settings).2.store = w.store := by
  rcases w.generate_snd_cases file settings with heq | ⟨events, heq | ⟨request, -, heq⟩⟩
  · rw [heq]
  · rw [heq]
    rfl
  · rw [heq, store_of_produce hwrite]
    rfl

theorem file?_of_generate_failed (h : w.generate file settings = (.ok (.failed error), after)) :
    after.store.file? = w.store.file? := by
  cases hrequest : w.request file with
  | error fault =>
    rw [generate_of_fault hrequest] at h
    cases h
    rfl
  | ok request =>
    obtain ⟨events, heq⟩ := generate_of_request hrequest settings
    rw [heq] at h
    rcases hproduce : (w.noting w.resolve.2.resolver events).produce file settings request
      w.resolve.1 with ⟨report, produced⟩
    have hfiles (hreport : report = .failed error) : produced.store.file? = w.store.file? := by
      rw [hreport] at hproduce
      have hproduced := file?_of_produce_failed hproduce
      exact hproduced
    rw [hproduce] at h
    split at h
    · cases h
    · cases h
    · cases h
      exact hfiles rfl
    · cases h
      exact hfiles rfl

/-- New code that is to be written stands in the generated file, and only there. -/
theorem file?_of_generate_generated {code : Text} (hwrite : settings.writeResult = true)
    (h : w.generate file settings = (.ok (.generated code version), after)) :
    after.store.read (w.generatedPath file) = .ok code ∧
      (∃ written, written.content = Text.toBytes code ∧
        after.store.file? (w.locationOfGenerated file) = some (.file written)) ∧
      ∀ location, location ≠ w.locationOfGenerated file →
        after.store.file? location = w.store.file? location := by
  obtain ⟨request, events, -, hproduce⟩ := generate_eq_generated h
  obtain ⟨-, -, hstore⟩ := produce_eq_generated hproduce
  rw [if_pos hwrite] at hstore
  exact ⟨FileStore.read_of_writeText hstore, FileStore.file?_of_writeText hstore⟩

theorem store_of_generate_crash {message : Option Text}
    (h : w.generate file settings = (.error message, after)) : after.store = w.store := by
  cases hrequest : w.request file with
  | error fault =>
    rw [generate_of_fault hrequest] at h
    cases h
  | ok request =>
    obtain ⟨events, heq⟩ := generate_of_request hrequest settings
    rw [heq] at h
    split at h <;> cases h
    rfl

/-- **The effects of a generation match its report.** Whatever the resolver, the launcher, the
generators, the checker and the header do: there is code exactly in a report of new code, and an
error exactly in a failed one. After a failure, and for a file found up to date, every file is as it
was before; in the latter case the host has noted what the check asked for and is the same
otherwise, so that no generator was run, created or released. New code that is to be written stands
in the generated file, and all other files are as they were. If nothing is to be written, nothing is
changed, and neither is it by a crash. -/
theorem generate_effects (w : Workspace κ σ) (file : FeatureFile) (settings : GenerationSettings) :
    let after := (w.generate file settings).2
    (∀ report, (w.generate file settings).1 = .ok report →
      (report.code?.isSome = true ↔
        report.isSuccess = true ∧ report.wasUpToDate? = some false) ∧
      (report.errors ≠ [] ↔ report.isSuccess = false) ∧
      (report.isSuccess = false ∨ report.wasUpToDate? = some true →
        after.store.file? = w.store.file?) ∧
      (report.wasUpToDate? = some true →
        ∃ checks, after.host = { w.host with events := w.host.events ++ checks } ∧
          ∀ event ∈ checks, event.isCheck = true) ∧
      ∀ code, report.code? = some code → settings.writeResult = true →
        after.store.read (w.generatedPath file) = .ok code ∧
        (∃ written, written.content = Text.toBytes code ∧
          after.store.file? (w.locationOfGenerated file) = some (.file written)) ∧
        ∀ location, location ≠ w.locationOfGenerated file →
          after.store.file? location = w.store.file? location) ∧
    (settings.writeResult = false → after.store = w.store) ∧
    ∀ message, (w.generate file settings).1 = .error message → after.store = w.store := by
  intro after
  refine ⟨?report, store_of_generate, ?crash⟩
  case crash =>
    intro message hmessage
    exact store_of_generate_crash (Prod.ext hmessage rfl)
  intro report hreport
  refine ⟨report.isSome_code?_iff, report.errors_ne_nil_iff, ?_⟩
  have hgenerate : w.generate file settings = (.ok report, after) := Prod.ext hreport rfl
  cases report with
  | upToDate version =>
    obtain ⟨checks, hafter, hchecks⟩ := snd_of_generate_upToDate hgenerate
    rw [hafter]
    exact ⟨fun _ => rfl, fun _ => ⟨checks, rfl, hchecks⟩, nofun⟩
  | generated code version =>
    refine ⟨fun h => h.elim nofun nofun, nofun, ?_⟩
    rintro _ ⟨⟩ hwrite
    exact file?_of_generate_generated hwrite hgenerate
  | failed error => exact ⟨fun _ => file?_of_generate_failed hgenerate, nofun, nofun⟩

end Workspace

end FeatureFixtures
