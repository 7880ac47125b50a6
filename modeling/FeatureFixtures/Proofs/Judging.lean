import FeatureFixtures.Proofs.Settling
/-!
# When a generated file counts as up to date

The standard check comes to one condition: the text generated before is at hand or can be read, its
header has the expected fingerprint, and the times of the files, where they count, do not show that
the feature file was changed later. Times only ever speak against a file, and without them the check
is the same at all times.
-/

namespace FeatureFixtures

/-- An entry without the time of its last change. -/
def Entry.untimed : Entry → Entry
  | file content => file { content with modified := 0 }
  | entry => entry

/-- The text that is read from an entry. -/
def Entry.text : Entry → Except FileFault Text
  | folder => .error .isFolder
  | worker | scriptReader => .error .notText
  | file content =>
    match Text.ofBytes? content.content with
    | some text => .ok text
    | none => .error .notText

theorem Entry.text_untimed (entry : Entry) : entry.untimed.text = entry.text := by
  cases entry <;> rfl

namespace FileStore

variable {s t : FileStore}

/-- Two stores that differ at most in times. -/
structure SameButTimes (s t : FileStore) : Prop where
  current : t.current = s.current
  entry : ∀ location,
    (t.entry? location).map Entry.untimed = (s.entry? location).map Entry.untimed

theorem SameButTimes.requireFolder_eq (h : SameButTimes s t) (location : Location) :
    t.requireFolder location = s.requireFolder location := by
  have hentry := h.entry location
  unfold requireFolder
  rcases hs : s.entry? location with _ | _ | _ | _ | _ <;>
    rcases ht : t.entry? location with _ | _ | _ | _ | _ <;>
    simp [hs, ht, Entry.untimed] at hentry ⊢

theorem SameButTimes.walk_eq (h : SameButTimes s t) (start : Location) (parts : List Text) :
    t.walk start parts = s.walk start parts := by
  induction parts generalizing start with
  | nil => rfl
  | cons part rest ih =>
    -- A step asks of a place only whether it is a folder.
    rw [walk.eq_2, walk.eq_2]
    simp only [placeIn, h.requireFolder_eq, ih]

/-- The same places are found, with the same entries up to their times. -/
theorem SameButTimes.find_eq (h : SameButTimes s t) (path : Text) :
    (t.find path).map (Prod.map id Entry.untimed) =
      (s.find path).map (Prod.map id Entry.untimed) := by
  have hstart : t.start path = s.start path := by
    unfold start
    rw [h.current]
  unfold find follow
  rw [hstart, h.walk_eq]
  cases requireShortPath path with
  | error fault => rfl
  | ok _ =>
    cases s.walk (s.start path) (steps path) with
    | error fault => rfl
    | ok location =>
      have hentry := h.entry location
      cases hs : s.entry? location with
      | none =>
        rw [hs, Option.map_none, Option.map_eq_none_iff] at hentry
        simp only [bind, Except.bind, hs, hentry]
      | some entry =>
        rw [hs, Option.map_some, Option.map_eq_some_iff] at hentry
        obtain ⟨found, ht, hsame⟩ := hentry
        simp only [bind, Except.bind, pure, Except.pure, hs, ht, Except.map, Prod.map, id, hsame]

theorem SameButTimes.pathExists_eq (h : SameButTimes s t) (path : Text) :
    t.pathExists path = s.pathExists path := by
  have hisSome (found : Except FileFault (Location × Entry)) :
      (found.map (Prod.map id Entry.untimed)).toOption.isSome = found.toOption.isSome := by
    cases found <;> rfl
  unfold pathExists
  rw [← hisSome, h.find_eq, hisSome]

theorem read_eq_text (s : FileStore) (path : Text) :
    s.read path = s.find path >>= fun found => found.2.text := by
  unfold read
  rcases s.find path with fault | ⟨location, entry⟩
  · rfl
  · cases entry <;> rfl

theorem SameButTimes.read_eq (h : SameButTimes s t) (path : Text) : t.read path = s.read path := by
  have htext (found : Except FileFault (Location × Entry)) :
      (found.map (Prod.map id Entry.untimed) >>= fun found => found.2.text) =
        found >>= fun found => found.2.text := by
    rcases found with fault | ⟨location, entry⟩
    · rfl
    · exact entry.text_untimed
  rw [read_eq_text, read_eq_text, ← htext (t.find path), h.find_eq, htext]

end FileStore

/-- Reading a standard header never crashes. -/
theorem HeaderFormat.readFingerprint_standard_ne_crash {text : Text} {message : Option Text} :
    HeaderFormat.standard.readFingerprint text ≠ .error (.crash message) := by
  unfold HeaderFormat.standard
  dsimp only
  cases Header.readFingerprint text <;> simp [Except.mapError, Header.Fault.toFailure]

namespace Checker

theorem isNewer_iff {store : FileStore} {path other : Text} :
    isNewer store path other = true ↔ ∃ time otherTime, store.modified? path = some time ∧
      store.modified? other = some otherTime ∧ otherTime < time := by
  unfold isNewer
  cases store.modified? path <;> cases store.modified? other <;> simp

theorem contentStandard_eq_error_iff {header : HeaderFormat} {text : Text} {expected : Fingerprint}
    {message : Option Text} :
    contentStandard header text expected = .error message ↔
      header.readFingerprint text = .error (.crash message) := by
  unfold contentStandard
  split <;> simp_all

end Checker

namespace Workspace

variable {κ σ : Type} {w : Workspace κ σ} {file : FeatureFile} {method : CheckMethod}
  {expected : Fingerprint} {header : HeaderFormat} {text : Text}

/-- The text generated before is at hand, or can be read. -/
def HasGenerated (w : Workspace κ σ) (file : FeatureFile) (text : Text) : Prop :=
  file.generated = some text ∨
    file.generated = none ∧ w.store.read (w.generatedPath file) = .ok text

/-- Times are compared, neither text is at hand, and the feature file is known to have changed after
the generated file. -/
def IsOutdated (w : Workspace κ σ) (file : FeatureFile) (method : CheckMethod) : Prop :=
  method = .modificationTime ∧ file.feature = none ∧ file.generated = none ∧
    ∃ time generatedTime, w.store.modified? (file.pathIn w.project.folder) = some time ∧
      w.store.modified? (w.generatedPath file) = some generatedTime ∧ generatedTime < time

theorem loadGenerated_eq_ok_iff : w.loadGenerated file = .ok text ↔ w.HasGenerated file text := by
  unfold loadGenerated FeatureFile.loadGenerated HasGenerated
  cases file.generated with
  | some found => simp
  | none => simp [generatedPath]

/-! ### The standard check -/

/-- What the standard check finds in its first step. -/
def preliminary (w : Workspace κ σ) (file : FeatureFile) (method : CheckMethod) : Option Bool :=
  Checker.preliminaryStandard w.store file (file.pathIn w.project.folder) (w.generatedPath file)
    method

theorem preliminary_of_isOutdated (h : w.IsOutdated file method) :
    w.preliminary file method = some false := by
  obtain ⟨hmethod, hfeature, hgenerated, htimes⟩ := h
  have hnewer := Checker.isNewer_iff.2 htimes
  unfold preliminary Checker.preliminaryStandard
  simp [hgenerated, hfeature, hmethod, hnewer]

/-- Unless the times show that a file is outdated, the first step leaves the answer to the second
one, or there is no text to be read. -/
theorem preliminary_of_not_isOutdated (h : ¬ w.IsOutdated file method) :
    w.preliminary file method = none ∨
      w.preliminary file method = some false ∧ ∃ fault, w.loadGenerated file = .error fault := by
  cases hgenerated : file.generated with
  | some found =>
    left
    unfold preliminary Checker.preliminaryStandard
    rw [hgenerated]
    rfl
  | none =>
    cases hexists : w.store.pathExists (w.generatedPath file) with
    | false =>
      refine .inr ⟨?_, ?_⟩
      · unfold preliminary Checker.preliminaryStandard
        rw [hgenerated, hexists]
        rfl
      · cases hload : w.loadGenerated file with
        | error fault => exact ⟨fault, rfl⟩
        | ok text =>
          -- What can be read is there.
          simp only [loadGenerated, FeatureFile.loadGenerated, hgenerated] at hload
          cases hexists.symm.trans (FileStore.pathExists_of_read hload)
    | true =>
      refine .inl ((Checker.preliminaryStandard_eq_none_iff hgenerated).2 ⟨hexists, ?_⟩)
      intro hmethod hfeature
      by_contra hnewer
      rw [Bool.not_eq_false] at hnewer
      exact h ⟨hmethod, hfeature, hgenerated, Checker.isNewer_iff.1 hnewer⟩

theorem judge_of_standard (hchecker : w.checker = .standard header) :
    w.judge file method expected =
      match w.preliminary file method with
      | some answer => .ok answer
      | none =>
        match w.loadGenerated file with
        | .error _ => .ok false
        | .ok text => Checker.contentStandard header text expected := by
  unfold judge
  rw [hchecker]
  rfl

/-- The standard check gives another answer than that the file is not up to date exactly if the text
generated before leads to it and the times do not speak against it. -/
theorem judge_eq_iff (hchecker : w.checker = .standard header)
    {answer : Except (Option Text) Bool} (hanswer : answer ≠ .ok false) :
    w.judge file method expected = answer ↔
      (∃ text, w.HasGenerated file text ∧
        Checker.contentStandard header text expected = answer) ∧ ¬ w.IsOutdated file method := by
  rw [judge_of_standard hchecker]
  by_cases houtdated : w.IsOutdated file method
  · rw [preliminary_of_isOutdated houtdated]
    apply iff_of_false hanswer.symm
    rintro ⟨-, hnot⟩
    exact hnot houtdated
  -- Otherwise the second step decides, or nothing can be read and no text leads to any answer.
  simp only [houtdated, not_false_eq_true, and_true, ← loadGenerated_eq_ok_iff]
  rcases preliminary_of_not_isOutdated houtdated with hnone | ⟨hfalse, fault, hload⟩
  · rw [hnone]
    cases w.loadGenerated file with
    | error fault => simpa using hanswer.symm
    | ok text => simp
  · rw [hfalse, hload]
    simpa using hanswer.symm

/-- By content, a file is judged in the same way at all times. -/
theorem judge_eq_of_sameButTimes (hchecker : w.checker = .standard header) {store : FileStore}
    (h : w.store.SameButTimes store) :
    { w with store }.judge file .fileContent expected = w.judge file .fileContent expected := by
  have hpreliminary :
      { w with store }.preliminary file .fileContent = w.preliminary file .fileContent := by
    unfold preliminary Checker.preliminaryStandard
    simp only [generatedPath, h.pathExists_eq, reduceCtorEq, false_and]
  have hload : { w with store }.loadGenerated file = w.loadGenerated file := by
    unfold loadGenerated FeatureFile.loadGenerated
    simp only [h.read_eq]
  have hsame : { w with store }.checker = .standard header := hchecker
  rw [judge_of_standard hchecker, judge_of_standard hsame, hpreliminary, hload]

theorem isUpToDate_fst (w : Workspace κ σ) (file : FeatureFile) (method : CheckMethod)
    (expected : Fingerprint) :
    (w.isUpToDate file method expected).1 = w.judge file method expected := by
  obtain ⟨events, heq⟩ := w.isUpToDate_eq file method expected
  rw [heq]

/-- **When a generated file counts as up to date.** The standard check, which never crashes, says so
exactly if the text generated before is at hand or can be read, its header has the expected version
and digest, and the file is not known to be outdated by its time. So times alone are no reason to
keep a file; by content, the answer is the same whatever the times are; and what is kept when times
are compared is kept by content, too. -/
theorem isUpToDate_iff (hchecker : w.checker = .standard .standard) :
    ((w.isUpToDate file method expected).1 = .ok true ↔
      (∃ text found, w.HasGenerated file text ∧ Header.readFingerprint text = .ok found ∧
        found.version = expected.version ∧ found.digest = expected.digest) ∧
      ¬ w.IsOutdated file method) ∧
    (∃ answer, (w.isUpToDate file method expected).1 = .ok answer) ∧
    w.checker.preliminary w.store file (file.pathIn w.project.folder) (w.generatedPath file)
      method ≠ some true ∧
    (∀ store, w.store.SameButTimes store →
      ({ w with store }.isUpToDate file .fileContent expected).1 =
        (w.isUpToDate file .fileContent expected).1) ∧
    ((w.isUpToDate file .modificationTime expected).1 = .ok true →
      (w.isUpToDate file .fileContent expected).1 = .ok true) := by
  have hread (text : Text) : Checker.contentStandard .standard text expected = .ok true ↔
      ∃ found, Header.readFingerprint text = .ok found ∧
        found.version = expected.version ∧ found.digest = expected.digest := by
    rw [Checker.contentStandard_eq_true_iff]
    constructor
    · intro h
      exact ⟨expected, h, rfl, rfl⟩
    · rintro ⟨⟨version, digest⟩, h, rfl, rfl⟩
      exact h
  have htrue (method : CheckMethod) : w.judge file method expected = .ok true ↔ _ :=
    judge_eq_iff hchecker (by simp)
  simp only [isUpToDate_fst]
  refine ⟨?_, ?_, ?_, ?_, ?_⟩
  · rw [htrue method]
    simp only [hread, exists_and_left]
  · cases hjudge : w.judge file method expected with
    | ok answer => exact ⟨answer, rfl⟩
    | error message =>
      obtain ⟨⟨text, -, hcrash⟩, -⟩ := (judge_eq_iff hchecker (by simp)).1 hjudge
      exact absurd (Checker.contentStandard_eq_error_iff.1 hcrash)
        HeaderFormat.readFingerprint_standard_ne_crash
  · rw [hchecker]
    exact Checker.preliminaryStandard_ne_true
  · intro store hstore
    exact judge_eq_of_sameButTimes hchecker hstore
  · rw [htrue, htrue]
    rintro ⟨hcontent, -⟩
    exact ⟨hcontent, fun houtdated => nomatch houtdated.1⟩

/-- A text at hand with the expected header is up to date. -/
theorem isUpToDate_of_written :
    let w := standalone {} Blake3.hash {}
    let expected : Fingerprint := { version := .current, digest := 1 }
    let generated := Header.write
      { fingerprint := expected, namespaceName := "Shop", language := .csharp }
    let file : FeatureFile := { path := "buy.feature", generated := some generated }
    (w.isUpToDate file .modificationTime expected).1 = .ok true := by
  intro w expected generated file
  have hread : Header.readFingerprint generated = .ok expected := by decide +kernel
  exact (isUpToDate_iff rfl).1.2
    ⟨⟨generated, expected, .inl rfl, hread, rfl, rfl⟩, fun houtdated => nomatch houtdated.2.2.1⟩

end Workspace

end FeatureFixtures
