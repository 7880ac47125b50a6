import FeatureFixtures.Generator
import FeatureFixtures.Proofs.Drafts
import FeatureFixtures.Proofs.Numerals
import Mathlib.Data.List.Nodup
/-!
# What is read can be emitted

Making a fixture fails for a blank title, or for a step with a table without rows. What was read
from a file has no such table, so nothing but a fault of the file or a blank title keeps the built-
in generator from giving code. A table of a step is kept in a variable that is named for the step's
line; since those lines increase, no method declares a variable twice.
-/

namespace FeatureFixtures

/-- The table that goes with a call. -/
def CallArgument.table? : CallArgument → Option CallTable
  | table passed => some passed
  | none | docString _ => Option.none

/-- The variables that calls declare, in order. -/
def Call.tableNames (calls : List Call) : List Text :=
  (calls.filterMap (·.argument.table?)).map CallTable.variableName

/-- The calls of every method of a fixture that calls the test runner with steps. -/
def Fixture.methods (fixture : Fixture) : List (List Call) :=
  fixture.background :: fixture.tests.map Test.calls

/-- A feature that was read from a file of so many lines. -/
structure Feature.IsFit (feature : Feature) (lineCount : Nat) : Prop where
  tables : ∀ step ∈ feature.allSteps, ∀ rows, step.argument = some (.table rows) → IsTable rows
  examples : ∀ scenario ∈ feature.scenarios, ∀ examples, scenario.examples = some examples →
    examples.rows ≠ [] ∧ ∀ row ∈ examples.rows, row.length = examples.header.length
  ordered : feature.lineNumbers.Pairwise (· < ·)
  bounded : ∀ n ∈ feature.lineNumbers, 1 ≤ n ∧ n ≤ lineCount

theorem Feature.isFit_of_parse {source : Text} {feature : Feature}
    (h : parse source = .ok feature) : feature.IsFit (Text.lines source).length := by
  obtain ⟨draft, hdraft, hfinish⟩ := bind_eq_ok_iff.1 h
  have hsound := Draft.isSound_empty.readAll hdraft
  rw [Nat.zero_add] at hsound
  unfold Draft.finish at hfinish
  split at hfinish
  · cases hfinish
  · split at hfinish
    · cases hfinish
    · split at hfinish
      · cases hfinish
      · next hbare =>
        cases hfinish
        refine ⟨hsound.feature.steps, fun scenario hscenario examples hexamples => ⟨?_, ?_⟩,
          hsound.feature.ordered, hsound.feature.bounded⟩
        · have hfull := List.find?_eq_none.1 hbare scenario hscenario
          simpa [hexamples] using hfull
        · exact (hsound.feature.examples scenario hscenario examples hexamples).width

/-! ### Calls -/

/-- A step whose table, if it has one, names its columns. -/
def Step.IsCallable (step : Step) : Prop :=
  step.argument ≠ some (.table [])

theorem Step.isCallable_of_isRegular {step : Step} (h : step.IsRegular) : step.IsCallable :=
  fun hempty => (h [] hempty).ne_nil rfl

theorem Step.isCallable_fill {step : Step} (h : step.IsCallable) (values : Values) :
    (step.fill values).IsCallable := by
  unfold IsCallable Step.fill at *
  rcases hargument : step.argument with _ | (_ | ⟨header, rows⟩) | text
  · simp
  · exact absurd hargument h
  · simp [StepArgument.fill]
  · simp [StepArgument.fill]

theorem Step.exists_callArgument {step : Step} (h : step.IsCallable) :
    ∃ argument, step.callArgument = .ok argument ∧
      ∀ table, argument.table? = some table → table.line = step.line := by
  unfold Step.callArgument
  rcases hargument : step.argument with _ | (_ | ⟨header, rows⟩) | text
  · exact ⟨_, rfl, by simp [CallArgument.table?]⟩
  · exact absurd hargument h
  · exact ⟨_, rfl, by rintro _ ⟨⟩; rfl⟩
  · exact ⟨_, rfl, by simp [CallArgument.table?]⟩

/-- Steps become calls whose tables are named for some of the steps' lines. -/
theorem Call.exists_ofSteps (previous : Option StepKeyword) {steps : List Step}
    (h : ∀ step ∈ steps, step.IsCallable) :
    ∃ calls, ofSteps previous steps = .ok calls ∧
      ((calls.filterMap (·.argument.table?)).map CallTable.line).Sublist (steps.map Step.line) := by
  induction steps generalizing previous with
  | nil => exact ⟨[], rfl, List.Sublist.refl []⟩
  | cons step rest ih =>
    rw [List.forall_mem_cons] at h
    obtain ⟨argument, hargument, hline⟩ := Step.exists_callArgument h.1
    obtain ⟨calls, hcalls, hlines⟩ := ih (some (step.keyword.kindAfter previous)) h.2
    refine ⟨⟨step.keyword.kindAfter previous, step.keyword, step.text, argument⟩ :: calls, ?_, ?_⟩
    · simp [ofSteps, Step.call, hargument, hcalls, bind, Except.bind, pure, Except.pure]
    · cases htable : argument.table? with
      | none => simpa [List.filterMap_cons, htable] using hlines.cons step.line
      | some table =>
        simpa [List.filterMap_cons, htable, hline table htable] using hlines.cons_cons step.line

/-- Tables that are named for different lines have different names. -/
theorem Call.nodup_tableNames {calls : List Call} {steps : List Step}
    (hlines : ((calls.filterMap (·.argument.table?)).map CallTable.line).Sublist
      (steps.map Step.line))
    (hordered : (steps.map Step.line).Pairwise (· < ·)) : (tableNames calls).Nodup := by
  have hnodup := (hordered.sublist hlines).imp Nat.ne_of_lt
  have hname : tableNames calls =
      ((calls.filterMap (·.argument.table?)).map CallTable.line).map
        fun line => "table" ++ Text.ofNat line := by
    simp [tableNames, CallTable.variableName, Function.comp_def]
  rw [hname]
  refine List.Nodup.map ?_ hnodup
  intro n m hnm
  have hdigits := congrArg Text.digitsValue (List.append_cancel_left hnm)
  rwa [Text.digitsValue_ofNat, Text.digitsValue_ofNat] at hdigits

/-! ### Tests -/

namespace Fixture

theorem exists_testsOf {named : List (Text × Scenario)}
    (h : ∀ pair ∈ named, (∀ step ∈ pair.2.steps, step.IsCallable) ∧
      (pair.2.steps.map Step.line).Pairwise (· < ·)) :
    ∃ tests, testsOf named = .ok tests ∧ ∀ test ∈ tests, (Call.tableNames test.calls).Nodup := by
  induction named with
  | nil => exact ⟨[], rfl, by simp⟩
  | cons pair rest ih =>
    rw [List.forall_mem_cons] at h
    obtain ⟨calls, hcalls, hlines⟩ := Call.exists_ofSteps none h.1.1
    obtain ⟨tests, htests, hnodup⟩ := ih h.2
    refine ⟨⟨pair.1, pair.2.title, pair.2.tags, calls⟩ :: tests, ?_, ?_⟩
    · simp [testsOf, testOf, hcalls, htests, bind, Except.bind, pure, Except.pure]
    · rw [List.forall_mem_cons]
      exact ⟨Call.nodup_tableNames hlines h.1.2, hnodup⟩

/-- The scenarios that a scenario stands for have its steps, on the same lines. -/
theorem steps_of_mem_instances {scenario made : Scenario} (h : made ∈ scenario.instances) :
    made.steps.map Step.line = scenario.steps.map Step.line ∧
      ((∀ step ∈ scenario.steps, step.IsCallable) → ∀ step ∈ made.steps, step.IsCallable) := by
  unfold Scenario.instances at h
  split at h
  · rw [List.mem_singleton.1 h]
    exact ⟨rfl, id⟩
  · obtain ⟨values, -, rfl⟩ := List.mem_map.1 h
    refine ⟨by simp [Scenario.fill, Step.fill], fun hsteps step hstep => ?_⟩
    obtain ⟨origin, horigin, rfl⟩ := List.mem_map.1 hstep
    exact Step.isCallable_fill (hsteps origin horigin) values

/-- A feature that was read and has a title has a fixture. -/
theorem exists_ofFeature {feature : Feature} {lineCount : Nat} (h : feature.IsFit lineCount)
    (htitle : Text.isAllBlank feature.title = false) :
    ∃ fixture, ofFeature feature = .ok fixture ∧
      ∀ calls ∈ fixture.methods, (Call.tableNames calls).Nodup := by
  have hcallable (step : Step) (hstep : step ∈ feature.allSteps) : step.IsCallable :=
    Step.isCallable_of_isRegular (h.tables step hstep)
  have hordered := h.ordered
  rw [Feature.lineNumbers, List.pairwise_append] at hordered
  have hsteps (step : Step) (hstep : step ∈ feature.background) : step.IsCallable :=
    hcallable step (List.mem_append_left _ hstep)
  have hmade : ∀ pair ∈ (testNames feature).zip (feature.scenarios.flatMap Scenario.instances),
      (∀ step ∈ pair.2.steps, step.IsCallable) ∧
        (pair.2.steps.map Step.line).Pairwise (· < ·) := by
    rintro ⟨name, made⟩ hpair
    obtain ⟨scenario, hscenario, hmade⟩ := List.mem_flatMap.1 (List.of_mem_zip hpair).2
    obtain ⟨heq, hkeep⟩ := steps_of_mem_instances hmade
    refine ⟨hkeep fun step hstep => hcallable step ?_, ?_⟩
    · exact List.mem_append_right _ (List.mem_flatMap.2 ⟨scenario, hscenario, hstep⟩)
    · have hnumbers := (List.pairwise_flatMap.1 hordered.2.1).1 scenario hscenario
      rw [heq]
      exact (List.pairwise_cons.1 hnumbers).2
  obtain ⟨background, hbackground, hlines⟩ := Call.exists_ofSteps none hsteps
  obtain ⟨tests, htests, hnodup⟩ := exists_testsOf hmade
  refine ⟨⟨feature.title, Text.join ['\n'] feature.description, feature.tags, background, tests⟩,
    ?_, ?_⟩
  · simp [ofFeature, htitle, hbackground, htests, bind, Except.bind, pure, Except.pure]
  · simp only [methods, List.forall_mem_cons, List.forall_mem_map]
    exact ⟨Call.nodup_tableNames hlines hordered.1, hnodup⟩

end Fixture

/-! ### The built-in generator -/

namespace Generator

theorem generateCode_of_parse_error {request : Request} {refused : Feature.ParseError}
    (h : Feature.parse request.feature = .error refused) :
    generateCode request = .error (.error (.ofParseError refused)) := by
  unfold generateCode
  rw [h]

theorem generateCode_of_isAllBlank {request : Request} {feature : Feature}
    (h : Feature.parse request.feature = .ok feature) (htitle : Text.isAllBlank feature.title) :
    generateCode request = .error (.error (.emission "feature has no title")) := by
  unfold generateCode emit Fixture.ofFeature
  simp [h, htitle, failureOfFault, throw, throwThe, MonadExceptOf.throw, bind, Except.bind]

theorem generateCode_of_fixture {request : Request} {feature : Feature} {fixture : Fixture}
    (h : Feature.parse request.feature = .ok feature)
    (hfixture : Fixture.ofFeature feature = .ok fixture) :
    generateCode request = .ok (fixture.code request.platform request.folderPath) := by
  unfold generateCode emit
  simp [h, hfixture]

theorem generateCode_ne_crash (request : Request) (message : Option Text) :
    generateCode request ≠ .error (.crash message) := by
  cases hparse : Feature.parse request.feature with
  | error refused => simp [generateCode_of_parse_error hparse]
  | ok feature =>
    cases htitle : Text.isAllBlank feature.title with
    | true => simp [generateCode_of_isAllBlank hparse htitle]
    | false =>
      obtain ⟨fixture, hfixture, -⟩ :=
        Fixture.exists_ofFeature (Feature.isFit_of_parse hparse) htitle
      simp [generateCode_of_fixture hparse hfixture]

end Generator

/-! ### Cutting off the indentation -/

/-- How many of the first bytes of a line, at most so many, are spaces or tabs. -/
def Line.indentSize (limit : Nat) (bytes : Bytes) : Nat :=
  ((bytes.take limit).takeWhile fun byte => byte == 0x20 || byte == 0x09).length

/-- The bytes that are cut off a line are those of whole characters. -/
theorem Line.toBytes_unindent (limit : Nat) (line : Text) :
    Text.toBytes (unindent limit line) =
      (Text.toBytes line).drop (indentSize limit (Text.toBytes line)) := by
  induction limit generalizing line with
  | zero => simp [unindent, indentSize]
  | succ n ih =>
    cases line with
    | nil => simp [unindent, indentSize, Text.toBytes]
    | cons c rest =>
      unfold unindent
      split
      · next hindent =>
        rw [ih]
        rcases (by simpa [isIndent] using hindent : c = ' ' ∨ c = '\t') with rfl | rfl <;>
          simp [Text.toBytes, indentSize, Text.utf8EncodeChar_of_toNat_lt]
      · next hindent =>
        obtain ⟨byte, others, hbytes⟩ :=
          List.exists_cons_of_ne_nil (String.utf8EncodeChar_ne_nil (c := c))
        have hmem : byte ∈ String.utf8EncodeChar c := by simp [hbytes]
        have hbyte := (Text.toNat_of_mem_utf8EncodeChar hmem).2
        have hblank : (byte == 0x20 || byte == 0x09) = false := by
          rw [Bool.eq_false_iff]
          intro hmark
          apply hindent
          rcases (by simpa using hmark : byte = 0x20 ∨ byte = 0x09) with rfl | rfl
          · rw [← Char.ofNat_toNat c, ← hbyte.resolve_right (by decide)]
            rfl
          · rw [← Char.ofNat_toNat c, ← hbyte.resolve_right (by decide)]
            rfl
        simp [Text.toBytes, indentSize, hbytes, hblank]

namespace Feature

/-- **What is read is fit to be emitted.** Of an accepted file the tables are regular, every outline
has examples as wide as their header, and the lines of background steps, scenarios and their steps
increase within the file. So the built-in generator gives code, the fault of a file that is refused,
or, exactly for a blank title, the error that there is none; it never crashes. No method declares
two table variables of one name. While a file is read, no table is ever without rows, and the
indentation of a line is cut off between two characters. -/
theorem parse_fits (request : Request) :
    (match parse request.feature with
      | .error refused =>
        Generator.generateCode request = .error (.error (.ofParseError refused))
      | .ok feature =>
        feature.IsFit (Text.lines request.feature).length ∧
        (Text.isAllBlank feature.title = true →
          Generator.generateCode request = .error (.error (.emission "feature has no title"))) ∧
        (Text.isAllBlank feature.title = false →
          ∃ fixture, Fixture.ofFeature feature = .ok fixture ∧
            Generator.generateCode request =
              .ok (fixture.code request.platform request.folderPath) ∧
            ∀ calls ∈ fixture.methods, (Call.tableNames calls).Nodup)) ∧
    (∀ count draft,
      ({} : Draft).readAll 1 ((Text.lines request.feature).take count) = .ok draft →
        ∀ step ∈ draft.feature.allSteps, step.argument ≠ some (.table [])) ∧
    ∀ line limit, Text.toBytes (Line.unindent limit line) =
      (Text.toBytes line).drop (Line.indentSize limit (Text.toBytes line)) := by
  refine ⟨?_, fun count draft hdraft step hstep => ?_, fun line limit =>
    Line.toBytes_unindent limit line⟩
  · split
    · next refused hparse => exact Generator.generateCode_of_parse_error hparse
    · next feature hparse =>
      have hfit := isFit_of_parse hparse
      refine ⟨hfit, Generator.generateCode_of_isAllBlank hparse, fun htitle => ?_⟩
      obtain ⟨fixture, hfixture, hnodup⟩ := Fixture.exists_ofFeature hfit htitle
      exact ⟨fixture, hfixture, Generator.generateCode_of_fixture hparse hfixture, hnodup⟩
  · have hsound := Draft.isSound_empty.readAll hdraft
    exact Step.isCallable_of_isRegular (hsound.feature.steps step hstep)

end Feature

end FeatureFixtures
