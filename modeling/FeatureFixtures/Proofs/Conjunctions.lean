import FeatureFixtures.Proofs.Expansion
/-!
# What a conjunction is called as

The code for the steps of a method hands the kind of each step on to the next one. So a step is
called as the last step up to it says that does not continue another one, and as a precondition if
there is none; but the keyword that is passed along is the one that is written. Every method begins
anew, so neither the background nor another scenario or row has a say in it.
-/

namespace FeatureFixtures

namespace Step

/-- The keyword of the last step that does not continue the one before it. -/
def lastKind? (steps : List Step) : Option StepKeyword :=
  ((steps.map keyword).filter fun word => !word.continues).getLast?

/-- The statements for a step that is called as some kind of step. -/
def IsCalledBy (language : Language) (kind : StepKeyword) (step : Step) (code : Text) : Prop :=
  ∃ argument, step.callArgument = .ok argument ∧
    code = argument.code language ++ Dialect.statement language
      ("testRunner." ++ kind.spelling ++ "(" ++ Text.join ", "
        [Literal.ofText language step.text, argument.docStringCode language,
         argument.tableCode language, Literal.ofText language (step.keyword.spelling ++ [' '])] ++
        ")")

/-- The statements for a list of steps, each of which is called as the kind of the last one up to it
that does not continue another. -/
def AreCalledBy (language : Language) (steps : List Step) (code : Text) : Prop :=
  ∃ pieces : List Text, code = pieces.flatten ∧ pieces.length = steps.length ∧
    ∀ (i : Nat) (step : Step) (piece : Text), steps[i]? = some step → pieces[i]? = some piece →
      step.IsCalledBy language ((lastKind? (steps.take (i + 1))).getD .given) piece

/-- Which step comes first matters only to the steps after it that continue it. -/
theorem lastKind?_cons (previous : Option StepKeyword) (step : Step) (rest : List Step) :
    (lastKind? (step :: rest)).getD (previous.getD .given) =
      (lastKind? rest).getD (step.keyword.kindAfter previous) := by
  unfold lastKind? StepKeyword.kindAfter
  cases hcontinues : step.keyword.continues with
  | true => simp [hcontinues]
  | false => simp [hcontinues, List.getLast?_cons]

theorem kind_mem (steps : List Step) :
    (lastKind? steps).getD .given ∈ [StepKeyword.given, .whenever, .outcome] := by
  cases hlast : lastKind? steps with
  | none => decide
  | some word =>
    have hword := List.of_mem_filter (List.mem_of_getLast? hlast)
    cases word with
    | given | whenever | outcome => decide
    | conjunction | contrast => cases hword

theorem isCalledBy_of_call {language : Language} {kind : StepKeyword} {step : Step} {call : Call}
    (h : step.call kind = .ok call) : step.IsCalledBy language kind (call.code language) := by
  obtain ⟨argument, hargument, h⟩ := bind_eq_ok_iff.1 h
  cases h
  exact ⟨argument, hargument, rfl⟩

end Step

namespace Call

variable {previous : Option StepKeyword} {steps : List Step} {calls : List Call}

/-- The kind that is handed on is that of the last step which does not continue another one. -/
theorem call_of_ofSteps (h : ofSteps previous steps = .ok calls) {i : Nat} {step : Step}
    {call : Call} (hstep : steps[i]? = some step) (hcall : calls[i]? = some call) :
    step.call ((Step.lastKind? (steps.take (i + 1))).getD (previous.getD .given)) = .ok call := by
  induction steps generalizing previous calls i with
  | nil => cases hstep
  | cons first rest ih =>
    obtain ⟨called, hcalled, h⟩ := bind_eq_ok_iff.1 h
    obtain ⟨others, hothers, h⟩ := bind_eq_ok_iff.1 h
    cases h
    rw [List.take_succ_cons, Step.lastKind?_cons]
    cases i with
    | zero =>
      cases hstep
      cases hcall
      exact hcalled
    | succ i => exact ih hothers hstep hcall

theorem areCalledBy_of_ofSteps (h : ofSteps none steps = .ok calls) (language : Language) :
    Step.AreCalledBy language steps (calls.flatMap (code language)) := by
  refine ⟨calls.map (code language), List.flatMap_def .., ?_, ?_⟩
  · rw [List.length_map, length_ofSteps h]
  · intro i step piece hstep hpiece
    rw [List.getElem?_map, Option.map_eq_some_iff] at hpiece
    obtain ⟨call, hcall, rfl⟩ := hpiece
    exact Step.isCalledBy_of_call (call_of_ofSteps h hstep hcall)

end Call

theorem Fixture.exists_testCode_eq (platform : Platform) (hasBackground : Bool) (name title : Text)
    (tags : List Text) :
    ∃ opening ending : Text, ∀ calls : List Call,
      testCode platform hasBackground ⟨name, title, tags, calls⟩ =
        opening ++ calls.flatMap (Call.code platform.language) ++ ending := by
  have hassoc (opening calls collected ended closed : Text) :
      opening ++ calls ++ collected ++ ended ++ closed =
        opening ++ calls ++ (collected ++ (ended ++ closed)) := by
    simp only [List.append_assoc]
  apply Exists.intro
  apply Exists.intro
  intro calls
  dsimp only [testCode]
  exact hassoc ..

theorem Fixture.exists_prologue_eq (platform : Platform) (folder title description : Text)
    (tags : List Text) :
    ∃ start : Text, ∀ background : List Call,
      prologue platform folder title description tags background =
        start ++ backgroundCode platform background :=
  ⟨_, fun _ => rfl⟩

/-- The method of a scenario, which is the same as if it had no steps, with the calls for its steps
put in. -/
def Method.CallsStepsOf (platform : Platform) (hasBackground : Bool) (scenario : Scenario)
    (method : Method) : Prop :=
  ∃ opening calls ending : Text, method.code = opening ++ calls ++ ending ∧
    opening ++ ending =
      Fixture.testCode platform hasBackground ⟨method.name, scenario.title, scenario.tags, []⟩ ∧
    Step.AreCalledBy platform.language scenario.steps calls

theorem Method.IsTestOf.callsStepsOf {platform : Platform} {hasBackground : Bool}
    {scenario : Scenario} {method : Method} (h : method.IsTestOf platform hasBackground scenario) :
    method.CallsStepsOf platform hasBackground scenario := by
  obtain ⟨test, htest, hcode⟩ := h
  obtain ⟨calls, hcalls, htest⟩ := bind_eq_ok_iff.1 htest
  cases htest
  obtain ⟨opening, ending, hparts⟩ := Fixture.exists_testCode_eq platform hasBackground method.name
    scenario.title scenario.tags
  refine ⟨opening, calls.flatMap (Call.code platform.language), ending, ?_, ?_,
    Call.areCalledBy_of_ofSteps hcalls platform.language⟩
  · rw [hcode, hparts]
  · rw [hparts, List.flatMap_nil, List.append_nil]

namespace Generator

/-- **Conjunctions are called as what they continue.** In the background and in the method of every
plain scenario and of every row, each step is called as a precondition, an action or an outcome. It
is what the last step up to it is that stands in the same list and does not continue another, and a
precondition if there is no such step. The keyword that is passed last is the step's own. -/
theorem emit_conjunctions {feature : Feature} {folder code : Text} {platform : Platform}
    (h : emit feature folder platform = .ok code) :
    (∀ steps : List Step,
      (Step.lastKind? steps).getD .given ∈ [StepKeyword.given, .whenever, .outcome]) ∧
    ∃ (start background : Text) (methods : List Method),
      code = start ++
        (if feature.background.isEmpty then []
          else Dialect.methodStart platform.language Fixture.backgroundName ++ background ++
            Dialect.methodEnd platform.language) ++
        methods.flatMap Method.code ++ Dialect.classEnd platform.language ∧
      Step.AreCalledBy platform.language feature.background background ∧
      List.Forall₂ (Method.CallsStepsOf platform (!feature.background.isEmpty))
        (feature.scenarios.flatMap Scenario.instances) methods := by
  obtain ⟨background, methods, hcode, hbackground, hmethods⟩ := exists_background_of_emit h
  obtain ⟨start, hstart⟩ := Fixture.exists_prologue_eq platform folder feature.title
    (Text.join ['\n'] feature.description) feature.tags
  refine ⟨Step.kind_mem, start, background.flatMap (Call.code platform.language), methods, ?_,
    Call.areCalledBy_of_ofSteps hbackground platform.language,
    hmethods.tests.imp fun scenario method hmethod => hmethod.callsStepsOf⟩
  rw [hcode, hstart, Fixture.backgroundCode, Call.isEmpty_ofSteps hbackground]

/-- A background that ends with an action, a scenario that begins with a conjunction, and an outline
with two rows. -/
theorem emit_conjunctions_carried :
    let step (keyword : StepKeyword) : Step :=
      { keyword, text := "<a>", argument := none, line := 1 }
    let feature : Feature :=
      { title := "F", background := [step .contrast, step .whenever]
        scenarios := [
          { title := "S", tags := [], steps := [step .conjunction, step .outcome, step .contrast]
            examples := none, line := 2 },
          { title := "T", tags := [], steps := [step .conjunction, step .whenever]
            examples := some { header := ["a"], rows := [["1"], ["2"]] }, line := 3 }] }
    ∃ (code start background : Text) (methods : List Method),
      emit feature "" {} = .ok code ∧
      code = start ++ (Dialect.methodStart .csharp Fixture.backgroundName ++ background ++
        Dialect.methodEnd .csharp) ++ methods.flatMap Method.code ++ Dialect.classEnd .csharp ∧
      Step.AreCalledBy .csharp feature.background background ∧
      List.Forall₂ (Method.CallsStepsOf {} true)
        (feature.scenarios.flatMap Scenario.instances) methods ∧
      (List.range 3).map (fun i => (Step.lastKind?
        ([step .conjunction, step .outcome, step .contrast].take (i + 1))).getD .given) =
        [.given, .outcome, .outcome] := by
  intro step feature
  have hemitted : (emit feature "" {}).toOption.isSome = true := by decide +kernel
  obtain ⟨code, hcode⟩ := exists_eq_ok_of_isSome hemitted
  obtain ⟨-, start, background, methods, hparts, hbackground, hmethods⟩ := emit_conjunctions hcode
  exact ⟨code, start, background, methods, hcode, hparts, hbackground, hmethods, by decide⟩

end Generator

end FeatureFixtures
