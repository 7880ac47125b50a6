import FeatureFixtures.Proofs.PrintedFeatures
/-!
# Printed features are read back

A feature that can be printed is read back piece by piece: each part of the file takes its steps,
and each step or outline its rows. So reading the file gives the feature back, whatever its layout,
and each step and scenario gets the number of the line on which it stands.
-/

namespace FeatureFixtures

/-! ### What a step takes -/

theorem tagNames_eq {tags : List Text} (h : ∀ tag ∈ tags, IsTag tag) :
    (tags.map ('@' :: ·)).mapM tagName = .ok tags := by
  induction tags with
  | nil => rfl
  | cons tag rest ih =>
    rw [List.forall_mem_cons] at h
    obtain ⟨c, name, rfl⟩ := List.exists_cons_of_ne_nil h.1.1
    rw [List.map_cons, List.mapM_cons, ih h.2]
    rfl

theorem Step.foldlM_addRow_table {width : Nat} (step : Step) (first : List (List Text))
    (hfirst : first ≠ []) {rows : List (List Text)}
    (h : ∀ row ∈ first ++ rows, row.length = width) :
    rows.foldlM Step.addRow { step with argument := some (.table first) } =
      .ok { step with argument := some (.table (first ++ rows)) } := by
  induction rows generalizing first with
  | nil =>
    rw [List.append_nil]
    rfl
  | cons row rest ih =>
    have hrow : row.length = (first.headD []).length := by
      obtain ⟨head, others, rfl⟩ := List.exists_cons_of_ne_nil hfirst
      rw [h row (by simp), List.headD_cons, h head (by simp)]
    have hadd : ({ step with argument := some (.table first) } : Step).addRow row =
        .ok { step with argument := some (.table (first ++ [row])) } := by
      rw [addRow]
      dsimp only
      rw [if_neg (not_not.2 hrow)]
    rw [foldlM_cons_of_ok hadd, ih (first ++ [row]) (by simp) (by simpa using h),
      List.append_assoc, List.singleton_append]

theorem Step.foldlM_addRow (step : Step) (hstep : step.argument = none) {rows : List (List Text)}
    (h : IsTable rows) :
    rows.foldlM Step.addRow step = .ok { step with argument := some (.table rows) } := by
  obtain ⟨hne, width, -, hwidth⟩ := h
  obtain ⟨first, rest, rfl⟩ := List.exists_cons_of_ne_nil hne
  have hadd : step.addRow first = .ok { step with argument := some (.table [first]) } := by
    rw [addRow, hstep]
  rw [foldlM_cons_of_ok hadd]
  exact foldlM_addRow_table step [first] (List.cons_ne_nil _ _) hwidth

theorem Examples.foldlM_addRow (examples : Examples) {rows : List (List Text)}
    (hheader : examples.header ≠ [])
    (h : ∀ row ∈ rows, row.length = examples.header.length ∧ row ≠ examples.header) :
    rows.foldlM Examples.addRow examples = .ok { examples with rows := examples.rows ++ rows } := by
  induction rows generalizing examples with
  | nil =>
    rw [List.append_nil]
    rfl
  | cons row rest ih =>
    rw [List.forall_mem_cons] at h
    have hadd : examples.addRow row = .ok { examples with rows := examples.rows ++ [row] } := by
      simp [addRow, hheader, h.1.1, h.1.2]
    rw [foldlM_cons_of_ok hadd, ih { examples with rows := examples.rows ++ [row] } hheader h.2,
      List.append_assoc, List.singleton_append]

/-! ### Reading the pieces -/

namespace Feature.Draft

theorem readPieces_cons {draft next : Draft} {numbers : List Nat} {piece : Piece}
    (h : draft.readPiece (numbers.headD 0) piece = .ok next) (rest : List Piece) :
    draft.readPieces numbers (piece :: rest) = next.readPieces numbers.tail rest := by
  rw [readPieces, h]
  rfl

theorem readPiece_line {draft next : Draft} (hopen : draft.docString = none)
    (hpart : draft.part ≠ .start) {written : Text} {form : Line}
    (hform : Line.ofText written = form) {number : Nat}
    (hadd : draft.addLine number (Text.trim written) form = .ok next) :
    draft.readPiece number (.line written) = .ok next := by
  simp only [readPiece, hopen, if_neg hpart, hform, hadd]

/-- Drafts that differ in the steps of the part that is being read. -/
structure TakesSteps (hold : List Step → Draft) : Prop where
  docString : ∀ steps, (hold steps).docString = none
  part : ∀ steps, (hold steps).part = .background ∨ (hold steps).part = .scenario
  addStep : ∀ steps step, (hold steps).addStep step = .ok (hold (steps ++ [step]))
  changeStep : ∀ steps step changed absent change, change step = .ok changed →
    (hold (steps ++ [step])).changeStep absent change = .ok (hold (steps ++ [changed]))

theorem takesSteps_background {draft : Draft} (hopen : draft.docString = none) :
    TakesSteps fun steps => { draft with
      feature := { draft.feature with background := steps }, part := .background } where
  docString _ := hopen
  part _ := .inl rfl
  addStep _ _ := rfl
  changeStep steps _ _ absent _ h :=
    bind_eq_ok_iff.2 ⟨_, changeLast_concat absent h steps, rfl⟩

/-- A draft in which another scenario is being read. -/
def within (draft : Draft) (scenario : Scenario) (part : Part) : Draft :=
  { draft with
    feature := { draft.feature with scenarios := draft.feature.scenarios ++ [scenario] }
    part := part
    tags := [] }

theorem within_docString {draft : Draft} (hopen : draft.docString = none) (scenario : Scenario)
    (part : Part) : (draft.within scenario part).docString = none :=
  hopen

theorem takesSteps_scenario {draft : Draft} (hopen : draft.docString = none)
    (scenario : Scenario) :
    TakesSteps fun steps => draft.within { scenario with steps } .scenario where
  docString _ := hopen
  part _ := .inr rfl
  addStep steps step := by
    refine bind_eq_ok_iff.2
      ⟨_, changeLast_concat Fault.misplacedStep ?_ draft.feature.scenarios, rfl⟩
    rfl
  changeStep steps step changed absent change h := by
    refine bind_eq_ok_iff.2 ⟨_, changeLast_concat absent ?_ draft.feature.scenarios, rfl⟩
    exact bind_eq_ok_iff.2 ⟨_, changeLast_concat absent h steps, rfl⟩

variable {hold : List Step → Draft}

theorem TakesSteps.part_ne_start (h : TakesSteps hold) (steps : List Step) :
    (hold steps).part ≠ .start := by
  intro hstart
  have hpart := h.part steps
  rw [hstart] at hpart
  simp at hpart

/-- Drafts that differ in what takes the rows of a table. -/
structure TakesRows {α : Type} (hold : α → Draft) (add : α → List Text → Except Fault α) :
    Prop where
  docString : ∀ x, (hold x).docString = none
  part_ne_start : ∀ x, (hold x).part ≠ .start
  addRow : ∀ x y cells, add x cells = .ok y → (hold x).addRow cells = .ok (hold y)

theorem TakesSteps.takesRows (h : TakesSteps hold) (steps : List Step) :
    TakesRows (fun step => hold (steps ++ [step])) Step.addRow where
  docString _ := h.docString _
  part_ne_start _ := h.part_ne_start _
  addRow step changed cells hadd := by
    have hchange := h.changeStep steps step changed .rowWithoutStep (·.addRow cells) hadd
    rcases h.part (steps ++ [step]) with hpart | hpart
    · rw [Draft.addRow, hpart]
      exact hchange
    · rw [Draft.addRow, hpart]
      exact hchange

theorem takesRows_examples {draft : Draft} (hopen : draft.docString = none) (scenario : Scenario) :
    TakesRows (fun examples => draft.within { scenario with examples := some examples } .examples)
      Examples.addRow where
  docString _ := hopen
  part_ne_start _ := by simp [within]
  addRow examples changed cells hadd := by
    refine bind_eq_ok_iff.2
      ⟨_, changeLast_concat Fault.rowOutsideExamples ?_ draft.feature.scenarios, rfl⟩
    exact bind_eq_ok_iff.2 ⟨changed, hadd, rfl⟩

theorem TakesRows.readPieces_rows {α : Type} {hold : α → Draft}
    {add : α → List Text → Except Fault α} (h : TakesRows hold add) {rows : List (List Text)}
    (hrows : ∀ row ∈ rows, IsRow row) {x y : α} (hadd : rows.foldlM add x = .ok y)
    (numbers : List Nat) (rest : List Piece) :
    (hold x).readPieces numbers (rowPieces rows ++ rest) =
      (hold y).readPieces (numbers.drop (rowPieces rows).length) rest := by
  -- The rows still to come are read into what those before them have made.
  induction rows generalizing x numbers with
  | nil =>
    cases hadd
    rfl
  | cons row others ih =>
    rw [List.forall_mem_cons] at hrows
    rw [List.foldlM_cons] at hadd
    obtain ⟨next, hnext, hadd⟩ := bind_eq_ok_iff.1 hadd
    have hread : (hold x).readPiece (numbers.headD 0) (.line (rowLine row)) = .ok (hold next) :=
      readPiece_line (h.docString x) (h.part_ne_start x) hrows.1.ofText (h.addRow x next row hnext)
    rw [rowPieces, List.map_cons, List.cons_append, readPieces_cons hread, ← rowPieces,
      ih hrows.2 hadd, List.length_cons, List.drop_tail]

/-- A step is read with what it carries, on the line on which it begins. -/
theorem TakesSteps.readPieces_step (h : TakesSteps hold) {step : Step} (hstep : step.IsPrintable)
    (steps : List Step) (numbers : List Nat) (rest : List Piece) :
    (hold steps).readPieces numbers (step.pieces ++ rest) =
      (hold (steps ++ [{ step with line := numbers.headD 0 }])).readPieces
        (numbers.drop step.pieces.length) rest := by
  let bare : Step := { step with argument := none, line := numbers.headD 0 }
  have hread : (hold steps).readPiece (numbers.headD 0) (.line (stepLine step.keyword step.text)) =
      .ok (hold (steps ++ [bare])) :=
    readPiece_line (h.docString _) (h.part_ne_start _)
      (Line.ofText_stepLine step.keyword hstep.text.trim_eq) (h.addStep steps bare)
  have hargument := hstep.argument
  rw [Step.pieces, List.cons_append, readPieces_cons hread, List.length_cons, ← List.drop_tail]
  cases hcarried : step.argument with
  | none => rfl
  | some argument =>
    rw [Option.map_some, Option.getD_some]
    cases argument with
    | table rows =>
      obtain ⟨htable, hrows⟩ := hargument _ hcarried
      exact (h.takesRows steps).readPieces_rows hrows (Step.foldlM_addRow bare rfl htable)
        numbers.tail rest
    | docString text =>
      have hread : (hold (steps ++ [bare])).readPiece (numbers.tail.headD 0)
          (.docString (text.splitOn '\n')) =
            .ok (hold (steps ++ [{ bare with argument := some (.docString text) }])) := by
        simp only [readPiece, h.docString]
        refine h.changeStep _ _ _ _ _ ?_
        rw [Text.join, List.intercalate_splitOn]
        rfl
      rw [StepArgument.pieces, List.singleton_append, readPieces_cons hread,
        List.length_singleton, List.drop_one]

theorem TakesSteps.readPieces_steps (h : TakesSteps hold) {steps : List Step}
    (hsteps : ∀ step ∈ steps, step.IsPrintable) (before : List Step) (numbers : List Nat)
    (rest : List Piece) :
    (hold before).readPieces numbers (steps.flatMap Step.pieces ++ rest) =
      (hold (before ++ Step.placeAll numbers steps)).readPieces
        (numbers.drop (steps.flatMap Step.pieces).length) rest := by
  -- A step is read behind all those before it, so the draft is not the same at each of them.
  induction steps generalizing before numbers with
  | nil => rw [Step.placeAll, List.append_nil]; rfl
  | cons step others ih =>
    rw [List.forall_mem_cons] at hsteps
    rw [List.flatMap_cons, List.append_assoc, h.readPieces_step hsteps.1, ih hsteps.2,
      List.drop_drop, Step.placeAll, List.append_assoc, List.singleton_append, List.length_append]

theorem readPieces_tags {draft : Draft} (hopen : draft.docString = none) (hnone : draft.tags = [])
    {tags : List Text} (htags : ∀ tag ∈ tags, IsTag tag) (numbers : List Nat) (rest : List Piece) :
    draft.readPieces numbers (tagPieces tags ++ rest) =
      ({ draft with tags } : Draft).readPieces (numbers.drop (tagPieces tags).length) rest := by
  cases htag : tags.isEmpty with
  | true =>
    rw [tagPieces, htag, if_pos rfl, List.isEmpty_iff.1 htag, ← hnone]
    rfl
  | false =>
    have hne : tags ≠ [] := by
      rintro rfl
      cases htag
    have hform := Line.ofText_tags hne fun tag htag => (htags tag htag).2
    have hread : draft.readPiece (numbers.headD 0) (.line (tagLine tags)) =
        .ok { draft with tags } := by
      by_cases hpart : draft.part = .start
      · simp only [readPiece, hopen, hform, if_pos hpart, addFirstLine, tagNames_eq htags, hnone]
        rfl
      · refine readPiece_line hopen hpart hform ?_
        simp only [addLine, tagNames_eq htags, hnone]
        rfl
    have hpieces : tagPieces tags = [.line (tagLine tags)] := by simp [tagPieces, htag]
    rw [hpieces, List.singleton_append, readPieces_cons hread, List.length_singleton,
      List.drop_one]

variable {draft : Draft}

theorem readPieces_examples (hopen : draft.docString = none) (scenario : Scenario)
    {examples : Examples} (hexamples : examples.IsPrintable) (numbers : List Nat)
    (rest : List Piece) :
    (draft.within { scenario with examples := some {} } .scenario).readPieces numbers
        (examples.pieces ++ rest) =
      (draft.within { scenario with examples := some examples } .examples).readPieces
        (numbers.drop examples.pieces.length) rest := by
  have hread : (draft.within { scenario with examples := some {} } .scenario).readPiece
      (numbers.headD 0) (.line "Examples:") =
        .ok (draft.within { scenario with examples := some {} } .examples) := by
    refine readPiece_line (within_docString hopen _ _) (by simp [within]) Line.ofText_examples ?_
    simp [addLine, inOutline, within, Scenario.isOutline]
  obtain ⟨header, rows⟩ := examples
  have hadd : (header :: rows).foldlM Examples.addRow {} = .ok { header, rows } := by
    have hheader : Examples.addRow {} header = .ok { header } := rfl
    rw [foldlM_cons_of_ok hheader]
    exact Examples.foldlM_addRow { header } hexamples.header.1 fun row hrow =>
      (hexamples.rows row hrow).2
  have hrows : ∀ row ∈ header :: rows, IsRow row :=
    List.forall_mem_cons.2 ⟨hexamples.header, fun row hrow => (hexamples.rows row hrow).1⟩
  rw [Examples.pieces, List.cons_append, readPieces_cons hread,
    (takesRows_examples hopen scenario).readPieces_rows hrows hadd, List.length_cons,
    List.drop_tail]

/-- A scenario of which only the title has been read. -/
def bareScenario (scenario : Scenario) (number : Nat) : Scenario :=
  { scenario with steps := [], examples := scenario.examples.map fun _ => {}, line := number }

theorem readPiece_scenarioTitle (hopen : draft.docString = none) (hpart : draft.part ≠ .start)
    {scenario : Scenario} (htags : draft.tags = scenario.tags)
    (htitle : Text.trim scenario.title = scenario.title) (number : Nat) :
    draft.readPiece number (.line (titleLine scenario.keyword scenario.title)) =
      .ok (draft.within (bareScenario scenario number) .scenario) := by
  cases hexamples : scenario.examples with
  | none =>
    have hkeyword : scenario.keyword = "Scenario" := by
      simp [Scenario.keyword, Scenario.isOutline, hexamples]
    rw [hkeyword]
    refine readPiece_line hopen hpart (Line.ofText_scenario htitle) ?_
    simp [addLine, beginScenario, within, bareScenario, htags, hexamples]
  | some examples =>
    have hkeyword : scenario.keyword = "Scenario Outline" := by
      simp [Scenario.keyword, Scenario.isOutline, hexamples]
    rw [hkeyword]
    refine readPiece_line hopen hpart (Line.ofText_outline htitle) ?_
    simp [addLine, beginScenario, within, bareScenario, htags, hexamples]

/-- A scenario is read with its tags, steps and examples. -/
theorem readPieces_scenario (hopen : draft.docString = none) (hpart : draft.part ≠ .start)
    (hnone : draft.tags = []) {scenario : Scenario} (hscenario : scenario.IsPrintable)
    (numbers : List Nat) (rest : List Piece) :
    ∃ part ≠ .start, draft.readPieces numbers (scenario.pieces ++ rest) =
      (draft.within (scenario.place numbers) part).readPieces
        (numbers.drop scenario.pieces.length) rest := by
  let later := numbers.drop (tagPieces scenario.tags).length
  let tagged : Draft := { draft with tags := scenario.tags }
  have hopened : tagged.docString = none := hopen
  let bare := bareScenario scenario (later.headD 0)
  have htitle : tagged.readPiece (later.headD 0)
      (.line (titleLine scenario.keyword scenario.title)) = .ok (draft.within bare .scenario) :=
    readPiece_scenarioTitle hopened hpart rfl hscenario.title.trim_eq _
  let read : Scenario := { bare with steps := Step.placeAll later.tail scenario.steps }
  let behind := later.tail.drop (scenario.steps.flatMap Step.pieces).length
  have hsteps (others : List Piece) :
      (draft.within bare .scenario).readPieces later.tail
          (scenario.steps.flatMap Step.pieces ++ others) =
        (draft.within read .scenario).readPieces behind others :=
    (takesSteps_scenario hopen bare).readPieces_steps hscenario.steps [] later.tail others
  have hbehind : behind = numbers.drop
      ((tagPieces scenario.tags).length + ((scenario.steps.flatMap Step.pieces).length + 1)) := by
    simp only [behind, later, List.drop_tail, List.drop_drop]
  rw [Scenario.pieces, List.append_assoc, readPieces_tags hopen hnone hscenario.tags,
    List.cons_append, readPieces_cons htitle, List.append_assoc, hsteps]
  -- Behind its steps a scenario is complete, while an outline still waits for its examples.
  cases hexamples : scenario.examples with
  | none =>
    have hplaced : read = scenario.place numbers := by
      simp [read, bare, bareScenario, Scenario.place, later, hexamples]
    refine ⟨.scenario, by simp, ?_⟩
    rw [hplaced, hbehind]
    simp
  | some examples =>
    have hbare : { read with examples := some {} } = read := by
      simp [read, bare, bareScenario, hexamples]
    have hplaced : { read with examples := some examples } = scenario.place numbers := by
      simp [read, bare, bareScenario, Scenario.place, later, hexamples]
    have hread := readPieces_examples hopen read (hscenario.examples _ hexamples) behind rest
    rw [hbare, hplaced, hbehind, List.drop_drop] at hread
    refine ⟨.examples, by simp, ?_⟩
    rw [hbehind]
    refine hread.trans ?_
    congr 2
    simp
    omega

theorem readPieces_scenarios (draft : Draft) (hopen : draft.docString = none)
    (hpart : draft.part ≠ .start)
    (hnone : draft.tags = []) {scenarios : List Scenario}
    (hscenarios : ∀ scenario ∈ scenarios, scenario.IsPrintable) (numbers : List Nat) :
    ∃ part ≠ .start, draft.readPieces numbers (scenarios.flatMap Scenario.pieces) =
      .ok { draft with
        feature := { draft.feature with
          scenarios := draft.feature.scenarios ++ Scenario.placeAll numbers scenarios }
        part := part } := by
  induction scenarios generalizing draft numbers with
  | nil =>
    refine ⟨draft.part, hpart, ?_⟩
    rw [Scenario.placeAll, List.append_nil]
    rfl
  | cons scenario others ih =>
    rw [List.forall_mem_cons] at hscenarios
    obtain ⟨part, hnext, hread⟩ := readPieces_scenario hopen hpart hnone hscenarios.1 numbers
      (others.flatMap Scenario.pieces)
    obtain ⟨last, hlast, hothers⟩ := ih (draft.within (scenario.place numbers) part) hopen hnext
      rfl hscenarios.2 (numbers.drop scenario.pieces.length)
    refine ⟨last, hlast, ?_⟩
    rw [List.flatMap_cons, hread, hothers]
    simp [within, Scenario.placeAll, hnone]

theorem readPieces_description (draft : Draft) (hopen : draft.docString = none)
    (hpart : draft.part = .feature) {description : List Text}
    (h : ∀ line ∈ description, Text.IsInline line ∧ Line.ofText line = .other)
    (numbers : List Nat) (rest : List Piece) :
    draft.readPieces numbers (description.map .line ++ rest) =
      ({ draft with feature := { draft.feature with
          description := draft.feature.description ++ description } } : Draft).readPieces
        (numbers.drop description.length) rest := by
  induction description generalizing draft numbers with
  | nil =>
    rw [List.append_nil]
    rfl
  | cons line others ih =>
    rw [List.forall_mem_cons] at h
    let longer : Draft := { draft with feature := { draft.feature with
      description := draft.feature.description ++ [line] } }
    have hread : draft.readPiece (numbers.headD 0) (.line line) = .ok longer := by
      refine readPiece_line hopen (by simp [hpart]) h.1.2 ?_
      rw [h.1.1.trim_eq, addLine, if_pos hpart]
    rw [List.map_cons, List.cons_append, readPieces_cons hread, ih longer hopen hpart h.2,
      List.length_cons, List.drop_tail]
    simp [longer]

theorem readPieces_background (draft : Draft) (hopen : draft.docString = none)
    (hpart : draft.part ≠ .start) (hscenarios : draft.feature.scenarios = [])
    (hnone : draft.feature.background = [])
    {steps : List Step} (hsteps : ∀ step ∈ steps, step.IsPrintable) (numbers : List Nat)
    (rest : List Piece) :
    ∃ part ≠ .start, draft.readPieces numbers (backgroundPieces steps ++ rest) =
      ({ draft with
        feature := { draft.feature with background := Step.placeAll numbers.tail steps }
        part := part } : Draft).readPieces (numbers.drop (backgroundPieces steps).length) rest := by
  have hsame : ({ draft.feature with background := [] } : Feature) = draft.feature := by
    rw [← hnone]
  cases steps with
  | nil =>
    refine ⟨draft.part, hpart, ?_⟩
    rw [Step.placeAll, hsame]
    rfl
  | cons step others =>
    have hread : draft.readPiece (numbers.headD 0) (.line "Background:") =
        .ok { draft with
          feature := { draft.feature with background := [] }, part := .background } := by
      refine readPiece_line hopen hpart Line.ofText_background ?_
      rw [hsame]
      simp [addLine, hscenarios, hnone]
    have hall := (takesSteps_background hopen).readPieces_steps hsteps [] numbers.tail rest
    have hpieces : backgroundPieces (step :: others) =
        .line "Background:" :: (step :: others).flatMap Step.pieces := rfl
    refine ⟨.background, by simp, ?_⟩
    rw [hpieces, List.cons_append, readPieces_cons hread, List.length_cons, ← List.drop_tail]
    exact hall

theorem readPieces_feature {feature : Feature} (h : feature.IsPrintable) (numbers : List Nat) :
    ∃ part ≠ .start, ({} : Draft).readPieces numbers feature.pieces =
      .ok { feature := feature.place numbers, part } := by
  let later := numbers.drop (tagPieces feature.tags).length
  let begun : Draft :=
    { feature := { title := feature.title, tags := feature.tags }, part := .feature }
  have htitle : ({ tags := feature.tags } : Draft).readPiece (later.headD 0)
      (.line (titleLine "Feature" feature.title)) = .ok begun := by
    simp only [readPiece, Line.ofText_feature h.title.trim_eq]
    rfl
  let described : Draft :=
    { begun with feature := { begun.feature with description := feature.description } }
  have hdescription := readPieces_description begun rfl rfl h.description later.tail
  let behind := later.tail.drop feature.description.length
  obtain ⟨part, hpart, hbackground⟩ := readPieces_background described rfl
    (by simp [described, begun]) rfl rfl h.background behind
    (feature.scenarios.flatMap Scenario.pieces)
  let founded : Draft := { described with
    feature := { described.feature with
      background := Step.placeAll behind.tail feature.background }
    part }
  obtain ⟨last, hlast, hscenarios⟩ := readPieces_scenarios founded rfl hpart rfl h.scenarios
    (behind.drop (backgroundPieces feature.background).length)
  refine ⟨last, hlast, ?_⟩
  rw [Feature.pieces, readPieces_tags rfl rfl h.tags, readPieces_cons htitle, hdescription]
  refine hbackground.trans (hscenarios.trans ?_)
  have hbehind : behind =
      numbers.drop ((tagPieces feature.tags).length + 1 + feature.description.length) := by
    simp only [behind, later, List.drop_tail, List.drop_drop]
    congr 1
    omega
  simp [founded, described, begun, Feature.place, hbehind]

end Feature.Draft

/-! ### Whole files -/

theorem Scenario.map_examples_placeAll (numbers : List Nat) (scenarios : List Scenario) :
    (Scenario.placeAll numbers scenarios).map Scenario.examples =
      scenarios.map Scenario.examples := by
  induction scenarios generalizing numbers with
  | nil => rfl
  | cons scenario rest ih => rw [placeAll, List.map_cons, List.map_cons, ih]; rfl

theorem Feature.Draft.finish_place {feature : Feature} (h : feature.IsPrintable)
    (numbers : List Nat) {part : Part} (hpart : part ≠ .start) :
    ({ feature := feature.place numbers, part } : Draft).finish = .ok (feature.place numbers) := by
  have hbare : ({ feature := feature.place numbers, part } : Draft).bareOutline? = none := by
    rw [bareOutline?, List.find?_eq_none]
    intro scenario hscenario
    have hmem : scenario.examples ∈ feature.scenarios.map Scenario.examples := by
      rw [← Scenario.map_examples_placeAll]
      exact List.mem_map_of_mem hscenario
    obtain ⟨original, horiginal, heq⟩ := List.mem_map.1 hmem
    rw [← heq]
    cases hexamples : original.examples with
    | none => simp
    | some examples =>
      have hrows := ((h.scenarios original horiginal).examples _ hexamples).rows_ne_nil
      simpa using hrows
  simp only [finish, if_neg hpart, hbare]

/-- **A printed feature is read back.** Whatever the layout of its pieces, with blank lines and
comments between and below them and with either line ending, reading the file gives the feature,
each step and scenario on its line. -/
theorem Feature.parse_layout {feature : Feature} (hfeature : feature.IsPrintable) {layout : Layout}
    (hpieces : layout.map Prod.snd = feature.pieces)
    (hfits : ∀ pair ∈ layout, pair.1.Fits pair.2) {below : List Text}
    (hbelow : ∀ line ∈ below, Line.IsIgnorable line) :
    (∀ source, Text.lines source = layout.lines ++ below →
      Feature.parse source = .ok (feature.place (layout.numbers 0))) ∧
    ∀ ending, ending = ['\n'] ∨ ending = ['\r', '\n'] →
      Text.lines ((layout.lines ++ below).flatMap (· ++ ending)) = layout.lines ++ below := by
  have hsound : layout.IsSound := by
    intro pair hpair
    refine ⟨hfits pair hpair, hfeature.isSound_pieces _ ?_⟩
    rw [← hpieces]
    exact List.mem_map_of_mem hpair
  refine ⟨fun source hsource => ?_, fun ending hending => ?_⟩
  · obtain ⟨part, hpart, hread⟩ := Draft.readPieces_feature hfeature (layout.numbers 0)
    rw [← hpieces] at hread
    have hlayout := Draft.readAll_layout hsound hread below
    let last : Draft := { feature := feature.place (layout.numbers 0), part }
    have hopen : last.docString = none := rfl
    have hall := Draft.readAll_ignorable hopen hbelow (0 + layout.lines.length + 1) []
    rw [List.append_nil] at hall
    rw [Feature.parse, hsource, Feature.ofLines, hlayout, hall]
    exact Draft.finish_place hfeature _ hpart
  · refine Text.lines_flatMap ?_ hending
    intro line hline
    rcases List.mem_append.1 hline with hlaid | hignored
    · exact Layout.isLine_of_mem_lines hsound hlaid
    · exact (hbelow line hignored).isLine

/-- A feature with pieces of all kinds. -/
def shopFeature : Feature where
  title := "Shop"
  description := ["As a guest I want to buy"]
  tags := ["shop", "slow"]
  background := [
    { keyword := .given, text := "these goods", line := 0
      argument := some (.table [["name", "price"], ["tea", ""]]) }]
  scenarios := [
    { title := "Receipt", tags := ["print"], examples := none, line := 0
      steps := [
        { keyword := .outcome, text := "I read", line := 0
          argument := some (.docString "Thanks\n\n  Bye") }] },
    { title := "Prices", tags := [], line := 0
      steps := [{ keyword := .conjunction, text := "I see <price>", argument := none, line := 0 }]
      examples := some { header := ["price"], rows := [["1"], ["2"]] } }]

/-- A layout of it: comments and blank lines stand above each third piece, all pieces but the first
two are indented, and the text keeps its empty line empty. -/
def shopLayout : Layout :=
  shopFeature.pieces.mapIdx fun i piece =>
    ({ above := if i % 3 = 0 then ["# next", ""] else []
       indent := if i < 2 then [] else "  "
       inner := fun | 1 => [] | _ => " \t"
       closing := "\t" }, piece)

theorem shopFeature_isPrintable : shopFeature.IsPrintable := by
  refine ⟨by decide +kernel, by decide +kernel, by decide +kernel, ?_, ?_⟩
  · simp only [shopFeature, List.forall_mem_singleton]
    refine ⟨by decide +kernel, ?_⟩
    rintro _ ⟨⟩
    exact ⟨⟨by simp, 2, by decide, by simp⟩, by decide +kernel⟩
  · simp only [shopFeature, List.forall_mem_cons]
    refine ⟨⟨by decide +kernel, by decide +kernel, ?_, by simp⟩,
      ⟨by decide +kernel, by simp, ?_, ?_⟩, by simp⟩
    · rw [List.forall_mem_singleton]
      refine ⟨by decide +kernel, ?_⟩
      rintro _ ⟨⟩
      exact (by decide +kernel : ∀ line ∈ ("Thanks\n\n  Bye" : Text).splitOn '\n',
        Line.isDocStringMark line = false ∧ Text.endsWith line '\r' = false)
    · rw [List.forall_mem_singleton]
      exact ⟨by decide +kernel, by simp⟩
    · rintro _ ⟨⟩
      exact ⟨by decide +kernel, by simp, by decide +kernel⟩

/-- The file ends with a comment, and its lines end in carriage returns. -/
theorem Feature.parse_shop :
    shopFeature.IsPrintable ∧ shopLayout.map Prod.snd = shopFeature.pieces ∧
    (∀ pair ∈ shopLayout, pair.1.Fits pair.2) ∧
    (∀ line ∈ ([" # end"] : List Text), Line.IsIgnorable line) ∧
    Feature.parse ((shopLayout.lines ++ ([" # end"] : List Text)).flatMap (· ++ ['\r', '\n'])) =
      .ok (shopFeature.place
        [3, 4, 5, 8, 9, 10, 13, 14, 15, 18, 19, 24, 27, 28, 29, 32, 33]) := by
  have hpieces : shopLayout.map Prod.snd = shopFeature.pieces := by decide +kernel
  have hfits : ∀ pair ∈ shopLayout, pair.1.Fits pair.2 := by decide +kernel
  have hbelow : ∀ line ∈ ([" # end"] : List Text), Line.IsIgnorable line := by decide +kernel
  obtain ⟨hparse, hlines⟩ :=
    Feature.parse_layout shopFeature_isPrintable hpieces hfits hbelow
  refine ⟨shopFeature_isPrintable, hpieces, hfits, hbelow, ?_⟩
  rw [hparse _ (hlines _ (.inr rfl))]
  decide +kernel

end FeatureFixtures
