import FeatureFixtures.Proofs.Acceptance
import Mathlib.Data.List.Forall2
/-!
# Blocks of examples

The examples of an outline stand in blocks, each below a line of its own. The first row of a block
names its columns, and the others are its data. The reader does not keep blocks apart: it takes the
first row of all as the header, and tells headers of later blocks from data by comparing them with
that one. So what it makes of an outline are the data of its blocks exactly if every block repeats
the first header, and no row of data does.
-/

namespace FeatureFixtures

theorem splitOnP_append_flatMap {α β : Type} {p : α → Bool} {first : β → α} {body : β → List α}
    {before : List α} {parts : List β} (hbefore : ∀ x ∈ before, p x = false)
    (hfirst : ∀ part ∈ parts, p (first part) = true)
    (hbody : ∀ part ∈ parts, ∀ x ∈ body part, p x = false) :
    (before ++ parts.flatMap fun part => first part :: body part).splitOnP p =
      before :: parts.map body := by
  induction parts generalizing before with
  | nil => rw [List.flatMap_nil, List.append_nil, List.splitOnP_eq_singleton hbefore, List.map_nil]
  | cons part parts ih =>
    rw [List.forall_mem_cons] at hfirst hbody
    rw [List.flatMap_cons, List.cons_append, List.splitOnP_append_cons _ _ hfirst.1,
      List.splitOnP_eq_singleton hbefore, ih hbody.1 hfirst.2 hbody.2]
    rfl

theorem length_flatMap_le_of_isSuffix {α β : Type} {f g : α → List β} {xs : List α}
    (h : ∀ x ∈ xs, g x <:+ f x) : (xs.flatMap g).length ≤ (xs.flatMap f).length := by
  induction xs with
  | nil => exact Nat.le_refl _
  | cons x xs ih =>
    rw [List.forall_mem_cons] at h
    rw [List.flatMap_cons, List.flatMap_cons, List.length_append, List.length_append]
    exact Nat.add_le_add h.1.length_le (ih h.2)

theorem eq_of_flatMap_eq_of_isSuffix {α β : Type} {f g : α → List β} {xs : List α}
    (h : ∀ x ∈ xs, g x <:+ f x) (heq : xs.flatMap f = xs.flatMap g) : ∀ x ∈ xs, f x = g x := by
  induction xs with
  | nil => simp
  | cons x xs ih =>
    rw [List.forall_mem_cons] at h ⊢
    rw [List.flatMap_cons, List.flatMap_cons] at heq
    have hlength := congrArg List.length heq
    rw [List.length_append, List.length_append] at hlength
    have hfirst := h.1.length_le
    have hrest := length_flatMap_le_of_isSuffix h.2
    obtain ⟨hx, hxs⟩ := List.append_inj heq (by omega)
    exact ⟨hx, ih h.2 hxs⟩

/-! ### Blocks among tokens -/

namespace Token

def isHeading : Token → Bool
  | line (.scenario _) | line (.outline _) => true
  | _ => false

def row? : Token → Option (List Text)
  | line (.row cells) => cells
  | _ => none

/-- The blocks of examples among the tokens that stand below a heading. -/
def blocks (tokens : List Token) : List (List (List Text)) :=
  (tokens.splitOnP (· == line .examples)).tail.map (·.filterMap row?)

/-- The blocks of examples of each scenario, in order. -/
def scenarioBlocks (tokens : List Token) : List (List (List (List Text))) :=
  (tokens.splitOnP isHeading).tail.map blocks

theorem filterMap_row?_ofRows (rows : List (List Text)) : (ofRows rows).filterMap row? = rows := by
  simp [ofRows, List.filterMap_map, row?, Function.comp_def]

end Token

theorem Step.below_of_mem_tokens {step : Step} {token : Token} (h : token ∈ step.tokens) :
    token.isHeading = false ∧ (token == .line .examples) = false := by
  unfold tokens at h
  rcases List.mem_cons.1 h with rfl | h
  · exact ⟨rfl, rfl⟩
  · split at h
    · cases h
    · obtain ⟨cells, -, rfl⟩ := List.mem_map.1 h
      exact ⟨rfl, rfl⟩
    · rw [List.mem_singleton.1 h]
      exact ⟨rfl, rfl⟩

namespace WrittenScenario

/-- The tokens below the heading. -/
def body (written : WrittenScenario) : List Token :=
  written.scenario.steps.flatMap Step.tokens ++ written.sections.flatMap Token.ofSection

theorem isHeading_of_mem_body {written : WrittenScenario} {token : Token}
    (h : token ∈ written.body) : token.isHeading = false := by
  rcases List.mem_append.1 h with hsteps | hsections
  · obtain ⟨step, -, hstep⟩ := List.mem_flatMap.1 hsteps
    exact (Step.below_of_mem_tokens hstep).1
  · obtain ⟨rows, -, hrows⟩ := List.mem_flatMap.1 hsections
    rcases List.mem_cons.1 hrows with rfl | hrow
    · rfl
    · obtain ⟨cells, -, rfl⟩ := List.mem_map.1 hrow
      rfl

theorem blocks_body (written : WrittenScenario) : Token.blocks written.body = written.sections := by
  have hsteps : ∀ token ∈ written.scenario.steps.flatMap Step.tokens,
      (token == .line .examples) = false := by
    intro token htoken
    obtain ⟨step, -, hstep⟩ := List.mem_flatMap.1 htoken
    exact (Step.below_of_mem_tokens hstep).2
  have hrows : ∀ rows ∈ written.sections, ∀ token ∈ Token.ofRows rows,
      (token == .line .examples) = false := by
    intro rows _ token htoken
    obtain ⟨cells, -, rfl⟩ := List.mem_map.1 htoken
    rfl
  have hbody : written.body = written.scenario.steps.flatMap Step.tokens ++
      written.sections.flatMap fun rows => .line .examples :: Token.ofRows rows := rfl
  rw [Token.blocks, hbody, splitOnP_append_flatMap hsteps (fun _ _ => by rfl) hrows,
    List.tail_cons, List.map_map]
  simp [Function.comp_def, Token.filterMap_row?_ofRows]

end WrittenScenario

theorem WrittenFile.scenarioBlocks_tokens (file : WrittenFile) :
    Token.scenarioBlocks file.tokens = file.scenarios.map WrittenScenario.sections := by
  -- No heading stands before the first scenario.
  let before : List Token := .line (.feature file.title) ::
    (file.description.map (fun _ => .line .other) ++
      (List.replicate file.backgroundLines (.line .background) ++
        file.background.flatMap Step.tokens))
  have hbefore : ∀ token ∈ before, token.isHeading = false := by
    simp only [before, List.forall_mem_cons, List.forall_mem_append, List.forall_mem_map]
    refine ⟨rfl, fun _ _ => rfl, fun token htoken => ?_, fun token htoken => ?_⟩
    · rw [List.eq_of_mem_replicate htoken]
      rfl
    · obtain ⟨step, -, hstep⟩ := List.mem_flatMap.1 htoken
      exact (Step.below_of_mem_tokens hstep).1
  have htokens : file.tokens = before ++ file.scenarios.flatMap fun written =>
      .line written.scenario.heading :: written.body := by
    simp only [tokens, before, List.cons_append, List.append_assoc]
    rfl
  have hheading : ∀ written ∈ file.scenarios,
      (Token.line written.scenario.heading).isHeading = true := by
    intro written _
    unfold Scenario.heading
    split <;> rfl
  have hbody : ∀ written ∈ file.scenarios, ∀ token ∈ written.body, token.isHeading = false :=
    fun written _ token htoken => written.isHeading_of_mem_body htoken
  rw [Token.scenarioBlocks, htokens, splitOnP_append_flatMap hbefore hheading hbody,
    List.tail_cons, List.map_map]
  simp [Function.comp_def, WrittenScenario.blocks_body]

/-! ### Data of blocks -/

theorem Examples.rows_ofRows (rows : List (List Text)) :
    (ofRows rows).rows = rows.filter (· ≠ (ofRows rows).header) := by
  cases rows with
  | nil => rfl
  | cons header rest => simp [ofRows]

theorem Examples.filter_cons_of_notMem {header first : List Text} {data : List (List Text)}
    (h : header ∉ data) : (first :: data).filter (· ≠ header) =
      if first = header then data else first :: data := by
  have hkept : data.filter (· ≠ header) = data :=
    List.filter_eq_self.2 fun row hrow => by
      simpa using fun hsame : row = header => h (hsame ▸ hrow)
  rw [List.filter_cons, hkept]
  by_cases hfirst : first = header <;> simp [hfirst]

/-- Every block that has rows begins with the header, and does not hold it again. -/
def OpenOnceWith (header : List Text) (blocks : List (List (List Text))) : Prop :=
  ∀ block ∈ blocks, ∀ first data, block = first :: data → first = header ∧ header ∉ data

theorem Examples.rows_ofRows_flatten_eq_iff (blocks : List (List (List Text))) :
    (ofRows blocks.flatten).rows = blocks.flatMap List.tail ↔
      OpenOnceWith (ofRows blocks.flatten).header blocks := by
  rw [rows_ofRows, List.filter_flatten, ← List.flatMap_def]
  generalize (ofRows blocks.flatten).header = header
  constructor
  · intro heq
    have hdata : ∀ block ∈ blocks, header ∉ block.tail := by
      intro block hblock hmem
      have hall : header ∈ blocks.flatMap List.tail := List.mem_flatMap.2 ⟨block, hblock, hmem⟩
      rw [← heq] at hall
      obtain ⟨other, -, hother⟩ := List.mem_flatMap.1 hall
      simpa using (List.mem_filter.1 hother).2
    -- No block loses more than its first row, so in sum nothing else may be kept.
    have hsuffix : ∀ block ∈ blocks, block.tail <:+ block.filter (· ≠ header) := by
      intro block hblock
      cases block with
      | nil => exact List.nil_suffix
      | cons first data =>
        have hnone : header ∉ data := hdata _ hblock
        rw [filter_cons_of_notMem hnone]
        split
        · exact List.suffix_refl data
        · exact List.suffix_cons first data
    rintro block hblock first data rfl
    have hnone : header ∉ data := hdata _ hblock
    have hsame := eq_of_flatMap_eq_of_isSuffix hsuffix heq _ hblock
    rw [filter_cons_of_notMem hnone] at hsame
    refine ⟨?_, hnone⟩
    by_contra hother
    rw [if_neg hother] at hsame
    exact List.cons_ne_self first data hsame
  · intro h
    refine List.flatMap_congr fun block hblock => ?_
    cases block with
    | nil => rfl
    | cons first data =>
      obtain ⟨hfirst, hdata⟩ := h _ hblock first data rfl
      rw [filter_cons_of_notMem hdata, if_pos hfirst, List.tail_cons]

namespace Feature

variable {source : Text} {feature : Feature}

/-- **Rows of blocks as examples.** The examples of an outline that is read are those of its blocks'
rows that differ from the first one, which is the header. They are the data of its blocks, in order,
exactly if every block begins with that header and none holds it again. -/
theorem parse_examples (h : parse source = .ok feature) :
    ∃ tokens, Token.ofSource source = some tokens ∧
      List.Forall₂ (fun scenario blocks => ∀ examples, scenario.examples = some examples →
        examples = .ofRows blocks.flatten ∧
        (examples.rows = blocks.flatMap List.tail ↔ OpenOnceWith examples.header blocks))
        feature.scenarios (Token.scenarioBlocks tokens) := by
  obtain ⟨draft, hread, hclosed, hpart, -, rfl⟩ := exists_draft_of_parse h
  obtain ⟨file, hfile, htokens⟩ := Draft.exists_isReadFrom hread rfl rfl rfl hclosed hpart
  refine ⟨file.tokens, htokens, ?_⟩
  rw [hfile.tells.scenarios, file.scenarioBlocks_tokens, List.forall₂_map_left_iff,
    List.forall₂_map_right_iff, List.forall₂_same]
  intro written hwritten examples hexamples
  have hrows := (hfile.sectioned written hwritten).outline examples hexamples
  subst hrows
  exact ⟨rfl, Examples.rows_ofRows_flatten_eq_iff _⟩

/-- An outline with two blocks of the same columns, which are read as they are meant. -/
theorem parse_examples_two_blocks :
    let source : Text := "Feature: F\nScenario Outline: S\nExamples:\n| a |\n| 1 |\n" ++
      "# more\n@slow\nScenarios:\n| a |\n| 2 |\n| 3 |\n"
    let blocks : List (List (List Text)) := [[["a"], ["1"]], [["a"], ["2"], ["3"]]]
    let examples : Examples := { header := ["a"], rows := [["1"], ["2"], ["3"]] }
    let outline : Scenario :=
      { title := "S", tags := [], steps := [], examples := some examples, line := 2 }
    parse source = .ok { title := "F", scenarios := [outline] } ∧
      (Token.ofSource source).map Token.scenarioBlocks = some [blocks] ∧
      OpenOnceWith examples.header blocks ∧ examples.rows = blocks.flatMap List.tail := by
  intro source blocks examples outline
  have hparse : parse source = .ok { title := "F", scenarios := [outline] } := by decide +kernel
  have hblocks : (Token.ofSource source).map Token.scenarioBlocks = some [blocks] := by
    decide +kernel
  have hopen : OpenOnceWith examples.header blocks := by
    simp [OpenOnceWith, examples, blocks]
  obtain ⟨tokens, htokens, hrows⟩ := parse_examples hparse
  rw [htokens, Option.map_some, Option.some.injEq] at hblocks
  rw [hblocks, List.forall₂_cons] at hrows
  refine ⟨hparse, ?_, hopen, (hrows.1 examples rfl).2.2 hopen⟩
  rw [htokens, Option.map_some, hblocks]

/-- A row of data that repeats the header is lost, and the header of another block is taken as
data. -/
theorem parse_examples_ne_data :
    let repeated : Text := "Feature: F\nScenario Outline: S\nExamples:\n| a |\n| a |\n| 1 |\n"
    let other : Text := "Feature: F\nScenario Outline: S\nExamples:\n| a |\n| 1 |\n" ++
      "Examples:\n| b |\n| 2 |\n"
    let examples (source : Text) := (parse source).toOption.map (·.scenarios.map Scenario.examples)
    let data (source : Text) := (Token.ofSource source).map fun tokens =>
      (Token.scenarioBlocks tokens).map (·.flatMap List.tail)
    (examples repeated = some [some { header := ["a"], rows := [["1"]] }] ∧
      data repeated = some ([[["a"], ["1"]]] : List (List (List Text)))) ∧
    (examples other = some [some { header := ["a"], rows := [["1"], ["b"], ["2"]] }] ∧
      data other = some ([[["1"], ["2"]]] : List (List (List Text)))) := by
  decide +kernel

end Feature

end FeatureFixtures
