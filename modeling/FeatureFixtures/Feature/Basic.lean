import FeatureFixtures.Text.Basic

/-!
# Features

A feature describes the wanted behaviour of a program by scenarios. A scenario is a list of steps;
an outline is a scenario whose steps hold placeholders, together with a table of examples that gives
their values row by row. Background steps come before those of every scenario. Each step remembers
the line it was read from, which later names the tables that belong to it.
-/

namespace FeatureFixtures

/-- The word that opens a step. -/
inductive StepKeyword where
  | given
  | whenever
  | outcome
  | conjunction
  | contrast
deriving DecidableEq, Repr, Inhabited

namespace StepKeyword

/-- All keywords, in the order in which a line is tried for them. -/
def all : List StepKeyword :=
  [given, whenever, outcome, conjunction, contrast]

/-- The spelling of a keyword in a feature file. -/
def spelling : StepKeyword → Text
  | given => "Given"
  | whenever => "When"
  | outcome => "Then"
  | conjunction => "And"
  | contrast => "But"

/-- Whether a keyword continues the step before it. -/
def continues : StepKeyword → Bool
  | conjunction | contrast => true
  | given | whenever | outcome => false

end StepKeyword

/-- What a step carries besides its text. -/
inductive StepArgument where
  /-- Rows of cells; the first row names the columns. -/
  | table (rows : List (List Text))
  /-- A text of several lines. -/
  | docString (text : Text)
deriving DecidableEq, Repr, Inhabited

/-- One step of a scenario or a background. -/
structure Step where
  keyword : StepKeyword
  text : Text
  argument : Option StepArgument
  line : Nat
deriving DecidableEq, Repr, Inhabited

/-- The examples of an outline: the placeholders' names and a row of values per example. -/
structure Examples where
  header : List Text := []
  rows : List (List Text) := []
deriving DecidableEq, Repr, Inhabited

/-- A scenario, which is an outline when it has examples. -/
structure Scenario where
  title : Text
  tags : List Text
  steps : List Step
  examples : Option Examples
  line : Nat
deriving DecidableEq, Repr, Inhabited

/-- A feature. -/
structure Feature where
  title : Text := []
  description : List Text := []
  tags : List Text := []
  background : List Step := []
  scenarios : List Scenario := []
deriving DecidableEq, Repr, Inhabited

/-- Whether a scenario is an outline. -/
def Scenario.isOutline (scenario : Scenario) : Bool :=
  scenario.examples.isSome

end FeatureFixtures
