import FeatureFixtures.Feature.Basic

/-!
# Examples as scenarios

Every row of an outline's examples stands for one plain scenario: the outline with the row's values
in place of the placeholders. A placeholder is a column name between angle brackets. The columns are
replaced one after the other, from the first to the last. The row that names the columns of a step's
table is kept as it is written.
-/

namespace FeatureFixtures

/-- The values of an example, each with the name of its placeholder. -/
abbrev Values := List (Text × Text)

/-- A column name as a placeholder. -/
def placeholder (name : Text) : Text :=
  '<' :: name ++ ['>']

/-- A text with the values in place of the placeholders, column after column. -/
def Values.fill (values : Values) (t : Text) : Text :=
  values.foldl (fun filled (name, value) => Text.replaceAll (placeholder name) value filled) t

/-- A step's argument with the values filled in. -/
def StepArgument.fill (values : Values) : StepArgument → StepArgument
  | .docString text => .docString (values.fill text)
  | .table [] => .table []
  | .table (header :: rows) => .table (header :: rows.map (·.map values.fill))

/-- A step with the values filled in. -/
def Step.fill (values : Values) (step : Step) : Step :=
  { step with text := values.fill step.text, argument := step.argument.map (·.fill values) }

/-- A scenario with the values filled in, as a plain scenario. -/
def Scenario.fill (values : Values) (scenario : Scenario) : Scenario :=
  { scenario with
    title := values.fill scenario.title
    steps := scenario.steps.map (·.fill values)
    examples := none }

/-- The values of the examples, one list per row. -/
def Examples.values (examples : Examples) : List Values :=
  examples.rows.map examples.header.zip

/-- The plain scenarios that a scenario stands for: itself, or one per example. -/
def Scenario.instances (scenario : Scenario) : List Scenario :=
  match scenario.examples with
  | none => [scenario]
  | some examples => examples.values.map scenario.fill

end FeatureFixtures
