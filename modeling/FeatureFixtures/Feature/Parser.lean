import FeatureFixtures.Feature.Line
import FeatureFixtures.Text.Lines

/-!
# Reading a feature file

A file is read as one pass over its numbered lines. What has been read so far is a draft: the
feature, the part of the file that the next line belongs to, the tags that wait for their keyword,
and a text of several lines that is still open. Every line either extends the draft or is refused
with its cause and its number, so the first refused line decides the error. Two faults can be told
only at the end of the file: that it has no feature, and that an outline has no examples.
-/

namespace FeatureFixtures

/-- Why a feature file is refused. -/
inductive Feature.Fault where
  | secondFeature
  | featureExpected (found : Text)
  | misplacedBackground
  | misplacedExamples
  | invalidTag (tag : Text)
  | openRow
  | rowOutsideExamples
  | rowWithoutStep
  | rowWidth (expected found : Nat)
  | rowAfterDocString
  | misplacedRow
  | openDocString
  | docStringWithoutStep
  | secondArgument
  | stepAfterExamples
  | misplacedStep
  | unexpectedLine (found : Text)
  | noFeature
  | outlineWithoutExamples (title : Text)
deriving DecidableEq, Repr, Inhabited

/-- The wording of a fault. -/
def Feature.Fault.message : Feature.Fault → Text
  | .secondFeature => "only one 'Feature:' is allowed per file"
  | .featureExpected found => "expected 'Feature:', found '" ++ found ++ "'"
  | .misplacedBackground => "'Background:' must come once, before the first scenario"
  | .misplacedExamples => "'Examples:' is only allowed in a scenario outline"
  | .invalidTag tag => "invalid tag '" ++ tag ++ "'"
  | .openRow => "table row must start and end with '|'"
  | .rowOutsideExamples => "table row outside of examples"
  | .rowWithoutStep => "table row without a step"
  | .rowWidth expected found =>
    "expected " ++ Text.ofNat expected ++ " cells, found " ++ Text.ofNat found
  | .rowAfterDocString => "a step cannot have both a doc string and a table"
  | .misplacedRow => "unexpected table row"
  | .openDocString => "unterminated doc string"
  | .docStringWithoutStep => "doc string without a step"
  | .secondArgument => "a step can only have one argument"
  | .stepAfterExamples => "steps are not allowed after 'Examples:'"
  | .misplacedStep => "step outside of a scenario or background"
  | .unexpectedLine found => "unexpected line '" ++ found ++ "'"
  | .noFeature => "file does not contain a 'Feature:'"
  | .outlineWithoutExamples title => "scenario outline '" ++ title ++ "' has no examples"

/-- A fault together with the line it is found on, if it belongs to one. -/
structure Feature.ParseError where
  line : Option Nat
  fault : Feature.Fault
deriving DecidableEq, Repr, Inhabited

/-- Changes the last element of a list; a list without one is refused. -/
def changeLast {α ε : Type} (absent : ε) (change : α → Except ε α) :
    List α → Except ε (List α)
  | [] => .error absent
  | [x] => (change x).map ([·])
  | x :: y :: rest => (changeLast absent change (y :: rest)).map (x :: ·)

/-- The name of a tag, which is the word after its sign. -/
def tagName (word : Text) : Except Feature.Fault Text :=
  match word with
  | '@' :: c :: name => .ok (c :: name)
  | _ => .error (.invalidTag word)

/-- A table row as examples take it: the first row names the placeholders, a repetition of it begins
another block of the same columns, and any other row of the same width is an example. -/
def Examples.addRow (examples : Examples) (cells : List Text) : Except Feature.Fault Examples :=
  if examples.header.isEmpty then .ok { examples with header := cells }
  else if cells = examples.header then .ok examples
  else if cells.length ≠ examples.header.length then
    .error (.rowWidth examples.header.length cells.length)
  else .ok { examples with rows := examples.rows ++ [cells] }

/-- A table row as a step takes it: every row is as wide as the first one. -/
def Step.addRow (step : Step) (cells : List Text) : Except Feature.Fault Step :=
  match step.argument with
  | none => .ok { step with argument := some (.table [cells]) }
  | some (.docString _) => .error .rowAfterDocString
  | some (.table rows) =>
    let width := (rows.headD []).length
    if cells.length ≠ width then .error (.rowWidth width cells.length)
    else .ok { step with argument := some (.table (rows ++ [cells])) }

/-- A text of several lines as a step takes it. -/
def Step.addDocString (step : Step) (text : Text) : Except Feature.Fault Step :=
  match step.argument with
  | none => .ok { step with argument := some (.docString text) }
  | some _ => .error .secondArgument

namespace Feature

/-- The part of a file that the next line belongs to. -/
inductive Part where
  | start
  | feature
  | background
  | scenario
  | examples
deriving DecidableEq, Repr, Inhabited

/-- A text of several lines that is still open: the line that opened it, the width of the
indentation to take off, and the lines read so far, the last one first. -/
structure OpenDocString where
  line : Nat
  indent : Nat
  content : List Text
deriving DecidableEq, Repr, Inhabited

/-- What has been read of a file. -/
structure Draft where
  feature : Feature := {}
  part : Part := .start
  tags : List Text := []
  docString : Option OpenDocString := none
deriving DecidableEq, Repr, Inhabited

namespace Draft

/-- Changes the step read last in the part that is being read. -/
def changeStep (draft : Draft) (absent : Fault) (change : Step → Except Fault Step) :
    Except Fault Draft := do
  match draft.part with
  | .background =>
    let steps ← changeLast absent change draft.feature.background
    return { draft with feature := { draft.feature with background := steps } }
  | .scenario =>
    let scenarios ← changeLast absent (fun scenario => do
      return { scenario with steps := ← changeLast absent change scenario.steps })
      draft.feature.scenarios
    return { draft with feature := { draft.feature with scenarios := scenarios } }
  | _ => .error absent

/-- Begins a scenario, which takes the tags that wait. -/
def beginScenario (draft : Draft) (number : Nat) (title : Text) (examples : Option Examples) :
    Draft :=
  let scenario : Scenario := { title, tags := draft.tags, steps := [], examples, line := number }
  { draft with
    feature := { draft.feature with scenarios := draft.feature.scenarios ++ [scenario] }
    part := .scenario
    tags := [] }

/-- Whether the scenario read last is an outline. -/
def inOutline (draft : Draft) : Bool :=
  draft.feature.scenarios.getLast?.any Scenario.isOutline

/-- Adds a closed table row. -/
def addRow (draft : Draft) (cells : List Text) : Except Fault Draft := do
  match draft.part with
  | .examples =>
    let scenarios ← changeLast .rowOutsideExamples (fun scenario =>
      match scenario.examples with
      | some examples => do
        return { scenario with examples := some (← examples.addRow cells) }
      | none => .error .rowOutsideExamples) draft.feature.scenarios
    return { draft with feature := { draft.feature with scenarios := scenarios } }
  | .background | .scenario => draft.changeStep .rowWithoutStep (·.addRow cells)
  | _ => .error .misplacedRow

/-- Adds a step. -/
def addStep (draft : Draft) (step : Step) : Except Fault Draft :=
  match draft.part with
  | .background =>
    .ok { draft with
      feature := { draft.feature with background := draft.feature.background ++ [step] } }
  | .scenario => do
    let scenarios ← changeLast .misplacedStep
      (fun scenario => .ok { scenario with steps := scenario.steps ++ [step] })
      draft.feature.scenarios
    return { draft with feature := { draft.feature with scenarios := scenarios } }
  | .examples => .error .stepAfterExamples
  | .start | .feature => .error .misplacedStep

/-- Adds a line of a file in which the feature line has been read; `written` is the line without the
blanks at its ends. -/
def addLine (draft : Draft) (number : Nat) (written : Text) : Line → Except Fault Draft
  | .ignored => .ok draft
  | .tags words => do
    return { draft with tags := draft.tags ++ (← words.mapM tagName) }
  | .feature _ => .error .secondFeature
  | .background =>
    if draft.feature.scenarios.isEmpty && draft.feature.background.isEmpty then
      .ok { draft with part := .background }
    else .error .misplacedBackground
  | .outline title => .ok (draft.beginScenario number title (some {}))
  | .scenario title => .ok (draft.beginScenario number title none)
  | .examples =>
    if draft.inOutline && (draft.part = .scenario || draft.part = .examples) then
      .ok { draft with part := .examples, tags := [] }
    else .error .misplacedExamples
  | .row none => .error .openRow
  | .row (some cells) => draft.addRow cells
  | .docString indent => .ok { draft with docString := some ⟨number, indent, []⟩ }
  | .step keyword text => draft.addStep { keyword, text, argument := none, line := number }
  | .other =>
    if draft.part = .feature then
      .ok { draft with
        feature := { draft.feature with description := draft.feature.description ++ [written] } }
    else .error (.unexpectedLine written)

/-- Adds a line of a file in which the feature line is still awaited. -/
def addFirstLine (draft : Draft) (written : Text) : Line → Except Fault Draft
  | .ignored => .ok draft
  | .tags words => do
    return { draft with tags := draft.tags ++ (← words.mapM tagName) }
  | .feature title =>
    .ok { draft with
      feature := { draft.feature with title, tags := draft.tags }, part := .feature, tags := [] }
  | _ => .error (.featureExpected written)

/-- Closes a text of several lines, given the last one first, and gives it to the step read last. -/
def closeDocString (draft : Draft) (content : List Text) : Except Fault Draft :=
  ({ draft with docString := none } : Draft).changeStep .docStringWithoutStep
    (·.addDocString (Text.join ['\n'] content.reverse))

/-- Reads one line. While a text of several lines is open, the line belongs to it or closes it; a
fault found on closing it is reported on the line that opened it. -/
def read (draft : Draft) (number : Nat) (line : Text) : Except ParseError Draft :=
  match draft.docString with
  | some opened =>
    if Line.isDocStringMark line then
      (draft.closeDocString opened.content).mapError (⟨some opened.line, ·⟩)
    else
      let content := Line.unindent opened.indent line :: opened.content
      .ok { draft with docString := some { opened with content } }
  | none =>
    let added :=
      if draft.part = .start then draft.addFirstLine (Text.trim line) (Line.ofText line)
      else draft.addLine number (Text.trim line) (Line.ofText line)
    added.mapError (⟨some number, ·⟩)

/-- Reads lines, the first of which has the given number. -/
def readAll (draft : Draft) (number : Nat) : List Text → Except ParseError Draft
  | [] => .ok draft
  | line :: rest => do (← draft.read number line).readAll (number + 1) rest

/-- The outline that has no examples, if there is one; of several the first. -/
def bareOutline? (draft : Draft) : Option Scenario :=
  draft.feature.scenarios.find? fun scenario => scenario.examples.any (·.rows.isEmpty)

/-- The feature of a file that has been read to its end. -/
def finish (draft : Draft) : Except ParseError Feature :=
  match draft.docString with
  | some opened => .error ⟨some opened.line, .openDocString⟩
  | none =>
    if draft.part = .start then .error ⟨none, .noFeature⟩
    else match draft.bareOutline? with
      | some scenario => .error ⟨some scenario.line, .outlineWithoutExamples scenario.title⟩
      | none => .ok draft.feature

end Draft

/-- Reads a feature from the lines of a file. -/
def ofLines (lines : List Text) : Except ParseError Feature := do
  (← ({} : Draft).readAll 1 lines).finish

/-- Reads a feature file. -/
def parse (source : Text) : Except ParseError Feature :=
  ofLines (Text.lines source)

end Feature

end FeatureFixtures
