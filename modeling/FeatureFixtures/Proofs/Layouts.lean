import FeatureFixtures.Feature.Parser
import FeatureFixtures.Proofs.PrintedLines
import FeatureFixtures.Proofs.Results
/-!
# Layouts

What stands in a feature file is a sequence of pieces: single lines, and texts of several lines
between their marks. A layout puts each piece into the file, behind blank lines and comments and
behind some indentation. A text of several lines keeps its own spaces, so its lines are indented as
its opening mark is. However pieces are laid out, reading the file reads the pieces one after the
other, and the layout decides nothing but the numbers of their lines.
-/

namespace FeatureFixtures

/-- A piece of a feature file. -/
inductive Piece where
  | line (written : Text)
  /-- The lines of a text, to stand between two marks. -/
  | docString (content : List Text)
deriving DecidableEq, Repr, Inhabited

/-- The lines between two marks. -/
def Piece.content : Piece → List Text
  | line _ => []
  | docString content => content

/-- A piece whose lines are found again in a file. A single line does not open a text, and no line
of a text closes it. -/
def Piece.IsSound : Piece → Prop
  | line written => Text.IsLine written ∧ ∀ indent, Line.ofText written ≠ .docString indent
  | docString content => ∀ line ∈ content, Text.IsLine line ∧ Line.isDocStringMark line = false

theorem Piece.isSound_line {written : Text} {form : Line} (hline : Text.IsLine written)
    (hform : Line.ofText written = form) (hmark : ∀ indent, form ≠ .docString indent) :
    (line written).IsSound :=
  ⟨hline, hform.symm ▸ hmark⟩

/-- How a piece is put into a file. -/
structure Margin where
  /-- The blank lines and comments before it. -/
  above : List Text := []
  /-- What stands before it on its first line. -/
  indent : Text := []
  /-- What stands before each line between two marks. -/
  inner : Nat → Text := fun _ => indent
  /-- What stands before the closing mark. -/
  closing : Text := indent

/-- The lines of a piece in a file. -/
def Piece.lines (margin : Margin) : Piece → List Text
  | line written => [margin.indent ++ written]
  | docString content =>
    (margin.indent ++ Line.docStringMark) ::
      (content.mapIdx fun i written => margin.inner i ++ written) ++
        [margin.closing ++ Line.docStringMark]

/-- A margin that changes nothing of a piece. A line between two marks is indented as far as the
opening mark, or less far if it does not begin with a space or a tab itself. -/
structure Margin.Fits (margin : Margin) (piece : Piece) : Prop where
  above : ∀ line ∈ margin.above, Line.IsIgnorable line
  indent : Line.IsIndentation margin.indent
  inner : ∀ i (h : i < piece.content.length),
    Line.IsIndentation (margin.inner i) ∧ (margin.inner i).length ≤ margin.indent.length ∧
      ((margin.inner i).length = margin.indent.length ∨
        piece.content[i].head?.any Line.isIndent = false)
  closing : Line.IsIndentation margin.closing

instance (margin : Margin) (piece : Piece) : Decidable (margin.Fits piece) :=
  decidable_of_iff
    ((∀ line ∈ margin.above, Line.IsIgnorable line) ∧ Line.IsIndentation margin.indent ∧
      (∀ i (h : i < piece.content.length),
        Line.IsIndentation (margin.inner i) ∧ (margin.inner i).length ≤ margin.indent.length ∧
          ((margin.inner i).length = margin.indent.length ∨
            piece.content[i].head?.any Line.isIndent = false)) ∧
      Line.IsIndentation margin.closing)
    ⟨fun h => ⟨h.1, h.2.1, h.2.2.1, h.2.2.2⟩, fun h => ⟨h.above, h.indent, h.inner, h.closing⟩⟩

/-- Pieces, each with its margin. -/
abbrev Layout := List (Margin × Piece)

namespace Layout

/-- The lines of pieces in a file. -/
def lines (layout : Layout) : List Text :=
  layout.flatMap fun (margin, piece) => margin.above ++ piece.lines margin

/-- The numbers of the lines on which pieces begin, if those before them go up to a number. -/
def numbers (before : Nat) : Layout → List Nat
  | [] => []
  | (margin, piece) :: rest =>
    let number := before + margin.above.length + 1
    number :: numbers (before + margin.above.length + (piece.lines margin).length) rest

/-- A layout of pieces that are found again. -/
def IsSound (layout : Layout) : Prop :=
  ∀ pair ∈ layout, pair.1.Fits pair.2 ∧ pair.2.IsSound

theorem lines_cons (margin : Margin) (piece : Piece) (rest : Layout) :
    lines ((margin, piece) :: rest) = margin.above ++ (piece.lines margin ++ lines rest) := by
  simp [lines]

theorem isLine_of_mem_lines {layout : Layout} (h : layout.IsSound) {line : Text}
    (hline : line ∈ layout.lines) : Text.IsLine line := by
  obtain ⟨⟨margin, piece⟩, hmem, hline⟩ := List.mem_flatMap.1 hline
  obtain ⟨hfits, hsound⟩ := h _ hmem
  have hmark : Text.IsLine Line.docStringMark := by decide
  rcases List.mem_append.1 hline with habove | hpiece
  · exact (hfits.above line habove).isLine
  · cases piece with
    | line written =>
      rw [List.mem_singleton.1 hpiece]
      exact hfits.indent.isLine_append hsound.1
    | docString content =>
      simp only [Piece.lines, List.cons_append, List.mem_cons, List.mem_append, List.not_mem_nil,
        or_false] at hpiece
      rcases hpiece with rfl | hinner | rfl
      · exact hfits.indent.isLine_append hmark
      · obtain ⟨i, hi, rfl⟩ := List.mem_mapIdx.1 hinner
        exact (hfits.inner i hi).1.isLine_append (hsound _ (List.getElem_mem hi)).1
      · exact hfits.closing.isLine_append hmark

end Layout

/-! ### Reading pieces -/

namespace Feature.Draft

/-- Reads one piece, which begins on the given line. No piece is read within an open text. -/
def readPiece (draft : Draft) (number : Nat) (piece : Piece) : Except Fault Draft :=
  match draft.docString, piece with
  | some _, _ => .error .openDocString
  | none, .line written =>
    if draft.part = .start then draft.addFirstLine (Text.trim written) (Line.ofText written)
    else draft.addLine number (Text.trim written) (Line.ofText written)
  | none, .docString content =>
    draft.changeStep .docStringWithoutStep (·.addDocString (Text.join ['\n'] content))

/-- Reads pieces, which begin on the given lines. -/
def readPieces (draft : Draft) : List Nat → List Piece → Except Fault Draft
  | _, [] => .ok draft
  | numbers, piece :: rest => do
    (← draft.readPiece (numbers.headD 0) piece).readPieces numbers.tail rest

variable {draft next : Draft}

theorem readAll_cons {number : Nat} {line : Text} (h : draft.read number line = .ok next)
    (rest : List Text) :
    draft.readAll number (line :: rest) = next.readAll (number + 1) rest := by
  rw [readAll, h]
  rfl

theorem readAll_ignorable (hopen : draft.docString = none) {above : List Text}
    (h : ∀ line ∈ above, Line.IsIgnorable line) (number : Nat) (rest : List Text) :
    draft.readAll number (above ++ rest) = draft.readAll (number + above.length) rest := by
  induction above generalizing number with
  | nil => rfl
  | cons line others ih =>
    rw [List.forall_mem_cons] at h
    have hread : draft.read number line = .ok draft := by
      rw [read, hopen, Line.ofText_of_isIgnorable h.1]
      simp [addFirstLine, addLine, Except.mapError]
    rw [List.cons_append, readAll_cons hread, ih h.2, List.length_cons, Nat.add_assoc,
      Nat.add_comm 1]

theorem readAll_content {opened : OpenDocString} (hopen : draft.docString = some opened)
    {content : List Text} (h : ∀ line ∈ content, Line.isDocStringMark line = false) (number : Nat)
    (rest : List Text) :
    draft.readAll number (content ++ rest) =
      { draft with docString := some { opened with
          content := (content.map (Line.unindent opened.indent)).reverse ++ opened.content } : Draft
      }.readAll (number + content.length) rest := by
  induction content generalizing draft opened number with
  | nil =>
    obtain ⟨feature, part, tags, docString⟩ := draft
    cases hopen
    rfl
  | cons line others ih =>
    rw [List.forall_mem_cons] at h
    have hread : draft.read number line = .ok { draft with docString := some { opened with
        content := Line.unindent opened.indent line :: opened.content } } := by
      simp [read, hopen, h.1]
    rw [List.cons_append, readAll_cons hread, ih rfl h.2, List.length_cons, Nat.add_assoc,
      Nat.add_comm 1]
    simp

theorem isDocStringMark_inner {margin : Margin} {content : List Text}
    (hfits : margin.Fits (.docString content)) (hsound : (Piece.docString content).IsSound) :
    ∀ line ∈ content.mapIdx fun i written => margin.inner i ++ written,
      Line.isDocStringMark line = false := by
  intro line hline
  obtain ⟨i, hi, rfl⟩ := List.mem_mapIdx.1 hline
  rw [(hfits.inner i hi).1.isDocStringMark_append]
  exact (hsound _ (List.getElem_mem hi)).2

theorem unindent_inner {margin : Margin} {content : List Text}
    (hfits : margin.Fits (.docString content)) :
    (content.mapIdx fun i written => margin.inner i ++ written).map
      (Line.unindent margin.indent.length) = content := by
  refine List.ext_getElem (by simp) fun i _ hi => ?_
  obtain ⟨hindent, hle, hline⟩ := hfits.inner i hi
  simpa [Piece.content] using Line.unindent_append hindent hle hline

theorem readAll_docString (hopen : draft.docString = none) (hpart : draft.part ≠ .start)
    {margin : Margin} {content : List Text} (hfits : margin.Fits (.docString content))
    (hsound : (Piece.docString content).IsSound)
    (h : draft.changeStep .docStringWithoutStep
      (·.addDocString (Text.join ['\n'] content)) = .ok next) (number : Nat) (rest : List Text) :
    draft.readAll number ((Piece.docString content).lines margin ++ rest) =
      next.readAll (number + ((Piece.docString content).lines margin).length) rest := by
  have hfirst : draft.read number (margin.indent ++ Line.docStringMark) =
      .ok { draft with docString := some ⟨number, margin.indent.length, []⟩ } := by
    rw [read, hopen]
    dsimp only
    rw [if_neg hpart, hfits.indent.ofText_docStringMark]
    rfl
  have hlast (n : Nat) :
      ({ draft with docString := some ⟨number, margin.indent.length, content.reverse⟩ } :
        Draft).read n (margin.closing ++ Line.docStringMark) = .ok next := by
    have hmark : Line.isDocStringMark (margin.closing ++ Line.docStringMark) = true := by
      rw [hfits.closing.isDocStringMark_append]
      rfl
    have hclosed : ({ draft with docString := none } : Draft) = draft := by
      rw [← hopen]
    simp only [read, hmark, if_true, closeDocString, List.reverse_reverse, hclosed, h]
    rfl
  rw [Piece.lines, List.append_assoc, List.cons_append, readAll_cons hfirst,
    readAll_content rfl (isDocStringMark_inner hfits hsound), unindent_inner hfits,
    List.append_nil, List.singleton_append, readAll_cons (hlast _)]
  congr 1
  simp
  omega

theorem readAll_piece {margin : Margin} {piece : Piece} (hfits : margin.Fits piece)
    (hsound : piece.IsSound) {number : Nat} (h : draft.readPiece number piece = .ok next)
    (rest : List Text) :
    draft.readAll number (piece.lines margin ++ rest) =
      next.readAll (number + (piece.lines margin).length) rest := by
  cases hopen : draft.docString with
  | some opened => simp [readPiece, hopen] at h
  | none =>
    cases piece with
    | line written =>
      simp only [readPiece, hopen] at h
      refine readAll_cons ?_ rest
      rw [read, hopen]
      dsimp only
      rw [hfits.indent.trim_append, hfits.indent.ofText_append hsound.2, h]
      rfl
    | docString content =>
      simp only [readPiece, hopen] at h
      -- The text is given to a step, so the feature line has been read.
      have hpart : draft.part ≠ .start := by
        intro hstart
        rw [changeStep, hstart] at h
        cases h
      exact readAll_docString hopen hpart hfits hsound h number rest

/-- Reading a layout reads its pieces one after the other. -/
theorem readAll_layout {layout : Layout} (hlayout : layout.IsSound) {before : Nat}
    (h : draft.readPieces (layout.numbers before) (layout.map Prod.snd) = .ok next)
    (rest : List Text) :
    draft.readAll (before + 1) (layout.lines ++ rest) =
      next.readAll (before + layout.lines.length + 1) rest := by
  induction layout generalizing draft before with
  | nil =>
    cases h
    rfl
  | cons pair others ih =>
    obtain ⟨margin, piece⟩ := pair
    obtain ⟨⟨hfits, hsound⟩, hothers⟩ := List.forall_mem_cons.1 hlayout
    obtain ⟨middle, hpiece, h⟩ := bind_eq_ok_iff.1 h
    change draft.readPiece (before + margin.above.length + 1) piece = .ok middle at hpiece
    have hopen : draft.docString = none := by
      cases hopen : draft.docString with
      | none => rfl
      | some opened => simp [readPiece, hopen] at hpiece
    have hnumber : before + 1 + margin.above.length = before + margin.above.length + 1 := by omega
    have hnext : before + margin.above.length + 1 + (piece.lines margin).length =
        before + margin.above.length + (piece.lines margin).length + 1 := by omega
    have hlength : (Layout.lines ((margin, piece) :: others)).length =
        margin.above.length + (piece.lines margin).length + (Layout.lines others).length := by
      simp [Layout.lines_cons, Nat.add_assoc]
    rw [hlength, Layout.lines_cons, List.append_assoc, List.append_assoc,
      readAll_ignorable hopen hfits.above, hnumber, readAll_piece hfits hsound hpiece, hnext,
      ih hothers h]
    congr 1
    omega

end Feature.Draft

end FeatureFixtures
