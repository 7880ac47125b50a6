import FeatureFixtures.Proofs.Emission
import FeatureFixtures.Proofs.LineEndings
import FeatureFixtures.Proofs.ReadLiterals
/-!
# Literals of joined pieces

A Visual Basic literal is an expression: pieces in quotation marks, with the constant for a line
feed between each two of them. A piece is read up to the first quotation mark that is not doubled,
and the expression tells its pieces with line feeds between them. What is told in this way by the
literal of a text is the text, but for line endings of two characters. The literal holds no line
feed, but it holds every carriage return that no line feed follows.
-/

namespace FeatureFixtures

namespace Literal

/-- A character inside a piece. -/
def doubleQuote (c : Char) : Text :=
  if c = '"' then ['"', '"'] else [c]

/-- A piece of a text in quotation marks, with its own quotation marks doubled. -/
def quoted (piece : Text) : Text :=
  '"' :: (piece.flatMap doubleQuote ++ ['"'])

/-- What joins two pieces with a line feed between them. -/
def joint : Text := " & vbLf & "

/-- Quoted pieces with a line feed between each two of them. -/
def joined (pieces : List Text) : Text :=
  Text.join joint (pieces.map quoted)

/-- The piece that is told from behind its opening quotation mark, and what stands behind the
closing one. -/
def readQuoted : Text → Option (Text × Text)
  | [] => none
  | '"' :: '"' :: rest => (readQuoted rest).map fun (piece, after) => ('"' :: piece, after)
  | '"' :: rest => some ([], rest)
  | c :: rest => (readQuoted rest).map fun (piece, after) => (c :: piece, after)

theorem length_of_readQuoted {t piece after : Text} (h : readQuoted t = some (piece, after)) :
    after.length < t.length := by
  fun_induction readQuoted t generalizing piece with
  | case1 => cases h
  | case2 rest ih =>
    obtain ⟨⟨inner, last⟩, hread, heq⟩ := Option.map_eq_some_iff.1 h
    cases heq
    have := ih hread
    simp only [List.length_cons]
    omega
  | case3 rest _ =>
    cases h
    exact Nat.lt_succ_self _
  | case4 c rest _ _ ih =>
    obtain ⟨⟨inner, last⟩, hread, heq⟩ := Option.map_eq_some_iff.1 h
    cases heq
    exact Nat.lt_succ_of_lt (ih hread)

/-- The pieces of an expression with nothing behind it. -/
def readJoined? (t : Text) : Option (List Text) :=
  match t with
  | '"' :: rest =>
    match _hread : readQuoted rest with
    | none => none
    | some (piece, []) => some [piece]
    | some (piece, after) =>
      match _hnext : Text.after? joint after with
      | none => none
      | some others => (readJoined? others).map (piece :: ·)
  | _ => none
termination_by t.length
decreasing_by
  have hlength := length_of_readQuoted _hread
  have hafter := congrArg List.length (Text.after?_eq_some_iff.1 _hnext)
  simp only [List.length_append, List.length_cons] at hlength hafter ⊢
  omega

/-- The text that an expression tells. -/
def tell? (t : Text) : Option Text :=
  (readJoined? t).map (Text.join ['\n'])

/-- Every carriage return of a text stands right before a line feed. -/
def ReturnsEndLines (t : Text) : Prop :=
  ∀ before after, t = before ++ '\r' :: after → after.head? = some '\n'

/-! ### Line endings of two characters -/

theorem unifyNewlines_cons {c : Char} {rest : Text} (h : c = '\r' → rest.head? ≠ some '\n') :
    unifyNewlines (c :: rest) = c :: unifyNewlines rest := by
  rw [unifyNewlines]
  rintro others rfl rfl
  exact h rfl rfl

theorem unifyNewlines_eq_replaceAll (t : Text) :
    unifyNewlines t = Text.replaceAll "\r\n" "\n" t := by
  unfold Text.replaceAll
  fun_induction unifyNewlines t with
  | case1 => rfl
  | case2 rest ih =>
    rw [ih]
    rfl
  | case3 c rest hpair ih =>
    have hstart : Text.startsWith (c :: rest) "\r\n" = false := by
      rw [Bool.eq_false_iff, ne_eq, Text.startsWith_iff]
      rintro ⟨others, heq⟩
      obtain ⟨rfl, rfl⟩ := List.cons.inj heq
      exact hpair others rfl rfl
    rw [Text.replaceFrom, hstart, ih]
    rfl

theorem doubleQuote_of_ne {c : Char} (h : c ≠ '"') : doubleQuote c = [c] := if_neg h

theorem unifyNewlines_flatMap_doubleQuote (t : Text) :
    unifyNewlines (t.flatMap doubleQuote) = (unifyNewlines t).flatMap doubleQuote := by
  fun_induction unifyNewlines t with
  | case1 => rfl
  | case2 rest ih =>
    rw [List.flatMap_cons, List.flatMap_cons, List.flatMap_cons, ← ih]
    rfl
  | case3 c rest hpair ih =>
    rw [List.flatMap_cons, List.flatMap_cons, ← ih]
    by_cases hquote : c = '"'
    · subst hquote
      change unifyNewlines ('"' :: '"' :: _) = _
      rw [unifyNewlines_cons (by simp), unifyNewlines_cons (by simp)]
      rfl
    · rw [doubleQuote_of_ne hquote, List.singleton_append, List.singleton_append]
      apply unifyNewlines_cons
      rintro rfl hhead
      -- What begins with a line feed after the doubling began with one before.
      rcases rest with _ | ⟨next, others⟩
      · cases hhead
      · by_cases hnext : next = '"'
        · subst hnext
          exact absurd hhead (by simp [doubleQuote])
        · obtain rfl : next = '\n' := by simpa [doubleQuote, hnext] using hhead
          exact hpair others rfl rfl

theorem ofText_visualBasic_eq_replaceAll (t : Text) :
    ofText .visualBasic t = '"' :: (Text.replaceAll "\n" "\" & vbLf & \""
      (Text.replaceAll "\r\n" "\n" (Text.replaceAll "\"" "\"\"" t)) ++ ['"']) := by
  have hquotes : Text.replaceAll "\"" "\"\"" t = t.flatMap doubleQuote :=
    Text.replaceAll_singleton '"' _ t
  have hfeeds (u : Text) : Text.replaceAll "\n" "\" & vbLf & \"" u =
      u.flatMap fun c => if c = '\n' then "\" & vbLf & \"" else [c] :=
    Text.replaceAll_singleton '\n' _ u
  rw [hquotes, ← unifyNewlines_eq_replaceAll, unifyNewlines_flatMap_doubleQuote, hfeeds,
    List.flatMap_assoc]
  change '"' :: ((unifyNewlines t).flatMap double ++ ['"']) = _
  congr 2
  refine List.flatMap_congr fun c _ => ?_
  unfold double
  split
  · rfl
  · rfl
  · next hquote hfeed => rw [doubleQuote_of_ne hquote, List.flatMap_singleton, if_neg hfeed]

/-! ### Pieces -/

theorem double_of_ne {c : Char} (h : c ≠ '\n') : double c = doubleQuote c := by
  unfold double
  split
  · rfl
  · exact absurd rfl h
  · next hquote _ => rw [doubleQuote_of_ne hquote]

theorem quoted_eq_flatMap_double {piece : Text} (h : '\n' ∉ piece) :
    quoted piece = '"' :: (piece.flatMap double ++ ['"']) := by
  rw [quoted]
  congr 2
  exact List.flatMap_congr fun c hc => (double_of_ne fun heq => h (heq ▸ hc)).symm

theorem joined_singleton (piece : Text) : joined [piece] = quoted piece := by
  simp [joined, Text.join]

theorem joined_cons_cons (first next : Text) (others : List Text) :
    joined (first :: next :: others) = quoted first ++ (joint ++ joined (next :: others)) :=
  Text.join_cons_cons_eq joint (quoted first) (quoted next) (others.map quoted)

/-- A text with its line feeds written as the constant is the expression of its lines. -/
theorem joined_splitOn (t : Text) :
    joined (t.splitOn '\n') = '"' :: (t.flatMap double ++ ['"']) := by
  induction t using Text.line_induction with
  | last t h => rw [List.splitOn_eq_singleton h, joined_singleton, quoted_eq_flatMap_double h]
  | line first rest hfirst ih =>
    have hfeed : double '\n' = '"' :: (joint ++ ['"']) := by decide
    obtain ⟨next, others, hpieces⟩ := List.exists_cons_of_ne_nil (List.splitOn_ne_nil '\n' rest)
    calc joined ((first ++ '\n' :: rest).splitOn '\n')
        = quoted first ++ (joint ++ joined (rest.splitOn '\n')) := by
          rw [List.splitOn_append_cons_self_of_not_mem hfirst, hpieces, joined_cons_cons]
      _ = '"' :: ((first ++ '\n' :: rest).flatMap double ++ ['"']) := by
          rw [ih, quoted_eq_flatMap_double hfirst, List.flatMap_append, List.flatMap_cons, hfeed]
          simp

theorem readQuoted_cons {c : Char} (h : c ≠ '"') (rest : Text) :
    readQuoted (c :: rest) = (readQuoted rest).map fun (piece, after) => (c :: piece, after) := by
  rw [readQuoted]
  · exact fun _ h' _ => h h'
  · exact h

theorem readQuoted_append {after : Text} (h : after.head? ≠ some '"') (piece : Text) :
    readQuoted (piece.flatMap doubleQuote ++ '"' :: after) = some (piece, after) := by
  induction piece with
  | nil =>
    rw [List.flatMap_nil, List.nil_append, readQuoted]
    rintro others rfl
    exact h rfl
  | cons c piece ih =>
    rw [List.flatMap_cons, List.append_assoc]
    by_cases hquote : c = '"'
    · subst hquote
      change readQuoted ('"' :: '"' :: (piece.flatMap doubleQuote ++ '"' :: after)) = _
      rw [readQuoted, ih]
      rfl
    · rw [doubleQuote_of_ne hquote, List.singleton_append, readQuoted_cons hquote, ih]
      rfl

theorem readJoined?_quoted (piece : Text) : readJoined? (quoted piece) = some [piece] := by
  have hend : ([] : Text).head? ≠ some '"' := by simp
  have hread := readQuoted_append hend piece
  rw [quoted, readJoined?]
  split
  · next hnone => cases hread.symm.trans hnone
  · next hsome =>
    cases hread.symm.trans hsome
    rfl
  · next hne hsome =>
    cases hread.symm.trans hsome
    exact absurd rfl hne

theorem readJoined?_quoted_append (piece others : Text) :
    readJoined? (quoted piece ++ (joint ++ others)) = (readJoined? others).map (piece :: ·) := by
  have hspace : joint = ' ' :: "& vbLf & ".toList := by decide
  have hread : readQuoted (piece.flatMap doubleQuote ++ '"' :: (joint ++ others)) =
      some (piece, joint ++ others) := by
    apply readQuoted_append
    rw [hspace]
    simp
  have hnext : Text.after? joint (joint ++ others) = some others :=
    Text.after?_eq_some_iff.2 rfl
  rw [quoted, List.cons_append, List.append_assoc, List.singleton_append, readJoined?]
  split
  · next hnone => cases hread.symm.trans hnone
  · next hsome => cases hread.symm.trans hsome
  · next hsome =>
    cases hread.symm.trans hsome
    split
    · next hnone => cases hnext.symm.trans hnone
    · next hothers =>
      cases hnext.symm.trans hothers
      rfl

theorem readJoined?_joined {pieces : List Text} (h : pieces ≠ []) :
    readJoined? (joined pieces) = some pieces := by
  induction pieces with
  | nil => exact absurd rfl h
  | cons first others ih =>
    cases others with
    | nil => rw [joined_singleton, readJoined?_quoted]
    | cons next others =>
      rw [joined_cons_cons, readJoined?_quoted_append, ih (by simp)]
      rfl

/-! ### Line ends inside a literal -/

theorem lineEnd_double (c : Char) : '\n' ∉ double c ∧ ('\r' ∈ double c ↔ c = '\r') := by
  by_cases hfeed : c = '\n'
  · subst hfeed
    decide
  by_cases hquote : c = '"'
  · subst hquote
    decide
  rw [double_of_ne hfeed, doubleQuote_of_ne hquote, List.mem_singleton, List.mem_singleton]
  exact ⟨Ne.symm hfeed, eq_comm⟩

theorem returnsEndLines_cons {c : Char} {rest : Text} :
    ReturnsEndLines (c :: rest) ↔
      (c = '\r' → rest.head? = some '\n') ∧ ReturnsEndLines rest := by
  constructor
  · intro h
    refine ⟨?_, fun before after heq => h (c :: before) after (by rw [heq, List.cons_append])⟩
    rintro rfl
    exact h [] rest rfl
  · rintro ⟨hhead, hrest⟩ before after heq
    cases before with
    | nil =>
      obtain ⟨rfl, rfl⟩ := List.cons.inj heq
      exact hhead rfl
    | cons _ before =>
      obtain ⟨rfl, rfl⟩ := List.cons.inj heq
      exact hrest before after rfl

/-- What is left after the pairs are unified are the carriage returns that end no line. -/
theorem return_notMem_unifyNewlines_iff (t : Text) :
    '\r' ∉ unifyNewlines t ↔ ReturnsEndLines t := by
  fun_induction unifyNewlines t with
  | case1 => simp [ReturnsEndLines]
  | case2 rest ih => simp [returnsEndLines_cons, ih]
  | case3 c rest hpair ih =>
    have hhead : rest.head? = some '\n' → c ≠ '\r' := by
      rintro hfeed rfl
      obtain ⟨others, rfl⟩ := List.head?_eq_some_iff.1 hfeed
      exact hpair others rfl rfl
    rw [List.mem_cons, not_or, ih, returnsEndLines_cons]
    refine and_congr_left fun _ => ⟨fun hne heq => absurd heq.symm hne, fun h heq => ?_⟩
    exact hhead (h heq.symm) heq.symm

/-- **A literal of joined pieces tells its text.** The Visual Basic literal of a text is made by
three replacements, one after the other. It is the expression of the lines of the text, where a
carriage return before a line feed is left out, and what it tells are these lines with line feeds
between them. It holds no line feed; it stands on one line exactly if every carriage return of the
text stands right before a line feed. -/
theorem visualBasic_joins (t : Text) :
    let unified := Text.replaceAll "\r\n" "\n" t
    ofText .visualBasic t = '"' :: (Text.replaceAll "\n" "\" & vbLf & \""
      (Text.replaceAll "\r\n" "\n" (Text.replaceAll "\"" "\"\"" t)) ++ ['"']) ∧
    ofText .visualBasic t = joined (unified.splitOn '\n') ∧
    tell? (ofText .visualBasic t) = some unified ∧
    '\n' ∉ ofText .visualBasic t ∧
    ('\r' ∉ ofText .visualBasic t ↔ ReturnsEndLines t) := by
  intro unified
  have hunified : unified = unifyNewlines t := (unifyNewlines_eq_replaceAll t).symm
  have hjoined : ofText .visualBasic t = joined (unified.splitOn '\n') := by
    rw [joined_splitOn, hunified]
    rfl
  refine ⟨ofText_visualBasic_eq_replaceAll t, hjoined, ?_, ?_, ?_⟩
  · rw [hjoined, tell?, readJoined?_joined (List.splitOn_ne_nil '\n' unified), Option.map_some,
      Text.join, List.intercalate_splitOn]
  · rw [hjoined, joined_splitOn]
    simpa using fun c _ => (lineEnd_double c).1
  · rw [hjoined, joined_splitOn, hunified, ← return_notMem_unifyNewlines_iff]
    simp [lineEnd_double]

/-- A carriage return alone goes into the literal as it is, so the literal takes two lines; a step
can bring one into the code of its feature. -/
theorem visualBasic_ne_one_line :
    let request : Request :=
      { feature := "Feature: F\nScenario: S\n  Given a\x0db\n", sourceFile := "f.feature"
        folderPath := [], platform := { language := .visualBasic } }
    (¬ ∀ t, '\n' ∉ ofText .visualBasic t ∧ '\r' ∉ ofText .visualBasic t) ∧
    ∃ code, Generator.generateCode request = .ok code ∧ '\r' ∈ code := by
  intro request
  let call : Call := { kind := .given, written := .given, text := "a\x0db", argument := .none }
  let test : Test := { name := "S", title := "S", tags := [], calls := [call] }
  let fixture : Fixture :=
    { title := "F", description := [], tags := [], background := [], tests := [test] }
  have hparsed : (Feature.parse request.feature).toOption.isSome = true := by decide +kernel
  have hfixture : (Feature.parse request.feature).toOption.map Fixture.ofFeature =
      some (.ok fixture) := by
    decide +kernel
  obtain ⟨feature, hfeature⟩ := exists_eq_ok_of_isSome hparsed
  rw [hfeature] at hfixture
  have hcode := Generator.generateCode_of_fixture hfeature (Option.some.inj hfixture)
  refine ⟨fun h => (h "a\x0db").2 (by decide), _, hcode, ?_⟩
  have hcall : '\r' ∈ call.code .visualBasic := by decide +kernel
  have htest : '\r' ∈ Fixture.testCode request.platform false test := by
    unfold Fixture.testCode
    iterate 3 apply List.mem_append_left
    exact List.mem_append_right _ (List.mem_flatMap.2 ⟨call, List.mem_singleton_self call, hcall⟩)
  unfold Fixture.code
  refine List.mem_append_left _ (List.mem_append_right _ ?_)
  exact List.mem_flatMap.2 ⟨test, List.mem_singleton_self test, htest⟩

end Literal

end FeatureFixtures
