import FeatureFixtures.Proofs.Literals
/-!
# Reading literals

A C# literal is read from its opening quotation mark on: a backslash is active unless the one before
it is, and together with the character behind it stands for one character of the text; the first
quotation mark without an active backslash before it ends the literal. What is read in this way from
the literal of a text is the text, and no quotation mark of the text ends the literal, so nothing of
a text can become code. An array is read literal by literal.
-/

namespace FeatureFixtures

theorem Text.replaceAll_singleton (c : Char) (value t : Text) :
    replaceAll [c] value t = t.flatMap fun d => if d = c then value else [d] := by
  unfold replaceAll
  induction t with
  | nil => rfl
  | cons d rest ih =>
    by_cases h : d = c
    · simp [replaceFrom, startsWith, after?, h, ih]
    · simp [replaceFrom, startsWith, after?, h, Ne.symm h, ih]

namespace Literal

/-- The character that a letter behind an active backslash stands for; other letters than these are
refused. -/
def ofLetter? : Char → Option Char
  | '\\' => some '\\'
  | '"' => some '"'
  | 'n' => some '\n'
  | 'r' => some '\r'
  | _ => none

/-- The text that a C# literal tells from behind its opening quotation mark, and what stands behind
the literal. -/
def readContent : Text → Option (Text × Text)
  | [] => none
  | '"' :: rest => some ([], rest)
  | '\\' :: letter :: rest => do
    let (content, after) ← readContent rest
    return ((← ofLetter? letter) :: content, after)
  | c :: rest => do
    let (content, after) ← readContent rest
    return (c :: content, after)

/-- The text of a C# literal with nothing behind it. -/
def read? : Text → Option Text
  | '"' :: rest => do
    let (content, after) ← readContent rest
    if after = [] then some content else none
  | _ => none

/-- The places of the quotation marks that have no active backslash before them, where the text
begins at the given place. -/
def bareQuotes (place : Nat) : Text → List Nat
  | [] => []
  | '\\' :: _ :: rest => bareQuotes (place + 2) rest
  | '"' :: rest => place :: bareQuotes (place + 1) rest
  | _ :: rest => bareQuotes (place + 1) rest

theorem escape_spec (c : Char) :
    (∃ letter, escape c = ['\\', letter] ∧ ofLetter? letter = some c) ∨
      (escape c = [c] ∧ c ≠ '\\' ∧ c ≠ '"') := by
  unfold escape
  split
  · exact .inl ⟨'\\', rfl, rfl⟩
  · exact .inl ⟨'"', rfl, rfl⟩
  · exact .inl ⟨'n', rfl, rfl⟩
  · exact .inl ⟨'r', rfl, rfl⟩
  · next hbackslash hquote _ _ => exact .inr ⟨rfl, hbackslash, hquote⟩

theorem lineEnd_notMem_escape (c : Char) : '\n' ∉ escape c ∧ '\r' ∉ escape c := by
  unfold escape
  split
  · decide
  · decide
  · decide
  · decide
  · next _ _ hfeed hreturn =>
    rw [List.mem_singleton, List.mem_singleton]
    exact ⟨fun h => hfeed h.symm, fun h => hreturn h.symm⟩

theorem flatMap_escape_eq_replaceAll (t : Text) :
    t.flatMap escape = Text.replaceAll "\r" "\\r" (Text.replaceAll "\n" "\\n"
      (Text.replaceAll "\"" "\\\"" (Text.replaceAll "\\" "\\\\" t))) := by
  change _ = Text.replaceAll ['\r'] _ (Text.replaceAll ['\n'] _
    (Text.replaceAll ['"'] _ (Text.replaceAll ['\\'] _ t)))
  simp only [Text.replaceAll_singleton, List.flatMap_assoc]
  -- What one replacement puts in holds nothing that a later one looks for.
  refine List.flatMap_congr fun c _ => ?_
  unfold escape
  split
  · rfl
  · rfl
  · rfl
  · rfl
  · next hbackslash hquote hfeed hreturn =>
    rw [if_neg hbackslash, List.flatMap_singleton, if_neg hquote, List.flatMap_singleton,
      if_neg hfeed, List.flatMap_singleton, if_neg hreturn]

theorem bareQuotes_cons {c : Char} (hbackslash : c ≠ '\\') (hquote : c ≠ '"') (place : Nat)
    (rest : Text) : bareQuotes place (c :: rest) = bareQuotes (place + 1) rest := by
  rw [bareQuotes]
  · exact fun _ _ h => absurd h hbackslash
  · exact hquote

theorem bareQuotes_flatMap_escape (place : Nat) (t rest : Text) :
    bareQuotes place (t.flatMap escape ++ rest) =
      bareQuotes (place + (t.flatMap escape).length) rest := by
  induction t generalizing place with
  | nil => rfl
  | cons c t ih =>
    rw [List.flatMap_cons, List.append_assoc]
    rcases escape_spec c with ⟨letter, hc, -⟩ | ⟨hc, hbackslash, hquote⟩
    · rw [hc, List.cons_append, List.singleton_append, bareQuotes, ih, List.length_append,
        List.length_cons, List.length_singleton, Nat.add_assoc]
    · rw [hc, List.singleton_append, bareQuotes_cons hbackslash hquote, ih, List.length_append,
        List.length_singleton, Nat.add_assoc]

theorem readContent_cons {c : Char} (hbackslash : c ≠ '\\') (hquote : c ≠ '"') (rest : Text) :
    readContent (c :: rest) = (readContent rest).map fun (content, after) =>
      (c :: content, after) := by
  rw [readContent]
  · cases readContent rest <;> rfl
  · exact hquote
  · exact fun _ _ h => absurd h hbackslash

theorem readContent_flatMap_escape (t rest : Text) :
    readContent (t.flatMap escape ++ '"' :: rest) = some (t, rest) := by
  induction t with
  | nil => rfl
  | cons c t ih =>
    rw [List.flatMap_cons, List.append_assoc]
    rcases escape_spec c with ⟨letter, hc, hletter⟩ | ⟨hc, hbackslash, hquote⟩
    · rw [hc, List.cons_append, List.singleton_append, readContent, ih]
      simp [hletter]
    · rw [hc, List.singleton_append, readContent_cons hbackslash hquote, ih]
      rfl

theorem length_of_readContent {t content rest : Text}
    (h : readContent t = some (content, rest)) : rest.length < t.length := by
  fun_induction readContent t generalizing content with
  | case1 => cases h
  | case2 rest =>
    cases h
    exact Nat.lt_succ_self _
  | case3 letter t ih =>
    simp only [Option.bind_eq_bind, Option.bind_eq_some_iff, Prod.exists] at h
    obtain ⟨content, after, hread, c, -, h⟩ := h
    cases h
    exact Nat.lt_succ_of_lt (Nat.lt_succ_of_lt (ih hread))
  | case4 c t _ _ ih =>
    simp only [Option.bind_eq_bind, Option.bind_eq_some_iff, Prod.exists] at h
    obtain ⟨content, after, hread, h⟩ := h
    cases h
    exact Nat.lt_succ_of_lt (ih hread)

/-! ### Arrays -/

/-- The texts of an array from its first literal on, with nothing behind the array. -/
def readItems (t : Text) : Option (List Text) :=
  match t with
  | '"' :: rest =>
    match _hread : readContent rest with
    | some (content, [' ', '}']) => some [content]
    | some (content, ',' :: ' ' :: others) => (readItems others).map (content :: ·)
    | _ => none
  | _ => none
termination_by t.length
decreasing_by
  have hlength := length_of_readContent _hread
  simp only [List.length_cons] at hlength ⊢
  omega

/-- The texts of a C# array of literals. -/
def readArray? (t : Text) : Option (List Text) := do
  readItems (← Text.after? "new string[] \x7b " t)

theorem readItems_last (t : Text) : readItems (ofText .csharp t ++ [' ', '}']) = some [t] := by
  have hread := readContent_flatMap_escape t [' ', '}']
  have hliteral : ofText .csharp t ++ [' ', '}'] =
      '"' :: (t.flatMap escape ++ '"' :: [' ', '}']) := by
    simp [ofText]
  rw [hliteral, readItems]
  split
  all_goals simp_all

theorem readItems_cons (t others : Text) :
    readItems (ofText .csharp t ++ (", " ++ others)) = (readItems others).map (t :: ·) := by
  have hread := readContent_flatMap_escape t (", " ++ others)
  have hliteral : ofText .csharp t ++ (", " ++ others) =
      '"' :: (t.flatMap escape ++ '"' :: (", " ++ others)) := by
    simp [ofText]
  rw [hliteral, readItems]
  split
  all_goals simp_all

theorem readItems_join (first : Text) (others : List Text) :
    readItems (Text.join ", " ((first :: others).map (ofText .csharp)) ++ [' ', '}']) =
      some (first :: others) := by
  induction others generalizing first with
  | nil =>
    have hjoin : Text.join ", " [ofText .csharp first] = ofText .csharp first := by simp [Text.join]
    rw [List.map_singleton, hjoin]
    exact readItems_last first
  | cons next others ih =>
    rw [List.map_cons, List.map_cons, Text.join_cons_cons_eq, List.append_assoc, List.append_assoc,
      readItems_cons, ← List.map_cons, ih]
    rfl

/-- **A text does not leave its literal.** The literal of a text is made by four replacements, one
after the other. It stands on one line, its quotation marks other than the first and the last
character have an active backslash before them, and what is read from it is the text. From an array
of literals the texts are read that it was made of. -/
theorem csharp_encloses (t first : Text) (others : List Text) :
    ofText .csharp t = '"' :: (Text.replaceAll "\r" "\\r" (Text.replaceAll "\n" "\\n"
      (Text.replaceAll "\"" "\\\"" (Text.replaceAll "\\" "\\\\" t))) ++ ['"']) ∧
    '\n' ∉ ofText .csharp t ∧ '\r' ∉ ofText .csharp t ∧
    bareQuotes 0 (ofText .csharp t) = [0, (ofText .csharp t).length - 1] ∧
    read? (ofText .csharp t) = some t ∧
    readArray? (ofTexts .csharp (first :: others)) = some (first :: others) := by
  have hliteral : ofText .csharp t = '"' :: (t.flatMap escape ++ ['"']) := rfl
  rw [hliteral]
  refine ⟨?_, ?_, ?_, ?_, ?_, ?_⟩
  · rw [flatMap_escape_eq_replaceAll]
  · simpa using fun c _ => (lineEnd_notMem_escape c).1
  · simpa using fun c _ => (lineEnd_notMem_escape c).2
  · rw [bareQuotes, bareQuotes_flatMap_escape]
    simp [bareQuotes, Nat.add_comm]
  · rw [read?, readContent_flatMap_escape]
    rfl
  · have harray : ofTexts .csharp (first :: others) = "new string[] \x7b " ++
        (Text.join ", " ((first :: others).map (ofText .csharp)) ++ [' ', '}']) := by
      simp [ofTexts]
    rw [readArray?, harray, Text.after?_eq_some_iff.2 rfl]
    exact readItems_join first others

end Literal

end FeatureFixtures
