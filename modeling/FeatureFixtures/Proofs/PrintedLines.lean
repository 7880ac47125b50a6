import FeatureFixtures.Feature.Line
import FeatureFixtures.Proofs.LineEndings
/-!
# What printed lines are

A text that is trimmed and has no line feed can stand on a line of its own, behind a keyword, or
between the bars of a table row, and is found there again. Each line that is printed for a feature
is told apart from all other forms of lines, whatever indentation stands before it.
-/

namespace FeatureFixtures

namespace Text

/-! ### Trimming -/

theorem trimStart_append_of_blank {pad t : Text} (h : ∀ c ∈ pad, isBlank c = true) :
    trimStart (pad ++ t) = trimStart t :=
  List.dropWhile_append_of_pos h

theorem trimStart_cons_of_visible {c : Char} {t : Text} (h : isBlank c = false) :
    trimStart (c :: t) = c :: t := by
  simp [trimStart, h]

theorem trimEnd_append_blank {c : Char} (h : isBlank c = true) (t : Text) :
    trimEnd (t ++ [c]) = trimEnd t := by
  simp [trimEnd, h]

theorem trimEnd_append_visible {c : Char} (h : isBlank c = false) (t : Text) :
    trimEnd (t ++ [c]) = t ++ [c] := by
  simp [trimEnd, h]

theorem trimEnd_cons_of_visible {c : Char} (h : isBlank c = false) (t : Text) :
    trimEnd (c :: t) = c :: trimEnd t := by
  unfold trimEnd
  rw [List.reverse_cons, List.dropWhile_append]
  by_cases hblank : (t.reverse.dropWhile isBlank).isEmpty = true
  · rw [if_pos hblank, List.isEmpty_iff.1 hblank]
    simp [h]
  · rw [if_neg hblank, List.reverse_append]
    rfl

theorem length_trimStart_le (t : Text) : (trimStart t).length ≤ t.length :=
  (List.dropWhile_sublist isBlank).length_le

theorem length_trimEnd_le (t : Text) : (trimEnd t).length ≤ t.length := by
  have hreverse := length_trimStart_le t.reverse
  rwa [List.length_reverse, trimStart, ← List.length_reverse] at hreverse

/-- A trimmed text is empty or begins and ends with a character that is not blank. -/
theorem ends_of_trim_eq_self {t : Text} (h : trim t = t) :
    t = [] ∨ (∃ c rest, t = c :: rest ∧ isBlank c = false) ∧
      ∃ rest c, t = rest ++ [c] ∧ isBlank c = false := by
  rcases List.eq_nil_or_concat t with rfl | ⟨before, last, hlast⟩
  · exact .inl rfl
  · obtain ⟨first, rest, hfirst⟩ : ∃ first rest, t = first :: rest :=
      List.exists_cons_of_ne_nil (by simp [hlast])
    have hvisible : isBlank first = false := by
      rw [Bool.eq_false_iff]
      intro hblank
      -- A blank at an end would have been cut off, and the text would be shorter.
      have hle := length_trimEnd_le (trimStart t)
      have hlt := length_trimStart_le rest
      rw [hfirst, trimStart, List.dropWhile_cons_of_pos hblank, ← trimStart] at hle
      have hlength := congrArg List.length h
      simp only [trim, hfirst, trimStart, List.dropWhile_cons_of_pos hblank,
        List.length_cons] at hlength hle hlt
      omega
    refine .inr ⟨⟨first, rest, hfirst, hvisible⟩, before, last, by simpa using hlast, ?_⟩
    rw [Bool.eq_false_iff]
    intro hblank
    have hstart : trimStart t = t := by rw [hfirst, trimStart_cons_of_visible hvisible]
    have hlength := congrArg List.length h
    have hle := length_trimEnd_le before
    have hcut : trimEnd t = trimEnd before := by simp [hlast, trimEnd, hblank]
    rw [trim, hstart, hcut, hlast] at hlength
    simp at hlength
    omega

/-- A text that can stand on a line: it is trimmed and has no line feed. -/
structure IsInline (t : Text) : Prop where
  trim_eq : trim t = t
  newline_notMem : '\n' ∉ t

instance (t : Text) : Decidable (IsInline t) :=
  decidable_of_iff (trim t = t ∧ '\n' ∉ t) ⟨fun h => ⟨h.1, h.2⟩, fun h => ⟨h.1, h.2⟩⟩

/-- A trimmed text stays behind a space; if it is empty, the space is cut off. -/
theorem trim_append_inline {lead t : Text} (hfirst : lead.head?.map isBlank = some false)
    (hlast : lead.getLast?.map isBlank = some false) (h : trim t = t) :
    trim (lead ++ ' ' :: t) = lead ++ if t.isEmpty then [] else ' ' :: t := by
  obtain ⟨first, hhead, hvisible⟩ := Option.map_eq_some_iff.1 hfirst
  obtain ⟨last, hend, hclosed⟩ := Option.map_eq_some_iff.1 hlast
  obtain ⟨middle, rfl⟩ := List.head?_eq_some_iff.1 hhead
  rw [trim, List.cons_append, trimStart_cons_of_visible hvisible]
  rcases ends_of_trim_eq_self h with rfl | ⟨-, rest, c, rfl, hc⟩
  · obtain ⟨others, hothers⟩ := List.getLast?_eq_some_iff.1 hend
    rw [← List.cons_append, hothers, trimEnd_append_blank (c := ' ') rfl,
      trimEnd_append_visible hclosed]
    simp
  · have hsplit : first :: (middle ++ ' ' :: (rest ++ [c])) =
        (first :: (middle ++ ' ' :: rest)) ++ [c] := by simp
    rw [hsplit, trimEnd_append_visible hc]
    simp

theorem trim_between {t : Text} (h : trim t = t) : trim (' ' :: t ++ [' ']) = t := by
  have hspace : trimStart (' ' :: (t ++ [' '])) = trimStart (t ++ [' ']) := by
    simp [trimStart, isBlank]
  rcases ends_of_trim_eq_self h with rfl | ⟨⟨c, rest, rfl, hc⟩, before, last, hlast, hvisible⟩
  · rfl
  · rw [trim, List.cons_append, hspace, List.cons_append, trimStart_cons_of_visible hc,
      ← List.cons_append, trimEnd_append_blank (c := ' ') rfl, hlast,
      trimEnd_append_visible hvisible]

theorem trim_ite_isEmpty {t : Text} (h : trim t = t) :
    trim (if t.isEmpty then [] else ' ' :: t) = t := by
  cases t with
  | nil => rfl
  | cons c rest =>
    have hspace : trimStart (' ' :: c :: rest) = trimStart (c :: rest) := by
      simp [trimStart, isBlank]
    simpa [trim, hspace] using h

theorem join_cons_cons (part next : Text) (rest : List Text) :
    join [' '] (part :: next :: rest) = part ++ ' ' :: join [' '] (next :: rest) := by
  simp [join, List.intercalate]

theorem trim_join {parts : List Text} (hne : parts ≠ [])
    (h : ∀ part ∈ parts, part ≠ [] ∧ ∀ c ∈ part, isBlank c = false) :
    trim (join [' '] parts) = join [' '] parts := by
  have hfirst : ∃ c rest, join [' '] parts = c :: rest ∧ isBlank c = false := by
    cases parts with
    | nil => exact absurd rfl hne
    | cons part rest =>
      obtain ⟨c, others, rfl⟩ := List.exists_cons_of_ne_nil (h part List.mem_cons_self).1
      have hc := (h _ List.mem_cons_self).2 c List.mem_cons_self
      cases rest <;> exact ⟨c, _, rfl, hc⟩
  have hlast : ∃ before c, join [' '] parts = before ++ [c] ∧ isBlank c = false := by
    clear hfirst
    induction parts with
    | nil => exact absurd rfl hne
    | cons part rest ih =>
      rw [List.forall_mem_cons] at h
      cases rest with
      | nil =>
        have hpart := List.dropLast_concat_getLast h.1.1
        refine ⟨part.dropLast, part.getLast h.1.1, ?_, h.1.2 _ (List.getLast_mem h.1.1)⟩
        simpa [join] using hpart.symm
      | cons next rest =>
        obtain ⟨before, c, hjoin, hc⟩ := ih (List.cons_ne_nil _ _) h.2
        refine ⟨part ++ ' ' :: before, c, ?_, hc⟩
        rw [join_cons_cons, hjoin]
        simp
  obtain ⟨c, rest, hcons, hc⟩ := hfirst
  obtain ⟨before, last, hconcat, hvisible⟩ := hlast
  rw [trim, hcons, trimStart_cons_of_visible hc, ← hcons, hconcat, trimEnd_append_visible hvisible]

theorem words_join {parts : List Text} (h : ∀ part ∈ parts, part ≠ [] ∧ ∀ c ∈ part,
    isBlank c = false) : words (join [' '] parts) = parts := by
  have hpieces : (join [' '] parts).splitOnP isBlank = if parts.isEmpty then [[]] else parts := by
    induction parts with
    | nil => rfl
    | cons part rest ih =>
      rw [List.forall_mem_cons] at h
      cases rest with
      | nil => simpa [join] using List.splitOnP_eq_singleton h.1.2
      | cons next rest =>
        rw [join_cons_cons, List.splitOnP_append_cons_of_forall_mem h.1.2 ' ' (by decide), ih h.2]
        rfl
  rw [words, hpieces]
  cases parts with
  | nil => rfl
  | cons part rest =>
    refine List.filter_eq_self.2 fun piece hpiece => ?_
    simpa using (h piece hpiece).1

/-! ### Lines between their endings -/

/-- A text that is the same after it was written as a line of a file. -/
structure IsLine (t : Text) : Prop where
  newline_notMem : '\n' ∉ t
  endsWith_return : endsWith t '\r' = false

instance (t : Text) : Decidable (IsLine t) :=
  decidable_of_iff ('\n' ∉ t ∧ endsWith t '\r' = false) ⟨fun h => ⟨h.1, h.2⟩, fun h => ⟨h.1, h.2⟩⟩

theorem IsLine.append {s t : Text} (hs : IsLine s) (ht : IsLine t) : IsLine (s ++ t) := by
  refine ⟨?_, ?_⟩
  · rw [List.mem_append]
    exact fun h => h.elim hs.newline_notMem ht.newline_notMem
  · rcases List.eq_nil_or_concat t with rfl | ⟨before, last, rfl⟩
    · simpa using hs.endsWith_return
    · have hlast := ht.endsWith_return
      rw [endsWith, List.concat_eq_append, List.getLast?_concat] at hlast
      rwa [endsWith, List.concat_eq_append, ← List.append_assoc, List.getLast?_concat]

theorem IsInline.isLine {t : Text} (h : IsInline t) : IsLine t := by
  refine ⟨h.newline_notMem, ?_⟩
  rcases ends_of_trim_eq_self h.trim_eq with rfl | ⟨-, before, last, rfl, hvisible⟩
  · rfl
  · rw [endsWith, List.getLast?_concat, beq_eq_false_iff_ne]
    rintro ⟨⟩
    exact absurd hvisible (by decide)

theorem isLine_of_forall_visible {t : Text} (h : ∀ c ∈ t, isBlank c = false) : IsLine t := by
  refine ⟨fun hmem => absurd (h _ hmem) (by decide), ?_⟩
  rw [endsWith, beq_eq_false_iff_ne]
  exact fun hlast => absurd (h _ (List.mem_of_getLast? hlast)) (by decide)

theorem isLine_join {separator : Text} (hseparator : IsLine separator) {parts : List Text}
    (h : ∀ part ∈ parts, IsLine part) : IsLine (join separator parts) := by
  induction parts with
  | nil => exact ⟨List.not_mem_nil, rfl⟩
  | cons part rest ih =>
    rw [List.forall_mem_cons] at h
    cases rest with
    | nil => simpa [join] using h.1
    | cons next rest =>
      have hjoin : join separator (part :: next :: rest) =
          part ++ (separator ++ join separator (next :: rest)) := by
        simp [join, List.intercalate]
      rw [hjoin]
      exact h.1.append (hseparator.append (ih h.2))

theorem lines_flatMap {written : List Text} (h : ∀ line ∈ written, IsLine line) {ending : Text}
    (hending : ending = ['\n'] ∨ ending = ['\r', '\n']) :
    lines (written.flatMap (· ++ ending)) = written := by
  induction written with
  | nil => rfl
  | cons line rest ih =>
    rw [List.forall_mem_cons] at h
    have hline := h.1.newline_notMem
    rcases hending with rfl | rfl
    · rw [List.flatMap_cons, List.append_assoc, List.cons_append, List.nil_append,
        lines_append_newline hline, dropReturn_of_endsWith h.1.endsWith_return, ih h.2]
    · have hsplit : (line ++ ['\r', '\n']) ++ rest.flatMap (· ++ ['\r', '\n']) =
          (line ++ ['\r']) ++ '\n' :: rest.flatMap (· ++ ['\r', '\n']) := by simp
      rw [List.flatMap_cons, hsplit, lines_append_newline (by simpa using hline),
        dropReturn_append_return, ih h.2]

end Text

/-! ### Lines by their forms -/

def titleLine (keyword title : Text) : Text :=
  keyword ++ ':' :: ' ' :: title

def stepLine (keyword : StepKeyword) (text : Text) : Text :=
  keyword.spelling ++ ' ' :: text

def tagLine (tags : List Text) : Text :=
  Text.join [' '] (tags.map ('@' :: ·))

def rowLine (cells : List Text) : Text :=
  '|' :: Text.join ['|'] (cells.map fun cell => ' ' :: cell ++ [' ']) ++ ['|']

namespace Line

theorem after?_append (beginning rest : Text) :
    Text.after? beginning (beginning ++ rest) = some rest :=
  Text.after?_eq_some_iff.2 rfl

/-- What is left of a text behind a keyword when the line is trimmed. -/
def tailOf (t : Text) : Text :=
  if t.isEmpty then [] else ' ' :: t

theorem titleAfter?_append (keyword : Text) {title : Text} (h : Text.trim title = title) :
    titleAfter? keyword (keyword ++ ':' :: tailOf title) = some title := by
  rw [titleAfter?, after?_append]
  dsimp only
  rw [Text.trimStart_cons_of_visible (by decide)]
  exact congrArg some (Text.trim_ite_isEmpty h)

theorem trim_titleLine {keyword title : Text} (hkeyword : keyword.head?.map isBlank = some false)
    (h : Text.trim title = title) :
    Text.trim (titleLine keyword title) = keyword ++ ':' :: tailOf title := by
  have hsplit : titleLine keyword title = (keyword ++ [':']) ++ ' ' :: title := by
    simp [titleLine]
  have hfirst : (keyword ++ [':']).head?.map isBlank = some false := by
    obtain ⟨first, hhead, hvisible⟩ := Option.map_eq_some_iff.1 hkeyword
    simp [hhead, hvisible]
  have hlast : (keyword ++ [':']).getLast?.map isBlank = some false := by
    rw [List.getLast?_concat]
    rfl
  rw [hsplit, Text.trim_append_inline hfirst hlast h]
  simp [tailOf]

theorem ofText_feature {title : Text} (h : Text.trim title = title) :
    ofText (titleLine "Feature" title) = .feature title := by
  rw [ofText, trim_titleLine rfl h, ofTrimmed, titleAfter?_append _ h]
  rfl

theorem ofText_outline {title : Text} (h : Text.trim title = title) :
    ofText (titleLine "Scenario Outline" title) = .outline title := by
  rw [ofText, trim_titleLine rfl h, ofTrimmed, titleAfter?_append _ h]
  rfl

theorem ofText_background : ofText "Background:" = .background :=
  rfl

theorem ofText_examples : ofText "Examples:" = .examples :=
  rfl

theorem ofText_scenario {title : Text} (h : Text.trim title = title) :
    ofText (titleLine "Scenario" title) = .scenario title := by
  rw [ofText, trim_titleLine rfl h, ofTrimmed, titleAfter?_append _ h]
  -- The keywords of outlines are tried first, but they go on with a space instead of the colon.
  rfl

theorem ofText_tags {tags : List Text} (hne : tags ≠ [])
    (h : ∀ tag ∈ tags, ∀ c ∈ tag, isBlank c = false) :
    ofText (tagLine tags) = .tags (tags.map ('@' :: ·)) := by
  have hwords : ∀ part ∈ tags.map ('@' :: ·), part ≠ [] ∧ ∀ c ∈ part, isBlank c = false := by
    simp only [List.forall_mem_map, List.forall_mem_cons]
    exact fun tag htag => ⟨List.cons_ne_nil _ _, by decide, h tag htag⟩
  have hparts : tags.map ('@' :: ·) ≠ [] := by simpa using hne
  have hline : ∃ rest, tagLine tags = '@' :: rest := by
    cases tags with
    | nil => exact absurd rfl hne
    | cons tag rest => cases rest <;> exact ⟨_, rfl⟩
  have htrim : Text.trim (tagLine tags) = tagLine tags := Text.trim_join hparts hwords
  obtain ⟨rest, hrest⟩ := hline
  rw [ofText, htrim]
  have hform : ofTrimmed (indentOf (tagLine tags)) (tagLine tags) =
      .tags (Text.words (tagLine tags)) := by
    rw [hrest]
    rfl
  rw [hform, tagLine, Text.words_join hwords]

theorem cells?_rowLine {cells : List Text} (hne : cells ≠ [])
    (h : ∀ cell ∈ cells, Text.trim cell = cell ∧ '|' ∉ cell) :
    cells? (rowLine cells) = some cells := by
  have hinner : Text.join ['|'] (cells.map fun cell => ' ' :: cell ++ [' ']) ≠ [] := by
    cases cells with
    | nil => exact absurd rfl hne
    | cons cell rest => cases rest <;> simp [Text.join]
  obtain ⟨c, rest, hcons⟩ := List.exists_cons_of_ne_nil hinner
  have hsplit : (c :: rest).splitOn '|' = cells.map fun cell => ' ' :: cell ++ [' '] := by
    rw [← hcons]
    refine List.splitOn_intercalate '|' ?_ (by simpa using hne)
    simp only [List.forall_mem_map]
    intro cell hcell
    simpa using (h cell hcell).2
  have htrim : (cells.map fun cell => ' ' :: cell ++ [' ']).map Text.trim = cells := by
    rw [List.map_map]
    calc cells.map (Text.trim ∘ fun cell => ' ' :: cell ++ [' '])
      _ = cells.map id :=
        List.map_congr_left fun cell hcell => Text.trim_between (h cell hcell).1
      _ = cells := List.map_id cells
  have hrow : rowLine cells = '|' :: c :: (rest ++ ['|']) := by
    rw [rowLine, hcons]
    rfl
  have hends : Text.endsWith (c :: (rest ++ ['|'])) '|' = true := by
    rw [Text.endsWith, ← List.cons_append, List.getLast?_concat]
    rfl
  have hdrop : (c :: (rest ++ ['|'])).dropLast = c :: rest := by
    rw [← List.cons_append, List.dropLast_concat]
  rw [hrow, cells?, if_pos hends, hdrop, hsplit, htrim]

theorem ofText_rowLine {cells : List Text} (hne : cells ≠ [])
    (h : ∀ cell ∈ cells, Text.trim cell = cell ∧ '|' ∉ cell) :
    ofText (rowLine cells) = .row (some cells) := by
  have htrim : Text.trim (rowLine cells) = rowLine cells := by
    have hstart : Text.trimStart (rowLine cells) = rowLine cells :=
      Text.trimStart_cons_of_visible (by decide)
    rw [Text.trim, hstart]
    exact Text.trimEnd_append_visible (by decide) _
  have hform : ofTrimmed (indentOf (rowLine cells)) (rowLine cells) =
      .row (cells? (rowLine cells)) := rfl
  rw [ofText, htrim, hform, cells?_rowLine hne h]

theorem stepAfter?_spelling (keyword : StepKeyword) {text : Text} (h : Text.trim text = text) :
    stepAfter? keyword (keyword.spelling ++ tailOf text) = some text := by
  rw [stepAfter?, after?_append]
  cases text with
  | nil => rfl
  | cons c rest => exact congrArg some (Text.trim_ite_isEmpty h)

theorem step?_spelling (keyword : StepKeyword) {text : Text} (h : Text.trim text = text) :
    step? (keyword.spelling ++ tailOf text) = some (keyword, text) := by
  have hstep := stepAfter?_spelling keyword h
  rw [step?, StepKeyword.all]
  -- The keywords before this one do not begin the line, for none of them begins another.
  cases keyword <;> simp only [List.findSome?_cons, hstep] <;> rfl

theorem ofText_stepLine (keyword : StepKeyword) {text : Text} (h : Text.trim text = text) :
    ofText (stepLine keyword text) = .step keyword text := by
  have htrim : Text.trim (stepLine keyword text) = keyword.spelling ++ tailOf text := by
    refine Text.trim_append_inline ?_ ?_ h <;> cases keyword <;> rfl
  rw [ofText, htrim, ofTrimmed, step?_spelling keyword h]
  cases keyword <;> rfl

/-! ### Lines in a file -/

/-- Spaces and tabs. -/
def IsIndentation (pad : Text) : Prop :=
  ∀ c ∈ pad, isIndent c = true

instance (pad : Text) : Decidable (IsIndentation pad) :=
  decidable_of_iff (pad.all isIndent = true) List.all_eq_true

theorem isBlank_of_isIndent {c : Char} (h : isIndent c = true) : isBlank c = true := by
  simp only [isIndent, Bool.or_eq_true, beq_iff_eq] at h
  rcases h with rfl | rfl <;> decide

variable {pad line : Text}

theorem IsIndentation.trim_append (h : IsIndentation pad) (line : Text) :
    Text.trim (pad ++ line) = Text.trim line := by
  rw [Text.trim, Text.trimStart_append_of_blank fun c hc => isBlank_of_isIndent (h c hc), Text.trim]

/-- Only the opening of a text remembers its indentation. -/
theorem IsIndentation.ofText_append (h : IsIndentation pad)
    (hmark : ∀ indent, ofText line ≠ .docString indent) :
    ofText (pad ++ line) = ofText line := by
  unfold ofText at hmark ⊢
  rw [h.trim_append]
  by_cases hopens : Text.startsWith (Text.trim line) docStringMark = true
  · obtain ⟨rest, hrest⟩ := Text.startsWith_iff.1 hopens
    rw [hrest] at hmark
    exact absurd rfl (hmark _)
  · simp only [ofTrimmed, hopens, if_false, Bool.false_eq_true]

theorem IsIndentation.ofText_docStringMark (h : IsIndentation pad) :
    ofText (pad ++ docStringMark) = .docString pad.length := by
  have hindent : indentOf (pad ++ docStringMark) = pad.length := by
    rw [indentOf, List.takeWhile_append_of_pos h]
    simp [docStringMark, isIndent]
  rw [ofText, hindent, h.trim_append]
  rfl

theorem IsIndentation.isDocStringMark_append (h : IsIndentation pad) (line : Text) :
    isDocStringMark (pad ++ line) = isDocStringMark line := by
  rw [isDocStringMark, Text.trimStart_append_of_blank fun c hc => isBlank_of_isIndent (h c hc),
    isDocStringMark]

theorem unindent_append_of_le {n : Nat} (h : IsIndentation pad) (hle : pad.length ≤ n) :
    unindent n (pad ++ line) = unindent (n - pad.length) line := by
  induction pad generalizing n with
  | nil => rfl
  | cons c rest ih =>
    have hrest : IsIndentation rest := fun other hother => h other (List.mem_cons_of_mem _ hother)
    cases n with
    | zero => simp at hle
    | succ n =>
      rw [List.length_cons, Nat.succ_le_succ_iff] at hle
      simp only [List.cons_append, unindent, h c List.mem_cons_self, if_true, ih hrest hle,
        List.length_cons, Nat.add_sub_add_right]

/-- A line that is not indented itself, or that is indented as far as is taken off, is found
again. -/
theorem unindent_append {n : Nat} (h : IsIndentation pad) (hle : pad.length ≤ n)
    (hline : pad.length = n ∨ line.head?.any isIndent = false) :
    unindent n (pad ++ line) = line := by
  rw [unindent_append_of_le h hle]
  rcases hline with rfl | hline
  · rw [Nat.sub_self, unindent]
  · cases line with
    | nil => cases n - pad.length <;> rfl
    | cons c rest =>
      cases n - pad.length with
      | zero => rfl
      | succ n =>
        have hc : isIndent c = false := by simpa using hline
        simp [unindent, hc]

theorem IsIndentation.isLine_append (h : IsIndentation pad) (hline : Text.IsLine line) :
    Text.IsLine (pad ++ line) := by
  refine Text.IsLine.append ⟨fun hmem => ?_, ?_⟩ hline
  · exact absurd (h _ hmem) (by decide)
  · rcases List.eq_nil_or_concat pad with rfl | ⟨before, last, rfl⟩
    · rfl
    · rw [Text.endsWith, List.concat_eq_append, List.getLast?_concat, beq_eq_false_iff_ne]
      rintro ⟨⟩
      exact absurd (h '\r' (by simp)) (by decide)

/-- A blank line or a comment. -/
structure IsIgnorable (line : Text) : Prop where
  isLine : Text.IsLine line
  first : (Text.trimStart line).head?.all (· == '#') = true

instance (line : Text) : Decidable (IsIgnorable line) :=
  decidable_of_iff (Text.IsLine line ∧ (Text.trimStart line).head?.all (· == '#') = true)
    ⟨fun h => ⟨h.1, h.2⟩, fun h => ⟨h.1, h.2⟩⟩

theorem ofText_of_first (h : (Text.trimStart line).head?.all (· == '#') = true) :
    ofText line = .ignored := by
  unfold ofText Text.trim
  cases hstart : Text.trimStart line with
  | nil => rfl
  | cons c rest =>
    have hmark : c = '#' := by simpa [hstart] using h
    rw [hmark, Text.trimEnd_cons_of_visible (by decide)]
    rfl

theorem ofText_of_isIgnorable (h : IsIgnorable line) : ofText line = .ignored :=
  ofText_of_first h.first

end Line

end FeatureFixtures
