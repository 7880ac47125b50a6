import FeatureFixtures.Feature.Parser
import Mathlib.Data.List.Basic
/-!
# Line endings

Everything that is read by lines sees a text only through its lines. Two texts have the same joined
lines exactly if they have the same lines, where the empty text counts as one empty line; and a
carriage return before every line feed changes no line. The parser of feature files is such a
reader.
-/

namespace FeatureFixtures

namespace Text

/-- The lines of a text, where the empty text has a single empty line. -/
def contentLines (t : Text) : List Text :=
  if t.isEmpty then [[]] else lines t

/-- A text with a carriage return before every line feed. -/
def withReturns (t : Text) : Text :=
  t.flatMap fun c => if c = '\n' then ['\r', '\n'] else [c]

/-- A text is a last line without a line feed, or a line with one and another text. -/
@[elab_as_elim]
theorem line_induction {motive : Text → Prop} (last : ∀ t, '\n' ∉ t → motive t)
    (line : ∀ first rest, '\n' ∉ first → motive rest → motive (first ++ '\n' :: rest)) (t : Text) :
    motive t := by
  by_cases hmem : '\n' ∈ t
  · obtain ⟨first, rest, rfl, hfirst⟩ := List.eq_append_cons_of_mem hmem
    have hshorter : rest.length < (first ++ '\n' :: rest).length := by simp; omega
    exact line first rest hfirst (line_induction last line rest)
  · exact last t hmem
termination_by t.length

theorem lines_append_newline {first : Text} (hfirst : '\n' ∉ first) (rest : Text) :
    lines (first ++ '\n' :: rest) = dropReturn first :: lines rest := by
  unfold lines
  rw [List.splitOn_append_cons_self_of_not_mem hfirst]
  cases hpieces : rest.splitOn '\n' with
  | nil => exact absurd hpieces (List.splitOn_ne_nil '\n' rest)
  | cons piece pieces => rfl

theorem lines_of_not_mem {t : Text} (h : '\n' ∉ t) : lines t = if t.isEmpty then [] else [t] := by
  unfold lines
  rw [List.splitOn_eq_singleton h]
  rfl

theorem lines_eq_nil_iff {t : Text} : lines t = [] ↔ t = [] := by
  induction t using line_induction with
  | last t h => simp [lines_of_not_mem h]
  | line first rest hfirst ih => simp [lines_append_newline hfirst]

theorem mem_of_mem_dropReturn {c : Char} {t : Text} (h : c ∈ dropReturn t) : c ∈ t := by
  unfold dropReturn at h
  split at h
  · exact List.dropLast_subset t h
  · exact h

theorem newline_notMem_of_mem_lines {t line : Text} (h : line ∈ lines t) : '\n' ∉ line := by
  induction t using line_induction with
  | last t hlast =>
    rw [lines_of_not_mem hlast] at h
    split at h <;> simp_all
  | line first rest hfirst ih =>
    rw [lines_append_newline hfirst, List.mem_cons] at h
    rcases h with rfl | hrest
    · exact fun hmem => hfirst (mem_of_mem_dropReturn hmem)
    · exact ih hrest

/-- The pieces between separators hold what the text holds, without the separators. -/
theorem mem_and_ne_of_mem_splitOn {a : Char} {t piece : Text} (h : piece ∈ t.splitOn a) :
    ∀ c ∈ piece, c ∈ t ∧ c ≠ a := by
  induction t generalizing piece with
  | nil => simp_all
  | cons x rest ih =>
    rw [List.splitOn_cons_eq_if_modifyHead] at h
    obtain ⟨first, others, hpieces⟩ := List.exists_cons_of_ne_nil (List.splitOn_ne_nil a rest)
    have hrest : ∀ {piece}, piece ∈ rest.splitOn a → ∀ c ∈ piece, c ∈ x :: rest ∧ c ≠ a :=
      fun hmem c hc => ⟨List.mem_cons_of_mem x (ih hmem c hc).1, (ih hmem c hc).2⟩
    split at h
    · rcases List.mem_cons.1 h with rfl | hmem
      · simp
      · exact hrest hmem
    · next hne =>
      rw [hpieces, List.modifyHead_cons] at h
      rcases List.mem_cons.1 h with rfl | hmem
      · intro c hc
        rcases List.mem_cons.1 hc with rfl | hc
        · exact ⟨List.mem_cons_self, by simpa using hne⟩
        · exact hrest (hpieces ▸ List.mem_cons_self) c hc
      · exact hrest (hpieces ▸ List.mem_cons_of_mem first hmem)

/-! ### What joining lines forgets -/

theorem contentLines_ne_nil (t : Text) : contentLines t ≠ [] := by
  unfold contentLines
  split <;> simp_all [lines_eq_nil_iff]

theorem newline_notMem_of_mem_contentLines {t line : Text} (h : line ∈ contentLines t) :
    '\n' ∉ line := by
  unfold contentLines at h
  split at h
  · simp_all
  · exact newline_notMem_of_mem_lines h

theorem normalizeLines_eq_join (t : Text) : normalizeLines t = join ['\n'] (contentLines t) := by
  unfold normalizeLines contentLines
  split
  · simp_all [lines_eq_nil_iff.2, join]
  · rfl

theorem splitOn_normalizeLines (t : Text) : (normalizeLines t).splitOn '\n' = contentLines t := by
  rw [normalizeLines_eq_join, join]
  exact List.splitOn_intercalate '\n' (fun _ => newline_notMem_of_mem_contentLines)
    (contentLines_ne_nil t)

theorem normalizeLines_eq_iff {s t : Text} :
    normalizeLines s = normalizeLines t ↔ contentLines s = contentLines t := by
  constructor
  · intro h
    rw [← splitOn_normalizeLines s, h, splitOn_normalizeLines t]
  · intro h
    rw [normalizeLines_eq_join, h, normalizeLines_eq_join]

/-! ### Carriage returns -/

@[simp] theorem withReturns_append (s t : Text) :
    withReturns (s ++ t) = withReturns s ++ withReturns t := by
  simp [withReturns]

theorem withReturns_of_not_mem {t : Text} (h : '\n' ∉ t) : withReturns t = t := by
  induction t with
  | nil => rfl
  | cons c rest ih =>
    rw [List.mem_cons, not_or] at h
    simpa [withReturns, Ne.symm h.1] using ih h.2

theorem dropReturn_of_endsWith {t : Text} (h : endsWith t '\r' = false) : dropReturn t = t := by
  simp [dropReturn, h]

theorem dropReturn_append_return (t : Text) : dropReturn (t ++ ['\r']) = t := by
  simp [dropReturn, endsWith]

theorem endsWith_return_eq_false {first rest : Text}
    (h : ¬ ['\r', '\n'] <:+: first ++ '\n' :: rest) : endsWith first '\r' = false := by
  rw [Bool.eq_false_iff]
  intro hend
  have hlast : first.getLast? = some '\r' := by simpa [endsWith] using hend
  obtain ⟨before, rfl⟩ := List.getLast?_eq_some_iff.1 hlast
  exact h ⟨before, rest, by simp⟩

theorem dropReturn_of_not_mem {t : Text} (h : '\r' ∉ t) : dropReturn t = t := by
  refine dropReturn_of_endsWith (Bool.eq_false_iff.2 fun hend => h ?_)
  exact List.mem_of_getLast? (by simpa [endsWith] using hend)

theorem lines_append_return_newline {first : Text} (hfirst : '\n' ∉ first) (rest : Text) :
    lines (first ++ '\r' :: '\n' :: rest) = first :: lines rest := by
  have hsplit : first ++ '\r' :: '\n' :: rest = (first ++ ['\r']) ++ '\n' :: rest := by simp
  rw [hsplit, lines_append_newline (by simpa using hfirst), dropReturn_append_return]

theorem withReturns_append_newline {first : Text} (hfirst : '\n' ∉ first) (rest : Text) :
    withReturns (first ++ '\n' :: rest) = first ++ '\r' :: '\n' :: withReturns rest := by
  rw [withReturns_append, withReturns_of_not_mem hfirst]
  simp [withReturns]

theorem lines_withReturns {t : Text} (h : ¬ ['\r', '\n'] <:+: t) :
    lines (withReturns t) = lines t := by
  induction t using line_induction with
  | last t hlast => rw [withReturns_of_not_mem hlast]
  | line first rest hfirst ih =>
    have hrest : ¬ ['\r', '\n'] <:+: rest := fun hmem =>
      h (hmem.trans ⟨first ++ ['\n'], [], by simp⟩)
    rw [withReturns_append_newline hfirst, lines_append_return_newline hfirst,
      lines_append_newline hfirst, dropReturn_of_endsWith (endsWith_return_eq_false h), ih hrest]

/-- Whole lines without carriage returns are the same lines with returns before their line feeds,
whatever follows them. -/
theorem lines_withReturns_append {s : Text} (hreturn : '\r' ∉ s) (t : Text) :
    lines (withReturns (s ++ ['\n']) ++ t) = lines (s ++ '\n' :: t) := by
  induction s using line_induction with
  | last s hlast =>
    rw [withReturns_append_newline hlast, lines_append_newline hlast,
      dropReturn_of_not_mem hreturn, List.append_assoc]
    exact lines_append_return_newline hlast t
  | line first rest hfirst ih =>
    rw [List.mem_append, List.mem_cons, not_or, not_or] at hreturn
    rw [List.append_assoc, List.cons_append, withReturns_append_newline hfirst, List.append_assoc,
      List.cons_append, List.cons_append, lines_append_return_newline hfirst, ih hreturn.2.2,
      List.append_assoc, List.cons_append, lines_append_newline hfirst,
      dropReturn_of_not_mem hreturn.1]

theorem withReturns_eq_nil_iff {t : Text} : withReturns t = [] ↔ t = [] := by
  cases t with
  | nil => simp [withReturns]
  | cons c rest => by_cases hc : c = '\n' <;> simp [withReturns, hc]

theorem contentLines_withReturns {t : Text} (h : ¬ ['\r', '\n'] <:+: t) :
    contentLines (withReturns t) = contentLines t := by
  unfold contentLines
  rw [lines_withReturns h]
  simp only [List.isEmpty_iff, withReturns_eq_nil_iff]

end Text

/-- Reading a feature file sees nothing of its text but the lines. -/
theorem Feature.parse_eq_of_contentLines_eq {s t : Text}
    (h : Text.contentLines s = Text.contentLines t) : Feature.parse s = Feature.parse t := by
  have hlines (u : Text) : Feature.parse u = Feature.ofLines (Text.contentLines u) := by
    unfold Feature.parse Text.contentLines
    split
    · next hempty =>
      rw [List.isEmpty_iff.1 hempty]
      rfl
    · rfl
  rw [hlines s, hlines t, h]

end FeatureFixtures
