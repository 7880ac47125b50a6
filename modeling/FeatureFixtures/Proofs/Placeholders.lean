import FeatureFixtures.Feature.Example
import Mathlib.Data.List.Nodup
/-!
# Placeholders in texts

To fill in values at once is to look for the placeholders of all columns together, from the left,
and not to look into what was put in. The placeholders of some columns are apart if no two of them
can overlap in a text, as is so where no name of a column holds an angle bracket. Then a placeholder
in a text is a barrier: what stands before it and what stands behind it are searched one by one.
-/

namespace FeatureFixtures

namespace Text

/-- The number of places at which a pattern begins in a text. -/
def occurrences (pattern : Text) : Text → Nat
  | [] => 0
  | c :: t => (if startsWith (c :: t) pattern then 1 else 0) + occurrences pattern t

theorem startsWith_iff_isPrefix {t beginning : Text} :
    startsWith t beginning = true ↔ beginning <+: t := by
  rw [startsWith_iff]
  exact ⟨fun ⟨rest, h⟩ => ⟨rest, h.symm⟩, fun ⟨rest, h⟩ => ⟨rest, h.symm⟩⟩

theorem occurrences_eq_zero_iff {pattern t : Text} :
    occurrences pattern t = 0 ↔ ∀ s, s <:+ t → s ≠ [] → startsWith s pattern = false := by
  induction t with
  | nil => simp [occurrences]
  | cons c t ih =>
    simp only [occurrences, Nat.add_eq_zero_iff, ih, List.suffix_cons_iff]
    constructor
    · rintro ⟨hfirst, hrest⟩ s (rfl | hs) hne
      · simpa using hfirst
      · exact hrest s hs hne
    · intro h
      exact ⟨by simp [h (c :: t) (.inl rfl) (by simp)], fun s hs => h s (.inr hs)⟩

theorem occurrences_append_le (pattern s t : Text) :
    occurrences pattern s + occurrences pattern t ≤ occurrences pattern (s ++ t) := by
  induction s with
  | nil => simp [occurrences]
  | cons c s ih =>
    have hfirst : (if startsWith (c :: s) pattern then 1 else 0) ≤
        if startsWith (c :: s ++ t) pattern then 1 else 0 := by
      split
      · next hstart =>
        have hlonger := (startsWith_iff_isPrefix.1 hstart).trans (List.prefix_append (c :: s) t)
        exact Nat.le_of_eq (if_pos (startsWith_iff_isPrefix.2 hlonger)).symm
      · exact Nat.zero_le _
    simp only [occurrences, List.cons_append] at hfirst ih ⊢
    omega

end Text

theorem find?_congr {α : Type} {p q : α → Bool} {xs : List α} (h : ∀ x ∈ xs, p x = q x) :
    xs.find? p = xs.find? q := by
  induction xs with
  | nil => rfl
  | cons x xs ih =>
    rw [List.forall_mem_cons] at h
    rw [List.find?_cons, List.find?_cons, h.1, ih h.2]

theorem find?_eq_some_of_unique {α : Type} {p : α → Bool} {xs : List α} {x : α} (hx : x ∈ xs)
    (hp : p x = true) (h : ∀ y ∈ xs, p y = true → y = x) : xs.find? p = some x := by
  cases hfind : xs.find? p with
  | none => exact absurd hp (List.find?_eq_none.1 hfind x hx)
  | some y => rw [h y (List.mem_of_find?_eq_some hfind) (List.find?_some hfind)]

/-! ### Placeholders that are apart -/

theorem placeholder_ne_nil (name : Text) : placeholder name ≠ [] :=
  List.cons_ne_nil _ _

/-- A placeholder of the second name begins within one of the first only if it is the same. -/
def Apart (a b : Text) : Prop :=
  ∀ before rest, placeholder a = before ++ rest → rest ≠ [] →
    (rest <+: placeholder b ∨ placeholder b <+: rest) → before = [] ∧ a = b

theorem apart_of_notMem {a b : Text} (ha : '<' ∉ a ∧ '>' ∉ a) (hb : '<' ∉ b ∧ '>' ∉ b) :
    Apart a b := by
  -- A placeholder is determined by where it ends.
  have hsame {s t : Text} (hs : '>' ∉ s) (h : placeholder t <+: placeholder s) : s = t := by
    obtain ⟨more, hmore⟩ := h
    have hclosed : s ++ '>' :: [] = t ++ '>' :: more := by
      simpa [placeholder] using hmore.symm
    exact ((List.append_cons_inj_of_notMem hs (by simp)).1 hclosed).1
  intro before rest heq hrest hcomparable
  have hhead : rest.head? = some '<' := by
    rcases hcomparable with ⟨more, hmore⟩ | ⟨more, rfl⟩
    · obtain ⟨c, others, rfl⟩ := List.exists_cons_of_ne_nil hrest
      rw [(List.cons.inj hmore).1]
      rfl
    · rfl
  cases before with
  | nil =>
    rw [List.nil_append] at heq
    subst heq
    refine ⟨rfl, ?_⟩
    rcases hcomparable with hprefix | hprefix
    · exact (hsame hb.2 hprefix).symm
    · exact hsame ha.2 hprefix
  | cons c before =>
    have htail : a ++ ['>'] = before ++ rest := (List.cons.inj heq).2
    have hmem : '<' ∈ a ++ ['>'] := by
      rw [htail]
      exact List.mem_append_right _ (List.mem_of_mem_head? hhead)
    simp [ha.1] at hmem

theorem Apart.startsWith_rest {a b before rest : Text} (h : Apart a b)
    (heq : placeholder a = before ++ rest) (hrest : rest ≠ []) {more : Text}
    (hstart : Text.startsWith (rest ++ more) (placeholder b) = true) : before = [] ∧ a = b :=
  h before rest heq hrest (List.prefix_or_prefix_of_prefix (List.prefix_append rest more)
    (Text.startsWith_iff_isPrefix.1 hstart))

theorem Apart.startsWith_append {a b l : Text} (h : Apart a b) (hl : l ≠ []) (more : Text) :
    Text.startsWith (l ++ (placeholder b ++ more)) (placeholder a) =
      Text.startsWith l (placeholder a) := by
  rw [Bool.eq_iff_iff, Text.startsWith_iff_isPrefix, Text.startsWith_iff_isPrefix]
  refine ⟨fun hprefix => ?_, fun hprefix => hprefix.trans (List.prefix_append _ _)⟩
  rcases List.prefix_or_prefix_of_prefix hprefix (List.prefix_append _ _) with
    hshort | ⟨rest, hrest⟩
  · exact hshort
  · by_cases hnil : rest = []
    · have hwhole : l = placeholder a := by rw [← hrest, hnil, List.append_nil]
      exact hwhole ▸ List.prefix_refl l
    · rw [← hrest, List.prefix_append_right_inj] at hprefix
      have hcomparable :=
        List.prefix_or_prefix_of_prefix hprefix (List.prefix_append (placeholder b) more)
      exact absurd (h l rest hrest.symm hnil hcomparable).1 hl

theorem Apart.occurrences_rest {a b before rest : Text} (h : Apart b a)
    (heq : placeholder b = before ++ rest) (hother : ¬(before = [] ∧ b = a)) (more : Text) :
    Text.occurrences (placeholder a) (rest ++ more) = Text.occurrences (placeholder a) more := by
  induction rest generalizing before with
  | nil => rfl
  | cons c rest ih =>
    have hnone : Text.startsWith (c :: rest ++ more) (placeholder a) ≠ true := fun hstart =>
      hother (h.startsWith_rest heq (List.cons_ne_nil c rest) hstart)
    rw [List.cons_append] at hnone ⊢
    have hnext : placeholder b = (before ++ [c]) ++ rest := by rw [heq]; simp
    rw [Text.occurrences, if_neg hnone, Nat.zero_add, ih hnext (by simp)]

theorem occurrences_placeholder_append {a b : Text} (hba : Apart b a) (more : Text) :
    Text.occurrences (placeholder a) (placeholder b ++ more) =
      (if a = b then 1 else 0) + Text.occurrences (placeholder a) more := by
  by_cases hab : a = b
  · subst hab
    have hfirst : placeholder a = '<' :: (a ++ ['>']) := rfl
    have hstart := Text.startsWith_iff_isPrefix.2 (List.prefix_append (placeholder a) more)
    have hrest := hba.occurrences_rest (List.singleton_append ▸ hfirst) (by simp) more
    rw [hfirst, List.cons_append] at hstart ⊢
    rw [Text.occurrences, if_pos hstart, if_pos rfl, ← hfirst, hrest]
  · rw [if_neg hab, Nat.zero_add]
    exact hba.occurrences_rest (List.nil_append _).symm (fun h => hab h.2.symm) more

theorem occurrences_append_placeholder {a b : Text} (hab : Apart a b) (hba : Apart b a)
    (l more : Text) :
    Text.occurrences (placeholder a) (l ++ (placeholder b ++ more)) =
      Text.occurrences (placeholder a) l + ((if a = b then 1 else 0) +
        Text.occurrences (placeholder a) more) := by
  induction l with
  | nil =>
    rw [List.nil_append, occurrences_placeholder_append hba, Text.occurrences, Nat.zero_add]
  | cons c l ih =>
    have hfirst := hab.startsWith_append (List.cons_ne_nil c l) more
    rw [List.cons_append] at hfirst ⊢
    rw [Text.occurrences, hfirst, ih, Text.occurrences, Nat.add_assoc]

namespace Values

/-- The column whose placeholder a text begins with. -/
def columnAt? (values : Values) (t : Text) : Option (Text × Text) :=
  values.find? fun column => Text.startsWith t (placeholder column.1)

/-- A text with the values in place of the placeholders of all columns. The counter tells how many
characters of the last placeholder are still to be passed over. -/
def fillFrom (values : Values) : Nat → Text → Text
  | _, [] => []
  | n + 1, _ :: t => values.fillFrom n t
  | 0, c :: t =>
    match values.columnAt? (c :: t) with
    | some (name, value) => value ++ values.fillFrom (name.length + 1) t
    | none => c :: values.fillFrom 0 t

/-- A text with the values of all columns filled in at once. -/
def fillAtOnce (values : Values) (t : Text) : Text :=
  values.fillFrom 0 t

/-- Columns with different names, whose placeholders are apart. -/
structure AreApart (values : Values) : Prop where
  nodup : (values.map Prod.fst).Nodup
  apart : ∀ column ∈ values, ∀ other ∈ values, Apart column.1 other.1

variable {values others : Values} {column : Text × Text}

theorem AreApart.perm (h : values.AreApart) (hperm : values.Perm others) : others.AreApart :=
  ⟨(hperm.map Prod.fst).nodup_iff.1 h.nodup, fun column hcolumn other hother =>
    h.apart column (hperm.mem_iff.2 hcolumn) other (hperm.mem_iff.2 hother)⟩

theorem AreApart.of_append (h : (values ++ others).AreApart) : values.AreApart :=
  ⟨(List.map_append ▸ h.nodup).of_append_left, fun column hcolumn other hother =>
    h.apart column (List.mem_append_left _ hcolumn) other (List.mem_append_left _ hother)⟩

/-- At most one placeholder begins at a place. -/
theorem AreApart.columnAt?_eq_some_iff (h : values.AreApart) {t : Text} :
    values.columnAt? t = some column ↔
      column ∈ values ∧ Text.startsWith t (placeholder column.1) = true := by
  constructor
  · intro hfind
    unfold columnAt? at hfind
    exact ⟨List.mem_of_find?_eq_some hfind, by simpa using List.find?_some hfind⟩
  · rintro ⟨hmem, hstart⟩
    refine find?_eq_some_of_unique hmem hstart fun other hother hstart' => ?_
    have hcomparable := List.prefix_or_prefix_of_prefix (Text.startsWith_iff_isPrefix.1 hstart')
      (Text.startsWith_iff_isPrefix.1 hstart)
    have hname := (h.apart other hother column hmem [] _ (List.nil_append _).symm
      (placeholder_ne_nil _) hcomparable).2
    exact List.inj_on_of_nodup_map h.nodup hother hmem hname

theorem AreApart.columnAt?_perm (h : values.AreApart) (hperm : values.Perm others) (t : Text) :
    values.columnAt? t = others.columnAt? t := by
  refine Option.ext fun column => ?_
  rw [h.columnAt?_eq_some_iff, (h.perm hperm).columnAt?_eq_some_iff, hperm.mem_iff]

theorem fillFrom_congr {t : Text}
    (h : ∀ s, s <:+ t → s ≠ [] → values.columnAt? s = others.columnAt? s) (n : Nat) :
    values.fillFrom n t = others.fillFrom n t := by
  induction t generalizing n with
  | nil => rw [fillFrom, fillFrom]
  | cons c t ih =>
    have hrest := ih fun s hs => h s (hs.trans (List.suffix_cons c t))
    cases n with
    | succ n => exact hrest n
    | zero =>
      rw [fillFrom, fillFrom, h (c :: t) (List.suffix_refl _) (List.cons_ne_nil _ _)]
      split
      · rw [hrest]
      · rw [hrest]

theorem fillFrom_eq_drop (values : Values) (n : Nat) (t : Text) :
    values.fillFrom n t = values.fillAtOnce (t.drop n) := by
  induction t generalizing n with
  | nil => rw [List.drop_nil, fillAtOnce, fillFrom, fillFrom]
  | cons c t ih =>
    cases n with
    | zero => rfl
    | succ n => exact ih n

theorem fillAtOnce_cons {c : Char} {t : Text} (h : values.columnAt? (c :: t) = none) :
    values.fillAtOnce (c :: t) = c :: values.fillAtOnce t := by
  rw [fillAtOnce, fillFrom, h]
  rfl

theorem AreApart.fillAtOnce_placeholder (h : values.AreApart) (hcolumn : column ∈ values)
    (more : Text) :
    values.fillAtOnce (placeholder column.1 ++ more) = column.2 ++ values.fillAtOnce more := by
  have hstart := Text.startsWith_iff_isPrefix.2 (List.prefix_append (placeholder column.1) more)
  have hfind := h.columnAt?_eq_some_iff.2 ⟨hcolumn, hstart⟩
  have hfirst : placeholder column.1 ++ more = '<' :: (column.1 ++ ['>'] ++ more) := rfl
  have hdrop : (column.1 ++ ['>'] ++ more).drop (column.1.length + 1) = more := by
    rw [List.drop_left' (by simp)]
  rw [hfirst] at hfind ⊢
  rw [fillAtOnce, fillFrom, hfind]
  dsimp only
  rw [fillFrom_eq_drop, hdrop]

/-- The part of another placeholder is not filled in. -/
theorem fillAtOnce_rest {b before rest : Text}
    (h : ∀ column ∈ values, Apart b column.1 ∧ ¬(before = [] ∧ b = column.1))
    (heq : placeholder b = before ++ rest) (more : Text) :
    values.fillAtOnce (rest ++ more) = rest ++ values.fillAtOnce more := by
  induction rest generalizing before with
  | nil => rfl
  | cons c rest ih =>
    have hnone : values.columnAt? (c :: rest ++ more) = none := by
      refine List.find?_eq_none.2 fun column hcolumn hstart => ?_
      obtain ⟨hapart, hother⟩ := h column hcolumn
      exact hother (hapart.startsWith_rest heq (List.cons_ne_nil c rest) hstart)
    rw [List.cons_append] at hnone ⊢
    have hnext : placeholder b = (before ++ [c]) ++ rest := by rw [heq]; simp
    rw [fillAtOnce_cons hnone, ih (fun column hcolumn => ⟨(h column hcolumn).1, by simp⟩) hnext]
    rfl

/-- A placeholder is a barrier: what stands before it is filled in as if it stood alone. -/
theorem AreApart.fillAtOnce_append (h : values.AreApart) {b : Text}
    (hb : ∀ column ∈ values, Apart column.1 b) (l more : Text) :
    values.fillAtOnce (l ++ (placeholder b ++ more)) =
      values.fillAtOnce l ++ values.fillAtOnce (placeholder b ++ more) := by
  -- By induction on what stands before, placeholder by placeholder and character by character.
  induction hlength : l.length using Nat.strongRecOn generalizing l with
  | ind n ih =>
    cases l with
    | nil => rfl
    | cons c l =>
      have hsame : values.columnAt? (c :: l ++ (placeholder b ++ more)) =
          values.columnAt? (c :: l) :=
        find?_congr fun column hcolumn =>
          (hb column hcolumn).startsWith_append (List.cons_ne_nil c l) more
      cases hfind : values.columnAt? (c :: l) with
      | none =>
        rw [hfind, List.cons_append] at hsame
        rw [List.cons_append, fillAtOnce_cons hsame, fillAtOnce_cons hfind,
          ih l.length (by simp [← hlength]) l rfl, List.cons_append]
      | some column =>
        obtain ⟨hcolumn, hstart⟩ := h.columnAt?_eq_some_iff.1 hfind
        obtain ⟨rest, hrest⟩ := Text.startsWith_iff.1 hstart
        have hshort : rest.length < n := by
          rw [← hlength, hrest, List.length_append]
          simp [placeholder]
        rw [hrest, List.append_assoc, h.fillAtOnce_placeholder hcolumn,
          h.fillAtOnce_placeholder hcolumn, ih rest.length hshort rest rfl, List.append_assoc]

end Values

end FeatureFixtures
