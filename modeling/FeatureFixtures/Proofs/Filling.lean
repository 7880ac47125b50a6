import FeatureFixtures.Proofs.Placeholders
import Mathlib.Data.List.Induction
import Mathlib.Data.List.Perm.Basic
/-!
# Filling in values at once

The values of an example are filled in column after column, and each column is replaced in what the
columns before it have made of the text. This is to fill them in at once if no placeholder is made:
with the values of all other columns in it, the text has no more placeholders of a column than it
had before. Then the order of the columns does not matter. And if a placeholder is made, some of the
columns in some order are not filled in at once.
-/

namespace FeatureFixtures

theorem exists_first_occurrence {pattern t : Text} (h : Text.occurrences pattern t ≠ 0) :
    ∃ l more, t = l ++ (pattern ++ more) ∧ Text.occurrences pattern l = 0 := by
  induction t with
  | nil => exact absurd rfl h
  | cons c t ih =>
    by_cases hstart : Text.startsWith (c :: t) pattern = true
    · obtain ⟨more, hmore⟩ := Text.startsWith_iff.1 hstart
      exact ⟨[], more, hmore, rfl⟩
    · rw [Text.occurrences, if_neg hstart, Nat.zero_add] at h
      obtain ⟨l, more, rfl, hfree⟩ := ih h
      refine ⟨c :: l, more, rfl, ?_⟩
      have hshort : Text.startsWith (c :: l) pattern ≠ true := fun hshort =>
        hstart (Text.startsWith_iff_isPrefix.2
          ((Text.startsWith_iff_isPrefix.1 hshort).trans (List.prefix_append (c :: l) _)))
      rw [Text.occurrences, if_neg hshort, hfree]

/-- A text is free of a placeholder, or it is two texts with the placeholder between them. -/
theorem placeholder_induction {b : Text} {P : Text → Prop}
    (free : ∀ l, Text.occurrences (placeholder b) l = 0 → P l)
    (step : ∀ l more, P l → P more → P (l ++ (placeholder b ++ more))) (t : Text) : P t := by
  induction hlength : t.length using Nat.strongRecOn generalizing t with
  | ind n ih =>
    by_cases hfree : Text.occurrences (placeholder b) t = 0
    · exact free t hfree
    · obtain ⟨l, more, rfl, hl⟩ := exists_first_occurrence hfree
      refine step l more (free l hl) (ih more.length ?_ more rfl)
      simp only [List.length_append, placeholder, List.length_cons] at hlength
      omega

namespace Values

variable {values others : Values} {b w t : Text}

/-! ### One column more -/

theorem fillAtOnce_nil (t : Text) : fillAtOnce [] t = t := by
  induction t with
  | nil => rfl
  | cons c t ih => rw [fillAtOnce_cons rfl, ih]

theorem fillAtOnce_singleton (name value t : Text) :
    fillAtOnce [(name, value)] t = Text.replaceAll (placeholder name) value t := by
  have hfrom (n : Nat) :
      fillFrom [(name, value)] n t = Text.replaceFrom (placeholder name) value n t := by
    induction t generalizing n with
    | nil => rw [fillFrom, Text.replaceFrom]
    | cons c t ih =>
      cases n with
      | succ n => exact ih n
      | zero =>
        have hlength : (placeholder name).length - 1 = name.length + 1 := by simp [placeholder]
        rw [fillFrom, Text.replaceFrom, hlength, ← ih, ← ih]
        by_cases hstart : Text.startsWith (c :: t) (placeholder name) = true <;>
          simp [columnAt?, hstart]
  exact hfrom 0

theorem AreApart.of_cons {column : Text × Text} (h : AreApart (column :: values)) :
    values.AreApart :=
  ⟨(List.nodup_cons.1 h.nodup).2, fun x hx y hy =>
    h.apart x (List.mem_cons_of_mem _ hx) y (List.mem_cons_of_mem _ hy)⟩

theorem AreApart.singleton (h : AreApart ((b, w) :: values)) : AreApart [(b, w)] := by
  have hparts : AreApart ([(b, w)] ++ values) := h
  exact hparts.of_append

theorem AreApart.fillAtOnce_perm (h : values.AreApart) (hperm : values.Perm others) (t : Text) :
    values.fillAtOnce t = others.fillAtOnce t :=
  fillFrom_congr (fun s _ _ => h.columnAt?_perm hperm s) 0

theorem fillAtOnce_of_free (values : Values) (w : Text)
    (hfree : Text.occurrences (placeholder b) t = 0) :
    fillAtOnce ((b, w) :: values) t = values.fillAtOnce t := by
  refine fillFrom_congr (fun s hs hne => ?_) 0
  have hnone := Text.occurrences_eq_zero_iff.1 hfree s hs hne
  exact List.find?_cons_of_neg (by simp [hnone])

theorem AreApart.fillAtOnce_barrier (h : AreApart ((b, w) :: values)) (l more : Text) :
    values.fillAtOnce (l ++ (placeholder b ++ more)) =
      values.fillAtOnce l ++ (placeholder b ++ values.fillAtOnce more) := by
  have hapart (column) (hcolumn : column ∈ values) : Apart column.1 b ∧ Apart b column.1 :=
    ⟨h.apart column (List.mem_cons_of_mem _ hcolumn) (b, w) List.mem_cons_self,
      h.apart (b, w) List.mem_cons_self column (List.mem_cons_of_mem _ hcolumn)⟩
  have hnew : b ∉ values.map Prod.fst := (List.nodup_cons.1 h.nodup).1
  rw [h.of_cons.fillAtOnce_append (fun column hcolumn => (hapart column hcolumn).1),
    fillAtOnce_rest (fun column hcolumn => ⟨(hapart column hcolumn).2, fun hsame =>
      hnew (hsame.2 ▸ List.mem_map_of_mem hcolumn)⟩) (List.nil_append _).symm]

theorem AreApart.fillAtOnce_column (h : AreApart ((b, w) :: values)) (l more : Text) :
    fillAtOnce ((b, w) :: values) (l ++ (placeholder b ++ more)) =
      fillAtOnce ((b, w) :: values) l ++ (w ++ fillAtOnce ((b, w) :: values) more) := by
  rw [h.fillAtOnce_append fun column hcolumn => h.apart column hcolumn (b, w) List.mem_cons_self,
    h.fillAtOnce_placeholder List.mem_cons_self]

/-! ### Placeholders that are made -/

theorem AreApart.occurrences_append (h : AreApart ((b, w) :: values)) (l more : Text) :
    Text.occurrences (placeholder b) (l ++ (placeholder b ++ more)) =
      Text.occurrences (placeholder b) l + (1 + Text.occurrences (placeholder b) more) := by
  have hsame := h.apart (b, w) List.mem_cons_self (b, w) List.mem_cons_self
  rw [occurrences_append_placeholder hsame hsame, if_pos rfl]

/-- The other columns take no placeholder away. -/
theorem AreApart.occurrences_le (h : AreApart ((b, w) :: values)) (t : Text) :
    Text.occurrences (placeholder b) t ≤
      Text.occurrences (placeholder b) (values.fillAtOnce t) := by
  induction t using placeholder_induction (b := b) with
  | free l hfree =>
    rw [hfree]
    exact Nat.zero_le _
  | step l more hl hmore =>
    rw [h.fillAtOnce_barrier, h.occurrences_append, h.occurrences_append]
    omega

/-- A column more makes no placeholder go away. -/
theorem AreApart.occurrences_cons_le {c v : Text} (h : AreApart ((b, w) :: (c, v) :: values))
    (t : Text) :
    Text.occurrences (placeholder b) (values.fillAtOnce t) ≤
      Text.occurrences (placeholder b) (fillAtOnce ((c, v) :: values) t) := by
  have hother : b ≠ c := fun hbc =>
    (List.nodup_cons.1 h.nodup).1 (hbc ▸ List.mem_cons_self)
  have hmem : (c, v) ∈ (b, w) :: (c, v) :: values := List.mem_cons_of_mem _ List.mem_cons_self
  have hbc : Apart b c := h.apart (b, w) List.mem_cons_self (c, v) hmem
  have hcb : Apart c b := h.apart (c, v) hmem (b, w) List.mem_cons_self
  induction t using placeholder_induction (b := c) with
  | free l hfree => exact Nat.le_of_eq (congrArg _ (fillAtOnce_of_free values v hfree).symm)
  | step l more hl hmore =>
    rw [h.of_cons.fillAtOnce_barrier, h.of_cons.fillAtOnce_column,
      occurrences_append_placeholder hbc hcb, if_neg hother, Nat.zero_add]
    have hvalue := Text.occurrences_append_le (placeholder b) v
      (fillAtOnce ((c, v) :: values) more)
    have hparts := Text.occurrences_append_le (placeholder b) (fillAtOnce ((c, v) :: values) l)
      (v ++ fillAtOnce ((c, v) :: values) more)
    omega

theorem AreApart.length_fillAtOnce (h : AreApart ((b, w) :: values)) (t : Text) :
    (fillAtOnce ((b, w) :: values) t).length +
        Text.occurrences (placeholder b) t * (placeholder b).length =
      (values.fillAtOnce t).length + Text.occurrences (placeholder b) t * w.length := by
  induction t using placeholder_induction (b := b) with
  | free l hfree =>
    rw [fillAtOnce_of_free values w hfree, hfree, Nat.zero_mul, Nat.zero_mul]
  | step l more hl hmore =>
    rw [h.fillAtOnce_barrier, h.fillAtOnce_column, h.occurrences_append]
    simp only [List.length_append, Nat.add_mul, Nat.one_mul]
    omega

/-- With the values in it, a text has more placeholders of a name than before. -/
def Makes (values : Values) (name t : Text) : Prop :=
  Text.occurrences (placeholder name) t < Text.occurrences (placeholder name) (values.fillAtOnce t)

instance (values : Values) (name t : Text) : Decidable (values.Makes name t) :=
  inferInstanceAs (Decidable (_ < _))

theorem AreApart.makes_append_iff (h : AreApart ((b, w) :: values)) (l more : Text) :
    values.Makes b (l ++ (placeholder b ++ more)) ↔ values.Makes b l ∨ values.Makes b more := by
  have hl := h.occurrences_le l
  have hmore := h.occurrences_le more
  rw [Makes, Makes, Makes, h.fillAtOnce_barrier, h.occurrences_append, h.occurrences_append]
  omega

/-! ### A column after the others -/

theorem AreApart.fillAtOnce_self (h : AreApart ((b, placeholder b) :: values)) (t : Text) :
    fillAtOnce ((b, placeholder b) :: values) t = values.fillAtOnce t := by
  induction t using placeholder_induction (b := b) with
  | free l hfree => exact fillAtOnce_of_free values _ hfree
  | step l more hl hmore => rw [h.fillAtOnce_barrier, h.fillAtOnce_column, hl, hmore]

theorem AreApart.fillAtOnce_of_not_makes (h : AreApart ((b, w) :: values))
    (hnot : ¬values.Makes b t) :
    fillAtOnce [(b, w)] (values.fillAtOnce t) = fillAtOnce ((b, w) :: values) t := by
  induction t using placeholder_induction (b := b) with
  | free l hfree =>
    rw [Makes, hfree, Nat.pos_iff_ne_zero, not_not] at hnot
    rw [fillAtOnce_of_free [] w hnot, fillAtOnce_nil, fillAtOnce_of_free values w hfree]
  | step l more hl hmore =>
    rw [h.makes_append_iff, not_or] at hnot
    rw [h.fillAtOnce_barrier, h.singleton.fillAtOnce_column, h.fillAtOnce_column, hl hnot.1,
      hmore hnot.2]

theorem AreApart.eq_placeholder_of_makes (h : AreApart ((b, w) :: values))
    (heq : fillAtOnce [(b, w)] (values.fillAtOnce t) = fillAtOnce ((b, w) :: values) t)
    (hmakes : values.Makes b t) : w = placeholder b := by
  -- The two texts are made of one text, but not by the same number of replacements.
  have hlength : w.length = (placeholder b).length := by
    have hafter := h.singleton.length_fillAtOnce (values.fillAtOnce t)
    have honce := h.length_fillAtOnce t
    rw [heq, fillAtOnce_nil] at hafter
    obtain ⟨n, hn⟩ := Nat.exists_eq_add_of_lt hmakes
    rw [hn, Nat.add_assoc, Nat.add_mul _ (n + 1) (placeholder b).length,
      Nat.add_mul _ (n + 1) w.length] at hafter
    have hscaled : (n + 1) * w.length = (n + 1) * (placeholder b).length := by omega
    exact Nat.eq_of_mul_eq_mul_left n.succ_pos hscaled
  have hsame (s : Text) : (fillAtOnce ((b, w) :: values) s).length =
      (fillAtOnce [(b, w)] (values.fillAtOnce s)).length := by
    have hafter := h.singleton.length_fillAtOnce (values.fillAtOnce s)
    have honce := h.length_fillAtOnce s
    rw [hlength] at hafter honce
    rw [fillAtOnce_nil] at hafter
    omega
  induction t using placeholder_induction (b := b) with
  | free l hfree =>
    rw [fillAtOnce_of_free values w hfree] at heq
    rw [Makes, hfree] at hmakes
    obtain ⟨before, more, hfirst, hbefore⟩ := exists_first_occurrence (Nat.pos_iff_ne_zero.1 hmakes)
    rw [hfirst, h.singleton.fillAtOnce_column, fillAtOnce_of_free [] w hbefore,
      fillAtOnce_nil] at heq
    exact (List.append_inj (List.append_cancel_left heq) hlength).1
  | step l more hl hmore =>
    rw [h.fillAtOnce_barrier, h.singleton.fillAtOnce_column, h.fillAtOnce_column] at heq
    obtain ⟨hfirst, hrest⟩ := List.append_inj heq (hsame l).symm
    rcases (h.makes_append_iff l more).1 hmakes with hmakes | hmakes
    · exact hl hfirst hmakes
    · exact hmore (List.append_cancel_left hrest) hmakes

/-- A column after the others is filled in at once with them if and only if they make none of its
placeholders, or its value is its placeholder. -/
theorem AreApart.fillAtOnce_singleton_iff (h : AreApart ((b, w) :: values)) :
    fillAtOnce [(b, w)] (values.fillAtOnce t) = fillAtOnce ((b, w) :: values) t ↔
      (values.Makes b t → w = placeholder b) := by
  refine ⟨h.eq_placeholder_of_makes, fun hnone => ?_⟩
  by_cases hmakes : values.Makes b t
  · obtain rfl := hnone hmakes
    rw [h.singleton.fillAtOnce_self, h.fillAtOnce_self, fillAtOnce_nil]
  · exact h.fillAtOnce_of_not_makes hmakes

/-! ### Column after column -/

theorem fill_append_singleton (values : Values) (b w t : Text) :
    fill (values ++ [(b, w)]) t = fillAtOnce [(b, w)] (values.fill t) := by
  rw [fillAtOnce_singleton, fill, List.foldl_append]
  rfl

theorem Makes.append_left (h : AreApart ((b, w) :: (others ++ values)))
    (hmakes : values.Makes b t) : (others ++ values).Makes b t := by
  induction others with
  | nil => exact hmakes
  | cons column others ih =>
    have hfewer : AreApart ((b, w) :: (others ++ values)) :=
      (h.perm (List.Perm.swap _ _ _)).of_cons
    have hmore : AreApart ((b, w) :: column :: (others ++ values)) := h
    exact Nat.lt_of_lt_of_le (ih hfewer) (hmore.occurrences_cons_le t)

/-- No column's placeholder is made by the other columns, but for a value that is the placeholder
itself. -/
def MakesNone (values : Values) (t : Text) : Prop :=
  ∀ column ∈ values, Makes (values.erase column) column.1 t → column.2 = placeholder column.1

instance (values : Values) (t : Text) : Decidable (values.MakesNone t) :=
  inferInstanceAs (Decidable (∀ column ∈ values, _))

theorem AreApart.fill_of_makesNone (h : values.AreApart) (hnone : values.MakesNone t)
    {chosen others : Values} (hperm : (chosen ++ others).Perm values) :
    chosen.fill t = chosen.fillAtOnce t := by
  induction chosen using List.reverseRecOn generalizing others with
  | nil => exact (fillAtOnce_nil t).symm
  | append_singleton chosen column ih =>
    obtain ⟨b, w⟩ := column
    have hlast : (chosen ++ [(b, w)]).Perm ((b, w) :: chosen) := List.perm_append_singleton _ _
    have hfewer : AreApart ((b, w) :: chosen) := (h.perm hperm.symm).of_append.perm hlast
    rw [List.append_assoc] at hperm
    have hnew : Makes chosen b t → w = placeholder b := by
      intro hmakes
      have hturned : ((b, w) :: others ++ chosen).Perm (chosen ++ (b, w) :: others) :=
        List.perm_append_comm
      have hfirst : ((b, w) :: (others ++ chosen)).Perm values := hturned.trans hperm
      have hapart : AreApart ((b, w) :: (others ++ chosen)) := h.perm hfirst.symm
      have hothers : (others ++ chosen).Perm (values.erase (b, w)) := by
        simpa using hfirst.erase (b, w)
      refine hnone (b, w) (hfirst.subset List.mem_cons_self) ?_
      unfold Makes
      rw [← hapart.of_cons.fillAtOnce_perm hothers]
      exact Makes.append_left hapart hmakes
    rw [fill_append_singleton, ih hperm, hfewer.fillAtOnce_singleton_iff.2 hnew]
    exact hfewer.fillAtOnce_perm hlast.symm t

/-- The columns chosen from some are filled in at once, whichever are chosen and in whatever order,
if and only if no placeholder is made. -/
theorem AreApart.fill_eq_fillAtOnce_iff (h : values.AreApart) :
    (∀ chosen others : Values, (chosen ++ others).Perm values →
      chosen.fill t = chosen.fillAtOnce t) ↔ values.MakesNone t := by
  refine ⟨fun hall column hcolumn => ?_, fun hnone chosen others => h.fill_of_makesNone hnone⟩
  obtain ⟨b, w⟩ := column
  have hfirst : values.Perm ((b, w) :: values.erase (b, w)) := List.perm_cons_erase hcolumn
  have hlast : (values.erase (b, w) ++ [(b, w)]).Perm ((b, w) :: values.erase (b, w)) :=
    List.perm_append_singleton _ _
  have hapart : AreApart ((b, w) :: values.erase (b, w)) := h.perm hfirst
  -- The other columns, and this one after them.
  have hothers := hall (values.erase (b, w)) [(b, w)] (hlast.trans hfirst.symm)
  have hboth := hall (values.erase (b, w) ++ [(b, w)]) [] (by simpa using hlast.trans hfirst.symm)
  rw [fill_append_singleton, hothers, (hapart.perm hlast.symm).fillAtOnce_perm hlast] at hboth
  exact hapart.fillAtOnce_singleton_iff.1 hboth

end Values

end FeatureFixtures
