import FeatureFixtures.Proofs.Separators
/-!
# Recorded paths

A path with a backslash is taken apart at its backslashes only, and what stands between them is
recorded with its dots and its empty parts; a path without one is recorded without them. So the
recorded path depends on the style of separators wherever there are such parts. Recording it once
more removes them, and gives the same path for every style.
-/

namespace FeatureFixtures

namespace Path

/-- Whether a path with backslashes names something in each part between slashes, wherever anything
stands between two backslashes at all. -/
def IsPlain (path : Text) : Prop :=
  '\\' ∈ path → ∀ part ∈ path.splitOn '\\', part ≠ [] → ∀ name ∈ part.splitOn '/',
    isNamed name = true

/-- Whether no choice of separators can leave a dot or an empty piece between them in the recorded
path. A single separator leaves no empty piece, because nothing is recorded on that side of it. -/
def IsStyleFree (path : Text) : Prop :=
  (pieces path).length = 1 ∨
    ['.'] ∉ pieces path ∧ ([] ∉ pieces path ∨ (pieces path).length = 2)

instance (path : Text) : Decidable (IsPlain path) :=
  inferInstanceAs (Decidable (_ → ∀ part ∈ _, _ → ∀ name ∈ _, _))

instance (path : Text) : Decidable (IsStyleFree path) :=
  inferInstanceAs (Decidable (_ ∨ _))

variable {path other part : Text}

theorem backslash_notMem_recorded (path : Text) : '\\' ∉ recorded path := by
  by_cases h : '\\' ∈ path
  · rw [recorded_of_mem h]
    refine Text.notMem_join (by decide) fun part hpart hmem => ?_
    exact (Text.mem_and_ne_of_mem_splitOn (List.mem_filter.1 hpart).1 '\\' hmem).2 rfl
  · rw [recorded_of_notMem h]
    refine Text.notMem_join (by decide) fun part hpart => ?_
    exact (notMem_of_mem_pieces (List.mem_filter.1 hpart).1).2

theorem recorded_recorded (path : Text) : recorded (recorded path) = unified path := by
  rw [recorded_of_notMem (backslash_notMem_recorded path), unified_recorded]

/-- A path without backslashes is its segments between single slashes if each part is one. -/
theorem unified_eq_self_iff (h : '\\' ∉ path) :
    unified path = path ↔ path = [] ∨ ∀ name ∈ path.splitOn '/', isNamed name = true := by
  unfold unified segments
  rw [pieces_of_notMem h]
  constructor
  · intro hself
    by_cases hnil : path = []
    · exact .inl hnil
    · right
      have hne : (path.splitOn '/').filter isNamed ≠ [] := by
        intro hempty
        rw [hempty] at hself
        exact hnil hself.symm
      have hslashes : ∀ name ∈ (path.splitOn '/').filter isNamed, '/' ∉ name := by
        intro name hname hmem
        exact (Text.mem_and_ne_of_mem_splitOn (List.mem_filter.1 hname).1 '/' hmem).2 rfl
      have hsplit := List.splitOn_intercalate '/' hslashes hne
      rw [← Text.join, hself] at hsplit
      exact List.filter_eq_self.1 hsplit.symm
  · rintro (rfl | hnamed)
    · rfl
    · rw [List.filter_eq_self.2 hnamed, Text.join, List.intercalate_splitOn]

/-- With a backslash, a path is plain if nothing is recorded of it, or names alone are. -/
theorem isPlain_iff_of_mem (h : '\\' ∈ path) : IsPlain path ↔
    recorded path = [] ∨ ∀ name ∈ pieces (recorded path), isNamed name = true := by
  rw [recorded_of_mem h]
  set kept := (path.splitOn '\\').filter (!·.isEmpty) with hkept
  have hmem (part : Text) : part ∈ kept ↔ part ∈ path.splitOn '\\' ∧ part ≠ [] := by
    simp [hkept]
  have hplain : IsPlain path ↔ ∀ part ∈ kept, ∀ name ∈ pieces part, isNamed name = true := by
    constructor
    · intro hplain part hpart
      obtain ⟨hsplit, hne⟩ := (hmem part).1 hpart
      rw [pieces_of_mem_splitOn hsplit]
      exact hplain h part hsplit hne
    · intro hnamed _ part hsplit hne
      rw [← pieces_of_mem_splitOn hsplit]
      exact hnamed part ((hmem part).2 ⟨hsplit, hne⟩)
  rw [hplain]
  rcases hfirst : kept with _ | ⟨first, rest⟩
  · exact iff_of_true (by simp) (.inl rfl)
  · have hne : first ≠ [] := ((hmem first).1 (hfirst ▸ List.mem_cons_self)).2
    rw [pieces_join rfl (List.cons_ne_nil first rest), List.forall_mem_flatMap,
      or_iff_right (Text.join_cons_ne_nil hne ['/'] rest)]

theorem recorded_eq_unified_iff (path : Text) : recorded path = unified path ↔ IsPlain path := by
  by_cases h : '\\' ∈ path
  · have hback := backslash_notMem_recorded path
    rw [isPlain_iff_of_mem h, pieces_of_notMem hback, ← unified_eq_self_iff hback,
      unified_recorded, eq_comm]
  · rw [recorded_of_notMem h]
    exact iff_of_true rfl fun hmem => absurd hmem h

/-! ### Every style at once -/

theorem length_pieces_pos (path : Text) : 0 < (pieces path).length :=
  List.length_pos_iff.2 (List.splitOnP_ne_nil isSeparator path)

theorem two_le_length_pieces {c : Char} (hc : isSeparator c = true) (hmem : c ∈ path) :
    2 ≤ (pieces path).length := by
  obtain ⟨before, after, rfl⟩ := List.append_of_mem hmem
  have hbefore := length_pieces_pos before
  have hafter := length_pieces_pos after
  rw [pieces_append_cons _ _ hc, List.length_append]
  omega

theorem three_le_length_pieces (hback : '\\' ∈ path) (hslash : '/' ∈ path) :
    3 ≤ (pieces path).length := by
  obtain ⟨before, after, rfl⟩ := List.append_of_mem hback
  have hbefore := length_pieces_pos before
  have hafter := length_pieces_pos after
  rw [pieces_append_cons _ _ rfl, List.length_append]
  rcases List.mem_append.1 hslash with hmem | hmem
  · have htwo := two_le_length_pieces rfl hmem
    omega
  · have hafterSlash : '/' ∈ after := (List.mem_cons.1 hmem).resolve_left (by decide)
    have htwo := two_le_length_pieces rfl hafterSlash
    omega

theorem IsStyleFree.isPlain (h : IsStyleFree path) (hstyle : Restyled path other) :
    IsPlain other := by
  intro hback part hpart hne name hname
  have hpiece : name ∈ pieces other := by
    rw [pieces_eq_flatMap]
    exact List.mem_flatMap.2 ⟨part, hpart, hname⟩
  have htwo := two_le_length_pieces rfl hback
  unfold IsStyleFree at h
  rw [← hstyle.pieces_eq] at h
  rcases h with hone | ⟨hdot, hempty⟩
  · omega
  · have hnotDot : name ≠ ['.'] := fun heq => hdot (heq ▸ hpiece)
    have hnotEmpty : name ≠ [] := by
      rintro rfl
      rcases hempty with hempty | hlength
      · exact hempty hpiece
      · -- An empty part of a part that is not empty lies beside a slash.
        have hslash : '/' ∈ part := by
          by_contra hslash
          rw [List.splitOn_eq_singleton hslash, List.mem_singleton] at hname
          exact hne hname.symm
        have hthree := three_le_length_pieces hback
          (Text.mem_and_ne_of_mem_splitOn hpart '/' hslash).1
        omega
    simp [isNamed, hnotDot, hnotEmpty]

/-- Two neighbours among the parts of a path, one of which is empty, and at least one part more. -/
theorem exists_neighbours {parts : List Text} (hmem : [] ∈ parts) (hlength : 3 ≤ parts.length) :
    ∃ before after : List Text, ∃ a b : Text, parts = before ++ a :: b :: after ∧
      (a = [] ∨ b = []) ∧ 2 ≤ (before ++ (a ++ '/' :: b) :: after).length := by
  obtain ⟨before, after, rfl⟩ := List.append_of_mem hmem
  cases after with
  | cons next after =>
    refine ⟨before, after, [], next, rfl, .inl rfl, ?_⟩
    simp only [List.length_append, List.length_cons] at hlength ⊢
    omega
  | nil =>
    rcases List.eq_nil_or_concat before with rfl | ⟨before, last, rfl⟩
    · simp at hlength
    · refine ⟨before, [], last, [], by simp, .inr rfl, ?_⟩
      simp only [List.length_append, List.length_cons, List.concat_eq_append] at hlength ⊢
      omega

/-- Parts without backslashes, joined by backslashes, are plain only if all their names are. -/
theorem isNamed_of_isPlain_join {parts : List Text} (hback : ∀ part ∈ parts, '\\' ∉ part)
    (hlength : 2 ≤ parts.length) (h : IsPlain (Text.join ['\\'] parts)) (hpart : part ∈ parts)
    (hne : part ≠ []) : ∀ name ∈ part.splitOn '/', isNamed name = true := by
  have hsplit : (Text.join ['\\'] parts).splitOn '\\' = parts :=
    List.splitOn_intercalate '\\' hback (by rintro rfl; simp at hlength)
  have hmem : '\\' ∈ Text.join ['\\'] parts := by
    by_contra hmem
    rw [List.splitOn_eq_singleton hmem] at hsplit
    rw [← hsplit] at hlength
    simp at hlength
  exact h hmem part (hsplit.symm ▸ hpart) hne

/-- A slash beside an empty piece, and backslashes everywhere else. -/
theorem exists_not_isPlain_of_neighbours {before after : List Text} {a b : Text}
    (hpieces : pieces path = before ++ a :: b :: after) (hab : a = [] ∨ b = [])
    (hlength : 2 ≤ (before ++ (a ++ '/' :: b) :: after).length) :
    ∃ other, Restyled path other ∧ ¬ IsPlain other := by
  have hpart (part : Text) (hmem : part ∈ before ++ a :: b :: after) :
      pieces part = [part] ∧ '/' ∉ part ∧ '\\' ∉ part := by
    rw [← hpieces] at hmem
    exact ⟨pieces_of_mem_pieces hmem, notMem_of_mem_pieces hmem⟩
  have ha := hpart a (by simp)
  have hb := hpart b (by simp)
  have hflat : (before ++ (a ++ '/' :: b) :: after).flatMap pieces = pieces path := by
    have hside {side : List Text} (hside : ∀ part ∈ side, part ∈ before ++ a :: b :: after) :
        side.flatMap pieces = side :=
      Text.flatMap_eq_self fun part hmem => (hpart part (hside part hmem)).1
    rw [hpieces, List.flatMap_append, List.flatMap_cons, pieces_append_cons _ _ rfl, ha.1, hb.1,
      hside fun part hmem => by simp [hmem], hside fun part hmem => by simp [hmem]]
    rfl
  refine ⟨_, restyled_join '\\' rfl hflat, fun hplain => ?_⟩
  have hback : ∀ part ∈ before ++ (a ++ '/' :: b) :: after, '\\' ∉ part := by
    intro part hmem
    rw [List.mem_append, List.mem_cons] at hmem
    rcases hmem with hmem | rfl | hmem
    · exact (hpart part (by simp [hmem])).2.2
    · simp [ha.2.2, hb.2.2]
    · exact (hpart part (by simp [hmem])).2.2
  have hsplit : (a ++ '/' :: b).splitOn '/' = [a, b] := by
    rw [List.splitOn_append_cons_self, List.splitOn_eq_singleton ha.2.1,
      List.splitOn_eq_singleton hb.2.1]
    rfl
  have hmem : a ++ '/' :: b ∈ before ++ (a ++ '/' :: b) :: after := by simp
  have hnamed := isNamed_of_isPlain_join hback hlength hplain hmem (by simp)
  rw [hsplit] at hnamed
  have hempty : [] ∈ [a, b] := by
    rcases hab with rfl | rfl <;> simp
  exact absurd (hnamed [] hempty) (by decide)

theorem isStyleFree_of_isPlain (h : ∀ other, Restyled path other → IsPlain other) :
    IsStyleFree path := by
  by_cases hone : (pieces path).length = 1
  · exact .inl hone
  have htwo : 2 ≤ (pieces path).length := by
    have hpos := length_pieces_pos path
    omega
  refine .inr ⟨fun hdot => ?_, ?_⟩
  · have hplain := h _ (restyled_join '\\' rfl (flatMap_pieces_pieces path))
    have hnamed := isNamed_of_isPlain_join (fun part hpart => (notMem_of_mem_pieces hpart).2) htwo
      hplain hdot (by decide) ['.'] (by decide)
    exact absurd hnamed (by decide)
  · by_contra hempty
    rw [not_or, not_not] at hempty
    obtain ⟨before, after, a, b, hpieces, hab, hlength⟩ :=
      exists_neighbours hempty.1 (by omega)
    obtain ⟨other, hstyle, hplain⟩ := exists_not_isPlain_of_neighbours hpieces hab hlength
    exact hplain (h other hstyle)

theorem forall_recorded_eq_iff (path : Text) :
    (∀ other, Restyled path other → recorded other = recorded path) ↔ IsStyleFree path := by
  constructor
  · intro h
    -- Written with slashes alone, the path is recorded as its segments.
    have hslashes := restyled_join '/' rfl (flatMap_pieces_pieces path)
    have hunified : recorded path = unified path := by
      rw [← h _ hslashes, recorded_of_notMem, hslashes.unified_eq]
      exact Text.notMem_join (by decide) fun part hpart => (notMem_of_mem_pieces hpart).2
    refine isStyleFree_of_isPlain fun other hstyle => (recorded_eq_unified_iff other).1 ?_
    rw [h other hstyle, hunified, hstyle.unified_eq]
  · intro h other hstyle
    rw [(recorded_eq_unified_iff other).2 (h.isPlain hstyle),
      (recorded_eq_unified_iff path).2 (h.isPlain (Restyled.refl path)), hstyle.unified_eq]

/-- **Recording does not depend on the style of separators** exactly if the path has none, or has no
dot among its pieces and no empty piece, which does no harm beside a single separator. What is
recorded stays as it is when it is recorded again exactly if the path is plain. Recorded two times,
a path has the same form in every style. -/
theorem recorded_styles (path : Text) :
    ((∀ other, Restyled path other → recorded other = recorded path) ↔ IsStyleFree path) ∧
    (recorded (recorded path) = recorded path ↔ IsPlain path) ∧
    ∀ other, Restyled path other → recorded (recorded other) = recorded (recorded path) := by
  refine ⟨forall_recorded_eq_iff path, ?_, fun other hstyle => ?_⟩
  · rw [recorded_recorded, eq_comm, recorded_eq_unified_iff]
  · rw [recorded_recorded, recorded_recorded, hstyle.unified_eq]

/-- A single separator at the end of a path, in both styles. -/
theorem recorded_styles_folder :
    let path : Text := "specs/"
    let other : Text := "specs\\"
    IsStyleFree path ∧ Restyled path other ∧ recorded other = recorded path ∧
    recorded (recorded other) = recorded other := by
  intro path other
  have hfree : IsStyleFree path := by decide
  have hstyle : Restyled path other := restyled_iff.2 (by decide)
  exact ⟨hfree, hstyle, (recorded_styles path).1.2 hfree other hstyle,
    (recorded_styles other).2.1.2 (hfree.isPlain hstyle)⟩

/-- A dot stays in front of a backslash, and is removed in front of a slash. -/
theorem recorded_ne_of_dot :
    let path : Text := ".\\a.feature"
    let other : Text := "./a.feature"
    Restyled path other ∧ recorded path = other ∧ recorded other = "a.feature" ∧
    recorded other ≠ recorded path ∧ recorded (recorded path) ≠ recorded path := by
  intro path other
  have hstyle : Restyled path other := restyled_iff.2 (by decide)
  have hpath : recorded path = other := by decide
  have hother : recorded other = "a.feature" := by decide
  refine ⟨hstyle, hpath, hother, ?_, ?_⟩
  · rw [hpath, hother]
    decide
  · rw [hpath, hother]
    decide

end Path

end FeatureFixtures
