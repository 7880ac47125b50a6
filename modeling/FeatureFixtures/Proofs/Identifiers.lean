import FeatureFixtures.Fixture.Identifier
import FeatureFixtures.Path
import FeatureFixtures.Proofs.Uppercase
/-!
# Derived names

The identifier of a title and the parts of a namespace are never empty, and of ASCII they hold
letters, digits and underscores only. Both get an underscore before a leading digit of ASCII, but
not before a leading number of another script: a name begins with such a number exactly if the title
has one as its first letter or digit, or the folder name as its first character.
-/

namespace FeatureFixtures

/-- What the target languages allow in a name: it is not empty, and of ASCII it holds letters,
digits and underscores only. -/
structure Identifier.IsName (name : Text) : Prop where
  ne_nil : name ≠ []
  ascii : ∀ c ∈ name, c.toNat < 128 → c.isAlphanum = true ∨ c = '_'

/-- A text that begins with a number of some script. -/
def Identifier.StartsNumeric (name : Text) : Prop :=
  ∃ c ∈ name.head?, isNumeric c = true

namespace Identifier

/-! ### The underscore before a digit -/

theorem guardDigit_ne_nil {name : Text} (h : name ≠ []) : guardDigit name ≠ [] := by
  obtain ⟨c, rest, rfl⟩ := List.exists_cons_of_ne_nil h
  rw [guardDigit]
  split <;> simp

theorem mem_guardDigit {name : Text} {c : Char} (h : c ∈ guardDigit name) : c ∈ name ∨ c = '_' := by
  unfold guardDigit at h
  split at h
  · cases h
  · split at h
    · exact (List.mem_cons.1 h).symm
    · exact .inl h

theorem startsNumeric_guardDigit_cons {c : Char} {rest : Text} :
    StartsNumeric (guardDigit (c :: rest)) ↔ isNumeric c = true ∧ c.isDigit = false := by
  unfold guardDigit StartsNumeric
  by_cases h : c.isDigit = true
  · have hunderscore : isNumeric '_' = false := by decide
    simp [h, hunderscore]
  · simp [h]

theorem isName_guardDigit {name : Text} (hne : name ≠ [])
    (h : ∀ c ∈ name, c.toNat < 128 → c.isAlphanum = true ∨ c = '_') : IsName (guardDigit name) where
  ne_nil := guardDigit_ne_nil hne
  ascii c hc hascii := by
    rcases mem_guardDigit hc with hmem | rfl
    · exact h c hmem hascii
    · exact .inr rfl

/-! ### Words -/

theorem flatten_splitOnP {α : Type} (p : α → Bool) (l : List α) :
    (l.splitOnP p).flatten = l.filter (!p ·) := by
  induction l with
  | nil => rfl
  | cons a l ih =>
    obtain ⟨first, others, hpieces⟩ := List.exists_cons_of_ne_nil (List.splitOnP_ne_nil p l)
    rw [hpieces] at ih
    rw [List.splitOnP_cons_eq_if_modifyHead, hpieces]
    by_cases ha : p a = true
    · simp [ha, ← ih]
    · simp [ha, ← ih]

theorem flatten_words (title : Text) : (words title).flatten = title.filter isAlphanumeric := by
  rw [words, List.flatten_filter_not_isEmpty, flatten_splitOnP]
  simp

theorem isAlphanumeric_of_mem_words {title word : Text} (h : word ∈ words title) :
    ∀ c ∈ word, isAlphanumeric c = true := by
  intro c hc
  have hmem : c ∈ title.filter isAlphanumeric := by
    rw [← flatten_words]
    exact List.mem_flatten.2 ⟨word, h, hc⟩
  exact (List.mem_filter.1 hmem).2

/-- The first word of a title begins with the first letter or digit. -/
theorem words_cases (title : Text) :
    (words title = [] ∧ title.find? isAlphanumeric = none) ∨
    ∃ c rest others, words title = (c :: rest) :: others ∧
      title.find? isAlphanumeric = some c := by
  rw [← List.head?_filter, ← flatten_words]
  rcases hwords : words title with _ | ⟨_ | ⟨c, rest⟩, others⟩
  · exact .inl ⟨rfl, rfl⟩
  · have hempty : [] ∈ words title := hwords ▸ List.mem_cons_self
    exact absurd (List.mem_filter.1 hempty).2 (by simp)
  · exact .inr ⟨c, rest, others, rfl, rfl⟩

theorem isAlphanum_of_mem_capitalize {word : Text} (h : ∀ c ∈ word, isAlphanumeric c = true)
    {d : Char} (hd : d ∈ capitalize word) (hascii : d.toNat < 128) : d.isAlphanum = true := by
  have hplain {c : Char} (hc : isAlphanumeric c = true) (hlow : c.toNat < 128) :
      c.isAlphanum = true := by
    rwa [isAlphanumeric_of_ascii hlow] at hc
  cases word with
  | nil => cases hd
  | cons c rest =>
    rw [List.forall_mem_cons] at h
    rcases List.mem_append.1 hd with hfirst | hrest
    · rcases ascii_of_mem_uppercase hfirst hascii with ⟨hlow, rfl⟩ | hupper
      · have hall : ∀ code : Fin 128, (Char.ofNat code).isAlphanum = true →
            (Char.ofNat code).toUpper.isAlphanum = true := by
          decide +kernel
        exact forall_ascii (p := fun c => c.isAlphanum = true → c.toUpper.isAlphanum = true) hall
          hlow (hplain h.1 hlow)
      · change (d.isUpper || d.isLower || d.isDigit) = true
        rw [hupper, Bool.true_or, Bool.true_or]
    · exact hplain (h.2 d hrest) hascii

/-! ### Titles -/

theorem ofTitle_cases (title : Text) :
    (ofTitle title = "Unnamed" ∧ title.find? isAlphanumeric = none) ∨
    ∃ c rest, ofTitle title = guardDigit (uppercase c ++ rest) ∧
      title.find? isAlphanumeric = some c ∧
      ∀ d ∈ uppercase c ++ rest, d.toNat < 128 → d.isAlphanum = true := by
  unfold ofTitle
  rcases words_cases title with ⟨hwords, hnone⟩ | ⟨c, rest, others, hwords, hsome⟩
  · rw [hwords]
    exact .inl ⟨by decide, hnone⟩
  · obtain ⟨first, more, hupper, -⟩ := uppercase_eq_cons c
    have hjoined : (words title).flatMap capitalize =
        uppercase c ++ (rest ++ others.flatMap capitalize) := by
      rw [hwords, List.flatMap_cons, capitalize, List.append_assoc]
    have hne : ((words title).flatMap capitalize).isEmpty = false := by
      rw [hjoined, hupper]
      rfl
    refine .inr ⟨c, rest ++ others.flatMap capitalize, ?_, hsome, ?_⟩
    · dsimp only
      rw [hne, if_neg (by simp), hjoined]
    · rw [← hjoined]
      intro d hd hascii
      obtain ⟨word, hword, hmem⟩ := List.mem_flatMap.1 hd
      exact isAlphanum_of_mem_capitalize (isAlphanumeric_of_mem_words hword) hmem hascii

theorem isName_ofTitle (title : Text) : IsName (ofTitle title) := by
  rcases ofTitle_cases title with ⟨heq, -⟩ | ⟨c, rest, heq, -, hascii⟩
  · have hall : ("Unnamed" : Text).all Char.isAlphanum = true := by decide
    rw [heq]
    exact ⟨by decide, fun c hc _ => .inl (List.all_eq_true.1 hall c hc)⟩
  · obtain ⟨first, more, hupper, -⟩ := uppercase_eq_cons c
    rw [heq]
    refine isName_guardDigit ?_ fun d hd hlow => .inl (hascii d hd hlow)
    rw [hupper]
    simp

theorem startsNumeric_ofTitle_iff (title : Text) :
    StartsNumeric (ofTitle title) ↔
      ∃ c ∈ title.find? isAlphanumeric, isNumeric c = true ∧ c.isDigit = false := by
  rcases ofTitle_cases title with ⟨heq, hnone⟩ | ⟨c, rest, heq, hsome, -⟩
  · have hplain : isNumeric 'U' = false := by decide
    rw [heq, hnone]
    simp [StartsNumeric, hplain]
  · obtain ⟨first, more, hupper, hnumeric, hdigit⟩ := uppercase_eq_cons c
    rw [heq, hupper, List.cons_append, startsNumeric_guardDigit_cons, hnumeric, hdigit, hsome]
    simp

theorem underscore_notMem_tail_ofTitle (title : Text) : '_' ∉ (ofTitle title).tail := by
  rcases ofTitle_cases title with ⟨heq, -⟩ | ⟨c, rest, heq, -, hascii⟩
  · rw [heq]
    decide
  · have hnone : '_' ∉ uppercase c ++ rest := by
      intro hmem
      exact absurd (hascii '_' hmem (by decide)) (by decide)
    rw [heq]
    unfold guardDigit
    split
    · simp
    · next first others hname =>
      rw [hname] at hnone
      split
      · exact hnone
      · exact fun hmem => hnone (List.mem_cons_of_mem _ hmem)

/-- The name of the test runner begins with a lower-case letter, as no identifier does. -/
theorem head?_ofTitle_ne (title : Text) : (ofTitle title).head? ≠ some 't' := by
  rcases ofTitle_cases title with ⟨heq, -⟩ | ⟨c, rest, heq, -, -⟩
  · rw [heq]
    decide
  · obtain ⟨first, more, hupper, -⟩ := uppercase_eq_cons c
    rw [heq, hupper, List.cons_append, guardDigit]
    split
    · simp
    · intro hfirst
      cases hfirst
      have hmem : 't' ∈ uppercase c := hupper ▸ List.mem_cons_self
      rcases ascii_of_mem_uppercase hmem (by decide) with ⟨hlow, heq⟩ | hcase
      · have hall : ∀ code : Fin 128, 't' ≠ (Char.ofNat code).toUpper := by decide +kernel
        exact forall_ascii (p := fun c => 't' ≠ c.toUpper) hall hlow heq
      · cases hcase

/-! ### Folders -/

/-- A character of a folder name as it goes into the namespace. -/
def ofFolderChar (c : Char) : Char :=
  if isAlphanumeric c || c == '_' then c else '_'

theorem ofFolderName_eq (name : Text) :
    Namespace.ofFolderName name = guardDigit (name.map ofFolderChar) := rfl

theorem ascii_ofFolderChar {c : Char} (h : (ofFolderChar c).toNat < 128) :
    (ofFolderChar c).isAlphanum = true ∨ ofFolderChar c = '_' := by
  unfold ofFolderChar at *
  split
  · next hkept =>
    rw [if_pos hkept] at h
    rw [Bool.or_eq_true, beq_iff_eq, isAlphanumeric_of_ascii h] at hkept
    exact hkept
  · exact .inr rfl

theorem isName_ofFolderName {name : Text} (h : name ≠ []) :
    IsName (Namespace.ofFolderName name) := by
  rw [ofFolderName_eq]
  refine isName_guardDigit (by simpa using h) fun d hd hascii => ?_
  obtain ⟨c, -, rfl⟩ := List.mem_map.1 hd
  exact ascii_ofFolderChar hascii

theorem isNumeric_ofFolderChar (c : Char) :
    (isNumeric (ofFolderChar c) = true ∧ (ofFolderChar c).isDigit = false) ↔
      isNumeric c = true ∧ c.isDigit = false := by
  unfold ofFolderChar
  split
  · rfl
  · next hother =>
    have hunderscore : isNumeric '_' = false := by decide
    have hnumeric : isNumeric c = false := by
      by_contra h
      rw [Bool.not_eq_false] at h
      exact hother (by simp [isAlphanumeric_of_isNumeric h])
    simp [hunderscore, hnumeric]

theorem startsNumeric_ofFolderName_iff (name : Text) :
    StartsNumeric (Namespace.ofFolderName name) ↔
      ∃ c ∈ name.head?, isNumeric c = true ∧ c.isDigit = false := by
  rw [ofFolderName_eq]
  cases name with
  | nil => simp [guardDigit, StartsNumeric]
  | cons c rest =>
    rw [List.map_cons, startsNumeric_guardDigit_cons, isNumeric_ofFolderChar]
    simp

theorem ne_nil_of_mem_folderNames {path folder : Text} (h : folder ∈ Path.folderNames path) :
    folder ≠ [] := by
  rintro rfl
  simpa using (List.mem_filter.1 (List.dropLast_subset _ h)).2

theorem splitOn_ofPath {path : Text} (h : Path.folderNames path ≠ []) :
    (Namespace.ofPath none path).splitOn '.' =
      (Path.folderNames path).map Namespace.ofFolderName := by
  have hnames : ∀ name ∈ (Path.folderNames path).map Namespace.ofFolderName, IsName name := by
    rw [List.forall_mem_map]
    exact fun folder hfolder => isName_ofFolderName (ne_nil_of_mem_folderNames hfolder)
  have hdots : ∀ name ∈ (Path.folderNames path).map Namespace.ofFolderName, '.' ∉ name := by
    intro name hname hdot
    exact absurd ((hnames name hname).ascii '.' hdot (by decide)) (by decide)
  have hsplit := List.splitOn_intercalate '.' hdots (by simpa using h)
  have hpath : Namespace.ofPath none path =
      Text.join ['.'] ((Path.folderNames path).map Namespace.ofFolderName) := by
    unfold Namespace.ofPath
    rcases hjoin : Text.join ['.'] ((Path.folderNames path).map Namespace.ofFolderName) with
      _ | ⟨c, rest⟩
    · -- The empty text has one empty part, but no part is empty.
      rw [Text.join] at hjoin
      rw [hjoin] at hsplit
      exact absurd rfl (hnames [] (by simp [← hsplit])).ne_nil
    · rfl
  rw [hpath]
  exact hsplit

/-- **Derived names are names of the target languages,** but for a leading number of another script.
The identifier of a title and the parts of the namespace of a folder are not empty, and of ASCII
they hold letters, digits and underscores only. The identifier begins with a number of some script
exactly if the first letter or digit of the title is one that is no digit of ASCII, and a part of
the namespace exactly if the first character of its folder is. -/
theorem derived_names (title path : Text) (hpath : Path.folderNames path ≠ []) :
    IsName (ofTitle title) ∧
    (StartsNumeric (ofTitle title) ↔
      ∃ c ∈ title.find? isAlphanumeric, isNumeric c = true ∧ c.isDigit = false) ∧
    (Namespace.ofPath none path).splitOn '.' =
      (Path.folderNames path).map Namespace.ofFolderName ∧
    ∀ folder ∈ Path.folderNames path,
      IsName (Namespace.ofFolderName folder) ∧
      (StartsNumeric (Namespace.ofFolderName folder) ↔
        ∃ c ∈ folder.head?, isNumeric c = true ∧ c.isDigit = false) := by
  refine ⟨isName_ofTitle title, startsNumeric_ofTitle_iff title, splitOn_ofPath hpath, ?_⟩
  intro folder hfolder
  exact ⟨isName_ofFolderName (ne_nil_of_mem_folderNames hfolder),
    startsNumeric_ofFolderName_iff folder⟩

/-- Two folders, one of which begins with a digit of ASCII, and a title that does. -/
theorem derived_names_specs :
    let path : Text := "my specs/2024/A.feature"
    Path.folderNames path ≠ [] ∧ IsName (ofTitle "2 cows") ∧
    ∀ folder ∈ Path.folderNames path, IsName (Namespace.ofFolderName folder) := by
  intro path
  have hpath : Path.folderNames path ≠ [] := by decide
  obtain ⟨htitle, -, -, hfolders⟩ := derived_names "2 cows" path hpath
  exact ⟨hpath, htitle, fun folder hfolder => (hfolders folder hfolder).1⟩

/-- No underscore goes before a digit of another script, be it in a title or in a folder name. -/
theorem derived_names_ne_of_foreign_digit :
    (¬ ∀ title, ¬ StartsNumeric (ofTitle title)) ∧
    ¬ ∀ path, Path.folderNames path ≠ [] →
      ∀ part ∈ (Namespace.ofPath none path).splitOn '.', ¬ StartsNumeric part := by
  have hdigit : isNumeric '\u0663' = true ∧ '\u0663'.isDigit = false := by decide +kernel
  constructor
  · intro h
    apply h "\u0663 cows"
    rw [startsNumeric_ofTitle_iff]
    exact ⟨'\u0663', by decide +kernel, hdigit⟩
  · intro h
    have hpath : Path.folderNames "\u0663x/A.feature" ≠ [] := by decide
    apply h "\u0663x/A.feature" hpath (Namespace.ofFolderName "\u0663x")
    · rw [splitOn_ofPath hpath, List.mem_map]
      exact ⟨"\u0663x", by decide, rfl⟩
    · rw [startsNumeric_ofFolderName_iff]
      exact ⟨'\u0663', by decide, hdigit⟩

end Identifier

end FeatureFixtures
