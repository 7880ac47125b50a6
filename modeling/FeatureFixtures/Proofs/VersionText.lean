import FeatureFixtures.Proofs.LineEndings
import FeatureFixtures.Proofs.Numerals
import FeatureFixtures.Proofs.Results
import FeatureFixtures.Version.Parser
/-!
# Versions as texts

A version is well formed when its numbers fit into 64 bits and its identifiers are what a version
may hold. Reading gives well-formed versions only, and reads every one of them back from its text
form; the text form therefore determines the version.
-/

namespace FeatureFixtures

namespace Version

/-- Whether a text may stand as an identifier in a part of a version. -/
structure IsIdentifier (field : Field) (t : Text) : Prop where
  ne_nil : t ≠ []
  chars : ∀ c ∈ t, isIdentifierChar c = true
  /-- A number in a pre-release has no leading zero. -/
  canonical : field = .preRelease → t.all Char.isDigit = true → hasLeadingZero t = false

/-- Whether a version can be the version of anything. -/
structure IsWellFormed (version : Version) : Prop where
  major_lt : version.major < UInt64.size
  minor_lt : version.minor < UInt64.size
  patch_lt : version.patch < UInt64.size
  preRelease : ∀ identifier ∈ version.preRelease, IsIdentifier .preRelease identifier
  build : ∀ identifier ∈ version.build, IsIdentifier .build identifier

theorem isWellFormed_numbers {major minor patch : Nat} (hmajor : major < UInt64.size)
    (hminor : minor < UInt64.size) (hpatch : patch < UInt64.size) :
    IsWellFormed ⟨major, minor, patch, [], []⟩ where
  major_lt := hmajor
  minor_lt := hminor
  patch_lt := hpatch
  preRelease := by simp
  build := by simp

theorem isWellFormed_current : IsWellFormed current :=
  isWellFormed_numbers (by decide) (by decide) (by decide)

/-! ### Numbers -/

theorem hasLeadingZero_ofNat (n : Nat) : hasLeadingZero (Text.ofNat n) = false := by
  cases n with
  | zero => rfl
  | succ n =>
    have hhead := Text.head?_ofNat_ne_zero (Nat.succ_pos n)
    unfold hasLeadingZero
    split
    · next heq => simp [heq] at hhead
    · rfl

/-- A number is read up to the first character that is no digit. -/
theorem readNumber_ofNat_append (field : Field) {n : Nat} (hn : n < UInt64.size) {rest : Text}
    (hrest : ∀ c, rest.head? = some c → c.isDigit = false) :
    readNumber field (Text.ofNat n ++ rest) = .ok (n, rest) := by
  have hdigits : ∀ c ∈ Text.ofNat n, c.isDigit = true := fun c => Text.isDigit_of_mem_ofNat
  have hstop : rest.takeWhile Char.isDigit = [] ∧ rest.dropWhile Char.isDigit = rest := by
    cases rest with
    | nil => exact ⟨rfl, rfl⟩
    | cons c rest => simp [hrest c rfl]
  unfold readNumber
  rw [List.takeWhile_append_of_pos hdigits, List.dropWhile_append_of_pos hdigits, hstop.1, hstop.2,
    List.append_nil]
  simp [hasLeadingZero_ofNat, Text.digitsValue_ofNat, hn, Text.ofNat_ne_nil]

theorem lt_size_of_readNumber {field : Field} {t rest : Text} {n : Nat}
    (h : readNumber field t = .ok (n, rest)) : n < UInt64.size := by
  simp only [readNumber] at h
  split at h
  · split at h <;> cases h
  · split at h
    · cases h
    · split at h
      · next hlt =>
        cases h
        exact hlt
      · cases h

/-! ### Identifiers -/

theorem checkIdentifier_eq_ok {field : Field} {t : Text} (h : IsIdentifier field t) :
    checkIdentifier field t = .ok t := by
  unfold checkIdentifier
  rw [if_neg (by simpa using h.ne_nil), if_neg]
  intro hall
  simp only [Bool.and_eq_true, decide_eq_true_eq] at hall
  exact absurd hall.2 (by simp [h.canonical hall.1.1 hall.1.2])

theorem isIdentifier_of_checkIdentifier {field : Field} {t found : Text}
    (h : checkIdentifier field t = .ok found) (hchars : ∀ c ∈ t, isIdentifierChar c = true) :
    IsIdentifier field found := by
  unfold checkIdentifier at h
  split at h
  · cases h
  · next hempty =>
    split at h
    · cases h
    · next hzero =>
      cases h
      refine ⟨by simpa using hempty, hchars, fun hfield hall => ?_⟩
      simpa [hfield, hall] using hzero

theorem isIdentifierListChar_of_mem_join {identifiers : List Text}
    (h : ∀ identifier ∈ identifiers, ∀ c ∈ identifier, isIdentifierChar c = true) :
    ∀ c ∈ Text.join ['.'] identifiers, isIdentifierListChar c = true := by
  unfold Text.join
  induction identifiers with
  | nil => simp
  | cons first rest ih =>
    have hfirst : ∀ c ∈ first, isIdentifierListChar c = true := fun c hc => by
      simp [isIdentifierListChar, h first List.mem_cons_self c hc]
    have hrest := ih fun identifier hmem => h identifier (List.mem_cons_of_mem _ hmem)
    cases rest with
    | nil => simpa using hfirst
    | cons second others =>
      rw [List.intercalate_cons_cons]
      simp only [List.mem_append, List.mem_singleton]
      rintro c ((hc | rfl) | hc)
      · exact hfirst c hc
      · rfl
      · exact hrest c hc

theorem readIdentifiers_join_append (field : Field) {identifiers : List Text}
    (hne : identifiers ≠ []) (h : ∀ identifier ∈ identifiers, IsIdentifier field identifier)
    {rest : Text} (hrest : ∀ c, rest.head? = some c → isIdentifierListChar c = false) :
    readIdentifiers field (Text.join ['.'] identifiers ++ rest) = .ok (identifiers, rest) := by
  have hchars := isIdentifierListChar_of_mem_join fun identifier hmem => (h identifier hmem).chars
  have hdots : ∀ identifier ∈ identifiers, '.' ∉ identifier := fun identifier hmem hdot =>
    absurd ((h identifier hmem).chars '.' hdot) (by decide)
  have hchecked : identifiers.mapM (checkIdentifier field) = .ok identifiers :=
    mapM_eq_ok_self fun identifier hmem => checkIdentifier_eq_ok (h identifier hmem)
  have hstop : rest.takeWhile isIdentifierListChar = [] ∧
      rest.dropWhile isIdentifierListChar = rest := by
    cases rest with
    | nil => exact ⟨rfl, rfl⟩
    | cons c rest => simp [hrest c rfl]
  unfold readIdentifiers
  rw [List.takeWhile_append_of_pos hchars, List.dropWhile_append_of_pos hchars, hstop.1, hstop.2,
    List.append_nil, Text.join, List.splitOn_intercalate '.' hdots hne]
  simp only [hchecked]
  rfl

theorem isIdentifier_of_readIdentifiers {field : Field} {t rest : Text} {identifiers : List Text}
    (h : readIdentifiers field t = .ok (identifiers, rest)) :
    ∀ identifier ∈ identifiers, IsIdentifier field identifier := by
  unfold readIdentifiers at h
  obtain ⟨found, hfound, h⟩ := bind_eq_ok_iff.1 h
  cases h
  intro identifier hmem
  obtain ⟨piece, hpiece, hcheck⟩ := exists_mem_of_mapM_eq_ok hfound identifier hmem
  refine isIdentifier_of_checkIdentifier hcheck fun c hc => ?_
  obtain ⟨hmem, hdot⟩ := Text.mem_and_ne_of_mem_splitOn hpiece c hc
  have hlist : isIdentifierListChar c = true := List.all_eq_true.1 List.all_takeWhile c hmem
  simpa [isIdentifierListChar, hdot] using hlist

/-! ### Whole versions -/

theorem readSigned_identifierText_append (sign : Char) (field : Field) {identifiers : List Text}
    (h : ∀ identifier ∈ identifiers, IsIdentifier field identifier) {rest : Text}
    (hsign : rest.head? ≠ some sign)
    (hrest : ∀ c, rest.head? = some c → isIdentifierListChar c = false) :
    readSigned sign field (identifierText sign identifiers ++ rest) = .ok (identifiers, rest) := by
  by_cases hne : identifiers = []
  · subst hne
    cases rest with
    | nil => rfl
    | cons c rest => simp_all [identifierText, readSigned]
  · simpa [identifierText, hne, readSigned] using readIdentifiers_join_append field hne h hrest

theorem isIdentifier_of_readSigned {sign : Char} {field : Field} {t rest : Text}
    {identifiers : List Text} (h : readSigned sign field t = .ok (identifiers, rest)) :
    ∀ identifier ∈ identifiers, IsIdentifier field identifier := by
  unfold readSigned at h
  split at h
  · split at h
    · exact isIdentifier_of_readIdentifiers h
    · cases h
      simp
  · cases h
    simp

theorem head?_identifierText_build {identifiers : List Text} {c : Char}
    (h : (identifierText '+' identifiers).head? = some c) : c = '+' := by
  unfold identifierText at h
  split at h
  · cases h
  · simpa using h.symm

theorem head?_identifierText_append {identifiers others : List Text} {c : Char}
    (h : (identifierText '-' identifiers ++ identifierText '+' others).head? = some c) :
    c = '-' ∨ c = '+' := by
  by_cases hne : identifiers = []
  · subst hne
    exact .inr (head?_identifierText_build h)
  · simp only [identifierText, List.isEmpty_iff, hne, if_false, List.cons_append, List.head?_cons,
      Option.some.injEq] at h
    exact .inl h.symm

/-- A well-formed version is read back from its text form. -/
theorem parse_toText {version : Version} (h : version.IsWellFormed) :
    parse version.toText = .ok version := by
  obtain ⟨major, minor, patch, preRelease, build⟩ := version
  set signed := identifierText '-' preRelease ++ identifierText '+' build with hsigned
  have hdot (t : Text) : ∀ c, ('.' :: t).head? = some c → c.isDigit = false := by
    rintro c hc
    cases hc
    rfl
  have hstop : ∀ c, signed.head? = some c → c.isDigit = false := by
    intro c hc
    rcases head?_identifierText_append hc with rfl | rfl <;> rfl
  have hpatch := readNumber_ofNat_append .patch h.patch_lt hstop
  have hminor := readNumber_ofNat_append .minor h.minor_lt (hdot (Text.ofNat patch ++ signed))
  have hmajor := readNumber_ofNat_append .major h.major_lt
    (hdot (Text.ofNat minor ++ '.' :: (Text.ofNat patch ++ signed)))
  have hpreRelease : readSigned '-' .preRelease signed =
      .ok (preRelease, identifierText '+' build) := by
    refine readSigned_identifierText_append '-' .preRelease h.preRelease ?_ fun c hc => ?_
    · intro hc
      exact absurd (head?_identifierText_build hc) (by decide)
    · rw [head?_identifierText_build hc]
      rfl
  have hbuild : readSigned '+' .build (identifierText '+' build) = .ok (build, []) := by
    rw [← List.append_nil (identifierText '+' build)]
    exact readSigned_identifierText_append '+' .build h.build (by simp) (by simp)
  have htext : toText ⟨major, minor, patch, preRelease, build⟩ =
      Text.ofNat major ++ '.' :: (Text.ofNat minor ++ '.' :: (Text.ofNat patch ++ signed)) := by
    simp [toText, hsigned]
  simp only at hpatch hminor hmajor
  rw [htext]
  simp [parse, hmajor, hminor, hpatch, hpreRelease, hbuild, readDot, bind, Except.bind]
  rfl

/-- What is read as a version is well formed. -/
theorem isWellFormed_of_parse {t : Text} {version : Version} (h : parse t = .ok version) :
    version.IsWellFormed := by
  unfold parse at h
  split at h
  · cases h
  obtain ⟨⟨major, afterMajor⟩, hmajor, h⟩ := bind_eq_ok_iff.1 h
  obtain ⟨beforeMinor, -, h⟩ := bind_eq_ok_iff.1 h
  obtain ⟨⟨minor, afterMinor⟩, hminor, h⟩ := bind_eq_ok_iff.1 h
  obtain ⟨beforePatch, -, h⟩ := bind_eq_ok_iff.1 h
  obtain ⟨⟨patch, afterPatch⟩, hpatch, h⟩ := bind_eq_ok_iff.1 h
  obtain ⟨⟨preRelease, afterPreRelease⟩, hpreRelease, h⟩ := bind_eq_ok_iff.1 h
  obtain ⟨⟨build, afterBuild⟩, hbuild, h⟩ := bind_eq_ok_iff.1 h
  dsimp only at h
  split at h
  · cases h
    exact ⟨lt_size_of_readNumber hmajor, lt_size_of_readNumber hminor,
      lt_size_of_readNumber hpatch, isIdentifier_of_readSigned hpreRelease,
      isIdentifier_of_readSigned hbuild⟩
  · cases h

theorem toText_injective {version other : Version} (hversion : version.IsWellFormed)
    (hother : other.IsWellFormed) (h : version.toText = other.toText) : version = other := by
  have hparse := parse_toText hversion
  rw [h, parse_toText hother] at hparse
  exact (Except.ok.inj hparse).symm

/-! ### The characters of a version -/

theorem isVisible_of_isIdentifierListChar {c : Char} (h : isIdentifierListChar c = true) :
    IsVisible c := by
  have hclasses : isIdentifierListChar c =
      (decide ('A'.val ≤ c.val ∧ c.val ≤ 'Z'.val) ||
        (decide ('a'.val ≤ c.val) && decide (c.val ≤ 'z'.val)) ||
        (decide ('0'.val ≤ c.val) && decide (c.val ≤ '9'.val)) || c == '-' || c == '.') := rfl
  simp only [hclasses, Bool.or_eq_true, Bool.and_eq_true, decide_eq_true_eq, beq_iff_eq,
    UInt32.le_iff_toNat_le] at h
  rcases h with ((((h | h) | h) | rfl) | rfl)
  · exact ⟨Nat.le_trans (by decide) h.1, Nat.lt_of_le_of_lt h.2 (by decide)⟩
  · exact ⟨Nat.le_trans (by decide) h.1, Nat.lt_of_le_of_lt h.2 (by decide)⟩
  · exact ⟨Nat.le_trans (by decide) h.1, Nat.lt_of_le_of_lt h.2 (by decide)⟩
  · decide
  · decide

theorem isIdentifierListChar_of_mem_ofNat {n : Nat} {c : Char} (h : c ∈ Text.ofNat n) :
    isIdentifierListChar c = true :=
  Text.forall_mem_toDigits (p := (isIdentifierListChar · = true)) (by decide) (by decide) n c h

theorem isIdentifierListChar_of_mem_identifierText {sign : Char} {field : Field}
    {identifiers : List Text} (h : ∀ identifier ∈ identifiers, IsIdentifier field identifier) :
    ∀ c ∈ identifierText sign identifiers, c = sign ∨ isIdentifierListChar c = true := by
  have hjoin := isIdentifierListChar_of_mem_join fun identifier hmem => (h identifier hmem).chars
  unfold identifierText
  split
  · simp
  · intro c hc
    rcases List.mem_cons.1 hc with rfl | hc
    · exact .inl rfl
    · exact .inr (hjoin c hc)

theorem isIdentifierListChar_of_mem_toText {version : Version} (h : version.IsWellFormed) :
    ∀ c ∈ version.toText, c = '+' ∨ isIdentifierListChar c = true := by
  intro c hc
  simp only [toText, List.mem_append, List.mem_cons] at hc
  rcases hc with (((hc | rfl | hc) | rfl | hc) | hc) | hc
  · exact .inr (isIdentifierListChar_of_mem_ofNat hc)
  · exact .inr rfl
  · exact .inr (isIdentifierListChar_of_mem_ofNat hc)
  · exact .inr rfl
  · exact .inr (isIdentifierListChar_of_mem_ofNat hc)
  · rcases isIdentifierListChar_of_mem_identifierText h.preRelease c hc with rfl | hlist
    · exact .inr rfl
    · exact .inr hlist
  · exact isIdentifierListChar_of_mem_identifierText h.build c hc

theorem isVisible_of_mem_toText {version : Version} (h : version.IsWellFormed) :
    ∀ c ∈ version.toText, IsVisible c := by
  intro c hc
  rcases isIdentifierListChar_of_mem_toText h c hc with rfl | hlist
  · decide
  · exact isVisible_of_isIdentifierListChar hlist

end Version

end FeatureFixtures
