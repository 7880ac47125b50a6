import FeatureFixtures.Proofs.VersionText
import FeatureFixtures.Version.Order
/-!
# Versions in order

The order of versions is a total order in which different versions never tie: their numbers, their
pre-releases and their builds all count, down to the leading zeros of a build. A version has one
text form only, and no other text is read as it. So different texts that are versions never tie
either.
-/

namespace FeatureFixtures

open Std

/-! ### Texts -/

theorem Text.compare_eq : Text.compare = List.compareLex (compareOn Char.toNat) := by
  funext s t
  induction s generalizing t with
  | nil => cases t <;> rfl
  | cons c s ih =>
    cases t with
    | nil => rfl
    | cons d t =>
      rw [Text.compare, ih, List.compareLex_cons_cons]
      rfl

instance Text.lawfulEqCmp_toNat : LawfulEqCmp (compareOn Char.toNat) where
  eq_of_compare h := Char.toNat_inj.1 (LawfulEqOrd.eq_of_compare h)

instance : TransCmp Text.compare := by
  rw [Text.compare_eq]
  infer_instance

instance : LawfulEqCmp Text.compare := by
  rw [Text.compare_eq]
  infer_instance

namespace Version

variable {cmp : Text → Text → Ordering}

/-! ### Identifiers -/

theorem compareLists_eq (cmp : Text → Text → Ordering) :
    compareLists cmp = List.compareLex cmp := by
  funext s t
  induction s generalizing t with
  | nil => cases t <;> rfl
  | cons a s ih =>
    cases t with
    | nil => rfl
    | cons b t => rw [compareLists, ih, List.compareLex_cons_cons]

instance : TransCmp compareDigits :=
  inferInstanceAs (TransCmp (compareLex (compareOn List.length) Text.compare))

instance : LawfulEqCmp compareDigits where
  compare_self := ReflCmp.compare_self
  eq_of_compare h := by
    rw [compareDigits, Ordering.then_eq_eq] at h
    exact LawfulEqCmp.eq_of_compare h.2

/-- The digits of a number from the first one that is not zero. -/
def significant (digits : Text) : Text :=
  digits.dropWhile (· == '0')

instance : TransCmp fun a b => compareDigits (significant a) (significant b) where
  eq_swap := OrientedCmp.eq_swap
  isLE_trans := TransCmp.isLE_trans

instance : TransCmp comparePadded :=
  inferInstanceAs (TransCmp (compareLex
    (fun a b => compareDigits (significant a) (significant b)) (compareOn List.length)))

theorem eq_of_significant_eq {a b : Text} (h : significant a = significant b)
    (hlength : a.length = b.length) : a = b := by
  have hzeros (digits : Text) : digits =
      List.replicate (digits.length - (significant digits).length) '0' ++ significant digits := by
    have hsplit : digits.takeWhile (· == '0') ++ significant digits = digits :=
      List.takeWhile_append_dropWhile
    have hcount : digits.length - (significant digits).length =
        (digits.takeWhile (· == '0')).length := by
      have hsum := congrArg List.length hsplit
      rw [List.length_append] at hsum
      omega
    have htaken : digits.takeWhile (· == '0') =
        List.replicate (digits.takeWhile (· == '0')).length '0' := by
      rw [List.eq_replicate_iff]
      exact ⟨rfl, fun c hc => by simpa using List.all_eq_true.1 List.all_takeWhile c hc⟩
    rw [hcount, ← htaken, hsplit]
  rw [hzeros a, hzeros b, h, hlength]

instance : LawfulEqCmp comparePadded where
  compare_self := ReflCmp.compare_self
  eq_of_compare {a b} h := by
    rw [comparePadded, Ordering.then_eq_eq] at h
    have hdigits : significant a = significant b := LawfulEqCmp.eq_of_compare h.1
    have hlength : a.length = b.length := LawfulEqOrd.eq_of_compare h.2
    exact eq_of_significant_eq hdigits hlength

instance [TransCmp cmp] : TransCmp (compareBy cmp) where
  eq_swap {a b} := by
    cases ha : isNumeric a <;> cases hb : isNumeric b <;> simp only [compareBy, ha, hb]
    · exact OrientedCmp.eq_swap
    · rfl
    · rfl
    · exact OrientedCmp.eq_swap
  isLE_trans {a b c} hab hbc := by
    cases ha : isNumeric a <;> cases hb : isNumeric b <;> cases hc : isNumeric c <;>
      simp only [compareBy, ha, hb, hc] at hab hbc ⊢
    · exact TransCmp.isLE_trans hab hbc
    · cases hbc
    · cases hab
    · cases hab
    · rfl
    · cases hbc
    · rfl
    · exact TransCmp.isLE_trans hab hbc

instance [LawfulEqCmp cmp] : LawfulEqCmp (compareBy cmp) where
  compare_self {a} := by
    cases ha : isNumeric a <;> simp only [compareBy, ha] <;> exact ReflCmp.compare_self
  eq_of_compare {a b} h := by
    cases ha : isNumeric a <;> cases hb : isNumeric b <;> simp only [compareBy, ha, hb] at h
    · exact LawfulEqCmp.eq_of_compare h
    · cases h
    · cases h
    · exact LawfulEqCmp.eq_of_compare h

/-! ### Versions -/

instance : TransCmp comparePreReleases where
  eq_swap {a b} := by
    cases a <;> cases b <;> simp only [comparePreReleases, compareLists_eq]
    · rfl
    · rfl
    · rfl
    · exact OrientedCmp.eq_swap
  isLE_trans {a b c} hab hbc := by
    cases a <;> cases b <;> cases c <;>
      simp only [comparePreReleases, compareLists_eq] at hab hbc ⊢
    · rfl
    · cases hbc
    · cases hab
    · cases hab
    · rfl
    · cases hbc
    · rfl
    · exact TransCmp.isLE_trans hab hbc

instance : LawfulEqCmp comparePreReleases where
  compare_self := ReflCmp.compare_self
  eq_of_compare {a b} h := by
    cases a <;> cases b <;> simp only [comparePreReleases, compareLists_eq] at h
    · rfl
    · cases h
    · cases h
    · exact LawfulEqCmp.eq_of_compare h

theorem compareBuilds_eq : compareBuilds = List.compareLex (compareBy comparePadded) :=
  compareLists_eq _

instance : TransCmp compareBuilds := by
  rw [compareBuilds_eq]
  infer_instance

instance : LawfulEqCmp compareBuilds := by
  rw [compareBuilds_eq]
  infer_instance

instance : TransCmp fun a b : Version => comparePreReleases a.preRelease b.preRelease where
  eq_swap := OrientedCmp.eq_swap
  isLE_trans := TransCmp.isLE_trans

instance : TransCmp fun a b : Version => compareBuilds a.build b.build where
  eq_swap := OrientedCmp.eq_swap
  isLE_trans := TransCmp.isLE_trans

instance : TransCmp Version.compare :=
  inferInstanceAs (TransCmp <|
    compareLex (compareOn major) <| compareLex (compareOn minor) <| compareLex (compareOn patch) <|
    compareLex (fun a b => comparePreReleases a.preRelease b.preRelease)
      fun a b => compareBuilds a.build b.build)

instance : LawfulEqCmp Version.compare where
  compare_self := ReflCmp.compare_self
  eq_of_compare {a b} h := by
    obtain ⟨major, minor, patch, preRelease, build⟩ := a
    obtain ⟨major', minor', patch', preRelease', build'⟩ := b
    simp only [Version.compare, Ordering.then_eq_eq, LawfulEqCmp.compare_eq_iff_eq] at h
    obtain ⟨rfl, rfl, rfl, rfl, rfl⟩ := h
    rfl

/-! ### The text that is read as a version -/

theorem digitChar_of_isDigit {c : Char} (h : c.isDigit = true) :
    c.toNat - '0'.toNat < 10 ∧ Nat.digitChar (c.toNat - '0'.toNat) = c := by
  have hrange : 48 ≤ c.toNat ∧ c.toNat ≤ 57 := by
    simp only [Char.isDigit, ge_iff_le, Bool.and_eq_true, decide_eq_true_eq,
      UInt32.le_iff_toNat_le] at h
    exact h
  have hzero : '0'.toNat = 48 := rfl
  have hlt : c.toNat - '0'.toNat < 10 := by omega
  refine ⟨hlt, Char.toNat_inj.1 ?_⟩
  rw [Nat.toNat_digitChar_of_lt_ten hlt]
  omega

theorem ofNat_foldl_digits {value : Nat} (hpos : 0 < value) {digits : Text}
    (h : ∀ c ∈ digits, c.isDigit = true) :
    Text.ofNat (digits.foldl (fun value c => 10 * value + (c.toNat - '0'.toNat)) value) =
      Text.ofNat value ++ digits := by
  induction digits generalizing value with
  | nil => simp
  | cons c rest ih =>
    rw [List.forall_mem_cons] at h
    obtain ⟨hlt, hchar⟩ := digitChar_of_isDigit h.1
    have hnext : 0 < 10 * value + (c.toNat - '0'.toNat) := by omega
    calc Text.ofNat ((c :: rest).foldl (fun value c => 10 * value + (c.toNat - '0'.toNat)) value)
        = Text.ofNat (10 * value + (c.toNat - '0'.toNat)) ++ rest := ih hnext h.2
      _ = (Text.ofNat value ++ Text.ofNat (c.toNat - '0'.toNat)) ++ rest := by
          rw [Text.ofNat, Text.ofNat, Text.ofNat,
            Nat.toDigits_append_toDigits (by decide) hpos hlt]
      _ = Text.ofNat value ++ c :: rest := by
          rw [Text.ofNat, Text.ofNat, Nat.toDigits_of_lt_base hlt, hchar, List.append_assoc,
            List.singleton_append]

theorem ofNat_digitsValue {digits : Text} (hne : digits ≠ [])
    (hdigits : ∀ c ∈ digits, c.isDigit = true) (hzero : hasLeadingZero digits = false) :
    Text.ofNat (Text.digitsValue digits) = digits := by
  obtain ⟨c, rest, rfl⟩ := List.exists_cons_of_ne_nil hne
  rw [List.forall_mem_cons] at hdigits
  obtain ⟨hlt, hchar⟩ := digitChar_of_isDigit hdigits.1
  have hfirst : Text.ofNat (c.toNat - '0'.toNat) = [c] := by
    rw [Text.ofNat, Nat.toDigits_of_lt_base hlt, hchar]
  rcases rest with _ | ⟨d, rest⟩
  · simpa [Text.digitsValue] using hfirst
  · have hpos : 0 < c.toNat - '0'.toNat := by
      rw [Nat.pos_iff_ne_zero]
      intro hnone
      rw [hnone] at hchar
      subst hchar
      cases hzero
    have hfold := ofNat_foldl_digits hpos hdigits.2
    rw [hfirst] at hfold
    simpa [Text.digitsValue] using hfold

theorem eq_of_readNumber {field : Field} {t rest : Text} {n : Nat}
    (h : readNumber field t = .ok (n, rest)) : t = Text.ofNat n ++ rest := by
  simp only [readNumber] at h
  split at h
  · split at h <;> cases h
  · next hne =>
    split at h
    · cases h
    · next hzero =>
      split at h
      · cases h
        rw [ofNat_digitsValue (by simpa using hne)
          (fun c hc => List.all_eq_true.1 List.all_takeWhile c hc) (by simpa using hzero),
          List.takeWhile_append_dropWhile]
      · cases h

theorem eq_of_readDot {field : Field} {t rest : Text} (h : readDot field t = .ok rest) :
    t = '.' :: rest := by
  unfold readDot at h
  split at h <;> cases h
  rfl

theorem eq_of_mapM_checkIdentifier {field : Field} {pieces identifiers : List Text}
    (h : pieces.mapM (checkIdentifier field) = .ok identifiers) : identifiers = pieces := by
  induction pieces generalizing identifiers with
  | nil =>
    cases h
    rfl
  | cons piece rest ih =>
    rw [List.mapM_cons] at h
    obtain ⟨first, hfirst, h⟩ := bind_eq_ok_iff.1 h
    obtain ⟨others, hothers, h⟩ := bind_eq_ok_iff.1 h
    cases h
    have hsame : first = piece := by
      unfold checkIdentifier at hfirst
      split at hfirst
      · cases hfirst
      · split at hfirst <;> cases hfirst
        rfl
    rw [hsame, ih hothers]

theorem eq_of_readSigned {sign : Char} {field : Field} {t rest : Text} {identifiers : List Text}
    (h : readSigned sign field t = .ok (identifiers, rest)) :
    t = identifierText sign identifiers ++ rest := by
  unfold readSigned at h
  split at h
  · next c following =>
    split at h
    · next hsign =>
      unfold readIdentifiers at h
      obtain ⟨found, hfound, h⟩ := bind_eq_ok_iff.1 h
      cases h
      rw [eq_of_mapM_checkIdentifier hfound, identifierText,
        if_neg (by simp [List.splitOn_ne_nil]), Text.join, List.intercalate_splitOn, hsign,
        List.cons_append, List.takeWhile_append_dropWhile]
    · cases h
      rfl
  · cases h
    rfl

/-- What is read as a version is its text form. -/
theorem eq_toText_of_parse {t : Text} {version : Version} (h : parse t = .ok version) :
    t = version.toText := by
  unfold parse at h
  split at h
  · cases h
  obtain ⟨⟨major, afterMajor⟩, hmajor, h⟩ := bind_eq_ok_iff.1 h
  obtain ⟨beforeMinor, hmajorDot, h⟩ := bind_eq_ok_iff.1 h
  obtain ⟨⟨minor, afterMinor⟩, hminor, h⟩ := bind_eq_ok_iff.1 h
  obtain ⟨beforePatch, hminorDot, h⟩ := bind_eq_ok_iff.1 h
  obtain ⟨⟨patch, afterPatch⟩, hpatch, h⟩ := bind_eq_ok_iff.1 h
  obtain ⟨⟨preRelease, afterPreRelease⟩, hpreRelease, h⟩ := bind_eq_ok_iff.1 h
  obtain ⟨⟨build, afterBuild⟩, hbuild, h⟩ := bind_eq_ok_iff.1 h
  dsimp only at *
  split at h
  · cases h
    rw [eq_of_readNumber hmajor, eq_of_readDot hmajorDot, eq_of_readNumber hminor,
      eq_of_readDot hminorDot, eq_of_readNumber hpatch, eq_of_readSigned hpreRelease,
      eq_of_readSigned hbuild]
    simp [toText]
  · cases h

/-- Two texts that are versions tie only if they are the same. -/
theorem eq_of_compare_eq {s t : Text} {a b : Version} (ha : parse s = .ok a)
    (hb : parse t = .ok b) (h : a.compare b = .eq) : s = t := by
  rw [eq_toText_of_parse ha, eq_toText_of_parse hb, LawfulEqCmp.eq_of_compare h]

end Version

end FeatureFixtures
