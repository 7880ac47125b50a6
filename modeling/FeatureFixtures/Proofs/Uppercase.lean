import FeatureFixtures.Text.Numeric
import FeatureFixtures.Text.Uppercase
import Mathlib.Data.List.TakeWhile
/-!
# Upper case and classes of characters

A character is mapped to upper case by one of four rules, and so it is enough to look at the rules:
for characters of ASCII one by one, and for others entry by entry of the tables. A character of
ASCII that comes out is an upper-case letter, unless one of ASCII went in; and the first character
that comes out is numeric exactly if the one that went in is.
-/

namespace FeatureFixtures

/-- What holds for the first 128 code points holds for the characters of ASCII. -/
theorem forall_ascii {p : Char → Prop} (h : ∀ code : Fin 128, p (Char.ofNat code)) {c : Char}
    (hc : c.toNat < 128) : p c := by
  have hcode := h ⟨c.toNat, hc⟩
  rwa [Char.ofNat_toNat] at hcode

/-! ### Numeric characters -/

theorem isDigit_of_le {c : Char} (h : 58 ≤ c.toNat) : c.isDigit = false := by
  simp only [Char.isDigit, Bool.and_eq_false_iff, decide_eq_false_iff_not, UInt32.le_iff_toNat_le]
  right
  change ¬ c.toNat ≤ 57
  omega

theorem isUpper_iff (c : Char) : c.isUpper = true ↔ 65 ≤ c.toNat ∧ c.toNat ≤ 90 :=
  decide_eq_true_iff

theorem isNumeric_eq (c : Char) : isNumeric c = (c.isDigit || inRanges numericRanges c.toNat) := by
  have hranges : ∀ range ∈ numericRanges, 128 ≤ range.1 := by decide +kernel
  unfold isNumeric
  by_cases hascii : c.toNat < 128
  · have hout : inRanges numericRanges c.toNat = false := by
      rw [inRanges, List.any_eq_false]
      intro range hrange
      have := hranges range hrange
      simp only [Bool.and_eq_true, decide_eq_true_eq]
      omega
    rw [if_pos hascii, hout, Bool.or_false]
  · rw [if_neg hascii, isDigit_of_le (by omega), Bool.false_or]

/-- Whether ranges lie within wider ones, where both are in ascending order. -/
def areWithin : List (Nat × Nat) → List (Nat × Nat) → Bool
  | [], ranges => ranges.isEmpty
  | wide :: others, ranges =>
    areWithin others (ranges.dropWhile fun range => wide.1 ≤ range.1 && range.2 ≤ wide.2)

theorem exists_of_areWithin {wider ranges : List (Nat × Nat)} (h : areWithin wider ranges = true) :
    ∀ range ∈ ranges, ∃ wide ∈ wider, wide.1 ≤ range.1 ∧ range.2 ≤ wide.2 := by
  induction wider generalizing ranges with
  | nil =>
    obtain rfl := List.isEmpty_iff.1 h
    exact fun range hrange => absurd hrange List.not_mem_nil
  | cons first others ih =>
    intro range hrange
    rw [← List.takeWhile_append_dropWhile (l := ranges)
      (p := fun range => decide (first.1 ≤ range.1) && decide (range.2 ≤ first.2)),
      List.mem_append] at hrange
    rcases hrange with hinside | hbehind
    · exact ⟨first, List.mem_cons_self, by simpa using List.mem_takeWhile_imp hinside⟩
    · obtain ⟨wide, hwide, hbounds⟩ := ih h range hbehind
      exact ⟨wide, List.mem_cons_of_mem first hwide, hbounds⟩

theorem isAlphanumeric_of_isNumeric {c : Char} (h : isNumeric c = true) :
    isAlphanumeric c = true := by
  have hwithin : areWithin alphanumericRanges numericRanges = true := by decide +kernel
  unfold isNumeric at h
  unfold isAlphanumeric
  split at h
  · next hascii => rw [if_pos hascii, Char.isAlphanum, h, Bool.or_true]
  · next hascii =>
    obtain ⟨range, hrange, hbounds⟩ := List.any_eq_true.1 h
    obtain ⟨wide, hwide, hle⟩ := exists_of_areWithin hwithin range hrange
    rw [if_neg hascii, inRanges, List.any_eq_true]
    refine ⟨wide, hwide, ?_⟩
    simp only [Bool.and_eq_true, decide_eq_true_eq] at hbounds ⊢
    omega

/-! ### The four rules -/

theorem uppercase_cases (c : Char) :
    (c.toNat < 128 ∧ uppercase c = [c.toUpper]) ∨
    (∃ codes, (c.toNat, codes) ∈ uppercaseExpansions ∧ uppercase c = codes.map Char.ofNat) ∨
    (∃ run ∈ uppercaseRuns, run.contains c.toNat = true ∧
      uppercase c = [Char.ofNat (c.toNat + run.distance).toNat]) ∨
    (128 ≤ c.toNat ∧ uppercase c = [c]) := by
  unfold uppercase
  by_cases hascii : c.toNat < 128
  · exact .inl ⟨hascii, if_pos hascii⟩
  rw [if_neg hascii]
  split
  · next codes hcodes =>
    obtain ⟨before, after, heq, -⟩ := List.lookup_eq_some_iff.1 hcodes
    exact .inr (.inl ⟨codes, by simp [heq], rfl⟩)
  · split
    · next run hrun =>
      have hcode : run.contains c.toNat = true := by
        simpa using List.find?_some (p := fun run => CaseRun.contains run c.toNat) hrun
      exact .inr (.inr (.inl ⟨run, List.mem_of_find?_eq_some hrun, hcode, rfl⟩))
    · exact .inr (.inr (.inr ⟨Nat.not_lt.1 hascii, rfl⟩))

theorem CaseRun.bounds_of_contains {run : CaseRun} {code : Nat} (h : run.contains code = true) :
    run.first ≤ code ∧ code ≤ run.last := by
  simp only [CaseRun.contains, Bool.and_eq_true, decide_eq_true_eq] at h
  exact h.1

theorem toNat_ofNat_of_isValidChar {n : Nat} (h : n.isValidChar) : (Char.ofNat n).toNat = n := by
  unfold Char.ofNat
  rw [dif_pos h]
  rfl

theorem toNat_ofNat_of_contains {run : CaseRun} (hrun : run ∈ uppercaseRuns) {code : Nat}
    (h : run.contains code = true) :
    ((Char.ofNat (code + run.distance).toNat).toNat : Int) = code + run.distance := by
  have hvalid : ∀ run ∈ uppercaseRuns, 0 ≤ run.first + run.distance ∧
      (run.last + run.distance < 0xD800 ∨
        0xDFFF < run.first + run.distance ∧ run.last + run.distance < 0x110000) := by
    decide +kernel
  have hbounds := run.bounds_of_contains h
  have hcode := hvalid run hrun
  have hchar : (code + run.distance).toNat.isValidChar := by
    unfold Nat.isValidChar
    omega
  rw [toNat_ofNat_of_isValidChar hchar]
  omega

/-! ### What comes out -/

theorem ascii_of_mem_uppercase {c d : Char} (h : d ∈ uppercase c) (hd : d.toNat < 128) :
    (c.toNat < 128 ∧ d = c.toUpper) ∨ d.isUpper = true := by
  rcases uppercase_cases c with ⟨hc, heq⟩ | ⟨codes, hcodes, heq⟩ | ⟨run, hrun, hcode, heq⟩ |
    ⟨hc, heq⟩
  · rw [heq, List.mem_singleton] at h
    exact .inl ⟨hc, h⟩
  · have hall : ∀ entry ∈ uppercaseExpansions, ∀ code ∈ entry.2,
        (Char.ofNat code).toNat < 128 → (Char.ofNat code).isUpper = true := by
      decide +kernel
    rw [heq, List.mem_map] at h
    obtain ⟨code, hmem, rfl⟩ := h
    exact .inr (hall _ hcodes code hmem hd)
  · have hall : ∀ run ∈ uppercaseRuns, 128 ≤ run.first + run.distance ∨
        65 ≤ run.first + run.distance ∧ run.last + run.distance ≤ 90 := by
      decide +kernel
    have hbounds := run.bounds_of_contains hcode
    have hupper := toNat_ofNat_of_contains hrun hcode
    rw [heq, List.mem_singleton] at h
    subst h
    have := hall run hrun
    right
    rw [isUpper_iff]
    omega
  · rw [heq, List.mem_singleton] at h
    subst h
    omega

/-- Stretches of code points without a numeric one. All letters with two cases lie in them. -/
def letterStretches : List (Nat × Nat) :=
  [(0xBF, 0x65F), (0x1C5A, 0x206F), (0xA6F0, 0xA82F), (0x2794, 0x2CFC), (0x104AA, 0x10857),
   (0x3A, 0xB1), (0xB4, 0xB8), (0x109A, 0x1368), (0x137D, 0x16ED), (0x208A, 0x214F),
   (0x2183, 0x2184), (0x249C, 0x24E9), (0x2CFE, 0x3006), (0xA62A, 0xA6E5), (0xAA5A, 0xABEF),
   (0xABFA, 0xFF0F), (0xFF1A, 0x10106), (0x103D6, 0x1049F), (0x10BB0, 0x10CF9),
   (0x10D4A, 0x10E5F), (0x1173C, 0x118DF), (0x16D7A, 0x16E7F), (0x16E97, 0x16FF3),
   (0x1E8D0, 0x1E94F)]

theorem isNumeric_of_stretch {stretch : Nat × Nat} (hstretch : stretch ∈ letterStretches) {c : Char}
    (hfirst : stretch.1 ≤ c.toNat) (hlast : c.toNat ≤ stretch.2) : isNumeric c = false := by
  have hapart : ∀ stretch ∈ letterStretches, 58 ≤ stretch.1 ∧
      ∀ range ∈ numericRanges, stretch.2 < range.1 ∨ range.2 < stretch.1 := by
    decide +kernel
  obtain ⟨hdigits, hranges⟩ := hapart stretch hstretch
  rw [isNumeric_eq, isDigit_of_le (by omega), Bool.false_or, inRanges, List.any_eq_false]
  intro range hrange
  have := hranges range hrange
  simp only [Bool.and_eq_true, decide_eq_true_eq]
  omega

theorem isNumeric_of_range {range : Nat × Nat} (hrange : range ∈ numericRanges) {c : Char}
    (hfirst : range.1 ≤ c.toNat) (hlast : c.toNat ≤ range.2) : isNumeric c = true := by
  rw [isNumeric_eq, Bool.or_eq_true, inRanges, List.any_eq_true]
  exact .inr ⟨range, hrange, by simp [hfirst, hlast]⟩

theorem isNumeric_of_contains {run : CaseRun} (hrun : run ∈ uppercaseRuns) {c : Char}
    (h : run.contains c.toNat = true) :
    isNumeric (Char.ofNat (c.toNat + run.distance).toNat) = isNumeric c := by
  have hall : ∀ run ∈ uppercaseRuns,
      ((∃ stretch ∈ letterStretches, stretch.1 ≤ run.first ∧ run.last ≤ stretch.2) ∧
        ∃ stretch ∈ letterStretches,
          stretch.1 ≤ run.first + run.distance ∧ run.last + run.distance ≤ stretch.2) ∨
      ∃ range ∈ numericRanges, range.1 ≤ run.first ∧ run.last ≤ range.2 ∧
        range.1 ≤ run.first + run.distance ∧ run.last + run.distance ≤ range.2 := by
    decide +kernel
  have hbounds := run.bounds_of_contains h
  have hupper := toNat_ofNat_of_contains hrun h
  generalize Char.ofNat (c.toNat + run.distance).toNat = d at hupper ⊢
  rcases hall run hrun with
    ⟨⟨lower, hlower, hbelow⟩, upper, hmapped, habove⟩ | ⟨range, hrange, hinside⟩
  · rw [isNumeric_of_stretch hmapped (by omega) (by omega),
      isNumeric_of_stretch hlower (by omega) (by omega)]
  · rw [isNumeric_of_range hrange (by omega) (by omega),
      isNumeric_of_range hrange (by omega) (by omega)]

theorem isNumeric_of_expansion {c : Char} {codes : List Nat}
    (h : (c.toNat, codes) ∈ uppercaseExpansions) :
    ∃ code rest, codes = code :: rest ∧ isNumeric (Char.ofNat code) = isNumeric c := by
  have hall : ∀ entry ∈ uppercaseExpansions, ∃ code ∈ entry.2.head?,
      (∃ stretch ∈ letterStretches, stretch.1 ≤ entry.1 ∧ entry.1 ≤ stretch.2) ∧
      ∃ stretch ∈ letterStretches,
        stretch.1 ≤ (Char.ofNat code).toNat ∧ (Char.ofNat code).toNat ≤ stretch.2 := by
    decide +kernel
  obtain ⟨code, hcode, ⟨lower, hlower, hbelow⟩, upper, hupper, habove⟩ := hall _ h
  obtain ⟨rest, rfl⟩ := List.head?_eq_some_iff.1 hcode
  refine ⟨code, rest, rfl, ?_⟩
  rw [isNumeric_of_stretch hupper habove.1 habove.2, isNumeric_of_stretch hlower hbelow.1 hbelow.2]

theorem isDigit_of_mem_uppercase {c d : Char} (h : d ∈ uppercase c) : d.isDigit = c.isDigit := by
  by_cases hascii : c.toNat < 128
  · have hall : ∀ code : Fin 128,
        (Char.ofNat code).toUpper.isDigit = (Char.ofNat code).isDigit := by
      decide +kernel
    rw [uppercase, if_pos hascii, List.mem_singleton] at h
    rw [h]
    exact forall_ascii (p := fun c => c.toUpper.isDigit = c.isDigit) hall hascii
  · rw [isDigit_of_le (c := c) (by omega)]
    by_contra hdigit
    have hlow : d.toNat < 58 := by
      by_contra hle
      exact hdigit (isDigit_of_le (Nat.not_lt.1 hle))
    rcases ascii_of_mem_uppercase h (by omega) with ⟨hc, -⟩ | hupper
    · exact hascii hc
    · have := (isUpper_iff d).1 hupper
      omega

/-- The first character of an upper-case form is numeric exactly if the character is, and likewise
for digits of ASCII. -/
theorem uppercase_eq_cons (c : Char) :
    ∃ first rest, uppercase c = first :: rest ∧ isNumeric first = isNumeric c ∧
      first.isDigit = c.isDigit := by
  suffices hnumeric : ∃ first rest, uppercase c = first :: rest ∧
      isNumeric first = isNumeric c by
    obtain ⟨first, rest, heq, hfirst⟩ := hnumeric
    exact ⟨first, rest, heq, hfirst, isDigit_of_mem_uppercase (heq ▸ List.mem_cons_self)⟩
  rcases uppercase_cases c with ⟨hc, heq⟩ | ⟨codes, hcodes, heq⟩ | ⟨run, hrun, hcode, heq⟩ |
    ⟨-, heq⟩
  · have hall : ∀ code : Fin 128,
        isNumeric (Char.ofNat code).toUpper = isNumeric (Char.ofNat code) := by
      decide +kernel
    exact ⟨_, [], heq, forall_ascii (p := fun c => isNumeric c.toUpper = isNumeric c) hall hc⟩
  · obtain ⟨code, rest, rfl, hfirst⟩ := isNumeric_of_expansion hcodes
    exact ⟨Char.ofNat code, rest.map Char.ofNat, heq, hfirst⟩
  · exact ⟨_, [], heq, isNumeric_of_contains hrun hcode⟩
  · exact ⟨c, [], heq, rfl⟩

end FeatureFixtures
