import FeatureFixtures.Fingerprint
import FeatureFixtures.Text.Blank
import Mathlib.Data.List.Basic
/-!
# Written numbers

Decimal numbers have the value they were written for, and no leading zero; a digest in hexadecimal
digits is read back however many zeros fill it up. Both are written in visible ASCII characters, so
nothing of them is lost when blanks are trimmed.
-/

namespace FeatureFixtures

/-! ### Visible characters -/

/-- A visible ASCII character. -/
def IsVisible (c : Char) : Prop :=
  0x21 ≤ c.toNat ∧ c.toNat < 0x7F

instance (c : Char) : Decidable (IsVisible c) :=
  inferInstanceAs (Decidable (_ ∧ _))

theorem IsVisible.isBlank_eq_false {c : Char} (h : IsVisible c) : isBlank c = false := by
  obtain ⟨hlow, hhigh⟩ := h
  have hspace : c ≠ ' ' := by
    rintro rfl
    exact absurd hlow (by decide)
  simp only [isBlank, Bool.or_eq_false_iff, Bool.and_eq_false_iff, beq_eq_false_iff_ne,
    decide_eq_false_iff_not, ne_eq, and_assoc]
  refine ⟨hspace, ?_⟩
  omega

namespace Text

theorem trimStart_eq_self {t : Text} (h : ∀ c ∈ t, isBlank c = false) : trimStart t = t := by
  cases t with
  | nil => rfl
  | cons c rest => simp [trimStart, h c List.mem_cons_self]

theorem trim_eq_self {t : Text} (h : ∀ c ∈ t, IsVisible c) : trim t = t := by
  have hblank : ∀ c ∈ t, isBlank c = false := fun c hc => (h c hc).isBlank_eq_false
  have hreverse : trimStart t.reverse = t.reverse :=
    trimStart_eq_self fun c hc => hblank c (List.mem_reverse.1 hc)
  rw [trim, trimStart_eq_self hblank, trimEnd]
  exact (congrArg List.reverse hreverse).trans (List.reverse_reverse t)

/-! ### Decimal numbers -/

theorem digitsValue_ofNat (n : Nat) : digitsValue (ofNat n) = n :=
  Nat.ofDigitChars_ten_toDigits

theorem isDigit_of_mem_ofNat {n : Nat} {c : Char} (h : c ∈ ofNat n) : c.isDigit = true :=
  Nat.isDigit_of_mem_toDigits (by decide) (by decide) h

theorem ofNat_ne_nil (n : Nat) : ofNat n ≠ [] :=
  Nat.toDigits_ne_nil

theorem head?_ofNat_ne_zero {n : Nat} (hn : 0 < n) : (ofNat n).head? ≠ some '0' := by
  induction n using Nat.strongRecOn with
  | ind n ih =>
    rw [ofNat, Nat.toDigits_eq_if (by decide)]
    split
    · next hlt =>
      have hdigit : ∀ d < 10, 0 < d → [Nat.digitChar d].head? ≠ some '0' := by decide
      exact hdigit n hlt hn
    · next hge =>
      rw [List.head?_append_of_ne_nil _ Nat.toDigits_ne_nil]
      exact ih (n / 10) (by omega) (by omega)

/-! ### Hexadecimal numbers -/

theorem hexValue?_digitChar : ∀ d < 16, hexValue? (Nat.digitChar d) = some d := by
  decide

/-- The value of hexadecimal digits that follow a value. -/
def hexValueFrom (value : Nat) (digits : Text) : Nat :=
  digits.foldl (fun value c => 16 * value + (hexValue? c).getD 0) value

theorem le_hexValueFrom (value : Nat) (digits : Text) : value ≤ hexValueFrom value digits := by
  induction digits generalizing value with
  | nil => exact Nat.le_refl value
  | cons c rest ih =>
    have hrest := ih (16 * value + (hexValue? c).getD 0)
    simp only [hexValueFrom, List.foldl_cons] at hrest ⊢
    omega

/-- What holds of every digit of a number below a base holds of all characters that are written. -/
theorem forall_mem_toDigits {base : Nat} (hbase : 1 < base) {p : Char → Prop}
    (hdigit : ∀ d < base, p (Nat.digitChar d)) (n : Nat) : ∀ c ∈ Nat.toDigits base n, p c := by
  induction n using Nat.strongRecOn with
  | ind n ih =>
    rw [Nat.toDigits_eq_if hbase]
    split
    · next hlt => simpa using hdigit n hlt
    · next hge =>
      have hsmaller : n / base < n := Nat.div_lt_self (by omega) hbase
      simp only [List.mem_append, List.mem_singleton]
      rintro c (hc | rfl)
      · exact ih (n / base) hsmaller c hc
      · exact hdigit (n % base) (Nat.mod_lt n (by omega))

theorem hexValueFrom_hex (n : Nat) : hexValueFrom 0 (hex n) = n := by
  induction n using Nat.strongRecOn with
  | ind n ih =>
    rw [hex, Nat.toDigits_eq_if (by decide)]
    split
    · next hlt => simp [hexValueFrom, hexValue?_digitChar n hlt]
    · next hge =>
      have hrest : hexValueFrom 0 (Nat.toDigits 16 (n / 16)) = n / 16 := ih (n / 16) (by omega)
      have hlast : hexValue? (Nat.digitChar (n % 16)) = some (n % 16) :=
        hexValue?_digitChar _ (by omega)
      simp only [hexValueFrom, List.foldl_append, List.foldl_cons, List.foldl_nil, hlast] at hrest ⊢
      rw [hrest, Option.getD_some]
      omega

theorem hexValueFrom_hexPadded (width n : Nat) : hexValueFrom 0 (hexPadded width n) = n := by
  have hzeros (k : Nat) : hexValueFrom 0 (List.replicate k '0') = 0 := by
    induction k with
    | zero => rfl
    | succ k ih => simpa [hexValueFrom, List.replicate_succ, hexValue?] using ih
  have happend (s t : Text) : hexValueFrom 0 (s ++ t) = hexValueFrom (hexValueFrom 0 s) t := by
    simp [hexValueFrom]
  rw [hexPadded, happend, hzeros, hexValueFrom_hex]

theorem hexPadded_ne_nil (width n : Nat) : hexPadded width n ≠ [] := by
  simp [hexPadded, hex]

theorem forall_mem_hexPadded {p : Char → Prop} (hdigit : ∀ d < 16, p (Nat.digitChar d))
    (width n : Nat) : ∀ c ∈ hexPadded width n, p c := by
  intro c hc
  rcases List.mem_append.1 hc with hzero | hhex
  · rw [List.eq_of_mem_replicate hzero]
    exact hdigit 0 (by decide)
  · exact forall_mem_toDigits (by decide) hdigit n c hhex

end Text

namespace Fingerprint

theorem readHexDigits_eq_ok {value : Nat} {digits : Text}
    (hdigits : ∀ c ∈ digits, (Text.hexValue? c).isSome = true)
    (hsize : Text.hexValueFrom value digits < UInt64.size) :
    readHexDigits value digits = .ok (Text.hexValueFrom value digits).toUInt64 := by
  induction digits generalizing value with
  | nil => rfl
  | cons c rest ih =>
    obtain ⟨digit, hdigit⟩ := Option.isSome_iff_exists.1 (hdigits c List.mem_cons_self)
    have hstep : Text.hexValueFrom value (c :: rest) =
        Text.hexValueFrom (16 * value + digit) rest := by
      simp [Text.hexValueFrom, hdigit]
    have hvalue : 16 * value + digit < UInt64.size := by
      rw [hstep] at hsize
      exact Nat.lt_of_le_of_lt (Text.le_hexValueFrom _ rest) hsize
    rw [hstep] at hsize ⊢
    simp only [readHexDigits, hdigit, hvalue, if_true]
    exact ih (fun other hother => hdigits other (List.mem_cons_of_mem _ hother)) hsize

theorem readDigest_of_ne_plus {t : Text} (hempty : t ≠ []) (hplus : '+' ∉ t) :
    readDigest t = readHexDigits 0 t := by
  cases t with
  | nil => exact absurd rfl hempty
  | cons c rest =>
    have hc : c ≠ '+' := fun h => hplus (h ▸ List.mem_cons_self)
    unfold readDigest
    split <;> simp_all

/-- A digest is read back from its digits. -/
theorem readDigest_hexPadded (width : Nat) (digest : UInt64) :
    readDigest (Text.hexPadded width digest.toNat) = .ok digest := by
  have hplus : '+' ∉ Text.hexPadded width digest.toNat := fun hmem =>
    Text.forall_mem_hexPadded (p := (· ≠ '+')) (by decide) width _ '+' hmem rfl
  have hsize : Text.hexValueFrom 0 (Text.hexPadded width digest.toNat) < UInt64.size := by
    rw [Text.hexValueFrom_hexPadded]
    exact digest.toNat_lt
  rw [readDigest_of_ne_plus (Text.hexPadded_ne_nil _ _) hplus,
    readHexDigits_eq_ok (Text.forall_mem_hexPadded (by decide) width _) hsize,
    Text.hexValueFrom_hexPadded]
  simp

end Fingerprint

end FeatureFixtures
