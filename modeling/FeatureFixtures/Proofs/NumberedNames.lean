import FeatureFixtures.Proofs.Names
import FeatureFixtures.Proofs.Uppercase
/-!
# Numbers at the end of names

A name that was wanted before gets a number, and which one is known: if no wanted name ends in a
number itself, the number tells how often the name was wanted or in use before. Some languages take
names that differ in case only for the same name. Underscores and digits have no case, so two names
with numbers are the same to such a language exactly if the wanted names and the numbers are.
-/

namespace FeatureFixtures

/-- A rule by which characters that differ in case only are taken for the same one. Underscores and
digits of ASCII have no case. -/
structure CaseRule where
  fold : Char → Char
  fold_eq_iff : ∀ c d, d = '_' ∨ d.isDigit = true → (fold c = d ↔ c = d)

namespace CaseRule

/-- A name as a case rule takes it. -/
def apply (rule : CaseRule) (name : Text) : Text :=
  name.map rule.fold

/-- The rule by which no two characters are the same. -/
def exact : CaseRule where
  fold := id
  fold_eq_iff _ _ _ := Iff.rfl

theorem apply_exact (name : Text) : exact.apply name = name :=
  List.map_id name

theorem toLower_cases (c : Char) :
    c.toLower = c ∨ ∀ d, d = '_' ∨ d.isDigit = true → c.toLower ≠ d ∧ c ≠ d := by
  by_cases hascii : c.toNat < 128
  · have hall : ∀ code : Fin 128, (Char.ofNat code).toLower = Char.ofNat code ∨
        ¬((Char.ofNat code).toLower = '_' ∨ (Char.ofNat code).toLower.isDigit = true) ∧
          ¬(Char.ofNat code = '_' ∨ (Char.ofNat code).isDigit = true) := by
      decide +kernel
    refine (forall_ascii (p := fun c => c.toLower = c ∨
      ¬(c.toLower = '_' ∨ c.toLower.isDigit = true) ∧ ¬(c = '_' ∨ c.isDigit = true))
      hall hascii).imp_right ?_
    rintro ⟨hlower, hsame⟩ d hd
    exact ⟨fun heq => hlower (heq ▸ hd), fun heq => hsame (heq ▸ hd)⟩
  · left
    unfold Char.toLower
    rw [dif_neg]
    rintro ⟨-, hle⟩
    rw [UInt32.le_iff_toNat_le] at hle
    exact hascii (Nat.lt_of_le_of_lt hle (by decide))

/-- The rule that knows the letters of ASCII only. -/
def ascii : CaseRule where
  fold := Char.toLower
  fold_eq_iff c d hd := by
    rcases toLower_cases c with hsame | hother
    · rw [hsame]
    · exact iff_of_false (hother d hd).1 (hother d hd).2

end CaseRule

namespace Identifier

/-- A name that was wanted or in use so many times before. -/
def ranked (base : Text) : Nat → Text
  | 0 => base
  | n + 1 => numbered base (n + 1)

/-- A name that is not another name with a number. -/
structure IsRoot (name : Text) : Prop where
  ne_nil : name ≠ []
  ne_numbered : ∀ base n, base ≠ [] → name ≠ numbered base n

/-- The names that are given for wanted ones when others were wanted before. -/
def rankedFrom (before : List Text) : List Text → List Text
  | [] => []
  | wanted :: others =>
    ranked wanted (before.count wanted) :: rankedFrom (wanted :: before) others

/-! ### The last underscore -/

theorem append_underscore_inj {a b s t : Text} (hs : '_' ∉ s) (ht : '_' ∉ t)
    (h : a ++ '_' :: s = b ++ '_' :: t) : a = b ∧ s = t := by
  rcases List.append_eq_append_iff.1 h with ⟨u, hu, hv⟩ | ⟨u, hu, hv⟩
  · cases u <;> simp_all
  · cases u <;> simp_all

theorem underscore_notMem_ofNat (n : Nat) : '_' ∉ Text.ofNat n := by
  intro h
  exact absurd (Text.isDigit_of_mem_ofNat h) (by decide)

theorem isRoot_of_notMem_tail {name : Text} (hne : name ≠ []) (h : '_' ∉ name.tail) :
    IsRoot name where
  ne_nil := hne
  ne_numbered base n hbase heq := by
    obtain ⟨c, rest, rfl⟩ := List.exists_cons_of_ne_nil hbase
    rw [heq, numbered] at h
    exact h (by simp)

/-! ### Names with numbers under a case rule -/

section

variable (rule : CaseRule) {a b : Text}

theorem length_eq_of_apply_eq (h : rule.apply a = rule.apply b) : a.length = b.length := by
  simpa [CaseRule.apply] using congrArg List.length h

theorem apply_ranked (h : rule.apply a = rule.apply b) (n : Nat) :
    rule.apply (ranked a n) = rule.apply (ranked b n) := by
  unfold CaseRule.apply at *
  cases n with
  | zero => exact h
  | succ n => rw [ranked, ranked, numbered, numbered, List.map_append, List.map_append, h]

theorem apply_eq_digits_iff {digits : Text} (hall : ∀ c ∈ digits, c.isDigit = true) (t : Text) :
    rule.apply t = rule.apply digits ↔ t = digits := by
  unfold CaseRule.apply
  induction digits generalizing t with
  | nil => simp
  | cons d digits ih =>
    rw [List.forall_mem_cons] at hall
    have hfold : rule.fold d = d := (rule.fold_eq_iff d d (.inr hall.1)).2 rfl
    cases t with
    | nil => simp
    | cons c t =>
      rw [List.map_cons, List.map_cons, List.cons.injEq, List.cons.injEq, ih hall.2, hfold,
        rule.fold_eq_iff c d (.inr hall.1)]

theorem apply_eq_numbered {name base : Text} {n : Nat}
    (h : rule.apply name = rule.apply (numbered base n)) :
    ∃ start, name = numbered start n ∧ rule.apply start = rule.apply base := by
  have hdigits := apply_eq_digits_iff rule fun c (hc : c ∈ Text.ofNat n) =>
    Text.isDigit_of_mem_ofNat hc
  -- The underscore and the digits come from the same characters; what stands before may differ.
  rw [numbered] at h
  unfold CaseRule.apply at *
  rw [List.map_append, List.map_cons] at h
  obtain ⟨start, rest, rfl, hstart, hrest⟩ := List.map_eq_append_iff.1 h
  obtain ⟨c, others, rfl, hc, hothers⟩ := List.map_eq_cons_iff.1 hrest
  have hunderscore : rule.fold '_' = '_' := (rule.fold_eq_iff '_' '_' (.inl rfl)).2 rfl
  rw [hunderscore, rule.fold_eq_iff c '_' (.inl rfl)] at hc
  rw [hdigits] at hothers
  exact ⟨start, by rw [hc, hothers, numbered], hstart⟩

theorem apply_ne_numbered (ha : IsRoot a) (hb : IsRoot b) (n : Nat) :
    rule.apply a ≠ rule.apply (numbered b n) := by
  intro heq
  obtain ⟨start, rfl, hstart⟩ := apply_eq_numbered rule heq
  refine ha.ne_numbered start n ?_ rfl
  rintro rfl
  exact hb.ne_nil (List.map_eq_nil_iff.1 hstart.symm)

theorem apply_ranked_inj (ha : IsRoot a) (hb : IsRoot b) {m n : Nat}
    (h : rule.apply (ranked a m) = rule.apply (ranked b n)) :
    rule.apply a = rule.apply b ∧ m = n := by
  cases m with
  | zero =>
    cases n with
    | zero => exact ⟨h, rfl⟩
    | succ n => exact absurd h (apply_ne_numbered rule ha hb (n + 1))
  | succ m =>
    cases n with
    | zero => exact absurd h.symm (apply_ne_numbered rule hb ha (m + 1))
    | succ n =>
      obtain ⟨start, hstart, heq⟩ := apply_eq_numbered rule h
      obtain ⟨rfl, hdigits⟩ := append_underscore_inj (underscore_notMem_ofNat _)
        (underscore_notMem_ofNat _) hstart
      have hvalue := congrArg Text.digitsValue hdigits
      rw [Text.digitsValue_ofNat, Text.digitsValue_ofNat] at hvalue
      exact ⟨heq, hvalue⟩

theorem ranked_inj (ha : IsRoot a) (hb : IsRoot b) {m n : Nat}
    (h : ranked a m = ranked b n) : a = b ∧ m = n := by
  have hexact := apply_ranked_inj CaseRule.exact ha hb (congrArg CaseRule.exact.apply h)
  rwa [CaseRule.apply_exact, CaseRule.apply_exact] at hexact

end

/-! ### The names that are given -/

theorem mem_rankedFrom_iff {before wanted : List Text} {name : Text} :
    name ∈ rankedFrom before wanted ↔ ∃ base n, name = ranked base n ∧
      before.count base ≤ n ∧ n < before.count base + wanted.count base := by
  induction wanted generalizing before with
  | nil =>
    simp only [rankedFrom, List.not_mem_nil, List.count_nil, Nat.add_zero, false_iff, not_exists]
    omega
  | cons first others ih =>
    rw [rankedFrom, List.mem_cons, ih]
    constructor
    · rintro (rfl | ⟨base, n, rfl, hle, hlt⟩)
      · refine ⟨first, before.count first, rfl, Nat.le_refl _, ?_⟩
        rw [List.count_cons_self]
        omega
      · refine ⟨base, n, rfl, ?_⟩
        simp only [List.count_cons] at hle hlt ⊢
        omega
    · rintro ⟨base, n, rfl, hle, hlt⟩
      by_cases hfirst : base = first ∧ n = before.count first
      · left
        rw [hfirst.1, hfirst.2]
      · right
        refine ⟨base, n, rfl, ?_⟩
        by_cases hbase : base = first
        · subst hbase
          have hne : n ≠ before.count base := fun heq => hfirst ⟨rfl, heq⟩
          rw [List.count_cons_self] at hlt ⊢
          omega
        · rw [List.count_cons_of_ne (Ne.symm hbase)] at hlt ⊢
          exact ⟨hle, hlt⟩

/-- The names in use are those that were wanted, with as many numbers as they were wanted. -/
def Uses (used before : List Text) : Prop :=
  ∀ base n, IsRoot base → (ranked base n ∈ used ↔ n < before.count base)

theorem uses_self {names : List Text} (hroots : ∀ name ∈ names, IsRoot name)
    (hnodup : names.Nodup) : Uses names names := by
  intro base n hbase
  cases n with
  | zero => exact List.count_pos_iff.symm
  | succ n =>
    have hcount := List.nodup_iff_count_le_one.1 hnodup base
    refine iff_of_false (fun hmem => ?_) (by omega)
    exact (hroots _ hmem).ne_numbered base (n + 1) hbase.ne_nil rfl

theorem Uses.cons {used before : List Text} (h : Uses used before) {wanted : Text}
    (hwanted : IsRoot wanted) :
    Uses (ranked wanted (before.count wanted) :: used) (wanted :: before) := by
  intro base n hbase
  rw [List.mem_cons, h base n hbase]
  by_cases heq : base = wanted
  · subst heq
    rw [List.count_cons_self]
    constructor
    · rintro (hranked | hlt)
      · have := (ranked_inj hbase hbase hranked).2
        omega
      · omega
    · intro hlt
      rcases Nat.eq_or_lt_of_le (Nat.le_of_lt_succ hlt) with rfl | hbelow
      · exact .inl rfl
      · exact .inr hbelow
  · rw [List.count_cons_of_ne (Ne.symm heq)]
    refine or_iff_right fun hranked => heq ?_
    exact (ranked_inj hbase hwanted hranked).1

theorem IsNewName.eq_ranked {used before : List Text} {wanted name : Text}
    (h : IsNewName used wanted name) (hused : Uses used before) (hroot : IsRoot wanted) :
    name = ranked wanted (before.count wanted) := by
  have hzero := hused wanted 0 hroot
  cases h with
  | unused hfree =>
    have hcount : before.count wanted = 0 := by
      rw [ranked] at hzero
      have := mt hzero.2 hfree
      omega
    rw [hcount, ranked]
  | numbered n hmem hpos hfree hpassed =>
    -- The numbers in use are those below the count, and the search stops at the first other one.
    have hcount : 0 < before.count wanted := hzero.1 hmem
    have hnumber (m : Nat) (hm : 0 < m) :
        Identifier.numbered wanted m ∈ used ↔ m < before.count wanted := by
      obtain ⟨m, rfl⟩ := Nat.exists_eq_succ_of_ne_zero (Nat.pos_iff_ne_zero.1 hm)
      exact hused wanted (m + 1) hroot
    have hle : before.count wanted ≤ n := Nat.not_lt.1 (mt (hnumber n hpos).2 hfree)
    have hge : n ≤ before.count wanted := by
      by_contra hlt
      have := (hnumber _ hcount).1 (hpassed _ hcount (Nat.not_le.1 hlt))
      omega
    obtain rfl := Nat.le_antisymm hge hle
    obtain ⟨m, hm⟩ := Nat.exists_eq_succ_of_ne_zero (Nat.pos_iff_ne_zero.1 hpos)
    rw [hm]
    rfl

/-- The number of a name tells how often the name was wanted or in use before. -/
theorem AreNewNames.eq_rankedFrom {used before wanted names : List Text}
    (h : AreNewNames used wanted names) (hused : Uses used before)
    (hroots : ∀ name ∈ wanted, IsRoot name) : names = rankedFrom before wanted := by
  induction h generalizing before with
  | nil used => rfl
  | cons hname _ ih =>
    rw [List.forall_mem_cons] at hroots
    have hranked := hname.eq_ranked hused hroots.1
    rw [rankedFrom, ← hranked, ih (hranked ▸ hused.cons hroots.1) hroots.2]

end Identifier

end FeatureFixtures
