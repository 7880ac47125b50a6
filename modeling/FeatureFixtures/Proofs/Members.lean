import FeatureFixtures.Proofs.Expansion
import FeatureFixtures.Proofs.Identifiers
import FeatureFixtures.Proofs.NumberedNames
/-!
# The members of a class

A class has the field of the test runner, the methods that prepare and end its work, the method of a
background if there is one, and its tests. No two of them have the same name. But a test may have
the name of the class itself, for that is not among the names that are kept free; and two members
may have names that differ in case only. When this happens can be told from the titles.
-/

namespace FeatureFixtures

namespace Fixture

open Identifier

/-- The numbers a name is given with, zero for none: it is the name of a member besides the tests,
or is wanted for tests after it was kept free or given before. -/
def Taken (hasBackground : Bool) (wanted : List Text) (name : Text) (n : Nat) : Prop :=
  (n = 0 ∧ name ∈ memberNames hasBackground) ∨
    (reservedNames.count name ≤ n ∧ n < reservedNames.count name + wanted.count name)

/-- Two names that differ in case only but give no clash. A test does not get the name of the method
of the background even if there is none, but a number; and a name that is wanted once gets no
number. -/
def GetApart (hasBackground : Bool) (wanted : List Text) (a b : Text) : Prop :=
  hasBackground = false ∧ a = backgroundName ∧ wanted.count b = 1

/-! ### Names without numbers -/

theorem isRoot_of_mem_memberNames {name : Text} (h : name ∈ memberNames true) : IsRoot name := by
  have hall : ∀ name ∈ memberNames true, name ≠ [] ∧ '_' ∉ name.tail := by decide
  exact isRoot_of_notMem_tail (hall name h).1 (hall name h).2

theorem mem_memberNames_true {hasBackground : Bool} {name : Text}
    (h : name ∈ memberNames hasBackground) : name ∈ memberNames true := by
  cases hasBackground with
  | true => exact h
  | false =>
    have hall : ∀ name ∈ memberNames false, name ∈ memberNames true := by decide
    exact hall name h

theorem mem_memberNames_of_reserved {name : Text} (h : name ∈ reservedNames) :
    name ∈ memberNames true := by
  have hall : ∀ name ∈ reservedNames, name ∈ memberNames true := by decide
  exact hall name h

theorem wantedNames_cases {scenario : Scenario} {name : Text} (h : name ∈ wantedNames scenario) :
    (scenario.examples = none ∧ name = ofTitle scenario.title) ∨
    ∃ i, name = ofTitle scenario.title ++ "_Variant" ++ Text.ofNat i := by
  unfold wantedNames at h
  cases hexamples : scenario.examples with
  | none =>
    rw [hexamples] at h
    exact .inl ⟨rfl, List.mem_singleton.1 h⟩
  | some examples =>
    rw [hexamples] at h
    obtain ⟨i, -, rfl⟩ := List.mem_map.1 h
    exact .inr ⟨i, rfl⟩

theorem isRoot_of_mem_wantedNames {scenario : Scenario} {name : Text}
    (h : name ∈ wantedNames scenario) : IsRoot name := by
  have hne := (isName_ofTitle scenario.title).ne_nil
  rcases wantedNames_cases h with ⟨-, rfl⟩ | ⟨i, rfl⟩
  · exact isRoot_of_notMem_tail hne (underscore_notMem_tail_ofTitle _)
  · refine ⟨by simp, fun base n _ heq => ?_⟩
    have hlast : '_' ∉ "Variant".toList ++ Text.ofNat i := by
      rw [List.mem_append, not_or]
      exact ⟨by decide, underscore_notMem_ofNat i⟩
    have hsplit : ofTitle scenario.title ++ '_' :: ("Variant".toList ++ Text.ofNat i) =
        base ++ '_' :: Text.ofNat n := by
      rw [← numbered, ← heq, List.append_assoc]
      rfl
    obtain ⟨-, hdigits⟩ := append_underscore_inj hlast (underscore_notMem_ofNat n) hsplit
    have hmem : 'V' ∈ Text.ofNat n := by
      rw [← hdigits]
      exact List.mem_append_left _ (by decide)
    exact absurd (Text.isDigit_of_mem_ofNat hmem) (by decide)

theorem runnerName_notMem_wantedNames (scenario : Scenario) :
    runnerName ∉ wantedNames scenario := by
  intro h
  have hhead := head?_ofTitle_ne scenario.title
  obtain ⟨c, rest, htitle⟩ :=
    List.exists_cons_of_ne_nil (isName_ofTitle scenario.title).ne_nil
  rw [htitle] at hhead
  apply hhead
  rcases wantedNames_cases h with ⟨-, heq⟩ | ⟨i, heq⟩
  · rw [← htitle, ← heq]
    rfl
  · rw [htitle] at heq
    exact (congrArg List.head? heq).symm

/-! ### The name of the class -/

theorem className_ne_append_ofNat (title base : Text) (n : Nat) :
    className title ≠ base ++ Text.ofNat n := by
  intro h
  have hlast := congrArg List.getLast? h
  rw [List.getLast?_append_of_ne_nil _ (Text.ofNat_ne_nil n), className,
    List.getLast?_append_of_ne_nil _ (by decide)] at hlast
  exact absurd (Text.isDigit_of_mem_ofNat (List.mem_of_getLast? hlast.symm)) (by decide)

theorem className_notMem_reservedNames (title : Text) : className title ∉ reservedNames := by
  have hall : ∀ name ∈ reservedNames, name.getLast? ≠ some 'e' := by decide
  intro h
  apply hall _ h
  rw [className, List.getLast?_append_of_ne_nil _ (by decide)]
  rfl

theorem className_mem_rankedFrom_iff (title : Text) (scenarios : List Scenario) :
    className title ∈ rankedFrom reservedNames (scenarios.flatMap wantedNames) ↔
      ∃ scenario ∈ scenarios, scenario.examples = none ∧
        ofTitle scenario.title = className title := by
  have hcount : reservedNames.count (className title) = 0 :=
    List.count_eq_zero.2 (className_notMem_reservedNames title)
  rw [mem_rankedFrom_iff]
  constructor
  · rintro ⟨base, n, hname, -, hlt⟩
    -- With a number, or as that of a row, a name ends in a digit, which that of a class does not.
    cases n with
    | succ n =>
      refine absurd hname ?_
      rw [ranked, numbered, List.append_cons]
      exact className_ne_append_ofNat title _ _
    | zero =>
      rw [ranked] at hname
      subst hname
      have hwanted : className title ∈ scenarios.flatMap wantedNames :=
        List.count_pos_iff.1 (by omega)
      obtain ⟨scenario, hscenario, hmem⟩ := List.mem_flatMap.1 hwanted
      rcases wantedNames_cases hmem with ⟨hplain, heq⟩ | ⟨i, heq⟩
      · exact ⟨scenario, hscenario, hplain, heq.symm⟩
      · exact absurd heq (className_ne_append_ofNat title _ i)
  · rintro ⟨scenario, hscenario, hplain, heq⟩
    have hwanted : className title ∈ scenarios.flatMap wantedNames := by
      refine List.mem_flatMap.2 ⟨scenario, hscenario, ?_⟩
      rw [wantedNames, hplain, heq]
      exact List.mem_singleton_self _
    refine ⟨className title, 0, rfl, Nat.le_of_eq hcount, ?_⟩
    have := List.count_pos_iff.2 hwanted
    omega

/-! ### Names that differ in case -/

section

variable (rule : CaseRule) {hasBackground : Bool} {wanted : List Text} {a b : Text}

theorem eq_of_mem_memberNames (ha : a ∈ memberNames true) (hb : b ∈ memberNames true)
    (h : rule.apply a = rule.apply b) : a = b := by
  have hall : ∀ a ∈ memberNames true, ∀ b ∈ memberNames true, a.length = b.length → a = b := by
    decide
  exact hall a ha b hb (length_eq_of_apply_eq rule h)

theorem mem_members_iff {name : Text} :
    name ∈ memberNames hasBackground ++ rankedFrom reservedNames wanted ↔
      ∃ base n, name = ranked base n ∧ Taken hasBackground wanted base n := by
  rw [List.mem_append, mem_rankedFrom_iff]
  constructor
  · rintro (hmember | ⟨base, n, rfl, htests⟩)
    · exact ⟨name, 0, rfl, .inl ⟨rfl, hmember⟩⟩
    · exact ⟨base, n, rfl, .inr htests⟩
  · rintro ⟨base, n, rfl, ⟨rfl, hmember⟩ | htests⟩
    · exact .inl hmember
    · exact .inr ⟨base, n, rfl, htests⟩

theorem Taken.mem {n : Nat} (h : Taken hasBackground wanted a n) :
    a ∈ memberNames hasBackground ++ wanted := by
  rcases h with ⟨-, hmember⟩ | ⟨hle, hlt⟩
  · exact List.mem_append_left _ hmember
  · exact List.mem_append_right _ (List.count_pos_iff.1 (by omega))

/-- Without a background its method's name is passed over, and every other name is given first
without a number. -/
theorem taken_zero (h : a ∈ memberNames hasBackground ++ wanted)
    (hother : ¬(hasBackground = false ∧ a = backgroundName)) : Taken hasBackground wanted a 0 := by
  by_cases hmember : a ∈ memberNames hasBackground
  · exact .inl ⟨rfl, hmember⟩
  · have hreserved : a ∉ reservedNames := by
      intro hmem
      cases hasBackground with
      | true => exact hmember (mem_memberNames_of_reserved hmem)
      | false =>
        have hall : ∀ name ∈ reservedNames, name ≠ backgroundName →
            name ∈ memberNames false := by
          decide
        exact hmember (hall a hmem fun heq => hother ⟨rfl, heq⟩)
    have hwanted : a ∈ wanted := (List.mem_append.1 h).resolve_left hmember
    have hcount := List.count_eq_zero.2 hreserved
    have hpos := List.count_pos_iff.2 hwanted
    exact .inr ⟨by omega, by omega⟩

theorem count_backgroundName : reservedNames.count backgroundName = 1 := by
  decide

theorem count_eq_zero_of_apply_eq (h : rule.apply backgroundName = rule.apply b)
    (hne : b ≠ backgroundName) : reservedNames.count b = 0 := by
  rw [List.count_eq_zero]
  intro hmem
  exact hne (eq_of_mem_memberNames rule (by decide) (mem_memberNames_of_reserved hmem) h).symm

/-- Another name that is taken for that of the method of a background which is not there. -/
theorem getApart_or_taken (ha : a ∈ memberNames hasBackground ++ wanted)
    (hb : b ∈ memberNames hasBackground ++ wanted) (h : rule.apply a = rule.apply b) (hne : a ≠ b)
    (hmissing : hasBackground = false ∧ a = backgroundName) :
    GetApart hasBackground wanted a b ∨
      (Taken hasBackground wanted a 1 ∧ Taken hasBackground wanted b 1) := by
  obtain ⟨rfl, rfl⟩ := hmissing
  have hacount := count_backgroundName
  have hbcount := count_eq_zero_of_apply_eq rule h hne.symm
  have hawanted : backgroundName ∈ wanted := (List.mem_append.1 ha).resolve_left (by decide)
  have hbwanted : b ∈ wanted := by
    refine (List.mem_append.1 hb).resolve_left fun hmember => hne ?_
    exact eq_of_mem_memberNames rule (by decide) (mem_memberNames_true hmember) h
  have hapos := List.count_pos_iff.2 hawanted
  have hbpos := List.count_pos_iff.2 hbwanted
  by_cases hcount : wanted.count b = 1
  · exact .inl ⟨rfl, rfl, hcount⟩
  · exact .inr ⟨.inr ⟨by omega, by omega⟩, .inr ⟨by omega, by omega⟩⟩

theorem exists_taken_of_apply_eq (ha : a ∈ memberNames hasBackground ++ wanted)
    (hb : b ∈ memberNames hasBackground ++ wanted) (h : rule.apply a = rule.apply b)
    (hne : a ≠ b) :
    GetApart hasBackground wanted a b ∨ GetApart hasBackground wanted b a ∨
      ∃ n, Taken hasBackground wanted a n ∧ Taken hasBackground wanted b n := by
  by_cases hamissing : hasBackground = false ∧ a = backgroundName
  · rcases getApart_or_taken rule ha hb h hne hamissing with hapart | ⟨hataken, hbtaken⟩
    · exact .inl hapart
    · exact .inr (.inr ⟨1, hataken, hbtaken⟩)
  · by_cases hbmissing : hasBackground = false ∧ b = backgroundName
    · rcases getApart_or_taken rule hb ha h.symm hne.symm hbmissing with
        hapart | ⟨hbtaken, hataken⟩
      · exact .inr (.inl hapart)
      · exact .inr (.inr ⟨1, hataken, hbtaken⟩)
    · exact .inr (.inr ⟨0, taken_zero ha hamissing, taken_zero hb hbmissing⟩)

theorem GetApart.not_taken (h : GetApart hasBackground wanted a b)
    (heq : rule.apply a = rule.apply b) (hne : a ≠ b) {n : Nat}
    (ha : Taken hasBackground wanted a n) : ¬ Taken hasBackground wanted b n := by
  obtain ⟨rfl, rfl, hcount⟩ := h
  have hbcount := count_eq_zero_of_apply_eq rule heq hne.symm
  have hacount := count_backgroundName
  have hpos : 0 < n := by
    rcases ha with ⟨-, hmember⟩ | ⟨hle, -⟩
    · exact absurd hmember (by decide)
    · omega
  rintro (⟨hzero, -⟩ | ⟨hle, hlt⟩)
  · omega
  · omega

/-- Two members have names that a case rule takes for one exactly if it takes two of the names that
are wanted or kept free for one. -/
theorem nodup_map_apply_iff (hwanted : ∀ name ∈ wanted, IsRoot name)
    (hnodup : (memberNames hasBackground ++ rankedFrom reservedNames wanted).Nodup) :
    ((memberNames hasBackground ++ rankedFrom reservedNames wanted).map rule.apply).Nodup ↔
      ∀ a ∈ memberNames hasBackground ++ wanted, ∀ b ∈ memberNames hasBackground ++ wanted,
        rule.apply a = rule.apply b →
          a = b ∨ GetApart hasBackground wanted a b ∨ GetApart hasBackground wanted b a := by
  have hroots : ∀ name ∈ memberNames hasBackground ++ wanted, IsRoot name := by
    rw [List.forall_mem_append]
    exact ⟨fun name hname => isRoot_of_mem_memberNames (mem_memberNames_true hname), hwanted⟩
  rw [List.nodup_map_iff_inj_on hnodup]
  constructor
  · intro hinj a ha b hb h
    rw [or_iff_not_imp_left]
    intro hne
    rcases exists_taken_of_apply_eq rule ha hb h hne with hapart | hapart | ⟨n, hataken, hbtaken⟩
    · exact .inl hapart
    · exact .inr hapart
    · have hsame := hinj _ (mem_members_iff.2 ⟨a, n, rfl, hataken⟩) _
        (mem_members_iff.2 ⟨b, n, rfl, hbtaken⟩) (apply_ranked rule h n)
      exact absurd (ranked_inj (hroots a ha) (hroots b hb) hsame).1 hne
  · -- Two members with one name under the rule have the same number.
    intro hapart x hx y hy h
    obtain ⟨a, m, rfl, hataken⟩ := mem_members_iff.1 hx
    obtain ⟨b, n, rfl, hbtaken⟩ := mem_members_iff.1 hy
    obtain ⟨hsame, rfl⟩ := apply_ranked_inj rule (hroots a hataken.mem) (hroots b hbtaken.mem) h
    by_cases hne : a = b
    · rw [hne]
    · rcases hapart a hataken.mem b hbtaken.mem hsame with heq | hab | hba
      · exact absurd heq hne
      · exact absurd hbtaken (hab.not_taken rule hsame hne hataken)
      · exact absurd hataken (hba.not_taken rule hsame.symm (Ne.symm hne) hbtaken)

end

/-! ### The names of tests -/

theorem isRoot_of_mem_flatMap {scenarios : List Scenario} {name : Text}
    (h : name ∈ scenarios.flatMap wantedNames) : IsRoot name := by
  obtain ⟨scenario, -, hname⟩ := List.mem_flatMap.1 h
  exact isRoot_of_mem_wantedNames hname

theorem eq_rankedFrom_of_areNewNames {scenarios : List Scenario} {names : List Text}
    (h : AreNewNames reservedNames (scenarios.flatMap wantedNames) names) :
    names = rankedFrom reservedNames (scenarios.flatMap wantedNames) := by
  have huses : Uses reservedNames reservedNames := by
    refine uses_self (fun name hname => ?_) (by decide)
    exact isRoot_of_mem_memberNames (mem_memberNames_of_reserved hname)
  exact h.eq_rankedFrom huses fun name hname => isRoot_of_mem_flatMap hname

theorem testNames_eq_rankedFrom (feature : Feature) :
    testNames feature = rankedFrom reservedNames (feature.scenarios.flatMap wantedNames) :=
  eq_rankedFrom_of_areNewNames (areNewNames_testNames feature)

theorem runnerName_notMem_testNames (feature : Feature) : runnerName ∉ testNames feature := by
  rw [testNames_eq_rankedFrom, mem_rankedFrom_iff]
  rintro ⟨base, n, heq, hle, hlt⟩
  have hwanted : base ∈ feature.scenarios.flatMap wantedNames :=
    List.count_pos_iff.1 (by omega)
  have hrunner : IsRoot runnerName := isRoot_of_mem_memberNames (by decide)
  have hranked : ranked runnerName 0 = ranked base n := heq
  obtain ⟨rfl, -⟩ := ranked_inj hrunner (isRoot_of_mem_flatMap hwanted) hranked
  obtain ⟨scenario, -, hname⟩ := List.mem_flatMap.1 hwanted
  exact runnerName_notMem_wantedNames scenario hname

theorem nodup_members (feature : Feature) (hasBackground : Bool) :
    (memberNames hasBackground ++ testNames feature).Nodup := by
  have hnames := areNewNames_testNames feature
  have hmembers : (memberNames hasBackground).Nodup := by
    cases hasBackground <;> decide
  have hall : ∀ name ∈ memberNames true, name = runnerName ∨ name ∈ reservedNames := by decide
  refine List.nodup_append.2 ⟨hmembers, hnames.nodup, ?_⟩
  rintro name hmember _ htest rfl
  rcases hall name (mem_memberNames_true hmember) with rfl | hreserved
  · exact runnerName_notMem_testNames feature htest
  · exact hnames.notMem name htest hreserved

end Fixture

/-! ### The code of a feature -/

theorem Method.AreFor.isInfix {platform : Platform} {hasBackground : Bool}
    {scenarios : List Scenario} {methods : List Method}
    (h : Method.AreFor platform hasBackground scenarios methods) :
    ∀ method ∈ methods, Dialect.methodStart platform.language method.name <:+: method.code := by
  have hall : List.Forall₂ (fun method scenario =>
      Dialect.methodStart platform.language method.name <:+: method.code ∧
        method.IsTestOf platform hasBackground scenario)
      methods (scenarios.flatMap Scenario.instances) :=
    h.tests.flip.imp fun _ _ hmethod => ⟨(IsTestOf.isBlockOf hmethod).isInfix, hmethod⟩
  exact ((List.forall₂_and_left _ _).1 hall).1

namespace Generator

open Fixture

/-- **The members of a class.** The class, the field of the test runner and the methods besides the
tests are declared before the first test, and each test by its own method. All members have
different names. But a test has the name of the class exactly if the title of a plain scenario makes
it. And a language that ignores case takes two members for one exactly if it takes two names that
are wanted or kept free for one, and the two do not get apart by a number. -/
theorem emit_members {feature : Feature} {folder code : Text} {platform : Platform}
    (h : emit feature folder platform = .ok code) :
    let hasBackground := !feature.background.isEmpty
    let others := memberNames hasBackground
    let wanted := feature.scenarios.flatMap wantedNames
    (∃ (start : Text) (methods : List Method),
      code = start ++ methods.flatMap Method.code ++ Dialect.classEnd platform.language ∧
      Dialect.classStart platform.language (className feature.title) <:+: start ∧
      (∀ name ∈ others, declaration platform.language name <:+: start) ∧
      methods.map Method.name = testNames feature ∧
      ∀ method ∈ methods, Dialect.methodStart platform.language method.name <:+: method.code) ∧
    (others ++ testNames feature).Nodup ∧
    (className feature.title ∈ testNames feature ↔
      ∃ scenario ∈ feature.scenarios, scenario.examples = none ∧
        Identifier.ofTitle scenario.title = className feature.title) ∧
    ∀ rule : CaseRule, ((others ++ testNames feature).map rule.apply).Nodup ↔
      ∀ a ∈ others ++ wanted, ∀ b ∈ others ++ wanted, rule.apply a = rule.apply b →
        a = b ∨ GetApart hasBackground wanted a b ∨ GetApart hasBackground wanted b a := by
  intro hasBackground others wanted
  have hnames := testNames_eq_rankedFrom feature
  have hnodup : (others ++ testNames feature).Nodup := nodup_members feature hasBackground
  refine ⟨?_, hnodup, ?_, fun rule => ?_⟩
  · obtain ⟨background, methods, hcode, hempty, hmethods⟩ := exists_prologue_of_emit h
    obtain ⟨hclass, hmembers⟩ := isInfix_prologue platform folder feature.title
      (Text.join ['\n'] feature.description) feature.tags background
    rw [hempty] at hmembers
    refine ⟨_, methods, hcode, hclass, hmembers, ?_, hmethods.isInfix⟩
    rw [hnames, eq_rankedFrom_of_areNewNames hmethods.names]
  · rw [hnames]
    exact className_mem_rankedFrom_iff feature.title feature.scenarios
  · rw [hnames] at hnodup ⊢
    exact nodup_map_apply_iff rule (fun name hname => isRoot_of_mem_flatMap hname) hnodup

/-- Two scenarios whose names differ in more than case. -/
theorem emit_members_apart :
    let buy : Scenario := { title := "buy", tags := [], steps := [], examples := none, line := 2 }
    let sell : Scenario := { title := "sell it", tags := [], steps := [], line := 3
                             examples := some { header := ["n"], rows := [["1"], ["2"]] } }
    let feature : Feature := { title := "Shop", scenarios := [buy, sell] }
    ∃ code : Text, emit feature "Shop" { language := .visualBasic } = .ok code ∧
      className feature.title ∉ testNames feature ∧
      ((memberNames false ++ testNames feature).map CaseRule.ascii.apply).Nodup := by
  intro buy sell feature
  have hemitted : (emit feature "Shop" { language := .visualBasic }).toOption.isSome = true := by
    decide +kernel
  obtain ⟨code, hcode⟩ := exists_eq_ok_of_isSome hemitted
  obtain ⟨-, -, hclass, hcase⟩ := emit_members hcode
  refine ⟨code, hcode, ?_, (hcase CaseRule.ascii).2 ?_⟩
  · rw [hclass]
    decide +kernel
  · intro a ha b hb h
    left
    revert a b
    decide +kernel

/-- A scenario whose title makes the name of the class, and one whose title makes that of the field
in other case. -/
theorem emit_members_clash :
    let plain (title : Text) : Scenario :=
      { title, tags := [], steps := [], examples := none, line := 2 }
    let classed : Feature := { title := "F", scenarios := [plain "F feature"] }
    let runner : Feature := { title := "F", scenarios := [plain "Test runner"] }
    (Feature.parse "Feature: F\nScenario: F feature\n" = .ok classed ∧
      ∃ code, emit classed "" { language := .csharp } = .ok code ∧
        className classed.title ∈ testNames classed) ∧
    Feature.parse "Feature: F\nScenario: Test runner\n" = .ok runner ∧
      ∃ code, emit runner "" { language := .visualBasic } = .ok code ∧
        ¬((memberNames false ++ testNames runner).map CaseRule.ascii.apply).Nodup := by
  intro plain classed runner
  have hclassed : (emit classed "" { language := .csharp }).toOption.isSome = true := by
    decide +kernel
  have hrunner : (emit runner "" { language := .visualBasic }).toOption.isSome = true := by
    decide +kernel
  obtain ⟨code, hcode⟩ := exists_eq_ok_of_isSome hclassed
  obtain ⟨other, hother⟩ := exists_eq_ok_of_isSome hrunner
  exact ⟨⟨by decide +kernel, code, hcode, by decide +kernel⟩,
    by decide +kernel, other, hother, by decide +kernel⟩

end Generator

end FeatureFixtures
