import FeatureFixtures.Fixture.Identifier
import FeatureFixtures.Proofs.Numerals
import Mathlib.Data.List.Nodup
import Mathlib.Data.List.Perm.Subperm
/-!
# New names

Names that have to differ are given one after the other. A wanted name that is in use gets the first
number, counted from one, that makes it new. There always is one: the same name with different
numbers gives different names, and not all of them can be among those in use. A number that was
passed over once belongs to a name in use, so a later search may begin behind it.
-/

namespace FeatureFixtures

namespace Identifier

theorem numbered_injective (base : Text) : Function.Injective (numbered base) := by
  intro m n h
  have hdigits := congrArg Text.digitsValue (List.cons.inj (List.append_cancel_left h)).2
  rwa [Text.digitsValue_ofNat, Text.digitsValue_ofNat] at hdigits

theorem numbered_ne_self (base : Text) (n : Nat) : numbered base n ≠ base := by
  intro h
  simpa [numbered] using congrArg List.length h

/-- The name that is given for a wanted one while some are in use. -/
inductive IsNewName (used : List Text) (wanted : Text) : Text → Prop
  | unused : wanted ∉ used → IsNewName used wanted wanted
  | numbered (n : Nat) : wanted ∈ used → 0 < n → numbered wanted n ∉ used →
      (∀ m, 0 < m → m < n → Identifier.numbered wanted m ∈ used) →
      IsNewName used wanted (numbered wanted n)

theorem IsNewName.notMem {used : List Text} {wanted name : Text} (h : IsNewName used wanted name) :
    name ∉ used := by
  cases h with
  | unused hfree => exact hfree
  | numbered n _ _ hfree _ => exact hfree

/-- The names that are given for wanted ones, each while those before it are in use, too. -/
inductive AreNewNames : List Text → List Text → List Text → Prop
  | nil (used : List Text) : AreNewNames used [] []
  | cons {used others names : List Text} {wanted name : Text} : IsNewName used wanted name →
      AreNewNames (name :: used) others names → AreNewNames used (wanted :: others) (name :: names)

theorem AreNewNames.length_eq {used wanted names : List Text} (h : AreNewNames used wanted names) :
    names.length = wanted.length := by
  induction h with
  | nil used => rfl
  | cons _ _ ih => rw [List.length_cons, List.length_cons, ih]

theorem AreNewNames.notMem {used wanted names : List Text} (h : AreNewNames used wanted names) :
    ∀ name ∈ names, name ∉ used := by
  induction h with
  | nil used => simp
  | cons hname _ ih =>
    rw [List.forall_mem_cons]
    exact ⟨hname.notMem, fun other hother hused => ih other hother (List.mem_cons_of_mem _ hused)⟩

/-- New names differ from each other and from those in use. -/
theorem AreNewNames.nodup {used wanted names : List Text} (h : AreNewNames used wanted names) :
    names.Nodup := by
  induction h with
  | nil used => exact List.nodup_nil
  | cons _ hothers ih =>
    exact List.nodup_cons.2
      ⟨fun hmem => hothers.notMem _ hmem List.mem_cons_self, ih⟩

namespace Names

variable {names : Names} {used : List Text}

/-- The search for a number stops at the first free one, or when the fuel is used up. -/
theorem nextFree_spec (names : Names) (base : Text) (fuel n : Nat) :
    n ≤ names.nextFree base fuel n ∧
    (∀ m, n ≤ m → m < names.nextFree base fuel n → names.contains (numbered base m) = true) ∧
    (names.contains (numbered base (names.nextFree base fuel n)) = true →
      names.nextFree base fuel n = n + fuel) := by
  induction fuel generalizing n with
  | zero =>
    rw [nextFree]
    exact ⟨Nat.le_refl n, fun m hle hlt => absurd hle (Nat.not_le.2 hlt), fun _ => rfl⟩
  | succ fuel ih =>
    rw [nextFree]
    split
    · next htaken =>
      obtain ⟨hle, hpassed, hfuel⟩ := ih (n + 1)
      refine ⟨Nat.le_of_succ_le hle, fun m hm hlt => ?_, fun hlast => ?_⟩
      · rcases Nat.eq_or_lt_of_le hm with rfl | hnext
        · exact htaken
        · exact hpassed m hnext hlt
      · rw [hfuel hlast]
        omega
    · next hfree =>
      exact ⟨Nat.le_refl n, fun m hle hlt => absurd hle (Nat.not_le.2 hlt),
        fun htaken => absurd htaken hfree⟩

/-- The names in use are those in a list, and each number before the one from which on a free one
is searched belongs to one of them. -/
structure Tracks (names : Names) (used : List Text) : Prop where
  isSome_iff : ∀ name, (names.numbers.find? name).isSome = true ↔ name ∈ used
  length_le : used.length ≤ names.count
  passed : ∀ name tried, names.numbers.find? name = some tried →
    0 < tried ∧ ∀ m, 0 < m → m < tried → numbered name m ∈ used

theorem Tracks.of_find?_eq (h : names.Tracks used) {others : Names}
    (hfind : ∀ name, others.numbers.find? name = names.numbers.find? name)
    (hcount : others.count = names.count) : others.Tracks used where
  isSome_iff name := by rw [hfind, h.isSome_iff]
  length_le := hcount ▸ h.length_le
  passed name tried htried := h.passed name tried (hfind name ▸ htried)

theorem tracks_empty : ({} : Names).Tracks [] where
  isSome_iff name := by simp [Trie.find?_empty]
  length_le := Nat.le_refl 0
  passed name tried h := by simp [Trie.find?_empty] at h

theorem Tracks.add (h : names.Tracks used) (name : Text) :
    (names.add name).Tracks (name :: used) where
  isSome_iff other := by
    rw [Names.add, Trie.find?_insert, List.mem_cons, ← h.isSome_iff]
    split <;> simp [*]
  length_le := Nat.succ_le_succ h.length_le
  passed other tried hfind := by
    rw [Names.add, Trie.find?_insert] at hfind
    split at hfind
    · cases hfind
      exact ⟨Nat.one_pos, fun m hpos hlt => absurd hpos (by omega)⟩
    · obtain ⟨hpos, hpassed⟩ := h.passed other tried hfind
      exact ⟨hpos, fun m hm hlt => List.mem_cons_of_mem _ (hpassed m hm hlt)⟩

theorem Tracks.of_perm (h : names.Tracks used) {others : List Text} (hperm : used.Perm others) :
    names.Tracks others where
  isSome_iff name := (h.isSome_iff name).trans hperm.mem_iff
  length_le := hperm.length_eq ▸ h.length_le
  passed name tried htried :=
    ⟨(h.passed name tried htried).1, fun m hpos hlt =>
      hperm.mem_iff.1 ((h.passed name tried htried).2 m hpos hlt)⟩

theorem tracks_ofList (list : List Text) : (Names.ofList list).Tracks list := by
  have hall (rest : List Text) (names : Names) (used : List Text) (h : names.Tracks used) :
      (rest.foldl Names.add names).Tracks (rest.reverse ++ used) := by
    induction rest generalizing names used with
    | nil => exact h
    | cons name rest ih =>
      rw [List.reverse_cons, List.append_assoc]
      exact ih _ _ (h.add name)
  have hlist := hall list {} [] tracks_empty
  rw [List.append_nil] at hlist
  exact hlist.of_perm list.reverse_perm

/-- Not all of so many numbered names can be in use, so the search ends at a free one. -/
theorem Tracks.nextFree_notMem (h : names.Tracks used) (base : Text) (n : Nat) :
    numbered base (names.nextFree base names.count n) ∉ used := by
  obtain ⟨-, hpassed, hfuel⟩ := names.nextFree_spec base names.count n
  intro hmem
  rw [← h.isSome_iff] at hmem
  have hlast := hfuel hmem
  let candidates := (List.range (names.count + 1)).map fun i => numbered base (n + i)
  have hdistinct : candidates.Nodup := by
    refine List.Nodup.map ?_ List.nodup_range
    intro i j hij
    exact Nat.add_left_cancel (numbered_injective base hij)
  have hused : candidates ⊆ used := by
    intro candidate hcandidate
    obtain ⟨i, hi, rfl⟩ := List.mem_map.1 hcandidate
    rw [← h.isSome_iff]
    rcases Nat.lt_or_ge i names.count with hlt | hge
    · exact hpassed (n + i) (by omega) (by omega)
    · have hbound := List.mem_range.1 hi
      obtain rfl : i = names.count := by omega
      rwa [← hlast]
  have hcount := (List.subperm_of_subset hdistinct hused).length_le
  have hlength := h.length_le
  simp only [candidates, List.length_map, List.length_range] at hcount
  omega

/-- A search may begin behind numbers that are all in use. -/
theorem Tracks.advance (h : names.Tracks used) {wanted : Text} (hwanted : wanted ∈ used) {n : Nat}
    (hpos : 0 < n) (hpassed : ∀ m, 0 < m → m < n → numbered wanted m ∈ used) :
    ({ names with numbers := names.numbers.insert wanted n } : Names).Tracks used where
  isSome_iff name := by
    rw [Trie.find?_insert]
    split
    · next heq => simp [heq, hwanted]
    · exact h.isSome_iff name
  length_le := h.length_le
  passed name tried hfind := by
    rw [Trie.find?_insert] at hfind
    split at hfind
    · next heq =>
      cases hfind
      exact ⟨hpos, heq ▸ hpassed⟩
    · exact h.passed name tried hfind

/-- A name that is taken is a new one, and is in use from then on. -/
theorem Tracks.take (h : names.Tracks used) (wanted : Text) :
    IsNewName used wanted (names.take wanted).1 ∧
      (names.take wanted).2.Tracks ((names.take wanted).1 :: used) := by
  unfold Names.take
  cases hfind : names.numbers.find? wanted with
  | none =>
    refine ⟨.unused fun hmem => ?_, h.add wanted⟩
    rw [← h.isSome_iff, hfind] at hmem
    cases hmem
  | some tried =>
    obtain ⟨hpos, hbefore⟩ := h.passed wanted tried hfind
    obtain ⟨hle, hpassed, -⟩ := names.nextFree_spec wanted names.count tried
    have hwanted : wanted ∈ used := by
      rw [← h.isSome_iff, hfind]
      rfl
    have hfree := h.nextFree_notMem wanted tried
    dsimp only
    generalize names.nextFree wanted names.count tried = n at hle hpassed hfree ⊢
    have hall (m : Nat) (hm : 0 < m) (hlt : m < n) : numbered wanted m ∈ used := by
      rcases Nat.lt_or_ge m tried with hold | hnew
      · exact hbefore m hm hold
      · exact (h.isSome_iff _).1 (hpassed m hnew hlt)
    refine ⟨.numbered n hwanted (by omega) hfree hall, ?_⟩
    have hused (m : Nat) (hm : 0 < m) (hlt : m < n + 1) :
        numbered wanted m ∈ numbered wanted n :: used := by
      rcases Nat.eq_or_lt_of_le (Nat.le_of_lt_succ hlt) with rfl | hbelow
      · exact List.mem_cons_self
      · exact List.mem_cons_of_mem _ (hall m hm hbelow)
    have hnext := (h.add (numbered wanted n)).advance (List.mem_cons_of_mem _ hwanted)
      (Nat.succ_pos n) hused
    -- The two names differ, so it does not matter which of them is set first.
    refine hnext.of_find?_eq (fun name => ?_) rfl
    simp only [Names.add, Trie.find?_insert]
    split
    · next heq => simp [heq, numbered_ne_self]
    · rfl

theorem Tracks.takeAll (h : names.Tracks used) (wanted : List Text) :
    AreNewNames used wanted (names.takeAll wanted) := by
  induction wanted generalizing names used with
  | nil => exact .nil used
  | cons first rest ih =>
    obtain ⟨hnew, htracks⟩ := h.take first
    exact .cons hnew (ih htracks)

/-- Names that are wanted later do not change those given before. -/
theorem takeAll_append (names : Names) (wanted later : List Text) :
    ∃ others, names.takeAll (wanted ++ later) = names.takeAll wanted ++ others := by
  induction wanted generalizing names with
  | nil => exact ⟨names.takeAll later, rfl⟩
  | cons first rest ih =>
    obtain ⟨others, hothers⟩ := ih (names.take first).2
    exact ⟨others, congrArg ((names.take first).1 :: ·) hothers⟩

end Names

end Identifier

end FeatureFixtures
