import FeatureFixtures.Fixture.Literal
import Mathlib.Data.List.Forall2
/-!
# What literals tell

A literal tells its text, except that in Visual Basic a line feed after a carriage return tells a
line feed alone. The characters of a literal are written by a prefix code, and the quotation mark
that ends it is not the beginning of a character, if what follows does not continue the literal. So
code that is made of a literal and what follows it can be split in one way only.
-/

namespace FeatureFixtures

theorem Text.join_cons_cons_eq (separator part next : Text) (rest : List Text) :
    join separator (part :: next :: rest) =
      part ++ (separator ++ join separator (next :: rest)) := by
  simp [join, List.intercalate]

namespace Literal

variable {language : Language}

/-- The text that a literal tells the program. -/
def told : Language → Text → Text
  | .csharp, t => t
  | .visualBasic, t => unifyNewlines t

/-- How a character is written inside a literal. -/
def written : Language → Char → Text
  | .csharp => escape
  | .visualBasic => double

/-- What may stand behind a literal without being read as a part of it. -/
def Ends (rest : Text) : Prop :=
  rest.head? ≠ some '"' ∧ ¬ [' ', '&'] <+: rest

theorem ofText_eq (language : Language) (t : Text) :
    ofText language t = '"' :: ((told language t).flatMap (written language) ++ ['"']) := by
  cases language <;> rfl

/-- The character that a letter after a backslash stands for. -/
def unescape : Char → Char
  | 'n' => '\n'
  | 'r' => '\r'
  | c => c

theorem escape_cases (c : Char) :
    (∃ letter, escape c = ['\\', letter] ∧ unescape letter = c) ∨
      (escape c = [c] ∧ c ≠ '\\' ∧ c ≠ '"') := by
  unfold escape
  split
  · exact .inl ⟨'\\', rfl, rfl⟩
  · exact .inl ⟨'"', rfl, rfl⟩
  · exact .inl ⟨'n', rfl, rfl⟩
  · exact .inl ⟨'r', rfl, rfl⟩
  · next hbackslash hquote _ _ => exact .inr ⟨rfl, hbackslash, hquote⟩

theorem double_cases (c : Char) :
    (double c = ['"', '"'] ∧ c = '"') ∨
      (double c = '"' :: ' ' :: '&' :: (" vbLf & \"" : Text) ∧ c = '\n') ∨
      (double c = [c] ∧ c ≠ '"') := by
  unfold double
  split
  · exact .inl ⟨rfl, rfl⟩
  · exact .inr (.inl ⟨rfl, rfl⟩)
  · next hquote _ => exact .inr (.inr ⟨rfl, hquote⟩)

theorem written_append_inj {c d : Char} {s t : Text}
    (h : written language c ++ s = written language d ++ t) : c = d ∧ s = t := by
  cases language with
  | csharp =>
    simp only [written] at h
    rcases escape_cases c with ⟨letter, hc, rfl⟩ | ⟨hc, hbackslash, -⟩ <;>
      rcases escape_cases d with ⟨other, hd, rfl⟩ | ⟨hd, hother, -⟩ <;>
      simp only [hc, hd, List.cons_append, List.nil_append, List.cons.injEq] at h
    · exact ⟨by rw [h.2.1], h.2.2⟩
    · exact absurd h.1.symm hother
    · exact absurd h.1 hbackslash
    · exact h
  | visualBasic =>
    simp only [written] at h
    rcases double_cases c with ⟨hc, rfl⟩ | ⟨hc, rfl⟩ | ⟨hc, hquote⟩ <;>
      rcases double_cases d with ⟨hd, rfl⟩ | ⟨hd, rfl⟩ | ⟨hd, hother⟩ <;>
      simp only [hc, hd, List.cons_append, List.nil_append, List.cons.injEq] at h
    · exact ⟨rfl, h.2.2⟩
    · exact absurd h.2.1 (by decide)
    · exact absurd h.1.symm hother
    · exact absurd h.2.1 (by decide)
    · exact ⟨rfl, List.append_cancel_left h.2.2.2⟩
    · exact absurd h.1.symm hother
    · exact absurd h.1 hquote
    · exact absurd h.1 hquote
    · exact h

theorem not_ends_of_written {c : Char} {s rest : Text}
    (h : written language c ++ s = '"' :: rest) : ¬Ends rest := by
  rintro ⟨hhead, hprefix⟩
  cases language with
  | csharp =>
    simp only [written] at h
    rcases escape_cases c with ⟨letter, hc, -⟩ | ⟨hc, -, hquote⟩ <;>
      simp only [hc, List.cons_append, List.nil_append, List.cons.injEq] at h
    · exact absurd h.1 (by decide)
    · exact hquote h.1
  | visualBasic =>
    simp only [written] at h
    rcases double_cases c with ⟨hc, -⟩ | ⟨hc, -⟩ | ⟨hc, hquote⟩ <;>
      simp only [hc, List.cons_append, List.nil_append, List.cons.injEq] at h
    · exact hhead (by simp [← h.2])
    · exact hprefix ⟨_, h.2⟩
    · exact hquote h.1

theorem flatMap_written_append_inj {xs ys s t : Text} (hs : Ends s) (ht : Ends t)
    (h : xs.flatMap (written language) ++ '"' :: s = ys.flatMap (written language) ++ '"' :: t) :
    xs = ys ∧ s = t := by
  -- If one text ends before the other, its quotation mark begins a character of the other.
  induction xs generalizing ys with
  | nil =>
    cases ys with
    | nil => exact ⟨rfl, (List.cons.inj h).2⟩
    | cons y ys =>
      rw [List.flatMap_cons, List.append_assoc] at h
      exact absurd hs (not_ends_of_written h.symm)
  | cons x xs ih =>
    rw [List.flatMap_cons, List.append_assoc] at h
    cases ys with
    | nil => exact absurd ht (not_ends_of_written h)
    | cons y ys =>
      rw [List.flatMap_cons, List.append_assoc] at h
      obtain ⟨rfl, hrest⟩ := written_append_inj h
      obtain ⟨rfl, rfl⟩ := ih hrest
      exact ⟨rfl, rfl⟩

theorem ofText_append_inj {a b s t : Text} (hs : Ends s) (ht : Ends t)
    (h : ofText language a ++ s = ofText language b ++ t) :
    told language a = told language b ∧ s = t := by
  simp only [ofText_eq, List.cons_append, List.append_assoc, List.nil_append] at h
  exact flatMap_written_append_inj hs ht (List.cons.inj h).2

theorem ofText_eq_iff {a b : Text} :
    ofText language a = ofText language b ↔ told language a = told language b := by
  refine ⟨fun h => ?_, fun h => by rw [ofText_eq, ofText_eq, h]⟩
  exact (ofText_append_inj (s := []) (t := []) (by simp [Ends]) (by simp [Ends]) (by simpa)).1

/-! ### Arrays -/

theorem join_ofText_append_inj {as bs : List Text} {s t : Text} (hlength : as.length = bs.length)
    (hs : Ends s) (ht : Ends t)
    (h : Text.join ", " (as.map (ofText language)) ++ s =
      Text.join ", " (bs.map (ofText language)) ++ t) :
    as.map (told language) = bs.map (told language) ∧ s = t := by
  induction as generalizing bs with
  | nil =>
    rw [List.length_eq_zero_iff.1 hlength.symm] at h ⊢
    exact ⟨rfl, h⟩
  | cons a as ih =>
    cases bs with
    | nil => simp at hlength
    | cons b bs =>
      have hrest : as.length = bs.length := Nat.succ.inj hlength
      cases as with
      | nil =>
        rw [List.length_eq_zero_iff.1 hrest.symm] at h ⊢
        obtain ⟨htold, heq⟩ := ofText_append_inj hs ht (by simpa [Text.join] using h)
        exact ⟨by simp [htold], heq⟩
      | cons next as =>
        cases bs with
        | nil => simp at hrest
        | cons other bs =>
          simp only [List.map_cons, Text.join_cons_cons_eq, List.append_assoc] at h
          obtain ⟨htold, h⟩ := ofText_append_inj (by simp [Ends]) (by simp [Ends]) h
          obtain ⟨hothers, heq⟩ := ih hrest (by simpa using h)
          exact ⟨congrArg₂ List.cons htold hothers, heq⟩

theorem ofTexts_append_inj {as bs : List Text} {s t : Text} (hlength : as.length = bs.length)
    (h : ofTexts language as ++ s = ofTexts language bs ++ t) :
    as.map (told language) = bs.map (told language) ∧ s = t := by
  cases as with
  | nil =>
    rw [List.length_eq_zero_iff.1 hlength.symm] at h ⊢
    exact ⟨rfl, List.append_cancel_left h⟩
  | cons a as =>
    cases bs with
    | nil => simp at hlength
    | cons b bs =>
      have hitems : Text.join ", " ((a :: as).map (ofText language)) ++ ([' ', '}'] ++ s) =
          Text.join ", " ((b :: bs).map (ofText language)) ++ ([' ', '}'] ++ t) := by
        cases language <;> simpa [ofTexts] using h
      obtain ⟨htold, heq⟩ :=
        join_ofText_append_inj hlength (by simp [Ends]) (by simp [Ends]) hitems
      exact ⟨htold, List.append_cancel_left heq⟩

theorem ofTexts_congr {as bs : List Text}
    (h : as.map (told language) = bs.map (told language)) :
    ofTexts language as = ofTexts language bs := by
  have hitems : as.map (ofText language) = bs.map (ofText language) := by
    rw [← List.forall₂_eq_eq_eq, List.forall₂_map_left_iff, List.forall₂_map_right_iff] at h ⊢
    exact h.imp fun _ _ => ofText_eq_iff.2
  have hempty : as.isEmpty = bs.isEmpty := by
    simpa using congrArg List.isEmpty h
  unfold ofTexts
  rw [hitems, hempty]

end Literal

end FeatureFixtures
