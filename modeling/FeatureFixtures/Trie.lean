/-!
# Tries

A trie maps lists to values: it has the value of the empty list and, for every first element, a trie
for what follows. Finding a list takes one step per element, however many others there are. Setting
the value of a list leaves those of all other lists as they are, and clearing a list takes away its
value together with those of all lists that begin with it.
-/

namespace FeatureFixtures

/-- A map from lists to values. -/
inductive Trie (κ α : Type) where
  | node (value : Option α) (branches : List (κ × Trie κ α))

namespace Trie

variable {κ α β : Type}

/-- The trie without values. -/
def empty : Trie κ α :=
  node none []

instance : Inhabited (Trie κ α) := ⟨empty⟩

/-- The value of the empty list. -/
def value? : Trie κ α → Option α
  | node value _ => value

/-- The tries for what follows each first element. -/
def branches : Trie κ α → List (κ × Trie κ α)
  | node _ branches => branches

mutual

/-- The lists with their values. -/
def toList : Trie κ α → List (List κ × α)
  | node value branches => (value.map ([], ·)).toList ++ branchesToList branches

/-- The lists with their values, from branches. -/
def branchesToList : List (κ × Trie κ α) → List (List κ × α)
  | [] => []
  | (k, branch) :: rest =>
    branch.toList.map (fun (ks, value) => (k :: ks, value)) ++ branchesToList rest

end

mutual

/-- Changes all values. -/
def map (f : α → β) : Trie κ α → Trie κ β
  | node value branches => node (value.map f) (mapBranches f branches)

/-- Changes all values in branches. -/
def mapBranches (f : α → β) : List (κ × Trie κ α) → List (κ × Trie κ β)
  | [] => []
  | (k, branch) :: rest => (k, branch.map f) :: mapBranches f rest

end

/-- Branches with one of them put in place of the one for the same element. -/
def setBranch [DecidableEq κ] (k : κ) (branch : Trie κ α) :
    List (κ × Trie κ α) → List (κ × Trie κ α)
  | [] => [(k, branch)]
  | (other, old) :: rest =>
    if other = k then (k, branch) :: rest else (other, old) :: setBranch k branch rest

variable [DecidableEq κ]

/-- The trie for what follows a first element. -/
def branch (trie : Trie κ α) (k : κ) : Trie κ α :=
  (trie.branches.lookup k).getD empty

/-- The trie for what follows a list. -/
def descend (trie : Trie κ α) : List κ → Trie κ α
  | [] => trie
  | k :: ks => (trie.branch k).descend ks

/-- The value of a list. -/
def find? (trie : Trie κ α) (ks : List κ) : Option α :=
  (trie.descend ks).value?

/-- Changes the trie for what follows a list. -/
def changeAt (change : Trie κ α → Trie κ α) (trie : Trie κ α) : List κ → Trie κ α
  | [] => change trie
  | k :: ks => node trie.value? (setBranch k (changeAt change (trie.branch k) ks) trie.branches)

/-- Sets the value of a list. -/
def insert (trie : Trie κ α) (ks : List κ) (value : α) : Trie κ α :=
  trie.changeAt (fun old => node (some value) old.branches) ks

/-- Takes away the values of a list and of all that begin with it. -/
def clear (trie : Trie κ α) (ks : List κ) : Trie κ α :=
  trie.changeAt (fun _ => empty) ks

theorem lookup_setBranch (k k' : κ) (branch : Trie κ α) (branches : List (κ × Trie κ α)) :
    (setBranch k branch branches).lookup k' =
      if k' = k then some branch else branches.lookup k' := by
  induction branches with
  | nil =>
    by_cases h : k' = k
    · simp [setBranch, h]
    · simp [setBranch, List.lookup_cons, h, beq_eq_false_iff_ne.2 h]
  | cons head rest ih =>
    obtain ⟨other, old⟩ := head
    by_cases hother : other = k
    · by_cases h : k' = k
      · simp [setBranch, hother, h]
      · simp [setBranch, List.lookup_cons, hother, h, beq_eq_false_iff_ne.2 h]
    · by_cases h : k' = other
      · simp [setBranch, hother, h]
      · simp [setBranch, List.lookup_cons, hother, beq_eq_false_iff_ne.2 h, ih]

theorem find?_nil (trie : Trie κ α) : trie.find? [] = trie.value? := rfl

theorem find?_cons (trie : Trie κ α) (k : κ) (ks : List κ) :
    trie.find? (k :: ks) = (trie.branch k).find? ks := rfl

theorem find?_empty (ks : List κ) : (empty : Trie κ α).find? ks = none := by
  induction ks with
  | nil => rfl
  | cons k ks ih => exact ih

theorem branch_changeAt_cons (change : Trie κ α → Trie κ α) (trie : Trie κ α) (k k' : κ)
    (ks : List κ) :
    (trie.changeAt change (k :: ks)).branch k' =
      if k' = k then (trie.branch k).changeAt change ks else trie.branch k' := by
  by_cases h : k' = k <;> simp [branch, changeAt, branches, lookup_setBranch, h]

theorem find?_insert (trie : Trie κ α) (ks ks' : List κ) (value : α) :
    (trie.insert ks value).find? ks' = if ks' = ks then some value else trie.find? ks' := by
  induction ks generalizing trie ks' with
  | nil =>
    cases ks' with
    | nil => rfl
    | cons k' ks' => simp [insert, changeAt, find?_cons, branch, branches]
  | cons k ks ih =>
    cases ks' with
    | nil => rfl
    | cons k' ks' =>
      by_cases h : k' = k
      · simpa [insert, find?_cons, branch_changeAt_cons, h] using ih (trie.branch k) ks'
      · simp [insert, find?_cons, branch_changeAt_cons, h]

theorem find?_clear (trie : Trie κ α) (ks ks' : List κ) :
    (trie.clear ks).find? ks' = if ks <+: ks' then none else trie.find? ks' := by
  induction ks generalizing trie ks' with
  | nil => simpa [clear, changeAt] using find?_empty ks'
  | cons k ks ih =>
    cases ks' with
    | nil => rfl
    | cons k' ks' =>
      by_cases h : k' = k
      · simpa [clear, find?_cons, branch_changeAt_cons, h] using ih (trie.branch k) ks'
      · simp [clear, find?_cons, branch_changeAt_cons, h, Ne.symm h]

end Trie

end FeatureFixtures
