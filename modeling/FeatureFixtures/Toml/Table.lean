import FeatureFixtures.Toml.Basic

/-!
# Settings text: tables

The sections of a settings text fill one tree of tables. A table that is opened by its own header is
closed for all others; one that came to be because something below it was named can still be opened
once. Dotted keys make tables as well, which can be extended by dotted keys only. A header in double
brackets opens the next element of an array of tables, and names below it belong to the last
element. A value is never extended.
-/

namespace FeatureFixtures

namespace Toml

/-- How a table came to be. -/
inductive Origin where
  /-- By its own header. -/
  | header
  /-- Because a header named something below it. -/
  | below
  /-- By dotted keys. -/
  | dotted
deriving DecidableEq, Repr

/-- What a name stands for while the tree is filled. -/
inductive Node where
  | value (value : Value)
  | table (origin : Origin) (entries : List (Text × Node))
  | tables (elements : List (List (Text × Node)))
deriving Inhabited

/-- The entries of a table. -/
abbrev Entries := List (Text × Node)

/-- The entries with a node under a key, in place of the one that stands there. -/
def Entries.put (key : Text) (node : Node) : Entries → Entries
  | [] => [(key, node)]
  | (other, old) :: rest =>
    if other = key then (key, node) :: rest else (other, old) :: Entries.put key node rest

mutual

/-- A node as a value. -/
def Node.toValue : Node → Value
  | .value value => value
  | .table _ entries => .table (entriesValues entries)
  | .tables elements => .array (elementsValues elements)

/-- Entries as the entries of a value. -/
def entriesValues : List (Text × Node) → List (Text × Value)
  | [] => []
  | (key, node) :: rest => (key, node.toValue) :: entriesValues rest

/-- The elements of an array of tables as values. -/
def elementsValues : List (List (Text × Node)) → List Value
  | [] => []
  | entries :: rest => .table (entriesValues entries) :: elementsValues rest

end

/-- A key with the keys that lead to it, and its value. -/
structure Pair where
  path : List Text
  key : Text
  value : Value

/-- The entries with one more value. Every key on the way leads to a table that can still be
extended, and the last one to a table made by dotted keys. -/
def Entries.add (key : Text) (value : Value) : List Text → Entries → Option Entries
  | [], entries =>
    match entries.lookup key with
    | some _ => none
    | none => some (entries.put key (.value value))
  | name :: path, entries =>
    match entries.lookup name with
    | none => do return entries.put name (.table .dotted (← Entries.add key value path []))
    | some (.value _) => none
    | some (.table origin below) =>
      if origin = .header ∨ (path = [] ∧ origin ≠ .dotted) then none
      else do return entries.put name (.table origin (← Entries.add key value path below))
    | some (.tables elements) =>
      match elements.getLast?, path with
      | none, _ | _, [] => none
      | some last, path => do
        let last ← Entries.add key value path last
        return entries.put name (.tables (elements.dropLast ++ [last]))

/-- The entries of a table filled from pairs. -/
def Entries.addAll (entries : Entries) (pairs : List Pair) : Option Entries :=
  pairs.foldlM (fun entries pair => entries.add pair.key pair.value pair.path) entries

/-- The table that is written in braces. -/
def tableValue? (pairs : List Pair) : Option Value := do
  return .table (entriesValues (← Entries.addAll [] pairs))

/-- The entries with the node under a key changed; the keys on the way lead to tables of any kind.
-/
def Entries.change (key : Text) (f : Option Node → Option Node) :
    List Text → Entries → Option Entries
  | [], entries => do return entries.put key (← f (entries.lookup key))
  | name :: path, entries =>
    match entries.lookup name with
    | none => do return entries.put name (.table .below (← Entries.change key f path []))
    | some (.value _) => none
    | some (.table origin below) => do
      return entries.put name (.table origin (← Entries.change key f path below))
    | some (.tables elements) =>
      match elements.getLast? with
      | none => none
      | some last => do
        let last ← Entries.change key f path last
        return entries.put name (.tables (elements.dropLast ++ [last]))

/-- What opens a section. -/
inductive Opening where
  | table (path : List Text) (key : Text)
  | element (path : List Text) (key : Text)

/-- A section. -/
structure Section where
  opening : Opening
  pairs : List Pair

/-- The entries with one more section. -/
def Entries.addSection (entries : Entries) (part : Section) : Option Entries :=
  match part.opening with
  | .table path key =>
    let fill : Option Node → Option Node
      | none => do return .table .header (← Entries.addAll [] part.pairs)
      | some (.table .below entries) => do
        return .table .header (← Entries.addAll entries part.pairs)
      | some _ => none
    entries.change key fill path
  | .element path key =>
    let fill : Option Node → Option Node
      | none => do return .tables [← Entries.addAll [] part.pairs]
      | some (.tables elements) => do
        return .tables (elements ++ [← Entries.addAll [] part.pairs])
      | some _ => none
    entries.change key fill path

end Toml

end FeatureFixtures
