import FeatureFixtures.Text.Alphanumeric
import FeatureFixtures.Text.Uppercase
import FeatureFixtures.Trie

/-!
# Identifiers

A title becomes an identifier by joining its words, the first character of each in upper case, where
a word is a longest piece of letters and digits. A title without such a piece gives a fixed name,
and an underscore goes before a leading ASCII digit. Names that have to differ get a number at their
end: the first one that makes them new.
-/

namespace FeatureFixtures

namespace Identifier

/-- A word with its first character in upper case. -/
def capitalize : Text → Text
  | [] => []
  | c :: rest => uppercase c ++ rest

/-- The longest pieces of letters and digits, in order. -/
def words (title : Text) : List Text :=
  (title.splitOnP (!isAlphanumeric ·)).filter (!·.isEmpty)

/-- A name with an underscore before a leading ASCII digit. -/
def guardDigit : Text → Text
  | [] => []
  | c :: rest => if c.isDigit then '_' :: c :: rest else c :: rest

/-- The identifier made of a title. -/
def ofTitle (title : Text) : Text :=
  let joined := (words title).flatMap capitalize
  guardDigit (if joined.isEmpty then "Unnamed" else joined)

/-- A name with a number at its end. -/
def numbered (base : Text) (n : Nat) : Text :=
  base ++ '_' :: Text.ofNat n

/-- Names that are in use. -/
structure Names where
  /-- The names, each with a number from which on one that is free for it has to be searched. -/
  numbers : Trie Char Nat := .empty
  count : Nat := 0

namespace Names

/-- Whether a name is in use. -/
def contains (names : Names) (name : Text) : Bool :=
  (names.numbers.find? name).isSome

/-- The names together with a new one. -/
def add (names : Names) (name : Text) : Names :=
  { numbers := names.numbers.insert name 1, count := names.count + 1 }

/-- The names in a list. -/
def ofList (list : List Text) : Names :=
  list.foldl add {}

/-- The first number from `n` on that makes a name new; the fuel bounds the search. -/
def nextFree (names : Names) (base : Text) : Nat → Nat → Nat
  | 0, n => n
  | fuel + 1, n =>
    if names.contains (numbered base n) then nextFree names base fuel (n + 1) else n

/-- A new name for a wanted one: the name itself if it is not in use, else the name with the first
number that is free. Numbers that were passed over once are in use for good, so they are not tried
again; among one more numbers than there are names in use, one is free. -/
def take (names : Names) (wanted : Text) : Text × Names :=
  match names.numbers.find? wanted with
  | none => (wanted, names.add wanted)
  | some tried =>
    let n := names.nextFree wanted names.count tried
    let name := numbered wanted n
    (name, { names with numbers := names.numbers.insert wanted (n + 1) }.add name)

/-- New names for the wanted ones, in order, each differing from those before it. -/
def takeAll (names : Names) : List Text → List Text
  | [] => []
  | wanted :: rest =>
    let (name, names) := names.take wanted
    name :: names.takeAll rest

end Names

end Identifier

end FeatureFixtures
