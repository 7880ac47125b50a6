import FeatureFixtures.Text.Basic

/-!
# Blank characters

A character is blank when it has the Unicode property `White_Space`. Blanks are what is trimmed from
the ends of titles, cells and names, and what separates tags.
-/

namespace FeatureFixtures

/-- Whether a character is white space in the sense of Unicode. -/
def isBlank (c : Char) : Bool :=
  c == ' ' || (0x9 ≤ c.toNat && c.toNat ≤ 0xD) || c.toNat == 0x85 || c.toNat == 0xA0 ||
    c.toNat == 0x1680 || (0x2000 ≤ c.toNat && c.toNat ≤ 0x200A) || c.toNat == 0x2028 ||
    c.toNat == 0x2029 || c.toNat == 0x202F || c.toNat == 0x205F || c.toNat == 0x3000

namespace Text

/-- A text without the blanks at its beginning. -/
def trimStart (t : Text) : Text :=
  t.dropWhile isBlank

/-- A text without the blanks at its end. -/
def trimEnd (t : Text) : Text :=
  (t.reverse.dropWhile isBlank).reverse

/-- A text without the blanks at its beginning and at its end. -/
def trim (t : Text) : Text :=
  trimEnd (trimStart t)

/-- Whether a text holds nothing but blanks. -/
def isAllBlank (t : Text) : Bool :=
  t.all isBlank

/-- The longest pieces of a text that hold no blank, in order. -/
def words (t : Text) : List Text :=
  (t.splitOnP isBlank).filter (!·.isEmpty)

end Text

end FeatureFixtures
