import FeatureFixtures.Text.Basic

/-!
# Bytes of a text

Texts are written as UTF-8. Reading accepts exactly the byte sequences that writing produces, so
reading back what was written gives the text again.
-/

namespace FeatureFixtures

/-- A sequence of bytes. -/
abbrev Bytes := List UInt8

namespace Text

/-- The UTF-8 form of a text. -/
def toBytes (t : Text) : Bytes :=
  t.flatMap String.utf8EncodeChar

/-- How many bytes the UTF-8 form of a text has. -/
def byteCount : Text → Nat
  | [] => 0
  | c :: rest => c.utf8Size + byteCount rest

/-- The text with a given UTF-8 form, if there is one. -/
def ofBytes? (bytes : Bytes) : Option Text :=
  bytes.toByteArray.utf8Decode?.map Array.toList

theorem ofBytes?_toBytes (t : Text) : ofBytes? (toBytes t) = some t := by
  have h : (toBytes t).toByteArray = t.utf8Encode := rfl
  simp [ofBytes?, h, List.utf8Decode?_utf8Encode]

theorem toBytes_injective {s t : Text} (h : toBytes s = toBytes t) : s = t := by
  have := congrArg ofBytes? h
  simpa [ofBytes?_toBytes] using this

theorem length_toBytes (t : Text) : (toBytes t).length = byteCount t := by
  induction t with
  | nil => rfl
  | cons c rest ih => simp_all [toBytes, byteCount]

@[simp] theorem toBytes_append (s t : Text) : toBytes (s ++ t) = toBytes s ++ toBytes t := by
  simp [toBytes]

/-- The bytes of a character are far below `0xFF`, and only those of ASCII characters are below
`0x80`. -/
theorem toNat_of_mem_utf8EncodeChar {c : Char} {byte : UInt8} (h : byte ∈ String.utf8EncodeChar c) :
    byte.toNat < 0xF8 ∧ (byte.toNat = c.toNat ∨ 0x80 ≤ byte.toNat) := by
  simp only [String.utf8EncodeChar] at h
  have hval : c.val.toNat = c.toNat := rfl
  repeat' split at h
  all_goals
    simp only [List.mem_cons, List.not_mem_nil, or_false] at h
    rcases h with rfl | rfl | rfl | rfl <;> simp only [UInt8.toNat_ofNat'] <;> omega

theorem utf8EncodeChar_of_toNat_lt {c : Char} (h : c.toNat < 0x80) :
    String.utf8EncodeChar c = [UInt8.ofNat c.toNat] := by
  have hval : c.val.toNat = c.toNat := rfl
  simp only [String.utf8EncodeChar, hval]
  rw [if_pos (by omega)]

end Text

end FeatureFixtures
