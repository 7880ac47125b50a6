import FeatureFixtures.Proofs.Numerals
import FeatureFixtures.Worker.Frame
/-!
# Messages and frames are read back

Commands and responses are read back from their bytes, for a text is read back from its UTF-8 form
and the byte after it does not occur there. Whatever way of writing messages is chosen, a frame
whose body is read back and within the limit gives its message and leaves what follows it.
-/

namespace FeatureFixtures

namespace Worker

/-! ### Frames -/

theorem length_lengthBytes (n : Nat) : (lengthBytes n).length = 4 := rfl

/-- A length is read back from its four bytes, up to a multiple of `UInt32.size`. -/
theorem lengthOf_lengthBytes (n : Nat) : lengthOf (lengthBytes n) = n % UInt32.size := by
  simp only [lengthOf, lengthBytes, List.map_cons, List.map_nil, List.foldr_cons, List.foldr_nil,
    Nat.toUInt8_eq, UInt8.toNat_ofNat', Nat.shiftRight_eq_div_pow, UInt32.size]
  omega

/-- The length is checked against the limit before the body is looked for. -/
theorem readBody_lengthBytes_append (n : Nat) (data : Bytes) :
    readBody (lengthBytes n ++ data) =
      if bodyLimit < n % UInt32.size then .error (.tooLarge (n % UInt32.size))
      else if data.length < n % UInt32.size then .error .bodyCut
      else .ok (data.take (n % UInt32.size), data.drop (n % UInt32.size)) := by
  have htake : (lengthBytes n ++ data).take 4 = lengthBytes n :=
    List.take_left' (length_lengthBytes n)
  have hdrop : (lengthBytes n ++ data).drop 4 = data :=
    List.drop_left' (length_lengthBytes n)
  have hshort (m : Nat) : min m data.length < m ↔ data.length < m := by omega
  unfold readBody
  simp only [htake, hdrop, length_lengthBytes, Nat.lt_irrefl, if_false, lengthOf_lengthBytes,
    List.length_take, hshort]

/-- A length within the limit is given exactly. -/
theorem mod_eq_of_le_bodyLimit {n : Nat} (h : n ≤ bodyLimit) : n % UInt32.size = n :=
  Nat.mod_eq_of_lt (Nat.lt_of_le_of_lt h (by decide))

theorem readBody_append {body : Bytes} (h : body.length ≤ bodyLimit) (rest : Bytes) :
    readBody (lengthBytes body.length ++ (body ++ rest)) = .ok (body, rest) := by
  rw [readBody_lengthBytes_append, mod_eq_of_le_bodyLimit h, if_neg (Nat.not_lt.2 h), if_neg,
    List.take_left, List.drop_left]
  rw [List.length_append]
  omega

/-- A message that can be sent: its body is within the limit and is read back. -/
structure Message.IsSendable {μ : Type} [Message μ] (message : μ) : Prop where
  length_le : (encode message).length ≤ bodyLimit
  decode_encode : decode? (encode message) = some message

theorem readMessage_frame_append {μ : Type} [Message μ] {message : μ}
    (h : Message.IsSendable message) (rest : Bytes) :
    readMessage (frame message ++ rest) = .ok (message, rest) := by
  simp [readMessage, frame, List.append_assoc, readBody_append h.length_le, h.decode_encode]

/-! ### Texts -/

theorem textEnd_notMem_toBytes (t : Text) : textEnd ∉ Text.toBytes t := by
  intro hmem
  obtain ⟨c, -, hbyte⟩ := List.mem_flatMap.1 hmem
  exact absurd (Text.toNat_of_mem_utf8EncodeChar hbyte).1 (by decide)

theorem splitOn_encodeTexts (texts : List Text) :
    (encodeTexts texts).splitOn textEnd = texts.map Text.toBytes ++ [[]] := by
  induction texts with
  | nil => rfl
  | cons t rest ih =>
    have hcons : encodeTexts (t :: rest) = Text.toBytes t ++ textEnd :: encodeTexts rest := by
      simp [encodeTexts]
    rw [hcons, List.splitOn_append_cons_self_of_not_mem (textEnd_notMem_toBytes t), ih]
    rfl

theorem decodeTexts?_encodeTexts (texts : List Text) :
    decodeTexts? (encodeTexts texts) = some texts := by
  rw [decodeTexts?, splitOn_encodeTexts, List.dropLast_concat]
  induction texts with
  | nil => rfl
  | cons t rest ih => simp [Text.ofBytes?_toBytes, ih]

/-! ### Messages -/

theorem Command.ofTexts?_toTexts (command : Command) : ofTexts? command.toTexts = some command := by
  cases command with
  | generate request =>
    obtain ⟨feature, sourceFile, folderPath, language, framework⟩ := request
    cases language <;> cases framework <;> rfl
  | _ => rfl

theorem Response.ofTexts?_toTexts (response : Response) :
    ofTexts? response.toTexts = some response := by
  cases response with
  | failed message line =>
    cases line with
    | none => rfl
    | some line =>
      have hline := Text.digitsValue_ofNat line
      simp only [toTexts, ofTexts?, if_true, hline]
  | _ => rfl

theorem Command.decode?_encode (command : Command) :
    Message.decode? (Message.encode command) = some command := by
  change decodeTexts? (encodeTexts command.toTexts) >>= ofTexts? = some command
  rw [decodeTexts?_encodeTexts]
  exact ofTexts?_toTexts command

theorem Response.decode?_encode (response : Response) :
    Message.decode? (Message.encode response) = some response := by
  change decodeTexts? (encodeTexts response.toTexts) >>= ofTexts? = some response
  rw [decodeTexts?_encodeTexts]
  exact ofTexts?_toTexts response

end Worker

end FeatureFixtures
