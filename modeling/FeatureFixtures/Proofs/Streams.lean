import FeatureFixtures.Proofs.Messages
/-!
# Streams of frames

A stream holds the frames of its messages one after the other. Wherever it is cut, the messages
whose frames are complete are read, and the error tells whether the cut is within a length or within
a body. Only the reader knows the limit, so a message is written whatever the length of its body,
and it is read back exactly if its body is within the limit.
-/

namespace FeatureFixtures

namespace Worker

section

variable {μ : Type} [Message μ]

/-- Reads one message after the other until the stream is broken. -/
def readMessages (input : Bytes) : List μ × StreamFault :=
  match _h : (readMessage input : Except StreamFault (μ × Bytes)) with
  | .error fault => ([], fault)
  | .ok (message, rest) =>
    let (messages, fault) := readMessages rest
    (message :: messages, fault)
termination_by input.length
decreasing_by exact readMessage_length_lt _h

theorem readMessages_of_error {input : Bytes} {fault : StreamFault}
    (h : (readMessage input : Except StreamFault (μ × Bytes)) = .error fault) :
    (readMessages input : List μ × StreamFault) = ([], fault) := by
  rw [readMessages]
  split
  · next hfault =>
    cases h.symm.trans hfault
    rfl
  · next hread => cases h.symm.trans hread

theorem readMessages_frame_append {message : μ} (h : Message.IsSendable message) (rest : Bytes) :
    readMessages (frame message ++ rest) =
      (message :: (readMessages rest : List μ × StreamFault).1,
        (readMessages rest : List μ × StreamFault).2) := by
  have hread := readMessage_frame_append h rest
  rw [readMessages]
  split
  · next hfault => cases hread.symm.trans hfault
  · next hread' =>
    cases hread.symm.trans hread'
    rfl

/-! ### Cuts -/

/-- The frame of a body. -/
def frameOf (body : Bytes) : Bytes :=
  lengthBytes body.length ++ body

theorem length_frameOf (body : Bytes) : (frameOf body).length = 4 + body.length := by
  rw [frameOf, List.length_append, length_lengthBytes]

theorem length_frame (message : μ) :
    (frame message).length = 4 + (Message.encode message).length :=
  length_frameOf (Message.encode message)

theorem readBody_of_length_lt {input : Bytes} (h : input.length < 4) :
    readBody input = .error .lengthCut := by
  have hshort : (input.take 4).length < 4 := by
    rw [List.length_take]
    omega
  rw [readBody, if_pos hshort]

/-- A frame that is not complete gives no message. It ends within its length if fewer than four
bytes are there, and otherwise within its body, unless its length is refused before. -/
theorem readMessage_take_frameOf {body : Bytes} (hwidth : body.length < UInt32.size) {n : Nat}
    (hn : n < (frameOf body).length) :
    (readMessage ((frameOf body).take n) : Except StreamFault (μ × Bytes)) =
      .error (if n < 4 then .lengthCut
        else if bodyLimit < body.length then .tooLarge body.length else .bodyCut) := by
  rw [length_frameOf] at hn
  suffices hbody : readBody ((frameOf body).take n) =
      .error (if n < 4 then .lengthCut
        else if bodyLimit < body.length then .tooLarge body.length else .bodyCut) by
    rw [readMessage, hbody]
  by_cases hlength : n < 4
  · rw [if_pos hlength]
    refine readBody_of_length_lt ?_
    rw [List.length_take]
    omega
  · have htake : (frameOf body).take n = lengthBytes body.length ++ body.take (n - 4) := by
      rw [frameOf, List.take_append, length_lengthBytes, List.take_of_length_le]
      rw [length_lengthBytes]
      omega
    have hshort : (body.take (n - 4)).length < body.length := by
      rw [List.length_take]
      omega
    rw [if_neg hlength, htake, readBody_lengthBytes_append, Nat.mod_eq_of_lt hwidth, if_pos hshort]
    split <;> rfl

/-- Of a message within the limit, what is not complete is cut within its length or its body. -/
theorem readMessage_take_frame {message : μ} (h : (Message.encode message).length ≤ bodyLimit)
    {n : Nat} (hn : n < (frame message).length) :
    (readMessage ((frame message).take n) : Except StreamFault (μ × Bytes)) =
      .error (if n < 4 then .lengthCut else .bodyCut) := by
  have hwidth : (Message.encode message).length < UInt32.size :=
    Nat.lt_of_le_of_lt h (by decide)
  have hcut : (readMessage ((frame message).take n) : Except StreamFault (μ × Bytes)) = _ :=
    readMessage_take_frameOf hwidth hn
  rwa [if_neg (Nat.not_lt.2 h)] at hcut

/-- **A cut loses only what it cuts off.** Of a stream that is cut anywhere, exactly the messages
whose frames are complete are read, in order, and then the connection is found broken: within a
length if fewer than four bytes of the next frame are there, and within a body otherwise. -/
theorem readMessages_take_frames {messages : List μ}
    (h : ∀ message ∈ messages, Message.IsSendable message) {n : Nat}
    (hn : n ≤ (messages.flatMap frame).length) :
    ∃ delivered lost : List μ,
      messages = delivered ++ lost ∧
      (delivered.flatMap frame).length ≤ n ∧
      (∀ next ∈ lost.head?, n < (delivered.flatMap frame).length + (frame next).length) ∧
      ∃ fault : StreamFault,
        readMessages ((messages.flatMap frame).take n) = (delivered, fault) ∧
        fault.toError = .connection
          ((if n < (delivered.flatMap frame).length + 4 then "Failed to read IPC message length: "
            else "Failed to read IPC message body: ") ++ shortRead) := by
  -- Each frame is either left behind by the cut or ends the stream, so the cut moves along.
  induction messages generalizing n with
  | nil =>
    have hcut : (readMessage [] : Except StreamFault (μ × Bytes)) = .error .lengthCut := rfl
    obtain rfl : n = 0 := Nat.le_zero.1 hn
    exact ⟨[], [], rfl, Nat.le_refl 0, by simp, .lengthCut, readMessages_of_error hcut, rfl⟩
  | cons first messages ih =>
    obtain ⟨hfirst, hmessages⟩ := List.forall_mem_cons.1 h
    rw [List.flatMap_cons] at hn ⊢
    by_cases hcut : n < (frame first).length
    · have htake : (frame first ++ messages.flatMap frame).take n = (frame first).take n :=
        List.take_append_of_le_length (Nat.le_of_lt hcut)
      have hread := readMessages_of_error (readMessage_take_frame hfirst.length_le hcut)
      refine ⟨[], first :: messages, rfl, Nat.zero_le n, ?_, _, htake ▸ hread, ?_⟩
      · intro next hnext
        obtain rfl : first = next := by simpa using hnext
        simpa using hcut
      · by_cases hlength : n < 4
        · simp [hlength, StreamFault.toError]
        · simp [hlength, StreamFault.toError]
    · have htake : (frame first ++ messages.flatMap frame).take n =
          frame first ++ (messages.flatMap frame).take (n - (frame first).length) := by
        rw [List.take_append, List.take_of_length_le (Nat.not_lt.1 hcut)]
      have hrest : n - (frame first).length ≤ (messages.flatMap frame).length := by
        rw [List.length_append] at hn
        omega
      obtain ⟨delivered, lost, hsplit, hdelivered, hlost, fault, hread, hfault⟩ :=
        ih hmessages hrest
      have hlength : ((first :: delivered).flatMap frame).length =
          (frame first).length + (delivered.flatMap frame).length := by
        rw [List.flatMap_cons, List.length_append]
      have hwithin : n < (frame first).length + (delivered.flatMap frame).length + 4 ↔
          n - (frame first).length < (delivered.flatMap frame).length + 4 := by
        omega
      refine ⟨first :: delivered, lost, congrArg (first :: ·) hsplit, ?_, ?_, fault, ?_, ?_⟩
      · omega
      · intro next hnext
        have := hlost next hnext
        omega
      · rw [htake, readMessages_frame_append hfirst, hread]
      · simp only [hfault, hlength, hwithin]

/-- Three commands whose stream is cut within the body of the second. -/
theorem readMessages_take_frames_handshake :
    let commands : List Command := [.ping, .handshake, .shutdown]
    (∀ command ∈ commands, Message.IsSendable command) ∧ 20 ≤ (commands.flatMap frame).length ∧
    (readMessages ((commands.flatMap frame).take 20) : List Command × StreamFault).1 = [.ping] := by
  intro commands
  have hsize : ∀ command ∈ commands, (Message.encode command).length ≤ bodyLimit := by decide
  have hsendable : ∀ command ∈ commands, Message.IsSendable command := fun command hcommand =>
    ⟨hsize command hcommand, Command.decode?_encode command⟩
  have hcut : 20 ≤ (commands.flatMap frame).length := by decide
  refine ⟨hsendable, hcut, ?_⟩
  obtain ⟨delivered, lost, hsplit, hdelivered, hlost, fault, hread, -⟩ :=
    readMessages_take_frames hsendable hcut
  rw [hread]
  rcases delivered with _ | ⟨first, _ | ⟨second, delivered⟩⟩
  · obtain rfl : lost = commands := hsplit.symm
    exact absurd (hlost .ping rfl) (by decide)
  · simp only [List.cons_append, List.nil_append, commands, List.cons.injEq] at hsplit
    rw [hsplit.1]
  · simp only [List.cons_append, commands, List.cons.injEq] at hsplit
    obtain ⟨rfl, rfl, -⟩ := hsplit
    have hlengths : (frame Command.ping).length + (frame Command.handshake).length = 23 := by decide
    simp only [List.flatMap_cons, List.length_append] at hdelivered
    omega

/-! ### The limit -/

/-- A sink that reports no fault has taken the whole frame. -/
theorem write_fst_of_ok {sink : Sink} {message : μ} (h : (sink.write message).2 = .ok ()) :
    (sink.write message).1 = frame message := by
  unfold Sink.write Sink.writeBody at h ⊢
  rcases hfault : sink.faults.head?.join with _ | ⟨stage, accepted, fault⟩
  · rfl
  · cases stage <;> simp [hfault] at h

/-- A body that is read is within the limit, and nothing of the input is left out. -/
theorem length_of_readBody {input body rest : Bytes} (h : readBody input = .ok (body, rest)) :
    body.length ≤ bodyLimit ∧ input.length = 4 + body.length + rest.length := by
  unfold readBody at h
  simp only at h
  split at h
  · cases h
  · next hfour =>
    split at h
    · cases h
    · next hlimit =>
      split at h
      · cases h
      · next hbody =>
        simp only [Except.ok.injEq, Prod.mk.injEq] at h
        obtain ⟨rfl, rfl⟩ := h
        simp only [List.length_take, List.length_drop] at hfour hbody ⊢
        omega

theorem exists_body_of_readMessage {input rest : Bytes} {message : μ}
    (h : readMessage input = .ok (message, rest)) :
    ∃ body, readBody input = .ok (body, rest) ∧ Message.decode? body = some message := by
  unfold readMessage at h
  split at h
  · cases h
  · next body _ hbody =>
    split at h
    · next hdecode =>
      cases h
      exact ⟨body, hbody, hdecode⟩
    · cases h

/-- A message and what follows it are read back exactly if its body is within the limit: of a longer
body the reader would leave a part behind. -/
theorem readMessage_frame_append_iff {message : μ}
    (hdecode : Message.decode? (Message.encode message) = some message) (rest : Bytes) :
    readMessage (frame message ++ rest) = .ok (message, rest) ↔
      (Message.encode message).length ≤ bodyLimit := by
  refine ⟨fun hread => ?_, fun hlimit => readMessage_frame_append ⟨hlimit, hdecode⟩ rest⟩
  obtain ⟨body, hbody, -⟩ := exists_body_of_readMessage hread
  obtain ⟨hlimit, hlength⟩ := length_of_readBody hbody
  rw [List.length_append, length_frame] at hlength
  omega

theorem readMessage_frame_append_of_lt {message : μ}
    (hlimit : bodyLimit < (Message.encode message).length)
    (hwidth : (Message.encode message).length < UInt32.size) (rest : Bytes) :
    (readMessage (frame message ++ rest) : Except StreamFault (μ × Bytes)) =
      .error (.tooLarge (Message.encode message).length) := by
  rw [readMessage, frame, List.append_assoc, readBody_lengthBytes_append, Nat.mod_eq_of_lt hwidth,
    if_pos hlimit]

/-- **The writer does not know the limit.** Whatever a message is written to, as long as no fault is
reported, the message and what follows it are read back exactly if the body is within the limit. A
longer body whose length four bytes can tell is refused for its length. -/
theorem readMessage_write_iff {sink : Sink} {message : μ}
    (hdecode : Message.decode? (Message.encode message) = some message)
    (hwrite : (sink.write message).2 = .ok ()) (rest : Bytes) :
    (readMessage ((sink.write message).1 ++ rest) = .ok (message, rest) ↔
      (Message.encode message).length ≤ bodyLimit) ∧
    (bodyLimit < (Message.encode message).length → (Message.encode message).length < UInt32.size →
      (readMessage ((sink.write message).1 ++ rest) : Except StreamFault (μ × Bytes)) =
        .error (.tooLarge (Message.encode message).length)) := by
  rw [write_fst_of_ok hwrite]
  exact ⟨readMessage_frame_append_iff hdecode rest, fun hlimit hwidth =>
    readMessage_frame_append_of_lt hlimit hwidth rest⟩

end

/-- The shortest command is read back. -/
theorem readMessage_write_ping :
    Message.decode? (Message.encode Command.ping) = some Command.ping ∧
    (({} : Sink).write Command.ping).2 = .ok () ∧
    readMessage ((({} : Sink).write Command.ping).1 ++ [1, 2, 3]) = .ok (Command.ping, [1, 2, 3]) :=
  have hdecode := Command.decode?_encode .ping
  ⟨hdecode, rfl, (readMessage_write_iff hdecode rfl [1, 2, 3]).1.2 (by decide)⟩

/-! ### A response above the limit -/

theorem length_encode_generated (code : Text) :
    (Message.encode (Response.generated code)).length = Text.byteCount code + 11 := by
  have hkind : (Text.toBytes "generated").length = 9 := by decide
  change (encodeTexts ["generated", code]).length = _
  simp only [encodeTexts, List.flatMap_cons, List.flatMap_nil, List.length_append, hkind,
    Text.length_toBytes, List.length_cons, List.length_nil]
  omega

theorem byteCount_replicate (n : Nat) (c : Char) :
    Text.byteCount (List.replicate n c) = n * c.utf8Size := by
  induction n with
  | zero => simp [Text.byteCount]
  | succ n ih =>
    rw [List.replicate_succ, Text.byteCount, ih, Nat.succ_mul, Nat.add_comm]

/-- A response with code of the size of the limit is written without a fault and then refused. -/
theorem readMessage_write_ne_of_long :
    let response := Response.generated (List.replicate bodyLimit 'x')
    Message.decode? (Message.encode response) = some response ∧
    (({} : Sink).write response).2 = .ok () ∧
    readMessage (({} : Sink).write response).1 ≠ .ok (response, []) ∧
    (readMessage (({} : Sink).write response).1 : Except StreamFault (Response × Bytes)) =
      .error (.tooLarge (bodyLimit + 11)) := by
  intro response
  have hlength : (Message.encode response).length = bodyLimit + 11 := by
    rw [length_encode_generated, byteCount_replicate]
    rfl
  have hlimit : bodyLimit < (Message.encode response).length := by omega
  have hwidth : (Message.encode response).length < UInt32.size := by
    rw [hlength]
    decide
  have hread := readMessage_frame_append_of_lt hlimit hwidth []
  rw [List.append_nil, hlength] at hread
  have hwritten : ({} : Sink).write response = (frame response, .ok ()) := rfl
  rw [hwritten]
  refine ⟨Response.decode?_encode response, rfl, ?_, hread⟩
  rw [hread]
  simp

end Worker

end FeatureFixtures
