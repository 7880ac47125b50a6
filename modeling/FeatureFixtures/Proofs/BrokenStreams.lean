import FeatureFixtures.Proofs.Serving
/-!
# Which broken streams are reported

An input holds complete frames of commands, one after the other, and then something that brings no
further command. Serving ends without an error if the sink takes all answers and either the last
command tells it to end, or fewer than four bytes follow. Only where nothing follows has the input
ended between two messages: a frame that is cut within its length passes for the end of the input,
and one that is cut within its body is reported.
-/

namespace FeatureFixtures

namespace Worker

section

variable {μ : Type} [Message μ] {message : μ} {messages : List μ} {input body rest : Bytes}

/-- Whether an input is made of complete frames of messages and of what follows them. -/
inductive Holds : Bytes → List μ → Bytes → Prop
  | nothing (rest : Bytes) : Holds rest [] rest
  | frame {body input rest : Bytes} {message : μ} {messages : List μ} : body.length ≤ bodyLimit →
      Message.decode? body = some message → Holds input messages rest →
      Holds (frameOf body ++ input) (message :: messages) rest

/-! ### Reading one frame -/

/-- Four bytes are read back from the length that they give. -/
theorem lengthBytes_lengthOf {bytes : Bytes} (h : bytes.length = 4) :
    lengthBytes (lengthOf bytes) = bytes := by
  obtain ⟨a, b, c, d, rfl⟩ := List.length_eq_four.1 h
  have ha := a.toNat_lt
  have hb := b.toNat_lt
  have hc := c.toNat_lt
  have hd := d.toNat_lt
  simp only [lengthOf, lengthBytes, List.foldr_cons, List.foldr_nil, List.map_cons, List.map_nil,
    List.cons.injEq, and_true, ← UInt8.toNat_inj, Nat.toUInt8_eq, UInt8.toNat_ofNat',
    Nat.shiftRight_eq_div_pow]
  omega

theorem lengthBytes_mod (n : Nat) : lengthBytes (n % UInt32.size) = lengthBytes n := by
  rw [← lengthOf_lengthBytes, lengthBytes_lengthOf (length_lengthBytes n)]

/-- A body is read exactly from its frame, if it is within the limit. -/
theorem readBody_eq_ok_iff :
    readBody input = .ok (body, rest) ↔ body.length ≤ bodyLimit ∧ input = frameOf body ++ rest := by
  constructor
  · intro h
    have hlength := length_of_readBody h
    have hfour : (input.take 4).length = 4 := by
      rw [List.length_take]
      omega
    obtain ⟨n, data, rfl⟩ : ∃ n data, input = lengthBytes n ++ data := by
      refine ⟨lengthOf (input.take 4), input.drop 4, ?_⟩
      rw [lengthBytes_lengthOf hfour, List.take_append_drop]
    rw [readBody_lengthBytes_append] at h
    split at h
    · cases h
    · next hlimit =>
      split at h
      · cases h
      · next hshort =>
        obtain ⟨rfl, rfl⟩ := Prod.mk.inj (Except.ok.inj h)
        have hbody : (data.take (n % UInt32.size)).length = n % UInt32.size := by
          rw [List.length_take]
          omega
        refine ⟨hlength.1, ?_⟩
        rw [frameOf, hbody, lengthBytes_mod, List.append_assoc, List.take_append_drop]
  · rintro ⟨hlimit, rfl⟩
    rw [frameOf, List.append_assoc]
    exact readBody_append hlimit rest

theorem readMessage_eq_ok_iff :
    readMessage input = .ok (message, rest) ↔
      ∃ body, body.length ≤ bodyLimit ∧ Message.decode? body = some message ∧
        input = frameOf body ++ rest := by
  constructor
  · intro h
    obtain ⟨body, hbody, hdecode⟩ := exists_body_of_readMessage h
    obtain ⟨hlimit, hinput⟩ := readBody_eq_ok_iff.1 hbody
    exact ⟨body, hlimit, hdecode, hinput⟩
  · rintro ⟨body, hlimit, hdecode, hinput⟩
    rw [readMessage, readBody_eq_ok_iff.2 ⟨hlimit, hinput⟩]
    dsimp only
    rw [hdecode]

/-- Only an input that ends within its first length is taken for one that ends within a length. -/
theorem readMessage_eq_lengthCut_iff :
    (readMessage input : Except StreamFault (μ × Bytes)) = .error .lengthCut ↔
      input.length < 4 := by
  constructor
  · intro h
    by_contra hlong
    unfold readMessage readBody at h
    rw [if_neg (by rw [List.length_take]; omega)] at h
    dsimp only at h
    split_ifs at h
    · cases h
    · cases h
    · dsimp only at h
      split at h <;> cases h
  · intro h
    rw [readMessage, readBody_of_length_lt h]

theorem holds_nil_iff : Holds input ([] : List μ) rest ↔ input = rest := by
  constructor
  · rintro ⟨⟩
    rfl
  · rintro rfl
    exact .nothing input

theorem holds_cons_iff : Holds input (message :: messages) rest ↔
    ∃ next, readMessage input = .ok (message, next) ∧ Holds next messages rest := by
  constructor
  · intro h
    cases h with
    | frame hlimit hdecode hrest =>
      exact ⟨_, readMessage_eq_ok_iff.2 ⟨_, hlimit, hdecode, rfl⟩, hrest⟩
  · rintro ⟨next, hread, hrest⟩
    obtain ⟨body, hlimit, hdecode, rfl⟩ := readMessage_eq_ok_iff.1 hread
    exact .frame hlimit hdecode hrest

theorem holds_flatMap_frame {messages : List μ}
    (h : ∀ message ∈ messages, Message.IsSendable message) (rest : Bytes) :
    Holds (messages.flatMap frame ++ rest) messages rest := by
  induction messages with
  | nil => exact .nothing rest
  | cons message messages ih =>
    rw [List.forall_mem_cons] at h
    rw [List.flatMap_cons, List.append_assoc]
    exact .frame h.1.length_le h.1.decode_encode (ih h.2)

end

/-! ### How serving ends -/

section

variable [Message Command] [Message Response] {generator : Generator} {sink : Sink}
  {input rest : Bytes} {command : Command} {commands : List Command}

/-- Whether serving ends without an error. -/
def EndsWell (generator : Generator) (input : Bytes) (sink : Sink) : Prop :=
  (serve generator input sink).ending.result = .ok ()

theorem endsWell_of_fault {fault : StreamFault}
    (h : (readMessage input : Except StreamFault (Command × Bytes)) = .error fault) :
    EndsWell generator input sink ↔ fault = .lengthCut := by
  rw [EndsWell, serve_of_fault generator sink h]
  by_cases hcut : fault = .lengthCut
  · simp [hcut, Ending.result]
  · simp [hcut, Ending.result]

theorem endsWell_of_read (h : readMessage input = .ok (command, rest)) :
    EndsWell generator input sink ↔
      sink.faults.head?.join = none ∧
        (command = .shutdown ∨ EndsWell generator rest sink.next) := by
  rw [EndsWell, serve_of_read generator sink h]
  cases hhead : sink.faults.head?.join with
  | none =>
    rw [Sink.write_of_none _ hhead]
    by_cases hshutdown : command = .shutdown
    · simp [hshutdown, Ending.result]
    · simp [hshutdown, EndsWell]
  | some fault =>
    have hfails : sink.FailsAt 0 := by
      refine ⟨sink.worksFor_zero, fault, ?_⟩
      rwa [← List.head?_eq_getElem?]
    obtain ⟨written, broken, reason, hwrite, -, -⟩ :=
      Sink.exists_write_of_failsAt_zero (respond generator command) hfails
    simp [hwrite, Ending.result]

/-- Whether there is nothing left to serve: the last command tells to end, or none does and not even
a length follows. -/
def IsOver (commands : List Command) (rest : Bytes) : Prop :=
  (∃ earlier, commands = earlier ++ [.shutdown] ∧ .shutdown ∉ earlier) ∨
    .shutdown ∉ commands ∧ rest.length < 4

omit [Message Command] [Message Response] in
theorem isOver_nil_iff : IsOver [] rest ↔ rest.length < 4 := by
  simp [IsOver]

omit [Message Command] [Message Response] in
theorem isOver_cons_iff : IsOver (command :: commands) rest ↔
    command = .shutdown ∧ commands = [] ∨ command ≠ .shutdown ∧ IsOver commands rest := by
  by_cases hshutdown : command = .shutdown
  · subst hshutdown
    constructor
    · rintro (⟨_ | ⟨first, earlier⟩, hsplit, hearlier⟩ | ⟨hnone, -⟩)
      · exact .inl ⟨rfl, (List.cons.inj hsplit).2⟩
      · exact absurd (List.mem_cons.2 (.inl (List.cons.inj hsplit).1)) hearlier
      · exact absurd List.mem_cons_self hnone
    · rintro (⟨-, rfl⟩ | ⟨hne, -⟩)
      · exact .inl ⟨[], rfl, List.not_mem_nil⟩
      · exact absurd rfl hne
  · constructor
    · rintro (⟨_ | ⟨first, earlier⟩, hsplit, hearlier⟩ | ⟨hnone, hrest⟩)
      · exact absurd (List.cons.inj hsplit).1 hshutdown
      · refine .inr ⟨hshutdown, .inl ⟨earlier, (List.cons.inj hsplit).2, ?_⟩⟩
        exact List.not_mem_of_not_mem_cons hearlier
      · exact .inr ⟨hshutdown, .inr ⟨List.not_mem_of_not_mem_cons hnone, hrest⟩⟩
    · rintro (⟨hyes, -⟩ | ⟨-, ⟨earlier, rfl, hearlier⟩ | ⟨hnone, hrest⟩⟩)
      · exact absurd hyes hshutdown
      · exact .inl ⟨command :: earlier, rfl, List.not_mem_cons_of_ne_of_not_mem
          (Ne.symm hshutdown) hearlier⟩
      · exact .inr ⟨List.not_mem_cons_of_ne_of_not_mem (Ne.symm hshutdown) hnone, hrest⟩

/-- An input ends serving well exactly if it is over after commands whose answers are all taken. -/
theorem endsWell_iff : EndsWell generator input sink ↔
    ∃ commands rest, Holds input commands rest ∧ sink.WorksFor commands.length ∧
      IsOver commands rest := by
  constructor
  · -- Every command that is read leaves a shorter input.
    intro h
    induction hlength : input.length using Nat.strongRecOn generalizing input sink with
    | ind length ih =>
      rcases hread : (readMessage input : Except StreamFault (Command × Bytes)) with
        fault | ⟨command, rest⟩
      · rw [(endsWell_of_fault hread).1 h, readMessage_eq_lengthCut_iff] at hread
        exact ⟨[], input, .nothing input, sink.worksFor_zero, isOver_nil_iff.2 hread⟩
      · obtain ⟨hhead, hrest⟩ := (endsWell_of_read hread).1 h
        by_cases hshutdown : command = .shutdown
        · refine ⟨[command], rest, holds_cons_iff.2 ⟨rest, hread, .nothing rest⟩, ?_, ?_⟩
          · exact Sink.worksFor_succ_iff.2 ⟨hhead, sink.next.worksFor_zero⟩
          · exact isOver_cons_iff.2 (.inl ⟨hshutdown, rfl⟩)
        · have hshorter : rest.length < length := hlength ▸ readMessage_length_lt hread
          obtain ⟨commands, after, hholds, hworks, hover⟩ :=
            ih rest.length hshorter (hrest.resolve_left hshutdown) rfl
          refine ⟨command :: commands, after, holds_cons_iff.2 ⟨rest, hread, hholds⟩, ?_, ?_⟩
          · exact Sink.worksFor_succ_iff.2 ⟨hhead, hworks⟩
          · exact isOver_cons_iff.2 (.inr ⟨hshutdown, hover⟩)
  · rintro ⟨commands, rest, hholds, hworks, hover⟩
    induction commands generalizing input sink with
    | nil =>
      rw [holds_nil_iff] at hholds
      subst hholds
      exact (endsWell_of_fault (readMessage_eq_lengthCut_iff.2 (isOver_nil_iff.1 hover))).2 rfl
    | cons command commands ih =>
      obtain ⟨next, hread, hnext⟩ := holds_cons_iff.1 hholds
      obtain ⟨hhead, hworks⟩ := Sink.worksFor_succ_iff.1 hworks
      refine (endsWell_of_read hread).2 ⟨hhead, ?_⟩
      rcases isOver_cons_iff.1 hover with ⟨hshutdown, -⟩ | ⟨-, hover⟩
      · exact .inl hshutdown
      · exact .inr (ih hnext hworks hover)

/-- Where commands that go on are followed by something that brings none, the fault decides. -/
theorem endsWell_of_holds (h : Holds input commands rest) (hshutdown : .shutdown ∉ commands)
    {fault : StreamFault}
    (hfault : (readMessage rest : Except StreamFault (Command × Bytes)) = .error fault) :
    EndsWell generator input sink ↔ fault = .lengthCut ∧ sink.WorksFor commands.length := by
  induction commands generalizing input sink with
  | nil =>
    rw [holds_nil_iff] at h
    subst h
    rw [endsWell_of_fault hfault]
    exact (and_iff_left sink.worksFor_zero).symm
  | cons command commands ih =>
    obtain ⟨next, hread, hnext⟩ := holds_cons_iff.1 h
    have hgoes : command ≠ .shutdown := (List.ne_of_not_mem_cons hshutdown).symm
    rw [endsWell_of_read hread, or_iff_right hgoes,
      ih hnext (List.not_mem_of_not_mem_cons hshutdown), List.length_cons, Sink.worksFor_succ_iff]
    exact and_left_comm

/-- A frame that is cut ends serving well exactly if the cut is within its length. -/
theorem endsWell_take_frameOf_iff {body : Bytes} {n : Nat}
    (h : Holds input commands ((frameOf body).take n)) (hshutdown : .shutdown ∉ commands)
    (hwidth : body.length < UInt32.size) (hn : n < (frameOf body).length) :
    EndsWell generator input sink ↔ n < 4 ∧ sink.WorksFor commands.length := by
  have hcut := readMessage_take_frameOf (μ := Command) hwidth hn
  rw [endsWell_of_holds h hshutdown hcut]
  refine and_congr_left fun _ => ?_
  by_cases hlength : n < 4
  · simp [hlength]
  · by_cases hlimit : bodyLimit < body.length
    · simp [hlength, hlimit]
    · simp [hlength, hlimit]

/-- **Which broken streams are reported.** With whatever generator and sink, serving an input ends
without an error exactly if the input holds commands whose answers the sink takes, the last of which
tells it to end, or none of which does and fewer than four bytes follow. So where commands that go
on are followed by a frame of any body that is cut anywhere, serving ends without an error exactly
if the cut is within the four bytes of the length and the sink takes all answers: every cut within
the body is reported, and no other one is. -/
theorem endsWell_iff_cut (generator : Generator) (sink : Sink) :
    (∀ input : Bytes, EndsWell generator input sink ↔
      ∃ (commands : List Command) (rest : Bytes),
        Holds input commands rest ∧ sink.WorksFor commands.length ∧
        ((∃ earlier, commands = earlier ++ [.shutdown] ∧ .shutdown ∉ earlier) ∨
          .shutdown ∉ commands ∧ rest.length < 4)) ∧
    ∀ (input : Bytes) (commands : List Command) (body : Bytes) (n : Nat),
      Holds input commands ((frameOf body).take n) →
      .shutdown ∉ commands → body.length < UInt32.size → n < (frameOf body).length →
      (EndsWell generator input sink ↔ n < 4 ∧ sink.WorksFor commands.length) := by
  refine ⟨fun input => endsWell_iff, ?_⟩
  intro input commands body n hholds hshutdown hwidth hn
  exact endsWell_take_frameOf_iff hholds hshutdown hwidth hn

end

/-- A ping, and a question for the version that is cut within its body, which is reported. -/
theorem not_endsWell_of_cut_body :
    let input := frame Command.ping ++ (frame Command.handshake).take 7
    Holds input [Command.ping] ((frame Command.handshake).take 7) ∧
    ¬ EndsWell .builtin input {} := by
  intro input
  have hping : ∀ command ∈ [Command.ping], Message.IsSendable command := by
    intro command hcommand
    rw [List.mem_singleton.1 hcommand]
    exact ⟨by decide, Command.decode?_encode .ping⟩
  have hholds := holds_flatMap_frame hping ((frame Command.handshake).take 7)
  refine ⟨hholds, fun hends => ?_⟩
  have hcut := ((endsWell_iff_cut .builtin {}).2 _ _ (Message.encode Command.handshake) 7 hholds
    (by decide) (by decide) (by decide)).1 hends
  exact absurd hcut.1 (by decide)

/-- A ping, and two bytes of the length of another command, which pass for the end of the input. -/
theorem endsWell_of_cut_length :
    let input := frame Command.ping ++ (frame Command.handshake).take 2
    Holds input [Command.ping] ((frame Command.handshake).take 2) ∧
    (frame Command.handshake).take 2 ≠ [] ∧ 2 < (frame Command.handshake).length ∧
    EndsWell .builtin input {} := by
  intro input
  have hping : ∀ command ∈ [Command.ping], Message.IsSendable command := by
    intro command hcommand
    rw [List.mem_singleton.1 hcommand]
    exact ⟨by decide, Command.decode?_encode .ping⟩
  have hholds := holds_flatMap_frame hping ((frame Command.handshake).take 2)
  refine ⟨hholds, by decide, by decide, ?_⟩
  refine endsWell_iff.2 ⟨[.ping], _, hholds, ?_, .inr ⟨by decide, by decide⟩⟩
  simp [Sink.WorksFor]

end Worker

end FeatureFixtures
