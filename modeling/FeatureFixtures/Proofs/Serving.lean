import FeatureFixtures.Proofs.Streams
import FeatureFixtures.Worker.Server
import Mathlib.Data.List.Forall2
/-!
# Answers of a worker

A worker answers each command once and in order, up to the first one that tells it to end, and it
leaves what follows that one unread. A generation that fails or crashes has a response like any
other. If a response cannot be written, serving ends there with an error: the responses before it
were written completely, and of this one as much as was accepted.
-/

namespace FeatureFixtures

namespace Worker

/-- What each command is answered with. -/
inductive Answers (generator : Generator) : Command → Response → Prop
  | ping : Answers generator .ping .pong
  | handshake : Answers generator .handshake (.ready generator.version.toText)
  | generated {request : Request} {code : Text} : generator.generate request = .ok code →
      Answers generator (.generate request) (.generated code)
  | failed {request : Request} {error : Error} :
      generator.generate request = .error (.error error) →
      Answers generator (.generate request) (.failed error.message error.line?)
  | crashed {request : Request} {message : Option Text} :
      generator.generate request = .error (.crash message) →
      Answers generator (.generate request) (.crashed (crashText message))
  | shutdown : Answers generator .shutdown .shuttingDown

/-- The commands up to the first one to end, which is the last that is answered. -/
def answered : List Command → List Command
  | [] => []
  | command :: rest => if command = .shutdown then [command] else command :: answered rest

theorem answers_respond (generator : Generator) (command : Command) :
    Answers generator command (respond generator command) := by
  cases command with
  | ping => exact .ping
  | handshake => exact .handshake
  | shutdown => exact .shutdown
  | generate request =>
    rw [respond]
    rcases houtcome : generator.generate request with (error | message) | code
    · exact .failed houtcome
    · exact .crashed houtcome
    · exact .generated houtcome

/-- A sink that takes so many frames without a fault. -/
def Sink.WorksFor (sink : Sink) (n : Nat) : Prop :=
  ∀ place ∈ sink.faults.take n, place = none

/-- A sink that takes so many frames without a fault and then has one. -/
def Sink.FailsAt (sink : Sink) (n : Nat) : Prop :=
  sink.WorksFor n ∧ ∃ fault, sink.faults[n]?.join = some fault

/-! ### Sinks -/

namespace Sink

variable {sink : Sink} {n : Nat}

theorem worksFor_zero (sink : Sink) : sink.WorksFor 0 := by
  simp [WorksFor]

theorem worksFor_succ_iff :
    sink.WorksFor (n + 1) ↔ sink.faults.head?.join = none ∧ sink.next.WorksFor n := by
  obtain ⟨_ | ⟨place, places⟩⟩ := sink
  · simp [WorksFor, next]
  · simp [WorksFor, next]

theorem failsAt_succ_iff :
    sink.FailsAt (n + 1) ↔ sink.faults.head?.join = none ∧ sink.next.FailsAt n := by
  have hplace : sink.faults[n + 1]? = sink.next.faults[n]? := by
    obtain ⟨_ | ⟨place, places⟩⟩ := sink
    · rfl
    · rfl
  rw [FailsAt, FailsAt, worksFor_succ_iff, hplace, and_assoc]

theorem worksFor_or_failsAt (sink : Sink) (n : Nat) :
    sink.WorksFor n ∨ ∃ k < n, sink.FailsAt k := by
  induction n generalizing sink with
  | zero => exact .inl sink.worksFor_zero
  | succ n ih =>
    cases hhead : sink.faults.head?.join with
    | some fault =>
      refine .inr ⟨0, Nat.succ_pos n, sink.worksFor_zero, fault, ?_⟩
      rwa [← List.head?_eq_getElem?]
    | none =>
      rcases ih sink.next with hworks | ⟨k, hk, hfails⟩
      · exact .inl (worksFor_succ_iff.2 ⟨hhead, hworks⟩)
      · exact .inr ⟨k + 1, Nat.succ_lt_succ hk, failsAt_succ_iff.2 ⟨hhead, hfails⟩⟩

section

variable {μ : Type} [Message μ] (message : μ)

theorem write_of_none (h : sink.faults.head?.join = none) :
    sink.write message = (frame message, .ok ()) := by
  rw [write, writeBody, h, frame]

/-- A fault at any stage leaves a part of the frame and an error of the connection. -/
theorem exists_write_of_failsAt_zero (h : sink.FailsAt 0) :
    ∃ written broken reason, sink.write message = (written, .error broken) ∧
      written <+: frame message ∧ broken.toError = .connection reason := by
  obtain ⟨-, ⟨stage, accepted, fault⟩, hfault⟩ := h
  rw [← List.head?_eq_getElem?] at hfault
  rw [write, writeBody, hfault, frame]
  cases stage with
  | length =>
    refine ⟨_, _, _, rfl, ?_, rfl⟩
    exact (List.take_prefix _ _).trans (List.prefix_append _ _)
  | body =>
    refine ⟨_, _, _, rfl, ?_, rfl⟩
    exact (List.prefix_append_right_inj _).2 (List.take_prefix _ _)
  | flush => exact ⟨_, _, _, rfl, List.prefix_rfl, rfl⟩

end

end Sink

/-! ### Serving one command -/

theorem answered_cons_of_ne {command : Command} (h : command ≠ .shutdown) (rest : List Command) :
    answered (command :: rest) = command :: answered rest := by
  rw [answered, if_neg h]

section

variable [Message Command] [Message Response] {generator : Generator} {sink : Sink}
  {commands : List Command} {after : Bytes}

/-- A command that is read is answered, and serving goes on with what follows it, unless the answer
cannot be written or the command tells it to end. -/
theorem serve_of_read (generator : Generator) (sink : Sink) {input rest : Bytes} {command : Command}
    (h : readMessage input = .ok (command, rest)) :
    serve generator input sink =
      match sink.write (respond generator command) with
      | (written, .error fault) =>
        { ending := .broken fault, written, requests := command.requests, unread := rest }
      | (written, .ok ()) =>
        if command = .shutdown then
          { ending := .told, written, requests := command.requests, unread := rest }
        else
          { serve generator rest sink.next with
            written := written ++ (serve generator rest sink.next).written
            requests := command.requests ++ (serve generator rest sink.next).requests } := by
  rw [serve]
  split
  · next hcut => cases h.symm.trans hcut
  · next hfault => cases h.symm.trans hfault
  · next hread =>
    cases h.symm.trans hread
    rfl

/-- An input that brings no command ends serving: without an error if it ends within a length. -/
theorem serve_of_fault (generator : Generator) (sink : Sink) {input : Bytes} {fault : StreamFault}
    (h : (readMessage input : Except StreamFault (Command × Bytes)) = .error fault) :
    serve generator input sink =
      { ending := if fault = .lengthCut then .inputEnded else .broken fault
        written := []
        requests := []
        unread := input } := by
  rw [serve]
  split
  · next hcut =>
    cases h.symm.trans hcut
    rfl
  · next other hfault =>
    cases h.symm.trans hfault
    rw [if_neg other]
  · next hread => cases h.symm.trans hread

theorem serve_frame_append_eq (generator : Generator) (sink : Sink) {command : Command}
    (h : Message.IsSendable command) (rest : Bytes) :
    serve generator (frame command ++ rest) sink =
      match sink.write (respond generator command) with
      | (written, .error fault) =>
        { ending := .broken fault, written, requests := command.requests, unread := rest }
      | (written, .ok ()) =>
        if command = .shutdown then
          { ending := .told, written, requests := command.requests, unread := rest }
        else
          { serve generator rest sink.next with
            written := written ++ (serve generator rest sink.next).written
            requests := command.requests ++ (serve generator rest sink.next).requests } :=
  serve_of_read generator sink (readMessage_frame_append h rest)

/-- An input that ends within a length ends serving without an error. -/
theorem serve_of_length_lt (h : after.length < 4) :
    serve generator after sink =
      { ending := .inputEnded, written := [], requests := [], unread := after } := by
  have hcut : (readMessage after : Except StreamFault (Command × Bytes)) = .error .lengthCut := by
    rw [readMessage, readBody_of_length_lt h]
  rw [serve_of_fault generator sink hcut, if_pos rfl]

/-! ### Serving many commands -/

theorem serve_of_worksFor (h : ∀ command ∈ commands, Message.IsSendable command)
    (hafter : .shutdown ∈ commands ∨ after.length < 4)
    (hworks : sink.WorksFor (answered commands).length) :
    serve generator (commands.flatMap frame ++ after) sink =
      { ending := if .shutdown ∈ commands then .told else .inputEnded
        written := (answered commands).flatMap fun command => frame (respond generator command)
        requests := (answered commands).flatMap Command.requests
        unread := (commands.drop (answered commands).length).flatMap frame ++ after } := by
  induction commands generalizing sink with
  | nil =>
    have hend : after.length < 4 := hafter.resolve_left List.not_mem_nil
    rw [List.flatMap_nil, List.nil_append, serve_of_length_lt hend]
    simp [answered]
  | cons command rest ih =>
    rw [List.forall_mem_cons] at h
    rw [List.flatMap_cons, List.append_assoc, serve_frame_append_eq generator sink h.1]
    by_cases hshutdown : command = .shutdown
    · subst hshutdown
      obtain ⟨hhead, -⟩ := Sink.worksFor_succ_iff.1 hworks
      simp [Sink.write_of_none _ hhead, answered, Command.requests]
    · rw [answered_cons_of_ne hshutdown, List.length_cons, Sink.worksFor_succ_iff] at hworks
      have hrest : .shutdown ∈ rest ∨ after.length < 4 := by
        simpa [Ne.symm hshutdown] using hafter
      rw [Sink.write_of_none _ hworks.1]
      simp [hshutdown, Ne.symm hshutdown, ih h.2 hrest hworks.2, answered_cons_of_ne]

/-- The first answer that cannot be written ends serving. -/
theorem serve_of_failsAt (h : ∀ command ∈ commands, Message.IsSendable command) {n : Nat}
    (hn : n < (answered commands).length) (hfails : sink.FailsAt n) :
    let served := serve generator (commands.flatMap frame ++ after) sink
    let responses := (answered commands).map (respond generator)
    (∃ broken reason, served.ending = .broken broken ∧ broken.toError = .connection reason) ∧
      (responses.take n).flatMap frame <+: served.written ∧
      served.written <+: responses.flatMap frame ∧
      served.requests = ((answered commands).take (n + 1)).flatMap Command.requests ∧
      served.unread = (commands.drop (n + 1)).flatMap frame ++ after := by
  -- The induction is on the commands: each that is answered uses up one place of the sink.
  induction commands generalizing n sink with
  | nil => exact absurd hn (Nat.not_lt_zero n)
  | cons command rest ih =>
    rw [List.forall_mem_cons] at h
    have hserve := serve_frame_append_eq generator sink h.1 (rest.flatMap frame ++ after)
    rw [List.flatMap_cons, List.append_assoc, hserve]
    cases n with
    | zero =>
      obtain ⟨written, broken, reason, hwrite, hprefix, hbroken⟩ :=
        Sink.exists_write_of_failsAt_zero (respond generator command) hfails
      have hfirst : ∃ others, answered (command :: rest) = command :: others := by
        rw [answered]
        split
        · exact ⟨[], rfl⟩
        · exact ⟨answered rest, rfl⟩
      obtain ⟨others, hothers⟩ := hfirst
      rw [hwrite, hothers]
      refine ⟨⟨broken, reason, rfl, hbroken⟩, List.nil_prefix, ?_, by simp, rfl⟩
      rw [List.map_cons, List.flatMap_cons]
      exact hprefix.trans (List.prefix_append _ _)
    | succ n =>
      have hshutdown : command ≠ .shutdown := by
        rintro rfl
        simp [answered] at hn
      rw [answered_cons_of_ne hshutdown] at hn ⊢
      rw [Sink.failsAt_succ_iff] at hfails
      obtain ⟨hbroken, hcomplete, hprefix, hrequests, hunread⟩ :=
        ih h.2 (Nat.lt_of_succ_lt_succ hn) hfails.2
      rw [Sink.write_of_none _ hfails.1]
      simp only [if_neg hshutdown]
      refine ⟨hbroken, ?_, ?_, ?_, hunread⟩
      · rw [List.map_cons, List.take_succ_cons, List.flatMap_cons]
        exact (List.prefix_append_right_inj _).2 hcomplete
      · rw [List.map_cons, List.flatMap_cons]
        exact (List.prefix_append_right_inj _).2 hprefix
      · rw [List.take_succ_cons, List.flatMap_cons, hrequests]

/-- **Each command is answered once and in order.** Of commands that can be sent, with whatever
generator, those up to the first one to end have one response each. A sink that takes them all gets
their frames one after the other. Then serving ends as it is told to, or with its input, the
requests of these commands were brought to the generator in order, and what follows them is unread.
A sink that fails at one of them gets a part of these frames, those before the failing one among
them. Then serving ends with an error of the connection, after the command whose response could not
be written. -/
theorem serve_answers (generator : Generator) (sink : Sink)
    (h : ∀ command ∈ commands, Message.IsSendable command)
    (hafter : .shutdown ∈ commands ∨ after.length < 4) :
    let served := serve generator (commands.flatMap frame ++ after) sink
    ∃ responses : List Response,
      List.Forall₂ (Answers generator) (answered commands) responses ∧
      ((sink.WorksFor responses.length ∧
        served.ending = (if .shutdown ∈ commands then .told else .inputEnded) ∧
        served.written = responses.flatMap frame ∧
        served.requests = (answered commands).flatMap Command.requests ∧
        served.unread = (commands.drop responses.length).flatMap frame ++ after) ∨
      ∃ n < responses.length, sink.FailsAt n ∧
        (∃ broken reason, served.ending = .broken broken ∧
          broken.toError = .connection reason) ∧
        (responses.take n).flatMap frame <+: served.written ∧
        served.written <+: responses.flatMap frame ∧
        served.requests = ((answered commands).take (n + 1)).flatMap Command.requests ∧
        served.unread = (commands.drop (n + 1)).flatMap frame ++ after) := by
  intro served
  refine ⟨(answered commands).map (respond generator), ?_, ?_⟩
  · rw [List.forall₂_map_right_iff, List.forall₂_same]
    exact fun command _ => answers_respond generator command
  · rw [List.length_map]
    rcases sink.worksFor_or_failsAt (answered commands).length with hworks | ⟨n, hn, hfails⟩
    · have hserve : served = _ := serve_of_worksFor h hafter hworks
      rw [hserve, List.flatMap_map]
      exact .inl ⟨hworks, rfl, rfl, rfl, rfl⟩
    · exact .inr ⟨n, hn, hfails, serve_of_failsAt h hn hfails⟩

end

/-- A generator that crashes, and a command behind the one to end. -/
theorem serve_answers_crashing :
    let generator : Generator :=
      { version := .current, generate := fun _ => .error (.crash (some "bug")) }
    let request : Request :=
      { feature := "Feature: Buy", sourceFile := "buy.feature", folderPath := [], platform := {} }
    let commands : List Command := [.ping, .generate request, .shutdown, .handshake]
    (∀ command ∈ commands, Message.IsSendable command) ∧ .shutdown ∈ commands ∧
    (serve generator (commands.flatMap frame ++ []) {}).written =
      ([.pong, .crashed "bug", .shuttingDown] : List Response).flatMap frame := by
  intro generator request commands
  have hsize : ∀ command ∈ commands, (Message.encode command).length ≤ bodyLimit := by decide
  have hsendable : ∀ command ∈ commands, Message.IsSendable command := fun command hcommand =>
    ⟨hsize command hcommand, Command.decode?_encode command⟩
  have hshutdown : Command.shutdown ∈ commands := by decide
  have hafter : Command.shutdown ∈ commands ∨ ([] : Bytes).length < 4 := .inl hshutdown
  refine ⟨hsendable, hshutdown, ?_⟩
  obtain ⟨responses, hanswers, ⟨-, -, hwritten, -⟩ | ⟨n, -, ⟨-, fault, hfault⟩, -⟩⟩ :=
    serve_answers generator {} hsendable hafter
  · rw [hwritten]
    have hanswered : answered commands = [.ping, .generate request, .shutdown] := by decide
    rw [hanswered] at hanswers
    obtain ⟨_, _, hfirst, hrest, rfl⟩ := List.forall₂_cons_left_iff.1 hanswers
    obtain ⟨_, _, hsecond, hlast, rfl⟩ := List.forall₂_cons_left_iff.1 hrest
    obtain ⟨_, _, hthird, hnone, rfl⟩ := List.forall₂_cons_left_iff.1 hlast
    cases hfirst
    cases hthird
    cases hnone
    cases hsecond with
    | generated hcode => cases hcode
    | failed herror => cases herror
    | crashed hcrash =>
      cases hcrash
      rfl
  · cases hfault

end Worker

end FeatureFixtures
