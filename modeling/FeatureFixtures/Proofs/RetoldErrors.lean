import FeatureFixtures.Proofs.Sessions
/-!
# Errors that a worker retells

A worker sends the whole text of an error, with its kind and its line, and the line besides. The
program makes an error of its own from both, whose text begins with a kind and that line once more.
So nothing of the text is lost and the line stays the same, but no error reads the same through a
worker: one with a line begins twice with it, and one without a line is an error of the worker.
-/

namespace FeatureFixtures

namespace Error

/-- What the text of an error begins with when it was made from a response with a line, or from one
without. -/
def retellingMark : Option Nat → Text
  | some line => "parse error at line " ++ Text.ofNat line ++ ": "
  | none => "worker error: "

/-- The error that the program makes from the response of a worker to an error. -/
def retold (error : Error) : Error :=
  match error.line? with
  | some line => .parse (some line) error.message
  | none => .worker error.message

theorem line?_retold (error : Error) : error.retold.line? = error.line? := by
  unfold retold
  cases hline : error.line? with
  | some line => rfl
  | none => rfl

theorem message_retold (error : Error) :
    error.retold.message = retellingMark error.line? ++ error.message := by
  unfold retold
  cases hline : error.line? with
  | some line => rfl
  | none => rfl

theorem retellingMark_ne_nil (line : Option Nat) : retellingMark line ≠ [] := by
  cases line with
  | some line => exact List.append_ne_nil_of_right_ne_nil _ (by decide)
  | none => decide

theorem message_retold_ne (error : Error) : error.retold.message ≠ error.message := by
  intro hsame
  rw [message_retold] at hsame
  exact retellingMark_ne_nil error.line? (List.append_left_eq_self.1 hsame)

/-- An error with a line begins with it before it is retold. -/
theorem exists_message_of_line {error : Error} {line : Nat} (h : error.line? = some line) :
    ∃ fault, error.message = retellingMark (some line) ++ fault := by
  cases error with
  | parse found fault =>
    obtain rfl : found = some line := h
    exact ⟨fault, rfl⟩
  | _ => cases h

end Error

namespace Worker

theorem generatedCode_ofOutcome_error (error : Error) :
    Connection.generatedCode (.ofOutcome (.error (.error error))) = .error error.retold := by
  unfold Response.ofOutcome Error.retold
  cases hline : error.line? with
  | some line => simp only [hline]; rfl
  | none => simp only [hline]; rfl

section

variable [Message Command] [Message Response] {generator : Generator} {earlier : List Request}
  {request : Request} {error : Error}

/-- Whatever was asked for before, a request is answered by the response to it alone. -/
theorem generate_connection (h : ∀ other ∈ request :: earlier,
      Message.IsSendable (Command.generate other) ∧
        Message.IsSendable (respond generator (.generate other))) :
    ((({ generator } : Server).connection.generateAll earlier).2.generate request).1 =
      Connection.generatedCode (respond generator (.generate request)) := by
  rw [List.forall_mem_cons] at h
  have hask := ask_connection generator h.1.1 h.1.2
  rw [generateAll_connection generator h.2]
  simp only [Connection.generate, hask]

theorem generate_connection_of_error (h : ∀ other ∈ request :: earlier,
      Message.IsSendable (Command.generate other) ∧
        Message.IsSendable (respond generator (.generate other)))
    (herror : generator.generate request = .error (.error error)) :
    ((({ generator } : Server).connection.generateAll earlier).2.generate request).1 =
      .error error.retold := by
  rw [generate_connection h, respond, herror, generatedCode_ofOutcome_error]

/-- **No error reads the same through a worker.** Of requests and responses that can be sent, take
one that the built-in generator rejects, whatever was asked for before. The worker that serves this
generator is found to reject it as well, with an error for the same line. The text of that error is
the text of the original one behind a mark of its own, so it is never the same, and an error with a
line begins twice with that line. -/
theorem message_of_rejected (h : ∀ other ∈ request :: earlier,
      Message.IsSendable (Command.generate other) ∧
        Message.IsSendable (respond .builtin (.generate other)))
    (hrejected : Generator.generateCode request = .error (.error error)) :
    let connection := ((Server.connection { generator := .builtin }).generateAll earlier).2
    ∃ reported, (connection.generate request).1 = .error reported ∧
      reported.line? = error.line? ∧
      reported.message = Error.retellingMark error.line? ++ error.message ∧
      reported.message ≠ error.message ∧
      ∀ line, error.line? = some line → ∃ fault,
        error.message = Error.retellingMark (some line) ++ fault ∧
        reported.message =
          Error.retellingMark (some line) ++ (Error.retellingMark (some line) ++ fault) := by
  intro connection
  refine ⟨error.retold, generate_connection_of_error h hrejected, error.line?_retold,
    error.message_retold, error.message_retold_ne, ?_⟩
  intro line hline
  obtain ⟨fault, hfault⟩ := Error.exists_message_of_line hline
  refine ⟨fault, hfault, ?_⟩
  rw [error.message_retold, hline, hfault]

end

/-- A feature without a title, after one that was answered with code. -/
theorem message_of_rejected_untitled :
    let buy : Request :=
      { feature := "Feature: Buy", sourceFile := "buy.feature", folderPath := [], platform := {} }
    let untitled : Request :=
      { feature := "Feature:", sourceFile := "sell.feature", folderPath := [], platform := {} }
    let error := Error.emission "feature has no title"
    let connection := ((Server.connection { generator := .builtin }).generateAll [buy]).2
    (∀ other ∈ [untitled, buy], Message.IsSendable (Command.generate other) ∧
      Message.IsSendable (respond .builtin (.generate other))) ∧
    Generator.generateCode untitled = .error (.error error) ∧
    ∃ reported, (connection.generate untitled).1 = .error reported ∧
      reported.message = "worker error: emit error: feature has no title".toList := by
  intro buy untitled error connection
  have hsize : ∀ other ∈ [untitled, buy],
      (Message.encode (Command.generate other)).length ≤ bodyLimit ∧
        (Message.encode (respond .builtin (.generate other))).length ≤ bodyLimit := by
    decide +kernel
  have hsendable : ∀ other ∈ [untitled, buy], Message.IsSendable (Command.generate other) ∧
      Message.IsSendable (respond .builtin (.generate other)) := fun other hother =>
    ⟨⟨(hsize other hother).1, Command.decode?_encode _⟩,
      ⟨(hsize other hother).2, Response.decode?_encode _⟩⟩
  have hrejected : Generator.generateCode untitled = .error (.error error) := by decide +kernel
  obtain ⟨reported, hreported, -, hmessage, -⟩ := message_of_rejected hsendable hrejected
  exact ⟨hsendable, hrejected, reported, hreported, hmessage⟩

/-- A file that is no feature is refused at its first line, and the worker tells that line twice. -/
theorem message_of_rejected_ne_of_line :
    let request : Request :=
      { feature := "nope", sourceFile := "nope.feature", folderPath := [], platform := {} }
    let error := Error.parse (some 1) "expected 'Feature:', found 'nope'"
    Generator.generateCode request = .error (.error error) ∧
    ∃ reported, ((Server.connection { generator := .builtin }).generate request).1 =
        .error reported ∧
      reported.message =
        "parse error at line 1: parse error at line 1: expected 'Feature:', found 'nope'".toList ∧
      reported.message ≠ error.message := by
  intro request error
  have hsendable : Message.IsSendable (Command.generate request) ∧
      Message.IsSendable (respond .builtin (.generate request)) :=
    ⟨⟨by decide, Command.decode?_encode _⟩, ⟨by decide +kernel, Response.decode?_encode _⟩⟩
  have hrejected : Generator.generateCode request = .error (.error error) := by decide +kernel
  have hreported := generate_connection_of_error (List.forall_mem_singleton.2 hsendable) hrejected
  exact ⟨hrejected, error.retold, hreported, by decide, error.message_retold_ne⟩

end Worker

end FeatureFixtures
