import FeatureFixtures.Proofs.Emission
import FeatureFixtures.Proofs.Serving
import FeatureFixtures.Proofs.VersionText
import FeatureFixtures.Worker.Connection
/-!
# Sessions with a worker

In a session the program makes sure that the worker is there, asks for its version, lets it generate
any number of feature files, and tells it to end. A worker that serves the built-in generator
answers like the generator itself, request by request, however messages are written. Every command
is answered before the next one is sent, so neither side ever has bytes of two messages before it.
-/

namespace FeatureFixtures

namespace Worker

/-- The commands of a session. -/
def sessionCommands (requests : List Request) : List Command :=
  .ping :: .handshake :: (requests.map .generate ++ [.shutdown])

/-- What a session brings: the version of the worker, an answer to every request, and the response
to the command to end. -/
structure Session where
  version : Except Error Version
  codes : List (Except Error Text)
  farewell : Except Error Response

/-- Whether a worker's answer is what the generator makes of the request. Of an error only the line
has to be the same, and a crash has no answer. -/
def Reports : Outcome Text → Except Error Text → Prop
  | .ok code, answer => answer = .ok code
  | .error (.error error), answer => ∃ reported, answer = .error reported ∧
      reported.line? = error.line?
  | .error (.crash _), _ => False

/-- An outcome that is no crash is reported through a response. -/
theorem reports_ofOutcome {outcome : Outcome Text}
    (h : ∀ message, outcome ≠ .error (.crash message)) :
    Reports outcome (Connection.generatedCode (.ofOutcome outcome)) := by
  rcases outcome with (error | message) | code
  · unfold Response.ofOutcome
    cases hline : error.line? with
    | none => exact ⟨.worker error.message, by simp only [hline]; rfl, hline.symm⟩
    | some line => exact ⟨.parse (some line) error.message, by simp only [hline]; rfl, hline.symm⟩
  · exact absurd rfl (h message)
  · rfl

section

variable [Message Command] [Message Response] {ω : Type}

namespace Connection

/-- Asks for the code for one feature file after the other. -/
def generateAll (connection : Connection ω) :
    List Request → List (Except Error Text) × Connection ω
  | [] => ([], connection)
  | request :: rest =>
    let (code, connection) := connection.generate request
    let (codes, connection) := connection.generateAll rest
    (code :: codes, connection)

/-- A whole session. -/
def session (connection : Connection ω) (requests : List Request) : Session × Connection ω :=
  let (version, connection) := connection.handshake
  let (codes, connection) := connection.generateAll requests
  let (farewell, connection) := connection.ask .shutdown
  ({ version, codes, farewell }, connection)

end Connection

/-! ### Serving -/

theorem serve_nil (generator : Generator) (sink : Sink) :
    serve generator [] sink =
      { ending := .inputEnded, written := [], requests := [], unread := [] } :=
  serve_of_length_lt (by decide)

/-- Serving answers the first command and goes on with what follows it, unless it is told to end. -/
theorem serve_frame_append (generator : Generator) {command : Command}
    (h : Message.IsSendable command) (rest : Bytes) :
    serve generator (frame command ++ rest) {} =
      if command = .shutdown then
        { ending := .told, written := frame (respond generator command), requests := [],
          unread := rest }
      else
        { serve generator rest {} with
          written := frame (respond generator command) ++ (serve generator rest {}).written
          requests := command.requests ++ (serve generator rest {}).requests } := by
  rw [serve_frame_append_eq generator {} h, Sink.write_of_none _ rfl]
  by_cases hshutdown : command = .shutdown
  · subst hshutdown
    rfl
  · simp only [if_neg hshutdown]
    rfl

theorem serve_session (generator : Generator) {requests : List Request}
    (h : ∀ command ∈ sessionCommands requests, Message.IsSendable command) :
    serve generator ((sessionCommands requests).flatMap frame) {} =
      { ending := .told
        written := (sessionCommands requests).flatMap fun command =>
          frame (respond generator command)
        requests
        unread := [] } := by
  have hend : ∀ requests, (∀ command ∈ requests.map Command.generate ++ [.shutdown],
      Message.IsSendable command) →
      serve generator ((requests.map Command.generate ++ [.shutdown]).flatMap frame) {} =
        { ending := .told
          written := (requests.map Command.generate ++ [.shutdown]).flatMap fun command =>
            frame (respond generator command)
          requests
          unread := [] } := by
    intro requests
    induction requests with
    | nil =>
      intro h
      have hshutdown := serve_frame_append generator (h .shutdown (by simp)) []
      simpa using hshutdown
    | cons request rest ih =>
      intro h
      rw [List.map_cons, List.cons_append, List.forall_mem_cons] at h
      rw [List.map_cons, List.cons_append, List.flatMap_cons, List.flatMap_cons,
        serve_frame_append generator h.1, if_neg (by simp), ih h.2]
      rfl
  rw [sessionCommands, List.forall_mem_cons, List.forall_mem_cons] at h
  rw [sessionCommands, List.flatMap_cons, List.flatMap_cons, serve_frame_append generator h.1,
    if_neg (by simp), serve_frame_append generator h.2.1, if_neg (by simp), hend requests h.2.2]
  rfl

/-! ### Asking -/

namespace Connection

variable {connection after : Connection ω} {command : Command} {response : Response}

omit [Message Response] in
/-- A command is sent exactly if it is accepted without a fault. -/
theorem send_eq_ok_iff : connection.send command = (.ok (), after) ↔
    connection.sink.faults.head?.join = none ∧
      after = { connection with
        worker := (connection.feed connection.worker (frame command)).2
        sink := connection.sink.next
        unread := connection.unread ++
          (connection.feed connection.worker (frame command)).1 } := by
  unfold send
  cases hfault : connection.sink.faults.head?.join with
  | none =>
    rw [Sink.write_of_none command hfault]
    simp [eq_comm]
  | some fault =>
    have hfails : connection.sink.FailsAt 0 :=
      ⟨connection.sink.worksFor_zero, fault, by rwa [← List.head?_eq_getElem?]⟩
    obtain ⟨accepted, broken, -, hwrite, -⟩ := Sink.exists_write_of_failsAt_zero command hfails
    rw [hwrite]
    simp

omit [Message Command] in
theorem receive_eq_ok_iff : connection.receive = (.ok response, after) ↔
    ∃ unread, after = { connection with unread } ∧
      readMessage connection.unread = .ok (response, unread) := by
  unfold receive
  split
  · next fault hread => simp [hread]
  · next found unread hread =>
    rw [hread]
    constructor
    · intro h
      cases h
      exact ⟨unread, rfl, rfl⟩
    · rintro ⟨_, rfl, h⟩
      cases h
      rfl

/-- A command is answered exactly if it is sent and a response is read then. -/
theorem ask_eq_ok_iff : connection.ask command = (.ok response, after) ↔
    connection.sink.faults.head?.join = none ∧
      ∃ unread,
        after = { connection with
          worker := (connection.feed connection.worker (frame command)).2
          sink := connection.sink.next, unread } ∧
        readMessage (connection.unread ++
          (connection.feed connection.worker (frame command)).1) = .ok (response, unread) := by
  unfold ask
  rcases hsend : connection.send command with ⟨fault | ⟨⟩, sent⟩
  · refine iff_of_false (by simp) ?_
    rintro ⟨haccepted, -⟩
    cases hsend.symm.trans (send_eq_ok_iff.2 ⟨haccepted, rfl⟩)
  · obtain ⟨haccepted, rfl⟩ := send_eq_ok_iff.1 hsend
    rw [and_iff_right haccepted, Prod.ext_iff]
    simp only [mapError_eq_ok_iff]
    exact Prod.ext_iff.symm.trans receive_eq_ok_iff

end Connection

/-- A server without unread input answers a command, and serves on unless it is told to end. -/
theorem feed_frame (generator : Generator) {command : Command} (h : Message.IsSendable command) :
    ({ generator } : Server).feed (frame command) =
      (frame (respond generator command),
        { generator, isServing := decide (command ≠ .shutdown) }) := by
  have hserve := serve_frame_append generator h []
  rw [List.append_nil, serve_nil] at hserve
  by_cases hshutdown : command = .shutdown
  · subst hshutdown
    simp [Server.feed, hserve, Ending.goesOn]
  · simp [Server.feed, hserve, hshutdown, Ending.goesOn]

theorem ask_connection (generator : Generator) {command : Command}
    (hcommand : Message.IsSendable command)
    (hresponse : Message.IsSendable (respond generator command)) :
    ({ generator } : Server).connection.ask command =
      (.ok (respond generator command),
        ({ generator, isServing := decide (command ≠ .shutdown) } : Server).connection) := by
  have hread := readMessage_frame_append hresponse []
  rw [List.append_nil] at hread
  refine Connection.ask_eq_ok_iff.2 ⟨rfl, [], ?_, ?_⟩
  · simp only [Server.connection, feed_frame generator hcommand]
    rfl
  · simp only [Server.connection, feed_frame generator hcommand, List.nil_append, hread]

theorem handshake_connection (generator : Generator) (hversion : generator.version.IsWellFormed)
    (h : ∀ command ∈ [Command.ping, .handshake],
      Message.IsSendable command ∧ Message.IsSendable (respond generator command)) :
    ({ generator } : Server).connection.handshake =
      (.ok generator.version, ({ generator } : Server).connection) := by
  have hping := ask_connection generator (h .ping (by simp)).1 (h .ping (by simp)).2
  have hshake := ask_connection generator (h .handshake (by simp)).1 (h .handshake (by simp)).2
  simp only [Connection.handshake, hping, respond, ne_eq, reduceCtorEq, not_false_eq_true,
    decide_true, hshake, Connection.reportedVersion, Version.parse_toText hversion,
    Except.mapError]

theorem generateAll_connection (generator : Generator) {requests : List Request}
    (h : ∀ request ∈ requests, Message.IsSendable (Command.generate request) ∧
      Message.IsSendable (respond generator (.generate request))) :
    ({ generator } : Server).connection.generateAll requests =
      (requests.map fun request =>
          Connection.generatedCode (respond generator (.generate request)),
        ({ generator } : Server).connection) := by
  induction requests with
  | nil => rfl
  | cons request rest ih =>
    rw [List.forall_mem_cons] at h
    have hask := ask_connection generator h.1.1 h.1.2
    simp only [ne_eq, reduceCtorEq, not_false_eq_true, decide_true] at hask
    simp only [Connection.generateAll, Connection.generate, hask, ih h.2, List.map_cons]

/-! ### A session -/

/-- **A worker generates like the built-in generator.** In a session of commands and responses that
can be sent, the worker reports the built-in version, answers every request in order as the
generator itself does, and confirms that it ends. Serving all that was sent at once writes the same
responses, one for each command, brings the requests to the generator in order, and ends without an
error. -/
theorem session_reports (requests : List Request)
    (hsendable : ∀ command ∈ sessionCommands requests, Message.IsSendable command ∧
      Message.IsSendable (respond .builtin command)) :
    let result := (Server.connection { generator := .builtin }).session requests
    let served := serve .builtin ((sessionCommands requests).flatMap frame) {}
    result.1.version = .ok .current ∧
    List.Forall₂ (fun request code => Reports (Generator.generateCode request) code) requests
      result.1.codes ∧
    result.1.farewell = .ok .shuttingDown ∧
    result.2.unread = [] ∧ result.2.worker.unread = [] ∧ result.2.worker.isServing = false ∧
    served.ending.result = .ok () ∧
    served.written = (sessionCommands requests).flatMap (fun command =>
      frame (respond .builtin command)) ∧
    served.requests = requests ∧ served.unread = [] := by
  have hgenerate : ∀ request ∈ requests, Message.IsSendable (Command.generate request) ∧
      Message.IsSendable (respond .builtin (.generate request)) := fun request hrequest =>
    hsendable _ (by simp [sessionCommands, hrequest])
  have hshake := handshake_connection .builtin Version.isWellFormed_current
    fun command hcommand => hsendable command (by
      simp only [List.mem_cons, List.not_mem_nil, or_false] at hcommand
      rcases hcommand with rfl | rfl <;> simp [sessionCommands])
  have hcodes := generateAll_connection .builtin hgenerate
  have hshutdown := hsendable .shutdown (by simp [sessionCommands])
  have hfarewell := ask_connection .builtin hshutdown.1 hshutdown.2
  have hserve := serve_session .builtin fun command hcommand => (hsendable command hcommand).1
  have hsession : (Server.connection { generator := .builtin }).session requests =
      ({ version := .ok .current
         codes := requests.map fun request =>
           Connection.generatedCode (respond .builtin (.generate request))
         farewell := .ok .shuttingDown },
        Server.connection { generator := .builtin, isServing := false }) := by
    simp only [Connection.session, hshake, hcodes, hfarewell]
    rfl
  intro result served
  simp only [result, served, hsession, hserve]
  refine ⟨trivial, ?_, trivial, rfl, rfl, rfl, rfl, trivial, trivial, trivial⟩
  rw [List.forall₂_map_right_iff, List.forall₂_same]
  exact fun request _ => reports_ofOutcome (Generator.generateCode_ne_crash request)

end

/-- A request that is answered with code and one that is refused. -/
theorem session_reports_shop :
    let requests : List Request :=
      [{ feature := "Feature: Buy", sourceFile := "buy.feature", folderPath := [], platform := {} },
        { feature := "Sell", sourceFile := "sell.feature", folderPath := [], platform := {} }]
    (∀ command ∈ sessionCommands requests, Message.IsSendable command ∧
      Message.IsSendable (respond .builtin command)) ∧
    List.Forall₂ (fun request code => Reports (Generator.generateCode request) code) requests
      ((Server.connection { generator := .builtin }).session requests).1.codes := by
  intro requests
  have hsize : ∀ command ∈ sessionCommands requests,
      (Message.encode command).length ≤ bodyLimit ∧
        (Message.encode (respond .builtin command)).length ≤ bodyLimit := by
    decide +kernel
  have hsendable : ∀ command ∈ sessionCommands requests, Message.IsSendable command ∧
      Message.IsSendable (respond .builtin command) := fun command hcommand =>
    ⟨⟨(hsize command hcommand).1, Command.decode?_encode command⟩,
      ⟨(hsize command hcommand).2, Response.decode?_encode _⟩⟩
  exact ⟨hsendable, (session_reports requests hsendable).2.1⟩

end Worker

end FeatureFixtures
