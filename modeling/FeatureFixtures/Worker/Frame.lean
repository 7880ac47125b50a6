import FeatureFixtures.Worker.Message

/-!
# Frames

A message goes over a stream of bytes as a frame: four bytes that give the length of its body, the
lowest first, and then the body, which holds the bytes of the message. Bodies above a limit are
refused by the reader. A stream can break at three stages while a frame is written, and at two while
it is read.
-/

namespace FeatureFixtures

namespace Worker

/-- A number below 2 ^ 32 as four bytes, the lowest first. -/
def lengthBytes (n : Nat) : Bytes :=
  [n, n >>> 8, n >>> 16, n >>> 24].map (·.toUInt8)

/-- The number that four bytes stand for, the lowest first. -/
def lengthOf (bytes : Bytes) : Nat :=
  bytes.foldr (fun byte value => byte.toNat + 256 * value) 0

/-- The longest body that is read. -/
def bodyLimit : Nat := 64 * 1024 * 1024

/-- Why a stream of frames is broken. -/
inductive StreamFault where
  /-- The stream ends within the length of a frame, or before it. -/
  | lengthCut
  /-- The stream ends within the body of a frame. -/
  | bodyCut
  | tooLarge (length : Nat)
  /-- The body is no message. -/
  | undecodable
  | lengthRefused (fault : FileFault)
  | bodyRefused (fault : FileFault)
  | flushRefused (fault : FileFault)
deriving DecidableEq, Repr, Inhabited

/-- The wording of a read that ends early. -/
def shortRead : Text := "failed to fill whole buffer"

/-- A broken stream as an error. -/
def StreamFault.toError : StreamFault → Error
  | lengthCut => .connection ("Failed to read IPC message length: " ++ shortRead)
  | bodyCut => .connection ("Failed to read IPC message body: " ++ shortRead)
  | tooLarge length => .connection ("IPC message too large: " ++ Text.ofNat length ++ " bytes")
  | undecodable => .encoding "Failed to decode IPC message"
  | lengthRefused fault => .connection ("Failed to write IPC message length: " ++ fault.message)
  | bodyRefused fault => .connection ("Failed to write IPC message body: " ++ fault.message)
  | flushRefused fault => .connection ("Failed to flush IPC stream: " ++ fault.message)

/-- The frame of a message. -/
def frame {μ : Type} [Message μ] (message : μ) : Bytes :=
  lengthBytes (Message.encode message).length ++ Message.encode message

/-- Reads the body of the first frame, and gives what follows it. -/
def readBody (input : Bytes) : Except StreamFault (Bytes × Bytes) :=
  if (input.take 4).length < 4 then .error .lengthCut
  else
    let length := lengthOf (input.take 4)
    let rest := input.drop 4
    if bodyLimit < length then .error (.tooLarge length)
    else if (rest.take length).length < length then .error .bodyCut
    else .ok (rest.take length, rest.drop length)

/-- Reads the first message, and gives what follows its frame. -/
def readMessage {μ : Type} [Message μ] (input : Bytes) : Except StreamFault (μ × Bytes) :=
  match readBody input with
  | .error fault => .error fault
  | .ok (body, rest) =>
    match Message.decode? body with
    | some message => .ok (message, rest)
    | none => .error .undecodable

theorem readBody_length_lt {input body rest : Bytes} (h : readBody input = .ok (body, rest)) :
    rest.length < input.length := by
  unfold readBody at h
  simp only at h
  split at h
  · simp at h
  · rename_i hshort
    split at h
    · simp at h
    · split at h
      · simp at h
      · simp only [Except.ok.injEq, Prod.mk.injEq] at h
        rw [← h.2]
        simp only [List.length_take, List.length_drop] at hshort ⊢
        omega

theorem readMessage_length_lt {μ : Type} [Message μ] {input rest : Bytes} {message : μ}
    (h : readMessage input = .ok (message, rest)) : rest.length < input.length := by
  unfold readMessage at h
  split at h
  · simp at h
  · rename_i hbody
    split at h
    · simp only [Except.ok.injEq, Prod.mk.injEq] at h
      exact h.2 ▸ readBody_length_lt hbody
    · simp at h

/-- A stage of writing a frame. -/
inductive Stage where
  | length
  | body
  | flush
deriving DecidableEq, Repr, Inhabited

/-- A fault at some stage of a frame. -/
structure WriteFault where
  stage : Stage
  /-- How many bytes of that stage are accepted before the fault. -/
  accepted : Nat := 0
  fault : FileFault
deriving DecidableEq, Repr, Inhabited

/-- Where frames are written: the faults to come, one place for each frame. No faults are left when
the list is empty. -/
structure Sink where
  faults : List (Option WriteFault) := []
deriving DecidableEq, Repr, Inhabited

namespace Sink

/-- The sink after one more frame. -/
def next (sink : Sink) : Sink :=
  { faults := sink.faults.tail }

/-- Writes the frame of a body: gives the bytes that are accepted, and tells how it ended. -/
def writeBody (sink : Sink) (body : Bytes) : Bytes × Except StreamFault Unit :=
  let length := lengthBytes body.length
  match sink.faults.head?.join with
  | none => (length ++ body, .ok ())
  | some { stage := .length, accepted, fault } =>
    (length.take accepted, .error (.lengthRefused fault))
  | some { stage := .body, accepted, fault } =>
    (length ++ body.take accepted, .error (.bodyRefused fault))
  | some { stage := .flush, fault, .. } => (length ++ body, .error (.flushRefused fault))

/-- Writes a message. -/
def write {μ : Type} [Message μ] (sink : Sink) (message : μ) : Bytes × Except StreamFault Unit :=
  sink.writeBody (Message.encode message)

end Sink

end Worker

end FeatureFixtures
