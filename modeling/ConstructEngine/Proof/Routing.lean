import ConstructEngine.Proof.Envelope
import ConstructEngine.Proof.Reassembly
import ConstructEngine.Proof.Topics

namespace ConstructEngine

open Interaction Program Machine

variable {Core : Type}

/-- An envelope without a sender names the empty one. -/
def Envelope.senderId (envelope : Envelope) : String := (envelope.sender.map UserId.userId).getD ""

/-- The engine makes this message of an envelope. -/
def Envelope.message (envelope : Envelope) (messageId : String) : IncomingMessage :=
  ⟨envelope.senderId, envelope.encryptedPayload, messageId, envelope.conversationId,
    envelope.timestamp⟩

variable (Core) in
/-- An accepted payload is not empty and has a message number. -/
def numberOf [ConstructCore Core] (wirePayload : Bytes) : Option Nat :=
  if wirePayload.isEmpty then none
  else (ConstructCore.unpack Core wirePayload).toOption.map WirePayload.messageNumber

variable (Core) in
/-- An accepted envelope names its sender and has an accepted payload. -/
def Envelope.accepted [ConstructCore Core] (envelope : Envelope) : Option Nat :=
  if envelope.senderId.isEmpty then none else numberOf Core envelope.encryptedPayload

section
variable [Prost]

/-- This is the response that a frame carries. -/
def responseIn (frame : Bytes) : Option MessageStreamResponse :=
  match decodeGrpcFrame frame with
  | .error _ => none
  | .ok (msg, _) => (Prost.decode .messageStreamResponse msg).toOption

/-- This is the stream cursor that a frame carries. -/
def cursorIn (frame : Bytes) : Option String := (responseIn frame).bind fun resp => resp.streamCursor

variable (Core) in
/-- This is the accepted envelope of a frame with its message number. -/
def acceptedIn [ConstructCore Core] (frame : Bytes) : Option (Envelope × Nat) :=
  match responseIn frame with
  | some ⟨some (.message envelope), _⟩ => (envelope.accepted Core).map fun number => (envelope, number)
  | _ => none

variable [ConstructCore Core]

/-- The message number decides which handler receives the message. -/
def receiver (number : Nat) (message : IncomingMessage) : EngineM Core Unit :=
  if number = 0 then handleSessionInitResponder message else handleDecryptMessage message

/-- An accepted envelope goes to the receiver that its number names. -/
theorem handleIncomingEnvelope_accepted {envelope : Envelope} {number : Nat}
    (accepted : envelope.accepted Core = some number) :
    (handleIncomingEnvelope envelope : EngineM Core Unit) =
      messageIdOf envelope.messageIdType >>= fun id => receiver number (envelope.message id) := by
  unfold Envelope.accepted numberOf at accepted
  unfold handleIncomingEnvelope
  change (if envelope.senderId.isEmpty then _ else _) = _
  split at accepted
  · cases accepted
  next named =>
  split at accepted
  · cases accepted
  next filled =>
  obtain ⟨decoded, unpacked, rfl⟩ := Option.map_eq_some_iff.mp accepted
  rw [if_neg named, if_neg filled]
  congr 1
  funext id
  cases read : ConstructCore.unpack Core envelope.encryptedPayload with
  | error message =>
      rw [read] at unpacked
      cases unpacked
  | ok other =>
      rw [read] at unpacked
      cases unpacked
      rfl

omit [Prost] in
/-- An envelope that is not accepted costs at most a fresh identifier. -/
theorem handleIncomingEnvelope_dropped [Prost] {topics : Topic → Prop} {envelope : Envelope}
    (dropped : envelope.accepted Core = none) :
    Concerns topics (handleIncomingEnvelope envelope : EngineM Core Unit) := by
  unfold Envelope.accepted numberOf at dropped
  unfold handleIncomingEnvelope
  change Concerns topics (if envelope.senderId.isEmpty then _ else _)
  split
  · exact uses_pure ()
  next named =>
  rw [if_neg named] at dropped
  dsimp only
  split
  · exact uses_pure ()
  next filled =>
  rw [if_neg filled] at dropped
  refine uses_bind (built_messageIdOf _ : Built topics (anyRequest topics) _).concerns fun id => ?_
  cases read : ConstructCore.unpack Core envelope.encryptedPayload with
  | error message => exact uses_pure ()
  | ok decoded =>
      rw [read] at dropped
      cases dropped

/-- Its cursor is stored before the message is received. -/
theorem handleIncomingFrame_accepted {frame : Bytes} {envelope : Envelope} {number : Nat}
    (accepted : acceptedIn Core frame = some (envelope, number)) :
    (handleIncomingFrame frame : EngineM Core Unit) = (do
      (cursorIn frame).forM fun cursor => perform (.paramsCursor cursor)
      let id ← messageIdOf envelope.messageIdType
      receiver number (envelope.message id)) := by
  unfold acceptedIn at accepted
  split at accepted
  next response cursor carried =>
    obtain ⟨known, routed, same⟩ := Option.map_eq_some_iff.mp accepted
    cases same
    unfold cursorIn
    rw [carried]
    unfold responseIn at carried
    unfold handleIncomingFrame
    cases decoded : decodeGrpcFrame frame with
    | error error =>
        rw [decoded] at carried
        cases carried
    | ok parts =>
        obtain ⟨msg, rest⟩ := parts
        rw [decoded] at carried
        dsimp only at carried ⊢
        cases read : Prost.decode .messageStreamResponse msg with
        | error message =>
            rw [read] at carried
            cases carried
        | ok resp =>
            rw [read] at carried
            cases carried
            rw [← handleIncomingEnvelope_accepted routed]
            rfl
  · cases accepted

omit [ConstructCore Core] in
/-- To store a cursor touches the cursor alone. -/
theorem concerns_cursor (frame : Bytes) : Concerns (· = Topic.cursor)
    ((cursorIn frame).forM fun cursor => perform (.paramsCursor cursor) : EngineM Core Unit) := by
  cases cursorIn frame with
  | none => exact uses_pure _
  | some cursor => exact concerns_own rfl

/-- The payload of an accepted frame has the number. -/
theorem numberOf_accepted {frame : Bytes} {envelope : Envelope} {number : Nat}
    (accepted : acceptedIn Core frame = some (envelope, number)) :
    numberOf Core envelope.encryptedPayload = some number := by
  unfold acceptedIn at accepted
  split at accepted
  next carried =>
    obtain ⟨known, routed, same⟩ := Option.map_eq_some_iff.mp accepted
    cases same
    unfold Envelope.accepted at routed
    split at routed
    · cases routed
    · exact routed
  · cases accepted

/-- The envelope of an accepted frame names its sender. -/
theorem senderId_accepted {frame : Bytes} {envelope : Envelope} {number : Nat}
    (accepted : acceptedIn Core frame = some (envelope, number)) : envelope.senderId ≠ "" := by
  unfold acceptedIn at accepted
  split at accepted
  next carried =>
    obtain ⟨known, routed, same⟩ := Option.map_eq_some_iff.mp accepted
    cases same
    rintro nameless
    rw [Envelope.accepted, if_pos ((isEmpty_iff_empty _).mpr nameless)] at routed
    cases routed
  · cases accepted

/-- A frame without an accepted envelope moves the cursor at most and reports receipts. -/
theorem handleIncomingFrame_dropped {frame : Bytes} (dropped : acceptedIn Core frame = none) :
    Concerns (· = Topic.cursor) (handleIncomingFrame frame : EngineM Core Unit) := by
  unfold acceptedIn responseIn at dropped
  unfold handleIncomingFrame
  cases decoded : decodeGrpcFrame frame with
  | error error => exact uses_pure ()
  | ok parts =>
  obtain ⟨msg, rest⟩ := parts
  rw [decoded] at dropped
  dsimp only at dropped ⊢
  cases read : Prost.decode .messageStreamResponse msg with
  | error error => exact uses_pure ()
  | ok resp =>
  rw [read] at dropped
  refine uses_bind ?_ fun _ => ?_
  · cases resp.streamCursor with
    | none => exact uses_pure _
    | some cursor => exact concerns_own rfl
  obtain ⟨response, cursor⟩ := resp
  split
  next envelope received =>
    cases received
    exact handleIncomingEnvelope_dropped (Option.map_eq_none_iff.mp dropped)
  next receipt received =>
    induction receipt.messageIds with
    | nil => exact uses_pure _
    | cons id rest ih => exact uses_bind (concerns_report rfl) fun _ => ih
  · exact uses_pure ()

end

/-- A retry carries this envelope. -/
def retryEnvelope (message : IncomingMessage) : Envelope where
  sender := some ⟨message.senderId⟩
  encryptedPayload := message.wirePayload
  messageIdType := some (.messageId message.messageId)
  conversationId := message.conversationId
  timestamp := message.timestamp

section
variable [Prost]

/-- A retry repeats the envelope in a response of its own. -/
def retryBody (message : IncomingMessage) : Bytes :=
  Prost.encodeToVec .messageStreamResponse ⟨some (.message (retryEnvelope message)), none⟩

/-- The frame of a retry holds this body. -/
theorem retryFrame_body (message : IncomingMessage) :
    retryFrame message = encodeGrpcFrame (retryBody message) := rfl

/-- The length of the retry can be stated in the header of a frame. -/
def Fits (message : IncomingMessage) : Prop := (retryBody message).length < 2 ^ 32

/-- What is decoded from a frame is its response. -/
theorem responseIn_decoded {frame msg rest : Bytes} (decoded : decodeGrpcFrame frame = .ok (msg, rest)) :
    responseIn frame = (Prost.decode .messageStreamResponse msg).toOption := by
  unfold responseIn
  rw [decoded]

/-- A frame with an accepted envelope is accepted. -/
theorem acceptedIn_message [ConstructCore Core] {frame : Bytes} {envelope : Envelope}
    {cursor : Option String} (carried : responseIn frame = some ⟨some (.message envelope), cursor⟩) :
    acceptedIn Core frame = (envelope.accepted Core).map fun number => (envelope, number) := by
  unfold acceptedIn
  rw [carried]

variable (codec : ∀ response : MessageStreamResponse, RoundTrips .messageStreamResponse response)
include codec

/-- A retry is read back. -/
theorem responseIn_retry {message : IncomingMessage} (fits : Fits message) :
    responseIn (retryFrame message) = some ⟨some (.message (retryEnvelope message)), none⟩ := by
  have decoded := decode_encode fits []
  rw [List.append_nil, ← retryFrame_body] at decoded
  rw [responseIn_decoded decoded, retryBody, codec ⟨some (.message (retryEnvelope message)), none⟩]
  rfl

/-- A retry brings no cursor. -/
theorem cursorIn_retry {message : IncomingMessage} (fits : Fits message) :
    cursorIn (retryFrame message) = none := by
  rw [cursorIn, responseIn_retry codec fits]
  rfl

variable [ConstructCore Core]

/-- A retry is accepted as its message was. -/
theorem acceptedIn_retry {message : IncomingMessage} (fits : Fits message) :
    acceptedIn Core (retryFrame message) = ((retryEnvelope message).accepted Core).map
      fun number => (retryEnvelope message, number) :=
  acceptedIn_message (responseIn_retry codec fits)

/-- The loop handles a retry as it handled the original message. -/
theorem handleIncomingFrame_retry {message : IncomingMessage} (fits : Fits message)
    (named : message.senderId ≠ "") (first : numberOf Core message.wirePayload = some 0) :
    (handleIncomingFrame (retryFrame message) : EngineM Core Unit) =
      handleSessionInitResponder message := by
  have known : (retryEnvelope message).accepted Core = some 0 := by
    have named : ¬ (retryEnvelope message).senderId.isEmpty = true := fun empty =>
      named ((isEmpty_iff_empty _).mp empty)
    rw [Envelope.accepted, if_neg named]
    exact first
  have accepted : acceptedIn Core (retryFrame message) = some (retryEnvelope message, 0) := by
    rw [acceptedIn_retry codec fits, known]
    rfl
  rw [handleIncomingFrame_accepted accepted, cursorIn_retry codec fits]
  rfl

end

end ConstructEngine
