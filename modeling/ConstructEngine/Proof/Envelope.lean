import ConstructEngine.Interaction.Wire
import ConstructEngine.Proof.Rehearsal
import ConstructEngine.Proof.Trail

namespace ConstructEngine

open Interaction Program Machine

variable {Core : Type}

/-- The codec reads this message back. -/
def RoundTrips [Prost] {M : Type} (schema : Schema M) (message : M) : Prop :=
  Prost.decode schema (Prost.encodeToVec schema message) = .ok message

/-- The server passes an envelope on and adds the user who sent it. -/
def Envelope.deliveredFrom (envelope : Envelope) (userId : String) : Envelope :=
  { envelope with sender := some ⟨userId⟩ }

/-- The level decides whether the payload travels openly in the envelope. -/
def openPayload (wirePayload : Bytes) : AnonymityLevel → Bytes
  | .normal => wirePayload
  | .ghost => []

/-- This is what both levels have in common. -/
structure Envelope.Built (envelope : Envelope) (localId : String) (payload : Bytes) : Prop where
  payload : envelope.encryptedPayload = payload
  id : envelope.messageIdType = some (.messageId localId)

section
variable [Prost] [ConstructCore Core] {config : EngineConfig}

/-- The recipient takes this payload and this message id from the envelope, and one of its two
receive paths gets them. -/
def Recovers (Core : Type) [ConstructCore Core] (envelope : Envelope) (wirePayload : Bytes)
    (messageId : String) : Prop :=
  ∃ message : IncomingMessage, message.wirePayload = wirePayload ∧ message.messageId = messageId ∧
    ((handleIncomingEnvelope envelope : EngineM Core Unit) = handleSessionInitResponder message ∨
      (handleIncomingEnvelope envelope : EngineM Core Unit) = handleDecryptMessage message)

/-- Every frame of the program is a send request with a built envelope. -/
def envelopeGuard (Core : Type) [ConstructCore Core] (config : EngineConfig) (localId : String)
    (payload : Bytes) : (engineMachine Core config).Guard := fun op _ =>
  match op with
  | .sendFrame _ _ frame =>
      ∃ envelope : Envelope, envelope.Built localId payload ∧ frame = sendRequestFrame envelope localId
  | _ => True

/-- The envelope carries the payload in the open only when it is not sealed. -/
theorem buildEnvelope_built {contactId localId conversationId : String} {wirePayload : Bytes}
    {level : AnonymityLevel} {engine : Engine Core} :
    EngineSafe (Promise.any (engineMachine Core config))
      (envelopeGuard Core config localId (openPayload wirePayload level))
      (buildEnvelope contactId localId conversationId wirePayload level)
      (fun envelope _ => envelope.Built localId (openPayload wirePayload level)) engine := by
  cases level with
  | normal => exact Owned.safe_done ⟨rfl, rfl⟩
  | ghost =>
      refine uuid_bind (fun _ => trivial) fun first => uuid_bind (fun _ => trivial) fun second => ?_
      exact systemTime_bind (fun _ => trivial) fun timestamp => Owned.safe_done ⟨rfl, rfl⟩

/-- The frame that is sent carries this envelope. -/
theorem handleSendMessage_envelope {contactId localId conversationId : String}
    {plaintext wirePayload : Bytes} {level : AnonymityLevel} {engine : Engine Core}
    {core after : Core} (stored : engine.core = some core)
    (produced : ConstructCore.encryptBytesFor contactId plaintext core = (.ok wirePayload, after)) :
    EngineSafe (Promise.any (engineMachine Core config))
      (envelopeGuard Core config localId (openPayload wirePayload level))
      (handleSendMessage contactId plaintext localId conversationId level) (fun _ _ => True)
      engine := by
  have reported (status : Nat) (engine : Engine Core) :
      EngineSafe (Promise.any (engineMachine Core config))
        (envelopeGuard Core config localId (openPayload wirePayload level))
        (onAction (.updateMessageStatus localId status)) (fun _ _ => True) engine :=
    action_done (fun _ _ => trivial) trivial
  unfold handleSendMessage
  apply section_bind (fun _ => trivial)
  intro world choice same _
  have ran : (CoreSection.run (.encryptAndExport contactId plaintext) engine.core).1 =
      .ok (wirePayload, unwrapOrDefault (ConstructCore.exportOrchestratorStateCfe after)) := by
    rw [stored]
    simp only [CoreSection.run, CoreSection.locked, CoreSection.encryptBody,
      LockedM.encryptBytesFor, LockedM.exportOrchestratorStateCfe, produced, LockedM.bind_run,
      LockedM.pure_run]
  rw [ran]
  apply saveState_bind (fun _ _ _ => trivial)
  refine buildEnvelope_built.andThen fun envelope engine built => ?_
  apply streamRead_bind (fun _ => trivial)
  cases engine.stream with
  | none => exact reported 4 _
  | some stream =>
      apply sendFrame_bind (fun _ _ => ⟨envelope, built, rfl⟩)
      rintro (error | ⟨⟩) accepted
      · exact reported 4 _
      · exact reported 1 _

omit [Prost] in
/-- Only the empty text is empty. -/
theorem isEmpty_iff_empty (text : String) : text.isEmpty = true ↔ text = "" := by
  simp [String.isEmpty, String.utf8ByteSize_eq_zero_iff]

/-- An envelope with an open payload that unpacks is routed to one of the two receive paths. -/
theorem recovers_open {envelope : Envelope} {localId userId : String} {wirePayload : Bytes}
    {decoded : WirePayload} (built : envelope.Built localId wirePayload) (named : userId ≠ "")
    (filled : wirePayload ≠ []) (unpacked : ConstructCore.unpack Core wirePayload = .ok decoded) :
    Recovers Core (envelope.deliveredFrom userId) wirePayload localId := by
  have known : userId.isEmpty = false := Bool.eq_false_iff.mpr fun empty =>
    named ((isEmpty_iff_empty userId).mp empty)
  have some : wirePayload.isEmpty = false := by simpa using filled
  refine ⟨⟨userId, wirePayload, localId, envelope.conversationId, envelope.timestamp⟩, rfl, rfl, ?_⟩
  simp only [handleIncomingEnvelope, Envelope.deliveredFrom, built.payload, built.id, Option.map_some,
    Option.getD_some, known, some, messageIdOf, unpacked, pure_eq_done]
  by_cases first : decoded.messageNumber = 0
  · left
    simp only [first]
    rfl
  · right
    simp only [first]
    rfl

/-- A dropped envelope reaches neither path. -/
theorem not_recovers_dropped {envelope : Envelope} {wirePayload : Bytes} {messageId : String}
    (dropped : (handleIncomingEnvelope envelope : EngineM Core Unit) = .done ()) :
    ¬ Recovers Core envelope wirePayload messageId := by
  rintro ⟨message, -, -, routed | routed⟩
  · rw [dropped] at routed
    cases routed
  · rw [dropped] at routed
    cases routed

/-- An envelope without a sender is dropped. -/
theorem handleIncomingEnvelope_nameless {envelope : Envelope} :
    (handleIncomingEnvelope (envelope.deliveredFrom "") : EngineM Core Unit) = .done () := rfl

/-- An envelope without a payload is dropped. -/
theorem handleIncomingEnvelope_empty {envelope : Envelope} (empty : envelope.encryptedPayload = []) :
    (handleIncomingEnvelope envelope : EngineM Core Unit) = .done () := by
  simp only [handleIncomingEnvelope, empty]
  split <;> rfl

omit [Prost] in
theorem encodeGrpcFrame_body (message : Bytes) : (encodeGrpcFrame message).drop 5 = message := rfl

omit [ConstructCore Core] in
/-- With a codec that round-trips, a frame carries one envelope. -/
theorem sendRequestFrame_injective (codec : ∀ request : MessageStreamRequest,
      RoundTrips .messageStreamRequest request) {first second : Envelope} {localId : String}
    (same : sendRequestFrame first localId = sendRequestFrame second localId) : first = second := by
  have bodies := congrArg (List.drop 5) same
  simp only [sendRequestFrame, encodeGrpcFrame_body] at bodies
  have read := codec ⟨some (.send first), localId, some localId⟩
  unfold RoundTrips at read
  rw [bodies, codec ⟨some (.send second), localId, some localId⟩] at read
  simpa using read.symm

/-- The recipient recovers what a frame of the send handler carries exactly when it travelled
openly and its sender has a name. -/
theorem sentEnvelope_recovered_iff (codec : ∀ request : MessageStreamRequest,
      RoundTrips .messageStreamRequest request)
    (contactId localId conversationId userId : String) (plaintext wirePayload : Bytes)
    (level : AnonymityLevel) (decoded : WirePayload) (core after : Core) (world later : World Core)
    (stored : world.engine.core = some core)
    (produced : ConstructCore.encryptBytesFor contactId plaintext core = (.ok wirePayload, after))
    (filled : wirePayload ≠ []) (unpacked : ConstructCore.unpack Core wirePayload = .ok decoded)
    (site : SendSite) (handle : BiDiStreamHandle) (frame : Bytes)
    (next : Except EngineError Unit → EngineM Core Unit)
    (reached : Reaches (Promise.any (engineMachine Core config))
      (world, handleSendMessage contactId plaintext localId conversationId level)
      (later, .ask (.sendFrame site handle frame) next))
    (envelope : Envelope) (carried : frame = sendRequestFrame envelope localId) :
    Recovers Core (envelope.deliveredFrom userId) wirePayload localId ↔
      level = .normal ∧ userId ≠ "" := by
  have safe : EngineSafe (Promise.any (engineMachine Core config))
      (envelopeGuard Core config localId (openPayload wirePayload level))
      (handleSendMessage contactId plaintext localId conversationId level) (fun _ _ => True)
      world.engine := handleSendMessage_envelope stored produced
  obtain ⟨sent, built, same⟩ := (safe world rfl _ _ reached).1 _ _ _ rfl
  obtain rfl := sendRequestFrame_injective codec (carried.symm.trans same)
  constructor
  · intro recovered
    constructor
    · cases level with
      | normal => rfl
      | ghost => exact absurd recovered (not_recovers_dropped (handleIncomingEnvelope_empty built.payload))
    · rintro rfl
      exact not_recovers_dropped handleIncomingEnvelope_nameless recovered
  · rintro ⟨rfl, named⟩
    exact recovers_open built named filled unpacked

end

/-- This wire format carries every field of an envelope. -/
def envelopeWire : Wire Envelope :=
  (Wire.text.option.pair (Wire.bytes.pair (Wire.text.option.option.pair (Wire.text.pair
    (Wire.int.pair (Wire.bytes.pair Wire.int).option))))).via
    (fun envelope => (envelope.sender.map UserId.userId, envelope.encryptedPayload,
      envelope.messageIdType.map fun
        | .messageId id => some id
        | .other => none,
      envelope.conversationId, envelope.timestamp,
      envelope.sealedSender.map fun inner => (inner.sealedInner, inner.timestamp)))
    (fun (sender, payload, id, conversationId, timestamp, inner) => {
      sender := sender.map UserId.mk
      encryptedPayload := payload
      messageIdType := id.map fun
        | some id => .messageId id
        | none => .other
      conversationId
      timestamp
      sealedSender := inner.map fun (sealedInner, timestamp) => ⟨sealedInner, timestamp⟩ })
    (by
      rintro ⟨_ | sender, payload, _ | _ | _, conversationId, timestamp, _ | inner⟩ <;> rfl)

/-- A receipt is written with its ids, its status and its time. -/
def receiptWire : Wire DeliveryReceipt :=
  (Wire.text.list.pair (Wire.int.pair Wire.int)).option.option.via
    (fun receipt => receipt.receiptType.map fun
      | .direct direct => some (direct.messageIds, direct.status, direct.timestamp)
      | .other => none)
    (fun receipt => ⟨receipt.map fun
      | some (messageIds, status, timestamp) => .direct ⟨messageIds, status, timestamp⟩
      | none => .other⟩)
    (by rintro ⟨_ | _ | _⟩ <;> rfl)

/-- A subscription is written with its conversations and its cursor. -/
def subscribeWire : Wire SubscribeRequest :=
  (Wire.text.list.pair (Wire.text.option.pair Wire.bool)).via
    (fun request => (request.conversationIds, request.sinceCursor, request.includePresence))
    (fun (conversationIds, sinceCursor, includePresence) =>
      ⟨conversationIds, sinceCursor, includePresence⟩)
    fun _ => rfl

/-- A stream request is written with its kind. -/
def streamRequestWire : Wire StreamRequest :=
  (envelopeWire.option.pair (receiptWire.option.pair subscribeWire.option)).via
    (fun
      | .send envelope => (some envelope, none, none)
      | .receipt receipt => (none, some receipt, none)
      | .subscribe request => (none, none, some request))
    (fun
      | (some envelope, _, _) => .send envelope
      | (_, some receipt, _) => .receipt receipt
      | (_, _, some request) => .subscribe request
      | (none, none, none) => .receipt ⟨none⟩)
    (by rintro (_ | _ | _) <;> rfl)

/-- A request is written with its ids last. -/
def requestWire : Wire MessageStreamRequest :=
  (streamRequestWire.option.pair (Wire.text.pair Wire.text.option)).via
    (fun request => (request.request, request.requestId, request.attemptId))
    (fun (request, requestId, attemptId) => ⟨request, requestId, attemptId⟩)
    fun _ => rfl

/-- This codec writes stream requests in full. -/
abbrev loopback : Prost where
  encodeToVec
    | .messageStreamRequest, request => requestWire.put request
    | _, _ => []
  decode
    | .messageStreamRequest, bytes =>
        match requestWire.take bytes with
        | some (request, _) => .ok request
        | none => .error "malformed request"
    | _, _ => .error "not looped back"
  hybridKyber1024X25519 := 3
  hybridKyber768X25519 := 2
  e2eeSignal := 1
  scheduled := 1

/-- Such a request is read back. -/
theorem loopback_roundTrips (request : MessageStreamRequest) :
    @RoundTrips loopback _ .messageStreamRequest request := by
  change (match requestWire.take (requestWire.put request) with
    | some (request, _) => Except.ok request
    | none => .error "malformed request") = .ok request
  rw [requestWire.taken_all]

/-- The stream is about to take this frame. -/
def frameAsked (program : EngineM Core Unit) : Option Bytes :=
  match program with
  | .ask (.sendFrame _ _ frame) _ => some frame
  | _ => none

/-- A program that asks for a frame hands it to a stream. -/
theorem frameAsked_shape {program : EngineM Core Unit} {frame : Bytes}
    (asked : frameAsked program = some frame) :
    ∃ site handle next, program = .ask (.sendFrame site handle frame) next := by
  unfold frameAsked at asked
  split at asked
  · cases asked
    exact ⟨_, _, _, rfl⟩
  · cases asked

/-- An engine with a core and a stream. -/
def connectedWorld : World RehearsalCore :=
  startWorld { Engine.fresh (rehearsalConfig [1] none) (some (⟨[], []⟩ : RehearsalCore)) with
    stream := some ⟨0, 0⟩ }

section
attribute [local instance] loopback

/-- The send handler of this engine takes so many answers until it has a frame. -/
def sending (level : AnonymityLevel) (answers : Nat) :
    (rehearsalMachine (rehearsalConfig [1] none)).Configuration Unit :=
  run (connectedWorld, handleSendMessage "alice" [1, 2] "l1" "alice" level)
    (List.replicate answers (.answer {}))

/-- This is the envelope that is not sealed. -/
def openEnvelope : Envelope where
  conversationId := "alice"
  encryptedPayload := [1, 1, 2]
  messageIdType := some (.messageId "l1")

/-- This is the envelope that is sealed. -/
def sealedEnvelope : Envelope where
  conversationId := "alice"
  sealedSender := some ⟨[], 0⟩
  messageIdType := some (.messageId "l1")

theorem frameAsked_open :
    frameAsked (sending .normal 2).2 = some (sendRequestFrame openEnvelope "l1") := by
  decide +kernel

theorem frameAsked_sealed :
    frameAsked (sending .ghost 5).2 = some (sendRequestFrame sealedEnvelope "l1") := by
  decide +kernel

/-- The sealed envelope reaches the recipient without a payload, and the recipient drops it. -/
theorem sentEnvelope_recovered_iff_fails :
    ¬ ∀ level later site handle frame next,
      Reaches (Promise.any (rehearsalMachine (rehearsalConfig [1] none)))
        (connectedWorld, handleSendMessage "alice" [1, 2] "l1" "alice" level)
        (later, .ask (.sendFrame site handle frame) next) →
      ∀ envelope, frame = sendRequestFrame envelope "l1" →
        Recovers RehearsalCore (envelope.deliveredFrom "bob") [1, 1, 2] "l1" := by
  intro recovers
  obtain ⟨site, handle, next, asked⟩ := frameAsked_shape frameAsked_sealed
  have reached : Reaches (Promise.any (rehearsalMachine (rehearsalConfig [1] none)))
      (connectedWorld, handleSendMessage "alice" [1, 2] "l1" "alice" .ghost)
      ((sending .ghost 5).1, (sending .ghost 5).2) := run_reaches (allAllowed_any _ _)
  rw [asked] at reached
  exact not_recovers_dropped (handleIncomingEnvelope_empty rfl)
    (recovers .ghost _ site handle _ next reached sealedEnvelope rfl)

/-- The open envelope reaches a recipient who takes the payload from it. -/
theorem sentEnvelope_recovered_iff_open :
    Recovers RehearsalCore (openEnvelope.deliveredFrom "bob") [1, 1, 2] "l1" := by
  obtain ⟨site, handle, next, asked⟩ := frameAsked_shape frameAsked_open
  have reached : Reaches (Promise.any (rehearsalMachine (rehearsalConfig [1] none)))
      (connectedWorld, handleSendMessage "alice" [1, 2] "l1" "alice" .normal)
      ((sending .normal 2).1, (sending .normal 2).2) := run_reaches (allAllowed_any _ _)
  rw [asked] at reached
  exact (sentEnvelope_recovered_iff loopback_roundTrips "alice" "l1" "alice" "bob" [1, 2] [1, 1, 2]
    .normal ⟨1, [], [1, 2], none⟩ ⟨[], []⟩ ⟨[], []⟩ connectedWorld _ rfl rfl (by decide) rfl site
    handle _ next reached openEnvelope rfl).mpr ⟨rfl, by decide⟩

end

end ConstructEngine
