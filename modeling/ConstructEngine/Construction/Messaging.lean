import Mathlib.Algebra.Group.Int.Defs
import ConstructEngine.Construction.Stream

namespace ConstructEngine

open Interaction Program

def hexByte (byte : UInt8) : String :=
  let digits := Nat.toDigits 16 byte.toNat
  String.ofList (if digits.length < 2 then '0' :: digits else digits)

def hexText (bytes : Bytes) : String := String.join (bytes.map hexByte)

/-- This is the hyphenated text of a random identifier. -/
def uuidText (uuid : Bytes) : String :=
  "-".intercalate [hexText (uuid.take 4), hexText ((uuid.drop 4).take 2),
    hexText ((uuid.drop 6).take 2), hexText ((uuid.drop 8).take 2), hexText (uuid.drop 10)]

def asU64 (value : Int) : Nat := (value % 2 ^ 64).toNat

variable {Core : Type} [Prost]

/-- Only the two hybrid suites select the post-quantum handshake. -/
def suiteOf (cryptoSuite : Int) : SuiteID :=
  if cryptoSuite = Prost.hybridKyber1024X25519 ∨ cryptoSuite = Prost.hybridKyber768X25519 then
    .pqHybrid
  else .classic

def x3dhBundle (bundle : PreKeyBundle) (verifyingKey : Bytes) : X3DHPublicKeyBundle where
  identityPublic := bundle.identityKey
  signedPrekeyPublic := bundle.signedPreKey
  signature := bundle.signedPreKeySignature
  verifyingKey := verifyingKey
  suiteId := suiteOf bundle.cryptoSuite
  oneTimePrekeyPublic := bundle.oneTimePreKey
  oneTimePrekeyId := bundle.oneTimePreKeyId
  spkUploadedAt := asU64 bundle.spkUploadedAt
  spkRotationEpoch := bundle.spkRotationEpoch
  kyberSpkUploadedAt := asU64 (bundle.kyberSpkUploadedAt.getD 0)
  kyberSpkRotationEpoch := bundle.kyberSpkRotationEpoch.getD 0

/-- Both session handlers fetch the bundle of the other user in this way. The error is the text
of the session error. -/
def fetchBundle (userId noBundle : String) :
    EngineM Core (Except String (PreKeyBundle × Bytes)) := do
  let req : GetPreKeyBundleRequest := ⟨userId, none, none⟩
  match ← unaryCall keyGetBundle (Prost.encodeToVec .getPreKeyBundleRequest req) with
  | .error error => return .error s!"Bundle fetch failed: {error}"
  | .ok respBytes =>
      match Prost.decode .getPreKeyBundleResponse respBytes with
      | .error error => return .error s!"Bundle decode error: {error}"
      | .ok resp =>
          match resp.bundle with
          | none => return .error noBundle
          | some bundle => return .ok (bundle, resp.verifyingKey)

/-- The ghost level hides the payload and the recipient in a sealed envelope; the normal level
puts the payload in the envelope itself. -/
def buildEnvelope (contactId localId conversationId : String) (wirePayload : Bytes) :
    AnonymityLevel → EngineM Core Envelope
  | .ghost => do
      let first ← perform .uuid
      let second ← perform .uuid
      let sealedInner : SealedInner := ⟨contactId, first ++ second, wirePayload, 1⟩
      let timestamp ← perform .systemTime
      let sealedEnvelope : SealedSenderEnvelope :=
        ⟨Prost.encodeToVec .sealedInner sealedInner, timestamp⟩
      return {
        conversationId
        sealedSender := some sealedEnvelope
        messageIdType := some (.messageId localId) }
  | .normal => return {
      conversationId
      encryptedPayload := wirePayload
      messageIdType := some (.messageId localId) }

def sendRequestFrame (envelope : Envelope) (localId : String) : Bytes :=
  encodeGrpcFrame (Prost.encodeToVec .messageStreamRequest {
    request := some (.send envelope)
    requestId := localId
    attemptId := some localId })

/-- The message is encrypted, the state is saved, and the frame joins the stream's queue. The
status is 1 for an accepted frame and 4 for every failure. -/
def handleSendMessage (contactId : String) (plaintext : Bytes) (localId conversationId : String)
    (anonymityLevel : AnonymityLevel) : EngineM Core Unit := do
  match ← perform (.core (.encryptAndExport contactId plaintext)) with
  | .error _ => onAction (.updateMessageStatus localId 4)
  | .ok (wirePayload, stateBytes) =>
      saveState stateBytes
      let envelope ← buildEnvelope contactId localId conversationId wirePayload anonymityLevel
      let frame := sendRequestFrame envelope localId
      match ← perform .streamRead with
      | some stream =>
          match ← perform (.sendFrame .sendMessage stream frame) with
          | .error _ => onAction (.updateMessageStatus localId 4)
          | .ok () => onAction (.updateMessageStatus localId 1)
      | none => onAction (.updateMessageStatus localId 4)

/-- The initiator reports the session as established even when no stream takes its frame. -/
def handleInitSessionInitiator (contactId : String) : EngineM Core Unit := do
  match ← fetchBundle contactId "Server returned no pre-key bundle" with
  | .error message => onAction (.sessionError contactId message)
  | .ok (bundle, verifyingKey) =>
  let kyber : KyberKeys :=
    ⟨bundle.kyberPreKey, bundle.kyberOneTimePreKey, bundle.kyberOneTimePreKeyId⟩
  match ← perform (.core (.initiateAndExport contactId (x3dhBundle bundle verifyingKey) kyber)) with
  | .error message => onAction (.sessionError contactId message)
  | .ok (wirePayload, stateBytes) =>
  saveState stateBytes
  let localId := uuidText (← perform .uuid)
  let envelope : Envelope := {
    conversationId := contactId
    encryptedPayload := wirePayload
    messageIdType := some (.messageId localId) }
  let frame := sendRequestFrame envelope localId
  match ← perform .streamRead with
  | some stream =>
      let _ ← perform (.sendFrame .initSessionInitiator stream frame)
      onAction (.sessionEstablished contactId localId)
  | none => onAction (.sessionEstablished contactId localId)

/-- The retry carries the original envelope through the stream pipeline once more. -/
def retryFrame (message : IncomingMessage) : Bytes :=
  let envelope : Envelope := {
    sender := some ⟨message.senderId⟩
    encryptedPayload := message.wirePayload
    conversationId := message.conversationId
    timestamp := message.timestamp
    messageIdType := some (.messageId message.messageId) }
  encodeGrpcFrame (Prost.encodeToVec .messageStreamResponse ⟨some (.message envelope), none⟩)

variable [ConstructCore Core]

/-- The responder path fetches the initiator's bundle, accepts the session, saves the state,
acknowledges the message and reports it. A failed session is retried while healing allows it. -/
def handleSessionInitResponder (message : IncomingMessage) : EngineM Core Unit := do
  perform (.handling .sessionInitResponder message)
  match ← fetchBundle message.senderId "Server returned no pre-key bundle for sender" with
  | .error text => onAction (.sessionError message.senderId text)
  | .ok (bundle, verifyingKey) =>
  match ConstructCore.unpack Core message.wirePayload with
  | .error error =>
      onAction (.sessionError message.senderId s!"WirePayload unpack failed: {error}")
  | .ok decoded =>
  let firstMsg : IncomingFirstMessage :=
    ⟨decoded.dhPublicKey, decoded.messageNumber, decoded.sealedBox, decoded.oneTimePrekeyId⟩
  match ← perform (.core (.receiveAndExport message.senderId (x3dhBundle bundle verifyingKey)
      firstMsg)) with
  | .error error =>
      match ← perform (.core (.heal message.senderId message.wirePayload)) with
      | .retryAllowed _ retryAfterMs => perform (.spawnRetry retryAfterMs (retryFrame message))
      | .maxAttemptsReached | .notFound =>
          perform (.core (.clearHeal message.senderId))
          onAction (.sessionError message.senderId s!"Healing failed: {error}")
  | .ok (plaintext, stateBytes) =>
      perform (.core (.clearHeal message.senderId))
      saveState stateBytes
      sendAckFrame message.messageId
      onAction (.sessionEstablished message.senderId message.messageId)
      if plaintext.isEmpty then return
      else onAction (.displayMessage message.messageId plaintext message.senderId
        message.conversationId message.timestamp)

omit [ConstructCore Core] in
/-- The normal path decrypts, saves the state, acknowledges the message and reports it. -/
def handleDecryptMessage (message : IncomingMessage) : EngineM Core Unit := do
  perform (.handling .decryptMessage message)
  match ← perform (.core (.decryptAndExport message.senderId message.wirePayload)) with
  | .error _ => return
  | .ok (plaintext, stateBytes) =>
      saveState stateBytes
      sendAckFrame message.messageId
      onAction (.displayMessage message.messageId plaintext message.senderId
        message.conversationId message.timestamp)

/-- A message without a text id gets a fresh one. -/
def messageIdOf : Option MessageIdType → EngineM Core String
  | some (.messageId id) => return id
  | _ => do return uuidText (← perform .uuid)

/-- Message number 0 starts a session, and every other number belongs to an existing one. -/
def handleIncomingEnvelope (envelope : Envelope) : EngineM Core Unit := do
  let senderId := (envelope.sender.map UserId.userId).getD ""
  if senderId.isEmpty then return
  let wirePayload := envelope.encryptedPayload
  if wirePayload.isEmpty then return
  let messageId ← messageIdOf envelope.messageIdType
  let message : IncomingMessage :=
    ⟨senderId, wirePayload, messageId, envelope.conversationId, envelope.timestamp⟩
  match ConstructCore.unpack Core wirePayload with
  | .error _ => return
  | .ok decoded =>
      if decoded.messageNumber = 0 then handleSessionInitResponder message
      else handleDecryptMessage message

/-- The cursor is stored before the response is routed. -/
def handleIncomingFrame (frame : Bytes) : EngineM Core Unit := do
  match decodeGrpcFrame frame with
  | .error _ => return
  | .ok (msg, _) =>
      match Prost.decode .messageStreamResponse msg with
      | .error _ => return
      | .ok resp =>
          resp.streamCursor.forM fun cursor => perform (.paramsCursor cursor)
          match resp.response with
          | some (.message envelope) => handleIncomingEnvelope envelope
          | some (.receipt ⟨some (.direct receipt)⟩) =>
              receipt.messageIds.forM fun id =>
                onAction (.deliveryReceipt id "" receipt.timestamp)
          | _ => return

/-- One pending message changes the count of decrypted messages and the error flag. -/
def handlePendingMessage (totals : Nat × Bool) (msg : PendingMessage) :
    EngineM Core (Nat × Bool) := do
  let (decryptedCount, hadErrors) := totals
  if msg.contentType ≠ Prost.e2eeSignal ∧ msg.contentType ≠ 0 then
    return (decryptedCount, hadErrors)
  let wirePayload := msg.encryptedPayload
  if wirePayload.isEmpty then
    return (decryptedCount, hadErrors)
  let message : IncomingMessage :=
    ⟨msg.senderId, wirePayload, msg.messageId, msg.senderId, msg.timestamp⟩
  match ConstructCore.unpack Core wirePayload with
  | .error _ => return (decryptedCount, true)
  | .ok decoded =>
      if decoded.messageNumber = 0 then
        handleSessionInitResponder message
        return ((decryptedCount + 1) % 2 ^ 32, hadErrors)
      else
        perform (.handling .backgroundPush message)
        match ← perform (.core (.decrypt message.senderId wirePayload)) with
        | .error _ => return (decryptedCount, true)
        | .ok plaintext =>
            onAction (.displayMessage message.messageId plaintext message.senderId
              message.conversationId message.timestamp)
            let preview := if plaintext.isEmpty then none else some (plaintext.take 64)
            onAction (.showNotification message.messageId message.senderId
              message.conversationId preview message.timestamp)
            return ((decryptedCount + 1) % 2 ^ 32, hadErrors)

/-- Each turn fetches one page. The turn repeats while the server has more messages. -/
def backgroundPage (progress : Option String × Nat × Bool) :
    EngineM Core ((Option String × Nat × Bool) ⊕ (Nat × Bool)) := do
  let (cursor, decryptedCount, hadErrors) := progress
  let req : GetPendingMessagesRequest := ⟨cursor, some 50⟩
  match ← unaryCall messagingGetPending (Prost.encodeToVec .getPendingMessagesRequest req) with
  | .error _ => return .inr (decryptedCount, true)
  | .ok respBytes =>
      match Prost.decode .getPendingMessagesResponse respBytes with
      | .error _ => return .inr (decryptedCount, true)
      | .ok resp =>
          let cursor := if resp.nextCursor.isEmpty then none else some resp.nextCursor
          let totals ← resp.messages.foldlM handlePendingMessage (decryptedCount, hadErrors)
          if resp.hasMore then return .inl (cursor, totals) else return .inr totals

/-- The state is exported and saved once, after all pages. -/
def handleBackgroundPush (sinceCursor : Option String) : EngineM Core Unit := do
  let (decryptedCount, hadErrors) ← iterate backgroundPage (sinceCursor, 0, false)
  let exported ← perform (.core .exportState)
  exported.toOption.forM saveState
  onAction (.backgroundFetchComplete decryptedCount hadErrors)

end ConstructEngine
