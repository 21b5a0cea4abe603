import ConstructEngine.Construction.Transport

namespace ConstructEngine

open Interaction Program

variable {Core : Type}

/-- The parameters are stored before the stream can fail to open. -/
def handleOpenStream (conversations : List String) (cursor : Option String) :
    EngineM Core Unit := do
  perform (.paramsWrite ⟨conversations, cursor⟩)
  match ← openMessageStream conversations cursor with
  | .ok handle =>
      perform (.streamWrite (some handle))
      onAction (.streamReady none)
  | .error error => onAction (.streamError (toString error))

/-- The parameters of the closed stream stay. -/
def handleCloseStream : EngineM Core Unit := perform (.streamWrite none)

/-- The parameters are copied before the stream is opened. -/
def reopenStreamIfNeeded : EngineM Core Unit := do
  match ← perform .paramsRead with
  | some params => handleOpenStream params.conversationIds params.lastCursor
  | none => return

/-- An empty state is not saved. -/
def saveState (stateBytes : Bytes) : EngineM Core Unit :=
  if stateBytes.isEmpty then pure () else onAction (.saveKeychain "orchestrator_state" stateBytes)

variable [Prost]

/-- The receipt reports one delivered message. -/
def deliveryReceipt (messageId : String) (timestamp : Int) : Bytes :=
  encodeGrpcFrame (Prost.encodeToVec .messageStreamRequest {
    request := some (.receipt ⟨some (.direct ⟨[messageId], 1, timestamp⟩)⟩)
    requestId := messageId
    attemptId := none })

/-- Without a stream nothing is acknowledged. -/
def handleAckMessage (messageId : String) : EngineM Core Unit := do
  let timestamp ← perform .systemTime
  let frame := deliveryReceipt messageId timestamp
  match ← perform .streamRead with
  | some stream => let _ ← perform (.sendFrame .ackMessage stream frame)
  | none => return

def sendAckFrame (messageId : String) : EngineM Core Unit := do
  let timestamp ← perform .systemTime
  let frame := deliveryReceipt messageId timestamp
  match ← perform .streamRead with
  | some stream => let _ ← perform (.sendFrame .sendAckFrame stream frame)
  | none => return

end ConstructEngine
