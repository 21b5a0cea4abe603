import ConstructEngine.Construction.Operation

namespace ConstructEngine

open Interaction Program

/-- An engine program asks the operations of the engine. -/
abbrev EngineM (Core : Type) := Program (Op Core)

variable {Core : Type}

/-- The platform performs the action. -/
def onAction (action : PlatformAction) : EngineM Core Unit := perform (.onAction action)

/-- The driver of the new connection runs before the connection is stored and published. -/
def connectH3 (site : ConnectSite) : EngineM Core (Except EngineError Unit) := do
  perform .connectBegin
  match ← perform .quicConnect with
  | .error error => return .error error
  | .ok conn =>
      perform (.h3Store site conn)
      perform .connectedSend
      return .ok ()

/-- A live connection is kept, and an absent one is replaced once. -/
def ensureH3 (site : ConnectSite) : EngineM Core (Except EngineError Unit) := do
  match ← perform .h3Read with
  | none => connectH3 site
  | some _ => return .ok ()

/-- A request needs the stored connection. -/
def sendRequest : EngineM Core (Except EngineError Nat) := do
  match ← perform .h3Read with
  | some conn => return .ok conn
  | none => return .error (.transport "H3 not connected")

/-- A transport error drops the connection, so that the next call reconnects. -/
def unaryCall (servicePath : String) (requestBytes : Bytes) :
    EngineM Core (Except EngineError Bytes) := do
  match ← ensureH3 .unaryCall with
  | .error error => return .error error
  | .ok () =>
      match ← sendRequest with
      | .error error => return .error error
      | .ok sendReq =>
          let token ← perform .tokenRead
          let exchange ← perform (.exchange sendReq servicePath requestBytes token)
          match doUnaryCall servicePath exchange with
          | .error (.transport message) =>
              perform .h3Drop
              return .error (.transport message)
          | result => return result

/-- The pump of the new stream starts after the server accepted the subscription. -/
def openMessageStream (conversationIds : List String) (sinceCursor : Option String) :
    EngineM Core (Except EngineError BiDiStreamHandle) := do
  match ← ensureH3 .openMessageStream with
  | .error error => return .error error
  | .ok () =>
      match ← sendRequest with
      | .error error => return .error error
      | .ok sendReq =>
          let token ← perform .tokenRead
          let requestId ← perform .requestId
          match ← perform (.openExchange sendReq token conversationIds sinceCursor requestId) with
          | .error error => return .error error
          | .ok () => return .ok (← perform (.spawnPump sendReq))

def sleep (secs : Nat) : EngineM Core Unit := do
  let now ← perform .instantNow
  perform (.sleepUntil (now + secs * 1000))

/-- The delay doubles after each failed attempt, up to one minute. -/
def ensureConnected : EngineM Core Unit :=
  iterate (fun delay => do
    match ← connectH3 .ensureConnected with
    | .ok () =>
        onAction (.connectionStateChanged true)
        return .inr ()
    | .error error =>
        onAction (.networkError s!"Reconnecting in {delay}s… ({error})")
        sleep delay
        return .inl (min (delay * 2) 60)) 1

def authPowChallenge := "/shared.proto.services.v1.AuthService/GetPowChallenge"
def authRegister := "/shared.proto.services.v1.AuthService/RegisterDevice"
def authAuthenticate := "/shared.proto.services.v1.AuthService/AuthenticateDevice"
def authRefresh := "/shared.proto.services.v1.AuthService/RefreshToken"
def authLogout := "/shared.proto.services.v1.AuthService/Logout"
def keyGetBundle := "/shared.proto.services.v1.KeyService/GetPreKeyBundle"
def keyUpload := "/shared.proto.services.v1.KeyService/UploadPreKeys"
def keyCount := "/shared.proto.services.v1.KeyService/GetPreKeyCount"
def keyRotateSpk := "/shared.proto.services.v1.KeyService/RotateSignedPreKey"
def messagingGetPending := "/shared.proto.services.v1.MessagingService/GetPendingMessages"
def userFind := "/shared.proto.services.v1.UserService/FindUser"
def notificationRegister := "/shared.proto.services.v1.NotificationService/RegisterDeviceToken"

end ConstructEngine
