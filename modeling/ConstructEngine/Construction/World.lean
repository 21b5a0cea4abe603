import ConstructEngine.Construction.Core
import ConstructEngine.Construction.Events
import ConstructEngine.Construction.Pump
import ConstructEngine.Construction.Unary

namespace ConstructEngine

/-- A watch channel keeps the latest value and counts its versions. -/
structure Watch (A : Type) where
  value : A
  version : Nat

/-- Each value that is sent has its own version. -/
def Watch.send {A : Type} (watch : Watch A) (value : A) : Watch A := ⟨value, watch.version + 1⟩

/-- A handle belongs to the pump of its number and to the connection that carries the stream. -/
structure BiDiStreamHandle where
  pump : Nat
  conn : Nat
  deriving DecidableEq

/-- A subscription has its conversations and the last cursor. -/
structure StreamParams where
  conversationIds : List String
  lastCursor : Option String
  deriving DecidableEq

/-- The loop refreshes this token before it expires. -/
structure TokenRefreshState where
  refreshToken : String
  expiresAt : Int
  deriving DecidableEq

/-- These are the callers of `connect_h3`. -/
inductive ConnectSite where
  | ensureConnected
  | unaryCall
  | openMessageStream
  deriving DecidableEq

/-- This is the progress of `connect_h3`: the handshake can still fail until the driver of the
new connection runs. -/
inductive ConnectPhase where
  | idle
  | handshake
  | spawned
  deriving DecidableEq

/-- These are the callers of `send_frame`. -/
inductive SendSite where
  | sendMessage
  | ackMessage
  | initSessionInitiator
  | sendAckFrame
  deriving DecidableEq

/-- Three handlers receive messages. -/
inductive ReceivePath where
  | decryptMessage
  | sessionInitResponder
  | backgroundPush
  deriving DecidableEq

structure IncomingMessage where
  senderId : String
  wirePayload : Bytes
  messageId : String
  conversationId : String
  timestamp : Int
  deriving DecidableEq

/-- The trace records what the engine does and what the event loop takes up. -/
inductive Event where
  | action (action : PlatformAction)
  | core (call : CoreCall)
  | rpc (servicePath : String) (request : Bytes) (token : Option String)
  | subscribed (conversationIds : List String) (sinceCursor : Option String)
  | sent (site : SendSite) (handle : BiDiStreamHandle) (frame : Bytes) (accepted : Bool)
  | handling (path : ReceivePath) (message : IncomingMessage)
  | refreshDue (clock : Nat)
  | refreshScheduled (clock secs : Nat)
  | event (event : UiEvent)
  | frame (frame : Bytes)

/-- A queued frame remembers the pump that read it; a delayed retry has no pump. -/
structure QueuedFrame where
  frame : Bytes
  origin : Option Nat

/-- A retry task sleeps until its frame is due. -/
structure Retry where
  due : Nat
  frame : Bytes

/-- Only the event loop and its handlers change this part of the state. The mutex of the stored
subscription is held while `paramsHeld`. -/
structure Engine (Core : Type) where
  core : Option Core
  h3 : Option Nat
  phase : ConnectPhase
  token : Option String
  stream : Option BiDiStreamHandle
  streamParams : Option StreamParams
  paramsHeld : Bool
  tokenState : Watch (Option TokenRefreshState)
  tokenSeen : Nat
  connectedSeen : Nat
  deadline : Nat
  log : List Event

/-- Drivers, pumps, timers and the platform change this part of the state. -/
structure Net where
  drivers : List Nat
  nextConn : Nat
  connected : Watch Bool
  pumps : List Pump
  events : List UiEvent
  dispatched : List UiEvent
  frames : List QueuedFrame
  retries : List Retry
  clock : Nat
  rxAlive : Bool

structure World (Core : Type) where
  engine : Engine Core
  net : Net

variable {Core : Type}

/-- What the engine does is added to the trace. -/
def Engine.record (engine : Engine Core) (event : Event) : Engine Core :=
  { engine with log := engine.log ++ [event] }

/-- The calls of a section are added in their order. -/
def Engine.recordCalls (engine : Engine Core) (calls : List CoreCall) : Engine Core :=
  { engine with log := engine.log ++ calls.map .core }

def Net.updatePump (net : Net) (number : Nat) (pump : Pump) : Net :=
  { net with pumps := net.pumps.set number pump }

/-- A dropped handle aborts its pump and closes the outgoing queue. -/
def Net.dropHandle (net : Net) : Option BiDiStreamHandle → Net
  | none => net
  | some handle =>
      match net.pumps[handle.pump]? with
      | none => net
      | some pump => net.updatePump handle.pump { pump with handleDropped := true }

end ConstructEngine
