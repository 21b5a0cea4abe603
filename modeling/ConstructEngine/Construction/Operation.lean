import ConstructEngine.Construction.World
import ConstructEngine.Interaction.Owned

namespace ConstructEngine

open Interaction

/-- These failures end `QuicConnection::new` and `QuicConnection::connect`. -/
inductive QuicFailure where
  | nativeCerts (message : String)
  | addCert (message : String)
  | quicClientConfig (message : String)
  | endpointBind (message : String)
  | dnsResolve (message : String)
  | noAddresses
  | connect (message : String)
  | handshakeTimedOut
  | handshake (message : String)

/-- Every failure of a connection is a TLS error or a transport error. -/
def QuicFailure.error (config : EngineConfig) : QuicFailure → EngineError
  | .nativeCerts message => .tls s!"native certs: {message}"
  | .addCert message => .tls s!"add cert: {message}"
  | .quicClientConfig message => .tls s!"QuicClientConfig: {message}"
  | .endpointBind message => .transport s!"endpoint bind: {message}"
  | .dnsResolve message => .transport s!"DNS resolve '{config.serverAddr}': {message}"
  | .noAddresses => .transport s!"no addresses for '{config.serverAddr}'"
  | .connect message => .transport s!"connect: {message}"
  | .handshakeTimedOut => .transport "handshake: timed out"
  | .handshake message => .transport s!"handshake: {message}"

/-- A connection attempt resolves the address, makes the handshake and starts the H3 client. -/
structure ConnectOutcome where
  quicNew : Except QuicFailure Unit := .ok ()
  quicConnect : Except QuicFailure Unit := .ok ()
  h3Client : Except String Unit := .ok ()

def ConnectOutcome.result (config : EngineConfig) (outcome : ConnectOutcome) :
    Except EngineError Unit := do
  outcome.quicNew.mapError (QuicFailure.error config)
  outcome.quicConnect.mapError (QuicFailure.error config)
  failedWith "h3 client init" outcome.h3Client

/-- These are the answers of the H3 stream while the message stream opens. -/
structure OpenExchange where
  buildRequest : Except String Unit := .ok ()
  sendRequest : Except String Unit := .ok ()
  recvResponse : Except String StatusCode := .error "closed"
  sendData : Except String Unit := .ok ()

/-- The stream accepts the subscription only after a response with status 200. -/
def OpenExchange.accepted (exchange : OpenExchange) : Except EngineError Unit := do
  failedWith "build stream request" exchange.buildRequest
  failedWith "open MessageStream" exchange.sendRequest
  let status ← failedWith "MessageStream recv_response" exchange.recvResponse
  if status.code ≠ 200 then
    throw (.transport s!"MessageStream HTTP {status.text}")

def OpenExchange.result (exchange : OpenExchange) : Except EngineError Unit := do
  exchange.accepted
  failedWith "SubscribeRequest send" exchange.sendData

/-- The event loop takes one of these branches. -/
inductive Branch where
  | refresh
  | changed
  | event (event : Option UiEvent)
  | frame (frame : Bytes)
  | tokenChanged

/-- The operations are the points at which the engine meets the platform, the clock, the
network, the crypto core or one of its own shared cells. -/
inductive Op (Core : Type) : Type → Type 1 where
  | onAction (action : PlatformAction) : Op Core Unit
  | core {A : Type} (region : CoreSection Core A) : Op Core A
  | handling (path : ReceivePath) (message : IncomingMessage) : Op Core Unit
  | systemTime : Op Core Int
  | uuid : Op Core Bytes
  | requestId : Op Core String
  | computePow (challenge : String) (difficulty : Nat) : Op Core (Option PowSolution)
  | transportNew : Op Core (Except EngineError Unit)
  | connectBegin : Op Core Unit
  | quicConnect : Op Core (Except EngineError Nat)
  | h3Store (site : ConnectSite) (conn : Nat) : Op Core Unit
  | connectedSend : Op Core Unit
  | h3Read : Op Core (Option Nat)
  | h3Drop : Op Core Unit
  | tokenRead : Op Core (Option String)
  | tokenWrite (token : Option String) : Op Core Unit
  | exchange (conn : Nat) (servicePath : String) (request : Bytes) (token : Option String) :
      Op Core H3Exchange
  | openExchange (conn : Nat) (token : Option String) (conversationIds : List String)
      (sinceCursor : Option String) (requestId : String) : Op Core (Except EngineError Unit)
  | spawnPump (conn : Nat) : Op Core BiDiStreamHandle
  | streamRead : Op Core (Option BiDiStreamHandle)
  | streamWrite (stream : Option BiDiStreamHandle) : Op Core Unit
  | sendFrame (site : SendSite) (handle : BiDiStreamHandle) (frame : Bytes) :
      Op Core (Except EngineError Unit)
  | paramsRead : Op Core (Option StreamParams)
  | paramsWrite (params : StreamParams) : Op Core Unit
  | paramsCursor (cursor : String) : Op Core Unit
  | paramsLock : Op Core (Option StreamParams)
  | paramsUnlock : Op Core Unit
  | tokenStateSend (state : Option TokenRefreshState) : Op Core Unit
  | tokenStateRead : Op Core (Option TokenRefreshState)
  | spawnRetry (retryAfterMs : Nat) (frame : Bytes) : Op Core Unit
  | instantNow : Op Core Nat
  | sleepUntil (deadline : Nat) : Op Core Unit
  | tokenSubscribe : Op Core Unit
  | tokenHasChanged : Op Core (Option (Option TokenRefreshState))
  | refreshReset (secs : Nat) : Op Core Unit
  | select (refreshArmed : Bool) : Op Core Branch
  | connectedBorrow : Op Core Bool
  | rxDrop : Op Core Unit

/-- The environment chooses these values when it answers an operation. -/
structure Choice where
  time : Int := 0
  uuid : Bytes := List.replicate 16 0
  requestId : String := ""
  powPanics : Bool := false
  connect : ConnectOutcome := {}
  http : H3Exchange := {}
  opened : OpenExchange := {}

def outgoingChannelDepth : Nat := 256

/-- The biased selection takes the first branch that is ready, or waits. -/
def selectBranch {Core : Type} (refreshArmed : Bool) (world : World Core) :
    Option (Branch × World Core) :=
  let { engine, net } := world
  if refreshArmed ∧ engine.deadline ≤ net.clock then
    some (.refresh, { world with engine := engine.record (.refreshDue net.clock) })
  else if engine.connectedSeen ≠ net.connected.version then
    some (.changed, { world with engine := { engine with connectedSeen := net.connected.version } })
  else
    match net.events, net.frames with
    | event :: rest, _ =>
        some (.event (some event), ⟨engine.record (.event event), { net with events := rest }⟩)
    | [], frame :: rest =>
        some (.frame frame.frame, ⟨engine.record (.frame frame.frame), { net with frames := rest }⟩)
    | [], [] =>
        if engine.tokenSeen ≠ engine.tokenState.version then
          some (.tokenChanged,
            { world with engine := { engine with tokenSeen := engine.tokenState.version } })
        else none

/-- An accepted frame joins the outgoing queue. A full queue makes the sender wait, and an ended
pump has closed the queue. -/
def sendFrameStep {Core : Type} (site : SendSite) (handle : BiDiStreamHandle) (frame : Bytes)
    (world : World Core) : Option (Except EngineError Unit × World Core) :=
  let closed := some (.error (.transport "MessageStream send channel closed"),
    { world with engine := world.engine.record (.sent site handle frame false) })
  match world.net.pumps[handle.pump]? with
  | none => closed
  | some pump =>
      if pump.isEnded then closed
      else if pump.outgoing.length < outgoingChannelDepth then
        some (.ok (), ⟨world.engine.record (.sent site handle frame true),
          world.net.updatePump handle.pump { pump with outgoing := pump.outgoing ++ [frame] }⟩)
      else none

variable {Core : Type} [ConstructCore Core]

/-- This is the effect of each operation on the world. -/
def exec (config : EngineConfig) : {A : Type} → Op Core A → Choice → World Core → Option (A × World Core)
  | _, .onAction action, _, world =>
      some ((), { world with engine := world.engine.record (.action action) })
  | _, .core region, _, world =>
      let (answer, core, calls) := region.run world.engine.core
      some (answer, { world with engine := ({ world.engine with core }).recordCalls calls })
  | _, .handling path message, _, world =>
      some ((), { world with engine := world.engine.record (.handling path message) })
  | _, .systemTime, choice, world => some (choice.time, world)
  | _, .uuid, choice, world => some (choice.uuid, world)
  | _, .requestId, choice, world => some (choice.requestId, world)
  | _, .computePow challenge difficulty, choice, world =>
      let solution := ConstructCore.computePow Core challenge difficulty
      some (if choice.powPanics then none else some solution, world)
  | _, .transportNew, choice, world =>
      some (choice.connect.quicNew.mapError (QuicFailure.error config), world)
  | _, .connectBegin, _, world =>
      some ((), { world with engine := { world.engine with phase := .handshake } })
  | _, .quicConnect, choice, world =>
      match choice.connect.result config with
      | .error error =>
          some (.error error, { world with engine := { world.engine with phase := .idle } })
      | .ok () =>
          let conn := world.net.nextConn
          some (.ok conn, ⟨{ world.engine with phase := .spawned },
            { world.net with nextConn := conn + 1, drivers := conn :: world.net.drivers }⟩)
  | _, .h3Store _ conn, _, world =>
      some ((), { world with engine := { world.engine with h3 := some conn } })
  | _, .connectedSend, _, world =>
      some ((), ⟨{ world.engine with phase := .idle },
        { world.net with connected := world.net.connected.send true }⟩)
  | _, .h3Read, _, world => some (world.engine.h3, world)
  | _, .h3Drop, _, world => some ((), { world with engine := { world.engine with h3 := none } })
  | _, .tokenRead, _, world => some (world.engine.token, world)
  | _, .tokenWrite token, _, world =>
      some ((), { world with engine := { world.engine with token } })
  | _, .exchange _ servicePath request token, choice, world =>
      some (choice.http, { world with engine := world.engine.record (.rpc servicePath request token) })
  | _, .openExchange _ _ conversationIds sinceCursor _, choice, world =>
      match choice.opened.accepted with
      | .error error => some (.error error, world)
      | .ok () => some (choice.opened.result,
          { world with engine := world.engine.record (.subscribed conversationIds sinceCursor) })
  | _, .spawnPump conn, _, world =>
      some (⟨world.net.pumps.length, conn⟩,
        { world with net := { world.net with pumps := world.net.pumps ++ [{ conn }] } })
  | _, .streamRead, _, world => some (world.engine.stream, world)
  | _, .streamWrite stream, _, world =>
      some ((), ⟨{ world.engine with stream }, world.net.dropHandle world.engine.stream⟩)
  | _, .sendFrame site handle frame, _, world => sendFrameStep site handle frame world
  -- The four uses of the subscription lock its mutex first, and a mutex that is held blocks them.
  | _, .paramsRead, _, world =>
      if world.engine.paramsHeld then none else some (world.engine.streamParams, world)
  | _, .paramsWrite params, _, world =>
      if world.engine.paramsHeld then none
      else some ((), { world with engine := { world.engine with streamParams := some params } })
  | _, .paramsCursor cursor, _, world =>
      let streamParams := world.engine.streamParams.map fun params =>
        { params with lastCursor := some cursor }
      if world.engine.paramsHeld then none
      else some ((), { world with engine := { world.engine with streamParams } })
  | _, .paramsLock, _, world =>
      if world.engine.paramsHeld then none
      else some (world.engine.streamParams,
        { world with engine := { world.engine with paramsHeld := true } })
  | _, .paramsUnlock, _, world =>
      some ((), { world with engine := { world.engine with paramsHeld := false } })
  | _, .tokenStateSend state, _, world =>
      let tokenState := world.engine.tokenState.send state
      some ((), { world with engine := { world.engine with tokenState } })
  | _, .tokenStateRead, _, world => some (world.engine.tokenState.value, world)
  | _, .spawnRetry retryAfterMs frame, _, world =>
      let retry := ⟨world.net.clock + retryAfterMs, frame⟩
      some ((), { world with net := { world.net with retries := world.net.retries ++ [retry] } })
  | _, .instantNow, _, world => some (world.net.clock, world)
  | _, .sleepUntil deadline, _, world => if deadline ≤ world.net.clock then some ((), world) else none
  | _, .tokenSubscribe, _, world =>
      let tokenSeen := world.engine.tokenState.version
      some ((), { world with engine := { world.engine with tokenSeen } })
  | _, .tokenHasChanged, _, world =>
      let { value, version } := world.engine.tokenState
      if world.engine.tokenSeen = version then some (none, world)
      else some (some value, { world with engine := { world.engine with tokenSeen := version } })
  | _, .refreshReset secs, _, world =>
      let engine := { world.engine with deadline := world.net.clock + secs * 1000 }
      some ((), { world with engine := engine.record (.refreshScheduled world.net.clock secs) })
  | _, .select refreshArmed, _, world => selectBranch refreshArmed world
  | _, .connectedBorrow, _, world => some (world.net.connected.value, world)
  -- The queued events go with their receiver. Frames cannot wait yet, without a pump or a retry.
  | _, .rxDrop, _, world =>
      some ((), { world with net := { world.net with events := [], rxAlive := false } })

/-- The environment moves the drivers, the pumps, the platform, the retries and the clock. -/
inductive Move where
  | driverExits (conn : Nat)
  | pump (number : Nat) (input : PumpInput)
  | dispatch (event : UiEvent)
  | retryDue (index : Nat)
  | tick (millis : Nat)

/-- A driver publishes `false` when it exits, whichever connection is stored by then. -/
def Net.driverExits (net : Net) (conn : Nat) : Option Net :=
  if conn ∈ net.drivers then
    some { net with
      drivers := net.drivers.filter (· ≠ conn)
      connected := net.connected.send false }
  else none

/-- A pump that ends records how much of the trace precedes its end. -/
def Net.movePump (net : Net) (recorded number : Nat) (input : PumpInput) : Option Net := do
  let pump ← net.pumps[number]?
  let (after, frames) ← pump.step input
  let after := if after.isEnded then { after with endedAt := some recorded } else after
  let queued := frames.map fun frame => ⟨frame, some number⟩
  return { net.updatePump number after with frames := net.frames ++ queued }

/-- A full or closed event queue drops the event. -/
def Net.dispatch (net : Net) (capacity : Nat) (event : UiEvent) : Net :=
  let net := { net with dispatched := net.dispatched ++ [event] }
  if net.rxAlive ∧ net.events.length < capacity then { net with events := net.events ++ [event] } else net

def Net.retryDue (net : Net) (index : Nat) : Option Net := do
  let retry ← net.retries[index]?
  guard (retry.due ≤ net.clock)
  return { net with
    retries := net.retries.eraseIdx index, frames := net.frames ++ [⟨retry.frame, none⟩] }

theorem retryDue_some {net after : Net} {index : Nat} (done : net.retryDue index = some after) :
    ∃ frame, after = { net with
      retries := net.retries.eraseIdx index, frames := net.frames ++ [⟨frame, none⟩] } := by
  obtain ⟨retry, -, delivered⟩ := Option.bind_eq_some_iff.mp done
  obtain ⟨_, -, same⟩ := Option.bind_eq_some_iff.mp delivered
  exact ⟨retry.frame, (Option.some.inj same).symm⟩

def moveNet (config : EngineConfig) (recorded : Nat) (move : Move) (net : Net) : Option Net :=
  match move with
  | .driverExits conn => net.driverExits conn
  | .pump number input => net.movePump recorded number input
  | .dispatch event => some (net.dispatch config.eventBuffer event)
  | .retryDue index => net.retryDue index
  | .tick millis => some { net with clock := net.clock + millis }

/-- Moves of the environment leave the engine's own part of the state alone. -/
def moveWorld {Core : Type} (config : EngineConfig) (move : Move) (world : World Core) :
    Option (World Core) :=
  match moveNet config world.engine.log.length move world.net with
  | some net => some { world with net }
  | none => none

theorem moveWorld_some {Core : Type} {config : EngineConfig} {move : Move}
    {world after : World Core} (moved : moveWorld config move world = some after) :
    ∃ net, moveNet config world.engine.log.length move world.net = some net ∧
      after = { world with net } := by
  unfold moveWorld at moved
  split at moved
  · next net done => exact ⟨net, done, by simpa using moved.symm⟩
  · cases moved

/-- The machine runs the engine's programs against an arbitrary environment. -/
abbrev engineMachine (Core : Type) [ConstructCore Core] (config : EngineConfig) :
    Machine (Op Core) where
  State := World Core
  Choice := Choice
  Move := Move
  exec := exec config
  move := moveWorld config

def engineOwned (Core : Type) [ConstructCore Core] (config : EngineConfig) :
    (engineMachine Core config).Owned (Engine Core) where
  view := World.engine
  kept move state after moved := by
    obtain ⟨net, -, rfl⟩ := moveWorld_some moved
    rfl

end ConstructEngine
