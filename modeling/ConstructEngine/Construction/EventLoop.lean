import ConstructEngine.Construction.Auth
import ConstructEngine.Construction.Messaging

namespace ConstructEngine

open Interaction Program

variable {Core : Type} [ConstructCore Core]

def initCoreFromKeys (keysCfeData : Bytes) (userId : String) :
    EngineM Core (Except EngineError Unit) := do
  match buildCore Core keysCfeData userId with
  | .error error => return .error error
  | .ok newCore =>
      perform (.core (.replace newCore))
      return .ok ()

/-- A blob of private keys replaces the core, and a state blob restores the sessions of a core
that is already initialised. -/
def handleKeychainResult (config : EngineConfig) (key : String) (data : Option Bytes) :
    EngineM Core Unit := do
  if key = "private_keys" then
    match data with
    | some blob => let _ ← initCoreFromKeys blob config.myUserId
    | none => return
  else if key = "orchestrator_state" then
    match data with
    | some blob =>
        let restored ← perform (.core (.restore blob))
        restored.forM fun contactId => onAction (.sessionEstablished contactId "")
    | none => return

section
variable [Prost] (config : EngineConfig)

def handleEvent : UiEvent → EngineM Core Unit
  | .platformReady => onAction (.loadKeychain "orchestrator_state")
  | .registerDevice username deviceId => handleRegisterDevice config username deviceId
  | .authenticate deviceId challengeResponse signingKey =>
      handleAuthenticate config deviceId challengeResponse signingKey
  | .refreshToken refreshToken => handleRefreshToken config refreshToken
  | .logout => handleLogout config
  | .fetchPreKeyBundle userId deviceId => handleFetchPreKeyBundle userId deviceId
  | .uploadOtpks deviceId count => handleUploadOtpks deviceId count
  | .getPreKeyCount deviceId => handleGetPreKeyCount deviceId
  | .rotateSignedPreKey deviceId => handleRotateSpk deviceId
  | .openMessageStream conversationIds sinceCursor => handleOpenStream conversationIds sinceCursor
  | .closeMessageStream => handleCloseStream
  | .sendMessage contactId plaintext localId conversationId anonymityLevel =>
      handleSendMessage contactId plaintext localId conversationId anonymityLevel
  | .ackMessage messageId _ => handleAckMessage messageId
  | .initSessionInitiator contactId => handleInitSessionInitiator contactId
  | .searchUser query => handleSearchUser query
  | .signal _ _ => return
  | .registerPushToken token _ => handleRegisterPush config token
  | .backgroundPush sinceCursor => handleBackgroundPush sinceCursor
  | .keychainResult key data => handleKeychainResult config key data
  | .p2pHandoffInitiate _ _ => return
  | .p2pHandoffAck _ _ _ _ => return
  | .p2pStatusReport _ _ _ _ => return

/-- Integers of 64 bits wrap around in the release profile. -/
def wrapI64 (value : Int) : Int := value.bmod (2 ^ 64)

/-- The refresh comes five minutes before the expiry and not within ten seconds. -/
def secsUntilRefresh (now expiresAt : Int) : Nat :=
  let secsRemaining := wrapI64 (expiresAt - now)
  (max (wrapI64 (secsRemaining - 300)) 10).toNat

/-- A changed token arms or disarms the refresh timer. -/
def updateRefreshTimer (refreshArmed : Bool) : EngineM Core Bool := do
  match ← perform .tokenHasChanged with
  | none => return refreshArmed
  | some none => return false
  | some (some state) =>
      let now ← perform .systemTime
      perform (.refreshReset (secsUntilRefresh now state.expiresAt))
      return true

/-- The guard of the condition lives until the end of the block, while `handle_open_stream` locks the
same mutex again. -/
def resubscribe : EngineM Core Unit := do
  match ← perform .paramsLock with
  | some params =>
      handleOpenStream params.conversationIds params.lastCursor
      perform .paramsUnlock
  | none => perform .paramsUnlock

/-- A connection that is lost costs the stream handle, and after the reconnect the stored
subscription is to be opened again. -/
def handleDisconnect : EngineM Core Unit := do
  onAction (.connectionStateChanged false)
  perform (.streamWrite none)
  ensureConnected
  resubscribe

/-- Only a lost connection needs work. -/
def handleConnectedChange : EngineM Core Unit := do
  let connected ← perform .connectedBorrow
  if connected then return
  else handleDisconnect

/-- One turn of the event loop updates the timer, waits for a branch and runs its handler. -/
def eventLoopTurn (refreshArmed : Bool) : EngineM Core (Bool ⊕ Unit) := do
  let refreshArmed ← updateRefreshTimer refreshArmed
  match ← perform (.select refreshArmed) with
  | .refresh =>
      let state ← perform .tokenStateRead
      state.forM fun state => handleRefreshToken config state.refreshToken
      return .inl false
  | .changed =>
      handleConnectedChange
      return .inl refreshArmed
  | .event none => return .inr ()
  | .event (some event) =>
      handleEvent config event
      return .inl refreshArmed
  | .frame frame =>
      handleIncomingFrame frame
      return .inl refreshArmed
  | .tokenChanged => return .inl refreshArmed

def eventLoop : EngineM Core Unit := do
  match ← perform .transportNew with
  | .error error =>
      onAction (.networkError s!"Transport init failed: {error}")
      perform .rxDrop
  | .ok () =>
      ensureConnected
      perform .tokenSubscribe
      iterate (eventLoopTurn config) false
      perform .rxDrop

end

/-- A new engine holds its core and the configured token, and nothing else has happened. -/
def Engine.fresh (config : EngineConfig) (core : Option Core) : Engine Core where
  core
  h3 := none
  phase := .idle
  token := config.authToken
  stream := none
  streamParams := none
  paramsHeld := false
  tokenState := ⟨none, 0⟩
  tokenSeen := 0
  connectedSeen := 0
  deadline := 0
  log := []

/-- The constructor builds the core from the configuration or fails. -/
def Engine.new (config : EngineConfig) : Except EngineError (Engine Core) := do
  let core ← buildCore Core config.keysCfeData config.myUserId
  return Engine.fresh config core

theorem Engine.new_fresh {config : EngineConfig} {engine : Engine Core}
    (created : Engine.new config = .ok engine) : ∃ core, engine = Engine.fresh config core := by
  unfold Engine.new at created
  cases built : buildCore Core config.keysCfeData config.myUserId with
  | error error => rw [built] at created; cases created
  | ok core => rw [built] at created; cases created; exact ⟨core, rfl⟩

/-- No connection, stream, event or retry exists before the engine starts. -/
def Net.new : Net where
  drivers := []
  nextConn := 0
  connected := ⟨false, 0⟩
  pumps := []
  events := []
  dispatched := []
  frames := []
  retries := []
  clock := 0
  rxAlive := true

/-- The event loop starts with the new engine and nothing around it. -/
def startWorld (engine : Engine Core) : World Core := ⟨engine, Net.new⟩

end ConstructEngine
