import ConstructEngine.Construction.EventLoop

namespace ConstructEngine

open Interaction Program Machine

variable {Core : Type}

/-- The loop waits when its next operation is a selection. -/
def isWaiting (program : EngineM Core Unit) : Bool :=
  match program with
  | .ask (.select _) _ => true
  | _ => false

/-- A loop that waits asks for its selection. -/
theorem isWaiting_shape {program : EngineM Core Unit} (waiting : isWaiting program = true) :
    ∃ refreshArmed next, program = .ask (.select refreshArmed) next := by
  unfold isWaiting at waiting
  split at waiting
  · exact ⟨_, _, rfl⟩
  · cases waiting

/-- Nothing remains of the program. -/
def hasEnded {A : Type} (program : EngineM Core A) : Bool :=
  match program with
  | .done _ => true
  | _ => false

/-- A program that has ended has an answer. -/
theorem hasEnded_shape {A : Type} {program : EngineM Core A} (ended : hasEnded program = true) :
    ∃ value, program = .done value := by
  unfold hasEnded at ended
  split at ended
  · exact ⟨_, rfl⟩
  · cases ended

/-- This core keeps what it imports. It exports only when its identity key is not empty. -/
structure RehearsalCore where
  identity : Bytes
  sessions : Bytes
  deriving DecidableEq

/-- A wire payload is the message number before the plaintext. -/
instance rehearsalCore : ConstructCore RehearsalCore where
  decodePrivateKeys
    | 1 :: identity => .ok ⟨identity, [], [], []⟩
    | _ => .error "malformed keys"
  fromKeys keys _ := .ok ⟨keys.ikPriv, []⟩
  encryptBytesFor _ plaintext core := (.ok (1 :: plaintext), core)
  decryptBytesFor
    | _, _ :: plaintext, core => (.ok plaintext, core)
    | _, [], core => (.error "empty payload", core)
  initSessionWithBundle _ _ _ core := (.ok (), core)
  initReceivingSessionWithMsg senderId _ first core := (.ok (senderId, first.content), core)
  exportOrchestratorStateCfe core :=
    if core.identity.isEmpty then .error "no storage key" else .ok (7 :: core.sessions)
  importOrchestratorStateCfe
    | 7 :: sessions, core => (.ok (), { core with sessions })
    | _, core => (.error "malformed state", core)
  getAllSessionContactIds core := if core.sessions.isEmpty then [] else ["alice"]
  generateOtpks _ core := (.ok [], core)
  rotateSpk core := (.ok (1, [], []), core)
  getRegistrationBundleFields core := .ok ⟨core.identity, [], [], []⟩
  clearHealRecord _ core := core
  enqueueHeal _ _ core := core
  recordHealAttempt _ core := (.notFound, core)
  unpack
    | number :: content => .ok ⟨number.toNat, [], content, none⟩
    | [] => .error "empty payload"
  computePow challenge _ := ⟨challenge, 0, []⟩
  sign _ message := message

/-- This codec writes the part of a stream request that the rehearsals look at. -/
def rehearsalEncode : {M : Type} → Schema M → M → Bytes
  | _, .messageStreamRequest, ⟨some (.send envelope), _, _⟩ => 1 :: envelope.encryptedPayload
  | _, .messageStreamRequest, ⟨some (.receipt _), requestId, _⟩ => 2 :: requestId.toUTF8.toList
  | _, _, _ => []

/-- Every stream response and every batch is a message from one sender. -/
def rehearsalDecode : {M : Type} → Schema M → Bytes → Except String M
  | _, .messageStreamResponse, bytes => .ok ⟨some (.message {
      sender := some ⟨"alice"⟩
      encryptedPayload := bytes
      messageIdType := some (.messageId "m1")
      conversationId := "alice" }), none⟩
  | _, .authenticateDeviceResponse, _ => .ok ⟨some ⟨"u", "a", "r", 1000⟩⟩
  | _, .getPendingMessagesResponse, bytes => .ok ⟨[⟨0, bytes, "alice", "m1", 0⟩], false, ""⟩
  | _, .getPreKeyBundleResponse, _ =>
      .ok ⟨some ⟨1, [], [], [], none, none, 0, 0, none, none, none, none, none⟩, []⟩
  | _, .getPreKeyCountResponse, _ => .ok ⟨1, 3⟩
  | _, .uploadPreKeysResponse, _ => .ok ⟨3⟩
  | _, _, _ => .error "not rehearsed"

/-- The rehearsals use this codec. -/
instance rehearsalProst : Prost where
  encodeToVec := rehearsalEncode
  decode := rehearsalDecode
  hybridKyber1024X25519 := 3
  hybridKyber768X25519 := 2
  e2eeSignal := 1
  scheduled := 1

/-- The configuration of a rehearsal holds these private keys and this token. -/
def rehearsalConfig (keysCfeData : Bytes) (authToken : Option String) : EngineConfig :=
  { EngineConfig.default with keysCfeData, authToken }

/-- The machine runs the engine with the core of the rehearsal. -/
abbrev rehearsalMachine (config : EngineConfig) := engineMachine RehearsalCore config

/-- The platform dispatches the events before the loop starts, the environment answers with these
choices, and the moves come last. -/
def rehearsal (config : EngineConfig) (events : List UiEvent) (choices : List Choice)
    (moves : List Move) : List (rehearsalMachine config).Input :=
  events.map (fun event => .move (Move.dispatch event)) ++
    choices.map (fun choice => (.answer choice : (rehearsalMachine config).Input)) ++
    moves.map fun move => .move move

/-- The loop begins in a new world. -/
def rehearsalStart (config : EngineConfig) (core : Option RehearsalCore) :
    (rehearsalMachine config).Configuration Unit :=
  (startWorld (Engine.fresh config core), eventLoop config)

/-- The server answers a request with an empty message. -/
def servedChoice : Choice :=
  { http := { recvResponse := .ok (⟨200, "200 OK"⟩, []), recvData := [[0, 0, 0, 0, 0]] } }

/-- The server answers requests and accepts every stream. -/
def openChoice : Choice := { servedChoice with opened := { recvResponse := .ok ⟨200, "200 OK"⟩ } }

/-- This is where a rehearsal ends. -/
def rehearsed (config : EngineConfig) (core : Option RehearsalCore)
    (inputs : List (rehearsalMachine config).Input) : (rehearsalMachine config).Configuration Unit :=
  run (rehearsalStart config core) inputs

/-- A rehearsal is a run. -/
theorem rehearsed_reaches {config : EngineConfig} {core : Option RehearsalCore}
    {inputs : List (rehearsalMachine config).Input} {promise : (rehearsalMachine config).Promise}
    (allowed : AllAllowed promise (rehearsalStart config core) inputs) :
    Reaches promise (rehearsalStart config core)
      ((rehearsed config core inputs).1, (rehearsed config core inputs).2) :=
  run_reaches allowed

/-- Without a promise, every rehearsal is a run. -/
theorem rehearsed_any (config : EngineConfig) (core : Option RehearsalCore)
    (inputs : List (rehearsalMachine config).Input) :
    Reaches (Promise.any (rehearsalMachine config)) (rehearsalStart config core)
      ((rehearsed config core inputs).1, (rehearsed config core inputs).2) :=
  rehearsed_reaches (allAllowed_any inputs _)

/-- Without keys the engine begins without a core. -/
theorem rehearsal_without_core (authToken : Option String) :
    Engine.new (rehearsalConfig [] authToken) =
      .ok (Engine.fresh (rehearsalConfig [] authToken) (none : Option RehearsalCore)) := rfl

/-- With keys the engine begins with a core. -/
theorem rehearsal_with_core (identity : Bytes) (authToken : Option String) :
    Engine.new (rehearsalConfig (1 :: identity) authToken) =
      .ok (Engine.fresh (rehearsalConfig (1 :: identity) authToken)
        (some (⟨identity, []⟩ : RehearsalCore))) := rfl

end ConstructEngine
