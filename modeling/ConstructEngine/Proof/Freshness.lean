import ConstructEngine.Proof.Attribution
import ConstructEngine.Proof.Sections

namespace ConstructEngine

open Interaction Program Machine

variable {Core A : Type}

/-- An export is fresh until the core makes another step. Only a cleared heal record keeps it fresh. -/
def CoreCall.freshen (call : CoreCall) (fresh : Option Bytes) : Option Bytes :=
  match call with
  | .exportState (.ok stateBytes) => some stateBytes
  | .exportState (.error _) | .clearHealRecord _ => fresh
  | _ => none

/-- Only core calls touch the fresh export. -/
def Event.freshen (fresh : Option Bytes) : Event → Option Bytes
  | .core call => call.freshen fresh
  | _ => fresh

/-- The last exported state, if the core made no step since. -/
def freshExport (log : List Event) : Option Bytes := log.foldl Event.freshen none

/-- A saved state is a fresh export. -/
def saveLaw (log : List Event) : Event → Prop
  | .action (.saveKeychain key stateBytes) => key = "orchestrator_state" ∧ freshExport log = some stateBytes
  | _ => True

/-- The last event decides what happens to the export that was fresh before it. -/
theorem freshExport_snoc (log : List Event) (event : Event) :
    freshExport (log ++ [event]) = event.freshen (freshExport log) := by
  simp [freshExport]

/-- A section that exports a state leaves it fresh. -/
theorem freshExport_calls (log : List Event) (front : List CoreCall) {answer : Except String Bytes}
    (filled : unwrapOrDefault answer ≠ []) :
    freshExport (log ++ (front ++ [CoreCall.exportState answer]).map Event.core) =
      some (unwrapOrDefault answer) := by
  rw [List.map_append, ← List.append_assoc, List.map_singleton, freshExport_snoc]
  cases answer with
  | error message => exact absurd rfl filled
  | ok stateBytes => rfl

/-- Saving a state is one action. -/
def PlatformAction.saves : PlatformAction → Bool
  | .saveKeychain .. => true
  | _ => false

/-- These actions save nothing. -/
def Unsaving (action : PlatformAction) : Prop := action.saves = false

section
variable [ConstructCore Core] {config : EngineConfig} {engine : Engine Core}

/-- An operation may be answered where what it records obeys the law of saves. -/
abbrev saveGuard (Core : Type) [ConstructCore Core] (config : EngineConfig) :
    (engineMachine Core config).Guard := traceGuard (Promise.any (engineMachine Core config)) saveLaw

/-- The program saves only fresh exports. -/
abbrev SavesFresh (config : EngineConfig) (program : EngineM Core A) : Prop :=
  Keeps (Promise.any (engineMachine Core config)) (saveGuard Core config) (fun _ => True) program

/-- Begun with this engine, the program saves only fresh exports. -/
abbrev SavesFreshFrom (config : EngineConfig) (program : EngineM Core A) (engine : Engine Core) : Prop :=
  EngineSafe (Promise.any (engineMachine Core config)) (saveGuard Core config) program (fun _ _ => True) engine

/-- Nothing is assumed of the world between two operations. -/
theorem save_stable : Stable (Promise.any (engineMachine Core config)) fun _ => True :=
  fun _ _ _ _ _ _ => trivial

/-- What holds from every world holds from the worlds of one engine. -/
theorem SavesFresh.from {program : EngineM Core A} (current : SavesFresh config program) (engine : Engine Core) :
    SavesFreshFrom config program engine := fun world _ => current world trivial

/-- A program that is current from each engine is current. -/
theorem current_of_from {program : EngineM Core A}
    (each : ∀ engine : Engine Core, SavesFreshFrom config program engine) : SavesFresh config program :=
  fun world _ => each world.engine world rfl

/-- An operation that saves nothing is free to be answered. -/
theorem unsaving_guard {op : Op Core A} (fires : op.Fires True Unsaving) (world : World Core) :
    saveGuard Core config op world := fun _ event _ traces _ => by
  have fired := traces_fired fires traces
  cases event with
  | action action =>
      cases action with
      | saveKeychain key stateBytes => exact Bool.noConfusion (fired : true = false)
      | _ => trivial
  | _ => trivial

/-- A program that saves nothing is current. -/
theorem current_unsaving {program : EngineM Core A} (fires : Fires True Unsaving program) :
    SavesFresh config program :=
  keeps_of_uses save_stable (fun _ fires => keeps_perform save_stable (fun world _ => unsaving_guard fires world)
    fun _ _ _ _ _ _ _ => trivial) fires

theorem current_done (value : A) : SavesFresh config (.done value : EngineM Core A) := keeps_done save_stable value

/-- An action other than a save keeps the program current. -/
theorem current_action {action : PlatformAction} (unsaving : Unsaving action) :
    SavesFresh config (onAction action : EngineM Core Unit) := current_unsaving (fires_action unsaving)

/-- A fresh export may be saved. -/
theorem save_guard {stateBytes : Bytes} (fresh : freshExport engine.log = some stateBytes) (world : World Core)
    (same : world.engine = engine) :
    saveGuard Core config (.onAction (.saveKeychain "orchestrator_state" stateBytes)) world :=
  traceGuard_action ⟨rfl, same ▸ fresh⟩

/-- The empty state is not saved, any other one must be fresh. -/
theorem saveState_current {stateBytes : Bytes} {rest : Unit → EngineM Core A}
    (fresh : stateBytes ≠ [] → freshExport engine.log = some stateBytes)
    (later : SavesFresh config (rest ())) :
    SavesFreshFrom config (saveState stateBytes >>= rest) engine :=
  saveState_bind (fun filled => save_guard (fresh filled)) (later.from _)

/-- What follows a section that exports may save what it exported. -/
theorem section_current {region : CoreSection Core (Except String (Bytes × Bytes))}
    {produces : CoreCall → Bytes → Prop}
    (absent : region.run none = (CoreSection.notInitialized, none, []))
    (runs : ∀ core, CoreSection.FailedOrExported region produces core)
    {rest : Except String (Bytes × Bytes) → EngineM Core A}
    (failed : ∀ message, SavesFresh config (rest (.error message)))
    (done : ∀ (bytes stateBytes : Bytes) (engine : Engine Core),
      (stateBytes ≠ [] → freshExport engine.log = some stateBytes) →
      SavesFreshFrom config (rest (.ok (bytes, stateBytes))) engine) :
    SavesFresh config (perform (.core region) >>= rest) := by
  have reads : (Op.core region : Op Core _).Fires True Unsaving := fun _ => trivial
  refine current_of_from fun engine => section_bind (unsaving_guard reads) ?_
  intro world choice _ _
  rcases stored : engine.core with _ | core
  · rw [absent]
    exact (failed _).from _
  obtain ⟨message, after, calls, ran, -⟩ | ⟨bytes, after, calls, exported⟩ := runs core
  · rw [ran]
    exact (failed message).from _
  obtain ⟨front, call, -, -, recorded⟩ := exported.recorded
  rw [exported.ran]
  refine done bytes _ _ fun filled => ?_
  subst recorded
  have fresh := freshExport_calls engine.log (front ++ [call]) filled
  simpa [Engine.recordCalls] using fresh

variable [Prost]

/-- The state saved with a sent message is the one exported with its ciphertext. -/
theorem handleSendMessage_current (contactId : String) (plaintext : Bytes) (localId conversationId : String)
    (level : AnonymityLevel) :
    SavesFresh config
      (handleSendMessage contactId plaintext localId conversationId level : EngineM Core Unit) := by
  have status (code : Nat) :
      SavesFresh config (onAction (.updateMessageStatus localId code) : EngineM Core Unit) :=
    current_action rfl
  unfold handleSendMessage
  refine section_current rfl (CoreSection.encryptAndExport_run contactId plaintext) (fun _ => status 4)
    fun wirePayload stateBytes engine fresh => saveState_current fresh ?_
  refine keeps_bind (current_unsaving (fires_buildEnvelope _ _ _ _ _)) fun envelope =>
    keeps_bind (current_unsaving (uses_perform trivial)) fun stream => ?_
  cases stream with
  | none => exact status 4
  | some stream =>
      refine keeps_bind (current_unsaving (uses_perform trivial)) fun accepted => ?_
      rcases accepted with error | ⟨⟩
      · exact status 4
      · exact status 1

/-- The state saved is the one exported with the session initiation. -/
theorem handleInitSessionInitiator_current (contactId : String) :
    SavesFresh config (handleInitSessionInitiator contactId : EngineM Core Unit) := by
  unfold handleInitSessionInitiator
  refine keeps_bind (current_unsaving (fires_fetchBundle _ _)) fun fetched => ?_
  rcases fetched with message | ⟨bundle, verifyingKey⟩
  · exact current_action rfl
  refine section_current rfl (CoreSection.initiateAndExport_run _ _ _) (fun _ => current_action rfl)
    fun wirePayload stateBytes engine fresh => saveState_current fresh ?_
  refine keeps_bind (current_unsaving (uses_perform trivial)) fun uuid =>
    keeps_bind (current_unsaving (uses_perform trivial)) fun stream => ?_
  cases stream with
  | none => exact current_action rfl
  | some stream =>
      exact keeps_bind (current_unsaving (uses_perform trivial)) fun _ => current_action rfl

/-- The state saved is the one exported with the plaintext. -/
theorem handleDecryptMessage_current (message : IncomingMessage) :
    SavesFresh config (handleDecryptMessage message : EngineM Core Unit) := by
  unfold handleDecryptMessage
  refine keeps_bind (current_unsaving (uses_perform trivial)) fun _ => ?_
  refine section_current rfl (CoreSection.decryptAndExport_run _ _) (fun _ => current_done ())
    fun plaintext stateBytes engine fresh => saveState_current fresh ?_
  exact keeps_bind (current_unsaving (fires_sendAckFrame _)) fun _ => current_action rfl

omit [Prost] in
/-- A cleared heal record keeps the export fresh. -/
theorem clearHeal_current {senderId : String} {stateBytes : Bytes} {rest : Unit → EngineM Core A}
    (fresh : stateBytes ≠ [] → freshExport engine.log = some stateBytes)
    (later : ∀ engine : Engine Core, (stateBytes ≠ [] → freshExport engine.log = some stateBytes) →
      SavesFreshFrom config (rest ()) engine) :
    SavesFreshFrom config (perform (.core (.clearHeal senderId)) >>= rest) engine := by
  have clears : (Op.core (.clearHeal senderId) : Op Core Unit).Fires True Unsaving := fun _ => trivial
  refine section_bind (unsaving_guard clears) fun world choice _ _ => later _ fun filled => ?_
  rcases stored : engine.core with _ | core
  · simpa [Engine.recordCalls, CoreSection.run, CoreSection.locked] using fresh filled
  · change freshExport (engine.log ++ [.core (.clearHealRecord senderId)]) = some stateBytes
    rw [freshExport_snoc]
    exact fresh filled

/-- The responder saves what it exported with the new session; what it does on an error saves nothing. -/
theorem handleSessionInitResponder_current (message : IncomingMessage) :
    SavesFresh config (handleSessionInitResponder message : EngineM Core Unit) := by
  unfold handleSessionInitResponder
  refine keeps_bind (current_unsaving (uses_perform trivial)) fun _ =>
    keeps_bind (current_unsaving (fires_fetchBundle _ _)) fun fetched => ?_
  rcases fetched with text | ⟨bundle, verifyingKey⟩
  · exact current_action rfl
  dsimp only
  split
  · exact current_action rfl
  refine section_current rfl (CoreSection.receiveAndExport_run _ _ _)
    (fun error => current_unsaving (fires_healing (fun _ => rfl) error))
    fun plaintext stateBytes engine fresh => clearHeal_current fresh
    fun engine fresh => saveState_current fresh ?_
  refine keeps_bind (current_unsaving (fires_sendAckFrame _)) fun _ => keeps_bind (current_action rfl) fun _ => ?_
  split
  · exact current_done ()
  · exact current_action rfl

/-- In a batch only a session initiation saves a state by itself, as the responder does. -/
theorem handlePendingMessage_current (totals : Nat × Bool) (msg : PendingMessage) :
    SavesFresh config (handlePendingMessage totals msg : EngineM Core (Nat × Bool)) := by
  unfold handlePendingMessage
  dsimp only
  split
  · exact current_done _
  split
  · exact current_done _
  split
  · exact current_done _
  split
  · exact keeps_bind (handleSessionInitResponder_current _) fun _ => current_done _
  refine keeps_bind (current_unsaving (uses_perform trivial)) fun _ =>
    keeps_bind (current_unsaving (uses_perform fun _ => trivial)) fun received => ?_
  rcases received with error | plaintext
  · exact current_done _
  · exact keeps_bind (current_action rfl) fun _ => keeps_bind (current_action rfl) fun _ => current_done _

omit [Prost] in
/-- The state that is exported after all pages is saved at once. -/
theorem exportState_current {rest : EngineM Core A} (later : SavesFresh config rest) :
    SavesFresh config (do
      let exported ← perform (.core .exportState)
      exported.toOption.forM saveState
      rest) := by
  have reads : (Op.core .exportState : Op Core _).Fires True Unsaving := fun _ => trivial
  refine current_of_from fun engine => section_bind (unsaving_guard reads) fun world choice _ _ => ?_
  rcases stored : engine.core with _ | core
  · exact later.from _
  cases exported : ConstructCore.exportOrchestratorStateCfe core with
  | error message =>
      have ran : CoreSection.exportState.run (some core) =
          (.error s!"export: {message}", some core, [.exportState (.error message)]) := by
        simp only [CoreSection.run, CoreSection.locked, LockedM.bind_run,
          LockedM.exportOrchestratorStateCfe, exported]
        rfl
      rw [ran]
      exact later.from _
  | ok stateBytes =>
      have ran : CoreSection.exportState.run (some core) =
          (.ok stateBytes, some core, [.exportState (.ok stateBytes)]) := by
        simp only [CoreSection.run, CoreSection.locked, LockedM.bind_run,
          LockedM.exportOrchestratorStateCfe, exported]
        rfl
      rw [ran]
      suffices saved : SavesFreshFrom config (saveState stateBytes >>= fun _ => rest) _ from saved
      refine saveState_current (fun _ => ?_) later
      simp [Engine.recordCalls, freshExport, Event.freshen, CoreCall.freshen]

/-- After the batch the state is exported once more and saved at once. -/
theorem handleBackgroundPush_current (sinceCursor : Option String) :
    SavesFresh config (handleBackgroundPush sinceCursor : EngineM Core Unit) := by
  unfold handleBackgroundPush
  refine keeps_bind (keeps_iterate save_stable (fun progress => ?page) _) fun totals =>
    exportState_current (current_action rfl)
  case page =>
    unfold backgroundPage
    refine keeps_bind (current_unsaving (fires_unaryCall _ _)) fun answer => ?_
    rcases answer with error | bytes
    · exact current_done _
    dsimp only
    split
    · exact current_done _
    refine keeps_bind (keeps_of_composed save_stable
      (.foldlM (fun totals msg => .piece (handlePendingMessage_current totals msg)) _)) fun totals => ?_
    split <;> exact current_done _

/-- The keys that were generated are saved before the server learns them. -/
theorem handleUploadOtpks_current (deviceId : String) (count : Nat) :
    SavesFresh config (handleUploadOtpks deviceId count : EngineM Core Unit) := by
  unfold handleUploadOtpks
  have reads : (Op.core (.generateAndExport count) : Op Core _).Fires True Unsaving := fun _ => trivial
  refine current_of_from fun engine => section_bind (unsaving_guard reads) fun world choice _ _ => ?_
  obtain ⟨message, failed⟩ | ⟨before, pairs, after, blob, -, -, -, ran⟩ :=
    CoreSection.generateAndExport_calls count engine.core
  · rw [failed]
    exact (current_done ()).from _
  rw [ran]
  have fresh : freshExport (engine.log ++ [.core (.generateOtpks count (.ok pairs)),
      .core (.exportState (.ok blob))]) = some blob := by
    simp [freshExport, Event.freshen, CoreCall.freshen]
  refine action_bind (save_guard fresh) (SavesFresh.from ?_ _)
  refine keeps_bind (current_unsaving (fires_unaryCall _ _)) fun answer => ?_
  rcases answer with error | bytes
  · exact current_done ()
  dsimp only
  split
  · exact current_done ()
  · exact current_action rfl

/-- A replenishment saves what it exported with the keys. -/
theorem handleGetPreKeyCount_current (deviceId : String) :
    SavesFresh config (handleGetPreKeyCount deviceId : EngineM Core Unit) := by
  unfold handleGetPreKeyCount
  refine keeps_bind (current_unsaving (fires_unaryCall _ _)) fun answer => ?_
  rcases answer with error | bytes
  · exact current_done ()
  dsimp only
  split
  · exact current_done ()
  · refine keeps_bind (current_action rfl) fun _ => ?_
    split
    · exact handleUploadOtpks_current _ _
    · exact current_done ()

/-- A rotation saves what it exported with the signed key. -/
theorem handleRotateSpk_current (deviceId : String) :
    SavesFresh config (handleRotateSpk deviceId : EngineM Core Unit) := by
  unfold handleRotateSpk
  have reads : (Op.core .rotateAndExport : Op Core _).Fires True Unsaving := fun _ => trivial
  refine current_of_from fun engine => section_bind (unsaving_guard reads) fun world choice _ _ => ?_
  obtain ⟨message, failed⟩ | ⟨before, keyId, publicKey, signature, after, blob, -, -, -, ran⟩ :=
    CoreSection.rotateAndExport_calls engine.core
  · rw [failed]
    exact (current_done ()).from _
  rw [ran]
  have fresh : freshExport (engine.log ++ [.core (.rotateSpk (.ok (keyId, publicKey, signature))),
      .core (.exportState (.ok blob))]) = some blob := by
    simp [freshExport, Event.freshen, CoreCall.freshen]
  refine action_bind (save_guard fresh) (SavesFresh.from ?_ _)
  refine keeps_bind (current_unsaving (fires_unaryCall _ _)) fun answer => ?_
  rcases answer with error | bytes
  · exact current_done ()
  dsimp only
  split
  · exact current_done ()
  · split
    · exact current_action rfl
    · exact current_done ()

theorem handleRegisterDevice_current (username : Option String) (deviceId : String) :
    SavesFresh config (handleRegisterDevice config username deviceId : EngineM Core Unit) := by
  unfold handleRegisterDevice
  refine keeps_bind (current_unsaving (fires_unaryCall _ _)) fun answer => ?_
  rcases answer with error | challengeBytes
  · exact current_done ()
  dsimp only
  split
  · exact current_done ()
  refine keeps_bind (current_unsaving (uses_perform trivial)) fun solved => ?_
  cases solved with
  | none => exact current_done ()
  | some powSolution =>
  refine keeps_bind (current_unsaving (uses_perform fun _ => trivial)) fun keys => ?_
  rcases keys with error | publicKeys
  · exact current_done ()
  refine keeps_bind (current_unsaving (fires_unaryCall _ _)) fun answer => ?_
  split
  · exact current_action rfl
  · exact current_done ()
  split
  · exact current_done ()
  split
  · exact current_done ()
  exact keeps_bind (current_unsaving (uses_perform trivial)) fun _ =>
    keeps_bind (current_unsaving (uses_perform trivial)) fun _ => keeps_bind (current_action rfl) fun _ =>
    keeps_bind (current_action rfl) fun _ =>
    keeps_bind (current_unsaving (fires_reopenStreamIfNeeded rfl fun _ => rfl)) fun _ =>
    handleGetPreKeyCount_current config.myDeviceId

theorem handleAuthenticate_current (deviceId : String) (challengeResponse signingKey : Bytes) :
    SavesFresh config (handleAuthenticate config deviceId challengeResponse signingKey : EngineM Core Unit) := by
  unfold handleAuthenticate
  refine keeps_bind (current_unsaving (uses_perform trivial)) fun timestamp =>
    keeps_bind (current_unsaving (fires_unaryCall _ _)) fun answer => ?_
  split
  · exact current_action rfl
  · exact current_done ()
  split
  · exact current_done ()
  split
  · exact current_done ()
  exact keeps_bind (current_unsaving (uses_perform trivial)) fun _ =>
    keeps_bind (current_unsaving (uses_perform trivial)) fun _ => keeps_bind (current_action rfl) fun _ =>
    keeps_bind (current_unsaving (fires_reopenStreamIfNeeded rfl fun _ => rfl)) fun _ =>
    handleGetPreKeyCount_current config.myDeviceId

theorem handleRefreshToken_current (refreshToken : String) :
    SavesFresh config (handleRefreshToken config refreshToken : EngineM Core Unit) :=
  current_unsaving (fires_handleRefreshToken (by rfl) (fun _ => by rfl) (by rfl) (fun _ _ _ => by rfl) _ _)

theorem handleIncomingEnvelope_current (envelope : Envelope) :
    SavesFresh config (handleIncomingEnvelope envelope : EngineM Core Unit) := by
  unfold handleIncomingEnvelope
  dsimp only
  split
  · exact current_done ()
  split
  · exact current_done ()
  refine keeps_bind ?_ fun messageId => ?_
  · unfold messageIdOf
    split
    · exact current_done _
    · exact current_unsaving (uses_bind (uses_perform trivial) fun _ => uses_pure _)
  split
  · exact current_done ()
  split
  · exact handleSessionInitResponder_current _
  · exact handleDecryptMessage_current _

theorem handleIncomingFrame_current (frame : Bytes) :
    SavesFresh config (handleIncomingFrame frame : EngineM Core Unit) := by
  unfold handleIncomingFrame
  split
  · exact current_done ()
  split
  · exact current_done ()
  refine keeps_bind (keeps_of_composed save_stable
    (.option fun cursor => .piece (current_unsaving (uses_perform trivial)))) fun _ => ?_
  split
  · exact handleIncomingEnvelope_current _
  · exact keeps_of_composed save_stable (.forM fun id => .piece (current_action rfl))
  · exact current_done ()

/-- No handler saves a state that is not fresh. -/
theorem handleEvent_current (event : UiEvent) :
    SavesFresh config (handleEvent config event : EngineM Core Unit) := by
  cases event with
  | platformReady => exact current_action rfl
  | registerDevice username deviceId => exact handleRegisterDevice_current username deviceId
  | authenticate deviceId challengeResponse signingKey =>
      exact handleAuthenticate_current deviceId challengeResponse signingKey
  | refreshToken refreshToken => exact handleRefreshToken_current refreshToken
  | logout => exact current_unsaving (fires_handleLogout (by rfl) config)
  | fetchPreKeyBundle userId deviceId =>
      exact current_unsaving (fires_handleFetchPreKeyBundle (fun _ => rfl) deviceId)
  | uploadOtpks deviceId count => exact handleUploadOtpks_current deviceId count
  | getPreKeyCount deviceId => exact handleGetPreKeyCount_current deviceId
  | rotateSignedPreKey deviceId => exact handleRotateSpk_current deviceId
  | openMessageStream conversationIds sinceCursor =>
      exact current_unsaving (fires_handleOpenStream (by rfl) (fun _ => by rfl) _ _)
  | closeMessageStream => exact current_unsaving (uses_perform trivial)
  | sendMessage contactId plaintext localId conversationId level =>
      exact handleSendMessage_current contactId plaintext localId conversationId level
  | ackMessage messageId messageNumber => exact current_unsaving (fires_handleAckMessage messageId)
  | initSessionInitiator contactId => exact handleInitSessionInitiator_current contactId
  | searchUser query => exact current_unsaving (fires_handleSearchUser (fun _ => rfl) rfl)
  | registerPushToken token platform => exact current_unsaving (fires_handleRegisterPush config token)
  | backgroundPush sinceCursor => exact handleBackgroundPush_current sinceCursor
  | keychainResult key data =>
      by_cases same : key = "orchestrator_state"
      · subst same
        exact current_unsaving (fires_handleKeychainResult (fun _ => rfl) config data)
      · exact current_unsaving (fires_otherKeychainResult same config data)
  | _ => exact current_done ()

omit [Prost] in
theorem ensureConnected_current : SavesFresh config (ensureConnected : EngineM Core Unit) :=
  current_unsaving (fires_ensureConnected rfl fun _ => rfl)

/-- A selection saves nothing. -/
theorem eventLoopTurn_current (refreshArmed : Bool) :
    SavesFresh config (eventLoopTurn config refreshArmed : EngineM Core (Bool ⊕ Unit)) := by
  refine eventLoopTurn_branches (fun _ _ => True) save_stable
    (fun armed => current_unsaving (updateRefreshTimer_fires armed)) ?_ ?_ ?_
    (fun event world _ => handleEvent_current event world trivial)
    (fun frame world _ => handleIncomingFrame_current frame world trivial) (fun _ _ => trivial) refreshArmed
  · refine fun armed => keeps_perform save_stable ?_ fun _ _ _ _ _ _ _ => trivial
    rintro world - choice event - (⟨clock, rfl⟩ | ⟨ui, rfl⟩ | ⟨frame, rfl⟩) - <;> trivial
  · intro world _
    refine keeps_bind (current_unsaving (uses_perform (by trivial))) (fun due => ?_) world trivial
    cases due with
    | none => exact current_done ()
    | some due => exact handleRefreshToken_current due.refreshToken
  · intro world _
    unfold handleConnectedChange
    refine keeps_bind (current_unsaving (uses_perform (by trivial))) (fun connected => ?_) world trivial
    split
    · exact current_done ()
    · exact keeps_bind (current_action rfl) fun _ =>
        keeps_bind (current_unsaving (uses_perform trivial)) fun _ =>
        keeps_bind ensureConnected_current fun _ =>
        current_unsaving (fires_resubscribe rfl fun _ => rfl)

/-- Each branch of the loop saves only fresh exports, and between the turns nothing need be kept. -/
theorem eventLoop_current : SavesFresh config (eventLoop config : EngineM Core Unit) := by
  unfold eventLoop
  refine keeps_bind (current_unsaving (uses_perform trivial)) fun started => ?_
  rcases started with error | ⟨⟩
  · exact keeps_bind (current_action rfl) fun _ => current_unsaving (uses_perform trivial)
  · exact keeps_bind ensureConnected_current fun _ =>
      keeps_bind (current_unsaving (uses_perform trivial)) fun _ =>
      keeps_bind (keeps_iterate save_stable eventLoopTurn_current false) fun _ =>
      current_unsaving (uses_perform trivial)

/-- The engine saves only fresh exports: whatever order the inputs come in, a state that is saved was
exported last, and the core made no step since that the state would miss. -/
theorem saves_current {engine : Engine Core} (created : Engine.new config = .ok engine)
    {world : World Core} {later : EngineM Core Unit}
    (reached : Reaches (Promise.any (engineMachine Core config)) (startWorld engine, eventLoop config)
      (world, later)) : AtEach saveLaw world.engine.log := by
  obtain ⟨core, rfl⟩ := Engine.new_fresh created
  exact traced_reached (fun _ _ => trivial) (eventLoop_current _ trivial) (atEach_nil _) reached

end

def Event.saves : Event → Bool
  | .action reported => reported.saves
  | _ => false

/-- After a batch of one message the state is saved. -/
theorem saves_current_batch :
    (rehearsed (rehearsalConfig [1, 5] none) (some ⟨[5], []⟩)
        (pendingBatch [5, 65] 31)).1.engine.log.any Event.saves = true ∧
      AtEach saveLaw (rehearsed (rehearsalConfig [1, 5] none) (some ⟨[5], []⟩)
        (pendingBatch [5, 65] 31)).1.engine.log :=
  ⟨by decide +kernel, saves_current (rehearsal_with_core [5] none) (rehearsed_any _ _ _)⟩

end ConstructEngine
