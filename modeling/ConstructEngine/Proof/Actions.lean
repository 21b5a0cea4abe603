import ConstructEngine.Proof.Turn

namespace ConstructEngine

open Interaction Program Machine

variable {Core A : Type} {receiving : Prop} {actions wider : PlatformAction → Prop}

/-- The operation fires only these actions at the platform. It takes up messages and opens them only
when it may. -/
def Op.Fires (receiving : Prop) (actions : PlatformAction → Prop) : {A : Type} → Op Core A → Prop
  | _, .onAction action => actions action
  | _, .core region => region.topic = .opening → receiving
  | _, .handling .. => receiving
  | _, .select _ => False
  | _, _ => True

/-- The program fires only these actions and selects nothing. -/
abbrev Fires (receiving : Prop) (actions : PlatformAction → Prop) (program : EngineM Core A) : Prop :=
  program.Uses fun op => op.Fires receiving actions

/-- A program that fires these actions adds such events to the trace. -/
def Event.FiredBy (receiving : Prop) (actions : PlatformAction → Prop) : Event → Prop
  | .action reported => actions reported
  | .core call => call.topic = .opening → receiving
  | .handling .. => receiving
  | .refreshDue _ | .event _ | .frame _ => False
  | _ => True

theorem Fires.mono {program : EngineM Core A} (fires : Fires receiving actions program)
    (implies : ∀ action, actions action → wider action) : Fires receiving wider program :=
  Uses.mono fires fun op fires => by
    cases op with
    | onAction action => exact implies action fires
    | _ => exact fires

/-- The events of an operation are fired by it. -/
theorem traces_fired {op : Op Core A} (fires : op.Fires receiving actions) {event : Event}
    (traces : op.Traces event) : event.FiredBy receiving actions := by
  cases op with
  | onAction action => cases traces; exact fires
  | core region =>
      obtain ⟨call, rfl, reading | own⟩ := traces
      · exact fun same => by rw [reading] at same; cases same
      · exact fun same => fires (own.symm.trans same)
  | handling => cases traces; exact fires
  | select => exact fires.elim
  | exchange => cases traces; trivial
  | openExchange => cases traces; trivial
  | sendFrame => obtain ⟨accepted, rfl⟩ := traces; trivial
  | refreshReset => obtain ⟨clock, rfl⟩ := traces; trivial
  | _ => exact traces.elim

/-- A property of the trace that survives these events survives the program, and the program obeys a law
that the property gives for them. -/
theorem fires_log [ConstructCore Core] {config : EngineConfig} {law : List Event → Event → Prop}
    (holds : List Event → Prop)
    (each : ∀ log event, event.FiredBy receiving actions → holds log → holds (log ++ [event]))
    (lawful : ∀ log event, event.FiredBy receiving actions → holds log → law log event)
    {program : EngineM Core A} (fires : Fires receiving actions program) {engine : Engine Core}
    (now : holds engine.log) :
    EngineSafe (Promise.any (engineMachine Core config))
      (traceGuard (Promise.any (engineMachine Core config)) law) program
      (fun _ after => holds after.log) engine := by
  refine Owned.safe_of_uses (fun engine : Engine Core => holds engine.log) ?_ ?_ fires now
  · exact fun op world fires now choice event _ traces _ => lawful _ event (traces_fired fires traces) now
  · intro B op choice world value after fires now _ answered
    obtain ⟨more, grown, -, traces⟩ := exec_traces answered
    change holds after.engine.log
    rw [grown]
    have every : ∀ event ∈ more, event.FiredBy receiving actions :=
      fun event member => traces_fired fires (traces event member)
    clear grown traces
    induction more using List.reverseRecOn with
    | nil => rw [List.append_nil]; exact now
    | append_singleton front last ih =>
        rw [← List.append_assoc]
        refine each _ _ (every last (by simp)) (ih fun event member => every event ?_)
        exact List.mem_append_left _ member

/-- Reporting an action fires just this action. -/
theorem fires_action {action : PlatformAction} (fires : actions action) :
    Fires receiving actions (onAction action : EngineM Core Unit) := by
  unfold onAction
  exact uses_perform fires

/-- An operation that connects or reads fires nothing. -/
theorem fires_linking {op : Op Core A} (linking : Linking op.topic) : op.Fires receiving actions := by
  cases op with
  | onAction action =>
      have topic : Linking action.topic := linking
      rcases action_topic action with same | same | same | same | ⟨same, -⟩ <;>
        simp [Linking, same] at topic
  | core region => cases region <;> simp [Linking, Op.topic, CoreSection.topic] at linking
  | handling => simp [Linking, Op.topic] at linking
  | select => simp [Linking, Op.topic] at linking
  | _ => trivial

/-- The operations of the link fire nothing. -/
theorem fires_links {program : EngineM Core A} (links : Links program) : Fires receiving actions program :=
  links.mono fun _ => fires_linking

/-- A unary call fires nothing, even when it reconnects. -/
theorem fires_unaryCall (servicePath : String) (request : Bytes) :
    Fires receiving actions (unaryCall servicePath request : EngineM Core (Except EngineError Bytes)) :=
  asks_unaryCall (fun _ => fires_linking) fun _ _ => trivial

/-- Subscribing fires nothing before the caller knows the outcome. -/
theorem fires_openMessageStream (conversations : List String) (cursor : Option String) :
    Fires receiving actions (openMessageStream conversations cursor :
      EngineM Core (Except EngineError BiDiStreamHandle)) := by
  unfold openMessageStream
  refine uses_bind (fires_links (links_ensureH3 _)) fun ensured => ?_
  rcases ensured with error | ⟨⟩
  · exact uses_pure _
  refine uses_bind (fires_links links_sendRequest) fun sendReq => ?_
  rcases sendReq with error | conn
  · exact uses_pure _
  refine uses_bind (uses_perform trivial) fun token => uses_bind (uses_perform trivial) fun requestId =>
    uses_bind (uses_perform trivial) fun accepted => ?_
  rcases accepted with error | ⟨⟩
  · exact uses_pure _
  · exact uses_bind (uses_perform trivial) fun _ => uses_pure _

/-- An attempt to open the stream ends with a report of success or of the error. -/
theorem fires_handleOpenStream (ready : actions (.streamReady none))
    (failed : ∀ message, actions (.streamError message)) (conversations : List String)
    (cursor : Option String) :
    Fires receiving actions (handleOpenStream conversations cursor : EngineM Core Unit) := by
  unfold handleOpenStream
  refine uses_bind (uses_perform trivial) fun _ => uses_bind (fires_openMessageStream _ _) fun opened => ?_
  rcases opened with error | handle
  · exact fires_action (failed _)
  · exact uses_bind (uses_perform trivial) fun _ => fires_action ready

/-- Opening the stream again reports like opening it. -/
theorem fires_reopenStreamIfNeeded (ready : actions (.streamReady none))
    (failed : ∀ message, actions (.streamError message)) :
    Fires receiving actions (reopenStreamIfNeeded : EngineM Core Unit) := by
  unfold reopenStreamIfNeeded
  refine uses_bind (uses_perform trivial) fun params => ?_
  cases params with
  | none => exact uses_pure ()
  | some params => exact fires_handleOpenStream ready failed _ _

/-- A reconnect reports the stream that it opens again, and no loss of it. -/
theorem fires_resubscribe (ready : actions (.streamReady none))
    (failed : ∀ message, actions (.streamError message)) :
    Fires receiving actions (resubscribe : EngineM Core Unit) := by
  unfold resubscribe
  refine uses_bind (uses_perform trivial) fun params => ?_
  cases params with
  | none => exact uses_perform trivial
  | some params => exact uses_bind (fires_handleOpenStream ready failed _ _) fun _ => uses_perform trivial

/-- The backoff reports each failed attempt and the one that succeeds. -/
theorem fires_ensureConnected (connected : actions (.connectionStateChanged true))
    (failed : ∀ message, actions (.networkError message)) :
    Fires receiving actions (ensureConnected : EngineM Core Unit) := by
  unfold ensureConnected
  refine uses_iterate (fun delay => ?_) 1
  refine uses_bind (fires_links (links_connectH3 _)) fun attempted => ?_
  rcases attempted with error | ⟨⟩
  · refine uses_bind (fires_action (failed _)) fun _ => uses_bind ?_ fun _ => uses_pure _
    exact uses_bind (uses_perform trivial) fun now => uses_perform trivial
  · exact uses_bind (fires_action connected) fun _ => uses_pure _

section
variable (saved : ∀ stateBytes, actions (.saveKeychain "orchestrator_state" stateBytes))
include saved

/-- Saving fires nothing but the save of the blob. -/
theorem fires_saveState (stateBytes : Bytes) :
    Fires receiving actions (saveState stateBytes : EngineM Core Unit) := by
  unfold saveState
  split
  · exact uses_pure ()
  · exact fires_action (saved _)

variable [Prost]

/-- An upload saves the state and reports the number of keys. -/
theorem fires_handleUploadOtpks (uploaded : ∀ uploaded count, actions (.otpksUploaded uploaded count))
    (deviceId : String) (count : Nat) :
    Fires receiving actions (handleUploadOtpks deviceId count : EngineM Core Unit) := by
  unfold handleUploadOtpks
  refine uses_bind (uses_perform nofun) fun generated => ?_
  rcases generated with error | ⟨preKeys, stateBytes⟩
  · exact uses_pure ()
  refine uses_bind (fires_action (saved _)) fun _ => uses_bind (fires_unaryCall _ _) fun answer => ?_
  rcases answer with error | bytes
  · exact uses_pure ()
  dsimp only
  split
  · exact uses_pure ()
  · exact fires_action (uploaded _ _)

/-- A count check reports the count before it uploads what is missing. -/
theorem fires_handleGetPreKeyCount (uploaded : ∀ uploaded count, actions (.otpksUploaded uploaded count))
    (counted : ∀ count minimum, actions (.preKeyCountUpdated count minimum)) (deviceId : String) :
    Fires receiving actions (handleGetPreKeyCount deviceId : EngineM Core Unit) := by
  unfold handleGetPreKeyCount
  refine uses_bind (fires_unaryCall _ _) fun answer => ?_
  rcases answer with error | bytes
  · exact uses_pure ()
  dsimp only
  split
  · exact uses_pure ()
  · refine uses_bind (fires_action (counted _ _)) fun _ => ?_
    split
    · exact fires_handleUploadOtpks saved uploaded _ _
    · exact uses_pure ()

/-- A rotation saves the state and reports the new key. -/
theorem fires_handleRotateSpk (rotated : ∀ keyId, actions (.spkRotated keyId)) (deviceId : String) :
    Fires receiving actions (handleRotateSpk deviceId : EngineM Core Unit) := by
  unfold handleRotateSpk
  refine uses_bind (uses_perform nofun) fun made => ?_
  rcases made with error | ⟨keyId, spkPublic, spkSig, stateBytes⟩
  · exact uses_pure ()
  refine uses_bind (fires_action (saved _)) fun _ => uses_bind (fires_unaryCall _ _) fun answer => ?_
  rcases answer with error | bytes
  · exact uses_pure ()
  dsimp only
  split
  · exact uses_pure ()
  · split
    · exact fires_action (rotated _)
    · exact uses_pure ()

end

variable [Prost]

/-- A fetched bundle is reported under the user who was asked for. -/
theorem fires_handleFetchPreKeyBundle {userId : String}
    (ready : ∀ bytes, actions (.preKeyBundleReady userId bytes)) (deviceId : Option String) :
    Fires receiving actions (handleFetchPreKeyBundle userId deviceId : EngineM Core Unit) := by
  unfold handleFetchPreKeyBundle
  refine uses_bind (fires_unaryCall _ _) fun answer => ?_
  rcases answer with error | bytes
  · exact uses_pure ()
  · exact fires_action (ready _)

/-- A search is answered with the query that was asked. -/
theorem fires_handleSearchUser {query : String} (found : ∀ userId, actions (.userFound userId query))
    (missed : actions (.userNotFound query)) :
    Fires receiving actions (handleSearchUser query : EngineM Core Unit) := by
  unfold handleSearchUser
  refine uses_bind (fires_unaryCall _ _) fun answer => ?_
  rcases answer with error | bytes
  · exact fires_action missed
  dsimp only
  split
  · exact fires_action missed
  · split
    · exact fires_action missed
    · exact fires_action (found _)

theorem fires_handleRegisterPush (config : EngineConfig) (token : String) :
    Fires receiving actions (handleRegisterPush config token : EngineM Core Unit) :=
  uses_bind (fires_unaryCall _ _) fun _ => uses_pure ()

/-- A receipt of the platform is sent without a report. -/
theorem fires_handleAckMessage (messageId : String) :
    Fires receiving actions (handleAckMessage messageId : EngineM Core Unit) := by
  unfold handleAckMessage
  refine uses_bind (uses_perform trivial) fun timestamp => uses_bind (uses_perform trivial) fun stream => ?_
  cases stream with
  | none => exact uses_pure ()
  | some stream => exact uses_bind (uses_perform trivial) fun _ => uses_pure ()

/-- A receipt of the engine is sent without a report. -/
theorem fires_sendAckFrame (messageId : String) :
    Fires receiving actions (sendAckFrame messageId : EngineM Core Unit) := by
  unfold sendAckFrame
  refine uses_bind (uses_perform trivial) fun timestamp => uses_bind (uses_perform trivial) fun stream => ?_
  cases stream with
  | none => exact uses_pure ()
  | some stream => exact uses_bind (uses_perform trivial) fun _ => uses_pure ()

/-- The bundle of a session is fetched without a report. -/
theorem fires_fetchBundle (userId noBundle : String) :
    Fires receiving actions
      (fetchBundle userId noBundle : EngineM Core (Except String (PreKeyBundle × Bytes))) := by
  unfold fetchBundle
  refine uses_bind (fires_unaryCall _ _) fun answer => ?_
  rcases answer with error | bytes
  · exact uses_pure _
  dsimp only
  split
  · exact uses_pure _
  · split <;> exact uses_pure _

theorem fires_buildEnvelope (contactId localId conversationId : String) (wirePayload : Bytes)
    (level : AnonymityLevel) :
    Fires receiving actions (buildEnvelope contactId localId conversationId wirePayload level :
      EngineM Core Envelope) := by
  cases level with
  | normal => exact uses_pure _
  | ghost =>
      exact uses_bind (uses_perform trivial) fun _ => uses_bind (uses_perform trivial) fun _ =>
        uses_bind (uses_perform trivial) fun _ => uses_pure _

/-- A logout reports only that the login is cleared. -/
theorem fires_handleLogout (cleared : actions .clearAuth) (config : EngineConfig) :
    Fires receiving actions (handleLogout config : EngineM Core Unit) :=
  uses_bind (fires_unaryCall _ _) fun _ => uses_bind (uses_perform trivial) fun _ =>
    uses_bind (uses_perform trivial) fun _ => fires_action cleared

section
variable (ready : actions (.streamReady none)) (failed : ∀ message, actions (.streamError message))
  (cleared : actions .clearAuth)
include ready failed cleared

/-- A refresh reports the new tokens without a user, or it clears the login. -/
theorem fires_handleRefreshToken
    (refreshed : ∀ access refresh expiresAt, actions (.setAuthToken "" access refresh expiresAt))
    (config : EngineConfig) (refreshToken : String) :
    Fires receiving actions (handleRefreshToken config refreshToken : EngineM Core Unit) := by
  unfold handleRefreshToken
  refine uses_bind (fires_unaryCall _ _) fun answer => ?_
  split
  · exact uses_bind (uses_perform trivial) fun _ => fires_action cleared
  · exact uses_pure ()
  dsimp only
  split
  · exact uses_pure ()
  exact uses_bind (uses_perform trivial) fun _ => uses_bind (uses_perform trivial) fun _ =>
    uses_bind (fires_action (refreshed _ _ _)) fun _ => fires_reopenStreamIfNeeded ready failed

variable (saved : ∀ stateBytes, actions (.saveKeychain "orchestrator_state" stateBytes))
  (uploaded : ∀ uploaded count, actions (.otpksUploaded uploaded count))
  (counted : ∀ count minimum, actions (.preKeyCountUpdated count minimum))
  (issued : ∀ userId access refresh expiresAt, actions (.setAuthToken userId access refresh expiresAt))
include saved uploaded counted issued

/-- A login reports its tokens, its stream and its keys. -/
theorem fires_handleAuthenticate [ConstructCore Core] (config : EngineConfig) (deviceId : String)
    (challengeResponse signingKey : Bytes) :
    Fires receiving actions (handleAuthenticate config deviceId challengeResponse signingKey :
      EngineM Core Unit) := by
  unfold handleAuthenticate
  refine uses_bind (uses_perform trivial) fun timestamp => uses_bind (fires_unaryCall _ _) fun answer => ?_
  split
  · exact fires_action cleared
  · exact uses_pure ()
  split
  · exact uses_pure ()
  split
  · exact uses_pure ()
  exact uses_bind (uses_perform trivial) fun _ => uses_bind (uses_perform trivial) fun _ =>
    uses_bind (fires_action (issued _ _ _ _)) fun _ =>
    uses_bind (fires_reopenStreamIfNeeded ready failed) fun _ =>
    fires_handleGetPreKeyCount saved uploaded counted _

/-- A registration also reports the device that was registered. -/
theorem fires_handleRegisterDevice {deviceId : String}
    (registered : ∀ userId, actions (.registrationComplete userId deviceId)) (config : EngineConfig)
    (username : Option String) :
    Fires receiving actions (handleRegisterDevice config username deviceId : EngineM Core Unit) := by
  unfold handleRegisterDevice
  refine uses_bind (fires_unaryCall _ _) fun answer => ?_
  rcases answer with error | challengeBytes
  · exact uses_pure ()
  dsimp only
  split
  · exact uses_pure ()
  refine uses_bind (uses_perform trivial) fun solved => ?_
  cases solved with
  | none => exact uses_pure ()
  | some powSolution =>
  refine uses_bind (uses_perform nofun) fun keys => ?_
  rcases keys with error | publicKeys
  · exact uses_pure ()
  refine uses_bind (fires_unaryCall _ _) fun answer => ?_
  split
  · exact fires_action cleared
  · exact uses_pure ()
  split
  · exact uses_pure ()
  split
  · exact uses_pure ()
  exact uses_bind (uses_perform trivial) fun _ => uses_bind (uses_perform trivial) fun _ =>
    uses_bind (fires_action (issued _ _ _ _)) fun _ => uses_bind (fires_action (registered _)) fun _ =>
    uses_bind (fires_reopenStreamIfNeeded ready failed) fun _ =>
    fires_handleGetPreKeyCount saved uploaded counted _

end

section
variable (saved : ∀ stateBytes, actions (.saveKeychain "orchestrator_state" stateBytes))
include saved

/-- A message is saved, and its status is reported under its own local id. -/
theorem fires_handleSendMessage {localId : String}
    (refused : actions (.updateMessageStatus localId 4)) (sent : actions (.updateMessageStatus localId 1))
    (contactId : String) (plaintext : Bytes) (conversationId : String) (level : AnonymityLevel) :
    Fires receiving actions (handleSendMessage contactId plaintext localId conversationId level :
      EngineM Core Unit) := by
  unfold handleSendMessage
  refine uses_bind (uses_perform nofun) fun encrypted => ?_
  rcases encrypted with error | ⟨wirePayload, stateBytes⟩
  · exact fires_action refused
  refine uses_bind (fires_saveState saved _) fun _ => uses_bind (fires_buildEnvelope _ _ _ _ _)
    fun envelope => uses_bind (uses_perform trivial) fun stream => ?_
  cases stream with
  | none => exact fires_action refused
  | some stream =>
      refine uses_bind (uses_perform trivial) fun accepted => ?_
      rcases accepted with error | ⟨⟩
      · exact fires_action refused
      · exact fires_action sent

/-- The outcome of an initiation is reported under the contact. -/
theorem fires_handleInitSessionInitiator {contactId : String}
    (established : ∀ localId, actions (.sessionEstablished contactId localId))
    (failed : ∀ message, actions (.sessionError contactId message)) :
    Fires receiving actions (handleInitSessionInitiator contactId : EngineM Core Unit) := by
  unfold handleInitSessionInitiator
  refine uses_bind (fires_fetchBundle _ _) fun fetched => ?_
  rcases fetched with message | ⟨bundle, verifyingKey⟩
  · exact fires_action (failed _)
  refine uses_bind (uses_perform nofun) fun initiated => ?_
  rcases initiated with message | ⟨wirePayload, stateBytes⟩
  · exact fires_action (failed _)
  refine uses_bind (fires_saveState saved _) fun _ => uses_bind (uses_perform trivial) fun uuid =>
    uses_bind (uses_perform trivial) fun stream => ?_
  cases stream with
  | none => exact fires_action (established _)
  | some stream => exact uses_bind (uses_perform trivial) fun _ => fires_action (established _)

end

/-- A first message that fails waits for a retry or fails the session. -/
theorem fires_healing {message : IncomingMessage}
    (failed : ∀ text, actions (.sessionError message.senderId text)) (error : String) :
    Fires receiving actions (do
      match ← perform (.core (.heal message.senderId message.wirePayload)) with
      | .retryAllowed _ retryAfterMs => perform (.spawnRetry retryAfterMs (retryFrame message))
      | .maxAttemptsReached | .notFound =>
          perform (.core (.clearHeal message.senderId))
          onAction (.sessionError message.senderId s!"Healing failed: {error}") :
        EngineM Core Unit) := by
  refine uses_bind (uses_perform nofun) fun decision => ?_
  cases decision with
  | retryAllowed attempt retryAfterMs => exact uses_perform trivial
  | maxAttemptsReached => exact uses_bind (uses_perform nofun) fun _ => fires_action (failed _)
  | notFound => exact uses_bind (uses_perform nofun) fun _ => fires_action (failed _)

section
variable [ConstructCore Core] (may : receiving)
  (saved : ∀ stateBytes, actions (.saveKeychain "orchestrator_state" stateBytes))
  (established : ∀ contactId sessionId, actions (.sessionEstablished contactId sessionId))
  (failed : ∀ contactId message, actions (.sessionError contactId message))
  (displayed : ∀ messageId plaintext senderId conversationId timestamp,
    actions (.displayMessage messageId plaintext senderId conversationId timestamp))
include may saved established failed displayed

/-- The responder fires what the receiving paths may fire. -/
theorem fires_handleSessionInitResponder (message : IncomingMessage) :
    Fires receiving actions (handleSessionInitResponder message : EngineM Core Unit) := by
  unfold handleSessionInitResponder
  refine uses_bind (uses_perform may) fun _ => uses_bind (fires_fetchBundle _ _) fun fetched => ?_
  rcases fetched with text | ⟨bundle, verifyingKey⟩
  · exact fires_action (failed _ _)
  dsimp only
  split
  · exact fires_action (failed _ _)
  refine uses_bind (uses_perform fun _ => may) fun received => ?_
  rcases received with error | ⟨plaintext, stateBytes⟩
  · exact fires_healing (failed _) error
  · refine uses_bind (uses_perform nofun) fun _ => uses_bind (fires_saveState saved _) fun _ =>
      uses_bind (fires_sendAckFrame _) fun _ => uses_bind (fires_action (established _ _)) fun _ => ?_
    split
    · exact uses_pure ()
    · exact fires_action (displayed _ _ _ _ _)

variable (notified : ∀ messageId senderId conversationId preview timestamp,
  actions (.showNotification messageId senderId conversationId preview timestamp))
include notified

/-- A pending message fires what the receiving paths and a notification may fire. -/
theorem fires_handlePendingMessage (totals : Nat × Bool) (msg : PendingMessage) :
    Fires receiving actions (handlePendingMessage totals msg : EngineM Core (Nat × Bool)) := by
  unfold handlePendingMessage
  dsimp only
  split
  · exact uses_pure _
  split
  · exact uses_pure _
  split
  · exact uses_pure _
  split
  · exact uses_bind (fires_handleSessionInitResponder may saved established failed displayed _) fun _ =>
      uses_pure _
  refine uses_bind (uses_perform may) fun _ => uses_bind (uses_perform fun _ => may) fun received => ?_
  rcases received with error | plaintext
  · exact uses_pure _
  · exact uses_bind (fires_action (displayed _ _ _ _ _)) fun _ =>
      uses_bind (fires_action (notified _ _ _ _ _)) fun _ => uses_pure _

/-- The pages of a background fetch tell only about their messages. -/
theorem fires_backgroundPages (sinceCursor : Option String) :
    Fires receiving actions (iterate backgroundPage (sinceCursor, 0, false) : EngineM Core (Nat × Bool)) := by
  refine uses_iterate (fun progress => ?_) _
  unfold backgroundPage
  refine uses_bind (fires_unaryCall _ _) fun answer => ?_
  rcases answer with error | bytes
  · exact uses_pure _
  dsimp only
  split
  · exact uses_pure _
  refine uses_bind ?_ fun totals => ?_
  · exact Composed.uses (.foldlM (fun totals msg => .piece
      (fires_handlePendingMessage may saved established failed displayed notified totals msg)) _)
      fun _ fires => fires
  · split <;> exact uses_pure _

end

omit [Prost] in
/-- A restored state establishes sessions without an identifier. -/
theorem fires_handleKeychainResult [ConstructCore Core]
    (restored : ∀ contactId, actions (.sessionEstablished contactId "")) (config : EngineConfig)
    (data : Option Bytes) :
    Fires receiving actions
      (handleKeychainResult config "orchestrator_state" data : EngineM Core Unit) := by
  unfold handleKeychainResult
  rw [if_neg (by decide), if_pos rfl]
  cases data with
  | none => exact uses_pure ()
  | some blob =>
      refine uses_bind (uses_perform nofun) fun contacts => ?_
      exact Composed.uses (.forM fun contactId => .piece (fires_action (restored contactId)))
        fun _ fires => fires

omit [Prost] in
/-- A blob under any other key is reported to nobody. -/
theorem fires_otherKeychainResult [ConstructCore Core] {key : String} (other : key ≠ "orchestrator_state")
    (config : EngineConfig) (data : Option Bytes) :
    Fires receiving actions (handleKeychainResult config key data : EngineM Core Unit) := by
  unfold handleKeychainResult
  split
  · cases data with
    | none => exact uses_pure ()
    | some blob =>
        refine uses_bind ?_ fun _ => uses_pure ()
        unfold initCoreFromKeys
        split
        · exact uses_pure _
        · exact uses_bind (uses_perform nofun) fun _ => uses_pure _
  · exact uses_pure ()

omit [Prost] in
theorem updateRefreshTimer_fires (refreshArmed : Bool) :
    Fires receiving actions (updateRefreshTimer refreshArmed : EngineM Core Bool) := by
  unfold updateRefreshTimer
  refine uses_bind (uses_perform trivial) fun changed => ?_
  match changed with
  | none => exact uses_pure _
  | some none => exact uses_pure _
  | some (some state) =>
      exact uses_bind (uses_perform trivial) fun now => uses_bind (uses_perform trivial) fun _ =>
        uses_pure _

end ConstructEngine
