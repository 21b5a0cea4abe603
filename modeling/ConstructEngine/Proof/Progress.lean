import ConstructEngine.Construction.EventLoop
import ConstructEngine.Interaction.Progress
import ConstructEngine.Proof.Effect

namespace ConstructEngine

open Interaction Program Machine

variable {Core A B : Type}

/-- The mutex of the stored subscription is free, and the subscription satisfies a condition. -/
def Free (keep : Option StreamParams → Prop) (world : World Core) : Prop :=
  world.engine.paramsHeld = false ∧ keep world.engine.streamParams

/-- Most handlers need only the free mutex. -/
abbrev Unlocked : World Core → Prop := Free fun _ => True

/-- While the mutex of the subscription is free, every operation is answered at once, apart from those that
can wait. The timer, the mutex and the receivers are the loop's own. -/
def Op.prompt : {A : Type} → Op Core A → Bool
  | _, .select _ => false
  | _, .sleepUntil _ => false
  | _, .sendFrame .. => false
  | _, .refreshReset _ => false
  | _, .paramsLock | _, .paramsUnlock => false
  | _, .rxDrop => false
  | _, _ => true

/-- A plain operation is prompt and leaves the subscription alone. -/
def Op.plain (op : Op Core A) : Bool := op.prompt && !op.writes .streamParams

/-- A prompt operation leaves the mutex of the subscription free. -/
theorem Op.unlocking {op : Op Core A} (prompt : op.prompt = true) : op.writes .paramsHeld = false := by
  cases op with
  | paramsLock => cases prompt
  | paramsUnlock => cases prompt
  | _ => rfl

/-- A connection attempt and a stream that is asked for do not fail. -/
def Op.granted (config : EngineConfig) : {A : Type} → Op Core A → Choice → Prop
  | _, .quicConnect, choice => choice.connect.result config = .ok ()
  | _, .openExchange .., choice => choice.opened.accepted = .ok ()
  | _, _, _ => True

/-- This answer makes every attempt succeed. -/
def willing : Choice := { opened := { recvResponse := .ok ⟨200, "200 OK"⟩ } }

/-- The willing answer is allowed wherever attempts must succeed. -/
theorem Op.granted_willing (config : EngineConfig) (op : Op Core A) : op.granted config willing := by
  cases op with
  | quicConnect => rfl
  | openExchange => rfl
  | _ => trivial

variable [ConstructCore Core] {config : EngineConfig} {keep : Option StreamParams → Prop}

/-- The willing answer is possible for every prompt operation. -/
theorem exec_prompt {op : Op Core A} (prompt : op.prompt = true) {world : World Core}
    (free : world.engine.paramsHeld = false) :
    ∃ value after, exec config op willing world = some (value, after) := by
  cases op with
  | select => cases prompt
  | sleepUntil => cases prompt
  | sendFrame => cases prompt
  | refreshReset => cases prompt
  | paramsLock => cases prompt
  | paramsUnlock => cases prompt
  | rxDrop => cases prompt
  | paramsRead => exact ⟨_, _, if_neg (Bool.eq_false_iff.mp free)⟩
  | paramsWrite params => exact ⟨_, _, if_neg (Bool.eq_false_iff.mp free)⟩
  | paramsCursor cursor => exact ⟨_, _, if_neg (Bool.eq_false_iff.mp free)⟩
  | tokenHasChanged =>
      simp only [exec]
      split <;> exact ⟨_, _, rfl⟩
  | _ => exact ⟨_, _, rfl⟩

/-- Only the loop's own operations lock the mutex. -/
theorem exec_free {op : Op Core A} {choice : Choice} {world after : World Core} {value : A}
    (unlocking : op.writes .paramsHeld = false)
    (keeps : op.writes .streamParams = true → ∀ params, keep params)
    (answered : exec config op choice world = some (value, after)) (now : Free keep world) :
    Free keep after := by
  have frame := exec_frame answered
  refine ⟨(frame.paramsHeld unlocking).trans now.1, ?_⟩
  cases stores : op.writes .streamParams with
  | true => exact keeps stores _
  | false =>
      rw [frame.streamParams stores]
      exact now.2

/-- An operation that touches neither the mutex nor the subscription keeps the condition on them. -/
theorem exec_apart {op : Op Core A} {choice : Choice} {world after : World Core} {value : A}
    (unlocking : op.writes .paramsHeld = false) (apart : op.writes .streamParams = false)
    (answered : exec config op choice world = some (value, after)) (now : Free keep world) : Free keep after :=
  exec_free unlocking (fun stores => by rw [apart] at stores; cases stores) answered now

/-- The environment does not reach the mutex. -/
theorem free_stable {promise : (engineMachine Core config).Promise} :
    Stable promise (Free keep : World Core → Prop) :=
  (engineOwned Core config).stable fun engine => engine.paramsHeld = false ∧ keep engine.streamParams

/-- An operation that can wait is resumable when the environment can always have it answered. -/
theorem resumes_waiting {past future : (engineMachine Core config).Promise} {op : Op Core A}
    (unlocking : op.writes .paramsHeld = false) (apart : op.writes .streamParams = false)
    (answers : ∀ world, Free keep world →
      CanFinish future (perform op : EngineM Core A) (fun _ => Free keep) world) :
    Resumable past future (Free keep) (perform op : EngineM Core A) :=
  resumable_perform free_stable answers fun _ _ _ _ now _ answered =>
    exec_apart unlocking apart answered now

/-- An answer at once ends an operation. -/
theorem answers_now {future : (engineMachine Core config).Promise} {op : Op Core A} (choice : Choice)
    {world after : World Core} {value : A} (unlocking : op.writes .paramsHeld = false)
    (apart : op.writes .streamParams = false) (kept : future.answers op choice world)
    (answered : exec config op choice world = some (value, after)) (now : Free keep world) :
    CanFinish future (perform op : EngineM Core A) (fun _ => Free keep) world :=
  canFinish_ask choice kept answered (canFinish_done (exec_apart unlocking apart answered now))

/-- This environment answers every prompt operation and lets every attempt succeed. -/
def Prompt (future : (engineMachine Core config).Promise) : Prop :=
  ∀ {A : Type} (op : Op Core A) world, op.prompt = true → future.answers op willing world

section
variable {past future : (engineMachine Core config).Promise}

/-- Nothing is left to resume. -/
theorem resumes_done (value : A) : Resumable past future (Free keep) (.done value : EngineM Core A) :=
  resumable_done free_stable value

variable (allows : Prompt future)
include allows

/-- A prompt operation resumes when the condition survives what it stores. -/
theorem resumes_prompt {op : Op Core A} (prompt : op.prompt = true)
    (keeps : op.writes .streamParams = true → ∀ params, keep params) :
    Resumable past future (Free keep) (perform op : EngineM Core A) := by
  refine resumable_perform free_stable (fun world now => ?_) fun choice world value after now _ answered =>
    exec_free (Op.unlocking prompt) keeps answered now
  obtain ⟨value, after, answered⟩ := exec_prompt prompt now.1
  exact canFinish_ask willing (allows op _ prompt) answered
    (canFinish_done (exec_free (Op.unlocking prompt) keeps answered now))

/-- A plain operation resumes under every condition on the subscription. -/
theorem resumes_plain {op : Op Core A} (plain : op.plain = true) :
    Resumable past future (Free keep) (perform op : EngineM Core A) := by
  unfold Op.plain at plain
  rw [Bool.and_eq_true, Bool.not_eq_true'] at plain
  exact resumes_prompt allows plain.1 fun stores => by rw [plain.2] at stores; cases stores

/-- A plain operation is answered, and the rest goes on. -/
theorem resumes_ask {op : Op Core B} (plain : op.plain = true) {rest : B → EngineM Core A}
    (later : ∀ answer, Resumable past future (Free keep) (rest answer)) :
    Resumable past future (Free keep) (perform op >>= rest) :=
  resumable_bind (resumes_plain allows plain) later

theorem resumes_action (action : PlatformAction) :
    Resumable past future (Free keep) (onAction action : EngineM Core Unit) := resumes_plain allows rfl

/-- An attempt to connect waits for nothing but its answers. -/
theorem resumes_connectH3 (site : ConnectSite) :
    Resumable past future (Free keep) (connectH3 site : EngineM Core (Except EngineError Unit)) := by
  unfold connectH3
  refine resumes_ask allows rfl fun _ => resumes_ask allows rfl fun connected => ?_
  rcases connected with error | conn
  · exact resumes_done _
  · exact resumes_ask allows rfl fun _ => resumes_ask allows rfl fun _ => resumes_done _

theorem resumes_ensureH3 (site : ConnectSite) :
    Resumable past future (Free keep) (ensureH3 site : EngineM Core (Except EngineError Unit)) := by
  unfold ensureH3
  refine resumes_ask allows rfl fun stored => ?_
  cases stored with
  | none => exact resumes_connectH3 allows site
  | some conn => exact resumes_done _

theorem resumes_sendRequest :
    Resumable past future (Free keep) (sendRequest : EngineM Core (Except EngineError Nat)) := by
  unfold sendRequest
  refine resumes_ask allows rfl fun stored => ?_
  cases stored <;> exact resumes_done _

/-- A unary call comes to its end, with an answer or an error. -/
theorem resumes_unaryCall (servicePath : String) (request : Bytes) :
    Resumable past future (Free keep)
      (unaryCall servicePath request : EngineM Core (Except EngineError Bytes)) := by
  unfold unaryCall
  refine resumable_bind (resumes_ensureH3 allows _) fun ensured => ?_
  rcases ensured with error | ⟨⟩
  · exact resumes_done _
  refine resumable_bind (resumes_sendRequest allows) fun sendReq => ?_
  rcases sendReq with error | conn
  · exact resumes_done _
  refine resumes_ask allows rfl fun token => resumes_ask allows rfl fun exchange => ?_
  split
  · exact resumes_ask allows rfl fun _ => resumes_done _
  · exact resumes_done _

/-- Subscribing comes to its end, with a handle or an error. -/
theorem resumes_openMessageStream (conversations : List String) (cursor : Option String) :
    Resumable past future Unlocked (openMessageStream conversations cursor :
      EngineM Core (Except EngineError BiDiStreamHandle)) := by
  unfold openMessageStream
  refine resumable_bind (resumes_ensureH3 allows _) fun ensured => ?_
  rcases ensured with error | ⟨⟩
  · exact resumes_done _
  refine resumable_bind (resumes_sendRequest allows) fun sendReq => ?_
  rcases sendReq with error | conn
  · exact resumes_done _
  refine resumes_ask allows rfl fun token => resumes_ask allows rfl fun requestId =>
    resumes_ask allows rfl fun accepted => ?_
  rcases accepted with error | ⟨⟩
  · exact resumes_done _
  · exact resumes_ask allows rfl fun _ => resumes_done _

/-- The stream opens, or the error is reported. -/
theorem resumes_handleOpenStream (conversations : List String) (cursor : Option String) :
    Resumable past future Unlocked (handleOpenStream conversations cursor : EngineM Core Unit) := by
  unfold handleOpenStream
  refine resumable_bind (resumes_prompt allows rfl fun _ _ => trivial) fun _ =>
    resumable_bind (resumes_openMessageStream allows _ _) fun opened => ?_
  rcases opened with error | handle
  · exact resumes_action allows _
  · exact resumes_ask allows rfl fun _ => resumes_action allows _

/-- Reading the parameters frees the mutex before the stream opens. -/
theorem resumes_reopenStreamIfNeeded :
    Resumable past future Unlocked (reopenStreamIfNeeded : EngineM Core Unit) := by
  unfold reopenStreamIfNeeded
  refine resumes_ask allows rfl fun params => ?_
  cases params with
  | none => exact resumes_done ()
  | some params => exact resumes_handleOpenStream allows _ _

theorem resumes_saveState (stateBytes : Bytes) :
    Resumable past future Unlocked (saveState stateBytes : EngineM Core Unit) := by
  unfold saveState
  split
  · exact resumes_done ()
  · exact resumes_action allows _

/-- Only the reset of the timer can wait. -/
theorem resumes_updateRefreshTimer (refreshArmed : Bool)
    (resets : ∀ secs, Resumable past future (Free keep) (perform (.refreshReset secs) : EngineM Core Unit)) :
    Resumable past future (Free keep) (updateRefreshTimer refreshArmed : EngineM Core Bool) := by
  unfold updateRefreshTimer
  refine resumes_ask allows rfl fun changed => ?_
  match changed with
  | none => exact resumes_done _
  | some none => exact resumes_done _
  | some (some state) =>
      exact resumes_ask allows rfl fun now => resumable_bind (resets _) fun _ => resumes_done _

/-- The restored sessions are reported one by one. -/
theorem resumes_handleKeychainResult (key : String) (data : Option Bytes) :
    Resumable past future Unlocked (handleKeychainResult config key data : EngineM Core Unit) := by
  unfold handleKeychainResult
  split
  · cases data with
    | none => exact resumes_done ()
    | some blob =>
        refine resumable_bind ?_ fun _ => resumes_done ()
        unfold initCoreFromKeys
        split
        · exact resumes_done _
        · exact resumes_ask allows rfl fun _ => resumes_done _
  · split
    · cases data with
      | none => exact resumes_done ()
      | some blob =>
          exact resumes_ask allows rfl fun contacts =>
            resumable_forM free_stable fun contactId => resumes_action allows _
    · exact resumes_done ()

variable [Prost]

/-- An upload ends with its call. -/
theorem resumes_handleUploadOtpks (deviceId : String) (count : Nat) :
    Resumable past future Unlocked (handleUploadOtpks deviceId count : EngineM Core Unit) := by
  unfold handleUploadOtpks
  refine resumes_ask allows rfl fun generated => ?_
  rcases generated with error | ⟨preKeys, stateBytes⟩
  · exact resumes_done ()
  refine resumable_bind (resumes_action allows _) fun _ =>
    resumable_bind (resumes_unaryCall allows _ _) fun answer => ?_
  rcases answer with error | bytes
  · exact resumes_done ()
  dsimp only
  split
  · exact resumes_done ()
  · exact resumes_action allows _

/-- A count check ends with its upload. -/
theorem resumes_handleGetPreKeyCount (deviceId : String) :
    Resumable past future Unlocked (handleGetPreKeyCount deviceId : EngineM Core Unit) := by
  unfold handleGetPreKeyCount
  refine resumable_bind (resumes_unaryCall allows _ _) fun answer => ?_
  rcases answer with error | bytes
  · exact resumes_done ()
  dsimp only
  split
  · exact resumes_done ()
  · refine resumable_bind (resumes_action allows _) fun _ => ?_
    split
    · exact resumes_handleUploadOtpks allows _ _
    · exact resumes_done ()

theorem resumes_handleRotateSpk (deviceId : String) :
    Resumable past future Unlocked (handleRotateSpk deviceId : EngineM Core Unit) := by
  unfold handleRotateSpk
  refine resumes_ask allows rfl fun made => ?_
  rcases made with error | ⟨keyId, spkPublic, spkSig, stateBytes⟩
  · exact resumes_done ()
  refine resumable_bind (resumes_action allows _) fun _ =>
    resumable_bind (resumes_unaryCall allows _ _) fun answer => ?_
  rcases answer with error | bytes
  · exact resumes_done ()
  dsimp only
  split
  · exact resumes_done ()
  · split
    · exact resumes_action allows _
    · exact resumes_done ()

/-- A registration ends with its count check. -/
theorem resumes_handleRegisterDevice (username : Option String) (deviceId : String) :
    Resumable past future Unlocked (handleRegisterDevice config username deviceId : EngineM Core Unit) := by
  unfold handleRegisterDevice
  refine resumable_bind (resumes_unaryCall allows _ _) fun answer => ?_
  rcases answer with error | challengeBytes
  · exact resumes_done ()
  dsimp only
  split
  · exact resumes_done ()
  refine resumes_ask allows rfl fun solved => ?_
  cases solved with
  | none => exact resumes_done ()
  | some powSolution =>
  refine resumes_ask allows rfl fun keys => ?_
  rcases keys with error | publicKeys
  · exact resumes_done ()
  refine resumable_bind (resumes_unaryCall allows _ _) fun answer => ?_
  split
  · exact resumes_action allows _
  · exact resumes_done ()
  split
  · exact resumes_done ()
  split
  · exact resumes_done ()
  exact resumes_ask allows rfl fun _ => resumes_ask allows rfl fun _ =>
    resumable_bind (resumes_action allows _) fun _ => resumable_bind (resumes_action allows _) fun _ =>
    resumable_bind (resumes_reopenStreamIfNeeded allows) fun _ => resumes_handleGetPreKeyCount allows _

/-- A login ends with its count check. -/
theorem resumes_handleAuthenticate (deviceId : String) (challengeResponse signingKey : Bytes) :
    Resumable past future Unlocked (handleAuthenticate config deviceId challengeResponse signingKey :
      EngineM Core Unit) := by
  unfold handleAuthenticate
  refine resumes_ask allows rfl fun timestamp =>
    resumable_bind (resumes_unaryCall allows _ _) fun answer => ?_
  split
  · exact resumes_action allows _
  · exact resumes_done ()
  split
  · exact resumes_done ()
  split
  · exact resumes_done ()
  exact resumes_ask allows rfl fun _ => resumes_ask allows rfl fun _ =>
    resumable_bind (resumes_action allows _) fun _ =>
    resumable_bind (resumes_reopenStreamIfNeeded allows) fun _ => resumes_handleGetPreKeyCount allows _

/-- A refresh ends with its stream. -/
theorem resumes_handleRefreshToken (refreshToken : String) :
    Resumable past future Unlocked (handleRefreshToken config refreshToken : EngineM Core Unit) := by
  unfold handleRefreshToken
  refine resumable_bind (resumes_unaryCall allows _ _) fun answer => ?_
  split
  · exact resumes_ask allows rfl fun _ => resumes_action allows _
  · exact resumes_done ()
  dsimp only
  split
  · exact resumes_done ()
  exact resumes_ask allows rfl fun _ => resumes_ask allows rfl fun _ =>
    resumable_bind (resumes_action allows _) fun _ => resumes_reopenStreamIfNeeded allows

theorem resumes_handleLogout : Resumable past future Unlocked (handleLogout config : EngineM Core Unit) :=
  resumable_bind (resumes_unaryCall allows _ _) fun _ => resumes_ask allows rfl fun _ =>
    resumes_ask allows rfl fun _ => resumes_action allows _

/-- A bundle is reported, or the call has failed. -/
theorem resumes_handleFetchPreKeyBundle (userId : String) (deviceId : Option String) :
    Resumable past future Unlocked (handleFetchPreKeyBundle userId deviceId : EngineM Core Unit) := by
  unfold handleFetchPreKeyBundle
  refine resumable_bind (resumes_unaryCall allows _ _) fun answer => ?_
  rcases answer with error | bytes
  · exact resumes_done ()
  · exact resumes_action allows _

/-- A search always ends with a report. -/
theorem resumes_handleSearchUser (query : String) :
    Resumable past future Unlocked (handleSearchUser query : EngineM Core Unit) := by
  unfold handleSearchUser
  refine resumable_bind (resumes_unaryCall allows _ _) fun answer => ?_
  rcases answer with error | bytes
  · exact resumes_action allows _
  dsimp only
  split
  · exact resumes_action allows _
  · split <;> exact resumes_action allows _

theorem resumes_handleRegisterPush (token : String) :
    Resumable past future Unlocked (handleRegisterPush config token : EngineM Core Unit) :=
  resumable_bind (resumes_unaryCall allows _ _) fun _ => resumes_done ()

/-- A bundle is found or missed. -/
theorem resumes_fetchBundle (userId noBundle : String) :
    Resumable past future Unlocked
      (fetchBundle userId noBundle : EngineM Core (Except String (PreKeyBundle × Bytes))) := by
  unfold fetchBundle
  refine resumable_bind (resumes_unaryCall allows _ _) fun answer => ?_
  rcases answer with error | bytes
  · exact resumes_done _
  dsimp only
  split
  · exact resumes_done _
  · split <;> exact resumes_done _

theorem resumes_buildEnvelope (contactId localId conversationId : String) (wirePayload : Bytes)
    (level : AnonymityLevel) :
    Resumable past future Unlocked (buildEnvelope contactId localId conversationId wirePayload level :
      EngineM Core Envelope) := by
  cases level with
  | normal => exact resumes_done _
  | ghost =>
      exact resumes_ask allows rfl fun _ => resumes_ask allows rfl fun _ =>
        resumes_ask allows rfl fun _ => resumes_done _

variable (sends : ∀ site handle frame, Resumable past future Unlocked
  (perform (.sendFrame site handle frame) : EngineM Core (Except EngineError Unit)))
include sends

/-- A receipt waits for room in the queue of its stream. -/
theorem resumes_handleAckMessage (messageId : String) :
    Resumable past future Unlocked (handleAckMessage messageId : EngineM Core Unit) := by
  unfold handleAckMessage
  refine resumes_ask allows rfl fun timestamp => resumes_ask allows rfl fun stream => ?_
  cases stream with
  | none => exact resumes_done ()
  | some stream => exact resumable_bind (sends _ _ _) fun _ => resumes_done ()

/-- The receipt of the engine waits for the same room. -/
theorem resumes_sendAckFrame (messageId : String) :
    Resumable past future Unlocked (sendAckFrame messageId : EngineM Core Unit) := by
  unfold sendAckFrame
  refine resumes_ask allows rfl fun timestamp => resumes_ask allows rfl fun stream => ?_
  cases stream with
  | none => exact resumes_done ()
  | some stream => exact resumable_bind (sends _ _ _) fun _ => resumes_done ()

/-- A message waits for room in the queue and then reports its status. -/
theorem resumes_handleSendMessage (contactId : String) (plaintext : Bytes)
    (localId conversationId : String) (level : AnonymityLevel) :
    Resumable past future Unlocked (handleSendMessage contactId plaintext localId conversationId level :
      EngineM Core Unit) := by
  unfold handleSendMessage
  refine resumes_ask allows rfl fun encrypted => ?_
  rcases encrypted with error | ⟨wirePayload, stateBytes⟩
  · exact resumes_action allows _
  refine resumable_bind (resumes_saveState allows _) fun _ =>
    resumable_bind (resumes_buildEnvelope allows _ _ _ _ _) fun envelope =>
    resumes_ask allows rfl fun stream => ?_
  cases stream with
  | none => exact resumes_action allows _
  | some stream =>
      refine resumable_bind (sends _ _ _) fun accepted => ?_
      rcases accepted with error | ⟨⟩ <;> exact resumes_action allows _

/-- An initiation waits for room in the queue and then reports its session. -/
theorem resumes_handleInitSessionInitiator (contactId : String) :
    Resumable past future Unlocked (handleInitSessionInitiator contactId : EngineM Core Unit) := by
  unfold handleInitSessionInitiator
  refine resumable_bind (resumes_fetchBundle allows _ _) fun fetched => ?_
  rcases fetched with message | ⟨bundle, verifyingKey⟩
  · exact resumes_action allows _
  refine resumes_ask allows rfl fun initiated => ?_
  rcases initiated with message | ⟨wirePayload, stateBytes⟩
  · exact resumes_action allows _
  refine resumable_bind (resumes_saveState allows _) fun _ => resumes_ask allows rfl fun uuid =>
    resumes_ask allows rfl fun stream => ?_
  cases stream with
  | none => exact resumes_action allows _
  | some stream => exact resumable_bind (sends _ _ _) fun _ => resumes_action allows _

/-- The responder resumes on each of its ways out. -/
theorem resumes_handleSessionInitResponder (message : IncomingMessage) :
    Resumable past future Unlocked (handleSessionInitResponder message : EngineM Core Unit) := by
  unfold handleSessionInitResponder
  refine resumes_ask allows rfl fun _ =>
    resumable_bind (resumes_fetchBundle allows _ _) fun fetched => ?_
  rcases fetched with text | ⟨bundle, verifyingKey⟩
  · exact resumes_action allows _
  dsimp only
  split
  · exact resumes_action allows _
  refine resumes_ask allows rfl fun received => ?_
  rcases received with error | ⟨plaintext, stateBytes⟩
  · refine resumes_ask allows rfl fun decision => ?_
    cases decision with
    | retryAllowed attempt retryAfterMs => exact resumes_plain allows rfl
    | maxAttemptsReached => exact resumes_ask allows rfl fun _ => resumes_action allows _
    | notFound => exact resumes_ask allows rfl fun _ => resumes_action allows _
  · refine resumes_ask allows rfl fun _ => resumable_bind (resumes_saveState allows _) fun _ =>
      resumable_bind (resumes_sendAckFrame allows sends _) fun _ =>
      resumable_bind (resumes_action allows _) fun _ => ?_
    split
    · exact resumes_done ()
    · exact resumes_action allows _

/-- A message that cannot be decrypted ends the handler at once. -/
theorem resumes_handleDecryptMessage (message : IncomingMessage) :
    Resumable past future Unlocked (handleDecryptMessage message : EngineM Core Unit) := by
  unfold handleDecryptMessage
  refine resumes_ask allows rfl fun _ => resumes_ask allows rfl fun decrypted => ?_
  rcases decrypted with error | ⟨plaintext, stateBytes⟩
  · exact resumes_done ()
  · exact resumable_bind (resumes_saveState allows _) fun _ =>
      resumable_bind (resumes_sendAckFrame allows sends _) fun _ => resumes_action allows _

/-- The cursor waits for the mutex, which is free. -/
theorem resumes_handleIncomingFrame (frame : Bytes) :
    Resumable past future Unlocked (handleIncomingFrame frame : EngineM Core Unit) := by
  unfold handleIncomingFrame
  split
  · exact resumes_done ()
  split
  · exact resumes_done ()
  refine resumable_bind (resumable_option free_stable fun cursor =>
    resumes_prompt allows rfl fun _ _ => trivial) fun _ => ?_
  split
  · unfold handleIncomingEnvelope
    dsimp only
    split
    · exact resumes_done ()
    split
    · exact resumes_done ()
    refine resumable_bind ?_ fun messageId => ?_
    · unfold messageIdOf
      split
      · exact resumes_done _
      · exact resumes_ask allows rfl fun _ => resumes_done _
    split
    · exact resumes_done ()
    split
    · exact resumes_handleSessionInitResponder allows sends _
    · exact resumes_handleDecryptMessage allows sends _
  · exact resumable_forM free_stable fun id => resumes_action allows _
  · exact resumes_done ()

/-- A pending message resumes like a received one. -/
theorem resumes_handlePendingMessage (totals : Nat × Bool) (msg : PendingMessage) :
    Resumable past future Unlocked (handlePendingMessage totals msg : EngineM Core (Nat × Bool)) := by
  unfold handlePendingMessage
  dsimp only
  split
  · exact resumes_done _
  split
  · exact resumes_done _
  split
  · exact resumes_done _
  split
  · exact resumable_bind (resumes_handleSessionInitResponder allows sends _) fun _ => resumes_done _
  refine resumes_ask allows rfl fun _ => resumes_ask allows rfl fun received => ?_
  rcases received with error | plaintext
  · exact resumes_done _
  · exact resumable_bind (resumes_action allows _) fun _ => resumable_bind (resumes_action allows _) fun _ =>
      resumes_done _

end

section
variable {past future : (engineMachine Core config).Promise} (allows : Prompt future)
include allows

/-- An attempt that meets no failure connects. -/
theorem connectH3_succeeds (site : ConnectSite) {world : World Core} (now : Free keep world) :
    CanFinish future (connectH3 site : EngineM Core (Except EngineError Unit))
      (fun answer after => answer = .ok () ∧ after.net.connected.value = true ∧ Free keep after) world :=
  canFinish_ask willing (allows _ _ rfl) rfl <| canFinish_ask willing (allows _ _ rfl) rfl <|
    canFinish_ask willing (allows _ _ rfl) rfl <| canFinish_ask willing (allows _ _ rfl) rfl <|
    canFinish_done ⟨rfl, rfl, now⟩

/-- A turn of the reconnect loop leaves the loop when its attempt succeeds. -/
theorem attempt_succeeds (delay : Nat) {world : World Core} (now : Free keep world) :
    CanFinish future (do
      match ← connectH3 .ensureConnected with
      | .ok () =>
          onAction (.connectionStateChanged true)
          return .inr ()
      | .error error =>
          onAction (.networkError s!"Reconnecting in {delay}s… ({error})")
          sleep delay
          return .inl (min (delay * 2) 60) : EngineM Core (Nat ⊕ Unit))
      (fun outcome after => ∃ value, outcome = .inr value ∧
        after.net.connected.value = true ∧ Free keep after) world := by
  refine (connectH3_succeeds allows _ now).bind fun answer after connected => ?_
  obtain ⟨rfl, connected⟩ := connected
  exact canFinish_ask willing (allows _ _ rfl) rfl (canFinish_done ⟨(), rfl, connected⟩)

/-- The next attempt of the backoff succeeds and leaves the watch at true. -/
theorem ensureConnected_succeeds {world : World Core} (now : Free keep world) :
    CanFinish future (ensureConnected : EngineM Core Unit)
      (fun _ after => after.net.connected.value = true ∧ Free keep after) world := by
  unfold ensureConnected
  exact canFinish_iterate (attempt_succeeds allows 1 now)

/-- A backoff that sleeps wakes up for a last attempt. -/
theorem resumes_ensureConnected
    (sleeps : ∀ deadline, Resumable past future (Free keep) (perform (.sleepUntil deadline) : EngineM Core Unit)) :
    Resumable past future (Free keep) (ensureConnected : EngineM Core Unit) := by
  unfold ensureConnected
  refine resumable_iterate free_stable (fun delay => ?_) (fun delay world now => canFinish_iterate
    ((attempt_succeeds allows delay now).weaken fun outcome after left => ?_)) 1
  · refine resumable_bind (resumes_connectH3 allows _) fun attempted => ?_
    rcases attempted with error | ⟨⟩
    · refine resumable_bind (resumes_action allows _) fun _ => resumable_bind ?_ fun _ => resumes_done _
      exact resumes_ask allows rfl fun now => sleeps _
    · exact resumable_bind (resumes_action allows _) fun _ => resumes_done _
  · obtain ⟨value, rfl, -, free⟩ := left
    exact ⟨value, rfl, free⟩

omit allows in
/-- Without a stored subscription the mutex is locked and freed again. -/
theorem resumes_resubscribe (locks : ∀ world, future.answers .paramsLock willing world)
    (unlocks : ∀ world, future.answers .paramsUnlock willing world) :
    Resumable past future (Free (· = none)) (resubscribe : EngineM Core Unit) := by
  have frees {world : World Core} (absent : world.engine.streamParams = none) :
      CanFinish future (perform .paramsUnlock : EngineM Core Unit) (fun _ => Free (· = none)) world :=
    canFinish_ask willing (unlocks world) rfl (canFinish_done ⟨rfl, absent⟩)
  intro world after later now reached
  unfold resubscribe at reached
  obtain ⟨rfl, waits⟩ | ⟨choice, before, params, locked, calmly, -, answered, path⟩ :=
    reaches_ask_calm free_stable now reached
  · have answered : exec config .paramsLock willing after = some (after.engine.streamParams,
        { after with engine := { after.engine with paramsHeld := true } }) := if_neg (Bool.eq_false_iff.mp waits.1)
    rw [waits.2] at answered
    exact ⟨canFinish_ask willing (locks after) answered (frees waits.2), nofun⟩
  · change exec config .paramsLock choice before = _ at answered
    obtain ⟨-, rfl, same⟩ := paramsLock_effect answered
    rw [calmly.2] at path
    have unlocking : Reaches past (locked, perform .paramsUnlock) (after, later) := path
    have bare : locked.engine.streamParams = none := by rw [same]; exact calmly.2
    have absent : Stable past fun world : World Core => world.engine.streamParams = none :=
      (engineOwned Core config).stable fun engine => engine.streamParams = none
    obtain ⟨rfl, waits⟩ | ⟨choice, between, _, freed, absent, -, answered, ended⟩ :=
      reaches_ask_calm absent bare unlocking
    · exact ⟨frees waits, nofun⟩
    · change exec config .paramsUnlock choice between = _ at answered
      have free : Free (· = none) freed := by cases answered; exact ⟨rfl, absent⟩
      exact resumes_done _ freed after later free ended

/-- Without a stored subscription a lost connection costs only the stream. -/
theorem resumes_handleDisconnect
    (sleeps : ∀ deadline,
      Resumable past future (Free (· = none)) (perform (.sleepUntil deadline) : EngineM Core Unit))
    (locks : ∀ world, future.answers .paramsLock willing world)
    (unlocks : ∀ world, future.answers .paramsUnlock willing world) :
    Resumable past future (Free (· = none)) (handleDisconnect : EngineM Core Unit) :=
  resumable_bind (resumes_action allows _) fun _ => resumes_ask allows rfl fun _ =>
    resumable_bind (resumes_ensureConnected allows sleeps) fun _ => resumes_resubscribe locks unlocks

/-- A server that closes the request fails the call. -/
theorem unaryCall_fails (servicePath : String) (request : Bytes) {world : World Core}
    (now : Free keep world) :
    CanFinish future (unaryCall servicePath request : EngineM Core (Except EngineError Bytes))
      (fun answer after => (∃ error, answer = .error error) ∧ Free keep after) world := by
  unfold unaryCall
  have ensures : Resumable future future (Free keep)
      (ensureH3 .unaryCall : EngineM Core (Except EngineError Unit)) := resumes_ensureH3 allows _
  have requests : Resumable future future (Free keep)
      (sendRequest : EngineM Core (Except EngineError Nat)) := resumes_sendRequest allows
  refine (ensures.finishes now).bind fun ensured world now => ?_
  rcases ensured with error | ⟨⟩
  · exact canFinish_done ⟨⟨error, rfl⟩, now⟩
  refine (requests.finishes now).bind fun sendReq world now => ?_
  rcases sendReq with error | conn
  · exact canFinish_done ⟨⟨error, rfl⟩, now⟩
  exact canFinish_ask willing (allows _ _ rfl) rfl <| canFinish_ask willing (allows _ _ rfl) rfl <|
    canFinish_ask willing (allows _ _ rfl) rfl <| canFinish_done ⟨⟨_, rfl⟩, now⟩

/-- A call that fails ends the fetch. -/
theorem backgroundPage_leaves [Prost] (progress : Option String × Nat × Bool) {world : World Core}
    (now : Free keep world) :
    CanFinish future (backgroundPage progress : EngineM Core _)
      (fun outcome after => ∃ totals, outcome = .inr totals ∧ Free keep after) world := by
  unfold backgroundPage
  refine (unaryCall_fails allows _ _ now).bind fun answer after failed => ?_
  obtain ⟨⟨error, rfl⟩, now⟩ := failed
  exact canFinish_done ⟨_, rfl, now⟩

variable (sends : ∀ site handle frame, Resumable past future Unlocked
  (perform (.sendFrame site handle frame) : EngineM Core (Except EngineError Unit)))
include sends

/-- A background fetch ends at its next page. -/
theorem resumes_handleBackgroundPush [Prost] (sinceCursor : Option String) :
    Resumable past future Unlocked (handleBackgroundPush sinceCursor : EngineM Core Unit) := by
  unfold handleBackgroundPush
  refine resumable_bind (resumable_iterate free_stable (fun progress => ?page)
    (fun progress world now => canFinish_iterate (backgroundPage_leaves allows progress now)) _) fun totals =>
    resumes_ask allows rfl fun exported =>
    resumable_bind (resumable_option free_stable fun stateBytes => resumes_saveState allows stateBytes) fun _ =>
    resumes_action allows _
  case page =>
    unfold backgroundPage
    refine resumable_bind (resumes_unaryCall allows _ _) fun answer => ?_
    rcases answer with error | bytes
    · exact resumes_done _
    dsimp only
    split
    · exact resumes_done _
    refine resumable_bind (resumable_foldlM free_stable (fun totals msg =>
      resumes_handlePendingMessage allows sends totals msg) _) fun totals => ?_
    split <;> exact resumes_done _

/-- Every handler resumes when sending does. -/
theorem resumes_handleEvent [Prost] (event : UiEvent) :
    Resumable past future Unlocked (handleEvent config event : EngineM Core Unit) := by
  cases event with
  | platformReady => exact resumes_action allows _
  | registerDevice username deviceId => exact resumes_handleRegisterDevice allows username deviceId
  | authenticate deviceId challengeResponse signingKey =>
      exact resumes_handleAuthenticate allows deviceId challengeResponse signingKey
  | refreshToken refreshToken => exact resumes_handleRefreshToken allows refreshToken
  | logout => exact resumes_handleLogout allows
  | fetchPreKeyBundle userId deviceId => exact resumes_handleFetchPreKeyBundle allows userId deviceId
  | uploadOtpks deviceId count => exact resumes_handleUploadOtpks allows deviceId count
  | getPreKeyCount deviceId => exact resumes_handleGetPreKeyCount allows deviceId
  | rotateSignedPreKey deviceId => exact resumes_handleRotateSpk allows deviceId
  | openMessageStream conversationIds sinceCursor => exact resumes_handleOpenStream allows _ _
  | closeMessageStream => exact resumes_plain allows rfl
  | sendMessage contactId plaintext localId conversationId level =>
      exact resumes_handleSendMessage allows sends contactId plaintext localId conversationId level
  | ackMessage messageId messageNumber => exact resumes_handleAckMessage allows sends messageId
  | initSessionInitiator contactId => exact resumes_handleInitSessionInitiator allows sends contactId
  | searchUser query => exact resumes_handleSearchUser allows query
  | registerPushToken token platform => exact resumes_handleRegisterPush allows token
  | backgroundPush sinceCursor => exact resumes_handleBackgroundPush allows sends sinceCursor
  | keychainResult key data => exact resumes_handleKeychainResult allows key data
  | _ => exact resumes_done ()

end

/-- Time passes and the pumps write what waits for them, but nothing new comes in. -/
def Move.isPatient : Move → Bool
  | .tick _ => true
  | .pump _ .pop | .pump _ .sent => true
  | .pump _ .timeout => true
  | _ => false

/-- A patient environment answers everything that leaves the queues alone, and it lets every attempt to
connect and to open a stream succeed. -/
def patience (Core : Type) [ConstructCore Core] (config : EngineConfig) :
    (engineMachine Core config).Promise where
  answers op choice _ := op.disturbs .events = false ∧ op.granted config choice
  moves move _ := move.isPatient = true

/-- The patient environment answers every prompt operation. -/
theorem patience_prompt : Prompt (patience Core config) := fun op _ prompt => by
  refine ⟨?_, op.granted_willing config⟩
  cases op with
  | select => cases prompt
  | rxDrop => cases prompt
  | _ => rfl

/-- The patient environment grants the mutex. -/
theorem patience_locks (world : World Core) : (patience Core config).answers .paramsLock willing world :=
  ⟨rfl, trivial⟩

/-- The patient environment frees the mutex. -/
theorem patience_unlocks (world : World Core) : (patience Core config).answers .paramsUnlock willing world :=
  ⟨rfl, trivial⟩

variable {past : (engineMachine Core config).Promise}

/-- A sleep ends when enough time has passed. -/
theorem resumes_sleepUntil (deadline : Nat) :
    Resumable past (patience Core config) (Free keep) (perform (.sleepUntil deadline) : EngineM Core Unit) := by
  refine resumes_waiting rfl rfl fun world now => ?_
  let later : World Core := { world with net := { world.net with clock := world.net.clock + deadline } }
  have ticked : Reaches (patience Core config) (world, perform (.sleepUntil deadline))
      (later, perform (.sleepUntil deadline)) := .single (.move (Move.tick deadline) rfl rfl)
  have passed : deadline ≤ later.net.clock := Nat.le_add_left deadline world.net.clock
  have answered : exec config (.sleepUntil deadline) willing later = some ((), later) := if_pos passed
  exact .after ticked (canFinish_ask willing ⟨rfl, trivial⟩ answered (canFinish_done now))

theorem resumes_refreshReset (secs : Nat) :
    Resumable past (patience Core config) (Free keep) (perform (.refreshReset secs) : EngineM Core Unit) :=
  resumes_waiting rfl rfl fun _ now => canFinish_ask willing ⟨rfl, trivial⟩ rfl (canFinish_done now)

omit [ConstructCore Core] in
/-- A pump that goes on and passes no frame on changes only itself. -/
theorem pump_moves {number : Nat} {input : PumpInput} {pump after : Pump} {world : World Core}
    (found : world.net.pumps[number]? = some pump) (stepped : pump.step input = some (after, []))
    (goes : after.isEnded = false) :
    moveWorld config (.pump number input) world =
      some { world with net := world.net.updatePump number after } := by
  simp [moveWorld, moveNet, Net.movePump, found, stepped, goes, Net.updatePump]

omit [ConstructCore Core] in
/-- The sender waits only for a live pump with a full queue. -/
theorem sendFrame_waits {site : SendSite} {handle : BiDiStreamHandle} {frame : Bytes} {world : World Core}
    (waits : sendFrameStep site handle frame world = none) :
    ∃ pump first rest, world.net.pumps[handle.pump]? = some pump ∧ pump.isEnded = false ∧
      pump.outgoing = first :: rest := by
  unfold sendFrameStep at waits
  split at waits
  · cases waits
  next pump found =>
  split at waits
  · cases waits
  next live =>
  split at waits
  · cases waits
  next full =>
  cases queued : pump.outgoing with
  | nil => exact absurd (by rw [queued]; decide) full
  | cons first rest => exact ⟨pump, first, rest, found, by simpa using live, queued⟩

/-- A live pump turns to its queue and takes the first frame. -/
theorem pump_pops {number : Nat} {pump : Pump} {first : Bytes} {rest : List Bytes} {world : World Core}
    (found : world.net.pumps[number]? = some pump) (live : pump.isEnded = false)
    (queued : pump.outgoing = first :: rest) (program : EngineM Core A) :
    ∃ popped : Pump, popped.outgoing = rest ∧ Reaches (patience Core config) (world, program)
      ({ world with net := world.net.updatePump number popped }, program) := by
  have turns (world : World Core) {pump : Pump} (after : Pump) (input : PumpInput)
      (patient : (Move.pump number input).isPatient = true) (found : world.net.pumps[number]? = some pump)
      (stepped : pump.step input = some (after, [])) (goes : after.isEnded = false) :
      Reaches (patience Core config) (world, program)
        ({ world with net := world.net.updatePump number after }, program) :=
    .single (.move (Move.pump number input) patient (pump_moves found stepped goes))
  have inside : number < world.net.pumps.length := (List.getElem?_eq_some_iff.mp found).1
  -- From the other places the pump first comes back to its queue.
  have pops (draining : Pump) (place : draining.location = .draining) (queued : draining.outgoing = first :: rest)
      (found : world.net.pumps[number]? = some draining ∨ Reaches (patience Core config) (world, program)
        ({ world with net := world.net.updatePump number draining }, program)) :
      ∃ popped : Pump, popped.outgoing = rest ∧ Reaches (patience Core config) (world, program)
        ({ world with net := world.net.updatePump number popped }, program) := by
    let popped : Pump := { draining with outgoing := rest, location := .sending first }
    have stepped : draining.step .pop = some (popped, []) := by simp [Pump.step, place, popped, queued]
    refine ⟨popped, rfl, ?_⟩
    obtain found | path := found
    · exact turns world popped .pop rfl found stepped rfl
    · have popping := turns { world with net := world.net.updatePump number draining } popped .pop rfl
        (List.getElem?_set_self inside) stepped rfl
      exact path.trans (by simpa [Net.updatePump] using popping)
  cases place : pump.location with
  | ended reason => simp [Pump.isEnded, place] at live
  | draining => exact pops pump place queued (.inl found)
  | sending frame =>
      exact pops { pump with written := pump.written ++ [frame], location := .draining } rfl queued
        (.inr (turns world _ .sent rfl found (by simp [Pump.step, place]) rfl))
  | polling =>
      exact pops { pump with location := .draining } rfl queued
        (.inr (turns world _ .timeout rfl found (by simp [Pump.step, place]) rfl))

/-- A live pump takes frames until its queue has room for the new one. -/
theorem sendFrame_finishes (site : SendSite) (handle : BiDiStreamHandle) (frame : Bytes) (waiting : Nat)
    {world : World Core} (now : Free keep world)
    (bounded : ∀ pump, world.net.pumps[handle.pump]? = some pump → pump.outgoing.length ≤ waiting) :
    CanFinish (patience Core config)
      (perform (.sendFrame site handle frame) : EngineM Core (Except EngineError Unit))
      (fun _ => Free keep) world := by
  induction waiting generalizing world with
  | zero =>
      cases answered : sendFrameStep site handle frame world with
      | some result => exact answers_now willing rfl rfl ⟨rfl, trivial⟩ answered now
      | none =>
          obtain ⟨pump, first, rest, found, -, queued⟩ := sendFrame_waits answered
          have empty := bounded pump found
          rw [queued] at empty
          cases empty
  | succ waiting inductionHypothesis =>
      cases answered : sendFrameStep site handle frame world with
      | some result => exact answers_now willing rfl rfl ⟨rfl, trivial⟩ answered now
      | none =>
          obtain ⟨pump, first, rest, found, live, queued⟩ := sendFrame_waits answered
          obtain ⟨popped, left, path⟩ := pump_pops found live queued
            (perform (.sendFrame site handle frame) : EngineM Core (Except EngineError Unit))
          have still : Free keep ({ world with net := world.net.updatePump handle.pump popped } : World Core) :=
            now
          refine .after path (inductionHypothesis still fun other same => ?_)
          have inside : handle.pump < world.net.pumps.length := (List.getElem?_eq_some_iff.mp found).1
          cases (List.getElem?_set_self inside).symm.trans same
          have enough := bounded pump found
          rw [queued] at enough
          rw [left]
          exact Nat.le_of_succ_le_succ enough

/-- A live pump makes room, and a dead one refuses the frame. -/
theorem resumes_sendFrame (site : SendSite) (handle : BiDiStreamHandle) (frame : Bytes) :
    Resumable past (patience Core config) (Free keep)
      (perform (.sendFrame site handle frame) : EngineM Core (Except EngineError Unit)) := by
  refine resumes_waiting rfl rfl fun world now => ?_
  cases found : world.net.pumps[handle.pump]? with
  | none => exact sendFrame_finishes site handle frame 0 now fun pump same => by rw [found] at same; cases same
  | some pump =>
      refine sendFrame_finishes site handle frame pump.outgoing.length now fun other same => ?_
      rw [found] at same
      cases same
      exact Nat.le_refl _

end ConstructEngine
