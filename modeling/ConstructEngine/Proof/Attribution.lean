import ConstructEngine.Proof.Actions
import ConstructEngine.Proof.Receipt
import ConstructEngine.Proof.Sections

namespace ConstructEngine

open Interaction Program Machine

variable {Core : Type}

namespace PlatformAction

/-- The state of the orchestrator is handed over. -/
def savesState : PlatformAction → Bool
  | .saveKeychain key _ => key = "orchestrator_state"
  | _ => false

/-- An attempt to open the stream ends with one of these. -/
def opensStream : PlatformAction → Bool
  | .streamReady none | .streamError _ => true
  | _ => false

/-- An attempt to connect ends with one of these. -/
def connects : PlatformAction → Bool
  | .connectionStateChanged connected => connected
  | .networkError _ => true
  | _ => false

/-- An upload reports its keys and saves before. -/
def uploadsKeys : PlatformAction → Bool
  | .otpksUploaded .. => true
  | action => action.savesState

/-- A count check reports the count and may upload. -/
def countsKeys : PlatformAction → Bool
  | .preKeyCountUpdated .. => true
  | action => action.uploadsKeys

/-- A login is granted or withdrawn. -/
def issuesLogin : PlatformAction → Bool
  | .setAuthToken .. | .clearAuth => true
  | _ => false

/-- A refreshed login does not name its user. -/
def refreshesLogin : PlatformAction → Bool
  | .setAuthToken userId _ _ _ => userId = ""
  | action => action = .clearAuth

/-- A received message shows itself, its session or its failure, and saves. -/
def receives : PlatformAction → Bool
  | .displayMessage .. | .sessionEstablished .. | .sessionError .. => true
  | action => action.savesState

end PlatformAction

/-- The handler of the event can fire this action. -/
def UiEvent.mayFire (event : UiEvent) (action : PlatformAction) : Bool :=
  match event with
  | .platformReady => action = .loadKeychain "orchestrator_state"
  | .registerDevice _ deviceId =>
      match action with
      | .registrationComplete _ registered => registered = deviceId
      | _ => action.issuesLogin || action.opensStream || action.countsKeys
  | .authenticate .. => action.issuesLogin || action.opensStream || action.countsKeys
  | .refreshToken _ => action.refreshesLogin || action.opensStream
  | .logout => action = .clearAuth
  | .fetchPreKeyBundle userId _ =>
      match action with
      | .preKeyBundleReady owner _ => owner = userId
      | _ => false
  | .uploadOtpks .. => action.uploadsKeys
  | .getPreKeyCount _ => action.countsKeys
  | .rotateSignedPreKey _ =>
      match action with
      | .spkRotated _ => true
      | _ => action.savesState
  | .openMessageStream .. => action.opensStream
  | .sendMessage _ _ localId _ _ =>
      match action with
      | .updateMessageStatus reported status => reported = localId && (status = 1 || status = 4)
      | _ => action.savesState
  | .initSessionInitiator contactId =>
      match action with
      | .sessionEstablished peer _ | .sessionError peer _ => peer = contactId
      | _ => action.savesState
  | .searchUser query =>
      match action with
      | .userFound _ asked | .userNotFound asked => asked = query
      | _ => false
  | .backgroundPush _ =>
      match action with
      | .showNotification .. | .backgroundFetchComplete .. => true
      | _ => action.receives
  | .keychainResult key _ =>
      match action with
      | .sessionEstablished _ sessionId => key = "orchestrator_state" && sessionId = ""
      | _ => false
  | _ => false

/-- The loop works on an event, a frame, a due refresh or a lost connection, or it still connects for
the first time. -/
def mayFire (task : Option Event) (action : PlatformAction) : Bool :=
  match task with
  | none => action.connects
  | some (.event event) => event.mayFire action
  | some (.frame _) =>
      match action with
      | .deliveryReceipt _ conversationId _ => conversationId = ""
      | _ => action.receives
  | some (.refreshDue _) => action.refreshesLogin || action.opensStream
  | some (.action _) => action.connects || action.opensStream
  | _ => false

/-- These tasks receive messages. -/
def isReceiving : Option Event → Bool
  | some (.frame _) | some (.event (.backgroundPush _)) => true
  | _ => false

/-- The core opened this plaintext for the sender of the message and, on the decrypting paths, from its
own payload. -/
def CoreCall.opensFor (message : IncomingMessage) : CoreCall → Option Bytes
  | .decrypt senderId wirePayload (.ok plaintext) =>
      if senderId = message.senderId ∧ wirePayload = message.wirePayload then some plaintext else none
  | .initReceivingSession senderId (.ok (_, plaintext)) =>
      if senderId = message.senderId then some plaintext else none
  | _ => none

/-- The message is the one that the engine took up last, with what the core opened for it since. -/
abbrev Reception := Option (IncomingMessage × Option Bytes)

/-- A message is taken up, and then the core may open it. -/
def Reception.after (reception : Reception) : Event → Reception
  | .handling _ message => some (message, none)
  | .core call => reception.map fun (message, opened) => (message, (call.opensFor message).or opened)
  | _ => reception

/-- The whole trace shows the last reception. -/
def reception (log : List Event) : Reception := log.foldl Reception.after none

/-- What the action tells about a message is about the received one and what the core opened. -/
def discloses (task : Option Event) (reception : Reception) : PlatformAction → Prop
  | .displayMessage messageId plaintext senderId conversationId timestamp =>
      ∃ wirePayload,
        reception = some (⟨senderId, wirePayload, messageId, conversationId, timestamp⟩, some plaintext)
  | .showNotification messageId senderId conversationId preview timestamp =>
      ∃ wirePayload plaintext,
        reception = some (⟨senderId, wirePayload, messageId, conversationId, timestamp⟩, some plaintext) ∧
        preview = if plaintext.isEmpty then none else some (plaintext.take 64)
  | .sessionEstablished contactId sessionId => isReceiving task = true →
      ∃ message plaintext, reception = some (message, some plaintext) ∧
        message.senderId = contactId ∧ message.messageId = sessionId
  | .sessionError contactId _ => isReceiving task = true →
      ∃ message opened, reception = some (message, opened) ∧ message.senderId = contactId
  | _ => True

/-- The task can fire the action, and the action tells nothing else about a message. -/
def Attributed (task : Option Event) (reception : Reception) (action : PlatformAction) : Prop :=
  mayFire task action = true ∧ discloses task reception action

/-- Only the report of a lost connection starts a task of its own. -/
def attributionLaw (before : List Event) : Event → Prop
  | .action action => action = .connectionStateChanged false ∨
      Attributed (currentTask before) (reception before) action
  | _ => True

/-- The last event decides how the reception goes on. -/
theorem reception_snoc (log : List Event) (event : Event) :
    reception (log ++ [event]) = (reception log).after event := by
  simp [reception]

/-- The calls of a section go on with the reception one after the other. -/
theorem reception_calls (log : List Event) (calls : List CoreCall) :
    reception (log ++ calls.map .core) = (calls.map Event.core).foldl Reception.after (reception log) := by
  simp [reception]

/-- An event that neither marks a task nor belongs to a reception is uninvolved. -/
def Uninvolved (topic : Topic) : Prop := topic ≠ .selection ∧ topic ≠ .handling ∧ topic ≠ .opening

/-- Only the two calls that open a message bring its plaintext. -/
theorem opensFor_uninvolved {call : CoreCall} (other : call.topic ≠ .opening) (message : IncomingMessage) :
    call.opensFor message = none := by
  cases call with
  | decrypt => exact absurd rfl other
  | initReceivingSession => exact absurd rfl other
  | _ => rfl

/-- An uninvolved event leaves the reception as it is. -/
theorem Reception.after_uninvolved (reception : Reception) {event : Event} (uninvolved : Uninvolved event.topic) :
    reception.after event = reception := by
  cases event with
  | handling => exact absurd rfl uninvolved.2.1
  | core call =>
      have silent (message : IncomingMessage) : call.opensFor message = none :=
        opensFor_uninvolved uninvolved.2.2 message
      cases reception <;> simp [Reception.after, silent]
  | _ => rfl

/-- The trace shows this task and this reception. -/
def Shows (task : Option Event) (received : Reception) (log : List Event) : Prop :=
  currentTask log = task ∧ reception log = received

/-- An uninvolved event leaves the task and the reception as they are. -/
theorem Shows.uninvolved {task : Option Event} {received : Reception} {log : List Event}
    (shows : Shows task received log) {event : Event} (uninvolved : Uninvolved event.topic) :
    Shows task received (log ++ [event]) :=
  ⟨(currentTask_snoc log uninvolved.1).trans shows.1, by
    rw [reception_snoc, shows.2, Reception.after_uninvolved _ uninvolved]⟩

/-- No task fires the mark of the next one. -/
theorem mayFire_mark (task : Option Event) : mayFire task (.connectionStateChanged false) = false := by
  cases task with
  | none => rfl
  | some event =>
      cases event with
      | event ui => cases ui <;> rfl
      | _ => rfl

variable [ConstructCore Core] {config : EngineConfig}

omit [ConstructCore Core] in
/-- What a program fires is uninvolved, unless it is the mark of a task. -/
theorem firedBy_uninvolved {actions : PlatformAction → Prop} {event : Event}
    (fired : event.FiredBy False actions) (unmarked : ¬ actions (.connectionStateChanged false)) :
    Uninvolved event.topic := by
  cases event with
  | action action =>
      change action.topic ≠ .selection ∧ action.topic ≠ .handling ∧ action.topic ≠ .opening
      rcases action_topic action with same | same | same | ⟨same, -⟩ | ⟨same, rfl⟩
      · rw [same]; decide
      · rw [same]; decide
      · rw [same]; decide
      · rw [same]; decide
      · exact absurd fired unmarked
  | core call =>
      change call.topic ≠ .selection ∧ call.topic ≠ .handling ∧ call.topic ≠ .opening
      refine ⟨fun same => ?_, fun same => ?_, fired⟩
      · simpa [same] using call_topic call
      · simpa [same] using call_topic call
  | handling => exact fired.elim
  | refreshDue => exact fired.elim
  | event => exact fired.elim
  | frame => exact fired.elim
  | _ => exact ⟨nofun, nofun, nofun⟩

/-- The program, begun with this engine, fires only attributed actions. -/
abbrev AttributionSafe {A : Type} (config : EngineConfig) (program : EngineM Core A)
    (result : A → Engine Core → Prop) (engine : Engine Core) : Prop :=
  EngineSafe (Promise.any (engineMachine Core config))
    (traceGuard (Promise.any (engineMachine Core config)) attributionLaw) program result engine

/-- A program that fires only attributed actions works on the same task and the same reception. -/
theorem fires_attributed {A : Type} {task : Option Event} {received : Reception} {program : EngineM Core A}
    (fires : Fires False (Attributed task received) program) {engine : Engine Core}
    (shows : Shows task received engine.log) :
    AttributionSafe config program (fun _ after => Shows task received after.log) engine := by
  have unmarked : ¬ Attributed task received (.connectionStateChanged false) := by
    rintro ⟨may, -⟩
    rw [mayFire_mark] at may
    cases may
  refine fires_log (Shows task received)
    (fun log event fired shows => shows.uninvolved (firedBy_uninvolved fired unmarked)) ?_ fires shows
  rintro log event fired ⟨rfl, rfl⟩
  cases event with
  | action action => exact .inr fired
  | _ => trivial

/-- These actions may come from each task that receives messages. -/
theorem mayFire_receives {task : Option Event} (receiving : isReceiving task = true)
    {action : PlatformAction} (receives : action.receives = true) : mayFire task action = true := by
  unfold isReceiving at receiving
  split at receiving
  · cases action <;> first | exact receives | cases receives
  · cases action <;> first | exact receives | cases receives
  · cases receiving

section
variable {task : Option Event} (receiving : isReceiving task = true) {message : IncomingMessage}
include receiving

/-- A receiving task may save the state. -/
theorem attributed_save (received : Reception) (stateBytes : Bytes) :
    Attributed task received (.saveKeychain "orchestrator_state" stateBytes) :=
  ⟨mayFire_receives receiving rfl, trivial⟩

/-- A receiving task may report the failure of its message. -/
theorem attributed_sessionError (opened : Option Bytes) (text : String) :
    Attributed task (some (message, opened)) (.sessionError message.senderId text) :=
  ⟨mayFire_receives receiving rfl, fun _ => ⟨message, opened, rfl, rfl⟩⟩

/-- A receiving task may report the session of a message that the core opened. -/
theorem attributed_sessionEstablished (plaintext : Bytes) :
    Attributed task (some (message, some plaintext))
      (.sessionEstablished message.senderId message.messageId) :=
  ⟨mayFire_receives receiving rfl, fun _ => ⟨message, plaintext, rfl, rfl, rfl⟩⟩

/-- A receiving task may show a message that the core opened. -/
theorem attributed_display (plaintext : Bytes) :
    Attributed task (some (message, some plaintext)) (.displayMessage message.messageId plaintext
      message.senderId message.conversationId message.timestamp) :=
  ⟨mayFire_receives receiving rfl, message.wirePayload, rfl⟩

end

omit [ConstructCore Core] in
/-- A message that is taken up begins a reception. -/
theorem shows_handling {task : Option Event} {received : Reception} {log : List Event}
    (shows : Shows task received log) (path : ReceivePath) (message : IncomingMessage) :
    Shows task (some (message, none)) (log ++ [.handling path message]) :=
  ⟨(currentTask_snoc log (by nofun)).trans shows.1, reception_snoc log _⟩

omit [ConstructCore Core] in
/-- The calls of a section belong to the reception. -/
theorem shows_calls {task : Option Event} {received : Reception} {log : List Event}
    (shows : Shows task received log) (calls : List CoreCall) :
    Shows task ((calls.map Event.core).foldl Reception.after received) (log ++ calls.map .core) :=
  ⟨(currentTask_calls log calls).trans shows.1, by rw [reception_calls, shows.2]⟩

/-- The law asks nothing of the core. -/
theorem core_unguarded {A : Type} (region : CoreSection Core A) (world : World Core) :
    traceGuard (Promise.any (engineMachine Core config)) attributionLaw (.core region) world := by
  rintro choice event _ ⟨call, rfl, -⟩ uncalled
  exact absurd rfl (uncalled call)

/-- The law asks nothing of a reception. -/
theorem handling_unguarded (path : ReceivePath) (message : IncomingMessage) (world : World Core) :
    traceGuard (Promise.any (engineMachine Core config)) attributionLaw (.handling path message) world := by
  rintro choice event _ ⟨⟩ _
  trivial

/-- The handler works on its task until it ends. -/
abbrev TaskSafe {A : Type} (config : EngineConfig) (task : Option Event) (program : EngineM Core A)
    (engine : Engine Core) : Prop :=
  AttributionSafe config program (fun _ after => currentTask after.log = task) engine

/-- A program that fires only attributed actions works on its task until it ends. -/
theorem fires_task {A : Type} {task : Option Event} {received : Reception} {program : EngineM Core A}
    (fires : Fires False (Attributed task received) program) {engine : Engine Core}
    (shows : Shows task received engine.log) : TaskSafe config task program engine :=
  (fires_attributed fires shows).weaken fun _ _ shows => shows.1

section
variable [Prost] {task : Option Event} (receiving : isReceiving task = true)
include receiving

/-- The message is displayed with what the core opened for it. -/
theorem handleDecryptMessage_attributed (message : IncomingMessage) {engine : Engine Core}
    (now : currentTask engine.log = task) :
    TaskSafe config task (handleDecryptMessage message) engine := by
  unfold handleDecryptMessage
  apply handling_bind (handling_unguarded _ _)
  have shows : Shows task (some (message, none))
      (engine.record (.handling .decryptMessage message)).log :=
    shows_handling ⟨now, rfl⟩ .decryptMessage message
  refine section_bind (core_unguarded _) fun world choice same _ => ?_
  rw [← same] at shows ⊢
  cases stored : world.engine.core with
  | none => exact fires_task (uses_pure ()) (shows_calls shows [])
  | some core =>
  obtain ⟨error, text, after, -, ran⟩ | ⟨plaintext, stateBytes, after, answer, -, ran⟩ :=
    CoreSection.decryptAndExport_calls message.senderId message.wirePayload core
  · rw [ran]
    exact fires_task (uses_pure ()) (shows_calls shows _)
  rw [ran]
  have opened := shows_calls shows [.decrypt message.senderId message.wirePayload (.ok plaintext),
    .exportState answer]
  have received : ([.decrypt message.senderId message.wirePayload (.ok plaintext),
      CoreCall.exportState answer].map Event.core).foldl Reception.after (some (message, none)) =
      some (message, some plaintext) := by simp [Reception.after, CoreCall.opensFor]
  rw [received] at opened
  refine fires_task (uses_bind ?_ fun _ => uses_bind (fires_sendAckFrame _) fun _ => ?_) opened
  · exact fires_saveState (attributed_save receiving _) _
  · exact fires_action (attributed_display receiving plaintext)

/-- The session is reported for the message that opened it. -/
theorem handleSessionInitResponder_attributed (message : IncomingMessage)
    {engine : Engine Core} (now : currentTask engine.log = task) :
    TaskSafe config task (handleSessionInitResponder message) engine := by
  unfold handleSessionInitResponder
  apply handling_bind (handling_unguarded _ _)
  have shows : Shows task (some (message, none))
      (engine.record (.handling .sessionInitResponder message)).log :=
    shows_handling ⟨now, rfl⟩ .sessionInitResponder message
  refine (fires_attributed (fires_fetchBundle _ _) shows).andThen fun fetched engine shows => ?_
  rcases fetched with text | ⟨bundle, verifyingKey⟩
  · exact fires_task (fires_action (attributed_sessionError receiving none text)) shows
  dsimp only
  split
  · exact fires_task (fires_action (attributed_sessionError receiving none _)) shows
  refine section_bind (core_unguarded _) fun world choice same _ => ?_
  subst same
  cases stored : world.engine.core with
  | none => exact fires_task (fires_healing (attributed_sessionError receiving none) _) (shows_calls shows [])
  | some core =>
  obtain ⟨error, text, after, -, ran⟩ | ⟨sessionId, plaintext, stateBytes, after, answer, -, ran⟩ :=
    CoreSection.receiveAndExport_calls message.senderId (x3dhBundle bundle verifyingKey) _ core
  · rw [ran]
    exact fires_task (fires_healing (attributed_sessionError receiving none) _) (shows_calls shows _)
  rw [ran]
  have opened := shows_calls shows
    [.initReceivingSession message.senderId (.ok (sessionId, plaintext)), .exportState answer]
  have received : ([.initReceivingSession message.senderId (.ok (sessionId, plaintext)),
      CoreCall.exportState answer].map Event.core).foldl Reception.after (some (message, none)) =
      some (message, some plaintext) := by simp [Reception.after, CoreCall.opensFor]
  rw [received] at opened
  refine fires_task (uses_bind (uses_perform (by nofun)) fun _ => uses_bind ?_ fun _ =>
    uses_bind (fires_sendAckFrame _) fun _ => uses_bind ?_ fun _ => ?_) opened
  · exact fires_saveState (attributed_save receiving _) _
  · exact fires_action (attributed_sessionEstablished receiving plaintext)
  · split
    · exact uses_pure ()
    · exact fires_action (attributed_display receiving plaintext)

/-- An envelope is received as one message. -/
theorem handleIncomingEnvelope_attributed (envelope : Envelope)
    {engine : Engine Core} (now : currentTask engine.log = task) :
    TaskSafe config task (handleIncomingEnvelope envelope) engine := by
  unfold handleIncomingEnvelope
  dsimp only
  split
  · exact Owned.safe_done now
  split
  · exact Owned.safe_done now
  have identified : Fires False (Attributed task (reception engine.log))
      (messageIdOf envelope.messageIdType : EngineM Core String) := by
    unfold messageIdOf
    split
    · exact uses_pure _
    · exact uses_bind (uses_perform trivial) fun _ => uses_pure _
  refine (fires_task identified ⟨now, rfl⟩).andThen fun messageId engine now => ?_
  split
  · exact Owned.safe_done now
  split
  · exact handleSessionInitResponder_attributed receiving _ now
  · exact handleDecryptMessage_attributed receiving _ now

end

section
variable [Prost]

/-- A frame changes the cursor and then carries a message or a receipt. -/
theorem handleIncomingFrame_attributed (frame : Bytes) {engine : Engine Core}
    (now : currentTask engine.log = some (.frame frame)) :
    TaskSafe config (some (.frame frame)) (handleIncomingFrame frame) engine := by
  unfold handleIncomingFrame
  split
  · exact Owned.safe_done now
  split
  · exact Owned.safe_done now
  next resp _ =>
  have moved : Fires False (Attributed (some (.frame frame)) (reception engine.log))
      (resp.streamCursor.forM fun cursor => perform (.paramsCursor cursor) : EngineM Core Unit) :=
    Composed.uses (.option fun cursor => .piece (uses_perform trivial)) fun _ fires => fires
  refine (fires_task moved ⟨now, rfl⟩).andThen fun _ engine now => ?_
  split
  · exact handleIncomingEnvelope_attributed rfl _ now
  · refine fires_task ?_ ⟨now, rfl⟩
    exact Composed.uses (.forM fun id => .piece (fires_action ⟨rfl, trivial⟩)) fun _ fires => fires
  · exact Owned.safe_done now

/-- A pending message is displayed and notified as what the core opened. -/
theorem handlePendingMessage_attributed {sinceCursor : Option String} (totals : Nat × Bool)
    (msg : PendingMessage) {engine : Engine Core}
    (now : currentTask engine.log = some (.event (.backgroundPush sinceCursor))) :
    TaskSafe config (some (.event (.backgroundPush sinceCursor))) (handlePendingMessage totals msg)
      engine := by
  unfold handlePendingMessage
  dsimp only
  split
  · exact Owned.safe_done now
  split
  · exact Owned.safe_done now
  split
  · exact Owned.safe_done now
  split
  · exact (handleSessionInitResponder_attributed rfl _ now).andThen fun _ engine now =>
      Owned.safe_done now
  apply handling_bind (handling_unguarded _ _)
  have shows := shows_handling ⟨now, rfl⟩ .backgroundPush
    ⟨msg.senderId, msg.encryptedPayload, msg.messageId, msg.senderId, msg.timestamp⟩
  change Shows _ _ (engine.record _).log at shows
  refine section_bind (core_unguarded _) fun world choice same _ => ?_
  rw [← same] at shows ⊢
  cases stored : world.engine.core with
  | none => exact fires_task (uses_pure _) (shows_calls shows [])
  | some core =>
  cases answered : ConstructCore.decryptBytesFor msg.senderId msg.encryptedPayload core with
  | mk answer after =>
  have ran : (CoreSection.decrypt msg.senderId msg.encryptedPayload).run (some core) =
      (match answer with
        | .error message => .error s!"decrypt: {message}"
        | .ok plaintext => .ok plaintext, some after,
        [.decrypt msg.senderId msg.encryptedPayload answer]) := by
    simp only [CoreSection.run, CoreSection.locked, LockedM.decryptBytesFor, answered, LockedM.bind_run]
    cases answer <;> rfl
  rw [ran]
  rcases answer with error | plaintext
  · exact fires_task (uses_pure _) (shows_calls shows _)
  have opened := shows_calls shows [.decrypt msg.senderId msg.encryptedPayload (.ok plaintext)]
  simp only [List.map_cons, List.map_nil, List.foldl_cons, List.foldl_nil, Reception.after, Option.map_some,
    CoreCall.opensFor, and_self, if_true, Option.some_or] at opened
  refine fires_task (uses_bind ?_ fun _ => uses_bind ?_ fun _ => uses_pure _) opened
  · exact fires_action (attributed_display rfl plaintext)
  · exact fires_action ⟨rfl, _, _, rfl, rfl⟩

/-- Each message of the batch is a reception of its own. -/
theorem handleBackgroundPush_attributed (sinceCursor : Option String) {engine : Engine Core}
    (now : currentTask engine.log = some (.event (.backgroundPush sinceCursor))) :
    TaskSafe config (some (.event (.backgroundPush sinceCursor))) (handleBackgroundPush sinceCursor)
      engine := by
  unfold handleBackgroundPush
  have pages : TaskSafe config (some (.event (.backgroundPush sinceCursor)))
      (iterate backgroundPage (sinceCursor, 0, false)) engine := by
    refine Owned.safe_iterate
      (fun _ (engine : Engine Core) => currentTask engine.log = some (.event (.backgroundPush sinceCursor)))
      (fun progress engine now => ?_) now
    unfold backgroundPage
    refine (fires_task (fires_unaryCall _ _) ⟨now, rfl⟩).andThen fun answer engine now => ?_
    rcases answer with error | bytes
    · exact Owned.safe_done now
    dsimp only
    split
    · exact Owned.safe_done now
    refine (Owned.safe_foldlM (fun _ _ (engine : Engine Core) =>
      currentTask engine.log = some (.event (.backgroundPush sinceCursor))) _
      (fun _ msg totals engine _ now => handlePendingMessage_attributed totals msg now) now).andThen
      fun totals engine now => ?_
    split <;> exact Owned.safe_done now
  refine pages.andThen fun totals engine now => ?_
  refine fires_task (uses_bind (uses_perform (by nofun)) fun exported => uses_bind ?_ fun _ => ?_) ⟨now, rfl⟩
  · exact Composed.uses (.option fun stateBytes =>
      .piece (fires_saveState (attributed_save rfl _) stateBytes)) fun _ fires => fires
  · exact fires_action ⟨rfl, trivial⟩

end

section
variable [Prost]

/-- The handler of each event fires what the event may fire. -/
theorem handleEvent_attributed (event : UiEvent) {engine : Engine Core}
    (now : currentTask engine.log = some (.event event)) :
    TaskSafe config (some (.event event)) (handleEvent config event) engine := by
  have simple {program : EngineM Core Unit} (fires : Fires False
      (Attributed (some (.event event)) (reception engine.log)) program) :
      TaskSafe config (some (.event event)) program engine := fires_task fires ⟨now, rfl⟩
  cases event with
  | platformReady => exact simple (fires_action ⟨rfl, trivial⟩)
  | registerDevice username deviceId =>
      exact simple (fires_handleRegisterDevice ⟨rfl, trivial⟩ (fun _ => ⟨rfl, trivial⟩) ⟨rfl, trivial⟩
        (fun _ => ⟨rfl, trivial⟩) (fun _ _ => ⟨rfl, trivial⟩) (fun _ _ => ⟨rfl, trivial⟩)
        (fun _ _ _ _ => ⟨rfl, trivial⟩) (fun _ => ⟨decide_eq_true rfl, trivial⟩) config username)
  | authenticate deviceId challengeResponse signingKey =>
      exact simple (fires_handleAuthenticate ⟨rfl, trivial⟩ (fun _ => ⟨rfl, trivial⟩) ⟨rfl, trivial⟩
        (fun _ => ⟨rfl, trivial⟩) (fun _ _ => ⟨rfl, trivial⟩) (fun _ _ => ⟨rfl, trivial⟩)
        (fun _ _ _ _ => ⟨rfl, trivial⟩) config deviceId challengeResponse signingKey)
  | refreshToken refreshToken =>
      exact simple (fires_handleRefreshToken ⟨rfl, trivial⟩ (fun _ => ⟨rfl, trivial⟩) ⟨rfl, trivial⟩
        (fun _ _ _ => ⟨rfl, trivial⟩) config refreshToken)
  | logout => exact simple (fires_handleLogout ⟨rfl, trivial⟩ config)
  | fetchPreKeyBundle userId deviceId =>
      exact simple (fires_handleFetchPreKeyBundle (fun _ => ⟨decide_eq_true rfl, trivial⟩) deviceId)
  | uploadOtpks deviceId count =>
      exact simple (fires_handleUploadOtpks (fun _ => ⟨rfl, trivial⟩) (fun _ _ => ⟨rfl, trivial⟩) _ _)
  | getPreKeyCount deviceId =>
      exact simple (fires_handleGetPreKeyCount (fun _ => ⟨rfl, trivial⟩) (fun _ _ => ⟨rfl, trivial⟩)
        (fun _ _ => ⟨rfl, trivial⟩) _)
  | rotateSignedPreKey deviceId =>
      exact simple (fires_handleRotateSpk (fun _ => ⟨rfl, trivial⟩) (fun _ => ⟨rfl, trivial⟩) _)
  | openMessageStream conversationIds sinceCursor =>
      exact simple (fires_handleOpenStream ⟨rfl, trivial⟩ (fun _ => ⟨rfl, trivial⟩) _ _)
  | closeMessageStream => exact simple (uses_perform trivial)
  | sendMessage contactId plaintext localId conversationId level =>
      exact simple (fires_handleSendMessage (fun _ => ⟨rfl, trivial⟩)
        ⟨by simp [mayFire, UiEvent.mayFire], trivial⟩ ⟨by simp [mayFire, UiEvent.mayFire], trivial⟩ _ _ _ _)
  | ackMessage messageId messageNumber => exact simple (fires_handleAckMessage messageId)
  | initSessionInitiator contactId =>
      exact simple (fires_handleInitSessionInitiator (fun _ => ⟨rfl, trivial⟩)
        (fun _ => ⟨decide_eq_true rfl, nofun⟩) fun _ => ⟨decide_eq_true rfl, nofun⟩)
  | searchUser query =>
      exact simple (fires_handleSearchUser (fun _ => ⟨decide_eq_true rfl, trivial⟩)
        ⟨decide_eq_true rfl, trivial⟩)
  | registerPushToken token platform => exact simple (fires_handleRegisterPush config token)
  | backgroundPush sinceCursor => exact handleBackgroundPush_attributed sinceCursor now
  | keychainResult key data =>
      by_cases same : key = "orchestrator_state"
      · subst same
        exact simple (fires_handleKeychainResult (fun _ => ⟨rfl, nofun⟩) config data)
      · exact simple (fires_otherKeychainResult same config data)
  | _ => exact Owned.safe_done now

omit [Prost] in
/-- Between its tasks the loop fires nothing. -/
theorem idle_attributed {A : Type} {program : EngineM Core A}
    (fires : Fires False (fun _ => False) program) :
    Keeps (Promise.any (engineMachine Core config))
      (traceGuard (Promise.any (engineMachine Core config)) attributionLaw) (fun _ => True) program :=
  fun world _ => (fires_task (fires.mono fun _ => False.elim) ⟨rfl, rfl⟩ world rfl).weaken
    fun _ _ _ => trivial

/-- A selection marks the task that it takes up. -/
def TakenUp (branch : Branch) (log : List Event) : Prop :=
  match branch with
  | .refresh => ∃ clock, currentTask log = some (.refreshDue clock)
  | .event (some event) => currentTask log = some (.event event)
  | .frame frame => currentTask log = some (.frame frame)
  | _ => True

/-- What the loop takes up is the task to which the actions belong. -/
theorem eventLoopTurn_attributed (refreshArmed : Bool) :
    Keeps (Promise.any (engineMachine Core config))
      (traceGuard (Promise.any (engineMachine Core config)) attributionLaw) (fun _ => True)
      (eventLoopTurn config refreshArmed) := by
  have stable : Stable (Promise.any (engineMachine Core config)) fun _ => True := fun _ _ _ _ _ _ => trivial
  have done {program : EngineM Core Unit} {task : Option Event} {world : World Core}
      (safe : TaskSafe config task program world.engine) :
      Holds (Promise.any (engineMachine Core config))
        (traceGuard (Promise.any (engineMachine Core config)) attributionLaw) program
        (fun _ _ => True) world := (safe world rfl).weaken fun _ _ _ => trivial
  refine eventLoopTurn_branches (fun branch (world : World Core) => TakenUp branch world.engine.log) stable
    (fun armed => idle_attributed (updateRefreshTimer_fires armed)) ?_ ?_ ?_ ?_ ?_ (fun _ _ => trivial)
    refreshArmed
  · intro armed world _
    refine holds_ask (fun _ => True) stable ?_ (fun world choice branch after _ _ selected => ?_) trivial
    · rintro world - choice event - (⟨clock, rfl⟩ | ⟨ui, rfl⟩ | ⟨frame, rfl⟩) - <;> trivial
    refine holds_done ((engineOwned Core config).stable fun engine => TakenUp branch engine.log) ?_
    change exec config (.select armed) choice world = some (branch, after) at selected
    have marked := select_engine selected
    change TakenUp branch after.engine.log
    revert marked
    generalize after.engine = marked
    cases branch with
    | refresh => rintro ⟨clock, rfl⟩; exact ⟨clock, currentTask_mark _ rfl⟩
    | changed => exact fun _ => trivial
    | event event =>
        cases event with
        | none => exact fun _ => trivial
        | some event => rintro rfl; exact currentTask_mark _ rfl
    | frame frame => rintro rfl; exact currentTask_mark _ rfl
    | tokenChanged => exact fun _ => trivial
  · rintro world ⟨clock, task⟩
    refine done (fires_task (uses_bind (uses_perform (by trivial)) fun due => ?_) ⟨task, rfl⟩)
    cases due with
    | none => exact uses_pure ()
    | some due =>
        exact fires_handleRefreshToken ⟨rfl, trivial⟩ (fun _ => ⟨rfl, trivial⟩) ⟨rfl, trivial⟩
          (fun _ _ _ => ⟨rfl, trivial⟩) config due.refreshToken
  · intro world _
    unfold handleConnectedChange
    refine keeps_bind (idle_attributed (uses_perform (by trivial))) (fun connected => ?_) world trivial
    split
    · exact idle_attributed (uses_pure ())
    intro world _
    unfold handleDisconnect
    suffices safe : TaskSafe config (some (.action (.connectionStateChanged false))) _ world.engine from
      done safe
    refine action_bind (fun world _ => traceGuard_action (.inl rfl)) ?_
    refine fires_task (uses_bind (uses_perform (by trivial)) fun _ => uses_bind ?_ fun _ => ?_)
      ⟨currentTask_mark _ rfl, rfl⟩
    · exact fires_ensureConnected ⟨rfl, trivial⟩ fun _ => ⟨rfl, trivial⟩
    · exact fires_resubscribe ⟨rfl, trivial⟩ fun _ => ⟨rfl, trivial⟩
  · exact fun event world task => done (handleEvent_attributed event task)
  · exact fun frame world task => done (handleIncomingFrame_attributed frame task)

/-- Before its first task the loop reports only how it connects. -/
theorem eventLoop_attributed {engine : Engine Core} (silent : engine.log = []) :
    Holds (Promise.any (engineMachine Core config))
      (traceGuard (Promise.any (engineMachine Core config)) attributionLaw) (eventLoop config)
      (fun _ _ => True) (startWorld engine) := by
  have stable : Stable (Promise.any (engineMachine Core config)) fun _ => True := fun _ _ _ _ _ _ => trivial
  have begins : Shows none none engine.log := by rw [silent]; exact ⟨rfl, rfl⟩
  suffices safe : AttributionSafe config (eventLoop config) (fun _ _ => True) engine from
    safe (startWorld engine) rfl
  unfold eventLoop
  refine (fires_attributed (uses_perform (by trivial)) begins).andThen fun started engine begins => ?_
  rcases started with error | ⟨⟩
  · refine (fires_attributed (uses_bind (fires_action ⟨rfl, by trivial⟩) fun _ =>
      uses_perform (by trivial)) begins).weaken fun _ _ _ => trivial
  refine (fires_attributed (fires_ensureConnected ⟨rfl, trivial⟩ fun _ => ⟨rfl, trivial⟩) begins).andThen
    fun _ engine _ => ?_
  rintro world rfl
  exact keeps_bind (idle_attributed (uses_perform (by trivial))) (fun _ =>
    keeps_bind (keeps_iterate stable eventLoopTurn_attributed false) fun _ =>
      idle_attributed (uses_perform (by trivial))) world trivial

end

/-- This is the action that the event fires. -/
def Event.fired : Event → Option PlatformAction
  | .action fired => some fired
  | _ => none

/-- Only an action is fired. -/
theorem eq_action_of_fired {event : Event} {action : PlatformAction} (fires : event.fired = some action) :
    event = .action action := by
  cases event with
  | action fired => cases fires; rfl
  | _ => cases fires

/-- The platform searches for a user, and the server does not answer. -/
def failedSearch : List (rehearsalMachine (rehearsalConfig [] none)).Input :=
  rehearsal (rehearsalConfig [] none) [.searchUser "bob"] (List.replicate 30 {}) []

/-- The engine took up the message last, and since then the core opened this plaintext for it. -/
def OpenedFor (log : List Event) (message : IncomingMessage) (plaintext : Bytes) : Prop :=
  ∃ earlier path between call, log = earlier ++ .handling path message :: between ∧
    (∀ event ∈ between, event.message = none) ∧ .core call ∈ between ∧
    call.opensFor message = some plaintext

/-- This is what the platform may learn about messages. -/
def disclosureLaw (before : List Event) : Event → Prop
  | .action (.displayMessage messageId plaintext senderId conversationId timestamp) =>
      ∃ wirePayload,
        OpenedFor before ⟨senderId, wirePayload, messageId, conversationId, timestamp⟩ plaintext
  | .action (.showNotification messageId senderId conversationId preview timestamp) =>
      ∃ wirePayload plaintext,
        OpenedFor before ⟨senderId, wirePayload, messageId, conversationId, timestamp⟩ plaintext ∧
        preview = if plaintext.isEmpty then none else some (plaintext.take 64)
  | .action (.sessionEstablished contactId sessionId) => isReceiving (currentTask before) = true →
      ∃ message plaintext, OpenedFor before message plaintext ∧
        message.senderId = contactId ∧ message.messageId = sessionId
  | .action (.sessionError contactId _) => isReceiving (currentTask before) = true →
      ∃ message, beingReceived before = some message ∧ message.senderId = contactId
  | _ => True

omit [ConstructCore Core] in
/-- A reception goes back to the message and to the calls that opened it. -/
theorem reception_origin {log : List Event} {message : IncomingMessage} {opened : Option Bytes}
    (received : reception log = some (message, opened)) :
    ∃ earlier path between, log = earlier ++ .handling path message :: between ∧
      (∀ event ∈ between, event.message = none) ∧
      ∀ plaintext ∈ opened, ∃ call, .core call ∈ between ∧ call.opensFor message = some plaintext := by
  induction log using List.reverseRecOn generalizing opened with
  | nil => cases received
  | append_singleton front last ih =>
      rw [reception_snoc] at received
      have later (quiet : last.message = none) {before : Option Bytes}
          (taken : reception front = some (message, before))
          (opens : ∀ plaintext ∈ opened, plaintext ∈ before ∨
            ∃ call, last = .core call ∧ call.opensFor message = some plaintext) :
          ∃ earlier path between, front ++ [last] = earlier ++ .handling path message :: between ∧
            (∀ event ∈ between, event.message = none) ∧
            ∀ plaintext ∈ opened, ∃ call, .core call ∈ between ∧ call.opensFor message = some plaintext := by
        obtain ⟨earlier, path, between, rfl, silent, calls⟩ := ih taken
        refine ⟨earlier, path, between ++ [last], by simp, fun event member => ?_, fun plaintext member => ?_⟩
        · rcases List.mem_append.mp member with inside | last
          · exact silent event inside
          · rw [List.mem_singleton.mp last]; exact quiet
        · rcases opens plaintext member with before | ⟨call, rfl, fits⟩
          · obtain ⟨call, inside, fits⟩ := calls plaintext before
            exact ⟨call, List.mem_append_left _ inside, fits⟩
          · exact ⟨call, List.mem_append_right _ (List.mem_singleton_self _), fits⟩
      cases last with
      | handling path taken =>
          cases received
          exact ⟨front, path, [], rfl, nofun, nofun⟩
      | core call =>
          obtain ⟨⟨taken, before⟩, known, same⟩ := Option.map_eq_some_iff.mp received
          cases same
          refine later rfl known fun plaintext member => ?_
          cases opens : call.opensFor message with
          | none => left; rwa [opens] at member
          | some text => right; rw [opens] at member; cases member; exact ⟨call, rfl, opens⟩
      | _ => exact later rfl received fun _ member => .inl member

omit [ConstructCore Core] in
/-- A plaintext in the reception was opened by the core for its message. -/
theorem openedFor_reception {log : List Event} {message : IncomingMessage} {plaintext : Bytes}
    (received : reception log = some (message, some plaintext)) : OpenedFor log message plaintext := by
  obtain ⟨earlier, path, between, split, silent, calls⟩ := reception_origin received
  obtain ⟨call, inside, opens⟩ := calls plaintext rfl
  exact ⟨earlier, path, between, call, split, silent, inside, opens⟩

omit [ConstructCore Core] in
/-- The message of the reception is the one that was taken up last. -/
theorem beingReceived_reception {log : List Event} {message : IncomingMessage} {opened : Option Bytes}
    (received : reception log = some (message, opened)) : beingReceived log = some message := by
  obtain ⟨earlier, path, between, rfl, silent, -⟩ := reception_origin received
  have nothing : between.filterMap Event.message = [] := List.filterMap_eq_nil_iff.mpr silent
  simp [beingReceived, Event.message, nothing]

omit [ConstructCore Core] in
/-- An attributed action discloses only what was opened. -/
theorem disclosureLaw_attributed {before : List Event} {event : Event}
    (lawful : attributionLaw before event) : disclosureLaw before event := by
  cases event with
  | action action =>
      rcases lawful with rfl | ⟨-, discloses⟩
      · trivial
      cases action with
      | displayMessage =>
          obtain ⟨wirePayload, received⟩ := discloses
          exact ⟨wirePayload, openedFor_reception received⟩
      | showNotification =>
          obtain ⟨wirePayload, plaintext, received, preview⟩ := discloses
          exact ⟨wirePayload, plaintext, openedFor_reception received, preview⟩
      | sessionEstablished =>
          intro receiving
          obtain ⟨message, plaintext, received, sender, id⟩ := discloses receiving
          exact ⟨message, plaintext, openedFor_reception received, sender, id⟩
      | sessionError =>
          intro receiving
          obtain ⟨message, opened, received, sender⟩ := discloses receiving
          exact ⟨message, beingReceived_reception received, sender⟩
      | _ => trivial
  | _ => trivial

end ConstructEngine
