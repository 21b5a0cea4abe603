import ConstructEngine.Construction.EventLoop
import ConstructEngine.Interaction.Composition

namespace ConstructEngine

open Interaction Program

/-- The topic of an operation says which part of the engine or of its surroundings it is about. -/
inductive Topic where
  | reading
  | connection
  | rpc (servicePath : String)
  | subscription
  | wish
  | closing
  | cursor
  | token
  | login
  | status
  | session
  | report
  | sealing
  | opening
  | healing
  | replacing
  | keeping
  | handling
  | sending (site : SendSite)
  | retry
  | selection
  | loop
  deriving DecidableEq

variable {Core A : Type}

/-- A report of a lost connection is as good as a selection. -/
def PlatformAction.topic : PlatformAction → Topic
  | .setAuthToken .. | .clearAuth | .registrationComplete .. => .login
  | .updateMessageStatus .. => .status
  | .sessionEstablished .. | .sessionError .. => .session
  | .connectionStateChanged false => .selection
  | _ => .report

/-- A section on the core is about what it changes there. -/
def CoreSection.topic : {A : Type} → CoreSection Core A → Topic
  | _, .encryptAndExport .. | _, .initiateAndExport .. => .sealing
  | _, .receiveAndExport .. | _, .decryptAndExport .. | _, .decrypt .. => .opening
  | _, .heal .. | _, .clearHeal .. => .healing
  | _, .replace .. | _, .restore .. => .replacing
  | _, .exportState | _, .registrationKeys | _, .generateAndExport .. | _, .rotateAndExport => .keeping

/-- Each operation has one topic. -/
def Op.topic : {A : Type} → Op Core A → Topic
  | _, .onAction action => action.topic
  | _, .core region => region.topic
  | _, .handling .. => .handling
  | _, .connectBegin | _, .quicConnect | _, .h3Store .. | _, .connectedSend | _, .h3Drop => .connection
  | _, .exchange _ servicePath _ _ => .rpc servicePath
  | _, .openExchange .. | _, .spawnPump _ | _, .streamWrite (some _) | _, .paramsWrite _ => .subscription
  | _, .paramsRead | _, .paramsLock => .subscription
  | _, .streamWrite none => .closing
  | _, .sendFrame site _ _ => .sending site
  | _, .paramsCursor _ => .cursor
  | _, .tokenWrite _ | _, .tokenStateSend _ => .token
  | _, .spawnRetry .. => .retry
  | _, .select _ => .selection
  | _, .transportNew | _, .tokenSubscribe | _, .tokenHasChanged | _, .refreshReset _
  | _, .connectedBorrow | _, .rxDrop => .loop
  | _, _ => .reading

/-- The topics of the two handlers that receive messages. -/
def receiveTopics : List Topic :=
  [.report, .handling, .opening, .sending .sendAckFrame, .session, .healing, .retry,
    .rpc keyGetBundle]

/-- A count check may go on to an upload. -/
def keyCountTopics : List Topic := [.report, .keeping, .rpc keyUpload, .rpc keyCount]

/-- Every login tells its tokens and opens the stream again. -/
def loginTopics : List Topic := [.login, .token, .subscription]

/-- The topics of the handler of each event. -/
def UiEvent.topics : UiEvent → List Topic
  | .platformReady => [.report]
  | .registerDevice .. => .rpc authPowChallenge :: .rpc authRegister :: keyCountTopics ++ loginTopics
  | .authenticate .. => .rpc authAuthenticate :: keyCountTopics ++ loginTopics
  | .refreshToken _ => .rpc authRefresh :: loginTopics
  | .logout => [.login, .token, .rpc authLogout]
  | .fetchPreKeyBundle .. => [.report, .rpc keyGetBundle]
  | .uploadOtpks .. => [.report, .keeping, .rpc keyUpload]
  | .getPreKeyCount _ => keyCountTopics
  | .rotateSignedPreKey _ => [.report, .keeping, .rpc keyRotateSpk]
  | .openMessageStream .. => [.subscription, .wish]
  | .closeMessageStream => [.closing]
  | .sendMessage .. => [.report, .sealing, .status, .sending .sendMessage]
  | .ackMessage .. => [.sending .ackMessage]
  | .initSessionInitiator _ =>
      [.report, .sealing, .session, .rpc keyGetBundle, .sending .initSessionInitiator]
  | .searchUser _ => [.report, .rpc userFind]
  | .registerPushToken .. => [.rpc notificationRegister]
  | .backgroundPush _ => .rpc messagingGetPending :: .keeping :: receiveTopics
  | .keychainResult .. => [.replacing, .session]
  | _ => []

/-- Only an attempt to open the stream asks operations about the subscription. -/
def Topic.opens (topic : Topic) : Bool := topic = .subscription

/-- No handler selects. -/
theorem topics_unselected (event : UiEvent) : ∀ topic ∈ event.topics, topic ≠ .selection := by
  cases event <;> simp [UiEvent.topics, receiveTopics, keyCountTopics, loginTopics]

/-- A handler is composed of single operations, unary calls and attempts to open the stream. Only
the platform can wish for another subscription than the stored one. -/
inductive Brick (topics : Topic → Prop) (calls : String → Bytes → Prop) :
    (A : Type) → EngineM Core A → Prop
  | op {A : Type} (op : Op Core A) (listed : op.topic = .reading ∨ topics op.topic)
      (apart : op.topic.opens = false) : Brick topics calls A (perform op)
  | unaryCall (servicePath : String) (request : Bytes) (listed : calls servicePath request) :
      Brick topics calls (Except EngineError Bytes) (unaryCall servicePath request)
  | handleOpenStream (conversations : List String) (cursor : Option String)
      (listed : topics .subscription) (wished : topics .wish) :
      Brick topics calls Unit (handleOpenStream conversations cursor)
  | reopenStreamIfNeeded (listed : topics .subscription) :
      Brick topics calls Unit reopenStreamIfNeeded

/-- A program of these topics and calls is composed of their pieces. -/
abbrev Built (topics : Topic → Prop) (calls : String → Bytes → Prop) (program : EngineM Core A) : Prop :=
  Composed (Brick topics calls) program

/-- Every request of a listed service is fine. -/
def anyRequest (topics : Topic → Prop) (servicePath : String) (_ : Bytes) : Prop :=
  topics (.rpc servicePath)

variable {topics : Topic → Prop} {calls : String → Bytes → Prop}

/-- An operation of a listed topic is a piece. -/
theorem built_op (op : Op Core A) (listed : topics op.topic) (apart : op.topic.opens = false) :
    Built topics calls (perform op) := .piece (.op op (.inr listed) apart)

/-- Reading is a piece whatever the topics are. -/
theorem built_reading (op : Op Core A) (reading : op.topic = .reading) : Built topics calls (perform op) :=
  .piece (.op op (.inl reading) (by rw [reading]; rfl))

/-- No report opens the stream. -/
theorem action_apart (action : PlatformAction) : action.topic.opens = false := by
  unfold PlatformAction.topic
  split <;> rfl

/-- A report of a listed topic is a piece. -/
theorem built_action {action : PlatformAction} (listed : topics action.topic) :
    Built topics calls (onAction action : EngineM Core Unit) :=
  built_op (.onAction action) listed (action_apart action)

/-- A unary call of a listed request is a piece. -/
theorem built_unaryCall {servicePath : String} {request : Bytes} (listed : calls servicePath request) :
    Built topics calls (unaryCall servicePath request : EngineM Core (Except EngineError Bytes)) :=
  .piece (.unaryCall servicePath request listed)

theorem built_return (value : A) : Built topics calls (pure value : EngineM Core A) := .done value

/-- A call is followed by what each of its two outcomes needs. -/
theorem built_call {servicePath : String} {request : Bytes}
    {rest : Except EngineError Bytes → EngineM Core A} (listed : calls servicePath request)
    (later : ∀ answer, Built topics calls (rest answer)) :
    Built topics calls (unaryCall servicePath request >>= rest) :=
  .bind (built_unaryCall listed) later

/-- A state is saved with a report. -/
theorem built_saveState (report : topics .report) (stateBytes : Bytes) :
    Built topics calls (saveState stateBytes : EngineM Core Unit) := by
  unfold saveState
  split
  · exact built_return ()
  · exact built_action report

/-- Besides its own topics, a handler reads, connects and reports. -/
def Engages (topics : Topic → Prop) (topic : Topic) : Prop :=
  topic = .reading ∨ topic = .connection ∨ topic = .report ∨ topics topic

/-- A program engages in its own topics. -/
theorem Engages.own {topic : Topic} (own : topics topic) : Engages topics topic :=
  .inr (.inr (.inr own))

/-- The loop asks these operations itself, apart from its selections. -/
def Op.Own (op : Op Core A) : Prop := Engages (· = Topic.loop) op.topic

/-- The program asks only operations about these topics. -/
abbrev Concerns (topics : Topic → Prop) (program : EngineM Core A) : Prop :=
  program.Uses fun op => Engages topics op.topic

/-- More topics allow more. -/
theorem Engages.mono {wider : Topic → Prop} {topic : Topic} (engages : Engages topics topic)
    (implies : topics topic → wider topic) : Engages wider topic := by
  rcases engages with reading | connection | report | own
  · exact .inl reading
  · exact .inr (.inl connection)
  · exact .inr (.inr (.inl report))
  · exact .own (implies own)

/-- A program keeps out of the topics that are not its own. -/
theorem Engages.ne {topic other : Topic} (engages : Engages topics topic)
    (basic : other ≠ .reading ∧ other ≠ .connection ∧ other ≠ .report)
    (own : ∀ topic, topics topic → topic ≠ other) : topic ≠ other := by
  rcases engages with rfl | rfl | rfl | listed
  · exact basic.1.symm
  · exact basic.2.1.symm
  · exact basic.2.2.symm
  · exact own _ listed

theorem own_of_engages {op : Op Core A} (engages : Engages (fun _ => False) op.topic) : op.Own :=
  engages.mono False.elim

/-- A program that is about fewer topics is about more. -/
theorem concerns_mono {wider : Topic → Prop} {program : EngineM Core A} (concerns : Concerns topics program)
    (implies : ∀ topic, topics topic → wider topic) : Concerns wider program :=
  concerns.mono fun _ engages => engages.mono (implies _)

/-- Reading is about nothing. -/
theorem concerns_reading {op : Op Core A} (reading : op.topic = .reading) :
    Concerns topics (perform op) := uses_perform (.inl reading)

/-- Connecting is about nothing that a handler accounts for. -/
theorem concerns_connection {op : Op Core A} (connection : op.topic = .connection) :
    Concerns topics (perform op) := uses_perform (.inr (.inl connection))

/-- A plain report is about nothing that a handler accounts for. -/
theorem concerns_report {action : PlatformAction} (report : action.topic = .report) :
    Concerns topics (onAction action : EngineM Core Unit) :=
  uses_perform (.inr (.inr (.inl report)))

/-- An operation of an own topic is allowed. -/
theorem concerns_own {op : Op Core A} (own : topics op.topic) : Concerns topics (perform op) :=
  uses_perform (.own own)

/-- These operations read and connect, and they leave no trace. -/
def Linking (topic : Topic) : Prop := topic = .reading ∨ topic = .connection

/-- The operations of the link are part of every program. -/
theorem Linking.engages {topic : Topic} (linking : Linking topic) : Engages topics topic := by
  rcases linking with reading | connection
  · exact .inl reading
  · exact .inr (.inl connection)

/-- The program only reads and connects. -/
abbrev Links (program : EngineM Core A) : Prop := program.Uses fun op => Linking op.topic

/-- A program of the link is about nothing else. -/
theorem Links.concerns {program : EngineM Core A} (links : Links program) : Concerns topics program :=
  links.mono fun _ linking => linking.engages

/-- An attempt to connect stays within the link. -/
theorem links_connectH3 (site : ConnectSite) :
    Links (connectH3 site : EngineM Core (Except EngineError Unit)) := by
  unfold connectH3
  refine uses_bind (uses_perform (.inr rfl)) fun _ =>
    uses_bind (uses_perform (.inr rfl)) fun connected => ?_
  rcases connected with error | conn
  · exact uses_pure _
  · exact uses_bind (uses_perform (.inr rfl)) fun _ =>
      uses_bind (uses_perform (.inr rfl)) fun _ => uses_pure _

/-- The check for a connection stays within the link. -/
theorem links_ensureH3 (site : ConnectSite) :
    Links (ensureH3 site : EngineM Core (Except EngineError Unit)) := by
  unfold ensureH3
  refine uses_bind (uses_perform (.inl rfl)) fun h3 => ?_
  cases h3 with
  | none => exact links_connectH3 site
  | some conn => exact uses_pure _

theorem links_sendRequest : Links (sendRequest : EngineM Core (Except EngineError Nat)) := by
  unfold sendRequest
  refine uses_bind (uses_perform (.inl rfl)) fun h3 => ?_
  cases h3 <;> exact uses_pure _

/-- A unary call connects, reads and makes its one request. -/
theorem asks_unaryCall {allowed : {B : Type} → Op Core B → Prop} {servicePath : String}
    {request : Bytes}
    (basic : ∀ {B : Type} (op : Op Core B), Linking op.topic → allowed op)
    (exchange : ∀ conn token, allowed (.exchange conn servicePath request token)) :
    (unaryCall servicePath request : EngineM Core (Except EngineError Bytes)).Uses allowed := by
  unfold unaryCall
  refine uses_bind ((links_ensureH3 _).mono fun op => basic op) fun ensured => ?_
  rcases ensured with error | ⟨⟩
  · exact uses_pure _
  refine uses_bind (links_sendRequest.mono fun op => basic op) fun sendReq => ?_
  rcases sendReq with error | conn
  · exact uses_pure _
  refine uses_bind (uses_perform (basic _ (.inl rfl))) fun token =>
    uses_bind (uses_perform (exchange _ _)) fun answer => ?_
  split
  · exact uses_bind (uses_perform (basic _ (.inr rfl))) fun _ => uses_pure _
  · exact uses_pure _

/-- Opening the stream is about the subscription. -/
theorem concerns_openMessageStream (own : topics .subscription) (conversations : List String)
    (cursor : Option String) :
    Concerns topics (openMessageStream conversations cursor :
      EngineM Core (Except EngineError BiDiStreamHandle)) := by
  unfold openMessageStream
  refine uses_bind (links_ensureH3 _).concerns fun ensured => ?_
  rcases ensured with error | ⟨⟩
  · exact uses_pure _
  refine uses_bind links_sendRequest.concerns fun sendReq => ?_
  rcases sendReq with error | conn
  · exact uses_pure _
  refine uses_bind (concerns_reading rfl) fun token =>
    uses_bind (concerns_reading rfl) fun requestId =>
    uses_bind (concerns_own own) fun opened => ?_
  rcases opened with error | ⟨⟩
  · exact uses_pure _
  · exact uses_bind (concerns_own own) fun _ => uses_pure _

/-- Storing the parameters is about the subscription as well. -/
theorem concerns_handleOpenStream (own : topics .subscription) (conversations : List String)
    (cursor : Option String) :
    Concerns topics (handleOpenStream conversations cursor : EngineM Core Unit) := by
  unfold handleOpenStream
  refine uses_bind (concerns_own own) fun _ =>
    uses_bind (concerns_openMessageStream own _ _) fun opened => ?_
  rcases opened with error | handle
  · exact concerns_report rfl
  · exact uses_bind (concerns_own own) fun _ => concerns_report rfl

theorem concerns_reopenStreamIfNeeded (own : topics .subscription) :
    Concerns topics (reopenStreamIfNeeded : EngineM Core Unit) := by
  unfold reopenStreamIfNeeded
  refine uses_bind (concerns_own own) fun params => ?_
  cases params with
  | none => exact uses_pure ()
  | some params => exact concerns_handleOpenStream own _ _

/-- A reconnect is about the subscription. -/
theorem concerns_resubscribe (own : topics .subscription) :
    Concerns topics (resubscribe : EngineM Core Unit) := by
  unfold resubscribe
  refine uses_bind (concerns_own own) fun params => ?_
  cases params with
  | none => exact concerns_reading rfl
  | some params => exact uses_bind (concerns_handleOpenStream own _ _) fun _ => concerns_reading rfl

/-- The backoff only connects, reports and sleeps. -/
theorem concerns_ensureConnected : Concerns topics (ensureConnected : EngineM Core Unit) := by
  unfold ensureConnected
  refine uses_iterate (fun delay => ?_) 1
  refine uses_bind (links_connectH3 _).concerns fun connected => ?_
  rcases connected with error | ⟨⟩
  · refine uses_bind (concerns_report rfl) fun _ => uses_bind ?_ fun _ => uses_pure _
    exact uses_bind (concerns_reading rfl) fun now => concerns_reading rfl
  · exact uses_bind (concerns_report rfl) fun _ => uses_pure _

theorem concerns_saveState (stateBytes : Bytes) :
    Concerns topics (saveState stateBytes : EngineM Core Unit) := by
  unfold saveState
  split
  · exact uses_pure ()
  · exact concerns_report rfl

/-- A handler asks operations about its topics and makes its requests, whatever the answers are. -/
theorem Built.asks {allowed : {B : Type} → Op Core B → Prop} {program : EngineM Core A}
    (built : Built topics calls program)
    (basic : ∀ {B : Type} (op : Op Core B), Engages topics op.topic → allowed op)
    (exchange : ∀ conn servicePath request token, calls servicePath request →
      allowed (.exchange conn servicePath request token)) :
    program.Uses allowed := by
  refine Composed.uses built fun single brick => ?_
  cases brick with
  | op op listed apart =>
      rcases listed with reading | own
      · exact uses_perform (basic op (.inl reading))
      · exact uses_perform (basic op (.own own))
  | unaryCall servicePath request listed =>
      exact asks_unaryCall (fun op linking => basic op linking.engages)
        fun conn token => exchange conn servicePath request token listed
  | handleOpenStream conversations cursor own _ =>
      exact (concerns_handleOpenStream own _ _).mono fun op => basic op
  | reopenStreamIfNeeded own =>
      exact (concerns_reopenStreamIfNeeded own).mono fun op => basic op

/-- What is built of pieces is about their topics. -/
theorem Built.concerns {program : EngineM Core A} (built : Built topics (anyRequest topics) program) :
    Concerns topics program :=
  built.asks (fun _ engages => engages) fun _ _ _ _ listed => .own listed

theorem built_messageIdOf (id : Option MessageIdType) :
    Built topics calls (messageIdOf id : EngineM Core String) := by
  unfold messageIdOf
  split
  · exact built_return _
  · exact .bind (built_reading .uuid rfl) fun _ => built_return _

variable [Prost]

/-- A frame goes to the stream that is open, if there is one. -/
theorem built_handleAckMessage (sending : topics (.sending .ackMessage)) (messageId : String) :
    Built topics calls (handleAckMessage messageId : EngineM Core Unit) := by
  unfold handleAckMessage
  refine .bind (built_reading _ rfl) fun timestamp => .bind (built_reading _ rfl) fun stream => ?_
  cases stream with
  | none => exact built_return ()
  | some stream => exact .bind (built_op _ sending rfl) fun _ => built_return ()

/-- A receipt of the engine has a sending site of its own. -/
theorem built_sendAckFrame (sending : topics (.sending .sendAckFrame)) (messageId : String) :
    Built topics calls (sendAckFrame messageId : EngineM Core Unit) := by
  unfold sendAckFrame
  refine .bind (built_reading _ rfl) fun timestamp => .bind (built_reading _ rfl) fun stream => ?_
  cases stream with
  | none => exact built_return ()
  | some stream => exact .bind (built_op _ sending rfl) fun _ => built_return ()

/-- A bundle is fetched with the one request for it. -/
theorem built_fetchBundle (bundle : ∀ request, calls keyGetBundle request) (userId noBundle : String) :
    Built topics calls (fetchBundle userId noBundle :
      EngineM Core (Except String (PreKeyBundle × Bytes))) := by
  unfold fetchBundle
  refine built_call (bundle _) fun answer => ?_
  rcases answer with error | bytes
  · exact built_return _
  dsimp only
  split
  · exact built_return _
  · split <;> exact built_return _

section
variable (report : topics .report)
include report

theorem built_handleFetchPreKeyBundle (bundle : ∀ request, calls keyGetBundle request) (userId : String)
    (deviceId : Option String) :
    Built topics calls (handleFetchPreKeyBundle userId deviceId : EngineM Core Unit) := by
  unfold handleFetchPreKeyBundle
  refine built_call (bundle _) fun answer => ?_
  rcases answer with error | bytes
  · exact built_return ()
  · exact built_action report

theorem built_handleSearchUser (find : ∀ request, calls userFind request) (query : String) :
    Built topics calls (handleSearchUser query : EngineM Core Unit) := by
  unfold handleSearchUser
  refine built_call (find _) fun answer => ?_
  rcases answer with error | bytes
  · exact built_action report
  dsimp only
  split
  · exact built_action report
  · split <;> exact built_action report

section
variable (keeping : topics .keeping)
include keeping

theorem built_handleRotateSpk (rotate : ∀ request, calls keyRotateSpk request) (deviceId : String) :
    Built topics calls (handleRotateSpk deviceId : EngineM Core Unit) := by
  unfold handleRotateSpk
  refine .bind (built_op _ keeping rfl) fun rotated => ?_
  rcases rotated with error | ⟨keyId, spkPublic, spkSig, stateBytes⟩
  · exact built_return ()
  refine .bind (built_action report) fun _ => built_call (rotate _) fun answer => ?_
  rcases answer with error | bytes
  · exact built_return ()
  dsimp only
  split
  · exact built_return ()
  · split
    · exact built_action report
    · exact built_return ()

section
variable {deviceId : String} (upload : ∀ preKeys, calls keyUpload
    (Prost.encodeToVec .uploadPreKeysRequest ⟨deviceId, preKeys, none, false⟩))
include upload

/-- An upload keeps the keys before it calls. -/
theorem built_handleUploadOtpks (count : Nat) :
    Built topics calls (handleUploadOtpks deviceId count : EngineM Core Unit) := by
  unfold handleUploadOtpks
  refine .bind (built_op _ keeping rfl) fun generated => ?_
  rcases generated with error | ⟨preKeys, stateBytes⟩
  · exact built_return ()
  refine .bind (built_action report) fun _ => built_call (upload _) fun answer => ?_
  rcases answer with error | bytes
  · exact built_return ()
  dsimp only
  split
  · exact built_return ()
  · exact built_action report

variable (counting : calls keyCount (Prost.encodeToVec .getPreKeyCountRequest ⟨deviceId⟩))
include counting

/-- A count check calls, reports and uploads. -/
theorem built_handleGetPreKeyCount :
    Built topics calls (handleGetPreKeyCount deviceId : EngineM Core Unit) := by
  unfold handleGetPreKeyCount
  refine built_call counting fun answer => ?_
  rcases answer with error | bytes
  · exact built_return ()
  dsimp only
  split
  · exact built_return ()
  · refine .bind (built_action report) fun _ => ?_
    split
    · exact built_handleUploadOtpks report keeping upload _
    · exact built_return ()

end

section
variable {config : EngineConfig}
  (upload : ∀ preKeys, calls keyUpload
    (Prost.encodeToVec .uploadPreKeysRequest ⟨config.myDeviceId, preKeys, none, false⟩))
  (counting : calls keyCount (Prost.encodeToVec .getPreKeyCountRequest ⟨config.myDeviceId⟩))
  (login : topics .login) (token : topics .token) (subscription : topics .subscription)
include upload counting login token subscription

variable [ConstructCore Core]

omit [ConstructCore Core] in
/-- A login reports its tokens, opens the stream again and checks the one-time keys. -/
theorem built_handleRegisterDevice (challenge : ∀ request, calls authPowChallenge request)
    (register : ∀ request, calls authRegister request) (username : Option String)
    (deviceId : String) :
    Built topics calls (handleRegisterDevice config username deviceId : EngineM Core Unit) := by
  unfold handleRegisterDevice
  refine built_call (challenge _) fun answer => ?_
  rcases answer with error | challengeBytes
  · exact built_return ()
  dsimp only
  split
  · exact built_return ()
  refine .bind (built_reading _ rfl) fun solved => ?_
  cases solved with
  | none => exact built_return ()
  | some powSolution =>
  refine .bind (built_op _ keeping rfl) fun keys => ?_
  rcases keys with error | publicKeys
  · exact built_return ()
  refine built_call (register _) fun answer => ?_
  split
  · exact built_action login
  · exact built_return ()
  split
  · exact built_return ()
  split
  · exact built_return ()
  exact .bind (built_op _ token rfl) fun _ => .bind (built_op _ token rfl) fun _ =>
    .bind (built_action login) fun _ => .bind (built_action login) fun _ =>
    .bind (.piece (.reopenStreamIfNeeded subscription)) fun _ =>
    built_handleGetPreKeyCount report keeping upload counting

/-- A login calls once for its tokens. -/
theorem built_handleAuthenticate (authenticate : ∀ request, calls authAuthenticate request)
    (deviceId : String) (challengeResponse signingKey : Bytes) :
    Built topics calls (handleAuthenticate config deviceId challengeResponse signingKey :
      EngineM Core Unit) := by
  unfold handleAuthenticate
  refine .bind (built_reading _ rfl) fun timestamp => built_call (authenticate _) fun answer => ?_
  split
  · exact built_action login
  · exact built_return ()
  split
  · exact built_return ()
  split
  · exact built_return ()
  exact .bind (built_op _ token rfl) fun _ => .bind (built_op _ token rfl) fun _ =>
    .bind (built_action login) fun _ => .bind (.piece (.reopenStreamIfNeeded subscription)) fun _ =>
    built_handleGetPreKeyCount report keeping upload counting

end

end

end

section
variable (login : topics .login) (token : topics .token)
include login token

/-- A refresh calls with the token and the device of the configuration. -/
theorem built_handleRefreshToken (subscription : topics .subscription)
    {config : EngineConfig} {refreshToken : String}
    (refresh : calls authRefresh
      (Prost.encodeToVec .refreshTokenRequest ⟨refreshToken, config.myDeviceId⟩)) :
    Built topics calls (handleRefreshToken config refreshToken : EngineM Core Unit) := by
  unfold handleRefreshToken
  refine built_call refresh fun answer => ?_
  split
  · exact .bind (built_op _ token rfl) fun _ => built_action login
  · exact built_return ()
  split
  · exact built_return ()
  exact .bind (built_op _ token rfl) fun _ => .bind (built_op _ token rfl) fun _ =>
    .bind (built_action login) fun _ => .piece (.reopenStreamIfNeeded subscription)

/-- A logout calls with the token of the configuration. -/
theorem built_handleLogout {config : EngineConfig} (logout : calls authLogout
      (Prost.encodeToVec .logoutRequest ⟨config.authToken.getD "", false⟩)) :
    Built topics calls (handleLogout config : EngineM Core Unit) :=
  built_call logout fun _ => .bind (built_op _ token rfl) fun _ => .bind (built_op _ token rfl) fun _ =>
    built_action login

end

/-- The push token is registered for the device of the configuration. -/
theorem built_handleRegisterPush {config : EngineConfig} {token : String}
    (register : calls notificationRegister
      (Prost.encodeToVec .registerDeviceTokenRequest ⟨token, config.myDeviceId⟩)) :
    Built topics calls (handleRegisterPush config token : EngineM Core Unit) :=
  built_call register fun _ => built_return ()

theorem built_buildEnvelope (contactId localId conversationId : String) (wirePayload : Bytes)
    (level : AnonymityLevel) :
    Built topics calls (buildEnvelope contactId localId conversationId wirePayload level :
      EngineM Core Envelope) := by
  cases level with
  | normal => exact built_return _
  | ghost =>
      exact .bind (built_reading .uuid rfl) fun _ => .bind (built_reading .uuid rfl) fun _ =>
        .bind (built_reading .systemTime rfl) fun _ => built_return _

section
variable (report : topics .report)
include report

section
variable (sealing : topics .sealing)
include sealing

/-- A message is sealed, sent and reported. -/
theorem built_handleSendMessage (status : topics .status)
    (sending : topics (.sending .sendMessage)) (contactId : String) (plaintext : Bytes)
    (localId conversationId : String) (level : AnonymityLevel) :
    Built topics calls (handleSendMessage contactId plaintext localId conversationId level :
      EngineM Core Unit) := by
  unfold handleSendMessage
  refine .bind (built_op _ sealing rfl) fun encrypted => ?_
  rcases encrypted with error | ⟨wirePayload, stateBytes⟩
  · exact built_action status
  refine .bind (built_saveState report _) fun _ => .bind (built_buildEnvelope _ _ _ _ _)
    fun envelope => .bind (built_reading _ rfl) fun stream => ?_
  cases stream with
  | none => exact built_action status
  | some stream =>
      refine .bind (built_op _ sending rfl) fun sent => ?_
      rcases sent with error | ⟨⟩ <;> exact built_action status

/-- An initiation fetches a bundle before it seals its first message. -/
theorem built_handleInitSessionInitiator (session : topics .session)
    (bundle : ∀ request, calls keyGetBundle request) (sending : topics (.sending .initSessionInitiator))
    (contactId : String) :
    Built topics calls (handleInitSessionInitiator contactId : EngineM Core Unit) := by
  unfold handleInitSessionInitiator
  refine .bind (built_fetchBundle bundle _ _) fun fetched => ?_
  rcases fetched with message | ⟨bundle, verifyingKey⟩
  · exact built_action session
  refine .bind (built_op _ sealing rfl) fun initiated => ?_
  rcases initiated with message | ⟨wirePayload, stateBytes⟩
  · exact built_action session
  refine .bind (built_saveState report _) fun _ => .bind (built_reading _ rfl) fun uuid =>
    .bind (built_reading _ rfl) fun stream => ?_
  cases stream with
  | none => exact built_action session
  | some stream => exact .bind (built_op _ sending rfl) fun _ => built_action session

end

variable [ConstructCore Core]

omit report [Prost] in
/-- A blob of the keychain replaces the core or restores its sessions. -/
theorem built_handleKeychainResult (replacing : topics .replacing) (session : topics .session)
    (config : EngineConfig) (key : String) (data : Option Bytes) :
    Built topics calls (handleKeychainResult config key data : EngineM Core Unit) := by
  unfold handleKeychainResult
  split
  · cases data with
    | none => exact built_return ()
    | some blob =>
        refine .bind ?_ fun _ => built_return ()
        unfold initCoreFromKeys
        split
        · exact built_return _
        · exact .bind (built_op _ replacing rfl) fun _ => built_return _
  · split
    · cases data with
      | none => exact built_return ()
      | some blob =>
          exact .bind (built_op _ replacing rfl) fun restored => .forM fun _ => built_action session
    · exact built_return ()

section
variable (handling : topics .handling) (opening : topics .opening)
  (acknowledging : topics (.sending .sendAckFrame))
include handling opening acknowledging

omit [ConstructCore Core] in
/-- A message is taken up and opened. -/
theorem built_handleDecryptMessage (message : IncomingMessage) :
    Built topics calls (handleDecryptMessage message : EngineM Core Unit) := by
  unfold handleDecryptMessage
  refine .bind (built_op _ handling rfl) fun _ => .bind (built_op _ opening rfl) fun received => ?_
  rcases received with error | ⟨plaintext, stateBytes⟩
  · exact built_return ()
  · exact .bind (built_saveState report _) fun _ => .bind (built_sendAckFrame acknowledging _)
      fun _ => built_action report

variable (session : topics .session) (healing : topics .healing) (retry : topics .retry)
  (bundle : ∀ request, calls keyGetBundle request)
include session healing retry bundle

/-- The responder may also heal and retry. -/
theorem built_handleSessionInitResponder (message : IncomingMessage) :
    Built topics calls (handleSessionInitResponder message : EngineM Core Unit) := by
  unfold handleSessionInitResponder
  refine .bind (built_op _ handling rfl) fun _ => .bind (built_fetchBundle bundle _ _) fun fetched => ?_
  rcases fetched with text | ⟨bundle, verifyingKey⟩
  · exact built_action session
  dsimp only
  split
  · exact built_action session
  refine .bind (built_op _ opening rfl) fun received => ?_
  rcases received with error | ⟨plaintext, stateBytes⟩
  · refine .bind (built_op _ healing rfl) fun decision => ?_
    cases decision with
    | retryAllowed attempt retryAfterMs => exact built_op _ retry rfl
    | maxAttemptsReached => exact .bind (built_op _ healing rfl) fun _ => built_action session
    | notFound => exact .bind (built_op _ healing rfl) fun _ => built_action session
  · refine .bind (built_op _ healing rfl) fun _ => .bind (built_saveState report _) fun _ =>
      .bind (built_sendAckFrame acknowledging _) fun _ => .bind (built_action session) fun _ => ?_
    split
    · exact built_return ()
    · exact built_action report

theorem built_handleIncomingEnvelope (envelope : Envelope) :
    Built topics calls (handleIncomingEnvelope envelope : EngineM Core Unit) := by
  unfold handleIncomingEnvelope
  dsimp only
  split
  · exact built_return ()
  split
  · exact built_return ()
  refine .bind (built_messageIdOf _) fun messageId => ?_
  split
  · exact built_return ()
  split
  · exact built_handleSessionInitResponder report handling opening acknowledging session healing
      retry bundle _
  · exact built_handleDecryptMessage report handling opening acknowledging _

/-- A frame moves the cursor before it is handled. -/
theorem built_handleIncomingFrame (cursor : topics .cursor) (frame : Bytes) :
    Built topics calls (handleIncomingFrame frame : EngineM Core Unit) := by
  unfold handleIncomingFrame
  split
  · exact built_return ()
  split
  · exact built_return ()
  refine .bind (.option fun _ => built_op _ cursor rfl) fun _ => ?_
  split
  · exact built_handleIncomingEnvelope report handling opening acknowledging session healing retry
      bundle _
  · exact .forM fun id => built_action report
  · exact built_return ()

theorem built_handlePendingMessage (totals : Nat × Bool) (msg : PendingMessage) :
    Built topics calls (handlePendingMessage totals msg : EngineM Core (Nat × Bool)) := by
  unfold handlePendingMessage
  dsimp only
  split
  · exact built_return _
  split
  · exact built_return _
  split
  · exact built_return _
  split
  · exact .bind (built_handleSessionInitResponder report handling opening acknowledging session
      healing retry bundle _) fun _ => built_return _
  · refine .bind (built_op _ handling rfl) fun _ => .bind (built_op _ opening rfl) fun answer => ?_
    rcases answer with error | plaintext
    · exact built_return _
    · exact .bind (built_action report) fun _ => .bind (built_action report) fun _ =>
        built_return _

/-- A background fetch handles every page with the same topics. -/
theorem built_handleBackgroundPush (pending : ∀ request, calls messagingGetPending request)
    (keeping : topics .keeping) (sinceCursor : Option String) :
    Built topics calls (handleBackgroundPush sinceCursor : EngineM Core Unit) := by
  have each (totals : Nat × Bool) (msg : PendingMessage) :
      Built topics calls (handlePendingMessage totals msg : EngineM Core (Nat × Bool)) :=
    built_handlePendingMessage report handling opening acknowledging session healing retry bundle
      totals msg
  unfold handleBackgroundPush
  refine .bind (.iterate _ fun progress => ?_) fun totals => ?_
  · unfold backgroundPage
    refine built_call (pending _) fun answer => ?_
    rcases answer with error | bytes
    · exact built_return _
    dsimp only
    split
    · exact built_return _
    · refine .bind (.foldlM each _) fun totals => ?_
      split <;> exact built_return _
  · exact .bind (built_op _ keeping rfl) fun exported =>
      .bind (.option fun stateBytes => built_saveState report stateBytes) fun _ =>
      built_action report

end

end

variable [ConstructCore Core]

/-- The topics of the handler of a frame. -/
theorem built_frame (frame : Bytes) :
    Built (· ∈ Topic.cursor :: receiveTopics) (anyRequest (· ∈ Topic.cursor :: receiveTopics))
      (handleIncomingFrame frame : EngineM Core Unit) := by
  refine built_handleIncomingFrame ?_ ?_ ?_ ?_ ?_ ?_ ?_ (fun _ => ?_) ?_ frame <;>
    simp [anyRequest, receiveTopics]

/-- The topics of an event are those of its handler. -/
theorem built_handleEvent (config : EngineConfig) (event : UiEvent)
    (listed : ∀ topic ∈ event.topics, topics topic) :
    Built topics (anyRequest topics) (handleEvent config event : EngineM Core Unit) := by
  cases event <;> simp only [UiEvent.topics, keyCountTopics, loginTopics, receiveTopics,
    List.cons_append, List.nil_append, List.forall_mem_cons] at listed
  case platformReady => exact built_action listed.1
  case registerDevice username deviceId =>
      obtain ⟨challenge, register, report, keeping, upload, counting, login, token, subscription, -⟩ :=
        listed
      exact built_handleRegisterDevice report keeping (fun _ => upload) counting login token
        subscription (fun _ => challenge) (fun _ => register) username deviceId
  case authenticate deviceId challengeResponse signingKey =>
      obtain ⟨authenticate, report, keeping, upload, counting, login, token, subscription, -⟩ := listed
      exact built_handleAuthenticate report keeping (fun _ => upload) counting login token
        subscription (fun _ => authenticate) _ _ _
  case refreshToken refreshToken =>
      obtain ⟨refresh, login, token, subscription, -⟩ := listed
      exact built_handleRefreshToken login token subscription refresh
  case logout =>
      obtain ⟨login, token, logout, -⟩ := listed
      exact built_handleLogout login token logout
  case fetchPreKeyBundle => exact built_handleFetchPreKeyBundle listed.1 (fun _ => listed.2.1) _ _
  case uploadOtpks => exact built_handleUploadOtpks listed.1 listed.2.1 (fun _ => listed.2.2.1) _
  case getPreKeyCount =>
      obtain ⟨report, keeping, upload, counting, -⟩ := listed
      exact built_handleGetPreKeyCount report keeping (fun _ => upload) counting
  case rotateSignedPreKey => exact built_handleRotateSpk listed.1 listed.2.1 (fun _ => listed.2.2.1) _
  case openMessageStream => exact .piece (.handleOpenStream _ _ listed.1 listed.2.1)
  case closeMessageStream => exact built_op _ listed.1 rfl
  case sendMessage =>
      obtain ⟨report, sealing, status, sending, -⟩ := listed
      exact built_handleSendMessage report sealing status sending _ _ _ _ _
  case ackMessage => exact built_handleAckMessage listed.1 _
  case initSessionInitiator =>
      obtain ⟨report, sealing, session, bundle, sending, -⟩ := listed
      exact built_handleInitSessionInitiator report sealing session (fun _ => bundle) sending _
  case searchUser => exact built_handleSearchUser listed.1 (fun _ => listed.2.1) _
  case registerPushToken => exact built_handleRegisterPush listed.1
  case backgroundPush =>
      obtain ⟨pending, keeping, report, handling, opening, acknowledging, session, healing, retry,
        bundle, -⟩ := listed
      exact built_handleBackgroundPush report handling opening acknowledging session healing retry
        (fun _ => bundle) (fun _ => pending) keeping _
  case keychainResult => exact built_handleKeychainResult listed.1 listed.2.1 _ _ _
  all_goals exact built_return ()

/-- The refresh of a due timer is an event that the engine gives to itself. -/
theorem built_refresh (config : EngineConfig) :
    Built (· ∈ Topic.rpc authRefresh :: loginTopics) (anyRequest (· ∈ Topic.rpc authRefresh :: loginTopics)) (do
      (← perform .tokenStateRead).forM fun due => handleRefreshToken config due.refreshToken :
        EngineM Core Unit) := by
  refine .bind (built_reading _ rfl) fun due => ?_
  cases due with
  | none => exact built_return ()
  | some due => exact built_handleEvent config (.refreshToken due.refreshToken) fun _ member => member

theorem concerns_refresh (config : EngineConfig) : Concerns (· ∈ Topic.rpc authRefresh :: loginTopics) (do
    (← perform .tokenStateRead).forM fun due => handleRefreshToken config due.refreshToken :
      EngineM Core Unit) := (built_refresh config).concerns

omit [Prost] [ConstructCore Core] in
/-- After the report of a lost connection, the stream is dropped and opened again. -/
theorem concerns_reconnect : Concerns (fun topic => topic = .subscription ∨ topic = .closing) (do
    perform (.streamWrite none)
    ensureConnected
    resubscribe : EngineM Core Unit) :=
  uses_bind (concerns_own (.inr rfl)) fun _ =>
    uses_bind concerns_ensureConnected fun _ => concerns_resubscribe (.inl rfl)

end ConstructEngine
