import ConstructEngine.Proof.Effect
import ConstructEngine.Proof.Loop
import ConstructEngine.Proof.Rehearsal

namespace ConstructEngine

open Interaction Program Machine

variable {Core : Type}

/-- The login reports are the actions that tell the platform about tokens. -/
def loginReport : Event → Option PlatformAction
  | .action .clearAuth => some .clearAuth
  | .action (.setAuthToken userId accessToken refreshToken expiresAt) =>
      some (.setAuthToken userId accessToken refreshToken expiresAt)
  | _ => none

/-- This is the last report of a trace. -/
def lastReport (log : List Event) : Option PlatformAction := (log.filterMap loginReport).getLast?

/-- The three views are the token of the transport, the refresh state and the last report. -/
structure LoginView where
  token : Option String
  tokenState : Option TokenRefreshState
  reported : Option PlatformAction

/-- The three views are read off the engine. -/
def Engine.login (engine : Engine Core) : LoginView :=
  ⟨engine.token, engine.tokenState.value, lastReport engine.log⟩

/-- The token and the refresh state are what the platform was told last. -/
def LoginView.Agree (view : LoginView) : Prop :=
  match view.reported with
  | some .clearAuth => view.token = none ∧ view.tokenState = none
  | some (.setAuthToken _ accessToken refreshToken expiresAt) =>
      view.token = some accessToken ∧ view.tokenState = some ⟨refreshToken, expiresAt⟩
  | _ => True

/-- After a reported rejection nothing is held. -/
theorem LoginView.Agree.cleared {view : LoginView} (agree : view.Agree)
    (reported : view.reported = some .clearAuth) : view.token = none ∧ view.tokenState = none := by
  unfold LoginView.Agree at agree
  rw [reported] at agree
  exact agree

/-- The last event decides what was reported last. -/
theorem lastReport_snoc (log : List Event) (event : Event) :
    lastReport (log ++ [event]) = (loginReport event).or (lastReport log) := by
  unfold lastReport
  rw [List.filterMap_append]
  cases reported : loginReport event with
  | none => simp [reported]
  | some action => simp [reported]

/-- What the core does reports nothing. -/
theorem lastReport_calls (log : List Event) (calls : List CoreCall) :
    lastReport (log ++ calls.map .core) = lastReport log := by
  unfold lastReport
  have silent : (calls.map Event.core).filterMap loginReport = [] := by
    simp [List.filterMap_map, Function.comp_def, loginReport]
  rw [List.filterMap_append, silent, List.append_nil]

/-- What is recorded may be a report. -/
@[simp] theorem login_record (engine : Engine Core) (event : Event) :
    (engine.record event).login =
      { engine.login with reported := (loginReport event).or engine.login.reported } := by
  simp only [Engine.login, Engine.record, lastReport_snoc]

/-- The calls of a section leave the three views alone. -/
@[simp] theorem login_recordCalls (engine : Engine Core) (calls : List CoreCall) :
    (engine.recordCalls calls).login = engine.login := by
  simp only [Engine.login, Engine.recordCalls, lastReport_calls]

/-- Only login actions are reports. -/
theorem loginReport_plain {action : PlatformAction} (plain : actionKind action ≠ .login) :
    loginReport (.action action) = none := by
  cases action <;> first | rfl | exact absurd rfl plain

variable [ConstructCore Core] {config : EngineConfig}

/-- Only login operations change one of the three views. -/
theorem exec_login {A : Type} {op : Op Core A} (quiet : op.kind ≠ .login) {choice : Choice}
    {world after : World Core} {value : A}
    (answered : exec config op choice world = some (value, after)) :
    after.engine.login = world.engine.login := by
  cases op with
  | onAction action =>
      cases answered
      simp [loginReport_plain quiet]
  | core region =>
      cases answered
      rw [login_recordCalls]
      rfl
  | tokenWrite token => exact absurd rfl quiet
  | tokenStateSend state => exact absurd rfl quiet
  | quicConnect =>
      obtain ⟨error, -, -, rfl⟩ | ⟨-, rfl⟩ := quicConnect_effect answered <;> rfl
  | openExchange conn token conversationIds sinceCursor requestId =>
      obtain rfl | rfl := openExchange_effect answered <;> simp [loginReport]
  | sendFrame site handle frame =>
      obtain ⟨-, rfl⟩ | ⟨pump, -, -, -, -, rfl⟩ := sendFrame_effect answered <;> simp [loginReport]
  | sleepUntil deadline => rw [sleepUntil_effect answered]
  | tokenHasChanged =>
      obtain ⟨tokenSeen, rfl⟩ := tokenHasChanged_effect answered
      rfl
  | select refreshArmed =>
      obtain ⟨-, -, rfl⟩ | ⟨-, -, rfl⟩ | ⟨-, ⟨event, rest, -, -, rfl⟩ | ⟨-, ⟨frame, rest, -, -, rfl⟩ |
        ⟨-, -, rfl⟩⟩⟩ := select_effect answered
      · simp [loginReport]
      · rfl
      · simp [loginReport]
      · simp [loginReport]
      · rfl
  | handling path message => cases answered; simp [loginReport]
  | exchange conn servicePath request token => cases answered; simp [loginReport]
  | refreshReset secs => cases answered; simp [loginReport]; rfl
  | paramsRead =>
      obtain ⟨-, -, rfl⟩ := paramsRead_effect answered
      rfl
  | paramsWrite params =>
      obtain ⟨-, rfl⟩ := paramsWrite_effect answered
      rfl
  | paramsCursor cursor =>
      obtain ⟨-, rfl⟩ := paramsCursor_effect answered
      rfl
  | paramsLock =>
      obtain ⟨-, -, rfl⟩ := paramsLock_effect answered
      rfl
  | _ => cases answered; rfl

/-- The server rejects the credentials of a login request only while the engine holds none. -/
def RejectionHarmless (servicePath : String) (view : LoginView) : Prop :=
  (servicePath = authRegister ∨ servicePath = authAuthenticate →
    view.token = none ∧ view.tokenState = none) ∧
  (servicePath = authRefresh → view.token = none)

/-- The server rejects the credentials of the request. -/
def Rejected (servicePath : String) (exchange : H3Exchange) : Prop :=
  (match doUnaryCall servicePath exchange with
    | .error error => error.isUnauthenticated
    | .ok _ => false) = true

instance (servicePath : String) (exchange : H3Exchange) : Decidable (Rejected servicePath exchange) :=
  inferInstanceAs (Decidable (_ = true))

instance (servicePath : String) (view : LoginView) : Decidable (RejectionHarmless servicePath view) :=
  inferInstanceAs (Decidable (_ ∧ _))

/-- Only an exchange can carry a rejection. -/
def Op.exchangePath : {A : Type} → Op Core A → Option String
  | _, .exchange _ servicePath _ _ => some servicePath
  | _, _ => none

/-- Where the operation is an exchange, its rejection is harmless. -/
def HarmlessAt (exchange : H3Exchange) (view : LoginView) : Option String → Prop
  | some servicePath => Rejected servicePath exchange → RejectionHarmless servicePath view
  | none => True

instance (exchange : H3Exchange) (view : LoginView) :
    (path : Option String) → Decidable (HarmlessAt exchange view path)
  | some servicePath =>
      inferInstanceAs (Decidable (Rejected servicePath exchange → RejectionHarmless servicePath view))
  | none => isTrue trivial

/-- In these runs every rejection of a login request is harmless. -/
def loginPromise (Core : Type) [ConstructCore Core] (config : EngineConfig) :
    (engineMachine Core config).Promise where
  answers op choice world := HarmlessAt choice.http world.engine.login op.exchangePath
  moves _ _ := True

instance (A : Type) (op : Op Core A) (choice : (engineMachine Core config).Choice)
    (world : (engineMachine Core config).State) :
    Decidable ((loginPromise Core config).answers op choice world) :=
  inferInstanceAs (Decidable (HarmlessAt (Choice.http choice) (World.engine world).login _))

instance (move : (engineMachine Core config).Move) (world : (engineMachine Core config).State) :
    Decidable ((loginPromise Core config).moves move world) := isTrue trivial

/-- The three views agree whenever the loop selects its next branch. -/
def loginGuard (Core : Type) [ConstructCore Core] (config : EngineConfig) :
    (engineMachine Core config).Guard := fun op world =>
  match op with
  | .select _ => world.engine.login.Agree
  | _ => True

/-- The environment never moves the three views. -/
def loginOwned (Core : Type) [ConstructCore Core] (config : EngineConfig) :
    (engineMachine Core config).Owned LoginView where
  view world := world.engine.login
  kept move state after moved := by
    obtain ⟨net, -, rfl⟩ := moveWorld_some moved
    rfl

/-- The program is safe from this view, under the promise and up to the selections. -/
abbrev LoginSafe {A : Type} (config : EngineConfig) (program : EngineM Core A)
    (result : A → LoginView → Prop) (view : LoginView) : Prop :=
  (loginOwned Core config).Safe (loginPromise Core config) (loginGuard Core config) program result
    view

/-- The guard speaks of the selection alone. -/
theorem loginGuard_of_kind {A : Type} {op : Op Core A} (kind : op.kind ≠ .loop)
    (world : World Core) : loginGuard Core config op world := by
  cases op with
  | select refreshArmed => exact absurd rfl kind
  | _ => trivial

/-- Handlers ask these operations outside of their login. -/
def Quiet (kind : OpKind) : Prop := kind ≠ .login ∧ kind ≠ .loop

/-- Plain operations are outside of the login. -/
theorem quiet_plain : Quiet .plain := by constructor <;> decide

/-- The transport is outside of the login. -/
theorem quiet_transport : Quiet .transport := by constructor <;> decide

/-- After a quiet operation the rest continues from the same views, with what is known about
the answer. -/
theorem answer_bind {A B : Type} {op : Op Core A} {rest : A → EngineM Core B}
    {result : B → LoginView → Prop} {view : LoginView} (quiet : Quiet op.kind) (fact : A → Prop)
    (answers : ∀ choice world value after, world.engine.login = view →
      (loginPromise Core config).answers op choice world →
      exec config op choice world = some (value, after) → fact value)
    (later : ∀ value, fact value → LoginSafe config (rest value) result view) :
    LoginSafe config (perform op >>= rest) result view := by
  have first : LoginSafe config (perform op) (fun value after => after = view ∧ fact value) view := by
    apply Owned.safe_perform (fun world _ => loginGuard_of_kind quiet.2 world)
    intro world choice value after now kept answered
    exact ⟨(exec_login quiet.1 answered).trans now,
      answers choice world value after now kept answered⟩
  apply first.andThen
  rintro value _ ⟨rfl, known⟩
  exact later value known

/-- After a quiet operation the rest continues from the same views. -/
theorem quiet_bind {A B : Type} {op : Op Core A} {rest : A → EngineM Core B}
    {result : B → LoginView → Prop} {view : LoginView} (quiet : Quiet op.kind)
    (later : ∀ value, LoginSafe config (rest value) result view) :
    LoginSafe config (perform op >>= rest) result view :=
  answer_bind quiet (fun _ => True) (fun _ _ _ _ _ _ _ => trivial) fun value _ => later value

/-- Quiet operations leave the three views alone. -/
theorem quiet_uses {A : Type} {program : EngineM Core A}
    (uses : program.Uses fun op => Quiet op.kind) (view : LoginView) :
    LoginSafe config program (fun _ after => after = view) view := by
  refine Owned.safe_of_uses (· = view) ?_ ?_ uses rfl
  · exact fun op world allowed _ => loginGuard_of_kind allowed.2 world
  · exact fun op choice world value after allowed now _ answered =>
      (exec_login allowed.1 answered).trans now

/-- A login operation changes the view in one known way. -/
theorem login_perform {A : Type} {op : Op Core A} (kind : op.kind = .login)
    (change : LoginView → LoginView)
    (effect : ∀ choice world value after, exec config op choice world = some (value, after) →
      after.engine.login = change world.engine.login) (view : LoginView) :
    LoginSafe config (perform op) (fun _ after => after = change view) view := by
  apply Owned.safe_perform (fun world _ => loginGuard_of_kind (by rw [kind]; decide) world)
  intro world choice value after now _ answered
  exact (effect choice world value after answered).trans (congrArg change now)

/-- The token is written first. -/
theorem tokenWrite_login (token : Option String) (view : LoginView) :
    LoginSafe config (perform (.tokenWrite token) : EngineM Core Unit)
      (fun _ after => after = { view with token }) view :=
  login_perform rfl (fun view => { view with token })
    (fun choice world value after answered => by cases answered; rfl) view

/-- The refresh state is written second. -/
theorem tokenStateSend_login (tokenState : Option TokenRefreshState) (view : LoginView) :
    LoginSafe config (perform (.tokenStateSend tokenState) : EngineM Core Unit)
      (fun _ after => after = { view with tokenState }) view :=
  login_perform rfl (fun view => { view with tokenState })
    (fun choice world value after answered => by cases answered; rfl) view

/-- The report comes last. -/
theorem report_login {action : PlatformAction} (report : loginReport (.action action) = some action)
    (kind : actionKind action = .login) (view : LoginView) :
    LoginSafe config (onAction action : EngineM Core Unit)
      (fun _ after => after = { view with reported := some action }) view := by
  refine login_perform ?_ (fun view => { view with reported := some action }) ?_ view
  · exact kind
  · intro choice world value after answered
    cases answered
    simp [report]

/-- A report of the cleared login agrees with an engine that holds no token. -/
theorem clearAuth_agrees {view : LoginView} (token : view.token = none)
    (tokenState : view.tokenState = none) :
    LoginSafe config (onAction .clearAuth : EngineM Core Unit) (fun _ after => after.Agree) view := by
  refine (report_login rfl rfl view).weaken fun _ after reported => ?_
  rw [reported]
  exact ⟨token, tokenState⟩

/-- The three writes of a successful login make the views agree. -/
theorem login_agrees {A : Type} (userId accessToken refreshToken : String) (expiresAt : Int)
    {rest : EngineM Core A}
    (keeps : ∀ view : LoginView, view.Agree →
      LoginSafe config rest (fun _ after => after.Agree) view) (view : LoginView) :
    LoginSafe config
      (do
        perform (.tokenWrite (some accessToken))
        perform (.tokenStateSend (some ⟨refreshToken, expiresAt⟩))
        onAction (.setAuthToken userId accessToken refreshToken expiresAt)
        rest)
      (fun _ after => after.Agree) view := by
  refine (tokenWrite_login _ view).andThen fun _ first written => ?_
  refine (tokenStateSend_login _ first).andThen fun _ second sent => ?_
  refine (report_login rfl rfl second).andThen fun _ third reported => ?_
  apply keeps third
  rw [reported, sent, written]
  exact ⟨rfl, rfl⟩

/-- An answer that is no rejection comes from the transport. -/
def NoRejection {A : Type} (answer : Except EngineError A) : Prop :=
  ∀ text, answer ≠ .error (.unauthenticated text)

/-- No attempt to connect ends with a rejection. -/
theorem connectResult_noRejection (config : EngineConfig) (outcome : ConnectOutcome) :
    NoRejection (outcome.result config) := by
  intro text
  unfold ConnectOutcome.result
  rcases outcome with ⟨quicNew, quicConnect, h3Client⟩
  rcases quicNew with failure | ⟨⟩
  · cases failure <;> exact fun equal => by cases equal
  rcases quicConnect with failure | ⟨⟩
  · cases failure <;> exact fun equal => by cases equal
  rcases h3Client with message | ⟨⟩ <;> exact fun equal => by cases equal

/-- To connect leaves the three views alone and is never rejected. -/
theorem connectH3_login (site : ConnectSite) (view : LoginView) :
    LoginSafe config (connectH3 site : EngineM Core (Except EngineError Unit))
      (fun answer after => after = view ∧ NoRejection answer) view := by
  unfold connectH3
  refine quiet_bind quiet_transport fun _ => ?_
  refine answer_bind quiet_transport (fun answer => NoRejection answer) ?_ fun answer known => ?_
  · intro choice world value after _ _ answered
    have known := connectResult_noRejection config choice.connect
    obtain ⟨error, failed, rfl, -⟩ | ⟨rfl, -⟩ := quicConnect_effect answered
    · intro text equal
      exact known text (by rw [failed]; cases equal; rfl)
    · exact fun text equal => by cases equal
  rcases answer with error | conn
  · exact Owned.safe_done ⟨rfl, fun text equal => known text (by cases equal; rfl)⟩
  · exact quiet_bind quiet_transport fun _ => quiet_bind quiet_transport fun _ =>
      Owned.safe_done ⟨rfl, fun text equal => by cases equal⟩

/-- A stored connection is used as it is. -/
theorem ensureH3_login (site : ConnectSite) (view : LoginView) :
    LoginSafe config (ensureH3 site : EngineM Core (Except EngineError Unit))
      (fun answer after => after = view ∧ NoRejection answer) view := by
  unfold ensureH3
  refine quiet_bind quiet_plain fun h3 => ?_
  cases h3 with
  | none => exact connectH3_login site view
  | some conn => exact Owned.safe_done ⟨rfl, fun text equal => by cases equal⟩

/-- To take the connection leaves the three views alone and is never rejected. -/
theorem sendRequest_login (view : LoginView) :
    LoginSafe config (sendRequest : EngineM Core (Except EngineError Nat))
      (fun answer after => after = view ∧ NoRejection answer) view := by
  unfold sendRequest
  refine quiet_bind quiet_plain fun h3 => ?_
  cases h3 <;> exact Owned.safe_done ⟨rfl, fun text equal => by cases equal⟩

/-- A unary call leaves the three views alone, and it reports a rejection only when the promise
allows one. -/
theorem unaryCall_login (servicePath : String) (request : Bytes) (view : LoginView) :
    LoginSafe config (unaryCall servicePath request : EngineM Core (Except EngineError Bytes))
      (fun answer after => after = view ∧
        ∀ text, answer = .error (.unauthenticated text) → RejectionHarmless servicePath view)
      view := by
  unfold unaryCall
  apply (ensureH3_login .unaryCall view).andThen
  rintro (error | ⟨⟩) _ ⟨rfl, known⟩
  · exact Owned.safe_done ⟨rfl, fun text equal => absurd (by cases equal; rfl) (known text)⟩
  apply (sendRequest_login _).andThen
  rintro (error | conn) view ⟨rfl, known⟩
  · exact Owned.safe_done ⟨rfl, fun text equal => absurd (by cases equal; rfl) (known text)⟩
  refine quiet_bind quiet_plain fun token => ?_
  refine answer_bind quiet_transport (fun exchange => ∀ text,
    doUnaryCall servicePath exchange = .error (.unauthenticated text) →
      RejectionHarmless servicePath view) ?_ fun exchange known => ?_
  · intro choice world value after now kept answered
    cases answered
    rw [← now]
    intro text rejected
    exact kept (by unfold Rejected; rw [rejected]; rfl)
  split
  · exact quiet_bind quiet_transport fun _ =>
      Owned.safe_done ⟨rfl, fun text equal => by cases equal⟩
  · exact Owned.safe_done ⟨rfl, known⟩

/-- A handler without a login operation is safe from every view and leaves it alone. -/
theorem made_login [Prost] {A : Type} {program : EngineM Core A} (made : Made Quiet program)
    {view : LoginView} (agree : view.Agree) :
    LoginSafe config program (fun _ after => after.Agree) view := by
  have uses : program.Uses fun op => Quiet op.kind :=
    made.uses (fun op kind => by rw [kind]; exact quiet_plain)
      (fun op kind => by rw [kind]; exact quiet_transport) (fun op quiet => quiet)
  exact (quiet_uses uses view).weaken fun _ after same => by rw [same]; exact agree

section
variable [Prost]

/-- A logout clears both views and reports it. -/
theorem handleLogout_agrees (view : LoginView) :
    LoginSafe config (handleLogout config : EngineM Core Unit) (fun _ after => after.Agree) view := by
  unfold handleLogout
  apply (unaryCall_login _ _ view).andThen
  rintro _ view ⟨rfl, -⟩
  refine (tokenWrite_login _ view).andThen fun _ first written => ?_
  refine (tokenStateSend_login _ first).andThen fun _ second sent => ?_
  apply clearAuth_agrees
  · rw [sent, written]
  · rw [sent]

/-- A rejected refresh reports that nothing is held, and then the token is gone as well. -/
theorem handleRefreshToken_agrees (refreshToken : String) {view : LoginView} (agree : view.Agree) :
    LoginSafe config (handleRefreshToken config refreshToken : EngineM Core Unit)
      (fun _ after => after.Agree) view := by
  unfold handleRefreshToken
  apply (unaryCall_login _ _ view).andThen
  rintro answer view ⟨rfl, known⟩
  split
  · next text =>
      refine (tokenStateSend_login _ view).andThen fun _ after sent => ?_
      apply clearAuth_agrees
      · rw [sent]; exact (known text rfl).2 rfl
      · rw [sent]
  · exact Owned.safe_done agree
  split
  · exact Owned.safe_done agree
  · exact login_agrees _ _ _ _ (fun _ agree => made_login (made_reopenStreamIfNeeded quiet_plain) agree)
      view

/-- A login handler ends with agreeing views when its request was rejected harmlessly. -/
theorem handleAuthenticate_agrees (deviceId : String) (challengeResponse signingKey : Bytes)
    {view : LoginView} (agree : view.Agree) :
    LoginSafe config
      (handleAuthenticate config deviceId challengeResponse signingKey : EngineM Core Unit)
      (fun _ after => after.Agree) view := by
  unfold handleAuthenticate
  refine quiet_bind quiet_plain fun timestamp => ?_
  apply (unaryCall_login _ _ view).andThen
  rintro answer view ⟨rfl, known⟩
  split
  · next text =>
      have harmless := (known text rfl).1 (.inr rfl)
      exact clearAuth_agrees harmless.1 harmless.2
  · exact Owned.safe_done agree
  split
  · exact Owned.safe_done agree
  split
  · exact Owned.safe_done agree
  · refine login_agrees _ _ _ _ (fun _ agree => ?_) view
    exact made_login (.bind (made_reopenStreamIfNeeded quiet_plain) fun _ =>
      made_handleGetPreKeyCount quiet_plain _) agree

/-- An accepted registration writes both views and reports them. -/
theorem handleRegisterDevice_agrees (username : Option String) (deviceId : String)
    {view : LoginView} (agree : view.Agree) :
    LoginSafe config (handleRegisterDevice config username deviceId : EngineM Core Unit)
      (fun _ after => after.Agree) view := by
  unfold handleRegisterDevice
  apply (unaryCall_login _ _ view).andThen
  rintro (error | challengeBytes) view ⟨rfl, -⟩
  · exact Owned.safe_done agree
  dsimp only
  split
  · exact Owned.safe_done agree
  refine quiet_bind quiet_plain fun solved => ?_
  cases solved with
  | none => exact Owned.safe_done agree
  | some powSolution =>
  refine quiet_bind quiet_plain fun keys => ?_
  rcases keys with error | publicKeys
  · exact Owned.safe_done agree
  apply (unaryCall_login _ _ view).andThen
  rintro answer view ⟨rfl, known⟩
  split
  · next text =>
      have harmless := (known text rfl).1 (.inl rfl)
      exact clearAuth_agrees harmless.1 harmless.2
  · exact Owned.safe_done agree
  split
  · exact Owned.safe_done agree
  split
  · exact Owned.safe_done agree
  · refine login_agrees _ _ _ _ (fun _ agree => ?_) view
    exact made_login (.bind (made_action quiet_plain _ rfl) fun _ =>
      .bind (made_reopenStreamIfNeeded quiet_plain) fun _ =>
      made_handleGetPreKeyCount quiet_plain _) agree

/-- Every turn of the loop ends with agreeing views, and each selection meets them. -/
theorem eventLoop_login :
    Keeps (loginPromise Core config) (loginGuard Core config)
      (fun world => world.engine.login.Agree) (eventLoop config) := by
  have stable : Stable (loginPromise Core config) fun world => world.engine.login.Agree :=
    (loginOwned Core config).stable LoginView.Agree
  have keeps {A : Type} {program : EngineM Core A}
      (safe : ∀ view : LoginView, view.Agree →
        LoginSafe config program (fun _ after => after.Agree) view) :
      Keeps (loginPromise Core config) (loginGuard Core config)
        (fun world => world.engine.login.Agree) program := fun world now =>
    safe _ now world rfl
  have made {A : Type} {program : EngineM Core A} (made : Made Quiet program) :=
    keeps fun view agree => made_login made agree
  have base {A : Type} (single : EngineM Core A) (piece : Piece Plain A single) :=
    made (.piece (piece.mono fun kind plain => by rw [plain]; exact quiet_plain))
  have receive : Quiet .receive := by constructor <;> decide
  have acknowledge : Quiet .acknowledge := by constructor <;> decide
  have publish : Quiet .publish := by constructor <;> decide
  have close : Quiet .close := by constructor <;> decide
  have connect : Keeps (loginPromise Core config) (loginGuard Core config)
      (fun world => world.engine.login.Agree) ensureConnected := by
    have uses : (ensureConnected : EngineM Core Unit).Uses fun op => Quiet op.kind :=
      uses_ensureConnected (fun op kind => by rw [kind]; exact quiet_plain)
        (fun op kind => by rw [kind]; exact quiet_transport)
    exact keeps fun view agree => (quiet_uses uses view).weaken fun _ after same => by
      rw [same]; exact agree
  have loop {A : Type} (op : Op Core A) (kind : op.kind = .plain ∨ op.kind = .loop) :
      Keeps (loginPromise Core config) (loginGuard Core config)
        (fun world => world.engine.login.Agree) (perform op) := by
    refine keeps_perform stable (fun world agree => ?_)
      fun world choice value after agree _ answered => ?_
    · cases op with
      | select refreshArmed => exact agree
      | _ => trivial
    · rw [exec_login (by rcases kind with kind | kind <;> rw [kind] <;> decide) answered]
      exact agree
  refine eventLoop_uniform stable loop (made (made_handleCloseStream close)) connect
    (made (made_resubscribe quiet_plain))
    (fun refreshToken => keeps fun view agree => handleRefreshToken_agrees refreshToken agree) ?_
    (fun frame => made (made_handleIncomingFrame quiet_plain receive acknowledge frame))
  exact handleEvent_keeps stable base (made (made_handleCloseStream close))
    (fun username deviceId => keeps fun view agree =>
      handleRegisterDevice_agrees username deviceId agree)
    (fun deviceId challengeResponse signingKey => keeps fun view agree =>
      handleAuthenticate_agrees deviceId challengeResponse signingKey agree)
    (fun refreshToken => keeps fun view agree => handleRefreshToken_agrees refreshToken agree)
    (keeps fun view _ => handleLogout_agrees view)
    (fun contactId plaintext localId conversationId level =>
      made (made_handleSendMessage quiet_plain publish contactId plaintext localId conversationId
        level))
    (fun contactId => made (made_handleInitSessionInitiator quiet_plain publish contactId))
    (fun sinceCursor =>
      made (made_handleBackgroundPush quiet_plain receive acknowledge sinceCursor))

/-- In a run whose rejections are all harmless, the three views agree at every selection. -/
theorem loginViews_agree {engine : Engine Core} (created : Engine.new config = .ok engine)
    {world : World Core} {later : EngineM Core Unit}
    (reached : Reaches (loginPromise Core config) (startWorld engine, eventLoop config)
      (world, later)) (waiting : isWaiting later = true) : world.engine.login.Agree := by
  obtain ⟨core, rfl⟩ := Engine.new_fresh created
  obtain ⟨refreshArmed, next, rfl⟩ := isWaiting_shape waiting
  exact (eventLoop_login (startWorld (Engine.fresh config core)) trivial _ _ reached).1 _ _ _ rfl

end

/-- Every request of this run is answered with the status for a missing authentication. -/
def rejectedLogin (authToken : Option String) :
    List (rehearsalMachine (rehearsalConfig [] authToken)).Input :=
  rehearsal (rehearsalConfig [] authToken) [.authenticate "d" [] []] (List.replicate 24
    { http := {
        recvResponse := .ok (⟨200, "200 OK"⟩, [])
        recvTrailers := .ok (some [("grpc-status", [49, 54])]) } }) []

/-- The engine starts with a token, and the rejection of its login leaves the token in use. -/
theorem loginViews_agree_fails :
    ¬ ∀ world later, Reaches (Promise.any (rehearsalMachine (rehearsalConfig [] (some "t"))))
      (rehearsalStart (rehearsalConfig [] (some "t")) none) (world, later) → isWaiting later = true →
      world.engine.login.Agree := by
  intro agrees
  have reported : (rehearsed (rehearsalConfig [] (some "t")) none
      (rejectedLogin (some "t"))).1.engine.login.reported = some .clearAuth := by decide +kernel
  have token : (rehearsed (rehearsalConfig [] (some "t")) none
      (rejectedLogin (some "t"))).1.engine.login.token = some "t" := by decide +kernel
  have agree := agrees _ _ (rehearsed_any _ _ (rejectedLogin (some "t"))) (by decide +kernel)
  exact absurd (token.symm.trans (agree.cleared reported).1) (by decide)

/-- The same rejection is harmless in an engine that starts without a token. -/
theorem loginViews_agree_rejected :
    (rehearsed (rehearsalConfig [] none) none (rejectedLogin none)).1.engine.login.Agree :=
  loginViews_agree (rehearsal_without_core none) (rehearsed_reaches (by decide +kernel))
    (by decide +kernel)

end ConstructEngine
