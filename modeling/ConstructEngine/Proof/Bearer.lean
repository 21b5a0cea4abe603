import ConstructEngine.Proof.Login
import ConstructEngine.Proof.Turn

namespace ConstructEngine

open Interaction Program Machine

variable {Core : Type}

/-- The trace grants an access token, and it says whether a logout is in hand. -/
structure Credential where
  token : Option String
  leaving : Bool

/-- A login report grants its token, and only the report of a logout takes the token back. -/
def Credential.after (credential : Credential) : Event → Credential
  | .event .logout => { credential with leaving := true }
  | .event _ => { credential with leaving := false }
  | .refreshDue _ => { credential with leaving := false }
  | .frame _ => { credential with leaving := false }
  | .action (.setAuthToken _ accessToken _ _) => { credential with token := some accessToken }
  | .action .clearAuth => if credential.leaving then { credential with token := none } else credential
  | _ => credential

/-- The whole trace grants what its events grant one after the other. -/
def credential (config : EngineConfig) (log : List Event) : Credential :=
  log.foldl Credential.after ⟨config.authToken, false⟩

/-- The last event decides what becomes of the credential granted before it. -/
theorem credential_snoc (config : EngineConfig) (log : List Event) (event : Event) :
    credential config (log ++ [event]) = (credential config log).after event := by
  simp [credential]

/-- What the core does grants nothing. -/
theorem credential_calls (config : EngineConfig) (log : List Event) (calls : List CoreCall) :
    credential config (log ++ calls.map .core) = credential config log := by
  unfold credential
  rw [List.foldl_append, List.foldl_map]
  induction calls with
  | nil => rfl
  | cons call rest inductionHypothesis => exact inductionHypothesis

/-- This is the token that the engine holds and what the trace grants. -/
structure BearerView where
  token : Option String
  granted : Credential

/-- The two views are read off the engine. -/
def Engine.bearer (config : EngineConfig) (engine : Engine Core) : BearerView :=
  ⟨engine.token, credential config engine.log⟩

/-- The engine holds exactly the token that was granted. -/
def BearerView.Agree (view : BearerView) : Prop := view.token = view.granted.token

@[simp] theorem bearer_record (config : EngineConfig) (engine : Engine Core) (event : Event) :
    (engine.record event).bearer config =
      { engine.bearer config with granted := (engine.bearer config).granted.after event } := by
  simp only [Engine.bearer, Engine.record, credential_snoc]

@[simp] theorem bearer_recordCalls (config : EngineConfig) (engine : Engine Core) (calls : List CoreCall) :
    (engine.recordCalls calls).bearer config = engine.bearer config := by
  simp only [Engine.bearer, Engine.recordCalls, credential_calls]

/-- Only the actions of a login grant or withdraw a token. -/
theorem credential_plain (credential : Credential) {action : PlatformAction}
    (plain : actionKind action ≠ .login) : credential.after (.action action) = credential := by
  cases action <;> first | rfl | exact absurd rfl plain

def UiEvent.isLogout : UiEvent → Bool
  | .logout => true
  | _ => false

/-- An event that is taken up only shows whether a logout is in hand. -/
theorem after_event (credential : Credential) (event : UiEvent) :
    credential.after (.event event) = { credential with leaving := event.isLogout } := by
  cases event <;> rfl

variable [ConstructCore Core] {config : EngineConfig}

/-- A quiet operation neither changes the token nor reports a login nor takes up a task. -/
theorem exec_bearer {A : Type} {op : Op Core A} (quiet : Quiet op.kind) {choice : Choice}
    {world after : World Core} {value : A}
    (answered : exec config op choice world = some (value, after)) :
    after.engine.bearer config = world.engine.bearer config := by
  cases op with
  | onAction action =>
      cases answered
      simp [credential_plain _ quiet.1]
  | core region =>
      cases answered
      rw [bearer_recordCalls]
      rfl
  | tokenWrite token => exact absurd rfl quiet.1
  | tokenStateSend state => exact absurd rfl quiet.1
  | select refreshArmed => exact absurd rfl quiet.2
  | quicConnect =>
      obtain ⟨error, -, -, rfl⟩ | ⟨-, rfl⟩ := quicConnect_effect answered <;> rfl
  | openExchange conn token conversationIds sinceCursor requestId =>
      obtain rfl | rfl := openExchange_effect answered <;> simp [Credential.after]
  | sendFrame site handle frame =>
      obtain ⟨-, rfl⟩ | ⟨pump, -, -, -, -, rfl⟩ := sendFrame_effect answered <;> simp [Credential.after]
  | sleepUntil deadline => rw [sleepUntil_effect answered]
  | tokenHasChanged =>
      obtain ⟨tokenSeen, rfl⟩ := tokenHasChanged_effect answered
      rfl
  | handling path message => cases answered; simp [Credential.after]
  | exchange conn servicePath request token => cases answered; simp [Credential.after]
  | refreshReset secs => cases answered; simp [Credential.after]; rfl
  | paramsRead =>
      obtain ⟨-, -, rfl⟩ := paramsRead_effect answered
      rfl
  | paramsWrite params =>
      obtain ⟨-, rfl⟩ := paramsWrite_effect answered
      rfl
  | paramsCursor cursor =>
      obtain ⟨-, rfl⟩ := paramsCursor_effect answered
      rfl
  | paramsLock =>
      obtain ⟨-, -, rfl⟩ := paramsLock_effect answered
      rfl
  | _ => cases answered; rfl

/-- These operations send a request with an access token or without one. -/
def Op.carried : {A : Type} → Op Core A → Option (Option String)
  | _, .exchange _ _ _ token => some token
  | _, .openExchange _ token _ _ _ => some token
  | _, _ => none

/-- Each request carries the granted token, and the loop waits only with agreeing views. -/
def bearerGuard (Core : Type) [ConstructCore Core] (config : EngineConfig) :
    (engineMachine Core config).Guard := fun op world =>
  ∀ token, op.carried = some token → token = (credential config world.engine.log).token

/-- Both views belong to the engine, and no move of the environment touches them. -/
def bearerOwned (Core : Type) [ConstructCore Core] (config : EngineConfig) :
    (engineMachine Core config).Owned BearerView where
  view world := world.engine.bearer config
  kept move state after moved := by
    obtain ⟨net, -, rfl⟩ := moveWorld_some moved
    rfl

omit [ConstructCore Core] in
/-- Outside of the transport no operation carries a token. -/
theorem carried_transport {A : Type} {op : Op Core A} (other : op.kind ≠ .transport) : op.carried = none := by
  cases op with
  | exchange => exact absurd rfl other
  | openExchange => exact absurd rfl other
  | _ => rfl

/-- An operation that carries no token is free to be answered. -/
theorem bearerGuard_silent {A : Type} {op : Op Core A} (silent : op.carried = none) (world : World Core) :
    bearerGuard Core config op world := by
  intro token carried
  rw [silent] at carried
  cases carried

/-- The program keeps these views, and its requests carry the granted token. -/
abbrev Bears {A : Type} (config : EngineConfig) (view : BearerView) (program : EngineM Core A) : Prop :=
  Keeps (Promise.any (engineMachine Core config)) (bearerGuard Core config)
    (fun world => world.engine.bearer config = view) program

section
variable {view : BearerView}

theorem bears_stable : Stable (Promise.any (engineMachine Core config))
    fun world : World Core => world.engine.bearer config = view :=
  (bearerOwned Core config).stable (· = view)

/-- A quiet operation that sends no request keeps the views. -/
theorem bears_op {A : Type} {op : Op Core A} (quiet : Quiet op.kind) (silent : op.carried = none) :
    Bears config view (perform op) :=
  keeps_perform bears_stable (fun world _ => bearerGuard_silent silent world)
    fun _ _ _ _ now _ answered => (exec_bearer quiet answered).trans now

/-- A plain operation keeps the views. -/
theorem bears_plain {A : Type} (op : Op Core A) (plain : op.kind = .plain) : Bears config view (perform op) := by
  refine bears_op ?_ (carried_transport ?_) <;> rw [plain]
  · exact quiet_plain
  · decide

theorem bears_done {A : Type} (value : A) : Bears config view (.done value : EngineM Core A) :=
  keeps_done bears_stable value

theorem connectH3_bears (site : ConnectSite) :
    Bears config view (connectH3 site : EngineM Core (Except EngineError Unit)) := by
  unfold connectH3
  refine keeps_bind (bears_op quiet_transport rfl) fun _ =>
    keeps_bind (bears_op quiet_transport rfl) fun answer => ?_
  rcases answer with error | conn
  · exact bears_done _
  · exact keeps_bind (bears_op quiet_transport rfl) fun _ =>
      keeps_bind (bears_op quiet_transport rfl) fun _ => bears_done _

theorem ensureH3_bears (site : ConnectSite) :
    Bears config view (ensureH3 site : EngineM Core (Except EngineError Unit)) :=
  keeps_of_composed bears_stable (composed_ensureH3 bears_plain (connectH3_bears site))

theorem sendRequest_bears : Bears config view (sendRequest : EngineM Core (Except EngineError Nat)) :=
  keeps_of_composed bears_stable (composed_sendRequest bears_plain)

/-- Reconnecting sends no request and keeps the views. -/
theorem ensureConnected_bears : Bears config view (ensureConnected : EngineM Core Unit) :=
  keeps_of_composed bears_stable (composed_ensureConnected bears_plain (connectH3_bears _))

/-- The rest continues with the token of the engine. -/
theorem tokenRead_bears {B : Type} {rest : Option String → EngineM Core B}
    (later : Bears config view (rest view.token)) : Bears config view (perform .tokenRead >>= rest) := by
  intro world now
  refine holds_perform (fun world : World Core => world.engine.bearer config = view) bears_stable
    (fun world _ => bearerGuard_silent rfl world) (fun world choice value after now _ answered => ?_) now
  cases answered
  have token : world.engine.token = view.token := congrArg BearerView.token now
  rw [token]
  exact later world now

variable (agree : view.Agree)
include agree

/-- A request that carries the token of the engine carries the granted one. -/
theorem bears_request {A : Type} {op : Op Core A} (quiet : Quiet op.kind)
    (carried : op.carried = some view.token) : Bears config view (perform op) := by
  refine keeps_perform bears_stable (fun world now token same => ?_) fun _ _ _ _ now _ answered =>
    (exec_bearer quiet answered).trans now
  have granted : credential config world.engine.log = view.granted := congrArg BearerView.granted now
  rw [carried] at same
  cases same
  rw [granted]
  exact agree

/-- Both attempts of a call carry the token that it read, and this is the granted one. -/
theorem unaryCall_bears (servicePath : String) (request : Bytes) :
    Bears config view (unaryCall servicePath request : EngineM Core (Except EngineError Bytes)) := by
  unfold unaryCall
  refine keeps_bind (ensureH3_bears _) fun ensured => ?_
  rcases ensured with error | ⟨⟩
  · exact bears_done _
  refine keeps_bind sendRequest_bears fun sendReq => ?_
  rcases sendReq with error | conn
  · exact bears_done _
  refine tokenRead_bears (keeps_bind (bears_request agree quiet_transport rfl) fun exchange => ?_)
  split
  · exact keeps_bind (bears_op quiet_transport rfl) fun _ => bears_done _
  · exact bears_done _

/-- A subscription carries the token that it read, and this is the granted one. -/
theorem handleOpenStream_bears (conversations : List String) (cursor : Option String) :
    Bears config view (handleOpenStream conversations cursor : EngineM Core Unit) := by
  have opened : Bears config view
      (openMessageStream conversations cursor : EngineM Core (Except EngineError BiDiStreamHandle)) := by
    unfold openMessageStream
    refine keeps_bind (ensureH3_bears _) fun ensured => ?_
    rcases ensured with error | ⟨⟩
    · exact bears_done _
    refine keeps_bind sendRequest_bears fun sendReq => ?_
    rcases sendReq with error | conn
    · exact bears_done _
    refine tokenRead_bears (keeps_bind (bears_plain _ rfl) fun requestId =>
      keeps_bind (bears_request agree quiet_transport rfl) fun accepted => ?_)
    rcases accepted with error | ⟨⟩
    · exact bears_done _
    · exact keeps_bind (bears_op quiet_transport rfl) fun _ => bears_done _
  unfold handleOpenStream
  refine keeps_bind (bears_op quiet_transport rfl) fun _ => keeps_bind opened fun handle => ?_
  rcases handle with error | handle
  · exact bears_op quiet_transport rfl
  · exact keeps_bind (bears_op quiet_transport rfl) fun _ => bears_plain (.onAction _) rfl

/-- Handlers without a login operation of their own. -/
theorem made_bears {A : Type} {program : EngineM Core A}
    (made : Made (fun kind => Quiet kind ∧ kind ≠ .transport) program) : Bears config view program := by
  refine keeps_composed made bears_stable fun single piece => ?_
  cases piece with
  | op op allowed => exact bears_op allowed.1 (carried_transport allowed.2)
  | unaryCall servicePath request => exact unaryCall_bears agree servicePath request
  | handleOpenStream conversations cursor => exact handleOpenStream_bears agree conversations cursor

end

/-- The program, begun with these views, sends only requests that carry the granted token. -/
abbrev BearerSafe {A : Type} (config : EngineConfig) (program : EngineM Core A)
    (result : A → BearerView → Prop) (view : BearerView) : Prop :=
  (bearerOwned Core config).Safe (Promise.any (engineMachine Core config)) (bearerGuard Core config)
    program result view

section
variable {view : BearerView}

/-- A program that keeps the views is safe with them. -/
theorem Bears.safe {A : Type} {program : EngineM Core A} (bears : Bears config view program) :
    BearerSafe config program (fun _ after => after = view) view := fun world same => bears world same

/-- A login operation sends no request and changes the views in one known way. -/
theorem login_bearer {A : Type} {op : Op Core A} (kind : op.kind = .login) (change : BearerView → BearerView)
    (effect : ∀ choice world value after, exec config op choice world = some (value, after) →
      after.engine.bearer config = change (world.engine.bearer config)) :
    BearerSafe config (perform op) (fun _ after => after = change view) view := by
  have silent : op.carried = none := carried_transport (by rw [kind]; decide)
  refine Owned.safe_perform (fun world _ => bearerGuard_silent silent world) ?_
  intro world choice value after now _ answered
  exact (effect choice world value after answered).trans (congrArg change now)

/-- The token is written before it is granted. -/
theorem tokenWrite_bearer (token : Option String) :
    BearerSafe config (perform (.tokenWrite token) : EngineM Core Unit)
      (fun _ after => after = { view with token }) view :=
  login_bearer rfl (fun view => { view with token }) fun _ _ _ _ answered => by cases answered; rfl

/-- The state of the refresh timer is no part of the views. -/
theorem tokenStateSend_bearer (tokenState : Option TokenRefreshState) :
    BearerSafe config (perform (.tokenStateSend tokenState) : EngineM Core Unit)
      (fun _ after => after = view) view :=
  login_bearer rfl id fun _ _ _ _ answered => by cases answered; rfl

/-- A report grants or withdraws what the trace then holds. -/
theorem report_bearer {action : PlatformAction} (kind : actionKind action = .login) :
    BearerSafe config (onAction action : EngineM Core Unit)
      (fun _ after => after = { view with granted := view.granted.after (.action action) }) view := by
  have login : (Op.onAction action : Op Core Unit).kind = .login := kind
  refine login_bearer login (fun view => { view with granted := view.granted.after (.action action) }) ?_
  intro choice world value after answered
  cases answered
  simp

/-- A rejection that is reported outside of a logout leaves the token granted. -/
theorem rejection_agrees (agree : view.Agree) (staying : view.granted.leaving = false) :
    BearerSafe config (onAction .clearAuth : EngineM Core Unit) (fun _ after => after.Agree) view := by
  refine (report_bearer rfl).weaken fun _ after same => ?_
  rw [same]
  simpa [BearerView.Agree, Credential.after, staying] using agree

/-- The token that a login writes is the one that its report grants. -/
theorem grant_agrees {A : Type} (userId accessToken refreshToken : String) (expiresAt : Int)
    {tokenState : Option TokenRefreshState} {rest : EngineM Core A}
    (keeps : ∀ view : BearerView, view.Agree → BearerSafe config rest (fun _ after => after.Agree) view) :
    BearerSafe config
      (do
        perform (.tokenWrite (some accessToken))
        perform (.tokenStateSend tokenState)
        onAction (.setAuthToken userId accessToken refreshToken expiresAt)
        rest)
      (fun _ after => after.Agree) view := by
  refine (tokenWrite_bearer _).andThen fun _ first written => ?_
  refine (tokenStateSend_bearer _).andThen fun _ second sent => ?_
  refine (report_bearer rfl).andThen fun _ third reported => keeps third ?_
  rw [reported, sent, written]
  rfl

/-- Without login operations, the views agree at the end as they did at the beginning. -/
theorem made_agrees {A : Type} {program : EngineM Core A}
    (made : Made (fun kind => Quiet kind ∧ kind ≠ .transport) program) (agree : view.Agree) :
    BearerSafe config program (fun _ after => after.Agree) view :=
  (made_bears agree made).safe.weaken fun _ _ same => same ▸ agree

end

theorem quiet_close : Quiet .close := by constructor <;> decide

theorem quiet_receive : Quiet .receive := by constructor <;> decide

theorem quiet_acknowledge : Quiet .acknowledge := by constructor <;> decide

theorem unlogged_plain : Quiet .plain ∧ OpKind.plain ≠ .transport := ⟨quiet_plain, by decide⟩

section
variable [Prost]

/-- A logout forgets the token, whatever the server answers. -/
theorem handleLogout_bearer {view : BearerView} (agree : view.Agree) (leaving : view.granted.leaving = true) :
    BearerSafe config (handleLogout config : EngineM Core Unit) (fun _ after => after.Agree) view := by
  unfold handleLogout
  refine (unaryCall_bears agree _ _).safe.andThen fun _ first same => ?_
  refine (tokenWrite_bearer _).andThen fun _ second written => ?_
  refine (tokenStateSend_bearer _).andThen fun _ third sent => ?_
  refine (report_bearer rfl).weaken fun _ after reported => ?_
  rw [reported, sent, written, same]
  simp [BearerView.Agree, Credential.after, leaving]

/-- A refresh grants the token that it wrote or reports a rejection, which withdraws nothing. -/
theorem handleRefreshToken_bearer (refreshToken : String) {view : BearerView} (agree : view.Agree)
    (staying : view.granted.leaving = false) :
    BearerSafe config (handleRefreshToken config refreshToken : EngineM Core Unit)
      (fun _ after => after.Agree) view := by
  unfold handleRefreshToken
  refine (unaryCall_bears agree _ _).safe.andThen fun answer after same => ?_
  subst same
  split
  · refine (tokenStateSend_bearer _).andThen fun _ after sent => ?_
    subst sent
    exact rejection_agrees agree staying
  · exact Owned.safe_done agree
  split
  · exact Owned.safe_done agree
  · exact grant_agrees _ _ _ _ fun _ agree => made_agrees (made_reopenStreamIfNeeded unlogged_plain) agree

/-- An accepted authentication grants the token that it wrote. -/
theorem handleAuthenticate_bearer (deviceId : String) (challengeResponse signingKey : Bytes) {view : BearerView}
    (agree : view.Agree) (staying : view.granted.leaving = false) :
    BearerSafe config (handleAuthenticate config deviceId challengeResponse signingKey : EngineM Core Unit)
      (fun _ after => after.Agree) view := by
  unfold handleAuthenticate
  refine (bears_plain _ rfl).safe.andThen fun timestamp after same => ?_
  subst same
  refine (unaryCall_bears agree _ _).safe.andThen fun answer after same => ?_
  subst same
  split
  · exact rejection_agrees agree staying
  · exact Owned.safe_done agree
  split
  · exact Owned.safe_done agree
  split
  · exact Owned.safe_done agree
  · refine grant_agrees _ _ _ _ fun _ agree => made_agrees ?_ agree
    exact .bind (made_reopenStreamIfNeeded unlogged_plain) fun _ => made_handleGetPreKeyCount unlogged_plain _

/-- An accepted registration grants the token that it wrote. -/
theorem handleRegisterDevice_bearer (username : Option String) (deviceId : String) {view : BearerView}
    (agree : view.Agree) (staying : view.granted.leaving = false) :
    BearerSafe config (handleRegisterDevice config username deviceId : EngineM Core Unit)
      (fun _ after => after.Agree) view := by
  unfold handleRegisterDevice
  refine (unaryCall_bears agree _ _).safe.andThen fun answer after same => ?_
  subst same
  rcases answer with error | challengeBytes
  · exact Owned.safe_done agree
  dsimp only
  split
  · exact Owned.safe_done agree
  refine (bears_plain _ rfl).safe.andThen fun solved after same => ?_
  subst same
  cases solved with
  | none => exact Owned.safe_done agree
  | some powSolution =>
  refine (bears_plain _ rfl).safe.andThen fun keys after same => ?_
  subst same
  rcases keys with error | publicKeys
  · exact Owned.safe_done agree
  refine (unaryCall_bears agree _ _).safe.andThen fun answer after same => ?_
  subst same
  split
  · exact rejection_agrees agree staying
  · exact Owned.safe_done agree
  split
  · exact Owned.safe_done agree
  split
  · exact Owned.safe_done agree
  · refine grant_agrees _ _ _ _ fun _ agree => made_agrees ?_ agree
    exact .bind (made_action unlogged_plain _ rfl) fun _ =>
      .bind (made_reopenStreamIfNeeded unlogged_plain) fun _ => made_handleGetPreKeyCount unlogged_plain _

def UiEvent.isLogin : UiEvent → Bool
  | .registerDevice .. | .authenticate .. | .refreshToken _ | .logout => true
  | _ => false

/-- Without a login handler, every event is handled without a login operation. -/
theorem made_unloggedEvent (event : UiEvent) (other : event.isLogin = false) :
    Made (fun kind => Quiet kind ∧ kind ≠ .transport) (handleEvent config event : EngineM Core Unit) := by
  have plain := unlogged_plain
  have receive : Quiet .receive ∧ OpKind.receive ≠ .transport := ⟨quiet_receive, by decide⟩
  have publish : Quiet .publish ∧ OpKind.publish ≠ .transport := by unfold Quiet; decide
  have acknowledge : Quiet .acknowledge ∧ OpKind.acknowledge ≠ .transport := ⟨quiet_acknowledge, by decide⟩
  have close : Quiet .close ∧ OpKind.close ≠ .transport := ⟨quiet_close, by decide⟩
  cases event with
  | registerDevice => cases other
  | authenticate => cases other
  | refreshToken => cases other
  | logout => cases other
  | platformReady => exact made_action plain _ rfl
  | fetchPreKeyBundle => exact made_handleFetchPreKeyBundle plain _ _
  | uploadOtpks => exact made_handleUploadOtpks plain _ _
  | getPreKeyCount => exact made_handleGetPreKeyCount plain _
  | rotateSignedPreKey => exact made_handleRotateSpk plain _
  | openMessageStream => exact made_handleOpenStream _ _
  | closeMessageStream => exact made_handleCloseStream close
  | sendMessage => exact made_handleSendMessage plain publish _ _ _ _ _
  | ackMessage => exact made_handleAckMessage plain _
  | initSessionInitiator => exact made_handleInitSessionInitiator plain publish _
  | searchUser => exact made_handleSearchUser plain _
  | registerPushToken => exact made_handleRegisterPush _ _
  | backgroundPush => exact made_handleBackgroundPush plain receive acknowledge _
  | keychainResult => exact made_handleKeychainResult plain _ _ _
  | _ => exact made_return ()

/-- Each event is handled with requests that carry the granted token. -/
theorem handleEvent_bearer (event : UiEvent) {view : BearerView} (agree : view.Agree)
    (leaving : view.granted.leaving = event.isLogout) :
    BearerSafe config (handleEvent config event : EngineM Core Unit) (fun _ after => after.Agree) view := by
  cases event with
  | registerDevice => exact handleRegisterDevice_bearer _ _ agree leaving
  | authenticate => exact handleAuthenticate_bearer _ _ _ agree leaving
  | refreshToken => exact handleRefreshToken_bearer _ agree leaving
  | logout => exact handleLogout_bearer agree leaving
  | _ => exact made_agrees (made_unloggedEvent _ rfl) agree

/-- The program keeps the views in agreement. -/
abbrev BearerKeeps {A : Type} (config : EngineConfig) (program : EngineM Core A) : Prop :=
  Keeps (Promise.any (engineMachine Core config)) (bearerGuard Core config)
    (fun world => (world.engine.bearer config).Agree) program

omit [Prost] in
/-- What keeps every pair of views keeps those that agree. -/
theorem bearerKeeps_of_bears {A : Type} {program : EngineM Core A}
    (bears : ∀ view : BearerView, view.Agree → Bears config view program) : BearerKeeps config program :=
  fun world now => (bears _ now world rfl).weaken fun _ after same => by rw [same]; exact now

/-- The views agree after the selection, and it shows whether a logout is in hand. -/
def TakenOver (config : EngineConfig) (branch : Branch) (world : World Core) : Prop :=
  (world.engine.bearer config).Agree ∧
    match branch with
    | .event (some event) => (world.engine.bearer config).granted.leaving = event.isLogout
    | .refresh => (world.engine.bearer config).granted.leaving = false
    | _ => True

omit [Prost] in
/-- The selection changes the token in neither view. -/
theorem select_takenOver {refreshArmed : Bool} {choice : Choice} {world after : World Core} {branch : Branch}
    (agree : (world.engine.bearer config).Agree)
    (selected : exec config (.select refreshArmed) choice world = some (branch, after)) :
    TakenOver config branch after := by
  have marked := select_engine selected
  unfold TakenOver
  revert marked
  generalize after.engine = engine
  cases branch with
  | refresh =>
      rintro ⟨clock, rfl⟩
      rw [bearer_record]
      exact ⟨agree, rfl⟩
  | changed =>
      rintro ⟨connectedSeen, rfl⟩
      exact ⟨agree, trivial⟩
  | event event =>
      cases event with
      | none => exact fun impossible => impossible.elim
      | some event =>
          rintro rfl
          rw [bearer_record, after_event]
          exact ⟨agree, rfl⟩
  | frame frame =>
      rintro rfl
      rw [bearer_record]
      exact ⟨agree, trivial⟩
  | tokenChanged =>
      rintro ⟨tokenSeen, rfl⟩
      exact ⟨agree, trivial⟩

omit [Prost] in
/-- The report of a lost connection grants and revokes nothing. -/
theorem loss_bears {view : BearerView} :
    Bears config view (onAction (.connectionStateChanged false) : EngineM Core Unit) := by
  refine keeps_perform bears_stable (fun world _ => bearerGuard_silent rfl world)
    fun world choice value after now _ answered => ?_
  cases answered
  rw [bearer_record, now]
  rfl

omit [Prost] in
/-- A lost connection is replaced and the stream is opened again with the granted token. -/
theorem handleConnectedChange_bearer : BearerKeeps config (handleConnectedChange : EngineM Core Unit) := by
  have stable : Stable (Promise.any (engineMachine Core config))
      fun world : World Core => (world.engine.bearer config).Agree :=
    (bearerOwned Core config).stable BearerView.Agree
  unfold handleConnectedChange
  refine keeps_bind (keeps_perform stable (fun world _ => bearerGuard_silent rfl world)
    fun world choice value after agree _ answered => ?_) fun connected => ?_
  · cases answered
    exact agree
  split
  · exact keeps_done stable ()
  refine bearerKeeps_of_bears fun view agree => ?_
  refine keeps_bind loss_bears fun _ => keeps_bind (bears_op quiet_close rfl) fun _ =>
    keeps_bind ensureConnected_bears fun _ => ?_
  exact made_bears agree (made_resubscribe unlogged_plain)

theorem eventLoopTurn_bearer (refreshArmed : Bool) :
    BearerKeeps config (eventLoopTurn config refreshArmed : EngineM Core (Bool ⊕ Unit)) := by
  have stable : Stable (Promise.any (engineMachine Core config))
      fun world : World Core => (world.engine.bearer config).Agree :=
    (bearerOwned Core config).stable BearerView.Agree
  have takenStable (branch : Branch) : Stable (Promise.any (engineMachine Core config))
      (TakenOver config branch : World Core → Prop) := by
    intro move world after taken _ moved
    obtain ⟨net, -, rfl⟩ := moveWorld_some moved
    exact taken
  refine eventLoopTurn_branches (TakenOver config) stable (fun armed => ?timer) ?select ?refresh
    (fun world taken => handleConnectedChange_bearer world taken.1)
    (fun event world taken => handleEvent_bearer event taken.1 taken.2 world rfl) ?frame ?idle refreshArmed
  case timer =>
    exact updateRefreshTimer_keeps stable
      (fun op _ plain => bearerKeeps_of_bears fun _ _ => bears_plain op plain) armed
  case select =>
    intro armed world agree
    exact holds_ask (fun world : World Core => (world.engine.bearer config).Agree) stable
      (fun world _ => bearerGuard_silent rfl world) (fun world choice branch after agree _ selected =>
        holds_done (takenStable branch) (select_takenOver agree selected)) agree
  case refresh =>
    rintro world ⟨agree, staying⟩
    refine holds_bind (bears_plain .tokenStateRead rfl world rfl) fun due after same => ?_
    cases due with
    | none => exact holds_done stable (same ▸ agree)
    | some due => exact handleRefreshToken_bearer due.refreshToken agree staying after same
  case frame =>
    intro frame world taken
    have made : Made (fun kind => Quiet kind ∧ kind ≠ .transport)
        (handleIncomingFrame frame : EngineM Core Unit) :=
      made_handleIncomingFrame unlogged_plain ⟨quiet_receive, by decide⟩
        ⟨quiet_acknowledge, by decide⟩ frame
    exact made_agrees made taken.1 world rfl
  case idle => rintro world (taken | taken) <;> exact taken.1

/-- The views agree at the beginning and between any two turns. -/
theorem eventLoop_bearer : BearerKeeps config (eventLoop config : EngineM Core Unit) := by
  have stable : Stable (Promise.any (engineMachine Core config))
      fun world : World Core => (world.engine.bearer config).Agree :=
    (bearerOwned Core config).stable BearerView.Agree
  exact eventLoop_keeps stable (fun op _ plain => bearerKeeps_of_bears fun _ _ => bears_plain op plain)
    (bearerKeeps_of_bears fun _ _ => ensureConnected_bears) eventLoopTurn_bearer

/-- The token of the request that the loop sends next. -/
def pendingToken : EngineM Core Unit → Option (Option String)
  | .ask op _ => op.carried
  | _ => none

omit [ConstructCore Core] [Prost] in
theorem pendingToken_shape {program : EngineM Core Unit} {token : Option String}
    (pending : pendingToken program = some token) :
    ∃ (A : Type) (op : Op Core A) (next : A → EngineM Core Unit),
      program = .ask op next ∧ op.carried = some token := by
  unfold pendingToken at pending
  split at pending
  · exact ⟨_, _, _, rfl, pending⟩
  · cases pending

/-- Whatever happens in a run, each request and each subscription carries the access token of the last
reported login, the configured token before the first one, and none once a logout was reported. -/
theorem requests_bear {engine : Engine Core} (created : Engine.new config = .ok engine)
    {world : World Core} {later : EngineM Core Unit}
    (reached : Reaches (Promise.any (engineMachine Core config)) (startWorld engine, eventLoop config)
      (world, later)) {token : Option String} (pending : pendingToken later = some token) :
    token = (credential config world.engine.log).token := by
  obtain ⟨core, rfl⟩ := Engine.new_fresh created
  obtain ⟨A, op, next, rfl, carried⟩ := pendingToken_shape pending
  exact (eventLoop_bearer (startWorld (Engine.fresh config core)) rfl _ _ reached).1 _ _ _ rfl token carried

end

/-- The engine starts with a token and handles a logout before a search. -/
def searchAfterLogout : List (rehearsalMachine (rehearsalConfig [] (some "t"))).Input :=
  rehearsal (rehearsalConfig [] (some "t")) [.logout, .searchUser "q"] (List.replicate 28 servedChoice) []

/-- The request of the search is pending, and it carries no token. -/
theorem requests_bear_none :
    pendingToken (rehearsed (rehearsalConfig [] (some "t")) none searchAfterLogout).2 = some none ∧
      none = (credential (rehearsalConfig [] (some "t"))
        (rehearsed (rehearsalConfig [] (some "t")) none searchAfterLogout).1.engine.log).token :=
  ⟨by decide +kernel, requests_bear (rehearsal_without_core (some "t")) (rehearsed_any _ _ _)
    (by decide +kernel)⟩

end ConstructEngine
