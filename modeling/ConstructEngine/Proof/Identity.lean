import ConstructEngine.Proof.Rehearsal
import ConstructEngine.Proof.Turn

namespace ConstructEngine

open Interaction Program Machine

/-- The server has accepted this user and this device. -/
def registeredAs : Event → Option (String × String)
  | .action (.registrationComplete userId deviceId) => some (userId, deviceId)
  | _ => none

/-- These are the user and the device of the last registration that the server answered with
tokens. -/
def registration (log : List Event) : Option (String × String) :=
  (log.filterMap registeredAs).getLast?

/-- After a login the engine checks the one-time keys of its own device. -/
def isLogin : Option Event → Bool
  | some (.event (.registerDevice ..)) | some (.event (.authenticate ..)) => true
  | _ => false

/-- The engine makes these requests on its own account. -/
def ownRequest (servicePath : String) (log : List Event) : Bool :=
  servicePath = authRefresh || servicePath = notificationRegister ||
    (servicePath = keyCount || servicePath = keyUpload) && isLogin (currentTask log)

section
variable [Prost]

/-- The request of the service carries this device. -/
inductive CarriesDevice (deviceId : String) : String → Bytes → Prop
  | keyCount : CarriesDevice deviceId keyCount (Prost.encodeToVec .getPreKeyCountRequest ⟨deviceId⟩)
  | keyUpload (preKeys : List OneTimePreKey) : CarriesDevice deviceId keyUpload
      (Prost.encodeToVec .uploadPreKeysRequest ⟨deviceId, preKeys, none, false⟩)
  | refresh (refreshToken : String) : CarriesDevice deviceId authRefresh
      (Prost.encodeToVec .refreshTokenRequest ⟨refreshToken, deviceId⟩)
  | push (token : String) : CarriesDevice deviceId notificationRegister
      (Prost.encodeToVec .registerDeviceTokenRequest ⟨token, deviceId⟩)

/-- The engine's own requests carry the registered device, and a logout carries the token that the
transport holds. -/
def identityLaw (log : List Event) : Event → Prop
  | .rpc servicePath request token =>
      (ownRequest servicePath log = true → ∀ registered ∈ registration log,
        CarriesDevice registered.2 servicePath request) ∧
      (servicePath = authLogout →
        request = Prost.encodeToVec .logoutRequest ⟨token.getD "", false⟩)
  | _ => True

end

/-- The configuration still names the registered device, and at a logout the token of the
transport. -/
def Current (config : EngineConfig) (servicePath : String) (token : Option String)
    (log : List Event) : Prop :=
  (ownRequest servicePath log = true → ∀ registered ∈ registration log,
    registered.2 = config.myDeviceId) ∧
  (servicePath = authLogout → token.getD "" = config.authToken.getD "")

instance (config : EngineConfig) (servicePath : String) (token : Option String) (log : List Event) :
    Decidable (Current config servicePath token log) := inferInstanceAs (Decidable (_ ∧ _))

/-- The configuration still names the registered user. -/
def UserCurrent (config : EngineConfig) (log : List Event) : Prop :=
  ∀ registered ∈ registration log, registered.1 = config.myUserId

instance (config : EngineConfig) (log : List Event) : Decidable (UserCurrent config log) :=
  inferInstanceAs (Decidable (∀ registered ∈ registration log, _))

variable {Core : Type}

/-- The engine uses its configuration in a request or for a new core. -/
inductive ConfigUse where
  | request (servicePath : String) (token : Option String)
  | user

def Op.configUse : {A : Type} → Op Core A → Option ConfigUse
  | _, .exchange _ servicePath _ token => some (.request servicePath token)
  | _, .core (.replace _) => some .user
  | _, _ => none

/-- The configuration is current for this use of it. -/
def CurrentFor (config : EngineConfig) (log : List Event) : Option ConfigUse → Prop
  | some (.request servicePath token) => Current config servicePath token log
  | some .user => UserCurrent config log
  | none => True

instance (config : EngineConfig) (log : List Event) :
    (use : Option ConfigUse) → Decidable (CurrentFor config log use)
  | some (.request servicePath token) => inferInstanceAs (Decidable (Current config servicePath token log))
  | some .user => inferInstanceAs (Decidable (UserCurrent config log))
  | none => isTrue trivial

variable [ConstructCore Core] {config : EngineConfig}

/-- In these runs the configuration is current whenever the engine uses it. -/
def identityPromise (Core : Type) [ConstructCore Core] (config : EngineConfig) :
    (engineMachine Core config).Promise where
  answers op _ world := CurrentFor config world.engine.log op.configUse
  moves _ _ := True

instance (A : Type) (op : Op Core A) (choice : (engineMachine Core config).Choice)
    (world : (engineMachine Core config).State) :
    Decidable ((identityPromise Core config).answers op choice world) :=
  inferInstanceAs (Decidable (CurrentFor config (World.engine world).log op.configUse))

instance (move : (engineMachine Core config).Move) (world : (engineMachine Core config).State) :
    Decidable ((identityPromise Core config).moves move world) := isTrue trivial

/-- A new core is built for the configured user. -/
def BuiltForConfig (config : EngineConfig) {A : Type} (op : Op Core A) : Prop :=
  match op with
  | .core (.replace core) => ∃ blob, buildCore Core blob config.myUserId = .ok core
  | _ => True

section
variable [Prost]

/-- Under the promise each request obeys the law, and each new core is the configured user's. -/
def identityGuard (Core : Type) [ConstructCore Core] (config : EngineConfig) :
    (engineMachine Core config).Guard := fun op world =>
  traceGuard (identityPromise Core config) identityLaw op world ∧ BuiltForConfig config op

/-- The operation satisfies its guard in every state. -/
abbrev Harmless (config : EngineConfig) {A : Type} (op : Op Core A) : Prop :=
  ∀ world, identityGuard Core config op world

/-- These topics do not use the configuration. -/
def Impersonal (topic : Topic) : Prop :=
  topic ≠ .replacing ∧ topic ≠ .rpc keyCount ∧ topic ≠ .rpc keyUpload ∧ topic ≠ .rpc authRefresh ∧
    topic ≠ .rpc notificationRegister ∧ topic ≠ .rpc authLogout

/-- The law speaks of identities alone. -/
theorem impersonal_law {log : List Event} {event : Event} (impersonal : Impersonal event.topic) :
    identityLaw log event := by
  cases event with
  | rpc servicePath request token =>
      have other : ownRequest servicePath log = false ∧ servicePath ≠ authLogout := by
        simp [Impersonal, Event.topic] at impersonal
        simp [ownRequest, impersonal]
      exact ⟨fun own => absurd own (by simp [other.1]), fun logout => absurd logout other.2⟩
  | _ => trivial

/-- What is impersonal uses no identity. -/
theorem harmless_topic {A : Type} {op : Op Core A} (impersonal : Impersonal op.topic) :
    Harmless config op := by
  intro world
  constructor
  · intro choice event _ traces _
    rcases traces_about traces with reading | same
    · exact impersonal_law (by rw [reading]; simp [Impersonal])
    · exact impersonal_law (same ▸ impersonal)
  · cases op with
    | core region =>
        cases region with
        | replace => exact absurd rfl impersonal.1
        | _ => trivial
    | _ => trivial

/-- The request comes from the configuration, or it is none of the engine's own. -/
def FromConfig (config : EngineConfig) (servicePath : String) (request : Bytes) : Prop :=
  CarriesDevice config.myDeviceId servicePath request ∨
    (servicePath = authLogout ∧
      request = Prost.encodeToVec .logoutRequest ⟨config.authToken.getD "", false⟩) ∨
    Impersonal (.rpc servicePath)

/-- An honest request uses the configured identity. -/
theorem harmless_request {servicePath : String} {request : Bytes}
    (honest : FromConfig config servicePath request) (conn : Nat) (token : Option String) :
    Harmless config (.exchange conn servicePath request token : Op Core H3Exchange) := by
  intro world
  refine ⟨fun choice event current traces _ => ?_, trivial⟩
  cases traces
  have current : Current config servicePath token world.engine.log := current
  rcases honest with carries | ⟨rfl, rfl⟩ | impersonal
  · refine ⟨fun own registered member => ?_, fun logout => ?_⟩
    · rw [current.1 own registered member]
      exact carries
    · cases carries <;> simp [authLogout, keyCount, keyUpload, authRefresh, notificationRegister] at logout
  · exact ⟨by simp [ownRequest, authLogout, authRefresh, notificationRegister, keyCount, keyUpload],
      fun _ => by rw [current.2 rfl]⟩
  · exact impersonal_law impersonal

omit [Prost] in
/-- What an impersonal program engages in is impersonal. -/
theorem engages_impersonal {topic : Topic} (engages : Engages Impersonal topic) : Impersonal topic := by
  rcases engages with rfl | rfl | rfl | own
  · simp [Impersonal]
  · simp [Impersonal]
  · simp [Impersonal]
  · exact own

/-- Whatever is built from impersonal topics and honest requests is harmless. -/
theorem built_harmless {A : Type} {program : EngineM Core A}
    (built : Built Impersonal (FromConfig config) program) (engine : Engine Core) :
    EngineSafe (identityPromise Core config) (identityGuard Core config) program
      (fun _ _ => True) engine := by
  have uses : program.Uses (Harmless config) :=
    built.asks (fun op engages => harmless_topic (engages_impersonal engages))
      fun conn servicePath request token honest => harmless_request honest conn token
  exact Owned.safe_of_uses (fun _ => True) (fun op world harmless _ => harmless world)
    (fun _ _ _ _ _ _ _ _ _ => trivial) uses trivial

theorem asked_law {log : List Event} {event : Event} (login : isLogin (currentTask log) = false)
    (keys : event.topic = .rpc keyCount ∨ event.topic = .rpc keyUpload) : identityLaw log event := by
  cases event with
  | rpc servicePath request token =>
      simp only [Event.topic, Topic.rpc.injEq] at keys
      constructor
      · intro own
        rcases keys with rfl | rfl <;>
          simp [ownRequest, login, keyCount, keyUpload, authRefresh, notificationRegister] at own
      · intro logout
        rcases keys with rfl | rfl <;> simp [keyCount, keyUpload, authLogout] at logout
  | _ => trivial

/-- The engine asks for one-time keys of another device only while it works on that event. -/
theorem asked_harmless {event : UiEvent} (login : isLogin (some (.event event)) = false)
    (listed : ∀ topic ∈ event.topics,
      Impersonal topic ∨ topic = .rpc keyCount ∨ topic = .rpc keyUpload)
    (unselected : ∀ topic ∈ event.topics, topic ≠ .selection) (engine : Engine Core) :
    EngineSafe (identityPromise Core config) (identityGuard Core config) (handleEvent config event)
      (fun _ _ => True) (engine.record (.event event)) := by
  have built : Built (· ∈ event.topics) (anyRequest (· ∈ event.topics))
      (handleEvent config event : EngineM Core Unit) :=
    built_handleEvent config event fun _ member => member
  refine (concerns_log (fun log => currentTask log = some (.event event)) ?_ ?_ built.concerns
    (currentTask_mark engine.log rfl)).weaken fun _ _ _ => trivial
  · intro log recorded engages now
    rw [currentTask_snoc log]
    · exact now
    · rcases engages with same | same | same | own
      · simp [same]
      · simp [same]
      · simp [same]
      · exact unselected _ own
  · intro A op world engages now
    have known : Impersonal op.topic ∨ op.topic = .rpc keyCount ∨ op.topic = .rpc keyUpload := by
      rcases engages with same | same | same | own
      · exact .inl (by simp [same, Impersonal])
      · exact .inl (by simp [same, Impersonal])
      · exact .inl (by simp [same, Impersonal])
      · exact listed _ own
    rcases known with impersonal | keys
    · exact harmless_topic impersonal world
    refine ⟨fun choice recorded _ traces _ => ?_, ?_⟩
    · rcases traces_about traces with reading | same
      · exact impersonal_law (by rw [reading]; simp [Impersonal])
      · exact asked_law (by rw [now]; exact login) (same ▸ keys)
    · cases op with
      | core region => cases region <;> simp [Op.topic, CoreSection.topic] at keys
      | _ => trivial

/-- A new core is built from the blob for the configured user. -/
theorem handleKeychainResult_built (key : String) (data : Option Bytes) (engine : Engine Core) :
    EngineSafe (identityPromise Core config) (identityGuard Core config)
      (handleKeychainResult config key data) (fun _ _ => True) engine := by
  have free {A : Type} {region : CoreSection Core A} (world : World Core) :
      traceGuard (identityPromise Core config) identityLaw (.core region) world := by
    rintro choice event - ⟨call, rfl, -⟩ other
    exact absurd rfl (other call)
  have nothing (engine : Engine Core) :
      EngineSafe (identityPromise Core config) (identityGuard Core config)
        (pure () : EngineM Core Unit) (fun _ _ => True) engine := Owned.safe_done trivial
  unfold handleKeychainResult
  split
  · cases data with
    | none => exact nothing engine
    | some blob =>
        unfold initCoreFromKeys
        dsimp only
        cases built : buildCore Core blob config.myUserId with
        | error error => exact nothing engine
        | ok core =>
            refine Owned.safe_ask (fun world _ => ⟨free world, blob, built⟩) ?_
            intro world choice value after _ _ _
            exact nothing _
  · split
    · cases data with
      | none => exact nothing engine
      | some blob =>
          refine Owned.safe_step (fun world _ => ⟨free world, trivial⟩) ?_
          intro world choice restored after _ _ _
          have reports : Built Impersonal (FromConfig config) (restored.forM fun contactId =>
              (onAction (.sessionEstablished contactId "") : EngineM Core Unit)) :=
            .forM fun _ => built_action (by simp [Impersonal, PlatformAction.topic])
          exact built_harmless reports _
    · exact nothing engine

/-- Apart from logins and key requests, an event does not use the configuration. -/
def UiEvent.personal : UiEvent → Bool
  | .registerDevice .. | .authenticate .. | .refreshToken _ | .logout | .uploadOtpks ..
  | .getPreKeyCount _ | .registerPushToken .. | .keychainResult .. => true
  | _ => false

omit [Prost] in
theorem impersonal_event {event : UiEvent} (other : event.personal = false) :
    ∀ topic ∈ event.topics, Impersonal topic := by
  cases event <;> first | (cases other; done) |
    simp [UiEvent.topics, receiveTopics, Impersonal, keyGetBundle, keyCount, keyUpload, authRefresh,
      notificationRegister, authLogout, keyRotateSpk, userFind, messagingGetPending]

/-- The engine uses its configuration where the guard expects it. -/
theorem eventLoop_identified : Keeps (identityPromise Core config) (identityGuard Core config)
    (fun _ => True) (eventLoop config) := by
  have other {servicePath : String} (impersonal : Impersonal (.rpc servicePath)) (request : Bytes) :
      FromConfig config servicePath request := .inr (.inr impersonal)
  have concerns {A : Type} {program : EngineM Core A} (concerns : Concerns Impersonal program)
      (engine : Engine Core) : EngineSafe (identityPromise Core config) (identityGuard Core config)
        program (fun _ _ => True) engine :=
    Owned.safe_of_uses (fun _ => True)
      (fun op world engages _ => harmless_topic (engages_impersonal engages) world)
      (fun _ _ _ _ _ _ _ _ _ => trivial) concerns trivial
  have refresh (refreshToken : String) (engine : Engine Core) :
      EngineSafe (identityPromise Core config) (identityGuard Core config)
        (handleRefreshToken config refreshToken) (fun _ _ => True) engine := by
    refine built_harmless (built_handleRefreshToken ?_ ?_ ?_ (.inl (.refresh refreshToken))) engine <;>
      simp [Impersonal]
  refine eventLoop_engine (fun _ => True) ?_ ?_ (fun _ _ _ _ => trivial) ?_ ?_ ?_ ?_
  · intro A op engine own _
    refine concerns (uses_perform (own.mono ?_)) engine
    rintro same
    rw [same]
    simp [Impersonal]
  · intro refreshArmed world _
    exact harmless_topic (by simp [Impersonal, Op.topic]) world
  · intro engine clock _
    refine (concerns (concerns_reading rfl) _).andThen fun due engine _ => ?_
    cases due with
    | none => exact Owned.safe_done trivial
    | some due => exact refresh due.refreshToken engine
  · intro engine _
    refine concerns (uses_bind (concerns_own ?_) fun _ => uses_bind (concerns_own ?_) fun _ =>
      uses_bind concerns_ensureConnected fun _ => concerns_resubscribe ?_) engine <;>
      simp [Impersonal, Op.topic, PlatformAction.topic]
  · intro event engine _
    cases personal : event.personal with
    | false =>
        exact concerns (built_handleEvent config event (impersonal_event personal)).concerns _
    | true =>
        cases event with
        | registerDevice username deviceId =>
            refine built_harmless (built_handleRegisterDevice ?_ ?_ (fun _ => .inl (.keyUpload _))
              (.inl .keyCount) ?_ ?_ ?_ (other ?_) (other ?_) username deviceId) _ <;>
              simp [Impersonal, authPowChallenge, authRegister, keyCount, keyUpload, authRefresh,
                notificationRegister, authLogout]
        | authenticate deviceId challengeResponse signingKey =>
            refine built_harmless (built_handleAuthenticate ?_ ?_ (fun _ => .inl (.keyUpload _))
              (.inl .keyCount) ?_ ?_ ?_ (other ?_) _ _ _) _ <;>
              simp [Impersonal, authAuthenticate, keyCount, keyUpload, authRefresh,
                notificationRegister, authLogout]
        | refreshToken refreshToken => exact refresh refreshToken _
        | logout =>
            refine built_harmless (built_handleLogout ?_ ?_ (.inr (.inl ⟨rfl, rfl⟩))) _ <;>
              simp [Impersonal]
        | uploadOtpks deviceId count =>
            refine asked_harmless rfl ?_ ?_ engine <;> simp [UiEvent.topics, Impersonal]
        | getPreKeyCount deviceId =>
            refine asked_harmless rfl ?_ ?_ engine <;>
              simp [UiEvent.topics, keyCountTopics, Impersonal]
        | registerPushToken token platform =>
            exact built_harmless (built_handleRegisterPush (.inl (.push token))) _
        | keychainResult key data =>
            exact handleKeychainResult_built key data _
        | _ => cases personal
  · intro frame engine _
    refine concerns (built_handleIncomingFrame ?_ ?_ ?_ ?_ ?_ ?_ ?_ (fun _ => ?_) ?_ frame).concerns _ <;>
      simp [anyRequest, Impersonal, keyGetBundle, keyCount, keyUpload, authRefresh,
        notificationRegister, authLogout]

section
variable {promise : (engineMachine Core config).Promise}

/-- A request carries the token that the transport holds. -/
def heldGuard (config : EngineConfig) : (engineMachine Core config).Guard := fun op world =>
  match op with
  | .exchange _ _ _ token => token = world.engine.token
  | _ => True

/-- The program makes its requests with the token that the transport holds. -/
abbrev WithToken (promise : (engineMachine Core config).Promise) {A : Type} (program : EngineM Core A) : Prop :=
  Keeps promise (heldGuard config) (fun _ => True) program

omit [Prost] in
theorem held_op {A : Type} {op : Op Core A} (other : ∀ world, heldGuard config op world) :
    WithToken promise (perform op) :=
  keeps_perform stable_true (fun world _ => other world) fun _ _ _ _ _ _ _ => trivial

omit [Prost] in
theorem held_concerns {A : Type} {topics : Topic → Prop} {program : EngineM Core A}
    (concerns : Concerns topics program) (other : ∀ servicePath, ¬topics (.rpc servicePath)) :
    WithToken promise program := by
  refine keeps_of_uses stable_true (fun op engages => held_op fun world => ?_) concerns
  cases op with
  | exchange =>
      rcases engages with same | same | same | own
      · cases same
      · cases same
      · cases same
      · exact absurd own (other _)
  | _ => trivial

omit [Prost] in
/-- Nothing comes between the reading of the token and the request. -/
theorem held_unaryCall (servicePath : String) (request : Bytes) :
    WithToken promise (unaryCall servicePath request) := by
  have basic {A : Type} {program : EngineM Core A} (concerns : Concerns (fun _ => False) program) :
      WithToken promise program := held_concerns concerns fun _ => id
  unfold unaryCall
  refine keeps_bind (basic (links_ensureH3 _).concerns) fun ensured => ?_
  rcases ensured with error | ⟨⟩
  · exact keeps_done stable_true _
  refine keeps_bind (basic links_sendRequest.concerns) fun sendReq => ?_
  rcases sendReq with error | conn
  · exact keeps_done stable_true _
  intro world _
  have reads : (engineOwned Core config).Safe promise (heldGuard config)
      (perform .tokenRead : EngineM Core (Option String))
      (fun token engine => token = engine.token) world.engine := by
    refine Owned.safe_perform (fun _ _ => trivial) fun world choice value after same _ answered => ?_
    cases answered
    rfl
  refine holds_bind (reads world rfl) fun token world held => ?_
  refine holds_perform (fun world : World Core => token = world.engine.token)
    (stable_engine fun engine => token = engine.token) (fun _ held => held) ?_ held
  intro world choice answer after _ _ _
  dsimp only
  split
  · exact keeps_bind (basic (concerns_connection rfl)) (fun _ => keeps_done stable_true _) _ trivial
  · exact keeps_done stable_true _ _ trivial

theorem eventLoop_held : WithToken promise (eventLoop config) := by
  have basic {A : Type} {program : EngineM Core A} (concerns : Concerns (fun _ => False) program) :
      WithToken promise program := held_concerns concerns fun _ => id
  have subscribes {A : Type} {program : EngineM Core A}
      (concerns : Concerns (· = Topic.subscription) program) : WithToken promise program :=
    held_concerns concerns fun _ => nofun
  have below {A : Type} (op : Op Core A) (kind : BelowLoop op.kind) : WithToken promise (perform op) := by
    refine held_op fun world => ?_
    cases op with
    | exchange => exact absurd rfl kind.1
    | _ => trivial
  have opening (conversations : List String) (cursor : Option String) :
      WithToken promise (handleOpenStream conversations cursor) :=
    subscribes (concerns_handleOpenStream (by rfl) _ _)
  refine eventLoop_links stable_true below held_unaryCall opening (fun _ => True) (fun _ _ => True) ?_
    ?_ (handleEvent_links stable_true below held_unaryCall opening) (basic concerns_ensureConnected)
  · intro refreshArmed world now
    have selects : WithToken promise (perform (.select refreshArmed) : EngineM Core Branch) :=
      held_op fun _ => trivial
    exact (selects world now).weaken fun branch _ _ => selected_of_invariant trivial
  · have borrows : WithToken promise (perform .connectedBorrow : EngineM Core Bool) :=
      held_op fun _ => trivial
    have reports : WithToken promise (onAction (.connectionStateChanged false) : EngineM Core Unit) :=
      held_op fun _ => trivial
    have closes : WithToken promise (perform (.streamWrite none) : EngineM Core Unit) :=
      held_op fun _ => trivial
    unfold handleConnectedChange
    refine keeps_bind borrows fun connected => ?_
    split
    · exact keeps_done stable_true ()
    · exact keeps_bind reports fun _ => keeps_bind closes fun _ =>
        keeps_bind (basic concerns_ensureConnected) fun _ =>
        subscribes (concerns_resubscribe (by rfl))

end

/-- In these runs each request of the engine's own carries the registered device, each new core is
built for the registered user, and a logout carries the token that the transport holds. -/
theorem requests_identified {engine : Engine Core} (created : Engine.new config = .ok engine)
    {world : World Core} {program : EngineM Core Unit}
    (reached : Reaches (identityPromise Core config) (startWorld engine, eventLoop config)
      (world, program)) :
    AtEach identityLaw world.engine.log ∧
      (∀ conn servicePath request token next,
        program = .ask (.exchange conn servicePath request token) next →
        token = world.engine.token) ∧
      ∀ core next choice, program = .ask (.core (.replace core)) next →
        (identityPromise Core config).answers (.core (.replace core)) choice world →
        ∀ registered ∈ registration world.engine.log,
          ∃ blob, buildCore Core blob registered.1 = .ok core := by
  obtain ⟨core, rfl⟩ := Engine.new_fresh created
  have identified : Holds (identityPromise Core config) (identityGuard Core config) (eventLoop config)
      (fun _ _ => True) (startWorld (Engine.fresh config core)) := eventLoop_identified _ trivial
  have held : Holds (identityPromise Core config) (heldGuard config) (eventLoop config)
      (fun _ _ => True) (startWorld (Engine.fresh config core)) := eventLoop_held _ trivial
  refine ⟨?_, ?_, ?_⟩
  · have lawful : Holds (identityPromise Core config)
        (traceGuard (identityPromise Core config) identityLaw) (eventLoop config) (fun _ _ => True)
        (startWorld (Engine.fresh config core)) := identified.relax fun _ _ guarded => guarded.1
    exact traced_reached (fun _ _ => trivial) lawful (atEach_nil _) reached
  · rintro conn servicePath request token next rfl
    exact (held _ _ reached).1 _ _ _ rfl
  · rintro core next choice rfl current registered member
    obtain ⟨blob, built⟩ := ((identified _ _ reached).1 _ _ _ rfl).2
    have current : UserCurrent config world.engine.log := current
    exact ⟨blob, by rw [current registered member]; exact built⟩

omit [ConstructCore Core] in
theorem carries_keyCount {deviceId : String} {request : Bytes}
    (carries : CarriesDevice deviceId keyCount request) :
    request = Prost.encodeToVec .getPreKeyCountRequest ⟨deviceId⟩ := by
  generalize path : keyCount = servicePath at carries
  cases carries with
  | keyCount => rfl
  | _ => simp [keyCount, keyUpload, authRefresh, notificationRegister] at path

end

/-- The configuration of an engine that was registered before names its device. -/
def deviceConfig (myDeviceId : String) : EngineConfig :=
  { rehearsalConfig [1, 5] none with myDeviceId, myUserId := "u" }

/-- This codec writes the device of a key request. -/
def badgeEncode : {M : Type} → Schema M → M → Bytes
  | _, .getPreKeyCountRequest, ⟨deviceId⟩ => deviceId.toUTF8.toList
  | _, _, _ => []

/-- The server registers every device for one user. -/
def badgeDecode : {M : Type} → Schema M → Bytes → Except String M
  | _, .getPowChallengeResponse, _ => .ok ⟨"challenge", 0⟩
  | _, .registerDeviceResponse, _ => .ok ⟨some ⟨"u", "a", "r", 1000⟩⟩
  | _, _, _ => .error "not rehearsed"

abbrev badgeProst : Prost :=
  { rehearsalProst with encodeToVec := badgeEncode, decode := badgeDecode }

/-- A device registers, and the run ends with the first key request. -/
def registering (myDeviceId : String) (answers : Nat) :
    (rehearsalMachine (deviceConfig myDeviceId)).Configuration Unit :=
  run (startWorld (Engine.fresh (deviceConfig myDeviceId) (some ⟨[5], []⟩)),
      @eventLoop RehearsalCore _ badgeProst (deviceConfig myDeviceId))
    (rehearsal (deviceConfig myDeviceId) [.registerDevice none "phone"] (List.replicate answers
      { http := {
          recvResponse := .ok (⟨200, "200 OK"⟩, [])
          recvData := [[0, 0, 0, 0, 0]] } }) [])

/-- The request for the number of keys in the trace. -/
def keyCountOf : Event → Option Bytes
  | .rpc servicePath request _ => if servicePath = keyCount then some request else none
  | _ => none

/-- At the end of a lawful trace a login asks for the keys of the registered device. -/
theorem keyCount_carries [Prost] {log : List Event} (lawful : AtEach identityLaw log)
    {request : Bytes} (asked : log.getLast?.bind keyCountOf = some request)
    (login : isLogin (currentTask log.dropLast) = true) {registered : String × String}
    (member : registered ∈ registration log.dropLast) :
    request = Prost.encodeToVec .getPreKeyCountRequest ⟨registered.2⟩ := by
  obtain ⟨event, last, found⟩ := Option.bind_eq_some_iff.mp asked
  obtain ⟨front, rfl⟩ := List.getLast?_eq_some_iff.mp last
  rw [List.dropLast_concat] at login member
  have law := lawful front event [] rfl
  cases event with
  | rpc servicePath asks token =>
      simp only [keyCountOf, Option.ite_none_right_eq_some, Option.some.injEq] at found
      obtain ⟨rfl, rfl⟩ := found
      exact carries_keyCount (law.1 (by simp [ownRequest, login]) registered member)
  | _ => cases found

/-- A fresh install has no configured device, and the key request after its registration names
none. -/
theorem requests_identified_fails :
    ¬ ∀ world later, Reaches (Promise.any (rehearsalMachine (deviceConfig "")))
      (startWorld (Engine.fresh (deviceConfig "") (some (⟨[5], []⟩ : RehearsalCore))),
        @eventLoop RehearsalCore _ badgeProst (deviceConfig "")) (world, later) →
      AtEach (@identityLaw badgeProst) world.engine.log := by
  intro lawful
  have claimed := @keyCount_carries badgeProst _
    (lawful _ _ (run_reaches (allAllowed_any _ _) : Reaches _ _
      ((registering "" 34).1, (registering "" 34).2)))
    [] (by decide +kernel) (by decide +kernel) ("u", "phone") (by decide +kernel)
  exact absurd claimed (by decide +kernel)

/-- The configuration of this engine names the device that it registers again. -/
theorem requests_identified_configured :
    (registering "phone" 34).1.engine.log.getLast?.bind keyCountOf =
        some "phone".toUTF8.toList ∧
      AtEach (@identityLaw badgeProst) (registering "phone" 34).1.engine.log := by
  have created : Engine.new (deviceConfig "phone") =
      .ok (Engine.fresh (deviceConfig "phone") (some (⟨[5], []⟩ : RehearsalCore))) := rfl
  have reached : Reaches (identityPromise RehearsalCore (deviceConfig "phone"))
      (startWorld (Engine.fresh (deviceConfig "phone") (some (⟨[5], []⟩ : RehearsalCore))),
        @eventLoop RehearsalCore _ badgeProst (deviceConfig "phone"))
      ((registering "phone" 34).1, (registering "phone" 34).2) := run_reaches (by decide +kernel)
  exact ⟨by decide +kernel, (@requests_identified _ _ _ badgeProst _ created _ _ reached).1⟩

end ConstructEngine
