import ConstructEngine.Construction.EventLoop
import ConstructEngine.Interaction.Composition

namespace ConstructEngine

open Interaction Program

/-- The kind of an operation says which results its callers must account for. -/
inductive OpKind where
  | plain
  | login
  | receive
  | publish
  | acknowledge
  | close
  | transport
  | loop
  deriving DecidableEq

variable {Core A : Type}

/-- Decrypting sections receive, and every other section is plain. -/
def CoreSection.kind : {A : Type} → CoreSection Core A → OpKind
  | _, .receiveAndExport .. => .receive
  | _, .decryptAndExport .. => .receive
  | _, .decrypt .. => .receive
  | _, _ => .plain

/-- A frame with a message publishes it, and a receipt acknowledges one. -/
def SendSite.kind : SendSite → OpKind
  | .sendMessage | .initSessionInitiator => .publish
  | .sendAckFrame => .acknowledge
  | .ackMessage => .plain

/-- A report of a login or of a lost connection needs an account, and every other report is plain. -/
def actionKind : PlatformAction → OpKind
  | .setAuthToken .. | .clearAuth => .login
  | .streamError _ => .transport
  | .connectionStateChanged false => .loop
  | _ => .plain

/-- Each operation has the kind of the state that it changes. -/
def Op.kind : {A : Type} → Op Core A → OpKind
  | _, .onAction action => actionKind action
  | _, .core region => region.kind
  | _, .handling .. => .receive
  | _, .tokenWrite _ => .login
  | _, .tokenStateSend _ => .login
  | _, .sendFrame site _ _ => site.kind
  | _, .streamWrite none => .close
  | _, .streamWrite (some _) => .transport
  | _, .connectBegin => .transport
  | _, .quicConnect => .transport
  | _, .h3Store .. => .transport
  | _, .connectedSend => .transport
  | _, .h3Drop => .transport
  | _, .exchange .. => .transport
  | _, .openExchange .. => .transport
  | _, .spawnPump _ => .transport
  | _, .paramsWrite _ => .transport
  | _, .select _ => .loop
  | _, .connectedBorrow => .loop
  | _, _ => .plain

/-- A handler is composed of single operations, unary calls and attempts to open the stream. -/
inductive Piece (kinds : OpKind → Prop) : (A : Type) → EngineM Core A → Prop
  | op {A : Type} (op : Op Core A) (allowed : kinds op.kind) : Piece kinds A (perform op)
  | unaryCall (servicePath : String) (request : Bytes) :
      Piece kinds (Except EngineError Bytes) (unaryCall servicePath request)
  | handleOpenStream (conversations : List String) (cursor : Option String) :
      Piece kinds Unit (handleOpenStream conversations cursor)

variable {kinds : OpKind → Prop}

/-- A program of these kinds is composed of their pieces. -/
abbrev Made (kinds : OpKind → Prop) (program : EngineM Core A) : Prop :=
  Composed (Piece kinds) program

theorem made_op (op : Op Core A) (allowed : kinds op.kind) : Made kinds (perform op) :=
  .piece (.op op allowed)

/-- A unary call is a piece whatever the kinds are. -/
theorem made_unaryCall (servicePath : String) (request : Bytes) :
    Made kinds (unaryCall servicePath request : EngineM Core (Except EngineError Bytes)) :=
  .piece (.unaryCall servicePath request)

theorem made_return (value : A) : Made kinds (pure value : EngineM Core A) := .done value

/-- An attempt to open the stream is a piece whatever the kinds are. -/
theorem made_handleOpenStream (conversations : List String) (cursor : Option String) :
    Made kinds (handleOpenStream conversations cursor : EngineM Core Unit) :=
  .piece (.handleOpenStream conversations cursor)

/-- Closing the stream is one operation. -/
theorem made_handleCloseStream (close : kinds .close) :
    Made kinds (handleCloseStream : EngineM Core Unit) := made_op _ close

section
variable {allowed : {B : Type} → Op Core B → Prop}
  (plain : ∀ {B : Type} (op : Op Core B), op.kind = .plain → allowed op)
  (transport : ∀ {B : Type} (op : Op Core B), op.kind = .transport → allowed op)
include plain transport

omit plain in
/-- A connection attempt asks operations of the transport only. -/
theorem uses_connectH3 (site : ConnectSite) :
    (connectH3 site : EngineM Core (Except EngineError Unit)).Uses allowed := by
  unfold connectH3
  refine uses_bind (uses_perform (transport _ rfl)) fun _ =>
    uses_bind (uses_perform (transport _ rfl)) fun connected => ?_
  rcases connected with error | conn
  · exact uses_pure _
  · exact uses_bind (uses_perform (transport _ rfl)) fun _ =>
      uses_bind (uses_perform (transport _ rfl)) fun _ => uses_pure _

/-- The stored connection is read before a new one is tried. -/
theorem uses_ensureH3 (site : ConnectSite) :
    (ensureH3 site : EngineM Core (Except EngineError Unit)).Uses allowed := by
  unfold ensureH3
  refine uses_bind (uses_perform (plain _ rfl)) fun h3 => ?_
  cases h3 with
  | none => exact uses_connectH3 transport site
  | some conn => exact uses_pure _

omit transport in
theorem uses_sendRequest :
    (sendRequest : EngineM Core (Except EngineError Nat)).Uses allowed := by
  unfold sendRequest
  refine uses_bind (uses_perform (plain _ rfl)) fun h3 => ?_
  cases h3 <;> exact uses_pure _

/-- A unary call asks plain operations and operations of the transport. -/
theorem uses_unaryCall (servicePath : String) (request : Bytes) :
    (unaryCall servicePath request : EngineM Core (Except EngineError Bytes)).Uses allowed := by
  unfold unaryCall
  refine uses_bind (uses_ensureH3 plain transport _) fun ensured => ?_
  rcases ensured with error | ⟨⟩
  · exact uses_pure _
  refine uses_bind (uses_sendRequest plain) fun sendReq => ?_
  rcases sendReq with error | conn
  · exact uses_pure _
  refine uses_bind (uses_perform (plain _ rfl)) fun token =>
    uses_bind (uses_perform (transport _ rfl)) fun exchange => ?_
  split
  · exact uses_bind (uses_perform (transport _ rfl)) fun _ => uses_pure _
  · exact uses_pure _

/-- The subscription asks plain operations and operations of the transport. -/
theorem uses_openMessageStream (conversations : List String) (cursor : Option String) :
    (openMessageStream conversations cursor :
      EngineM Core (Except EngineError BiDiStreamHandle)).Uses allowed := by
  unfold openMessageStream
  refine uses_bind (uses_ensureH3 plain transport _) fun ensured => ?_
  rcases ensured with error | ⟨⟩
  · exact uses_pure _
  refine uses_bind (uses_sendRequest plain) fun sendReq => ?_
  rcases sendReq with error | conn
  · exact uses_pure _
  refine uses_bind (uses_perform (plain _ rfl)) fun token =>
    uses_bind (uses_perform (plain _ rfl)) fun requestId =>
    uses_bind (uses_perform (transport _ rfl)) fun opened => ?_
  rcases opened with error | ⟨⟩
  · exact uses_pure _
  · exact uses_bind (uses_perform (transport _ rfl)) fun _ => uses_pure _

/-- An attempt to open the stream also stores the parameters and the handle, which are of the transport.
-/
theorem uses_handleOpenStream (conversations : List String) (cursor : Option String) :
    (handleOpenStream conversations cursor : EngineM Core Unit).Uses allowed := by
  unfold handleOpenStream
  refine uses_bind (uses_perform (transport _ rfl)) fun _ =>
    uses_bind (uses_openMessageStream plain transport _ _) fun opened => ?_
  rcases opened with error | handle
  · exact uses_perform (transport _ rfl)
  · exact uses_bind (uses_perform (transport _ rfl)) fun _ => uses_perform (plain _ rfl)

/-- Each turn of the backoff reads the clock, connects and sleeps. -/
theorem uses_ensureConnected : (ensureConnected : EngineM Core Unit).Uses allowed := by
  unfold ensureConnected
  refine uses_iterate (fun delay => ?_) 1
  refine uses_bind (uses_connectH3 transport _) fun connected => ?_
  rcases connected with error | ⟨⟩
  · refine uses_bind (uses_perform (plain _ rfl)) fun _ => uses_bind ?_ fun _ => uses_pure _
    exact uses_bind (uses_perform (plain _ rfl)) fun now => uses_perform (plain _ rfl)
  · exact uses_bind (uses_perform (plain _ rfl)) fun _ => uses_pure _

/-- A composed handler asks the operations of its kinds and those of the transport. -/
theorem Made.uses {program : EngineM Core A} (made : Made kinds program)
    (kind : ∀ {B : Type} (op : Op Core B), kinds op.kind → allowed op) : program.Uses allowed := by
  refine Composed.uses made fun single piece => ?_
  cases piece with
  | op op member => exact uses_perform (kind op member)
  | unaryCall servicePath request => exact uses_unaryCall plain transport _ _
  | handleOpenStream conversations cursor => exact uses_handleOpenStream plain transport _ _

end

section
variable {piece : (A : Type) → EngineM Core A → Prop}
  (plain : ∀ {B : Type} (op : Op Core B), op.kind = .plain → piece B (perform op))
include plain

/-- What an attempt to connect does carries over to the check for a connection. -/
theorem composed_ensureH3 {site : ConnectSite}
    (connect : piece (Except EngineError Unit) (connectH3 site)) :
    Composed piece (ensureH3 site) := by
  unfold ensureH3
  refine .bind (.piece (plain _ rfl)) fun h3 => ?_
  cases h3 with
  | none => exact .piece connect
  | some conn => exact .done _

theorem composed_sendRequest : Composed piece sendRequest := by
  unfold sendRequest
  refine .bind (.piece (plain _ rfl)) fun h3 => ?_
  cases h3 <;> exact .done _

/-- A unary call connects at most once and drops the connection at most once. -/
theorem composed_unaryCall
    (connect : piece (Except EngineError Unit) (connectH3 .unaryCall))
    (exchange : ∀ conn servicePath request token,
      piece H3Exchange (perform (.exchange conn servicePath request token)))
    (drop : piece Unit (perform .h3Drop)) (servicePath : String) (request : Bytes) :
    Composed piece (unaryCall servicePath request) := by
  unfold unaryCall
  refine .bind (composed_ensureH3 plain connect) fun ensured => ?_
  rcases ensured with error | ⟨⟩
  · exact .done _
  refine .bind (composed_sendRequest plain) fun sendReq => ?_
  rcases sendReq with error | conn
  · exact .done _
  refine .bind (.piece (plain _ rfl)) fun token => .bind (.piece (exchange _ _ _ _))
    fun answer => ?_
  split
  · exact .bind (.piece drop) fun _ => .done _
  · exact .done _

/-- Only the attempts of the backoff are not plain. -/
theorem composed_ensureConnected
    (connect : piece (Except EngineError Unit) (connectH3 .ensureConnected)) :
    Composed piece ensureConnected := by
  unfold ensureConnected
  refine .iterate 1 fun delay => .bind (.piece connect) fun connected => ?_
  rcases connected with error | ⟨⟩
  · exact .bind (.piece (plain (.onAction _) rfl)) fun _ =>
      .bind (.bind (.piece (plain _ rfl)) fun now => .piece (plain _ rfl)) fun _ => .done _
  · exact .bind (.piece (plain (.onAction _) rfl)) fun _ => .done _

end

variable [Prost]

/-- A bundle is fetched with one unary call. -/
theorem made_fetchBundle (userId noBundle : String) :
    Made kinds (fetchBundle userId noBundle : EngineM Core (Except String (PreKeyBundle × Bytes))) := by
  unfold fetchBundle
  refine .bind (made_unaryCall _ _) fun answer => ?_
  rcases answer with error | bytes
  · exact made_return _
  dsimp only
  split
  · exact made_return _
  · split <;> exact made_return _

theorem made_handleRegisterPush (config : EngineConfig) (token : String) :
    Made kinds (handleRegisterPush config token : EngineM Core Unit) :=
  .bind (made_unaryCall _ _) fun _ => made_return ()

/-- A logout calls the server and clears the login. -/
theorem made_handleLogout (login : kinds .login) (config : EngineConfig) :
    Made kinds (handleLogout config : EngineM Core Unit) :=
  .bind (made_unaryCall _ _) fun _ => .bind (made_op _ login) fun _ =>
    .bind (made_op _ login) fun _ => made_op _ login

section
variable (plain : kinds .plain)
include plain

omit [Prost] in
/-- A plain report is a piece of every handler. -/
theorem made_action (action : PlatformAction) (reports : actionKind action = .plain) :
    Made kinds (onAction action : EngineM Core Unit) := by
  apply made_op (.onAction action)
  change kinds (actionKind action)
  rw [reports]
  exact plain

omit [Prost] in
/-- The stream is opened again where parameters are stored. -/
theorem made_reopenStreamIfNeeded : Made kinds (reopenStreamIfNeeded : EngineM Core Unit) := by
  unfold reopenStreamIfNeeded
  refine .bind (made_op _ plain) fun params => ?_
  cases params with
  | none => exact made_return ()
  | some params => exact made_handleOpenStream _ _

omit [Prost] in
/-- A reconnect locks the parameters and opens the stream with them. -/
theorem made_resubscribe : Made kinds (resubscribe : EngineM Core Unit) := by
  unfold resubscribe
  refine .bind (made_op _ plain) fun params => ?_
  cases params with
  | none => exact made_op _ plain
  | some params => exact .bind (made_handleOpenStream _ _) fun _ => made_op _ plain

omit [Prost] in
/-- A state is saved with one report unless it is empty. -/
theorem made_saveState (stateBytes : Bytes) :
    Made kinds (saveState stateBytes : EngineM Core Unit) := by
  unfold saveState
  split
  · exact made_return ()
  · exact made_action plain _ rfl

theorem made_handleAckMessage (messageId : String) :
    Made kinds (handleAckMessage messageId : EngineM Core Unit) := by
  unfold handleAckMessage
  refine .bind (made_op _ plain) fun timestamp => .bind (made_op _ plain) fun stream => ?_
  cases stream with
  | none => exact made_return ()
  | some stream => exact .bind (made_op _ plain) fun _ => made_return ()

/-- An upload has a section on the core, a save, a unary call and a report. -/
theorem made_handleUploadOtpks (deviceId : String) (count : Nat) :
    Made kinds (handleUploadOtpks deviceId count : EngineM Core Unit) := by
  unfold handleUploadOtpks
  refine .bind (made_op _ plain) fun generated => ?_
  rcases generated with error | ⟨preKeys, stateBytes⟩
  · exact made_return ()
  refine .bind (made_action plain _ rfl) fun _ => .bind (made_unaryCall _ _) fun answer => ?_
  rcases answer with error | bytes
  · exact made_return ()
  dsimp only
  split
  · exact made_return ()
  · exact made_action plain _ rfl

/-- A count check may go on to an upload. -/
theorem made_handleGetPreKeyCount (deviceId : String) :
    Made kinds (handleGetPreKeyCount deviceId : EngineM Core Unit) := by
  unfold handleGetPreKeyCount
  refine .bind (made_unaryCall _ _) fun answer => ?_
  rcases answer with error | bytes
  · exact made_return ()
  dsimp only
  split
  · exact made_return ()
  · refine .bind (made_action plain _ rfl) fun _ => ?_
    split
    · exact made_handleUploadOtpks plain _ _
    · exact made_return ()

/-- A rotation has the shape of an upload. -/
theorem made_handleRotateSpk (deviceId : String) :
    Made kinds (handleRotateSpk deviceId : EngineM Core Unit) := by
  unfold handleRotateSpk
  refine .bind (made_op _ plain) fun rotated => ?_
  rcases rotated with error | ⟨keyId, spkPublic, spkSig, stateBytes⟩
  · exact made_return ()
  refine .bind (made_action plain _ rfl) fun _ => .bind (made_unaryCall _ _) fun answer => ?_
  rcases answer with error | bytes
  · exact made_return ()
  dsimp only
  split
  · exact made_return ()
  · split
    · exact made_action plain _ rfl
    · exact made_return ()

theorem made_handleFetchPreKeyBundle (userId : String) (deviceId : Option String) :
    Made kinds (handleFetchPreKeyBundle userId deviceId : EngineM Core Unit) := by
  unfold handleFetchPreKeyBundle
  refine .bind (made_unaryCall _ _) fun answer => ?_
  rcases answer with error | bytes
  · exact made_return ()
  · exact made_action plain _ rfl

theorem made_handleSearchUser (query : String) :
    Made kinds (handleSearchUser query : EngineM Core Unit) := by
  unfold handleSearchUser
  refine .bind (made_unaryCall _ _) fun answer => ?_
  rcases answer with error | bytes
  · exact made_action plain _ rfl
  dsimp only
  split
  · exact made_action plain _ rfl
  · split <;> exact made_action plain _ rfl

theorem made_buildEnvelope (contactId localId conversationId : String) (wirePayload : Bytes)
    (level : AnonymityLevel) :
    Made kinds (buildEnvelope contactId localId conversationId wirePayload level :
      EngineM Core Envelope) := by
  cases level with
  | normal => exact made_return _
  | ghost =>
      exact .bind (made_op _ plain) fun _ => .bind (made_op _ plain) fun _ =>
        .bind (made_op _ plain) fun _ => made_return _

/-- A message is encrypted, saved and published. -/
theorem made_handleSendMessage (publish : kinds .publish) (contactId : String) (plaintext : Bytes)
    (localId conversationId : String) (level : AnonymityLevel) :
    Made kinds (handleSendMessage contactId plaintext localId conversationId level :
      EngineM Core Unit) := by
  unfold handleSendMessage
  refine .bind (made_op _ plain) fun encrypted => ?_
  rcases encrypted with error | ⟨wirePayload, stateBytes⟩
  · exact made_action plain _ rfl
  refine .bind (made_saveState plain _) fun _ => .bind (made_buildEnvelope plain _ _ _ _ _)
    fun envelope => .bind (made_op _ plain) fun stream => ?_
  cases stream with
  | none => exact made_action plain _ rfl
  | some stream =>
      refine .bind (made_op _ publish) fun sent => ?_
      rcases sent with error | ⟨⟩ <;> exact made_action plain _ rfl

/-- The first message of a session is published like every other one. -/
theorem made_handleInitSessionInitiator (publish : kinds .publish) (contactId : String) :
    Made kinds (handleInitSessionInitiator contactId : EngineM Core Unit) := by
  unfold handleInitSessionInitiator
  refine .bind (made_fetchBundle _ _) fun fetched => ?_
  rcases fetched with message | ⟨bundle, verifyingKey⟩
  · exact made_action plain _ rfl
  refine .bind (made_op _ plain) fun initiated => ?_
  rcases initiated with message | ⟨wirePayload, stateBytes⟩
  · exact made_action plain _ rfl
  refine .bind (made_saveState plain _) fun _ => .bind (made_op _ plain) fun uuid =>
    .bind (made_op _ plain) fun stream => ?_
  cases stream with
  | none => exact made_action plain _ rfl
  | some stream => exact .bind (made_op _ publish) fun _ => made_action plain _ rfl

/-- A receipt is sent where a stream is open. -/
theorem made_sendAckFrame (acknowledge : kinds .acknowledge) (messageId : String) :
    Made kinds (sendAckFrame messageId : EngineM Core Unit) := by
  unfold sendAckFrame
  refine .bind (made_op _ plain) fun timestamp => .bind (made_op _ plain) fun stream => ?_
  cases stream with
  | none => exact made_return ()
  | some stream => exact .bind (made_op _ acknowledge) fun _ => made_return ()

omit [Prost] in
theorem made_messageIdOf (id : Option MessageIdType) :
    Made kinds (messageIdOf id : EngineM Core String) := by
  unfold messageIdOf
  split
  · exact made_return _
  · exact .bind (made_op _ plain) fun _ => made_return _

variable [ConstructCore Core]

omit [Prost] in
/-- A blob of the keychain changes the core and reports the restored sessions. -/
theorem made_handleKeychainResult (config : EngineConfig) (key : String) (data : Option Bytes) :
    Made kinds (handleKeychainResult config key data : EngineM Core Unit) := by
  unfold handleKeychainResult
  split
  · cases data with
    | none => exact made_return ()
    | some blob =>
        refine .bind ?_ fun _ => made_return ()
        unfold initCoreFromKeys
        split
        · exact made_return _
        · exact .bind (made_op _ plain) fun _ => made_return _
  · split
    · cases data with
      | none => exact made_return ()
      | some blob =>
          exact .bind (made_op _ plain) fun restored => .forM fun _ => made_action plain _ rfl
    · exact made_return ()

omit [ConstructCore Core] in
/-- A login reports its tokens, opens the stream again and checks the one-time keys. -/
theorem made_handleRegisterDevice (login : kinds .login) (config : EngineConfig)
    (username : Option String) (deviceId : String) :
    Made kinds (handleRegisterDevice config username deviceId : EngineM Core Unit) := by
  unfold handleRegisterDevice
  refine .bind (made_unaryCall _ _) fun challenge => ?_
  rcases challenge with error | challengeBytes
  · exact made_return ()
  dsimp only
  split
  · exact made_return ()
  refine .bind (made_op _ plain) fun solved => ?_
  cases solved with
  | none => exact made_return ()
  | some powSolution =>
  refine .bind (made_op _ plain) fun keys => ?_
  rcases keys with error | publicKeys
  · exact made_return ()
  refine .bind (made_unaryCall _ _) fun answer => ?_
  split
  · exact made_op _ login
  · exact made_return ()
  split
  · exact made_return ()
  split
  · exact made_return ()
  exact .bind (made_op _ login) fun _ => .bind (made_op _ login) fun _ =>
    .bind (made_op _ login) fun _ => .bind (made_action plain _ rfl) fun _ =>
    .bind (made_reopenStreamIfNeeded plain) fun _ => made_handleGetPreKeyCount plain _

/-- A login may open the stream again and check the one-time keys. -/
theorem made_handleAuthenticate (login : kinds .login) (config : EngineConfig) (deviceId : String)
    (challengeResponse signingKey : Bytes) :
    Made kinds (handleAuthenticate config deviceId challengeResponse signingKey :
      EngineM Core Unit) := by
  unfold handleAuthenticate
  refine .bind (made_op _ plain) fun timestamp => .bind (made_unaryCall _ _) fun answer => ?_
  split
  · exact made_op _ login
  · exact made_return ()
  split
  · exact made_return ()
  split
  · exact made_return ()
  exact .bind (made_op _ login) fun _ => .bind (made_op _ login) fun _ =>
    .bind (made_op _ login) fun _ => .bind (made_reopenStreamIfNeeded plain) fun _ =>
    made_handleGetPreKeyCount plain _

omit [ConstructCore Core] in
/-- A refresh renews the login or clears it. -/
theorem made_handleRefreshToken (login : kinds .login) (config : EngineConfig)
    (refreshToken : String) :
    Made kinds (handleRefreshToken config refreshToken : EngineM Core Unit) := by
  unfold handleRefreshToken
  refine .bind (made_unaryCall _ _) fun answer => ?_
  split
  · exact .bind (made_op _ login) fun _ => made_op _ login
  · exact made_return ()
  split
  · exact made_return ()
  exact .bind (made_op _ login) fun _ => .bind (made_op _ login) fun _ =>
    .bind (made_op _ login) fun _ => made_reopenStreamIfNeeded plain

omit [ConstructCore Core] in
/-- A failed first message is tried again later or given up. -/
theorem made_healing (message : IncomingMessage) (error : String) :
    Made kinds (do
      match ← perform (.core (.heal message.senderId message.wirePayload)) with
      | .retryAllowed _ retryAfterMs => perform (.spawnRetry retryAfterMs (retryFrame message))
      | .maxAttemptsReached | .notFound =>
          perform (.core (.clearHeal message.senderId))
          onAction (.sessionError message.senderId s!"Healing failed: {error}") :
        EngineM Core Unit) := by
  refine .bind (made_op _ plain) fun decision => ?_
  cases decision with
  | retryAllowed attempt retryAfterMs => exact made_op _ plain
  | maxAttemptsReached => exact .bind (made_op _ plain) fun _ => made_action plain _ rfl
  | notFound => exact .bind (made_op _ plain) fun _ => made_action plain _ rfl

/-- The responder fetches a bundle, receives, acknowledges and reports. -/
theorem made_handleSessionInitResponder (receive : kinds .receive)
    (acknowledge : kinds .acknowledge) (message : IncomingMessage) :
    Made kinds (handleSessionInitResponder message : EngineM Core Unit) := by
  unfold handleSessionInitResponder
  refine .bind (made_op _ receive) fun _ => .bind (made_fetchBundle _ _) fun fetched => ?_
  rcases fetched with text | ⟨bundle, verifyingKey⟩
  · exact made_action plain _ rfl
  dsimp only
  split
  · exact made_action plain _ rfl
  refine .bind (made_op _ receive) fun received => ?_
  rcases received with error | ⟨plaintext, stateBytes⟩
  · exact made_healing plain message error
  · refine .bind (made_op _ plain) fun _ => .bind (made_saveState plain _) fun _ =>
      .bind (made_sendAckFrame plain acknowledge _) fun _ =>
      .bind (made_action plain _ rfl) fun _ => ?_
    split
    · exact made_return ()
    · exact made_action plain _ rfl

omit [ConstructCore Core] in
/-- A message is decrypted, acknowledged and displayed. -/
theorem made_handleDecryptMessage (receive : kinds .receive) (acknowledge : kinds .acknowledge)
    (message : IncomingMessage) : Made kinds (handleDecryptMessage message : EngineM Core Unit) := by
  unfold handleDecryptMessage
  refine .bind (made_op _ receive) fun _ => .bind (made_op _ receive) fun received => ?_
  rcases received with error | ⟨plaintext, stateBytes⟩
  · exact made_return ()
  · exact .bind (made_saveState plain _) fun _ => .bind (made_sendAckFrame plain acknowledge _)
      fun _ => made_action plain _ rfl

end

omit [Prost] in
/-- Fewer kinds give fewer pieces. -/
theorem Piece.mono {fewer : OpKind → Prop} (implies : ∀ kind, fewer kind → kinds kind) {A : Type}
    {single : EngineM Core A} (piece : Piece fewer A single) : Piece kinds A single := by
  cases piece with
  | op op allowed => exact .op op (implies _ allowed)
  | unaryCall servicePath request => exact .unaryCall servicePath request
  | handleOpenStream conversations cursor => exact .handleOpenStream conversations cursor

/-- These operations change no state that a result is about. -/
def Plain (kind : OpKind) : Prop := kind = .plain

omit [Prost] in
theorem isPlain : Plain .plain := rfl

section
variable [ConstructCore Core] {piece : (A : Type) → EngineM Core A → Prop}
  (base : ∀ {A : Type} (single : EngineM Core A), Piece Plain A single → piece A single)
include base

/-- The two receive handlers take every envelope, whatever they are made of. -/
theorem composed_handleIncomingEnvelope
    (responder : ∀ message, Composed piece (handleSessionInitResponder message))
    (decrypt : ∀ message, Composed piece (handleDecryptMessage message)) (envelope : Envelope) :
    Composed piece (handleIncomingEnvelope envelope) := by
  unfold handleIncomingEnvelope
  dsimp only
  split
  · exact .done ()
  split
  · exact .done ()
  refine .bind ((made_messageIdOf isPlain _).mono base) fun messageId => ?_
  split
  · exact .done ()
  split
  · exact responder _
  · exact decrypt _

/-- A frame moves the cursor and carries a message or a receipt. -/
theorem composed_handleIncomingFrame
    (responder : ∀ message, Composed piece (handleSessionInitResponder message))
    (decrypt : ∀ message, Composed piece (handleDecryptMessage message)) (frame : Bytes) :
    Composed piece (handleIncomingFrame frame) := by
  have envelopes := composed_handleIncomingEnvelope base responder decrypt
  unfold handleIncomingFrame
  split
  · exact .done ()
  split
  · exact .done ()
  refine .bind ?_ fun _ => ?_
  · exact .option fun cursor => (made_op _ isPlain).mono base
  · split
    · exact envelopes _
    · exact .forM fun id => (made_action isPlain _ rfl).mono base
    · exact .done ()

/-- A pending message takes the path of the responder or is decrypted alone. -/
theorem composed_handlePendingMessage (receive : ∀ {A : Type} (op : Op Core A),
      op.kind = .receive → piece A (perform op))
    (responder : ∀ message, Composed piece (handleSessionInitResponder message))
    (totals : Nat × Bool) (msg : PendingMessage) :
    Composed piece (handlePendingMessage totals msg) := by
  unfold handlePendingMessage
  dsimp only
  split
  · exact .done _
  split
  · exact .done _
  split
  · exact .done _
  split
  · exact .bind (responder _) fun _ => .done _
  · refine .bind (.piece (receive _ rfl)) fun _ => .bind (.piece (receive _ rfl)) fun answer => ?_
    rcases answer with error | plaintext
    · exact .done _
    · exact .bind ((made_action isPlain _ rfl).mono base) fun _ =>
        .bind ((made_action isPlain _ rfl).mono base) fun _ => .done _

/-- A background fetch handles page after page and saves once. -/
theorem composed_handleBackgroundPush
    (pending : ∀ totals msg, Composed piece (handlePendingMessage totals msg))
    (sinceCursor : Option String) : Composed piece (handleBackgroundPush sinceCursor) := by
  unfold handleBackgroundPush
  refine .bind (.iterate _ fun progress => ?_) fun totals => ?_
  · unfold backgroundPage
    refine .bind ((made_unaryCall _ _).mono base) fun answer => ?_
    rcases answer with error | bytes
    · exact .done _
    dsimp only
    split
    · exact .done _
    · refine .bind (.foldlM pending _) fun totals => ?_
      split <;> exact .done _
  · exact .bind ((made_op _ isPlain).mono base) fun exported =>
      .bind (.option fun stateBytes => (made_saveState isPlain stateBytes).mono base) fun _ =>
      (made_action isPlain _ rfl).mono base

/-- Every event has a handler that is composed of the pieces. -/
theorem composed_handleEvent (config : EngineConfig)
    (close : piece Unit (perform (.streamWrite none)))
    (register : ∀ username deviceId, Composed piece (handleRegisterDevice config username deviceId))
    (authenticate : ∀ deviceId challengeResponse signingKey,
      Composed piece (handleAuthenticate config deviceId challengeResponse signingKey))
    (refresh : ∀ refreshToken, Composed piece (handleRefreshToken config refreshToken))
    (logout : Composed piece (handleLogout config))
    (send : ∀ contactId plaintext localId conversationId level,
      Composed piece (handleSendMessage contactId plaintext localId conversationId level))
    (initiate : ∀ contactId, Composed piece (handleInitSessionInitiator contactId))
    (push : ∀ sinceCursor, Composed piece (handleBackgroundPush sinceCursor)) (event : UiEvent) :
    Composed piece (handleEvent config event) := by
  cases event with
  | registerDevice username deviceId => exact register username deviceId
  | authenticate deviceId challengeResponse signingKey => exact authenticate _ _ _
  | refreshToken refreshToken => exact refresh refreshToken
  | logout => exact logout
  | fetchPreKeyBundle userId deviceId => exact (made_handleFetchPreKeyBundle isPlain _ _).mono base
  | uploadOtpks deviceId count => exact (made_handleUploadOtpks isPlain _ _).mono base
  | getPreKeyCount deviceId => exact (made_handleGetPreKeyCount isPlain _).mono base
  | rotateSignedPreKey deviceId => exact (made_handleRotateSpk isPlain _).mono base
  | openMessageStream conversationIds sinceCursor =>
      exact (made_handleOpenStream _ _).mono base
  | closeMessageStream => exact .piece close
  | sendMessage contactId plaintext localId conversationId level => exact send _ _ _ _ _
  | ackMessage messageId messageNumber => exact (made_handleAckMessage isPlain _).mono base
  | initSessionInitiator contactId => exact initiate contactId
  | searchUser query => exact (made_handleSearchUser isPlain _).mono base
  | signal callId signalBytes => exact .done ()
  | registerPushToken token platform => exact (made_handleRegisterPush _ _).mono base
  | backgroundPush sinceCursor => exact push sinceCursor
  | keychainResult key data => exact (made_handleKeychainResult isPlain _ _ _).mono base
  | platformReady => exact (made_action isPlain _ rfl).mono base
  | p2pHandoffInitiate peerId candidates => exact .done ()
  | p2pHandoffAck sessionId success candidates measuredLatencyMs => exact .done ()
  | p2pStatusReport peerId connected latencyMs isRelay => exact .done ()

end

section
variable [ConstructCore Core] (plain : kinds .plain) (receive : kinds .receive)
  (acknowledge : kinds .acknowledge)
include plain receive acknowledge

theorem made_handleIncomingFrame (frame : Bytes) :
    Made kinds (handleIncomingFrame frame : EngineM Core Unit) :=
  composed_handleIncomingFrame
    (fun _ piece => piece.mono fun kind same => by rw [same]; exact plain)
    (made_handleSessionInitResponder plain receive acknowledge)
    (made_handleDecryptMessage plain receive acknowledge) frame

theorem made_handleBackgroundPush (sinceCursor : Option String) :
    Made kinds (handleBackgroundPush sinceCursor : EngineM Core Unit) := by
  have base {A : Type} (single : EngineM Core A) (piece : Piece Plain A single) :
      Piece kinds A single := piece.mono fun kind same => by rw [same]; exact plain
  refine composed_handleBackgroundPush base (fun totals msg => ?_) sinceCursor
  refine composed_handlePendingMessage base (fun op kind => .op op ?_)
    (made_handleSessionInitResponder plain receive acknowledge) totals msg
  rw [kind]
  exact receive

/-- Without a loop operation of its own, every handler is made of the kinds below the loop. -/
theorem made_handleEvent (config : EngineConfig) (login : kinds .login) (publish : kinds .publish)
    (close : kinds .close) (event : UiEvent) :
    Made kinds (handleEvent config event : EngineM Core Unit) :=
  composed_handleEvent (fun _ piece => piece.mono fun kind same => by rw [same]; exact plain) config
    (.op _ close) (made_handleRegisterDevice plain login config)
    (made_handleAuthenticate plain login config) (made_handleRefreshToken plain login config)
    (made_handleLogout login config) (made_handleSendMessage plain publish)
    (made_handleInitSessionInitiator plain publish)
    (made_handleBackgroundPush plain receive acknowledge) event

end

end ConstructEngine
