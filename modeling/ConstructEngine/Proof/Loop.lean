import ConstructEngine.Proof.Handlers
import ConstructEngine.Proof.Topics

namespace ConstructEngine

open Interaction Program Machine

section
variable {Core : Type} [ConstructCore Core] [Prost] {config : EngineConfig} {machine : Machine (Op Core)}
  {promise : machine.Promise} {guard : machine.Guard} {invariant : machine.State → Prop}

omit [ConstructCore Core] [Prost] in
/-- The refresh timer is plain. -/
theorem updateRefreshTimer_keeps
    (stable : Stable promise invariant)
    (own : ∀ {A : Type} (op : Op Core A), op.Own → op.kind = .plain →
      Keeps promise guard invariant (perform op)) (refreshArmed : Bool) :
    Keeps promise guard invariant (updateRefreshTimer refreshArmed) := by
  unfold updateRefreshTimer
  refine keeps_bind (own _ (.own rfl) rfl) fun changed => ?_
  match changed with
  | none => exact keeps_done stable _
  | some none => exact keeps_done stable _
  | some (some state) =>
      exact keeps_bind (own _ (.inl rfl) rfl) fun now =>
        keeps_bind (own _ (.own rfl) rfl) fun _ => keeps_done stable _

/-- One turn of the loop keeps the invariant when the timer and every branch do. -/
theorem eventLoopTurn_branches (selected : Branch → machine.State → Prop)
    (stable : Stable promise invariant)
    (timer : ∀ refreshArmed, Keeps promise guard invariant (updateRefreshTimer refreshArmed))
    (select : ∀ refreshArmed state, invariant state →
      Holds promise guard (perform (.select refreshArmed)) selected state)
    (refresh : ∀ state, selected .refresh state → Holds promise guard
      (do (← perform .tokenStateRead).forM fun due => handleRefreshToken config due.refreshToken)
      (fun _ => invariant) state)
    (changed : ∀ state, selected .changed state →
      Holds promise guard handleConnectedChange (fun _ => invariant) state)
    (event : ∀ event state, selected (.event (some event)) state →
      Holds promise guard (handleEvent config event) (fun _ => invariant) state)
    (frame : ∀ frame state, selected (.frame frame) state →
      Holds promise guard (handleIncomingFrame frame) (fun _ => invariant) state)
    (idle : ∀ state, selected (.event none) state ∨ selected .tokenChanged state → invariant state)
    (refreshArmed : Bool) : Keeps promise guard invariant (eventLoopTurn config refreshArmed) := by
  have again {program : EngineM Core Unit} {state : machine.State}
      (safe : Holds promise guard program (fun _ => invariant) state) (armed : Bool) :
      Holds promise guard (do program; return (.inl armed : Bool ⊕ Unit)) (fun _ => invariant) state :=
    holds_bind safe fun _ state kept => keeps_done stable _ state kept
  unfold eventLoopTurn
  refine keeps_bind (timer refreshArmed) fun armed state now => ?_
  refine holds_bind (select armed state now) fun branch state now => ?_
  cases branch with
  | refresh => exact again (refresh state now) false
  | changed => exact again (changed state now) armed
  | event event =>
      cases event with
      | none => exact keeps_done stable _ state (idle state (.inl now))
      | some ui => exact again (event ui state now) armed
  | frame received => exact again (frame received state now) armed
  | tokenChanged => exact keeps_done stable _ state (idle state (.inr now))

/-- The event loop keeps every invariant that connecting and each turn keep. -/
theorem eventLoop_keeps
    (stable : Stable promise invariant)
    (own : ∀ {A : Type} (op : Op Core A), op.Own → op.kind = .plain →
      Keeps promise guard invariant (perform op))
    (connect : Keeps promise guard invariant ensureConnected)
    (turn : ∀ refreshArmed, Keeps promise guard invariant (eventLoopTurn config refreshArmed)) :
    Keeps promise guard invariant (eventLoop config) := by
  unfold eventLoop
  refine keeps_bind (own _ (.own rfl) rfl) fun started => ?_
  rcases started with error | ⟨⟩
  · exact keeps_bind (own (.onAction _) (.inr (.inr (.inl rfl))) rfl) fun _ =>
      own _ (.own rfl) rfl
  · exact keeps_bind connect fun _ => keeps_bind (own _ (.own rfl) rfl) fun _ =>
      keeps_bind (keeps_iterate stable turn false) fun _ => own _ (.own rfl) rfl

section
variable (stable : Stable promise invariant)
  (base : ∀ {A : Type} (single : EngineM Core A), Piece Plain A single →
    Keeps promise guard invariant single)
include stable base

/-- A frame goes to one of two receivers. -/
theorem handleIncomingFrame_keeps
    (responder : ∀ message, Keeps promise guard invariant (handleSessionInitResponder message))
    (decrypt : ∀ message, Keeps promise guard invariant (handleDecryptMessage message))
    (frame : Bytes) : Keeps promise guard invariant (handleIncomingFrame frame) :=
  keeps_of_composed stable (composed_handleIncomingFrame base
    (fun message => .piece (responder message)) (fun message => .piece (decrypt message)) frame)

/-- A batch is handled message by message. -/
theorem handleBackgroundPush_keeps
    (pending : ∀ totals msg, Keeps promise guard invariant (handlePendingMessage totals msg))
    (sinceCursor : Option String) :
    Keeps promise guard invariant (handleBackgroundPush sinceCursor) :=
  keeps_of_composed stable
    (composed_handleBackgroundPush base (fun totals msg => .piece (pending totals msg)) sinceCursor)

omit base in
/-- Between its pages, the background fetch calls the server, exports the state and reports. -/
theorem handleBackgroundPush_pages
    (ops : ∀ {A : Type} (op : Op Core A),
      Engages (fun topic => topic = .keeping ∨ topic = .rpc messagingGetPending) op.topic →
      Keeps promise guard invariant (perform op))
    (pending : ∀ totals msg, Keeps promise guard invariant (handlePendingMessage totals msg))
    (sinceCursor : Option String) :
    Keeps promise guard invariant (handleBackgroundPush sinceCursor) := by
  have fetch (request : Bytes) :
      Keeps promise guard invariant (unaryCall messagingGetPending request) :=
    keeps_of_uses stable ops (built_unaryCall (.inr rfl) : Built _ (anyRequest _) _).concerns
  have save (stateBytes : Bytes) : Keeps promise guard invariant (saveState stateBytes) :=
    keeps_of_uses stable ops (concerns_saveState stateBytes)
  unfold handleBackgroundPush
  refine keeps_bind (keeps_iterate stable (fun progress => ?_) _) fun totals => ?_
  · unfold backgroundPage
    refine keeps_bind (fetch _) fun answer => ?_
    rcases answer with error | bytes
    · exact keeps_done stable _
    dsimp only
    split
    · exact keeps_done stable _
    · refine keeps_bind (keeps_of_composed stable (.foldlM (fun totals msg => .piece (pending totals msg)) _))
        fun totals => ?_
      split <;> exact keeps_done stable _
  · refine keeps_bind (ops _ (.own (.inl rfl))) fun exported => keeps_bind ?_ fun _ =>
      ops (.onAction _) (.inr (.inr (.inl rfl)))
    exact keeps_of_composed stable (.option fun stateBytes => .piece (save stateBytes))

theorem handleEvent_keeps
    (close : Keeps promise guard invariant (perform (.streamWrite none)))
    (register : ∀ username deviceId,
      Keeps promise guard invariant (handleRegisterDevice config username deviceId))
    (authenticate : ∀ deviceId challengeResponse signingKey, Keeps promise guard invariant
      (handleAuthenticate config deviceId challengeResponse signingKey))
    (refresh : ∀ refreshToken,
      Keeps promise guard invariant (handleRefreshToken config refreshToken))
    (logout : Keeps promise guard invariant (handleLogout config))
    (send : ∀ contactId plaintext localId conversationId level, Keeps promise guard invariant
      (handleSendMessage contactId plaintext localId conversationId level))
    (initiate : ∀ contactId, Keeps promise guard invariant (handleInitSessionInitiator contactId))
    (push : ∀ sinceCursor, Keeps promise guard invariant (handleBackgroundPush sinceCursor))
    (event : UiEvent) : Keeps promise guard invariant (handleEvent config event) :=
  keeps_of_composed stable (composed_handleEvent base config close
    (fun username deviceId => .piece (register username deviceId))
    (fun deviceId challengeResponse signingKey =>
      .piece (authenticate deviceId challengeResponse signingKey))
    (fun refreshToken => .piece (refresh refreshToken)) (.piece logout)
    (fun contactId plaintext localId conversationId level =>
      .piece (send contactId plaintext localId conversationId level))
    (fun contactId => .piece (initiate contactId)) (fun sinceCursor => .piece (push sinceCursor))
    event)

end

end

variable {Core : Type} [ConstructCore Core] [Prost] {config : EngineConfig} {machine : Machine (Op Core)}
  {promise : machine.Promise} {guard : machine.Guard}

/-- The assertions `waked` and `taken` hold right after the loop took up a change of the connection
or an event. -/
def Selected {S : Type} (invariant waked : S → Prop) (taken : UiEvent → S → Prop) (branch : Branch)
    (state : S) : Prop :=
  match branch with
  | .changed => waked state
  | .event (some event) => taken event state
  | _ => invariant state

variable {invariant : machine.State → Prop}

omit [ConstructCore Core] [Prost] in
theorem selected_of_invariant {branch : Branch} {state : machine.State} (now : invariant state) :
    Selected invariant invariant (fun _ => invariant) branch state := by
  unfold Selected
  split <;> exact now

/-- One turn of the loop keeps the invariant when every branch does. -/
theorem eventLoopTurn_keeps (waked : machine.State → Prop) (taken : UiEvent → machine.State → Prop)
    (stable : Stable promise invariant)
    (plain : ∀ {A : Type} (op : Op Core A), op.kind = .plain →
      Keeps promise guard invariant (perform op))
    (select : ∀ refreshArmed world, invariant world →
      Holds promise guard (perform (.select refreshArmed)) (Selected invariant waked taken) world)
    (changed : ∀ world, waked world →
      Holds promise guard handleConnectedChange (fun _ => invariant) world)
    (refresh : ∀ refreshToken,
      Keeps promise guard invariant (handleRefreshToken config refreshToken))
    (event : ∀ event world, taken event world →
      Holds promise guard (handleEvent config event) (fun _ => invariant) world)
    (frame : ∀ frame, Keeps promise guard invariant (handleIncomingFrame frame))
    (refreshArmed : Bool) : Keeps promise guard invariant (eventLoopTurn config refreshArmed) := by
  refine eventLoopTurn_branches (Selected invariant waked taken) stable
    (updateRefreshTimer_keeps stable fun op _ kind => plain op kind) select ?_ changed event
    (fun received world now => frame received world now) ?_ refreshArmed
  · intro state selected
    refine keeps_bind (plain .tokenStateRead rfl) (fun due => ?_) state selected
    cases due with
    | none => exact keeps_done stable _
    | some due => exact refresh due.refreshToken
  · rintro state (selected | selected) <;> exact selected

/-- The loop keeps an invariant that each of its operations and each of its handlers keeps. -/
theorem eventLoop_uniform
    (stable : Stable promise invariant)
    (plain : ∀ {A : Type} (op : Op Core A), op.kind = .plain ∨ op.kind = .loop →
      Keeps promise guard invariant (perform op))
    (close : Keeps promise guard invariant handleCloseStream)
    (connect : Keeps promise guard invariant ensureConnected)
    (reopen : Keeps promise guard invariant resubscribe)
    (refresh : ∀ refreshToken,
      Keeps promise guard invariant (handleRefreshToken config refreshToken))
    (event : ∀ event, Keeps promise guard invariant (handleEvent config event))
    (frame : ∀ frame, Keeps promise guard invariant (handleIncomingFrame frame)) :
    Keeps promise guard invariant (eventLoop config) := by
  apply eventLoop_keeps stable (fun op _ kind => plain op (.inl kind)) connect
  refine eventLoopTurn_keeps invariant (fun _ => invariant) stable
    (fun op kind => plain op (.inl kind)) ?_ ?_ refresh event frame
  · intro refreshArmed world now
    refine (plain (.select refreshArmed) (.inr rfl) world now).weaken fun branch after kept => ?_
    exact selected_of_invariant kept
  · unfold handleConnectedChange
    refine keeps_bind (plain _ (.inr rfl)) fun connected => ?_
    split
    · exact keeps_done stable ()
    · exact keeps_bind (plain (.onAction _) (.inr rfl)) fun _ => keeps_bind close fun _ =>
        keeps_bind connect fun _ => reopen

/-- These operations neither move nor announce a message. -/
def Ordinary (kind : OpKind) : Prop :=
  kind ≠ .publish ∧ kind ≠ .acknowledge ∧ kind ≠ .receive ∧ kind ≠ .loop

/-- An invariant of the ordinary operations is one of the loop when the five handlers that move
messages keep it. -/
theorem eventLoop_messages
    (stable : Stable promise invariant)
    (made : ∀ {A : Type} {program : EngineM Core A}, Made Ordinary program →
      Keeps promise guard invariant program)
    (connect : Keeps promise guard invariant ensureConnected)
    (loop : ∀ {A : Type} (op : Op Core A), op.kind = .loop → Keeps promise guard invariant (perform op))
    (send : ∀ contactId plaintext localId conversationId level, Keeps promise guard invariant
      (handleSendMessage contactId plaintext localId conversationId level))
    (initiate : ∀ contactId, Keeps promise guard invariant (handleInitSessionInitiator contactId))
    (responder : ∀ message, Keeps promise guard invariant (handleSessionInitResponder message))
    (decrypt : ∀ message, Keeps promise guard invariant (handleDecryptMessage message))
    (pending : ∀ totals msg, Keeps promise guard invariant (handlePendingMessage totals msg)) :
    Keeps promise guard invariant (eventLoop config) := by
  have plain : Ordinary .plain := by unfold Ordinary; decide
  have login : Ordinary .login := by unfold Ordinary; decide
  have close : Ordinary .close := by unfold Ordinary; decide
  have base {A : Type} (single : EngineM Core A) (piece : Piece Plain A single) :=
    made (.piece (piece.mono fun kind same => by rw [same]; exact plain))
  have refresh (refreshToken : String) := made (made_handleRefreshToken plain login config refreshToken)
  refine eventLoop_uniform stable ?_ (made (made_handleCloseStream close)) connect
    (made (made_resubscribe plain)) refresh ?_
    (handleIncomingFrame_keeps stable base responder decrypt)
  · rintro A op (kind | kind)
    · exact made (made_op op (by rw [kind]; exact plain))
    · exact loop op kind
  · exact handleEvent_keeps stable base (made (made_handleCloseStream close))
      (fun username deviceId => made (made_handleRegisterDevice plain login config username deviceId))
      (fun deviceId challengeResponse signingKey =>
        made (made_handleAuthenticate plain login config deviceId challengeResponse signingKey))
      refresh (made (made_handleLogout login config)) send initiate
      (handleBackgroundPush_keeps stable base pending)

/-- Handlers ask these operations themselves. -/
def BelowLoop (kind : OpKind) : Prop := kind ≠ .transport ∧ kind ≠ .loop

section
variable (stable : Stable promise invariant)
  (handler : ∀ {A : Type} (op : Op Core A), BelowLoop op.kind →
    Keeps promise guard invariant (perform op))
  (call : ∀ servicePath request, Keeps promise guard invariant (unaryCall servicePath request))
  (opening : ∀ conversations cursor,
    Keeps promise guard invariant (handleOpenStream conversations cursor))
include stable handler call opening

omit [ConstructCore Core] [Prost] in
/-- What a handler is made of keeps the invariant, so the handler does. -/
theorem made_keeps {A : Type} {program : EngineM Core A} (made : Made BelowLoop program) :
    Keeps promise guard invariant program := by
  refine keeps_composed made stable fun single piece => ?_
  cases piece with
  | op op allowed => exact handler op allowed
  | unaryCall servicePath request => exact call servicePath request
  | handleOpenStream conversations cursor => exact opening conversations cursor

/-- No handler touches the loop. -/
theorem handleEvent_links (event : UiEvent) :
    Keeps promise guard invariant (handleEvent config event) := by
  refine made_keeps stable handler call opening (made_handleEvent ?_ ?_ ?_ config ?_ ?_ ?_ event) <;>
    constructor <;> decide

/-- An invariant of the handlers' operations, of unary calls and of openings is one of the loop. -/
theorem eventLoop_links (waked : machine.State → Prop) (taken : UiEvent → machine.State → Prop)
    (select : ∀ refreshArmed world, invariant world →
      Holds promise guard (perform (.select refreshArmed)) (Selected invariant waked taken) world)
    (changed : ∀ world, waked world →
      Holds promise guard handleConnectedChange (fun _ => invariant) world)
    (event : ∀ event world, taken event world →
      Holds promise guard (handleEvent config event) (fun _ => invariant) world)
    (connect : Keeps promise guard invariant ensureConnected) :
    Keeps promise guard invariant (eventLoop config) := by
  have made {A : Type} {program : EngineM Core A} (made : Made BelowLoop program) :=
    made_keeps stable handler call opening made
  have ops {A : Type} (op : Op Core A) (kind : op.kind = .plain) :=
    handler op (by rw [kind]; constructor <;> decide)
  refine eventLoop_keeps stable (fun op _ kind => ops op kind) connect fun refreshArmed => ?_
  refine eventLoopTurn_keeps waked taken stable ops select changed ?_ event ?_ refreshArmed
  · intro refreshToken
    refine made (made_handleRefreshToken ?_ ?_ config refreshToken) <;> constructor <;> decide
  · intro frame
    refine made (made_handleIncomingFrame ?_ ?_ ?_ frame) <;> constructor <;> decide

end

end ConstructEngine
