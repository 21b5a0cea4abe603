import ConstructEngine.Proof.Actions
import ConstructEngine.Proof.Loop
import ConstructEngine.Proof.Refresh
import Mathlib.Order.Monotone.Basic

namespace ConstructEngine

open Interaction Program Machine

variable {Core A : Type}

/-- The delay doubles after each failed attempt, from one second up to one minute. -/
def backoffSecs (failures : Nat) : Nat := min (2 ^ failures) 60

theorem backoffSecs_succ (failures : Nat) : backoffSecs (failures + 1) = min (backoffSecs failures * 2) 60 := by
  unfold backoffSecs
  rw [Nat.pow_succ]
  omega

example : (List.range 8).map backoffSecs = [1, 2, 4, 8, 16, 32, 60, 60] := by decide

/-- A failed attempt is reported as a network error. -/
def PlatformAction.failsAttempt : PlatformAction → Bool
  | .networkError _ => true
  | _ => false

/-- The trace shows the report. -/
def Event.failsAttempt : Event → Bool
  | .action reported => reported.failsAttempt
  | _ => false

/-- The operation makes the report. -/
def Op.failsAttempt : {A : Type} → Op Core A → Bool
  | _, .onAction action => action.failsAttempt
  | _, _ => false

/-- These attempts failed since anything else happened. -/
def failedAttempts (log : List Event) : Nat := (log.reverse.takeWhile Event.failsAttempt).length

/-- One more failed attempt counts. -/
theorem failedAttempts_fails (log : List Event) {event : Event} (fails : event.failsAttempt = true) :
    failedAttempts (log ++ [event]) = failedAttempts log + 1 := by
  simp [failedAttempts, fails]

/-- Nothing else begins a count. -/
theorem failedAttempts_append {log more : List Event} (none : failedAttempts log = 0)
    (others : ∀ event ∈ more, event.failsAttempt = false) : failedAttempts (log ++ more) = 0 := by
  induction more using List.reverseRecOn with
  | nil => rw [List.append_nil]; exact none
  | append_singleton front last inductionHypothesis =>
      have other : last.failsAttempt = false := others last (by simp)
      rw [← List.append_assoc]
      simp [failedAttempts, other]

/-- The first action of an engine without a transport tells why. Later reports announce the delay before
the next attempt, and the count of the attempts that failed in a row decides it. -/
def Announces (log : List Event) (message : String) : Prop :=
  ∃ error : EngineError, message = s!"Reconnecting in {backoffSecs (failedAttempts log)}s… ({error})" ∨
    log = [] ∧ message = s!"Transport init failed: {error}"

/-- The ledger notes when the announced delay is over. -/
def Op.paces : {A : Type} → Op Core A → World Core → A → Nat → Nat
  | _, .onAction (.networkError _), world, _, _ =>
      world.net.clock + backoffSecs (failedAttempts world.engine.log) * 1000
  | _, _, _, _, ends => ends

/-- Only a reported failure announces a delay. -/
theorem paces_unfailing {op : Op Core A} (unfailing : op.failsAttempt = false) (world : World Core) (value : A)
    (ends : Nat) : op.paces world value ends = ends := by
  cases op with
  | onAction action =>
      cases action with
      | networkError message => cases unfailing
      | _ => rfl
  | _ => rfl

/-- An operation that reports no failed attempt leaves none in the trace. -/
theorem traces_unfailing {op : Op Core A} (unfailing : op.failsAttempt = false) {event : Event}
    (traces : op.Traces event) : event.failsAttempt = false := by
  cases op with
  | onAction action => cases traces; exact unfailing
  | core region => obtain ⟨call, rfl, -⟩ := traces; rfl
  | handling => cases traces; rfl
  | exchange => cases traces; rfl
  | openExchange => cases traces; rfl
  | sendFrame => obtain ⟨accepted, rfl⟩ := traces; rfl
  | refreshReset => obtain ⟨clock, rfl⟩ := traces; rfl
  | select => rcases traces with ⟨clock, rfl⟩ | ⟨ui, rfl⟩ | ⟨frame, rfl⟩ <;> rfl
  | _ => exact traces.elim

/-- Connecting and reading add nothing to the trace. -/
theorem linking_silent {op : Op Core A} (linking : Linking op.topic) (event : Event) : ¬op.Traces event := by
  cases op with
  | onAction action =>
      have topic : Linking action.topic := linking
      rcases action_topic action with same | same | same | same | ⟨same, -⟩ <;>
        simp [Linking, same] at topic
  | core region => cases region <;> simp [Linking, Op.topic, CoreSection.topic] at linking
  | handling => simp [Linking, Op.topic] at linking
  | exchange => simp [Linking, Op.topic] at linking
  | openExchange => simp [Linking, Op.topic] at linking
  | sendFrame => simp [Linking, Op.topic] at linking
  | refreshReset => simp [Linking, Op.topic] at linking
  | select => simp [Linking, Op.topic] at linking
  | _ => exact id

/-- To connect is not to report. -/
theorem linking_unfailing {op : Op Core A} (linking : Linking op.topic) : op.failsAttempt = false := by
  cases op with
  | onAction action => exact (linking_silent linking _ rfl).elim
  | _ => rfl

/-- These actions report no failed attempt. -/
def Unfailing (action : PlatformAction) : Prop := action.failsAttempt = false

/-- An operation that fires only such actions reports no failed attempt. -/
theorem fires_unfailing {op : Op Core A} (fires : op.Fires True Unfailing) : op.failsAttempt = false := by
  cases op with
  | onAction action => exact fires
  | _ => rfl

section
variable [ConstructCore Core] {config : EngineConfig}

/-- The note is the time at which the announced delay is over. -/
def paceLedger (Core : Type) [ConstructCore Core] (config : EngineConfig) :
    (engineMachine Core config).Ledger Nat := ⟨Op.paces⟩

/-- This is the engine with the announced time next to its state. -/
abbrev paceMachine (Core : Type) [ConstructCore Core] (config : EngineConfig) : Machine (Op Core) :=
  (engineMachine Core config).monitored (paceLedger Core config)

/-- Nothing is assumed of the environment. -/
abbrev pacePromise (Core : Type) [ConstructCore Core] (config : EngineConfig) :
    (paceMachine Core config).Promise :=
  (Promise.any (engineMachine Core config)).monitored (paceLedger Core config)

/-- A failed attempt is reported with its delay, and no attempt begins before the delay is over. -/
def paceGuard (Core : Type) [ConstructCore Core] (config : EngineConfig) :
    (paceMachine Core config).Guard := fun op state =>
  match op with
  | .onAction (.networkError message) => Announces (World.engine state.1).log message
  | .connectBegin => state.2 ≤ (World.net state.1).clock
  | _ => True

/-- The next failed attempt announces this delay, and an attempt may begin now. -/
def Paced (delay : Nat) (state : World Core × Nat) : Prop :=
  delay = backoffSecs (failedAttempts state.1.engine.log) ∧ state.2 ≤ state.1.net.clock

/-- No attempt failed since anything else happened. -/
def Unpaced (state : World Core × Nat) : Prop :=
  failedAttempts state.1.engine.log = 0 ∧ state.2 ≤ state.1.net.clock

/-- The program begins and ends without a failed attempt to count. -/
abbrev KeepsUnpaced (config : EngineConfig) (program : EngineM Core A) : Prop :=
  Keeps (pacePromise Core config) (paceGuard Core config) Unpaced program

/-- Time does not run backwards. -/
theorem pace_stable (good : List Event → Prop) (bound : Nat → Nat) (monotone : Monotone bound) :
    Stable (pacePromise Core config) fun state : World Core × Nat =>
      good state.1.engine.log ∧ state.2 ≤ bound state.1.net.clock := by
  intro move state after now _ moved
  obtain ⟨done, same⟩ := monitored_move moved
  obtain ⟨net, stepped, world⟩ := moveWorld_some done
  rw [same, world]
  exact ⟨now.1, Nat.le_trans now.2 (monotone (clock_moves stepped))⟩

/-- While nothing is reported, the announced time stays over. -/
theorem unpaced_stable : Stable (pacePromise Core config) Unpaced :=
  pace_stable (failedAttempts · = 0) id monotone_id

/-- While nothing is reported, the next failure announces the same delay. -/
theorem paced_stable (delay : Nat) : Stable (pacePromise Core config) (Paced delay) :=
  pace_stable (fun log => delay = backoffSecs (failedAttempts log)) id monotone_id

/-- Once the announced delay is over, an attempt may begin. -/
theorem pace_guard {op : Op Core A} (unfailing : op.failsAttempt = false) {state : World Core × Nat}
    (elapsed : state.2 ≤ state.1.net.clock) : paceGuard Core config op state := by
  cases op with
  | onAction action =>
      cases action with
      | networkError message => cases unfailing
      | _ => trivial
  | connectBegin => exact elapsed
  | _ => trivial

/-- An operation that reports no failed attempt leaves the announced time alone. -/
theorem pace_exec {op : Op Core A} (unfailing : op.failsAttempt = false) {choice : Choice}
    {state after : World Core × Nat} {value : A}
    (answered : (paceMachine Core config).exec op choice state = some (value, after)) :
    (∃ more, after.1.engine.log = state.1.engine.log ++ more ∧ ∀ event ∈ more, op.Traces event) ∧
      after.2 = state.2 ∧ after.1.net.clock = state.1.net.clock := by
  obtain ⟨done, written⟩ := monitored_exec answered
  obtain ⟨more, grown, -, traces⟩ := exec_traces done
  refine ⟨⟨more, grown, traces⟩, ?_, exec_clock done⟩
  rw [written]
  exact paces_unfailing unfailing state.1 value state.2

/-- An operation that reports no failed attempt leaves none to count. -/
theorem unpaced_op {op : Op Core A} (unfailing : op.failsAttempt = false) :
    KeepsUnpaced config (perform op : EngineM Core A) := by
  refine keeps_perform unpaced_stable (fun state now => pace_guard unfailing now.2)
    fun state choice value after now _ answered => ?_
  obtain ⟨⟨more, grown, traces⟩, same, clock⟩ := pace_exec unfailing answered
  refine ⟨?_, ?_⟩
  · rw [grown]
    exact failedAttempts_append now.1 fun event member => traces_unfailing unfailing (traces event member)
  · rw [same, clock]
    exact now.2

/-- A program that reports no failed attempt leaves none to count. -/
theorem unpaced_fires {program : EngineM Core A} (fires : Fires True Unfailing program) :
    KeepsUnpaced config program :=
  keeps_of_uses unpaced_stable (fun _ fires => unpaced_op (fires_unfailing fires)) fires

theorem unpaced_done (value : A) : KeepsUnpaced config (.done value : EngineM Core A) :=
  keeps_done unpaced_stable value

theorem unpaced_action {action : PlatformAction} (unfailing : Unfailing action) :
    KeepsUnpaced config (onAction action : EngineM Core Unit) := unpaced_fires (fires_action unfailing)

/-- Within a turn of the reconnect loop the delay is the one that a failure announces. -/
theorem paced_linking {program : EngineM Core A} (links : Links program) (delay : Nat) :
    Keeps (pacePromise Core config) (paceGuard Core config) (Paced delay) program := by
  refine keeps_of_uses (paced_stable delay) (fun op linking => keeps_perform (paced_stable delay)
    (fun state now => pace_guard (linking_unfailing linking) now.2)
    fun state choice value after now _ answered => ?_) links
  obtain ⟨⟨more, grown, traces⟩, same, clock⟩ := pace_exec (linking_unfailing linking) answered
  have silent : more = [] := List.eq_nil_iff_forall_not_mem.mpr fun event member =>
    linking_silent linking event (traces event member)
  rw [silent, List.append_nil] at grown
  refine ⟨?_, ?_⟩
  · rw [grown]
    exact now.1
  · rw [same, clock]
    exact now.2

/-- The sleep ends when the announced delay is over. -/
theorem sleep_paced {delay next : Nat} {state : World Core × Nat}
    (announced : next = backoffSecs (failedAttempts state.1.engine.log))
    (awaited : state.2 ≤ state.1.net.clock + delay * 1000) :
    Holds (pacePromise Core config) (paceGuard Core config) (sleep delay : EngineM Core Unit)
      (fun _ => Paced next) state := by
  have awaits (bound : Nat → Nat) (monotone : Monotone bound) :
      Stable (pacePromise Core config) fun state : World Core × Nat =>
        next = backoffSecs (failedAttempts state.1.engine.log) ∧ state.2 ≤ bound state.1.net.clock :=
    pace_stable (fun log => next = backoffSecs (failedAttempts log)) bound monotone
  -- Time may pass between the report and the reading of the clock, and then the sleep only gets longer.
  refine holds_perform _ (awaits (· + delay * 1000) fun _ _ le => Nat.add_le_add_right le _)
    (fun _ _ => trivial) (fun before choice now after kept _ answered => ?_) ⟨announced, awaited⟩
  obtain ⟨done, written⟩ := monitored_exec answered
  obtain ⟨world, later⟩ := after
  cases done
  cases written
  refine holds_ask _ (awaits (fun _ => before.1.net.clock + delay * 1000) monotone_const)
    (fun _ _ => trivial) (fun asleep choice _ awake waits _ answered => ?_) kept
  obtain ⟨done, written⟩ := monitored_exec answered
  obtain ⟨world, later⟩ := awake
  simp only [exec, Option.ite_none_right_eq_some] at done
  obtain ⟨passed, done⟩ := done
  cases done
  cases written
  exact holds_done (paced_stable next) ⟨waits.1, Nat.le_trans waits.2 passed⟩

/-- One turn of the reconnect loop leads to the next delay or ends with a connection. -/
def TurnPaced (outcome : Nat ⊕ Unit) (state : World Core × Nat) : Prop :=
  outcome.elim (fun delay => Paced delay state) fun _ => Unpaced state

/-- A failed attempt is reported, and the loop sleeps for the announced delay. -/
theorem failed_paced {delay : Nat} (error : EngineError) {state : World Core × Nat} (now : Paced delay state) :
    Holds (pacePromise Core config) (paceGuard Core config)
      (do
        onAction (.networkError s!"Reconnecting in {delay}s… ({error})")
        sleep delay
        return .inl (min (delay * 2) 60) : EngineM Core (Nat ⊕ Unit)) TurnPaced state := by
  refine holds_perform (Paced delay) (paced_stable delay) ?announced ?reported now
  case announced =>
    intro before now
    refine ⟨error, .inl ?_⟩
    rw [← now.1]
  case reported =>
    intro before choice _ after now _ answered
    obtain ⟨done, written⟩ := monitored_exec answered
    obtain ⟨world, later⟩ := after
    cases done
    cases written
    refine holds_bind (sleep_paced ?_ ?_) fun _ state now => holds_done (paced_stable _) now
    · change min (delay * 2) 60 = backoffSecs (failedAttempts (before.1.engine.log ++ [_]))
      rw [failedAttempts_fails _ rfl, backoffSecs_succ, ← now.1]
    · change before.1.net.clock + backoffSecs (failedAttempts before.1.engine.log) * 1000 ≤ _
      rw [← now.1]

/-- A connection that succeeds is reported, and the next delay is the shortest again. -/
theorem succeeded_paced {delay : Nat} {state : World Core × Nat} (now : Paced delay state) :
    Holds (pacePromise Core config) (paceGuard Core config)
      (do
        onAction (.connectionStateChanged true)
        return .inr () : EngineM Core (Nat ⊕ Unit)) TurnPaced state := by
  refine holds_perform (Paced delay) (paced_stable delay) (fun _ _ => trivial)
    (fun before choice _ after now _ answered => ?_) now
  obtain ⟨done, written⟩ := monitored_exec answered
  obtain ⟨world, later⟩ := after
  cases done
  cases written
  have none : failedAttempts (before.1.engine.log ++ [.action (.connectionStateChanged true)]) = 0 := by
    simp [failedAttempts, Event.failsAttempt, PlatformAction.failsAttempt]
  exact holds_done unpaced_stable ⟨none, now.2⟩

/-- The reconnect loop doubles its delay with the count and ends with a report that clears it. -/
theorem ensureConnected_unpaced : KeepsUnpaced config (ensureConnected : EngineM Core Unit) := by
  intro state now
  unfold ensureConnected
  refine holds_iterate Paced paced_stable (fun delay state now => ?_) (fun _ => unpaced_stable) ⟨?_, now.2⟩
  · refine holds_bind (paced_linking (links_connectH3 _) delay state now) fun attempted state now => ?_
    rcases attempted with error | ⟨⟩
    · exact failed_paced error now
    · exact succeeded_paced now
  · rw [now.1]
    rfl

end

section
variable [ConstructCore Core] [Prost] {config : EngineConfig}

omit [ConstructCore Core] in
theorem unfailing_handleDecryptMessage (message : IncomingMessage) :
    Fires True Unfailing (handleDecryptMessage message : EngineM Core Unit) := by
  unfold handleDecryptMessage
  refine uses_bind (uses_perform trivial) fun _ => uses_bind (uses_perform fun _ => trivial) fun decrypted => ?_
  rcases decrypted with error | ⟨plaintext, stateBytes⟩
  · exact uses_pure ()
  · exact uses_bind (fires_saveState (fun _ => rfl) _) fun _ => uses_bind (fires_sendAckFrame _) fun _ =>
      fires_action rfl

omit [ConstructCore Core] [Prost] in
theorem unfailing_messageIdOf (idType : Option MessageIdType) :
    Fires True Unfailing (messageIdOf idType : EngineM Core String) := by
  unfold messageIdOf
  split
  · exact uses_pure _
  · exact uses_bind (uses_perform trivial) fun _ => uses_pure _

theorem unfailing_handleSessionInitResponder (message : IncomingMessage) :
    Fires True Unfailing (handleSessionInitResponder message : EngineM Core Unit) :=
  fires_handleSessionInitResponder trivial (fun _ => rfl) (fun _ _ => rfl) (fun _ _ => rfl)
    (fun _ _ _ _ _ => rfl) message

theorem unfailing_handleIncomingFrame (frame : Bytes) :
    Fires True Unfailing (handleIncomingFrame frame : EngineM Core Unit) := by
  unfold handleIncomingFrame
  split
  · exact uses_pure ()
  split
  · exact uses_pure ()
  refine uses_bind (Composed.uses (.option fun cursor => .piece (uses_perform trivial)) fun _ fires => fires)
    fun _ => ?_
  split
  · unfold handleIncomingEnvelope
    dsimp only
    split
    · exact uses_pure ()
    split
    · exact uses_pure ()
    refine uses_bind (unfailing_messageIdOf _) fun messageId => ?_
    split
    · exact uses_pure ()
    split
    · exact unfailing_handleSessionInitResponder _
    · exact unfailing_handleDecryptMessage _
  · exact Composed.uses (.forM fun id => .piece (fires_action rfl)) fun _ fires => fires
  · exact uses_pure ()

theorem unfailing_handleBackgroundPush (sinceCursor : Option String) :
    Fires True Unfailing (handleBackgroundPush sinceCursor : EngineM Core Unit) := by
  unfold handleBackgroundPush
  refine uses_bind (fires_backgroundPages trivial (fun _ => rfl) (fun _ _ => rfl) (fun _ _ => rfl)
    (fun _ _ _ _ _ => rfl) (fun _ _ _ _ _ => rfl) _) fun totals =>
    uses_bind (uses_perform fun _ => trivial) fun exported => uses_bind ?_ fun _ => fires_action rfl
  exact Composed.uses (.option fun stateBytes => .piece (fires_saveState (fun _ => rfl) _)) fun _ fires => fires

/-- No handler reports a failed attempt. -/
theorem unfailing_handleEvent (event : UiEvent) :
    Fires True Unfailing (handleEvent config event : EngineM Core Unit) := by
  cases event with
  | platformReady => exact fires_action rfl
  | registerDevice username deviceId =>
      exact fires_handleRegisterDevice (by rfl) (fun _ => by rfl) (by rfl) (fun _ => by rfl) (fun _ _ => by rfl)
        (fun _ _ => by rfl) (fun _ _ _ _ => by rfl) (fun _ => by rfl) config username
  | authenticate deviceId challengeResponse signingKey =>
      exact fires_handleAuthenticate (by rfl) (fun _ => by rfl) (by rfl) (fun _ => by rfl) (fun _ _ => by rfl)
        (fun _ _ => by rfl) (fun _ _ _ _ => by rfl) config deviceId challengeResponse signingKey
  | refreshToken refreshToken =>
      exact fires_handleRefreshToken (by rfl) (fun _ => by rfl) (by rfl) (fun _ _ _ => by rfl) config refreshToken
  | logout => exact fires_handleLogout (by rfl) config
  | fetchPreKeyBundle userId deviceId => exact fires_handleFetchPreKeyBundle (fun _ => rfl) deviceId
  | uploadOtpks deviceId count => exact fires_handleUploadOtpks (fun _ => rfl) (fun _ _ => rfl) deviceId count
  | getPreKeyCount deviceId =>
      exact fires_handleGetPreKeyCount (fun _ => rfl) (fun _ _ => rfl) (fun _ _ => rfl) deviceId
  | rotateSignedPreKey deviceId => exact fires_handleRotateSpk (fun _ => rfl) (fun _ => rfl) deviceId
  | openMessageStream conversationIds sinceCursor =>
      exact fires_handleOpenStream (by rfl) (fun _ => by rfl) conversationIds sinceCursor
  | closeMessageStream => exact uses_perform trivial
  | sendMessage contactId plaintext localId conversationId level =>
      exact fires_handleSendMessage (fun _ => rfl) (by rfl) (by rfl) contactId plaintext conversationId level
  | ackMessage messageId messageNumber => exact fires_handleAckMessage messageId
  | initSessionInitiator contactId =>
      exact fires_handleInitSessionInitiator (fun _ => rfl) (fun _ => rfl) (fun _ => rfl)
  | searchUser query => exact fires_handleSearchUser (fun _ => rfl) rfl
  | registerPushToken token platform => exact fires_handleRegisterPush config token
  | backgroundPush sinceCursor => exact unfailing_handleBackgroundPush sinceCursor
  | keychainResult key data =>
      by_cases same : key = "orchestrator_state"
      · subst same
        exact fires_handleKeychainResult (fun _ => rfl) config data
      · exact fires_otherKeychainResult same config data
  | _ => exact uses_pure ()

omit [Prost] in
theorem select_unpaced {refreshArmed : Bool} :
    KeepsUnpaced config (perform (.select refreshArmed) : EngineM Core Branch) := unpaced_op rfl

theorem eventLoopTurn_unpaced (refreshArmed : Bool) :
    KeepsUnpaced config (eventLoopTurn config refreshArmed : EngineM Core (Bool ⊕ Unit)) := by
  refine eventLoopTurn_branches (fun _ => Unpaced) unpaced_stable
    (fun armed => unpaced_fires (updateRefreshTimer_fires armed)) (fun _ state now => select_unpaced state now)
    ?_ ?_
    (fun event state now => unpaced_fires (unfailing_handleEvent event) state now)
    (fun frame state now => unpaced_fires (unfailing_handleIncomingFrame frame) state now)
    (fun _ now => now.elim id id) refreshArmed
  · intro state now
    refine keeps_bind (unpaced_op rfl) (fun due => ?_) state now
    cases due with
    | none => exact unpaced_done ()
    | some due =>
        exact unpaced_fires (fires_handleRefreshToken (by rfl) (fun _ => by rfl) (by rfl) (fun _ _ _ => by rfl)
          config due.refreshToken)
  · intro state now
    unfold handleConnectedChange
    refine keeps_bind (unpaced_op rfl) (fun connected => ?_) state now
    split
    · exact unpaced_done ()
    · exact keeps_bind (unpaced_action rfl) fun _ => keeps_bind (unpaced_op rfl) fun _ =>
        keeps_bind ensureConnected_unpaced fun _ =>
        unpaced_fires (fires_resubscribe rfl fun _ => rfl)

/-- At the start nothing is reported, and the failure to create the transport ends the loop. -/
def Unreported (state : World Core × Nat) : Prop := state.1.engine.log = [] ∧ state.2 ≤ state.1.net.clock

omit [Prost] in
theorem unreported_stable : Stable (pacePromise Core config) Unreported :=
  pace_stable (· = []) id monotone_id

/-- From the failure of the transport or from the first connection on, every attempt is paced. -/
theorem eventLoop_paced {state : World Core × Nat} (now : Unreported state) :
    Holds (pacePromise Core config) (paceGuard Core config) (eventLoop config : EngineM Core Unit)
      (fun _ _ => True) state := by
  refine holds_perform Unreported unreported_stable (fun _ _ => trivial)
    (fun before choice started after now _ answered => ?_) now
  have unreported : Unreported after := by
    obtain ⟨done, written⟩ := monitored_exec answered
    obtain ⟨world, later⟩ := after
    cases done
    cases written
    exact now
  rcases started with error | ⟨⟩
  -- This report is the last action, so the row of failures that it starts is never read.
  · refine holds_perform Unreported unreported_stable (fun _ now => ⟨error, .inr ⟨now.1, rfl⟩⟩)
      (fun _ _ _ _ _ _ _ => ?_) unreported
    exact holds_ask (fun _ => True) stable_true (fun _ _ => trivial)
      (fun _ _ _ _ _ _ _ => holds_done stable_true trivial) trivial
  · have unpaced : Unpaced after := ⟨by rw [unreported.1]; rfl, unreported.2⟩
    refine Holds.weaken (keeps_bind ensureConnected_unpaced (fun _ => keeps_bind (unpaced_op rfl) fun _ =>
      keeps_bind (keeps_iterate unpaced_stable eventLoopTurn_unpaced false) fun _ => unpaced_op rfl) after unpaced)
      fun _ _ _ => trivial

/-- The engine waits longer after each failed attempt: in every run, whatever the environment does, each
report of a failed attempt announces the delay that its place in the row of failures decides, and no
attempt to connect begins before the announced delay is over. -/
theorem attempts_paced {engine : Engine Core} (created : Engine.new config = .ok engine)
    {world : World Core} {ends : Nat} {later : EngineM Core Unit}
    (reached : Reaches (pacePromise Core config) ((startWorld engine, 0), eventLoop config)
      ((world, ends), later)) :
    (∀ message next, later = .ask (.onAction (.networkError message)) next →
        Announces world.engine.log message) ∧
      ∀ next, later = .ask .connectBegin next → ends ≤ world.net.clock := by
  obtain ⟨core, rfl⟩ := Engine.new_fresh created
  have guarded := (eventLoop_paced ⟨rfl, Nat.zero_le _⟩ _ _ reached).1
  exact ⟨fun message next asked => guarded Unit _ next asked, fun next asked => guarded Unit _ next asked⟩

end

/-- One attempt fails, and its delay passes. -/
def failedRound (millis : Nat) : List (paceMachine RehearsalCore (rehearsalConfig [] none)).Input :=
  [.answer ({} : Choice), .answer { connect := { quicConnect := .error .handshakeTimedOut } : Choice },
    .answer ({} : Choice), .answer ({} : Choice), .move (Move.tick millis), .answer ({} : Choice),
    .answer ({} : Choice)]

/-- Two attempts fail, and the third one is about to begin. -/
def thirdAttempt : (paceMachine RehearsalCore (rehearsalConfig [] none)).Configuration Unit :=
  run ((startWorld (Engine.fresh (rehearsalConfig [] none) none), 0), eventLoop (rehearsalConfig [] none))
    ([.answer ({} : Choice), .answer ({} : Choice)] ++ failedRound 1000 ++ failedRound 2000)

theorem attempts_paced_third :
    (∃ next, thirdAttempt.2 = .ask .connectBegin next) ∧ thirdAttempt.1.2 = 3000 ∧
      thirdAttempt.1.2 ≤ thirdAttempt.1.1.net.clock :=
  ⟨⟨_, rfl⟩, by decide +kernel, (attempts_paced (rehearsal_without_core none)
    (run_reaches (allAllowed_any _ _))).2 _ rfl⟩

end ConstructEngine
