import ConstructEngine.Proof.Turn

namespace ConstructEngine

open Interaction Program Machine

variable {Core A : Type}

/-- The refresh timer depends on this part of the engine. -/
structure Timer where
  tokenState : Watch (Option TokenRefreshState)
  tokenSeen : Nat
  deadline : Nat

/-- This is the part of the engine that the timer reads. -/
def Engine.timer (engine : Engine Core) : Timer :=
  ⟨engine.tokenState, engine.tokenSeen, engine.deadline⟩

/-- An operation of this topic can only publish another token state. -/
def Timer.Handled (topic : Topic) (timer after : Timer) : Prop :=
  after = timer ∨ topic = .token ∧ ∃ state, after = { timer with tokenState := timer.tokenState.send state }

/-- The loop has taken note of the current token state, and the facts hold, or a change waits for
the loop. -/
def Timer.Noted (facts : Timer → Prop) (timer : Timer) : Prop :=
  timer.tokenSeen ≤ timer.tokenState.version ∧
    (timer.tokenSeen = timer.tokenState.version → facts timer)

theorem Timer.Noted.handled {facts : Timer → Prop} {timer after : Timer} {topic : Topic}
    (noted : timer.Noted facts) (handled : timer.Handled topic after) : after.Noted facts := by
  rcases handled with rfl | ⟨-, state, rfl⟩
  · exact noted
  · have seen : timer.tokenSeen ≤ timer.tokenState.version := noted.1
    refine ⟨Nat.le_succ_of_le seen, fun same => ?_⟩
    have same : timer.tokenSeen = timer.tokenState.version + 1 := same
    omega

/-- A sent state waits for the loop, whatever the facts are. -/
theorem Timer.Noted.sent {facts other : Timer → Prop} {timer : Timer} (noted : timer.Noted facts)
    (state : Option TokenRefreshState) :
    Timer.Noted other { timer with tokenState := timer.tokenState.send state } := by
  have seen : timer.tokenSeen ≤ timer.tokenState.version := noted.1
  refine ⟨Nat.le_succ_of_le seen, fun same => ?_⟩
  have same : timer.tokenSeen = timer.tokenState.version + 1 := same
  omega

/-- What is known of the timer may be less. -/
theorem Timer.Noted.mono {facts other : Timer → Prop} {timer : Timer} (noted : timer.Noted facts)
    (implies : facts timer → other timer) : timer.Noted other :=
  ⟨noted.1, fun same => implies (noted.2 same)⟩

/-- Only the loop itself looks at changes of the token state and moves the deadline. -/
def Op.steers : {A : Type} → Op Core A → Bool
  | _, .tokenSubscribe | _, .tokenHasChanged | _, .refreshReset _ | _, .select _ => true
  | _, _ => false

theorem steers_of_topic {op : Op Core A} (other : op.topic ≠ .loop) (unselected : op.topic ≠ .selection) :
    op.steers = false := by
  cases op <;> first | rfl | exact absurd rfl other | exact absurd rfl unselected

/-- The topics of everything that a handler does. -/
def Working (topic : Topic) : Prop := topic ≠ .loop ∧ topic ≠ .selection

theorem working_engages {topic : Topic} (engages : Engages Working topic) : Working topic := by
  rcases engages with rfl | rfl | rfl | own
  · simp [Working]
  · simp [Working]
  · simp [Working]
  · exact own

theorem working_topics (event : UiEvent) : ∀ topic ∈ event.topics, Working topic := by
  cases event <;> simp [UiEvent.topics, receiveTopics, keyCountTopics, loginTopics, Working]

theorem currentTask_mem {log : List Event} {event : Event} (task : currentTask log = some event) :
    event ∈ log := (List.mem_filter.mp (List.mem_of_getLast? task)).1

/-- The loop works on a refresh that it began when the timer was due. -/
def timerRuns (log : List Event) : Bool :=
  match currentTask log with
  | some (.refreshDue _) => true
  | _ => false

variable [ConstructCore Core] {config : EngineConfig}

/-- A handler leaves the timer alone or publishes another token state. -/
theorem exec_timer {op : Op Core A} (handles : op.steers = false) {choice : Choice}
    {world after : World Core} {value : A}
    (answered : exec config op choice world = some (value, after)) :
    world.engine.timer.Handled op.topic after.engine.timer := by
  by_cases publishes : op.writes .tokenState = true
  · cases op with
    | tokenStateSend state =>
        cases answered
        exact .inr ⟨rfl, state, rfl⟩
    | _ => cases publishes
  · have apart : op.writes .tokenSeen = false ∧ op.writes .deadline = false := by
      cases op <;> first | exact ⟨rfl, rfl⟩ | cases handles
    have frame := exec_frame answered
    left
    unfold Engine.timer
    rw [frame.tokenState (Bool.eq_false_iff.mpr publishes), frame.tokenSeen apart.1, frame.deadline apart.2]

/-- An operation of a handler does not change what the loop works on. -/
theorem exec_task {op : Op Core A} (unselected : op.topic ≠ .selection) {choice : Choice}
    {world after : World Core} {value : A}
    (answered : exec config op choice world = some (value, after)) :
    currentTask after.engine.log = currentTask world.engine.log := by
  exact exec_unrelated currentTask (by simp) (fun log event => currentTask_snoc log) unselected answered

/-- The timer fires only when its deadline has passed. -/
theorem select_due {refreshArmed : Bool} {choice : Choice} {world after : World Core}
    (answered : exec config (.select refreshArmed) choice world = some (.refresh, after)) :
    refreshArmed = true ∧ world.engine.deadline ≤ world.net.clock ∧
      after = { world with engine := world.engine.record (.refreshDue world.net.clock) } := by
  simp only [exec, selectBranch] at answered
  by_cases due : refreshArmed = true ∧ world.engine.deadline ≤ world.net.clock
  · rw [if_pos due] at answered
    cases answered
    exact ⟨due.1, due.2, rfl⟩
  · rw [if_neg due] at answered
    split at answered
    · cases answered
    · split at answered
      · cases answered
      · cases answered
      · split at answered <;> cases answered

section
variable [Prost] {machine : Machine (Op Core)} {View : Type} {owned : machine.Owned View}
  {promise : machine.Promise} {guard : machine.Guard}

/-- The assertions after a selection depend on the branch: the timer is due, a handler works, or the
loop only looks at the connection or at the timer again. -/
def TimerSelected (resting working due : View → Prop) (branch : Branch) (view : View) : Prop :=
  match branch with
  | .refresh => due view
  | .event _ | .frame _ => working view
  | .changed | .tokenChanged => resting view

/-- The loop keeps an invariant that depends on the armed timer when its own operations do, every
operation of a handler does, and the refresh of a due timer ends with an unarmed one. -/
theorem eventLoop_timer (initial due : View → Prop) (resting working selecting : Bool → View → Prop)
    (boot : ∀ {A : Type} (op : Op Core A) view, op.steers = false → op.topic ≠ .selection →
      op.topic ≠ .token → initial view → owned.Safe promise guard (perform op) (fun _ => initial) view)
    (subscribe : ∀ view, initial view →
      owned.Safe promise guard (perform .tokenSubscribe) (fun _ => resting false) view)
    (timer : ∀ armed view, resting armed view →
      owned.Safe promise guard (updateRefreshTimer armed) selecting view)
    (select : ∀ armed view, selecting armed view → owned.Safe promise guard (perform (.select armed))
      (TimerSelected (resting armed) (working armed) due) view)
    (refresh : ∀ view, due view → owned.Safe promise guard
      (do (← perform .tokenStateRead).forM fun state => handleRefreshToken config state.refreshToken)
      (fun _ => resting false) view)
    (borrow : ∀ armed view, resting armed view →
      owned.Safe promise guard (perform .connectedBorrow) (fun _ => resting armed) view)
    (lost : ∀ armed view, resting armed view → owned.Safe promise guard
      (onAction (.connectionStateChanged false)) (fun _ => working armed) view)
    (work : ∀ {A : Type} armed (op : Op Core A) view, Working op.topic → working armed view →
      owned.Safe promise guard (perform op) (fun _ => working armed) view)
    (rests : ∀ armed view, working armed view → resting armed view)
    (finish : ∀ view, owned.Safe promise guard (perform .rxDrop) (fun _ _ => True) view)
    {state : machine.State} (now : initial (owned.view state)) :
    Holds promise guard (eventLoop config) (fun _ _ => True) state := by
  have booted {A : Type} {program : EngineM Core A} (concerns : Concerns (fun _ => False) program) :
      Keeps promise guard (fun state => initial (owned.view state)) program := by
    refine keeps_of_uses (owned.stable initial) (fun op engages => ?_) concerns
    have basic : Working op.topic ∧ op.topic ≠ .token := by
      rcases engages with same | same | same | ⟨⟨⟩⟩ <;> rw [same] <;> simp [Working]
    exact keeps_owned.mpr fun view now =>
      boot op view (steers_of_topic basic.1.1 basic.1.2) basic.1.2 basic.2 now
  have handler {A : Type} (armed : Bool) {program : EngineM Core A} (concerns : Concerns Working program)
      {view : View} (now : working armed view) :
      owned.Safe promise guard program (fun _ => resting armed) view := by
    have kept : Keeps promise guard (fun state => working armed (owned.view state)) program :=
      keeps_of_uses (owned.stable (working armed)) (fun op engages => keeps_owned.mpr fun view now =>
        work armed op view (working_engages engages) now) concerns
    exact (keeps_owned.mp kept view now).weaken fun _ => rests armed
  have frames (received : Bytes) : Concerns Working (handleIncomingFrame received : EngineM Core Unit) :=
    concerns_mono (built_frame received).concerns (by simp [receiveTopics, Working])
  have turn (armed : Bool) (view : View) (now : resting armed view) :
      owned.Safe promise guard (eventLoopTurn config armed) (fun outcome after => outcome.elim
        (fun again => resting again after) fun _ => True) view := by
    have again {program : EngineM Core Unit} {view : View} (armed : Bool)
        (safe : owned.Safe promise guard program (fun _ => resting armed) view) :
        owned.Safe promise guard (do program; return (.inl armed : Bool ⊕ Unit)) (fun outcome after =>
          outcome.elim (fun again => resting again after) fun _ => True) view :=
      safe.andThen fun _ after rested => Owned.safe_done rested
    unfold eventLoopTurn
    refine (timer armed view now).andThen fun armed middle ready => ?_
    refine (select armed middle ready).andThen fun branch after taken => ?_
    cases branch with
    | refresh => exact again false (refresh after taken)
    | changed =>
        refine again armed ?_
        unfold handleConnectedChange
        refine (borrow armed after taken).andThen fun connected last rested => ?_
        split
        · exact Owned.safe_done rested
        · exact (lost armed last rested).andThen fun _ next =>
            handler armed (concerns_mono concerns_reconnect (by simp [Working]))
    | event event =>
        cases event with
        | none => exact Owned.safe_done trivial
        | some ui =>
            exact again armed (handler armed (built_handleEvent config ui (working_topics ui)).concerns taken)
    | frame received => exact again armed (handler armed (frames received) taken)
    | tokenChanged => exact Owned.safe_done taken
  have looped (view : View) (now : resting false view) : owned.Safe promise guard
      (iterate (eventLoopTurn config) false) (fun _ _ => True) view := fun state same =>
    holds_iterate (fun armed state => resting armed (owned.view state))
      (fun armed => owned.stable (resting armed)) (fun armed state now => turn armed _ now state rfl)
      (fun _ => stable_true) (same ▸ now)
  have whole : owned.Safe promise guard (eventLoop config) (fun _ _ => True) (owned.view state) := by
    unfold eventLoop
    refine (boot _ _ rfl (by simp [Op.topic]) (by simp [Op.topic]) now).andThen fun started view now => ?_
    rcases started with error | ⟨⟩
    · refine (boot (.onAction _) view rfl ?_ ?_ now).andThen fun _ after _ => finish after <;>
        simp [Op.topic, PlatformAction.topic]
    · refine Owned.Safe.andThen (keeps_owned.mp (booted concerns_ensureConnected) view now)
        fun _ view now => ?_
      exact (subscribe view now).andThen fun _ view now =>
        (looped view now).andThen fun _ after _ => finish after
  exact whole state rfl

end

end ConstructEngine
