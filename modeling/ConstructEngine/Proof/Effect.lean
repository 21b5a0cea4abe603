import ConstructEngine.Construction.Operation

namespace ConstructEngine

variable {Core : Type} [ConstructCore Core] {config : EngineConfig} {choice : Choice}
  {world after : World Core}

section
-- The equations of `exec` are derived here, once for all lemmas about its operations.
attribute [local simp] exec

/-- A frame is refused by a closed queue, or it joins the queue of a running pump. -/
theorem sendFrame_effect {site : SendSite} {handle : BiDiStreamHandle} {frame : Bytes}
    {value : Except EngineError Unit}
    (answered : exec config (.sendFrame site handle frame) choice world = some (value, after)) :
    value = .error (.transport "MessageStream send channel closed") ∧
        after = { world with engine := world.engine.record (.sent site handle frame false) } ∨
      ∃ pump, world.net.pumps[handle.pump]? = some pump ∧ pump.isEnded = false ∧
        pump.outgoing.length < outgoingChannelDepth ∧ value = .ok () ∧
        after = ⟨world.engine.record (.sent site handle frame true),
          world.net.updatePump handle.pump { pump with outgoing := pump.outgoing ++ [frame] }⟩ := by
  simp only [exec, sendFrameStep] at answered
  split at answered
  · cases answered
    exact .inl ⟨rfl, rfl⟩
  next pump found =>
    split at answered
    · cases answered
      exact .inl ⟨rfl, rfl⟩
    next running =>
      split at answered <;> cases answered
      next room => exact .inr ⟨pump, found, by simpa using running, room, rfl, rfl⟩

/-- The loop takes up the timer, a change of the watch, an event, a frame or a change of the token,
in this order. -/
theorem select_effect {refreshArmed : Bool} {branch : Branch}
    (answered : exec config (.select refreshArmed) choice world = some (branch, after)) :
    (branch = .refresh ∧ refreshArmed = true ∧
        after = { world with engine := world.engine.record (.refreshDue world.net.clock) }) ∨
      (branch = .changed ∧ world.engine.connectedSeen ≠ world.net.connected.version ∧
        after = { world with engine :=
          { world.engine with connectedSeen := world.net.connected.version } }) ∨
      world.engine.connectedSeen = world.net.connected.version ∧
        ((∃ event rest, world.net.events = event :: rest ∧ branch = .event (some event) ∧
            after = ⟨world.engine.record (.event event), { world.net with events := rest }⟩) ∨
          world.net.events = [] ∧
            ((∃ frame rest, world.net.frames = frame :: rest ∧ branch = .frame frame.frame ∧
                after = ⟨world.engine.record (.frame frame.frame),
                  { world.net with frames := rest }⟩) ∨
              world.net.frames = [] ∧ branch = .tokenChanged ∧
                after = { world with engine :=
                  { world.engine with tokenSeen := world.engine.tokenState.version } })) := by
  simp only [exec, selectBranch] at answered
  split at answered
  next due =>
    cases answered
    exact .inl ⟨rfl, due.1, rfl⟩
  split at answered
  next unseen =>
    cases answered
    exact .inr (.inl ⟨rfl, unseen, rfl⟩)
  next seen =>
    refine .inr (.inr ⟨Decidable.of_not_not seen, ?_⟩)
    split at answered
    next _ _ event rest queued =>
      cases answered
      exact .inl ⟨event, rest, queued, rfl, rfl⟩
    next _ _ frame rest empty queued =>
      cases answered
      exact .inr ⟨empty, .inl ⟨frame, rest, queued, rfl, rfl⟩⟩
    next _ _ empty nothing =>
      split at answered <;> cases answered
      exact .inr ⟨empty, .inr ⟨nothing, rfl, rfl⟩⟩

theorem sleepUntil_effect {deadline : Nat} {value : Unit}
    (answered : exec config (.sleepUntil deadline) choice world = some (value, after)) :
    after = world := by
  simp at answered
  exact answered.2.symm

/-- The four uses of the stored subscription wait for its mutex. -/
theorem paramsRead_effect {value : Option StreamParams}
    (answered : exec config .paramsRead choice world = some (value, after)) :
    world.engine.paramsHeld = false ∧ value = world.engine.streamParams ∧ after = world := by
  simp only [exec] at answered
  split at answered <;> cases answered
  next free => exact ⟨Bool.eq_false_iff.mpr free, rfl, rfl⟩

theorem paramsWrite_effect {params : StreamParams} {value : Unit}
    (answered : exec config (.paramsWrite params) choice world = some (value, after)) :
    world.engine.paramsHeld = false ∧
      after = { world with engine := { world.engine with streamParams := some params } } := by
  simp only [exec] at answered
  split at answered <;> cases answered
  next free => exact ⟨Bool.eq_false_iff.mpr free, rfl⟩

theorem paramsCursor_effect {cursor : String} {value : Unit}
    (answered : exec config (.paramsCursor cursor) choice world = some (value, after)) :
    world.engine.paramsHeld = false ∧ after = { world with engine := { world.engine with
      streamParams := world.engine.streamParams.map fun params =>
        { params with lastCursor := some cursor } } } := by
  simp only [exec] at answered
  split at answered <;> cases answered
  next free => exact ⟨Bool.eq_false_iff.mpr free, rfl⟩

theorem paramsLock_effect {value : Option StreamParams}
    (answered : exec config .paramsLock choice world = some (value, after)) :
    world.engine.paramsHeld = false ∧ value = world.engine.streamParams ∧
      after = { world with engine := { world.engine with paramsHeld := true } } := by
  simp only [exec] at answered
  split at answered <;> cases answered
  next free => exact ⟨Bool.eq_false_iff.mpr free, rfl, rfl⟩

theorem tokenHasChanged_effect {value : Option (Option TokenRefreshState)}
    (answered : exec config .tokenHasChanged choice world = some (value, after)) :
    ∃ tokenSeen, after = { world with engine := { world.engine with tokenSeen } } := by
  simp only [exec] at answered
  split at answered <;> cases answered <;> exact ⟨_, rfl⟩

/-- A failed attempt leaves the connections alone, and a successful one starts a driver. -/
theorem quicConnect_effect {value : Except EngineError Nat}
    (answered : exec config .quicConnect choice world = some (value, after)) :
    (∃ error, choice.connect.result config = .error error ∧ value = .error error ∧
        after = { world with engine := { world.engine with phase := .idle } }) ∨
      value = .ok world.net.nextConn ∧
        after = ⟨{ world.engine with phase := .spawned }, { world.net with
          nextConn := world.net.nextConn + 1
          drivers := world.net.nextConn :: world.net.drivers }⟩ := by
  simp only [exec] at answered
  split at answered
  next error failed =>
    cases answered
    exact .inl ⟨error, failed, rfl, rfl⟩
  next =>
    cases answered
    exact .inr ⟨rfl, rfl⟩

/-- Only an accepted subscription leaves a trace. -/
theorem openExchange_effect {conn : Nat} {token sinceCursor : Option String}
    {conversationIds : List String} {requestId : String} {value : Except EngineError Unit}
    (answered : exec config (.openExchange conn token conversationIds sinceCursor requestId) choice
      world = some (value, after)) :
    after = world ∨ after = { world with
      engine := world.engine.record (.subscribed conversationIds sinceCursor) } := by
  simp only [exec] at answered
  split at answered <;> cases answered
  · exact .inl rfl
  · exact .inr rfl

end

omit [ConstructCore Core] in
/-- A dropped handle touches its pump alone. -/
theorem dropHandle_effect (net : Net) (stream : Option BiDiStreamHandle) :
    ∃ pumps, net.dropHandle stream = { net with pumps } := by
  unfold Net.dropHandle
  split
  · exact ⟨_, rfl⟩
  · split
    · exact ⟨_, rfl⟩
    · exact ⟨_, rfl⟩

/-- These are the cells of the engine, apart from its trace. -/
inductive Cell where
  | core
  | h3
  | phase
  | token
  | stream
  | streamParams
  | paramsHeld
  | tokenState
  | tokenSeen
  | connectedSeen
  | deadline

/-- The operation can write this cell. -/
def Op.writes : {A : Type} → Op Core A → Cell → Bool
  | _, .core _, .core => true
  | _, .h3Store .., .h3 | _, .h3Drop, .h3 => true
  | _, .connectBegin, .phase | _, .quicConnect, .phase | _, .connectedSend, .phase => true
  | _, .tokenWrite _, .token => true
  | _, .streamWrite _, .stream => true
  | _, .paramsWrite _, .streamParams | _, .paramsCursor _, .streamParams => true
  | _, .paramsLock, .paramsHeld | _, .paramsUnlock, .paramsHeld => true
  | _, .tokenStateSend _, .tokenState => true
  | _, .tokenSubscribe, .tokenSeen | _, .tokenHasChanged, .tokenSeen | _, .select _, .tokenSeen => true
  | _, .select _, .connectedSeen => true
  | _, .refreshReset _, .deadline => true
  | _, _, _ => false

/-- Every cell that the operation cannot write is the same. -/
structure Op.Frame {A : Type} (op : Op Core A) (before after : Engine Core) : Prop where
  core : op.writes .core = false → after.core = before.core
  h3 : op.writes .h3 = false → after.h3 = before.h3
  phase : op.writes .phase = false → after.phase = before.phase
  token : op.writes .token = false → after.token = before.token
  stream : op.writes .stream = false → after.stream = before.stream
  streamParams : op.writes .streamParams = false → after.streamParams = before.streamParams
  paramsHeld : op.writes .paramsHeld = false → after.paramsHeld = before.paramsHeld
  tokenState : op.writes .tokenState = false → after.tokenState = before.tokenState
  tokenSeen : op.writes .tokenSeen = false → after.tokenSeen = before.tokenSeen
  connectedSeen : op.writes .connectedSeen = false → after.connectedSeen = before.connectedSeen
  deadline : op.writes .deadline = false → after.deadline = before.deadline

omit [ConstructCore Core] in
/-- What an operation adds to the trace touches no cell. -/
theorem Op.Frame.traced {A : Type} (op : Op Core A) {before after : Engine Core} {log : List Event}
    (same : after = { before with log }) : op.Frame before after := by
  subst same
  constructor <;> exact fun _ => rfl

/-- An operation writes only its own cells. -/
theorem exec_frame {A : Type} {op : Op Core A} {value : A}
    (answered : exec config op choice world = some (value, after)) : op.Frame world.engine after.engine := by
  cases op with
  | sendFrame site handle frame =>
      obtain ⟨-, rfl⟩ | ⟨pump, -, -, -, -, rfl⟩ := sendFrame_effect answered <;> exact .traced _ rfl
  | quicConnect =>
      obtain ⟨error, -, -, rfl⟩ | ⟨-, rfl⟩ := quicConnect_effect answered <;>
        constructor <;> first | exact fun _ => rfl | exact nofun
  | openExchange =>
      obtain rfl | rfl := openExchange_effect answered <;> exact .traced _ rfl
  | paramsRead =>
      obtain ⟨-, -, rfl⟩ := paramsRead_effect answered
      exact .traced _ rfl
  | paramsWrite params =>
      obtain ⟨-, rfl⟩ := paramsWrite_effect answered
      constructor <;> first | exact fun _ => rfl | exact nofun
  | paramsCursor cursor =>
      obtain ⟨-, rfl⟩ := paramsCursor_effect answered
      constructor <;> first | exact fun _ => rfl | exact nofun
  | paramsLock =>
      obtain ⟨-, -, rfl⟩ := paramsLock_effect answered
      constructor <;> first | exact fun _ => rfl | exact nofun
  | sleepUntil deadline =>
      obtain rfl := sleepUntil_effect answered
      exact .traced _ rfl
  | tokenHasChanged =>
      obtain ⟨tokenSeen, rfl⟩ := tokenHasChanged_effect answered
      constructor <;> first | exact fun _ => rfl | exact nofun
  | select refreshArmed =>
      obtain ⟨-, -, rfl⟩ | ⟨-, -, rfl⟩ | ⟨-, ⟨event, rest, -, -, rfl⟩ | ⟨-, ⟨frame, rest, -, -, rfl⟩ |
        ⟨-, -, rfl⟩⟩⟩ := select_effect answered <;>
        constructor <;> first | exact fun _ => rfl | exact nofun
  | _ => cases answered; constructor <;> first | exact fun _ => rfl | exact nofun

/-- These are the parts of the surroundings that the engine can change. -/
inductive Surrounding where
  | drivers
  | connected
  | pumps
  | events
  | frames
  | retries
  | receiver

def Op.disturbs : {A : Type} → Op Core A → Surrounding → Bool
  | _, .quicConnect, .drivers => true
  | _, .connectedSend, .connected => true
  | _, .spawnPump _, .pumps | _, .streamWrite _, .pumps | _, .sendFrame .., .pumps => true
  | _, .select _, .events | _, .rxDrop, .events => true
  | _, .select _, .frames => true
  | _, .spawnRetry .., .retries => true
  | _, .rxDrop, .receiver => true
  | _, _, _ => false

/-- Every part of the surroundings that the operation cannot change is the same. -/
structure Op.Surrounds {A : Type} (op : Op Core A) (before after : Net) : Prop where
  drivers : op.disturbs .drivers = false → after.drivers = before.drivers
  nextConn : op.disturbs .drivers = false → after.nextConn = before.nextConn
  connected : op.disturbs .connected = false → after.connected = before.connected
  pumps : op.disturbs .pumps = false → after.pumps = before.pumps
  events : op.disturbs .events = false → after.events = before.events
  frames : op.disturbs .frames = false → after.frames = before.frames
  dispatched : after.dispatched = before.dispatched
  retries : op.disturbs .retries = false → after.retries = before.retries
  clock : after.clock = before.clock
  rxAlive : op.disturbs .receiver = false → after.rxAlive = before.rxAlive

omit [ConstructCore Core] in
theorem Op.Surrounds.same {A : Type} (op : Op Core A) (net : Net) : op.Surrounds net net := by
  constructor <;> first | rfl | exact fun _ => rfl

/-- The engine changes its surroundings only by the operations that are made for it. -/
theorem exec_surrounds {A : Type} {op : Op Core A} {value : A}
    (answered : exec config op choice world = some (value, after)) : op.Surrounds world.net after.net := by
  cases op with
  | streamWrite stream =>
      cases answered
      obtain ⟨pumps, dropped⟩ := dropHandle_effect world.net world.engine.stream
      rw [dropped]
      constructor <;> first | rfl | exact fun _ => rfl | exact nofun
  | sendFrame site handle frame =>
      obtain ⟨-, rfl⟩ | ⟨pump, -, -, -, -, rfl⟩ := sendFrame_effect answered
      · exact .same _ _
      · constructor <;> first | rfl | exact fun _ => rfl | exact nofun
  | quicConnect =>
      obtain ⟨error, -, -, rfl⟩ | ⟨-, rfl⟩ := quicConnect_effect answered
      · exact .same _ _
      · constructor <;> first | rfl | exact fun _ => rfl | exact nofun
  | openExchange =>
      obtain rfl | rfl := openExchange_effect answered <;> exact .same _ _
  | paramsRead =>
      obtain ⟨-, -, rfl⟩ := paramsRead_effect answered
      exact .same _ _
  | paramsWrite params =>
      obtain ⟨-, rfl⟩ := paramsWrite_effect answered
      exact .same _ _
  | paramsCursor cursor =>
      obtain ⟨-, rfl⟩ := paramsCursor_effect answered
      exact .same _ _
  | paramsLock =>
      obtain ⟨-, -, rfl⟩ := paramsLock_effect answered
      exact .same _ _
  | sleepUntil deadline =>
      obtain rfl := sleepUntil_effect answered
      exact .same _ _
  | tokenHasChanged =>
      obtain ⟨tokenSeen, rfl⟩ := tokenHasChanged_effect answered
      exact .same _ _
  | select refreshArmed =>
      obtain ⟨-, -, rfl⟩ | ⟨-, -, rfl⟩ | ⟨-, ⟨event, rest, -, -, rfl⟩ | ⟨-, ⟨frame, rest, -, -, rfl⟩ |
        ⟨-, -, rfl⟩⟩⟩ := select_effect answered <;>
        constructor <;> first | rfl | exact fun _ => rfl | exact nofun
  | _ => cases answered; constructor <;> first | rfl | exact fun _ => rfl | exact nofun

end ConstructEngine
