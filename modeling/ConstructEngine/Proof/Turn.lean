import ConstructEngine.Proof.Topics
import ConstructEngine.Proof.Trail

namespace ConstructEngine

open Interaction Program Machine

variable {Core A : Type}

/-- An export belongs to the section that makes it, whatever else the section does. -/
def CoreCall.topic : CoreCall → Topic
  | .encrypt .. | .initSession .. => .sealing
  | .decrypt .. | .initReceivingSession .. => .opening
  | .exportState _ => .reading
  | .importState .. | .initCore _ => .replacing
  | .generateOtpks .. | .rotateSpk _ => .keeping
  | .enqueueHeal .. | .recordHealAttempt .. | .clearHealRecord _ => .healing

/-- An event has the topic of the operations that record it. -/
def Event.topic : Event → Topic
  | .action reported => reported.topic
  | .core call => call.topic
  | .rpc servicePath _ _ => .rpc servicePath
  | .subscribed .. => .subscription
  | .sent site .. => .sending site
  | .handling .. => .handling
  | .refreshDue _ | .event _ | .frame _ => .selection
  | .refreshScheduled .. => .loop

/-- The calls of the core have these topics. -/
theorem call_topic (call : CoreCall) : call.topic = .sealing ∨ call.topic = .opening ∨
    call.topic = .reading ∨ call.topic = .replacing ∨ call.topic = .keeping ∨
    call.topic = .healing := by
  cases call <;> simp [CoreCall.topic]

/-- The actions have these topics. -/
theorem action_topic (action : PlatformAction) : action.topic = .login ∨ action.topic = .session ∨
    action.topic = .report ∨
    (action.topic = .status ∧ ∃ localId status, action = .updateMessageStatus localId status) ∨
    action.topic = .selection ∧ action = .connectionStateChanged false := by
  unfold PlatformAction.topic
  split <;> simp

/-- Only the update of a status reports one. -/
theorem topic_status {event : Event} (status : event.topic = .status) :
    ∃ localId code, event = .action (.updateMessageStatus localId code) := by
  cases event with
  | action reported =>
      have same : reported.topic = .status := status
      have known := action_topic reported
      simp only [same, reduceCtorEq, false_or, true_and, false_and, or_false] at known
      obtain ⟨localId, code, rfl⟩ := known
      exact ⟨localId, code, rfl⟩
  | core call =>
      have same : call.topic = .status := status
      simpa [same] using call_topic call
  | _ => cases status

/-- Only a frame that is handed over is sent. -/
theorem topic_sending {event : Event} {site : SendSite} (sending : event.topic = .sending site) :
    ∃ handle frame accepted, event = .sent site handle frame accepted := by
  cases event with
  | sent => cases sending; exact ⟨_, _, _, rfl⟩
  | action reported =>
      have same : reported.topic = .sending site := sending
      simpa [same] using action_topic reported
  | core call =>
      have same : call.topic = .sending site := sending
      simpa [same] using call_topic call
  | _ => cases sending

/-- These events mark a new task. -/
theorem topic_selection {event : Event} (selection : event.topic = .selection) :
    (∃ clock, event = .refreshDue clock) ∨ (∃ ui, event = .event ui) ∨
      (∃ frame, event = .frame frame) ∨ event = .action (.connectionStateChanged false) := by
  cases event with
  | refreshDue clock => exact .inl ⟨clock, rfl⟩
  | event ui => exact .inr (.inl ⟨ui, rfl⟩)
  | frame frame => exact .inr (.inr (.inl ⟨frame, rfl⟩))
  | action reported =>
      have same : reported.topic = .selection := selection
      have known := action_topic reported
      simp only [same, reduceCtorEq, false_or, true_and, false_and] at known
      exact .inr (.inr (.inr (congrArg Event.action known)))
  | core call =>
      have same : call.topic = .selection := selection
      simpa [same] using call_topic call
  | _ => cases selection

/-- A mark shows what the loop works on: an event, a frame, a due refresh or a lost connection. -/
def Event.isMark (event : Event) : Bool := event.topic = .selection

/-- The last mark is the task in hand. -/
def currentTask (log : List Event) : Option Event := (log.filter Event.isMark).getLast?

/-- A mark begins a task. -/
theorem currentTask_mark (log : List Event) {event : Event} (mark : event.topic = .selection) :
    currentTask (log ++ [event]) = some event := by
  simp [currentTask, Event.isMark, mark]

/-- Without a mark the task goes on. -/
theorem currentTask_snoc (log : List Event) {event : Event} (other : event.topic ≠ .selection) :
    currentTask (log ++ [event]) = currentTask log := by
  simp [currentTask, Event.isMark, other]

/-- The calls of a section belong to the task in hand. -/
theorem currentTask_calls (log : List Event) (calls : List CoreCall) :
    currentTask (log ++ calls.map .core) = currentTask log := by
  induction calls using List.reverseRecOn with
  | nil => simp
  | append_singleton front last ih =>
      rw [List.map_append, ← List.append_assoc, List.map_singleton, currentTask_snoc, ih]
      intro same
      have same : last.topic = .selection := same
      simpa [same] using call_topic last

/-- The event is an export or has this topic. -/
def Event.About (topic : Topic) (event : Event) : Prop := event.topic = .reading ∨ event.topic = topic

namespace CoreSection

open LockedM

/-- The calls of a section have its topic, apart from exports. -/
theorem run_topic [ConstructCore Core] (region : CoreSection Core A) (core : Option Core) :
    ∀ call ∈ (region.run core).2.2, call.topic = .reading ∨ call.topic = region.topic := by
  have exported (topic : Topic) : Calls (fun call => call.topic = .reading ∨ call.topic = topic)
      (exportOrchestratorStateCfe : LockedM Core (Except String Bytes)) :=
    calls_one (fun _ _ => rfl) fun _ => .inl rfl
  have sealing (contactId : String) (plaintext : Bytes) :
      Calls (fun call => call.topic = .reading ∨ call.topic = .sealing)
        (encryptBytesFor contactId plaintext : LockedM Core (Except String Bytes)) :=
    calls_one (fun _ _ => rfl) fun _ => .inr rfl
  have opening (senderId : String) (wirePayload : Bytes) :
      Calls (fun call => call.topic = .reading ∨ call.topic = .opening)
        (decryptBytesFor senderId wirePayload : LockedM Core (Except String Bytes)) :=
    calls_one (fun _ _ => rfl) fun _ => .inr rfl
  cases region with
  | receiveAndExport senderId bundle first =>
      refine calls_locked (calls_bind (calls_one (fun _ _ => rfl) fun _ => .inr rfl) fun answer => ?_)
        core _
      rcases answer with message | ⟨sessionId, plaintext⟩
      · exact calls_pure _
      · exact calls_bind (exported _) fun _ => calls_pure _
  | decryptAndExport senderId wirePayload =>
      refine calls_locked (calls_bind (opening _ _) fun answer => ?_) core _
      rcases answer with message | plaintext
      · exact calls_pure _
      · exact calls_bind (exported _) fun _ => calls_pure _
  | decrypt senderId wirePayload =>
      refine calls_locked (calls_bind (opening _ _) fun answer => ?_) core _
      rcases answer with message | plaintext <;> exact calls_pure _
  | encryptAndExport contactId plaintext =>
      refine calls_locked (calls_bind (sealing _ _) fun answer => ?_) core _
      rcases answer with message | wirePayload
      · exact calls_pure _
      · exact calls_bind (exported _) fun _ => calls_pure _
  | initiateAndExport contactId bundle kyber =>
      refine calls_locked (calls_bind (calls_one (fun _ _ => rfl) fun _ => .inr rfl) fun answer => ?_)
        core _
      rcases answer with message | ⟨⟩
      · exact calls_pure _
      refine calls_bind (sealing _ _) fun answer => ?_
      rcases answer with message | wirePayload
      · exact calls_pure _
      · exact calls_bind (exported _) fun _ => calls_pure _
  | exportState =>
      refine calls_locked (calls_bind (exported _) fun answer => ?_) core _
      rcases answer with message | state <;> exact calls_pure _
  | restore blob =>
      refine calls_locked (calls_bind (calls_one (fun _ _ => rfl) fun _ => .inr rfl) fun answer => ?_)
        core _
      rcases answer with message | ⟨⟩
      · exact calls_pure _
      · exact fun _ _ => ⟨[], (List.append_nil _).symm, nofun⟩
  | replace core => exact fun call member => by cases List.mem_singleton.mp member; exact .inr rfl
  | registrationKeys =>
      refine calls_locked (calls_bind ?_ fun answer => ?_) core _
      · exact fun _ _ => ⟨[], (List.append_nil _).symm, nofun⟩
      rcases answer with message | bundle <;> exact calls_pure _
  | generateAndExport count =>
      refine calls_locked (calls_bind (calls_one (fun _ _ => rfl) fun _ => .inr rfl) fun answer => ?_)
        core _
      rcases answer with message | pairs
      · exact calls_pure _
      refine calls_bind (exported _) fun answer => ?_
      rcases answer with message | state <;> exact calls_pure _
  | rotateAndExport =>
      refine calls_locked (calls_bind (calls_one (fun _ _ => rfl) fun _ => .inr rfl) fun answer => ?_)
        core _
      rcases answer with message | ⟨keyId, publicKey, signature⟩
      · exact calls_pure _
      refine calls_bind (exported _) fun answer => ?_
      rcases answer with message | state <;> exact calls_pure _
  | heal senderId wirePayload =>
      exact calls_locked (calls_bind (calls_one (fun _ _ => rfl) fun _ => .inr rfl) fun _ =>
        calls_one (fun _ _ => rfl) fun _ => .inr rfl) core _
  | clearHeal senderId =>
      exact calls_locked (calls_one (fun _ _ => rfl) fun _ => .inr rfl) core _

end CoreSection

variable [ConstructCore Core] {config : EngineConfig}
  {promise : (engineMachine Core config).Promise} {guard : (engineMachine Core config).Guard}
  {invariant : Engine Core → Prop}

/-- Keeping a property of the engine is safety from every engine that has it. -/
theorem keeps_engine {program : EngineM Core A} :
    Keeps promise guard (fun world => invariant world.engine) program ↔
      ∀ engine, invariant engine →
        EngineSafe promise guard program (fun _ => invariant) engine := by
  constructor
  · rintro keeps engine now world rfl
    exact keeps world now
  · intro safe world now
    exact safe world.engine now world rfl

/-- No move of the environment touches the engine. -/
theorem stable_engine (invariant : Engine Core → Prop) :
    Stable promise fun world => invariant world.engine :=
  (engineOwned Core config).stable invariant

/-- What the loop takes up at a selection leaves a trace in the engine. -/
def Engine.Selected (engine : Engine Core) (branch : Branch) (after : Engine Core) : Prop :=
  match branch with
  | .refresh => ∃ clock, after = engine.record (.refreshDue clock)
  | .changed => ∃ connectedSeen, after = { engine with connectedSeen }
  | .event (some event) => after = engine.record (.event event)
  | .event none => False
  | .frame frame => after = engine.record (.frame frame)
  | .tokenChanged => ∃ tokenSeen, after = { engine with tokenSeen }

/-- The selection records what it takes up. -/
theorem select_engine {refreshArmed : Bool} {choice : Choice} {world after : World Core}
    {branch : Branch} (answered : exec config (.select refreshArmed) choice world = some (branch, after)) :
    world.engine.Selected branch after.engine := by
  obtain ⟨rfl, -, rfl⟩ | ⟨rfl, -, rfl⟩ | ⟨-, ⟨event, rest, -, rfl, rfl⟩ | ⟨-, ⟨frame, rest, -, rfl, rfl⟩ |
    ⟨-, rfl, rfl⟩⟩⟩ := select_effect answered
  · exact ⟨_, rfl⟩
  · exact ⟨_, rfl⟩
  · rfl
  · rfl
  · exact ⟨_, rfl⟩

/-- A full queue makes the sender wait, so that only a closed one refuses a frame. -/
theorem sendFrame_refused {site : SendSite} {handle : BiDiStreamHandle} {frame : Bytes}
    {choice : Choice} {world after : World Core} {error : EngineError}
    (answered : exec config (.sendFrame site handle frame) choice world = some (.error error, after)) :
    world.net.queueClosed handle = true := by
  simp only [exec, sendFrameStep] at answered
  unfold Net.queueClosed
  split at answered
  next missing => rw [missing]; rfl
  next pump found =>
    rw [found]
    split at answered
    next ended => exact ended
    next =>
      split at answered <;> cases answered

/-- What the promise says about the held stream counts for the handler that looks for it. -/
theorem streamRead_promised {B : Type} {rest : Option BiDiStreamHandle → EngineM Core B}
    {result : B → Engine Core → Prop} {engine : Engine Core} (guarded : ∀ world, guard .streamRead world)
    (later : ∀ world choice, world.engine = engine → promise.answers .streamRead choice world →
      EngineSafe promise guard (rest engine.stream) result engine) :
    EngineSafe promise guard (perform .streamRead >>= rest) result engine := by
  refine Owned.safe_step (fun world _ => guarded world) fun world choice value after same kept answered => ?_
  cases answered
  cases same
  exact later _ choice rfl kept

/-- A frame is refused because the queue is closed, or the queue takes it. -/
theorem sendFrame_outcomes {B : Type} {site : SendSite} {handle : BiDiStreamHandle} {frame : Bytes}
    {rest : Except EngineError Unit → EngineM Core B} {result : B → Engine Core → Prop}
    {engine : Engine Core}
    (guarded : ∀ world, world.engine = engine → guard (.sendFrame site handle frame) world)
    (refused : ∀ world choice, world.engine = engine →
      promise.answers (.sendFrame site handle frame) choice world →
      world.net.queueClosed handle = true →
      EngineSafe promise guard (rest (.error (.transport "MessageStream send channel closed"))) result
        (engine.record (.sent site handle frame false)))
    (accepted : EngineSafe promise guard (rest (.ok ())) result
      (engine.record (.sent site handle frame true))) :
    EngineSafe promise guard (perform (.sendFrame site handle frame) >>= rest) result engine := by
  refine Owned.safe_step guarded fun world choice value after same kept answered => ?_
  have sent : exec config (.sendFrame site handle frame) choice world = some (value, after) := answered
  have same : world.engine = engine := same
  change EngineSafe promise guard (rest value) result after.engine
  have closed (error : EngineError) (failed : value = .error error) :
      world.net.queueClosed handle = true := by
    subst failed
    exact sendFrame_refused sent
  obtain ⟨rfl, rfl⟩ | ⟨pump, -, -, -, rfl, rfl⟩ := sendFrame_effect sent <;> subst same
  · exact refused world choice rfl kept (closed _ rfl)
  · exact accepted

/-- The operation may add this event to the trace. -/
def Op.Traces : {A : Type} → Op Core A → Event → Prop
  | _, .onAction reported, event => event = .action reported
  | _, .core region, event =>
      ∃ call, event = .core call ∧ (call.topic = .reading ∨ call.topic = region.topic)
  | _, .handling path message, event => event = .handling path message
  | _, .exchange _ servicePath request token, event => event = .rpc servicePath request token
  | _, .openExchange _ _ conversationIds sinceCursor _, event =>
      event = .subscribed conversationIds sinceCursor
  | _, .sendFrame site handle frame, event => ∃ accepted, event = .sent site handle frame accepted
  | _, .refreshReset secs, event => ∃ clock, event = .refreshScheduled clock secs
  | _, .select _, event =>
      (∃ clock, event = .refreshDue clock) ∨ (∃ ui, event = .event ui) ∨ ∃ frame, event = .frame frame
  | _, _, _ => False

/-- Only a section of the core adds several events, and all of them are calls. -/
def Brief (more : List Event) : Prop := more.length ≤ 1 ∨ ∀ event ∈ more, ∃ call, event = .core call

/-- An operation records only what it traces, and little of it. -/
theorem exec_traces {op : Op Core A} {choice : Choice} {world after : World Core} {value : A}
    (answered : exec config op choice world = some (value, after)) :
    ∃ more, after.engine.log = world.engine.log ++ more ∧ Brief more ∧
      ∀ event ∈ more, op.Traces event := by
  have still : ∃ more, world.engine.log = world.engine.log ++ more ∧ Brief more ∧
      ∀ event ∈ more, op.Traces event := ⟨[], (List.append_nil _).symm, .inl (Nat.zero_le _), nofun⟩
  have one (event : Event) (traces : op.Traces event) :
      ∃ more, world.engine.log ++ [event] = world.engine.log ++ more ∧ Brief more ∧
        ∀ event ∈ more, op.Traces event :=
    ⟨[event], rfl, .inl (Nat.le_refl _), fun _ member => by rw [List.mem_singleton.mp member]; exact traces⟩
  cases op with
  | onAction action => cases answered; exact one _ rfl
  | core region =>
      cases answered
      have call (event : Event) (member : event ∈ (region.run world.engine.core).2.2.map Event.core) :
          ∃ call, event = .core call ∧ (call.topic = .reading ∨ call.topic = region.topic) := by
        obtain ⟨call, called, rfl⟩ := List.mem_map.mp member
        exact ⟨call, rfl, region.run_topic _ call called⟩
      exact ⟨_, rfl, .inr fun event member => (call event member).imp fun _ known => known.1, call⟩
  | handling path message => cases answered; exact one _ rfl
  | sendFrame site handle frame =>
      obtain ⟨-, rfl⟩ | ⟨pump, -, -, -, -, rfl⟩ := sendFrame_effect answered <;> exact one _ ⟨_, rfl⟩
  | exchange => cases answered; exact one _ rfl
  | refreshReset => cases answered; exact one _ ⟨_, rfl⟩
  | quicConnect =>
      obtain ⟨error, -, -, rfl⟩ | ⟨-, rfl⟩ := quicConnect_effect answered <;> exact still
  | openExchange =>
      obtain rfl | rfl := openExchange_effect answered
      · exact still
      · exact one _ rfl
  | sleepUntil deadline =>
      obtain rfl := sleepUntil_effect answered
      exact still
  | tokenHasChanged =>
      obtain ⟨tokenSeen, rfl⟩ := tokenHasChanged_effect answered
      exact still
  | select refreshArmed =>
      obtain ⟨-, -, rfl⟩ | ⟨-, -, rfl⟩ | ⟨-, ⟨event, rest, -, -, rfl⟩ | ⟨-, ⟨frame, rest, -, -, rfl⟩ |
        ⟨-, -, rfl⟩⟩⟩ := select_effect answered
      · exact one _ (.inl ⟨_, rfl⟩)
      · exact still
      · exact one _ (.inr (.inl ⟨_, rfl⟩))
      · exact one _ (.inr (.inr ⟨_, rfl⟩))
      · exact still
  | paramsRead =>
      obtain ⟨-, -, rfl⟩ := paramsRead_effect answered
      exact still
  | paramsWrite params =>
      obtain ⟨-, rfl⟩ := paramsWrite_effect answered
      exact still
  | paramsCursor cursor =>
      obtain ⟨-, rfl⟩ := paramsCursor_effect answered
      exact still
  | paramsLock =>
      obtain ⟨-, -, rfl⟩ := paramsLock_effect answered
      exact still
  | _ => cases answered; exact still

/-- Only a selection takes something up. -/
def Op.takes : {A : Type} → Op Core A → Bool
  | _, .select _ => true
  | _, _ => false

omit [ConstructCore Core] in
/-- Only a selection takes something up. -/
theorem takes_of_topic {op : Op Core A} (other : op.topic ≠ .selection) : op.takes = false := by
  cases op <;> first | rfl | exact absurd rfl other

omit [ConstructCore Core] in
/-- What records an event has taken it up. -/
theorem takes_of_event {op : Op Core A} {ui : UiEvent} (traces : op.Traces (.event ui)) :
    op.takes = true := by
  cases op <;> first | rfl | simp [Op.Traces] at traces

omit [ConstructCore Core] in
/-- What records a frame has taken it up. -/
theorem takes_of_frame {op : Op Core A} {frame : Bytes} (traces : op.Traces (.frame frame)) :
    op.takes = true := by
  cases op <;> first | rfl | simp [Op.Traces] at traces

/-- The engine leaves the queue of the pumps alone, and the events as well unless it drops them. -/
structure SameQueues (op : Op Core A) (net after : Net) : Prop where
  events : op.disturbs .events = false → after.events = net.events
  dispatched : after.dispatched = net.dispatched
  frames : after.frames = net.frames

/-- Any other operation leaves the queues of the loop as they are. -/
theorem exec_queues {op : Op Core A} (takes : op.takes = false) {choice : Choice}
    {world after : World Core} {value : A}
    (answered : exec config op choice world = some (value, after)) :
    SameQueues op world.net after.net := by
  have queued : op.disturbs .frames = false := by cases op <;> first | rfl | cases takes
  have surrounds := exec_surrounds answered
  exact ⟨surrounds.events, surrounds.dispatched, surrounds.frames queued⟩

/-- Only a spawned retry joins the retries. -/
theorem exec_retries {op : Op Core A} (other : op.topic ≠ .retry) {choice : Choice}
    {world after : World Core} {value : A}
    (answered : exec config op choice world = some (value, after)) :
    after.net.retries = world.net.retries := by
  have kept : op.disturbs .retries = false := by cases op <;> first | rfl | exact absurd rfl other
  exact (exec_surrounds answered).retries kept

omit [ConstructCore Core] in
/-- What an operation records has its topic. -/
theorem traces_about {op : Op Core A} {event : Event} (traces : op.Traces event) :
    event.About op.topic := by
  cases op with
  | core region => obtain ⟨call, rfl, about⟩ := traces; exact about
  | sendFrame site handle frame => obtain ⟨accepted, rfl⟩ := traces; exact .inr rfl
  | refreshReset secs => obtain ⟨clock, rfl⟩ := traces; exact .inr rfl
  | select refreshArmed =>
      obtain ⟨clock, rfl⟩ | ⟨ui, rfl⟩ | ⟨frame, rfl⟩ := traces <;> exact .inr rfl
  | onAction => cases traces; exact .inr rfl
  | handling => cases traces; exact .inr rfl
  | exchange => cases traces; exact .inr rfl
  | openExchange => cases traces; exact .inr rfl
  | _ => exact traces.elim

/-- Under the promise the operation adds only events that the law allows now. Calls of the core are
free. -/
def traceGuard (promise : (engineMachine Core config).Promise) (law : List Event → Event → Prop) :
    (engineMachine Core config).Guard := fun op world =>
  ∀ choice event, promise.answers op choice world → op.Traces event →
    (∀ call, event ≠ .core call) → law world.engine.log event

/-- A lawful action may be fired. -/
theorem traceGuard_action {law : List Event → Event → Prop} {action : PlatformAction}
    {world : World Core} (lawful : law world.engine.log (.action action)) :
    traceGuard promise law (.onAction action) world := fun choice event _ traces _ => by
  cases traces
  exact lawful

/-- A frame may be sent when either outcome is lawful. -/
theorem traceGuard_sent {law : List Event → Event → Prop} {site : SendSite}
    {handle : BiDiStreamHandle} {frame : Bytes} {world : World Core}
    (lawful : ∀ accepted, law world.engine.log (.sent site handle frame accepted)) :
    traceGuard promise law (.sendFrame site handle frame) world := fun choice event _ traces _ => by
  obtain ⟨accepted, rfl⟩ := traces
  exact lawful accepted

/-- A law that every operation of a run respects holds at each event of the trace. -/
theorem traced_reached {law : List Event → Event → Prop} (free : ∀ log call, law log (.core call))
    {program later : EngineM Core A} {result : A → World Core → Prop} {world after : World Core}
    (holds : Holds promise (traceGuard promise law) program result world)
    (now : AtEach law world.engine.log)
    (reached : Reaches promise (world, program) (after, later)) : AtEach law after.engine.log := by
  have stable : Stable promise fun world : World Core => AtEach law world.engine.log :=
    stable_engine fun engine => AtEach law engine.log
  refine holds.invariant (fun world => AtEach law world.engine.log) stable ?_ now reached
  intro B op choice world value after guarded each kept answered
  obtain ⟨more, grown, brief, traces⟩ := exec_traces answered
  rw [grown]
  refine atEach_append each ?_
  rintro before event rest rfl
  rcases brief with short | calls
  · obtain rfl : before = [] := List.eq_nil_of_length_eq_zero (by simp at short; omega)
    rw [List.append_nil]
    by_cases called : ∃ call, event = .core call
    · obtain ⟨call, rfl⟩ := called
      exact free _ call
    · exact guarded choice event kept (traces event (by simp)) fun call same => called ⟨call, same⟩
  · obtain ⟨call, rfl⟩ := calls event (by simp)
    exact free _ call

/-- A property of the trace that survives the events of some topics survives the operations of these
topics. -/
theorem exec_log {topics : Topic → Prop} (holds : List Event → Prop)
    (each : ∀ log event, Engages topics event.topic → holds log → holds (log ++ [event]))
    {op : Op Core A} (engages : Engages topics op.topic) {choice : Choice} {world after : World Core}
    {value : A} (answered : exec config op choice world = some (value, after))
    (now : holds world.engine.log) : holds after.engine.log := by
  obtain ⟨more, grown, -, traces⟩ := exec_traces answered
  rw [grown]
  have every : ∀ event ∈ more, Engages topics event.topic := fun event member => by
    rcases traces_about (traces event member) with reading | same
    · exact .inl reading
    · rw [same]; exact engages
  clear grown traces
  induction more using List.reverseRecOn with
  | nil => rw [List.append_nil]; exact now
  | append_singleton front last ih =>
      rw [← List.append_assoc]
      refine each _ _ (every last (by simp)) (ih fun event member => every event ?_)
      exact List.mem_append_left _ member

/-- What only the events of one topic change stays the same under every other operation. -/
theorem exec_unrelated {B : Type} (view : List Event → B) {topic : Topic}
    (basic : topic ≠ .reading ∧ topic ≠ .connection ∧ topic ≠ .report)
    (snoc : ∀ log event, event.topic ≠ topic → view (log ++ [event]) = view log)
    {op : Op Core A} (other : op.topic ≠ topic) {choice : Choice} {world after : World Core} {value : A}
    (answered : exec config op choice world = some (value, after)) :
    view after.engine.log = view world.engine.log := by
  refine exec_log (fun log => view log = view world.engine.log)
    (fun log event (engages : Engages (· ≠ topic) event.topic) same => ?_) (.own other) answered rfl
  rw [snoc log event (engages.ne basic fun _ own => own), same]

/-- A property of the trace survives a program when it survives the events of its topics. -/
theorem concerns_log {topics : Topic → Prop} (holds : List Event → Prop)
    (each : ∀ log event, Engages topics event.topic → holds log → holds (log ++ [event]))
    (guarded : ∀ {A : Type} (op : Op Core A) world, Engages topics op.topic →
      holds world.engine.log → guard op world)
    {program : EngineM Core A} (concerns : Concerns topics program) {engine : Engine Core}
    (now : holds engine.log) :
    EngineSafe promise guard program (fun _ after => holds after.log) engine := by
  refine Owned.safe_of_uses (fun engine : Engine Core => holds engine.log) guarded ?_ concerns now
  intro B op choice world value after engages now _ answered
  exact exec_log holds each engages answered now

/-- These topics are about the core. -/
def Topic.cryptographic : Topic → Bool
  | .sealing | .opening | .healing | .replacing | .keeping => true
  | _ => false

/-- Only a section changes the core. -/
theorem exec_core {op : Op Core A} (apart : op.topic.cryptographic = false) {choice : Choice}
    {world after : World Core} {value : A}
    (answered : exec config op choice world = some (value, after)) :
    after.engine.core = world.engine.core := by
  refine (exec_frame answered).core ?_
  cases op with
  | core region => cases region <;> cases apart
  | _ => rfl

omit [ConstructCore Core] in
/-- To connect leaves no trace. -/
theorem untraced_linking {op : Op Core A} (linking : Linking op.topic) (event : Event) :
    ¬ op.Traces event := by
  intro traces
  cases op with
  | onAction action =>
      have topic : Linking action.topic := linking
      rcases action_topic action with same | same | same | same | ⟨same, -⟩ <;>
        simp [Linking, same] at topic
  | core region => cases region <;> simp [Linking, Op.topic, CoreSection.topic] at linking
  | _ => first | exact traces | simp [Linking, Op.topic] at linking

/-- To connect leaves the trace and the core as they are. -/
theorem exec_linking {op : Op Core A} (linking : Linking op.topic) {choice : Choice}
    {world after : World Core} {value : A}
    (answered : exec config op choice world = some (value, after)) :
    after.engine.log = world.engine.log ∧ after.engine.core = world.engine.core := by
  constructor
  · obtain ⟨more, grown, -, traces⟩ := exec_traces answered
    have silent : more = [] := List.eq_nil_iff_forall_not_mem.mpr fun event member =>
      untraced_linking linking event (traces event member)
    rw [grown, silent, List.append_nil]
  · refine exec_core ?_ answered
    rcases linking with same | same <;> rw [same] <;> rfl

/-- A call leaves its request in the trace, unless it fails before it sends the request. -/
def Called (servicePath : String) (request : Bytes) (before : List Event)
    (answer : Except EngineError Bytes) (after : List Event) : Prop :=
  (after = before ∧ ∃ error, answer = .error error) ∨
    ∃ token, after = before ++ [.rpc servicePath request token]

theorem links_safe {program : EngineM Core A} (links : Links program)
    (free : ∀ {B : Type} (op : Op Core B) world, Linking op.topic → guard op world) {log : List Event}
    {core : Option Core} {engine : Engine Core} (now : engine.log = log ∧ engine.core = core) :
    EngineSafe promise guard program (fun _ after => after.log = log ∧ after.core = core) engine := by
  refine Owned.safe_of_uses (fun engine : Engine Core => engine.log = log ∧ engine.core = core)
    (fun op world linking _ => free op world linking) ?_ links now
  intro B op choice world value after linking now _ answered
  obtain ⟨sameLog, sameCore⟩ := exec_linking linking answered
  exact ⟨sameLog.trans now.1, sameCore.trans now.2⟩

theorem unaryCall_called {servicePath : String} {request : Bytes} {engine : Engine Core}
    (free : ∀ {B : Type} (op : Op Core B) world, Linking op.topic → guard op world)
    (asked : ∀ conn token world, world.engine.log = engine.log →
      guard (.exchange conn servicePath request token) world) :
    EngineSafe promise guard (unaryCall servicePath request) (fun answer after =>
      Called servicePath request engine.log answer after.log ∧ after.core = engine.core) engine := by
  unfold unaryCall
  refine (links_safe (links_ensureH3 _) free ⟨rfl, rfl⟩).andThen fun ensured middle now => ?_
  rcases ensured with error | ⟨⟩
  · exact Owned.safe_done ⟨.inl ⟨now.1, error, rfl⟩, now.2⟩
  refine (links_safe links_sendRequest free now).andThen fun sendReq middle now => ?_
  rcases sendReq with error | conn
  · exact Owned.safe_done ⟨.inl ⟨now.1, error, rfl⟩, now.2⟩
  have token : Links (perform .tokenRead : EngineM Core (Option String)) := uses_perform (.inl rfl)
  refine (links_safe token free now).andThen fun token middle now => ?_
  refine Owned.safe_step (fun world same => asked _ _ world ?_) ?_
  · change world.engine = middle at same
    rw [same, now.1]
  intro world choice exchange after same _ answered
  have now : after.engine.log = engine.log ++ [.rpc servicePath request token] ∧
      after.engine.core = engine.core := by
    cases same
    cases answered
    exact ⟨congrArg (· ++ _) now.1, now.2⟩
  split
  · have dropped : Links (perform .h3Drop : EngineM Core Unit) := uses_perform (.inr rfl)
    refine (links_safe dropped free now).andThen fun _ last now => ?_
    exact Owned.safe_done ⟨.inr ⟨token, now.1⟩, now.2⟩
  · exact Owned.safe_done ⟨.inr ⟨token, now.1⟩, now.2⟩

variable [Prost]

section
variable {machine : Machine (Op Core)} {View : Type} {owned : machine.Owned View}
  {promise : machine.Promise} {guard : machine.Guard} {invariant : View → Prop}

omit [ConstructCore Core] [Prost] in
/-- Keeping a property of the owned part is safety from every owned part that has it. -/
theorem keeps_owned {program : EngineM Core A} :
    Keeps promise guard (fun state => invariant (owned.view state)) program ↔
      ∀ view, invariant view → owned.Safe promise guard program (fun _ => invariant) view := by
  constructor
  · rintro keeps view now state rfl
    exact keeps state now
  · intro safe state now
    exact safe (owned.view state) now state rfl

omit [ConstructCore Core] [Prost] in
theorem safe_uses {allowed : {B : Type} → Op Core B → Prop}
    (ops : ∀ {B : Type} (op : Op Core B) view, allowed op → invariant view →
      owned.Safe promise guard (perform op) (fun _ => invariant) view)
    {program : EngineM Core A} (uses : program.Uses allowed) {view : View} (now : invariant view) :
    owned.Safe promise guard program (fun _ => invariant) view := by
  have kept : Keeps promise guard (fun state => invariant (owned.view state)) program :=
    keeps_of_uses (owned.stable invariant) (fun op permitted => keeps_owned.mpr fun view now =>
      ops op view permitted now) uses
  exact keeps_owned.mp kept view now

omit [ConstructCore Core] [Prost] in
/-- A handler keeps what its operations and its attempts to open the stream keep. -/
theorem keeps_built {topics : Topic → Prop} {invariant : machine.State → Prop}
    (stable : Stable promise invariant)
    (ops : ∀ {B : Type} (op : Op Core B), Engages topics op.topic → op.topic.opens = false →
      Keeps promise guard invariant (perform op))
    (wished : topics .wish → ∀ conversations cursor,
      Keeps promise guard invariant (handleOpenStream conversations cursor))
    (reopened : topics .subscription → Keeps promise guard invariant reopenStreamIfNeeded)
    {program : EngineM Core A} (built : Built topics (anyRequest topics) program) :
    Keeps promise guard invariant program := by
  refine keeps_composed built stable fun single brick => ?_
  cases brick with
  | op op listed apart =>
      rcases listed with reading | own
      · exact ops op (.inl reading) apart
      · exact ops op (.own own) apart
  | unaryCall servicePath request listed =>
      have basic {B : Type} (op : Op Core B) (linking : Linking op.topic) :
          Keeps promise guard invariant (perform op) := by
        refine ops op linking.engages ?_
        rcases linking with same | same
        · rw [same]; rfl
        · rw [same]; rfl
      exact keeps_of_uses stable (fun op kept => kept)
        (asks_unaryCall basic fun conn token => ops _ (.own listed) rfl)
  | handleOpenStream conversations cursor own wish => exact wished wish conversations cursor
  | reopenStreamIfNeeded own => exact reopened own

omit [ConstructCore Core] [Prost] in
/-- A call fails before it sends the request, or its answer comes from the exchange. -/
theorem unaryCall_split {servicePath : String} {request : Bytes}
    {answered : Except EngineError Bytes → View → Prop}
    (links : ∀ {B : Type} (op : Op Core B) view, Linking op.topic → invariant view →
      owned.Safe promise guard (perform op) (fun _ => invariant) view)
    (asked : ∀ conn token view, invariant view →
      owned.Safe promise guard (perform (.exchange conn servicePath request token))
        (fun exchange => answered (doUnaryCall servicePath exchange)) view)
    (dropped : ∀ answer view, answered answer view →
      owned.Safe promise guard (perform .h3Drop) (fun _ => answered answer) view)
    {view : View} (now : invariant view) :
    owned.Safe promise guard (unaryCall servicePath request) (fun answer after =>
      (∃ error, answer = .error error ∧ invariant after) ∨ answered answer after) view := by
  unfold unaryCall
  refine (safe_uses links (links_ensureH3 _) now).andThen fun ensured middle now => ?_
  rcases ensured with error | ⟨⟩
  · exact Owned.safe_done (.inl ⟨error, rfl, now⟩)
  refine (safe_uses links links_sendRequest now).andThen fun sendReq middle now => ?_
  rcases sendReq with error | conn
  · exact Owned.safe_done (.inl ⟨error, rfl, now⟩)
  refine (links _ middle (.inl rfl) now).andThen fun token middle now => ?_
  refine (asked conn token middle now).andThen fun exchange after known => ?_
  split
  next message failed =>
    rw [failed] at known
    exact (dropped _ after known).andThen fun _ last kept => Owned.safe_done (.inr kept)
  · exact Owned.safe_done (.inr known)

/-- The loop keeps a property of the owned part when its own operations keep it and each handler
restores it after a selection. -/
theorem eventLoop_owned (selected : Branch → View → Prop)
    (own : ∀ {A : Type} (op : Op Core A) view, op.Own → invariant view →
      owned.Safe promise guard (perform op) (fun _ => invariant) view)
    (select : ∀ refreshArmed view, invariant view →
      owned.Safe promise guard (perform (.select refreshArmed)) selected view)
    (refresh : ∀ view, selected .refresh view → owned.Safe promise guard
      (do (← perform .tokenStateRead).forM fun due => handleRefreshToken config due.refreshToken)
      (fun _ => invariant) view)
    (changed : ∀ view, selected .changed view → invariant view)
    (disconnect : ∀ view, invariant view →
      owned.Safe promise guard handleDisconnect (fun _ => invariant) view)
    (event : ∀ event view, selected (.event (some event)) view →
      owned.Safe promise guard (handleEvent config event) (fun _ => invariant) view)
    (frame : ∀ frame view, selected (.frame frame) view →
      owned.Safe promise guard (handleIncomingFrame frame) (fun _ => invariant) view)
    (idle : ∀ view, selected (.event none) view ∨ selected .tokenChanged view → invariant view) :
    Keeps promise guard (fun state => invariant (owned.view state)) (eventLoop config) := by
  have stable : Stable promise fun state => invariant (owned.view state) := owned.stable invariant
  have ops {A : Type} (op : Op Core A) (single : op.Own) :
      Keeps promise guard (fun state => invariant (owned.view state)) (perform op) :=
    keeps_owned.mpr fun view now => own op view single now
  have connect : Keeps promise guard (fun state => invariant (owned.view state)) ensureConnected :=
    keeps_of_uses stable ops (concerns_ensureConnected.mono fun op engages => own_of_engages engages)
  refine eventLoop_keeps stable (fun op single _ => ops op single) connect fun refreshArmed => ?_
  refine eventLoopTurn_branches (fun branch state => selected branch (owned.view state)) stable
    (updateRefreshTimer_keeps stable fun op single _ => ops op single) ?_ ?_ ?_ ?_ ?_ ?_ refreshArmed
  · exact fun armed state now => select armed (owned.view state) now state rfl
  · exact fun state taken => refresh _ taken state rfl
  · intro state taken
    unfold handleConnectedChange
    refine keeps_bind (ops _ (.own rfl)) (fun connected => ?_) state (changed _ taken)
    split
    · exact keeps_done stable ()
    · exact keeps_owned.mpr disconnect
  · exact fun ui state taken => event ui _ taken state rfl
  · exact fun received state taken => frame received _ taken state rfl
  · exact fun state taken => idle _ taken

end

/-- The loop keeps a property of the engine when its own operations keep it and each handler
restores it after what the selection has recorded. -/
theorem eventLoop_engine (invariant : Engine Core → Prop)
    (own : ∀ {A : Type} (op : Op Core A) engine, op.Own → invariant engine →
      EngineSafe promise guard (perform op) (fun _ => invariant) engine)
    (ready : ∀ refreshArmed world, invariant world.engine → guard (.select refreshArmed) world)
    (seen : ∀ engine connectedSeen tokenSeen, invariant engine →
      invariant { engine with connectedSeen, tokenSeen })
    (refresh : ∀ engine clock, invariant engine → EngineSafe promise guard
      (do (← perform .tokenStateRead).forM fun due => handleRefreshToken config due.refreshToken)
      (fun _ => invariant) (engine.record (.refreshDue clock)))
    (disconnect : ∀ engine, invariant engine →
      EngineSafe promise guard handleDisconnect (fun _ => invariant) engine)
    (event : ∀ event engine, invariant engine → EngineSafe promise guard (handleEvent config event)
      (fun _ => invariant) (engine.record (.event event)))
    (frame : ∀ frame engine, invariant engine → EngineSafe promise guard (handleIncomingFrame frame)
      (fun _ => invariant) (engine.record (.frame frame))) :
    Keeps promise guard (fun world => invariant world.engine) (eventLoop config) := by
  change Keeps promise guard (fun world => invariant ((engineOwned Core config).view world)) _
  refine eventLoop_owned (fun branch after =>
    ∃ before : Engine Core, invariant before ∧ before.Selected branch after) own ?_ ?_ ?_ disconnect
    ?_ ?_ ?_
  · intro refreshArmed engine now
    refine Owned.safe_perform (fun world same => ready refreshArmed world ?_) ?_
    · change world.engine = engine at same
      rw [same]
      exact now
    · intro world choice branch after same _ answered
      have taken : exec config (.select refreshArmed) choice world = some (branch, after) := answered
      refine ⟨engine, now, ?_⟩
      rw [← same]
      exact select_engine taken
  · rintro after ⟨before, now, clock, rfl⟩
    exact refresh before clock now
  · rintro after ⟨before, now, connectedSeen, rfl⟩
    exact seen before connectedSeen before.tokenSeen now
  · rintro ui after ⟨before, now, rfl⟩
    exact event ui before now
  · rintro received after ⟨before, now, rfl⟩
    exact frame received before now
  · rintro after (⟨before, -, impossible⟩ | ⟨before, now, tokenSeen, rfl⟩)
    · exact impossible.elim
    · exact seen before before.connectedSeen tokenSeen now

/-- The topics of everything that the loop does without an event of the platform. -/
def loopTopics : List Topic :=
  .reading :: .connection :: .loop :: .closing :: .rpc authRefresh :: .cursor ::
    receiveTopics ++ loginTopics

section
variable {topics : Topic → Prop} (during : List Event → Prop)
  (each : ∀ log event, topics event.topic → during log → during (log ++ [event]))
  (guarded : ∀ {A : Type} (op : Op Core A) world, topics op.topic → during world.engine.log →
    guard op world)
  (loop : ∀ topic ∈ loopTopics, topics topic)
include each guarded loop

omit [Prost] in
theorem calm_log {program : EngineM Core A} (concerns : Concerns topics program)
    {engine : Engine Core} (now : during engine.log) :
    EngineSafe promise guard program (fun _ after => during after.log) engine := by
  have engaged {topic : Topic} (engages : Engages topics topic) : topics topic := by
    rcases engages with rfl | rfl | rfl | own
    · exact loop _ (by simp [loopTopics])
    · exact loop _ (by simp [loopTopics])
    · exact loop _ (by simp [loopTopics, receiveTopics])
    · exact own
  exact concerns_log during (fun log event engages => each log event (engaged engages))
    (fun op world engages => guarded op world (engaged engages)) concerns now

/-- The loop keeps a property of the trace that its own operations keep, when everything that it
does without an event of the platform keeps a stronger one while it works. -/
theorem eventLoop_tasks (holds : List Event → Prop) (rests : ∀ log, during log → holds log)
    (idle : ∀ {A : Type} (op : Op Core A) (engine : Engine Core), op.Own → holds engine.log →
      EngineSafe promise guard (perform op) (fun _ after => holds after.log) engine)
    (ready : ∀ {A : Type} (op : Op Core A) world, op.topic = .selection → holds world.engine.log →
      guard op world)
    (taken : ∀ log mark, mark.topic = .selection → (∀ event, mark ≠ .event event) → holds log →
      during (log ++ [mark]))
    (event : ∀ event (engine : Engine Core), holds engine.log →
      EngineSafe promise guard (handleEvent config event) (fun _ after => holds after.log)
        (engine.record (.event event))) :
    Keeps promise guard (fun world => holds world.engine.log) (eventLoop config) := by
  have calm {A : Type} {program : EngineM Core A} (concerns : Concerns topics program)
      {engine : Engine Core} (now : during engine.log) :
      EngineSafe promise guard program (fun _ after => holds after.log) engine :=
    (calm_log during each guarded loop concerns now).weaken fun _ after => rests after.log
  have listed {others : Topic → Prop} {A : Type} {program : EngineM Core A} (concerns : Concerns others program)
      (known : ∀ topic, others topic → topic ∈ loopTopics) : Concerns topics program :=
    concerns_mono concerns fun topic other => loop topic (known topic other)
  refine eventLoop_engine (fun engine => holds engine.log) idle
    (fun _ world now => ready _ world rfl now) (fun _ _ _ now => now) ?_ ?_ event ?_
  · intro engine clock now
    have refresh := listed (concerns_refresh config) (by simp [loopTopics, loginTopics])
    exact calm refresh (taken _ _ rfl (fun _ => Event.noConfusion) now)
  · intro engine now
    refine action_bind (fun world same => ready _ world rfl (same ▸ now)) ?_
    have reconnect := listed concerns_reconnect (by simp [loopTopics, loginTopics])
    exact calm reconnect (taken _ _ rfl (fun _ => Event.noConfusion) now)
  · intro received engine now
    have frame := listed (built_frame received).concerns (by simp [loopTopics, receiveTopics])
    exact calm frame (taken _ _ rfl (fun _ => Event.noConfusion) now)

/-- A property of the trace that survives the loop's own topics is one of the whole loop when the
handler of each event restores it. -/
theorem eventLoop_traced
    (ready : ∀ {A : Type} (op : Op Core A) world, op.topic = .selection → during world.engine.log →
      guard op world)
    (taken : ∀ log mark, mark.topic = .selection → (∀ event, mark ≠ .event event) → during log →
      during (log ++ [mark]))
    (event : ∀ event (engine : Engine Core), during engine.log →
      EngineSafe promise guard (handleEvent config event) (fun _ after => during after.log)
        (engine.record (.event event))) :
    Keeps promise guard (fun world => during world.engine.log) (eventLoop config) := by
  refine eventLoop_tasks during each guarded loop during (fun _ now => now) ?_ ready taken event
  intro A op engine own now
  refine calm_log during each guarded loop (uses_perform (own.mono ?_)) now
  rintro same
  rw [same]
  exact loop .loop (by simp [loopTopics])

end

end ConstructEngine
