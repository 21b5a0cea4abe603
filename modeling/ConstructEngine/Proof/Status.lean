import ConstructEngine.Proof.Rehearsal
import ConstructEngine.Proof.Turn

namespace ConstructEngine

open Interaction Program Machine

variable {Core : Type}

/-- This is the local id of a request to send. -/
def UiEvent.sendId : UiEvent → Option String
  | .sendMessage _ _ localId _ _ => some localId
  | _ => none

/-- A request to send starts without an accepted frame, and the latest request gets the frames. -/
def sendOutcome (outcomes : List (String × Bool)) : Event → List (String × Bool)
  | .event (.sendMessage _ _ localId _ _) => (localId, false) :: outcomes
  | .sent .sendMessage _ _ true =>
      match outcomes with
      | (localId, _) :: earlier => (localId, true) :: earlier
      | [] => []
  | _ => outcomes

/-- These are the requests that the loop took up, the latest first, each with whether a stream
handle accepted its frame. -/
def sendOutcomes (log : List Event) : List (String × Bool) := log.foldl sendOutcome []

/-- This is the status that the event reports. -/
def reportOf : Event → Option (String × Nat)
  | .action (.updateMessageStatus localId status) => some (localId, status)
  | _ => none

/-- These are all reported statuses, in their order. -/
def reports (log : List Event) : List (String × Nat) := log.filterMap reportOf

/-- These are the statuses that were reported for one request. -/
def reportsFor (localId : String) (log : List Event) : List Nat :=
  ((reports log).filter (·.1 = localId)).map Prod.snd

/-- An accepted frame was sent, and any other has failed. -/
def statusOf (accepted : Bool) : Nat := if accepted then 1 else 4

/-- This is the status that a request deserves. -/
def verdict (outcome : String × Bool) : String × Nat := (outcome.1, statusOf outcome.2)

/-- Every request that the loop took up has its status. -/
def Settled (log : List Event) : Prop :=
  reports log = ((sendOutcomes log).map verdict).reverse

/-- The loop works on this request, and every earlier request has its status. -/
structure Answering (localId : String) (accepted : Bool) (log : List Event) : Prop where
  working : ∃ request, currentTask log = some (.event request)
  earlier : ∃ outcomes, sendOutcomes log = (localId, accepted) :: outcomes ∧
    reports log = (outcomes.map verdict).reverse

/-- The last event decides how the outcomes go on. -/
theorem sendOutcomes_snoc (log : List Event) (event : Event) :
    sendOutcomes (log ++ [event]) = sendOutcome (sendOutcomes log) event := by
  simp [sendOutcomes]

/-- The last event may be a report. -/
theorem reports_snoc (log : List Event) (event : Event) :
    reports (log ++ [event]) = reports log ++ (reportOf event).toList := by
  unfold reports
  rw [List.filterMap_append]
  cases reported : reportOf event <;> simp [reported]

/-- Only the handler of a request engages in these topics. -/
def Unrelated (topic : Topic) : Prop :=
  topic ≠ .status ∧ topic ≠ .sending .sendMessage ∧ topic ≠ .selection

/-- Only a status is reported. -/
theorem reportOf_silent {event : Event} (other : event.topic ≠ .status) : reportOf event = none := by
  unfold reportOf
  split
  · exact absurd rfl other
  · rfl

/-- Only a request and its frame change the outcomes. -/
theorem sendOutcome_silent {event : Event} (unsent : event.topic ≠ .sending .sendMessage)
    (request : ∀ ui, event = .event ui → ui.sendId = none) (outcomes : List (String × Bool)) :
    sendOutcome outcomes event = outcomes := by
  unfold sendOutcome
  split
  · exact absurd (request _ rfl) nofun
  · exact absurd rfl unsent
  · rfl

/-- While nothing is requested, sent or reported, the requests stay settled. -/
theorem Settled.silent {log : List Event} {event : Event} (settled : Settled log)
    (unreported : event.topic ≠ .status) (unsent : event.topic ≠ .sending .sendMessage)
    (request : ∀ ui, event = .event ui → ui.sendId = none) : Settled (log ++ [event]) := by
  unfold Settled
  rw [reports_snoc, reportOf_silent unreported, sendOutcomes_snoc, sendOutcome_silent unsent request]
  exact (List.append_nil _).trans settled

/-- An unrelated event leaves the requests settled. -/
theorem Settled.unrelated {log : List Event} {event : Event} (settled : Settled log)
    (unrelated : Unrelated event.topic) : Settled (log ++ [event]) :=
  settled.silent unrelated.1 unrelated.2.1 fun _ same => absurd (same ▸ rfl) unrelated.2.2

/-- An unrelated event leaves the request as it is. -/
theorem Answering.unrelated {log : List Event} {event : Event} {localId : String} {accepted : Bool}
    (answering : Answering localId accepted log) (unrelated : Unrelated event.topic) :
    Answering localId accepted (log ++ [event]) := by
  obtain ⟨working, outcomes, same, reported⟩ := answering
  refine ⟨?_, outcomes, ?_, ?_⟩
  · rw [currentTask_snoc log unrelated.2.2]
    exact working
  · rw [sendOutcomes_snoc, sendOutcome_silent unrelated.2.1 fun _ same => absurd (same ▸ rfl) unrelated.2.2]
    exact same
  · rw [reports_snoc, reportOf_silent unrelated.1]
    simpa using reported

/-- A new request starts without an accepted frame. -/
theorem Settled.request {log : List Event} (settled : Settled log) (contactId : String)
    (plaintext : Bytes) (localId conversationId : String) (level : AnonymityLevel) :
    Answering localId false
      (log ++ [.event (.sendMessage contactId plaintext localId conversationId level)]) := by
  refine ⟨⟨_, currentTask_mark log rfl⟩, sendOutcomes log, ?_, ?_⟩
  · rw [sendOutcomes_snoc]
    rfl
  · rw [reports_snoc]
    exact (List.append_nil _).trans settled

/-- An accepted frame decides the status. -/
theorem Answering.sent {log : List Event} {localId : String} {accepted : Bool}
    (answering : Answering localId accepted log) (handle : BiDiStreamHandle) (frame : Bytes) :
    Answering localId true (log ++ [.sent .sendMessage handle frame true]) := by
  obtain ⟨working, outcomes, same, reported⟩ := answering
  refine ⟨?_, outcomes, ?_, ?_⟩
  · rw [currentTask_snoc log (by simp [Event.topic])]
    exact working
  · rw [sendOutcomes_snoc, same]
    rfl
  · rw [reports_snoc]
    simpa [reportOf] using reported

/-- A refused frame changes nothing. -/
theorem Answering.refused {log : List Event} {localId : String} {accepted : Bool}
    (answering : Answering localId accepted log) (handle : BiDiStreamHandle) (frame : Bytes) :
    Answering localId accepted (log ++ [.sent .sendMessage handle frame false]) := by
  obtain ⟨working, outcomes, same, reported⟩ := answering
  refine ⟨?_, outcomes, ?_, ?_⟩
  · rw [currentTask_snoc log (by simp [Event.topic])]
    exact working
  · rw [sendOutcomes_snoc, same]
    rfl
  · rw [reports_snoc]
    simpa [reportOf] using reported

/-- The status of the request in hand settles the trace. -/
theorem Answering.reported {log : List Event} {localId : String} {accepted : Bool}
    (answering : Answering localId accepted log) :
    Settled (log ++ [.action (.updateMessageStatus localId (statusOf accepted))]) := by
  obtain ⟨-, outcomes, same, reported⟩ := answering
  unfold Settled
  have silent : sendOutcome (sendOutcomes log)
      (.action (.updateMessageStatus localId (statusOf accepted))) = sendOutcomes log := rfl
  rw [reports_snoc, sendOutcomes_snoc, silent, same, reported]
  simp [reportOf, verdict]

/-- The loop takes up new work only when the trace is settled, and only the handler of a request
sends its frame and reports its status. -/
def statusLaw (log : List Event) : Event → Prop
  | .refreshDue _ | .event _ | .frame _ | .action (.connectionStateChanged false) => Settled log
  | .action (.updateMessageStatus localId status) =>
      ∃ accepted, status = statusOf accepted ∧ Answering localId accepted log
  | .sent .sendMessage _ _ _ => ∃ localId, Answering localId false log
  | _ => True

/-- The law says nothing about unrelated events. -/
theorem statusLaw_unrelated {log : List Event} {event : Event} (unrelated : Unrelated event.topic) :
    statusLaw log event := by
  unfold statusLaw
  split
  · exact absurd rfl unrelated.2.2
  · exact absurd rfl unrelated.2.2
  · exact absurd rfl unrelated.2.2
  · exact absurd rfl unrelated.2.2
  · exact absurd rfl unrelated.1
  · exact absurd rfl unrelated.2.1
  · trivial

/-- With settled requests the loop may take up its next task. -/
theorem statusLaw_settled {log : List Event} {event : Event} (settled : Settled log)
    (selection : event.topic = .selection) : statusLaw log event := by
  unfold statusLaw
  split
  · exact settled
  · exact settled
  · exact settled
  · exact settled
  · cases selection
  · cases selection
  · trivial

/-- Along a run the trace is settled, or the loop works on a request. -/
def Tracked (log : List Event) : Prop :=
  Settled log ∨ ∃ localId accepted, Answering localId accepted log

/-- An event under its law keeps the trace settled or the request in hand. -/
theorem Tracked.snoc {log : List Event} {event : Event} (tracked : Tracked log)
    (lawful : statusLaw log event) : Tracked (log ++ [event]) := by
  by_cases unrelated : Unrelated event.topic
  · rcases tracked with settled | ⟨localId, accepted, answering⟩
    · exact .inl (settled.unrelated unrelated)
    · exact .inr ⟨localId, accepted, answering.unrelated unrelated⟩
  have special : event.topic = .status ∨ event.topic = .sending .sendMessage ∨
      event.topic = .selection := by
    by_contra neither
    simp only [not_or] at neither
    exact unrelated neither
  rcases special with status | sending | selection
  · obtain ⟨localId, status, rfl⟩ := topic_status status
    obtain ⟨accepted, rfl, answering⟩ := lawful
    exact .inl answering.reported
  · obtain ⟨handle, frame, accepted, rfl⟩ := topic_sending sending
    obtain ⟨localId, answering⟩ := lawful
    cases accepted with
    | false => exact .inr ⟨localId, false, answering.refused handle frame⟩
    | true => exact .inr ⟨localId, true, answering.sent handle frame⟩
  · have quiet (settled : Settled log) (silent : ∀ ui, event = .event ui → ui.sendId = none) :
        Tracked (log ++ [event]) :=
      .inl (settled.silent (by simp [selection]) (by simp [selection]) silent)
    obtain ⟨clock, rfl⟩ | ⟨ui, rfl⟩ | ⟨frame, rfl⟩ | rfl := topic_selection selection
    · exact quiet lawful nofun
    · cases requested : ui.sendId with
      | none => exact quiet lawful fun _ same => by cases same; exact requested
      | some localId =>
          cases ui with
          | sendMessage contactId plaintext localId conversationId level =>
              exact .inr ⟨localId, false, Settled.request lawful _ _ _ _ _⟩
          | _ => cases requested
    · exact quiet lawful nofun
    · exact quiet lawful nofun

/-- A lawful trace is tracked. -/
theorem tracked_of_each {log : List Event} (each : AtEach statusLaw log) : Tracked log := by
  induction log using List.reverseRecOn with
  | nil => exact .inl rfl
  | append_singleton front last ih =>
      obtain ⟨earlier, lawful⟩ := atEach_snoc.mp each
      exact (ih earlier).snoc lawful

variable [ConstructCore Core] {config : EngineConfig}

section
variable {promise : (engineMachine Core config).Promise}

/-- An operation may be answered where what it records is lawful. -/
abbrev statusGuard (promise : (engineMachine Core config).Promise) :
    (engineMachine Core config).Guard := traceGuard promise statusLaw

/-- An unrelated operation may always be answered. -/
theorem statusGuard_unrelated {A : Type} {op : Op Core A} (unrelated : Unrelated op.topic)
    (world : World Core) : statusGuard promise op world := by
  intro choice event _ traces _
  rcases traces_about traces with reading | same
  · exact statusLaw_unrelated (by rw [reading]; simp [Unrelated])
  · exact statusLaw_unrelated (same ▸ unrelated)

/-- With settled requests the loop may select. -/
theorem statusGuard_selection {A : Type} {op : Op Core A} {world : World Core}
    (settled : Settled world.engine.log) (selection : op.topic = .selection) :
    statusGuard promise op world := by
  intro choice event _ traces _
  rcases traces_about traces with reading | same
  · exact statusLaw_unrelated (by rw [reading]; simp [Unrelated])
  · exact statusLaw_settled settled (same.trans selection)

/-- A part of the handler that neither sends nor reports leaves the request in hand. -/
theorem answering_safe {A : Type} {topics : Topic → Prop} {program : EngineM Core A}
    (concerns : Concerns topics program) (unrelated : ∀ topic, Engages topics topic → Unrelated topic)
    {localId : String} {accepted : Bool} {engine : Engine Core}
    (answering : Answering localId accepted engine.log) :
    EngineSafe promise (statusGuard promise) program
      (fun _ after => Answering localId accepted after.log) engine :=
  concerns_log (Answering localId accepted)
    (fun _ event engages now => now.unrelated (unrelated event.topic engages))
    (fun op world engages _ => statusGuard_unrelated (unrelated op.topic engages) world) concerns
    answering

/-- The report settles the request. -/
theorem reported_safe (accepted : Bool) {localId : String} (engine : Engine Core)
    (answering : Answering localId accepted engine.log) :
    EngineSafe promise (statusGuard promise)
      (onAction (.updateMessageStatus localId (statusOf accepted)))
      (fun _ after => Settled after.log) engine :=
  action_done (fun _ same => traceGuard_action ⟨accepted, rfl, same ▸ answering⟩) answering.reported

variable [Prost]

/-- Every way through the handler ends with the status of its request. -/
theorem handleSendMessage_settles {contactId localId conversationId : String} {plaintext : Bytes}
    {level : AnonymityLevel} {engine : Engine Core} (answering : Answering localId false engine.log) :
    EngineSafe promise (statusGuard promise)
      (handleSendMessage contactId plaintext localId conversationId level)
      (fun _ after => Settled after.log) engine := by
  have apart (topic : Topic) (engages : Engages (· = Topic.sealing) topic) : Unrelated topic := by
    rcases engages with rfl | rfl | rfl | rfl <;> simp [Unrelated]
  have sealing : Concerns (· = Topic.sealing)
      (perform (.core (.encryptAndExport contactId plaintext)) :
        EngineM Core (Except String (Bytes × Bytes))) := concerns_own rfl
  unfold handleSendMessage
  refine (answering_safe sealing apart answering).andThen fun encrypted engine answering => ?_
  rcases encrypted with error | ⟨wirePayload, stateBytes⟩
  · exact reported_safe false engine answering
  refine (answering_safe (concerns_saveState stateBytes) apart answering).andThen
    fun _ engine answering => ?_
  refine (answering_safe (built_buildEnvelope _ _ _ _ _).concerns apart answering).andThen
    fun envelope engine answering => ?_
  refine streamRead_bind (statusGuard_unrelated (by simp [Unrelated, Op.topic])) ?_
  cases engine.stream with
  | none => exact reported_safe false engine answering
  | some stream =>
      refine sendFrame_outcomes (fun _ same => traceGuard_sent fun _ => ⟨localId, same ▸ answering⟩) ?_ ?_
      · exact fun _ _ _ _ _ => reported_safe false _ (answering.refused _ _)
      · exact reported_safe true _ (answering.sent _ _)

omit [ConstructCore Core] [Prost] in
/-- Apart from a request to send, an event has no status to report. -/
theorem unrelated_event {event : UiEvent} (other : event.sendId = none) :
    ∀ topic ∈ event.topics, Unrelated topic := by
  cases event <;> first | (cases other; done) |
    simp [UiEvent.topics, keyCountTopics, loginTopics, receiveTopics, Unrelated]

/-- The loop settles every request before it takes up the next event. -/
theorem eventLoop_settles :
    Keeps promise (statusGuard promise) (fun world => Settled world.engine.log)
      (eventLoop config) := by
  have each (log : List Event) (event : Event) (unrelated : Unrelated event.topic)
      (settled : Settled log) : Settled (log ++ [event]) := settled.unrelated unrelated
  have guarded {A : Type} (op : Op Core A) (world : World Core) (unrelated : Unrelated op.topic)
      (_ : Settled world.engine.log) : statusGuard promise op world :=
    statusGuard_unrelated unrelated world
  have loop : ∀ topic ∈ loopTopics, Unrelated topic := by
    simp [loopTopics, loginTopics, receiveTopics, Unrelated]
  refine eventLoop_traced Settled each guarded loop
    (fun op world selection settled => statusGuard_selection settled selection) ?_ ?_
  · intro log mark selection other settled
    refine settled.silent ?_ ?_ fun ui same => absurd same (other ui) <;> simp [selection]
  · intro event engine settled
    cases request : event.sendId with
    | none =>
        have before : Settled (engine.record (.event event)).log :=
          settled.silent (by simp [Event.topic]) (by simp [Event.topic])
            fun ui same => by cases same; exact request
        exact calm_log Settled each guarded loop
          (built_handleEvent config event (unrelated_event request)).concerns before
    | some localId =>
        cases event with
        | sendMessage contactId plaintext requested conversationId level =>
            exact handleSendMessage_settles (settled.request _ _ _ _ _)
        | _ => cases request

end

/-- These tasks run a handler of the engine. -/
def Event.isHandled : Event → Bool
  | .event _ | .frame _ | .refreshDue _ => true
  | _ => false

/-- No handler runs while the loop waits, connects or reconnects. -/
def noHandlerRuns (world : World Core) (program : EngineM Core Unit) : Bool :=
  isWaiting program || !(currentTask world.engine.log).any Event.isHandled

/-- These are the events of the platform that the loop took up. -/
def taken (log : List Event) : List UiEvent :=
  log.filterMap fun event => match event with
    | .event ui => some ui
    | _ => none

/-- What is taken up adds up. -/
theorem taken_append (log more : List Event) : taken (log ++ more) = taken log ++ taken more :=
  List.filterMap_append ..

theorem taken_silent {more : List Event} (silent : ∀ event ∈ more, ∀ ui, event ≠ .event ui) :
    taken more = [] := by
  refine List.filterMap_eq_nil_iff.mpr fun event member => ?_
  split
  next ui => exact absurd rfl (silent _ member ui)
  next => rfl

theorem sendOutcome_names (outcomes : List (String × Bool)) (event : Event) :
    ((sendOutcome outcomes event).map Prod.fst).reverse =
      (outcomes.map Prod.fst).reverse ++ (taken [event]).filterMap UiEvent.sendId := by
  unfold sendOutcome
  split
  · simp [taken, UiEvent.sendId]
  · cases outcomes <;> simp [taken]
  next other _ =>
    have nothing : (taken [event]).filterMap UiEvent.sendId = [] := by
      cases event with
      | event ui =>
          cases ui with
          | sendMessage => exact absurd rfl (other _ _ _ _ _)
          | _ => rfl
      | _ => rfl
    rw [nothing, List.append_nil]

/-- The requests in the trace are the requests that the loop took up. -/
theorem sendOutcomes_taken (log : List Event) :
    ((sendOutcomes log).map Prod.fst).reverse = (taken log).filterMap UiEvent.sendId := by
  induction log using List.reverseRecOn with
  | nil => rfl
  | append_singleton front last ih =>
      rw [sendOutcomes_snoc, taken_append, List.filterMap_append, ← ih, sendOutcome_names]

section
variable [Prost]

/-- While no handler runs, every request that the loop took up has its status. -/
theorem idle_settled {engine : Engine Core} (created : Engine.new config = .ok engine)
    {world : World Core} {program : EngineM Core Unit}
    (reached : Reaches (Promise.any (engineMachine Core config)) (startWorld engine, eventLoop config)
      (world, program))
    (idle : noHandlerRuns world program = true) : Settled world.engine.log := by
  obtain ⟨core, rfl⟩ := Engine.new_fresh created
  have keeps : Keeps (Promise.any (engineMachine Core config)) (statusGuard _)
      (fun world => Settled world.engine.log) (eventLoop config) := eventLoop_settles
  have safe := keeps (startWorld (Engine.fresh config core)) rfl
  rcases Bool.or_eq_true .. ▸ idle with waiting | free
  · obtain ⟨refreshArmed, next, rfl⟩ := isWaiting_shape waiting
    have guarded := (safe _ _ reached).1 _ _ _ rfl
    exact guarded {} (.refreshDue 0) trivial (.inl ⟨0, rfl⟩) nofun
  · have each := traced_reached (fun _ _ => trivial) safe (atEach_nil statusLaw) reached
    rcases tracked_of_each each with settled | ⟨localId, accepted, ⟨request, working⟩, -⟩
    · exact settled
    · simp [working, Event.isHandled] at free

end

/-- The loop has dropped its receiver, and what waited is gone. -/
def Deaf (world after : World Core) : Prop :=
  after.net.rxAlive = false ∧ after.net.events = [] ∧ taken after.engine.log = taken world.engine.log

/-- Only the selection takes an event from the queue, and it records the event. Only the end of the loop
drops what waits. -/
theorem exec_queue {A : Type} {op : Op Core A} {choice : Choice} {world after : World Core} {value : A}
    (answered : exec config op choice world = some (value, after)) :
    (taken after.engine.log ++ after.net.events = taken world.engine.log ++ world.net.events ∨
        Deaf world after) ∧ after.net.dispatched = world.net.dispatched := by
  cases takes : op.takes with
  | true =>
      cases op with
      | select refreshArmed =>
          obtain ⟨-, -, rfl⟩ | ⟨-, -, rfl⟩ | ⟨-, ⟨event, rest, queued, -, rfl⟩ |
            ⟨-, ⟨frame, rest, -, -, rfl⟩ | ⟨-, -, rfl⟩⟩⟩ := select_effect answered <;>
            simp [Engine.record, taken, *]
      | _ => cases takes
  | false =>
      have queues := exec_queues takes answered
      obtain ⟨more, grown, -, traces⟩ := exec_traces answered
      have nothing : taken more = [] := by
        refine taken_silent ?_
        rintro event member ui rfl
        rw [takes_of_event (traces _ member)] at takes
        cases takes
      have same : taken after.engine.log = taken world.engine.log := by
        rw [grown, taken_append, nothing, List.append_nil]
      refine ⟨?_, queues.dispatched⟩
      cases op with
      | rxDrop => cases answered; exact .inr ⟨rfl, rfl, same⟩
      | select => cases takes
      | _ => exact .inl (by rw [same, queues.events rfl])

/-- A dropped receiver stays dropped. -/
theorem exec_listens {A : Type} {op : Op Core A} {choice : Choice} {world after : World Core} {value : A}
    (answered : exec config op choice world = some (value, after)) (listens : after.net.rxAlive = true) :
    world.net.rxAlive = true := by
  cases op with
  | rxDrop => cases answered; cases listens
  | _ => exact ((exec_surrounds answered).rxAlive rfl).symm.trans listens

omit [ConstructCore Core] in
/-- Only the platform adds events, and a full or closed queue drops them. -/
theorem move_queue {move : Move} {world after : World Core}
    (moved : moveWorld config move world = some after) :
    after.engine = world.engine ∧ ∃ placed dispatched, placed.Sublist dispatched ∧
      after.net.events = world.net.events ++ placed ∧
      after.net.dispatched = world.net.dispatched ++ dispatched := by
  obtain ⟨net, done, rfl⟩ := moveWorld_some moved
  have still (events : net.events = world.net.events)
      (dispatched : net.dispatched = world.net.dispatched) :
      ∃ placed dispatched, placed.Sublist dispatched ∧ net.events = world.net.events ++ placed ∧
        net.dispatched = world.net.dispatched ++ dispatched :=
    ⟨[], [], .slnil, by rw [events, List.append_nil], by rw [dispatched, List.append_nil]⟩
  refine ⟨rfl, ?_⟩
  cases move with
  | driverExits conn =>
      simp only [moveNet, Net.driverExits] at done
      split at done <;> cases done
      exact still rfl rfl
  | pump number input =>
      simp only [moveNet, Net.movePump, Option.bind_eq_bind, Option.bind_eq_some_iff,
        Option.pure_def, Option.some.injEq] at done
      obtain ⟨pump, _, ⟨stepped, frames⟩, _, rfl⟩ := done
      exact still rfl rfl
  | dispatch event =>
      simp only [moveNet, Net.dispatch, Option.some.injEq] at done
      subst done
      split
      · exact ⟨[event], [event], .refl _, rfl, rfl⟩
      · exact ⟨[], [event], List.nil_sublist _, (List.append_nil _).symm, rfl⟩
  | retryDue index =>
      obtain ⟨frame, rfl⟩ := retryDue_some done
      exact still rfl rfl
  | tick millis =>
      cases done
      exact still rfl rfl

omit [ConstructCore Core] in
/-- The receiver is the loop's own. -/
theorem move_listens {move : Move} {world after : World Core}
    (moved : moveWorld config move world = some after) : after.net.rxAlive = world.net.rxAlive := by
  obtain ⟨net, done, rfl⟩ := moveWorld_some moved
  cases move with
  | driverExits conn =>
      simp only [moveNet, Net.driverExits] at done
      split at done <;> cases done
      rfl
  | pump number input =>
      simp only [moveNet, Net.movePump, Option.bind_eq_bind, Option.bind_eq_some_iff,
        Option.pure_def, Option.some.injEq] at done
      obtain ⟨pump, _, ⟨stepped, frames⟩, _, rfl⟩ := done
      rfl
  | dispatch event =>
      simp only [moveNet, Net.dispatch, Option.some.injEq] at done
      subst done
      split <;> rfl
  | retryDue index =>
      obtain ⟨frame, rfl⟩ := retryDue_some done
      rfl
  | tick millis =>
      cases done
      rfl

section
variable {promise : (engineMachine Core config).Promise} {program later : EngineM Core Unit}
  {world after : World Core} (reached : Reaches promise (world, program) (after, later))
include reached

/-- The loop takes up events in the order of their dispatch. -/
theorem taken_sublist (now : (taken world.engine.log ++ world.net.events).Sublist world.net.dispatched) :
    (taken after.engine.log ++ after.net.events).Sublist after.net.dispatched := by
  refine reaches_invariant (fun world : World Core =>
    (taken world.engine.log ++ world.net.events).Sublist world.net.dispatched) ?_ ?_ now reached
  · intro move world after now _ moved
    obtain ⟨engine, placed, dispatched, sublist, events, all⟩ := move_queue moved
    rw [engine, events, all, ← List.append_assoc]
    exact now.append sublist
  · intro B op choice world value after now _ answered
    obtain ⟨same | ⟨-, empty, same⟩, dispatched⟩ := exec_queue answered
    · rw [same, dispatched]
      exact now
    · rw [same, empty, List.append_nil, dispatched]
      exact (List.sublist_append_left _ _).trans now

/-- An event that was placed in the queue waits there until the loop takes it up, unless the loop ends. -/
theorem taken_member {event : UiEvent} (now : event ∈ taken world.engine.log ++ world.net.events)
    (listens : after.net.rxAlive = true) : event ∈ taken after.engine.log ++ after.net.events := by
  have kept : after.net.rxAlive = true → event ∈ taken after.engine.log ++ after.net.events := by
    refine reaches_invariant (fun world : World Core => world.net.rxAlive = true →
      event ∈ taken world.engine.log ++ world.net.events) ?_ ?_ (fun _ => now) reached
    · intro move world after now _ moved listens
      obtain ⟨engine, placed, dispatched, -, events, -⟩ := move_queue moved
      rw [engine, events, ← List.append_assoc]
      exact List.mem_append_left _ (now (move_listens moved ▸ listens))
    · intro B op choice world value after now _ answered listens
      obtain same | ⟨dropped, -⟩ := (exec_queue answered).1
      · rw [same]
        exact now (exec_listens answered listens)
      · rw [dropped] at listens
        cases listens
  exact kept listens

end

omit [ConstructCore Core] in
/-- A request whose name is unique in a settled trace has one status. -/
theorem Settled.once {log : List Event} (settled : Settled log) {localId : String} {accepted : Bool}
    (member : (localId, accepted) ∈ sendOutcomes log)
    (unique : ((sendOutcomes log).map Prod.fst).Nodup) :
    reportsFor localId log = [statusOf accepted] := by
  have alone : ∀ outcomes : List (String × Bool), (localId, accepted) ∈ outcomes →
      (outcomes.map Prod.fst).Nodup →
      outcomes.filter (fun outcome => outcome.1 = localId) = [(localId, accepted)] := by
    intro outcomes member unique
    induction outcomes with
    | nil => cases member
    | cons first rest ih =>
        simp only [List.map_cons, List.nodup_cons, List.mem_map, not_exists, not_and] at unique
        rcases List.mem_cons.mp member with rfl | later
        · have others : rest.filter (fun outcome => outcome.1 = localId) = [] :=
            List.filter_eq_nil_iff.mpr fun outcome other => by
              simpa using unique.1 outcome other
          simp [others]
        · have different : first.1 ≠ localId := fun same => unique.1 _ later same.symm
          simp [different, ih later unique.2]
  unfold reportsFor
  rw [settled, List.filter_reverse, List.filter_map, List.map_reverse]
  have same : (fun outcome : String × Nat => decide (outcome.1 = localId)) ∘ verdict =
      fun outcome => decide (outcome.1 = localId) := rfl
  rw [same, alone _ member unique]
  rfl

section
variable [Prost]

/-- Every request that the queue has room for gets one status from a loop that does not end, 1 for an
accepted frame and 4 otherwise. -/
theorem sendRequest_reported {engine : Engine Core} (created : Engine.new config = .ok engine)
    {world later : World Core} {program rest : EngineM Core Unit}
    (reached : Reaches (Promise.any (engineMachine Core config)) (startWorld engine, eventLoop config)
      (world, program))
    (room : world.net.rxAlive = true ∧ world.net.events.length < config.eventBuffer)
    (contactId : String) (plaintext : Bytes) (localId conversationId : String)
    (level : AnonymityLevel)
    (continued : Reaches (Promise.any (engineMachine Core config))
      (⟨world.engine, world.net.dispatch config.eventBuffer
        (.sendMessage contactId plaintext localId conversationId level)⟩, program) (later, rest))
    (distinct : (later.net.dispatched.filterMap UiEvent.sendId).Nodup)
    (listens : later.net.rxAlive = true) (empty : later.net.events = []) (idle : noHandlerRuns later rest = true) :
    ∃ accepted, (localId, accepted) ∈ sendOutcomes later.engine.log ∧
      reportsFor localId later.engine.log = [statusOf accepted] := by
  have dispatches : Step (Promise.any (engineMachine Core config)) (world, program)
      (⟨world.engine, world.net.dispatch config.eventBuffer
        (.sendMessage contactId plaintext localId conversationId level)⟩, program) :=
    .move (Move.dispatch (.sendMessage contactId plaintext localId conversationId level)) trivial rfl
  have whole := (reached.tail dispatches).trans continued
  have settled := idle_settled created whole idle
  obtain ⟨core, rfl⟩ := Engine.new_fresh created
  have order := taken_sublist whole (List.Sublist.refl [])
  have placed : .sendMessage contactId plaintext localId conversationId level ∈
      taken later.engine.log ++ later.net.events :=
    taken_member continued (by simp [Net.dispatch, room]) listens
  rw [empty, List.append_nil] at order placed
  have names := sendOutcomes_taken later.engine.log
  have unique : ((sendOutcomes later.engine.log).map Prod.fst).Nodup := by
    rw [← (List.reverse_perm _).nodup_iff, names]
    exact distinct.sublist (order.filterMap UiEvent.sendId)
  have named : localId ∈ ((sendOutcomes later.engine.log).map Prod.fst).reverse := by
    rw [names]
    exact List.mem_filterMap.mpr ⟨_, placed, rfl⟩
  obtain ⟨⟨_, accepted⟩, member, rfl⟩ := List.mem_map.mp (List.mem_reverse.mp named)
  exact ⟨accepted, member, settled.once member unique⟩

end

/-- The queue of this engine has room for one event. -/
def narrowConfig : EngineConfig := { rehearsalConfig [] none with eventBuffer := 1 }

/-- The platform dispatches two requests before the loop takes up the first. -/
def crowded : List (rehearsalMachine narrowConfig).Input :=
  rehearsal narrowConfig [.sendMessage "alice" [1] "l1" "alice" .normal,
    .sendMessage "alice" [2] "l2" "alice" .normal] (List.replicate 30 {}) []

/-- The full queue drops the second request, and no status tells of it. -/
theorem sendRequest_reported_fails :
    ¬ ∀ world later, Reaches (Promise.any (rehearsalMachine narrowConfig))
      (rehearsalStart narrowConfig none) (world, later) →
      (world.net.dispatched.filterMap UiEvent.sendId).Nodup → world.net.events = [] →
      noHandlerRuns world later = true →
      ∀ localId ∈ world.net.dispatched.filterMap UiEvent.sendId,
        ∃ accepted, reportsFor localId world.engine.log = [statusOf accepted] := by
  intro reported
  obtain ⟨accepted, claimed⟩ := reported _ _ (rehearsed_any _ _ crowded) (by decide +kernel)
    (by decide +kernel) (by decide +kernel) "l2" (by decide +kernel)
  have silent : reportsFor "l2" (rehearsed narrowConfig none crowded).1.engine.log = [] := by
    decide +kernel
  rw [silent] at claimed
  cases claimed

/-- The engine answers the one request of this run before it has a stream. -/
def single : (rehearsalMachine narrowConfig).Configuration Unit :=
  run (⟨Engine.fresh narrowConfig none, Net.new.dispatch narrowConfig.eventBuffer
    (.sendMessage "alice" [1] "l1" "alice" .normal)⟩, eventLoop narrowConfig)
    ((List.replicate 30 ({} : Choice)).map fun choice =>
      (.answer choice : (rehearsalMachine narrowConfig).Input))

/-- The only request of this run finds room and gets its status. -/
theorem sendRequest_reported_single :
    ∃ accepted, ("l1", accepted) ∈ sendOutcomes single.1.engine.log ∧
      reportsFor "l1" single.1.engine.log = [statusOf accepted] := by
  have created : Engine.new narrowConfig =
      .ok (Engine.fresh narrowConfig (none : Option RehearsalCore)) := rfl
  have continued : Reaches (Promise.any (rehearsalMachine narrowConfig))
      (⟨Engine.fresh narrowConfig none, Net.new.dispatch narrowConfig.eventBuffer
        (.sendMessage "alice" [1] "l1" "alice" .normal)⟩, eventLoop narrowConfig)
      (single.1, single.2) := run_reaches (allAllowed_any _ _)
  exact sendRequest_reported created .refl ⟨rfl, by decide⟩ "alice" [1] "l1" "alice" .normal continued
    (by decide +kernel) (by decide +kernel) (by decide +kernel) (by decide +kernel)

end ConstructEngine
