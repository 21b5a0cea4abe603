import ConstructEngine.Proof.Healing
import ConstructEngine.Proof.Rehearsal
import ConstructEngine.Proof.Resubscription

namespace ConstructEngine

open Interaction Program Machine

/-- With a new task the message in hand is forgotten. -/
theorem record_mark {event : Event} (mark : event.topic = .selection) (before : Outcomes) :
    before.record event = { before with current := none } := by
  cases event with
  | action action =>
      cases action
      case connectionStateChanged connected =>
        cases connected
        · rfl
        · cases mark
      all_goals cases mark
  | core call => cases call <;> cases mark
  | handling path => cases mark
  | refreshDue => rfl
  | event => rfl
  | frame => rfl
  | _ => cases mark

/-- The first frame of the queue leaves the pending retries when it is one. -/
theorem pending_cons {net : Net} {queued : QueuedFrame} {rest : List QueuedFrame}
    (front : net.frames = queued :: rest) :
    net.pending = if net.nextIsRetry then queued.frame ::ₘ (Net.pending { net with frames := rest })
      else Net.pending { net with frames := rest } := by
  have first : net.nextIsRetry = queued.origin.isNone := by
    rw [Net.nextIsRetry, front]
    rfl
  rw [first]
  by_cases retry : queued.origin.isNone = true
  · rw [if_pos retry]
    simp only [Net.pending, front, List.filter_cons, retry, if_true, List.map_cons, Multiset.coe_add,
      Multiset.cons_coe, Multiset.coe_eq_coe]
    exact List.perm_middle
  · rw [if_neg retry]
    simp only [Net.pending, front, List.filter_cons, retry, if_false, Bool.false_eq_true]

section
variable {Core A : Type} [Prost] [ConstructCore Core] {config : EngineConfig} {limit : Nat}
  {senderId : String} {inbox : Inbox Core}

/-- A mark ends the work on a message and leaves the books alone. -/
theorem Steady.mark {due : Multiset IncomingMessage} {log : List Event} {arrived : List IncomingMessage}
    {pending : Multiset Bytes} (steady : Steady Core limit senderId due log arrived pending) {event : Event}
    (mark : event.topic = .selection) :
    Steady Core limit senderId due (log ++ [event]) arrived pending ∧
      (outcomes (log ++ [event])).current = none := by
  constructor
  · refine steady.snoc ?_ ?_ (by simp [mark])
    · rw [record_mark mark]
    · unfold Event.runsFor
      split
      · cases mark
      · rfl
  · rw [outcomes_snoc, record_mark mark]

/-- A selection ends the work on every message. A selected retry is due, and every other branch
leaves the books balanced. -/
def Inbox.Taken (limit : Nat) (senderId : String) (branch : Branch) (inbox : Inbox Core) : Prop :=
  match branch with
  | .refresh | .event _ => inbox.Rests limit senderId ∧ inbox.Idle
  | .changed | .tokenChanged => inbox.Rests limit senderId
  | .frame frame => HealingRun limit senderId inbox.engine.log ∧
      if inbox.arrivals.retrying then
        ∃ message, frame = retryFrame message ∧ numberOf Core message.wirePayload = some 0 ∧
          Fits message ∧ Steady Core limit senderId {message} inbox.engine.log inbox.arrivals.arrived
            inbox.pending
      else Steady Core limit senderId 0 inbox.engine.log inbox.arrivals.arrived inbox.pending

/-- A selection finds the books balanced, and a run of the responder stays within its bound. -/
def recoveryGuard (Core : Type) [ConstructCore Core] (config : EngineConfig) (limit : Nat)
    (senderId : String) : (arrivalMachine Core config).Guard := fun op state =>
  (op.takes = true → ((inboxOwned Core config).view state).Rests limit senderId) ∧
    healingGuard Core config limit senderId op state

/-- The program, begun with this inbox, settles its message before the next selection. -/
abbrev RecoverySafe (config : EngineConfig) (limit : Nat) (senderId : String)
    (program : EngineM Core A) (result : A → Inbox Core → Prop) (inbox : Inbox Core) : Prop :=
  InboxSafe (healingPromise Core config limit senderId) (recoveryGuard Core config limit senderId)
    program result inbox

/-- A program that selects nothing is safe when healing is. -/
theorem recovery_untaking {program : EngineM Core A} {result : A → Inbox Core → Prop}
    (uses : program.Uses fun op => op.takes = false)
    (safe : HealingSafe config limit senderId program result inbox) :
    RecoverySafe config limit senderId program result inbox := by
  intro state same
  refine ((safe state same).uses uses).relax fun op state guarded => ⟨fun takes => ?_, guarded.2⟩
  rw [guarded.1] at takes
  cases takes

/-- What is taken up is a task of the healing. -/
theorem select_taken (armed : Bool) (rests : inbox.Rests limit senderId) :
    RecoverySafe config limit senderId (perform (.select armed)) (Inbox.Taken limit senderId) inbox := by
  refine Owned.safe_perform (fun state same => ⟨fun _ => ?_, trivial⟩)
    fun state choice branch after same kept answered => ?_
  · rw [same]
    exact rests
  obtain ⟨world, arrivals⟩ := state
  obtain ⟨after, written⟩ := after
  have run : HealingRun limit senderId after.engine.log := kept.2 branch (after, written) answered
  obtain ⟨done, wrote⟩ := monitored_exec answered
  have done : exec config (.select armed) choice world = some (branch, after) := done
  cases same
  have marked (event : Event) (mark : event.topic = .selection) := rests.steady.mark mark
  obtain ⟨rfl, -, rfl⟩ | ⟨rfl, -, rfl⟩ | ⟨-, ⟨event, rest, -, rfl, rfl⟩ | ⟨-, ⟨frame, rest, front, rfl, rfl⟩ |
    ⟨-, rfl, rfl⟩⟩⟩ := select_effect done
  · cases wrote
    have marked := marked (.refreshDue world.net.clock) rfl
    exact ⟨⟨marked.1, run⟩, marked.2, rfl⟩
  · cases wrote
    exact ⟨rests.steady, run⟩
  · cases wrote
    have marked := marked (.event event) rfl
    exact ⟨⟨marked.1, run⟩, marked.2, rfl⟩
  · cases wrote
    have marked := (marked (.frame frame.frame) rfl).1
    refine ⟨run, ?_⟩
    change if world.net.nextIsRetry = true then _ else _
    have pending := pending_cons front
    split
    next retry =>
      rw [if_pos retry] at pending
      change Steady Core limit senderId 0 _ arrivals.arrived world.net.pending at marked
      rw [pending] at marked
      exact marked.take
    next other =>
      rw [if_neg other] at pending
      change Steady Core limit senderId 0 _ arrivals.arrived world.net.pending at marked
      rw [pending] at marked
      exact marked
  · cases wrote
    exact ⟨rests.steady, run⟩

/-- A retry goes back to the responder, unless it names no sender. -/
theorem handleIncomingFrame_rests
    (codec : ∀ response : MessageStreamResponse, RoundTrips .messageStreamResponse response)
    (named : senderId ≠ "") {frame : Bytes} (taken : inbox.Taken limit senderId (.frame frame)) :
    HealingSafe config limit senderId (handleIncomingFrame frame)
      (fun _ after => after.Rests limit senderId) inbox := by
  obtain ⟨run, taken⟩ := taken
  have cursor (topic : Topic) (same : topic = .cursor) : Calm topic := by
    rw [same]
    simp [Calm, Aloof]
  have dropped {frame : Bytes} (dropped : acceptedIn Core frame = none) (rests : inbox.Rests limit senderId) :
      HealingSafe config limit senderId (handleIncomingFrame frame)
        (fun _ after => after.Rests limit senderId) inbox :=
    (rests_concerns cursor (handleIncomingFrame_dropped dropped) rests).weaken fun _ after now => now.1
  split at taken
  next retry =>
    obtain ⟨message, rfl, first, fits, steady⟩ := taken
    by_cases nameless : message.senderId = ""
    · have forgotten := steady.forget (by rw [nameless]; exact named.symm)
      refine dropped ?_ ⟨forgotten, run⟩
      have unnamed : (retryEnvelope message).senderId.isEmpty = true := (isEmpty_iff_empty _).mpr nameless
      rw [acceptedIn_retry codec fits, Envelope.accepted, if_pos unnamed]
      rfl
    · rw [handleIncomingFrame_retry codec fits nameless first]
      refine (handleSessionInitResponder_rests first ?_ run).weaken fun _ after now => now.1
      rw [if_pos retry]
      exact steady
  next fresh =>
    cases accepted : acceptedIn Core frame with
    | none => exact dropped accepted ⟨taken, run⟩
    | some routed =>
    obtain ⟨envelope, number⟩ := routed
    rw [handleIncomingFrame_accepted accepted]
    refine (rests_concerns cursor (concerns_cursor frame) ⟨taken, run⟩).andThen fun _ next moved => ?_
    have identified : Concerns (· = Topic.cursor) (messageIdOf envelope.messageIdType : EngineM Core String) :=
      (built_messageIdOf _ : Built _ (anyRequest _) _).concerns
    refine (rests_concerns cursor identified moved.1).andThen fun id last named => ?_
    have idle : last.arrivals.retrying = false := by
      rw [named.2, moved.2]
      simpa using fresh
    unfold receiver
    split
    next first =>
      refine (handleSessionInitResponder_rests ?_ ?_ named.1.run).weaken fun _ after now => now.1
      · rw [← first]
        exact numberOf_accepted accepted
      · rw [idle]
        exact named.1.steady
    · exact (handleDecryptMessage_rests _ named.1).weaken fun _ after now => now.1

/-- Every event finds the engine without a message and leaves the books balanced. -/
theorem handleEvent_rests {event : UiEvent} (taken : inbox.Taken limit senderId (.event (some event))) :
    HealingSafe config limit senderId (handleEvent config event)
      (fun _ after => after.Rests limit senderId) inbox := by
  obtain ⟨rests, idle⟩ := taken
  have handled (calm : ∀ topic ∈ event.topics, Aloof topic ∧ topic ≠ .healing) :
      HealingSafe config limit senderId (handleEvent config event)
        (fun _ after => after.Rests limit senderId) inbox := by
    have built : Built (· ∈ event.topics) (anyRequest (· ∈ event.topics))
        (handleEvent config event : EngineM Core Unit) :=
      built_handleEvent config event fun _ member => member
    refine (steady_concerns ?_ (.inr idle.current) built.concerns rests.steady rests.run).weaken
      fun _ after now => ⟨now.1.1, now.1.2⟩
    rintro topic (rfl | rfl | rfl | own)
    · simp [Aloof]
    · simp [Aloof]
    · simp [Aloof]
    · exact calm topic own
  cases event with
  | backgroundPush sinceCursor =>
      let kept (inbox : Inbox Core) : Prop := inbox.Rests limit senderId ∧ inbox.arrivals.retrying = false
      have fetching (topic : Topic) (listed : topic = .keeping ∨ topic = .rpc messagingGetPending) :
          Calm topic := by
        rcases listed with rfl | rfl <;> simp [Calm, Aloof]
      have pushed : Keeps (healingPromise Core config limit senderId)
          (healingGuard Core config limit senderId)
          (fun state => kept ((inboxOwned Core config).view state)) (handleBackgroundPush sinceCursor) := by
        refine handleBackgroundPush_pages ((inboxOwned Core config).stable kept) (fun op engages => ?_)
          (fun totals msg => ?_) sinceCursor
        · refine keeps_owned.mpr fun inbox now => ?_
          exact (rests_concerns fetching (uses_perform engages) now.1).weaken fun _ after kept =>
            ⟨kept.1, by rw [kept.2]; exact now.2⟩
        · exact keeps_owned.mpr fun inbox now => handlePendingMessage_rests totals msg now.1 now.2
      exact (keeps_owned.mp pushed inbox ⟨rests, idle.retrying⟩).weaken fun _ after now => now.1
  | _ => exact handled (by simp [UiEvent.topics, keyCountTopics, loginTopics, Aloof])

/-- The report of a lost connection is a mark too. -/
theorem disconnected_rests (rests : inbox.Rests limit senderId) :
    HealingSafe config limit senderId (onAction (.connectionStateChanged false))
      (fun _ after => after.Rests limit senderId) inbox := by
  refine Owned.safe_perform (fun _ _ => trivial) fun state choice value after same kept answered => ?_
  obtain ⟨world, arrivals⟩ := state
  obtain ⟨after, written⟩ := after
  have run : HealingRun limit senderId after.engine.log := kept.2 value (after, written) answered
  obtain ⟨done, wrote⟩ := monitored_exec answered
  cases same
  cases done
  cases wrote
  have marked := rests.steady.mark (show Event.topic (.action (.connectionStateChanged false)) = .selection from rfl)
  exact ⟨marked.1, run⟩

/-- Between two tasks every arrived message is settled or waits. -/
theorem eventLoop_rests
    (codec : ∀ response : MessageStreamResponse, RoundTrips .messageStreamResponse response)
    (named : senderId ≠ "") :
    Keeps (healingPromise Core config limit senderId) (recoveryGuard Core config limit senderId)
      (fun state => ((inboxOwned Core config).view state).Rests limit senderId) (eventLoop config) := by
  have concerned {B : Type} {topics : Topic → Prop} (unselected : ∀ topic, topics topic → topic ≠ .selection)
      {program : EngineM Core B} (concerns : Concerns topics program) :
      program.Uses fun op => op.takes = false :=
    concerns.mono fun op engages => takes_of_topic (engages.ne (by simp) unselected)
  have reopening (topic : Topic) (listed : topic = .subscription ∨ topic = .closing) : Calm topic := by
    rcases listed with rfl | rfl <;> simp [Calm, Aloof]
  refine eventLoop_owned (Inbox.Taken limit senderId) ?_ ?_ ?_ (fun inbox now => now) ?_ ?_ ?_ ?_
  · intro A op inbox own now
    have calm (topic : Topic) (listed : topic = .loop) : Calm topic := by
      rw [listed]
      simp [Calm, Aloof]
    exact recovery_untaking (concerned (fun topic listed => (calm topic listed).1.1) (uses_perform own))
      ((rests_concerns calm (uses_perform own) now).weaken fun _ after kept => kept.1)
  · exact fun armed inbox now => select_taken armed now
  · intro inbox taken
    have login (topic : Topic) (listed : topic ∈ Topic.rpc authRefresh :: loginTopics) : Calm topic := by
      simp only [loginTopics, List.mem_cons, List.not_mem_nil, or_false] at listed
      rcases listed with rfl | rfl | rfl | rfl <;> simp [Calm, Aloof]
    exact recovery_untaking (concerned (fun topic listed => (login topic listed).1.1) (concerns_refresh config))
      ((rests_concerns login (concerns_refresh config) taken.1).weaken fun _ after kept => kept.1)
  · intro inbox now
    refine (recovery_untaking (uses_perform rfl) (disconnected_rests now)).andThen fun _ next now => ?_
    exact recovery_untaking (concerned (fun topic listed => (reopening topic listed).1.1) concerns_reconnect)
      ((rests_concerns reopening concerns_reconnect now).weaken fun _ after kept => kept.1)
  · intro event inbox taken
    have built : Built (· ∈ event.topics) (anyRequest (· ∈ event.topics))
        (handleEvent config event : EngineM Core Unit) :=
      built_handleEvent config event fun _ member => member
    exact recovery_untaking (concerned (topics_unselected event) built.concerns) (handleEvent_rests taken)
  · intro frame inbox taken
    have built : Built (· ∈ Topic.cursor :: receiveTopics) (anyRequest (· ∈ Topic.cursor :: receiveTopics))
        (handleIncomingFrame frame : EngineM Core Unit) := built_frame frame
    refine recovery_untaking (concerned ?_ built.concerns) (handleIncomingFrame_rests codec named taken)
    simp [receiveTopics]
  · rintro inbox (taken | taken)
    · exact taken.1
    · exact taken

omit [ConstructCore Core] in
/-- A run that keeps to the limit has done so all along. -/
theorem HealingRun.of_append {log more : List Event} (run : HealingRun limit senderId (log ++ more)) :
    HealingRun limit senderId log := by
  constructor
  · rintro before between later rfl
    exact run.bound before between (later ++ more) (by simp)
  · exact fun message member => run.fits message (List.mem_append_left _ member)

omit [Prost] in
/-- Messages that arrived stay arrived. -/
theorem take_grows (arrivals : Arrivals) (path : ReceivePath) (message : IncomingMessage) :
    arrivals.arrived <+: (arrivals.take path message).arrived := by
  unfold Arrivals.take
  split
  · split
    · exact List.prefix_rfl
    · exact List.prefix_append _ _
  · exact List.prefix_rfl

omit [Prost] [ConstructCore Core] in
/-- Nothing that arrived is forgotten. -/
theorem arrivals_grow (op : Op Core A) (world : World Core) (value : A) (arrivals : Arrivals) :
    arrivals.arrived <+: (op.arrivals world value arrivals).arrived := by
  cases op with
  | select => cases value <;> exact List.prefix_rfl
  | handling path message => exact take_grows arrivals path message
  | _ => exact List.prefix_rfl

/-- The responder has run at most once for each message that arrived and each attempt allowed for it. -/
def Bounded (limit : Nat) (senderId : String) (log : List Event) (arrived : List IncomingMessage) : Prop :=
  log.countP (Event.runsFor senderId) ≤ (fromSender senderId arrived).card * (limit + 1)

omit [Prost] in
/-- Without another attempt the bound stays. -/
theorem Bounded.grow {log later : List Event} {arrived more : List IncomingMessage}
    (bounded : Bounded limit senderId log arrived)
    (runs : later.countP (Event.runsFor senderId) = log.countP (Event.runsFor senderId))
    (grown : arrived <+: more) : Bounded limit senderId later more := by
  obtain ⟨new, rfl⟩ := grown
  unfold Bounded at *
  rw [runs, fromSender_append, Multiset.card_add]
  exact bounded.trans (Nat.mul_le_mul_right _ (Nat.le_add_right _ _))

omit [Prost] in
/-- An operation whose guard holds keeps the bound. -/
theorem bounded_exec {op : Op Core A} {choice : Choice} {state after : (arrivalMachine Core config).State}
    {value : A} (guarded : healingGuard Core config limit senderId op state)
    (bounded : Bounded limit senderId state.1.engine.log state.2.arrived)
    (answered : (arrivalMachine Core config).exec op choice state = some (value, after)) :
    Bounded limit senderId after.1.engine.log after.2.arrived := by
  obtain ⟨world, arrivals⟩ := state
  obtain ⟨after, written⟩ := after
  obtain ⟨done, wrote⟩ := monitored_exec answered
  change written = op.arrivals world value arrivals at wrote
  have grown := arrivals_grow op world value arrivals
  rw [← wrote] at grown
  by_cases other : op.topic = .handling
  · cases op with
    | handling path message =>
        cases done
        by_cases own : path = .sessionInitResponder ∧ message.senderId = senderId
        · obtain ⟨rfl, own⟩ := own
          have within := guarded own
          change List.countP (Event.runsFor senderId) (world.engine.log ++ [_]) ≤ _
          change written = arrivals.take .sessionInitResponder message at wrote
          rw [wrote, List.countP_append, List.countP_singleton]
          simpa [Event.runsFor, own] using within
        · refine bounded.grow ?_ grown
          change List.countP (Event.runsFor senderId) (world.engine.log ++ [_]) = _
          have quiet : Event.runsFor senderId (.handling path message) = false := by
            cases path <;> simp_all [Event.runsFor]
          simp [quiet]
    | core region => cases region <;> cases other
    | onAction action =>
        have same : action.topic = .handling := other
        have listed := action_topic action
        simp [same] at listed
    | streamWrite handle => cases handle <;> cases other
    | _ => cases other
  · refine bounded.grow ?_ grown
    refine exec_log (fun log => log.countP (Event.runsFor senderId) = world.engine.log.countP _)
      (fun log event engages same => ?_) (.own other : Engages (· ≠ Topic.handling) op.topic) done rfl
    have quiet : event.runsFor senderId = false := by
      unfold Event.runsFor
      split
      · exact absurd rfl (engages.ne (by simp [Event.topic]) fun topic listed => listed)
      · rfl
    simpa [quiet] using same

variable (Core config) in
/-- The loop gives this frame to the responder with every field of its message, and the frame does not
move the cursor. -/
structure Readmits (frame : Bytes) (message : IncomingMessage) : Prop where
  decoded : ∃ envelope, responseIn frame = some ⟨some (.message envelope), none⟩ ∧
    envelope.messageIdType = some (.messageId message.messageId) ∧
    envelope.message message.messageId = message
  handled : (handleIncomingFrame frame : EngineM Core Unit) = handleSessionInitResponder message
  cursor : ∀ params, Keeps (Promise.any (engineMachine Core config))
    (fun _ world => world.engine.streamParams = params)
    (fun world => world.engine.streamParams = params) (handleIncomingFrame frame)

/-- The frame of a retry brings the message back to the responder. -/
theorem readmits_retry
    (codec : ∀ response : MessageStreamResponse, RoundTrips .messageStreamResponse response)
    {message : IncomingMessage} (named : message.senderId ≠ "")
    (first : numberOf Core message.wirePayload = some 0) (fits : Fits message) :
    Readmits Core config (retryFrame message) message := by
  have handled : (handleIncomingFrame (retryFrame message) : EngineM Core Unit) =
      handleSessionInitResponder message := handleIncomingFrame_retry codec fits named first
  refine ⟨⟨retryEnvelope message, responseIn_retry codec fits, rfl, rfl⟩, handled, fun params => ?_⟩
  rw [handled]
  have built : Built (· ∈ receiveTopics) (anyRequest (· ∈ receiveTopics))
      (handleSessionInitResponder message : EngineM Core Unit) := by
    refine built_handleSessionInitResponder ?_ ?_ ?_ ?_ ?_ ?_ ?_ (fun _ => ?_) message <;>
      simp [anyRequest, receiveTopics]
  refine keeps_of_uses (stable_engine fun engine => engine.streamParams = params) (fun op engages => ?_)
    built.concerns
  refine keeps_perform (stable_engine fun engine => engine.streamParams = params) (fun _ now => now)
    fun world choice value after now _ answered => (exec_params ?_ answered).trans now
  have apart : op.topic ≠ .subscription ∧ op.topic ≠ .cursor :=
    ⟨engages.ne (by simp) (by simp [receiveTopics]), engages.ne (by simp) (by simp [receiveTopics])⟩
  cases op with
  | paramsWrite => exact absurd rfl apart.1
  | paramsCursor => exact absurd rfl apart.2
  | _ => rfl

/-- A run that ends within the bound stays within it. -/
theorem healing_within {promise : (arrivalMachine Core config).Promise}
    {state after : (arrivalMachine Core config).State} {program later : EngineM Core A}
    (reached : Reaches promise (state, program) (after, later))
    (run : HealingRun limit senderId after.1.engine.log) :
    HealingRun limit senderId state.1.engine.log ∧
      Reaches (promise.within fun state => HealingRun limit senderId state.1.engine.log)
        (state, program) (after, later) := by
  have answers {B : Type} (op : Op Core B) (choice : Choice) (state : (arrivalMachine Core config).State)
      (value : B) (after : (arrivalMachine Core config).State)
      (answered : (arrivalMachine Core config).exec op choice state = some (value, after))
      (run : HealingRun limit senderId after.1.engine.log) :
      HealingRun limit senderId state.1.engine.log := by
    obtain ⟨more, grown, -⟩ := exec_traces (monitored_exec answered).1
    rw [grown] at run
    exact run.of_append
  have moves (move : Move) (state after : (arrivalMachine Core config).State)
      (moved : (arrivalMachine Core config).move move state = some after)
      (run : HealingRun limit senderId after.1.engine.log) :
      HealingRun limit senderId state.1.engine.log := by
    obtain ⟨net, -, same⟩ := moveWorld_some (monitored_move moved).1
    rw [same] at run
    exact run
  exact Reaches.within answers moves reached run

/-- Nothing has arrived before the loop starts. -/
theorem fresh_rests {core : Option Core} (run : HealingRun limit senderId []) :
    Inbox.Rests limit senderId
      ((inboxOwned Core config).view (startWorld (Engine.fresh config core), ⟨false, []⟩)) :=
  ⟨⟨⟨0, rfl, nofun, rfl⟩, rfl, Nat.zero_le _, Nat.zero_le _⟩, run⟩

/-- In every run whose healing queue allows at most so many attempts between two clears, the responder
runs at most once more than that for each message of the sender. Whenever the loop waits, each of these
messages is settled by one report or waits in a retry that brings it back unchanged. -/
theorem healing_settles
    (codec : ∀ response : MessageStreamResponse, RoundTrips .messageStreamResponse response)
    {engine : Engine Core} (created : Engine.new config = .ok engine) (named : senderId ≠ "")
    {world : World Core} {arrivals : Arrivals} {later : EngineM Core Unit}
    (reached : Reaches ((Promise.any (engineMachine Core config)).monitored (arrivalLedger Core config))
      ((startWorld engine, ⟨false, []⟩), eventLoop config) ((world, arrivals), later))
    (bound : HealBound limit senderId world.engine.log)
    (fits : ∀ message, .handling .sessionInitResponder message ∈ world.engine.log → Fits message) :
    world.engine.log.countP (Event.runsFor senderId) ≤
      (fromSender senderId arrivals.arrived).card * (limit + 1) ∧
    (isWaiting later = true → ∃ retries : Multiset IncomingMessage,
      world.net.pending = retries.map retryFrame ∧
      (∀ message ∈ fromSender senderId retries, Readmits Core config (retryFrame message) message) ∧
      fromSender senderId arrivals.arrived =
        fromSender senderId (outcomes world.engine.log).settled + fromSender senderId retries) := by
  obtain ⟨core, rfl⟩ := Engine.new_fresh created
  obtain ⟨start, within⟩ := healing_within reached ⟨bound, fits⟩
  have rests : Inbox.Rests limit senderId
      ((inboxOwned Core config).view (startWorld (Engine.fresh config core), ⟨false, []⟩)) := fresh_rests start
  have holds := eventLoop_rests codec named _ rests
  constructor
  · refine holds.invariant (fun state => Bounded limit senderId state.1.engine.log state.2.arrived)
      ?_ ?_ (Nat.zero_le _) within
    · intro move state after bounded _ moved
      obtain ⟨done, same⟩ := monitored_move moved
      obtain ⟨net, -, same'⟩ := moveWorld_some done
      rw [same, same']
      exact bounded
    · exact fun op choice state value after guarded bounded _ answered =>
        bounded_exec guarded.2 bounded answered
  · intro waiting
    obtain ⟨armed, next, rfl⟩ := isWaiting_shape waiting
    obtain ⟨retries, pending, carried, books⟩ := (((holds _ _ within).1 _ _ _ rfl).1 rfl).steady.retries
    refine ⟨retries, pending, fun message member => ?_, ?_⟩
    · obtain ⟨member, own⟩ := Multiset.mem_filter.mp member
      have named : message.senderId ≠ "" := by
        rw [own]
        exact named
      exact readmits_retry codec named (carried message member).1 (carried message member).2
    · rw [fromSender_zero, Multiset.add_zero] at books
      exact books

end

/-- A stream response is written with its envelope or its receipt, if it has one. -/
def streamResponseWire : Wire StreamResponse :=
  (envelopeWire.option.pair (receiptWire.option.pair Wire.nat)).via
    (fun
      | .message envelope => (some envelope, none, 0)
      | .receipt receipt => (none, some receipt, 0)
      | .ack => (none, none, 0)
      | .heartbeatAck => (none, none, 1)
      | .other => (none, none, 2))
    (fun
      | (some envelope, _, _) => .message envelope
      | (_, some receipt, _) => .receipt receipt
      | (none, none, 0) => .ack
      | (none, none, 1) => .heartbeatAck
      | (none, none, _) => .other)
    (by rintro (_ | _ | _ | _ | _) <;> rfl)

/-- A response is written with its cursor last. -/
def responseWire : Wire MessageStreamResponse :=
  (streamResponseWire.option.pair Wire.text.option).via
    (fun response => (response.response, response.streamCursor)) (fun (response, cursor) => ⟨response, cursor⟩)
    fun _ => rfl

/-- This codec writes stream responses in full. -/
abbrev responding : Prost where
  encodeToVec
    | .messageStreamResponse, response => responseWire.put response
    | schema, message => rehearsalEncode schema message
  decode
    | .messageStreamResponse, bytes =>
        match responseWire.take bytes with
        | some (response, _) => .ok response
        | none => .error "malformed response"
    | schema, bytes => rehearsalDecode schema bytes
  hybridKyber1024X25519 := 3
  hybridKyber768X25519 := 2
  e2eeSignal := 1
  scheduled := 1

/-- Such a response is read back. -/
theorem responding_roundTrips (response : MessageStreamResponse) :
    @RoundTrips responding _ .messageStreamResponse response := by
  change (match responseWire.take (responseWire.put response) with
    | some (response, _) => Except.ok response
    | none => .error "malformed response") = .ok response
  rw [responseWire.taken_all]

/-- No first message opens a session, and the healing queue allows one more attempt. -/
abbrev failingCore : ConstructCore RehearsalCore := { rehearsalCore with
  initReceivingSessionWithMsg := fun _ _ _ core => (.error "no session", core)
  recordHealAttempt := fun _ core =>
    if core.sessions.isEmpty then (.retryAllowed 1 1000, { core with sessions := [1] })
    else (.maxAttemptsReached, core)
  clearHealRecord := fun _ core => { core with sessions := [] } }

/-- The server answers requests with one message. -/
def deliveringChoice : Choice :=
  { http := { recvResponse := .ok (⟨200, "200 OK"⟩, []), recvData := [[0, 0, 0, 0, 2, 0, 5]] } }

/-- The only attempt that is allowed fails as the first one did. -/
abbrev failingMachine := @arrivalMachine RehearsalCore failingCore (rehearsalConfig [1] none)

/-- The engine begins with a core that has no session. -/
abbrev failingStart : failingMachine.Configuration Unit :=
  ((startWorld (Engine.fresh (rehearsalConfig [1] none) (some ⟨[], []⟩)), ⟨false, []⟩),
    @eventLoop RehearsalCore failingCore responding (rehearsalConfig [1] none))

/-- The first attempt and its retry both fail. -/
def failedTwice : failingMachine.Configuration Unit :=
  run failingStart
    (.move (Move.dispatch (.backgroundPush none)) :: List.replicate 40 (.answer deliveringChoice) ++
      [.move (Move.tick 1000), .move (Move.retryDue 0)] ++ List.replicate 20 (.answer deliveringChoice))

/-- This run is one of the engine. -/
theorem failedTwice_reaches : Reaches (Promise.any failingMachine) failingStart failedTwice := by
  unfold failedTwice
  exact run_reaches (allAllowed_any _ _)

/-- The retry of this message fits in a frame. -/
def Event.fitting : Event → Bool
  | .handling .sessionInitResponder message => decide ((@retryBody responding message).length < 2 ^ 32)
  | _ => true

/-- The message fails twice, and one report settles it. -/
theorem healing_settles_exhausted :
    failedTwice.1.1.engine.log.countP (Event.runsFor "alice") = 2 ∧
    2 ≤ (fromSender "alice" failedTwice.1.2.arrived).card * (1 + 1) ∧
    fromSender "alice" failedTwice.1.2.arrived =
      fromSender "alice" (outcomes failedTwice.1.1.engine.log).settled := by
  have settles (final : failingMachine.Configuration Unit)
      (reached : Reaches (Promise.any failingMachine) failingStart final)
      (few : final.1.1.engine.log.countP (Event.grants "alice") ≤ 1)
      (fits : final.1.1.engine.log.all Event.fitting = true) (waiting : isWaiting final.2 = true)
      (idle : final.1.1.net.pending.card = 0) :
      final.1.1.engine.log.countP (Event.runsFor "alice") ≤ (fromSender "alice" final.1.2.arrived).card * (1 + 1) ∧
      fromSender "alice" final.1.2.arrived = fromSender "alice" (outcomes final.1.1.engine.log).settled := by
    obtain ⟨⟨world, arrivals⟩, later⟩ := final
    obtain ⟨bounded, settled⟩ := @healing_settles RehearsalCore responding failingCore _ 1 "alice"
      responding_roundTrips _ rfl (by decide) _ _ _ reached (healBound_total few) fun message member => by
        simpa [Event.fitting, Fits] using List.all_eq_true.mp fits _ member
    obtain ⟨retries, pending, -, books⟩ := settled waiting
    have none : retries = 0 := by
      rw [← Multiset.card_eq_zero, ← idle]
      change _ = Multiset.card world.net.pending
      rw [pending, Multiset.card_map]
    rw [none, fromSender_zero, Multiset.add_zero] at books
    exact ⟨bounded, books⟩
  have runs : failedTwice.1.1.engine.log.countP (Event.runsFor "alice") = 2 := by decide +kernel
  have settled := settles _ failedTwice_reaches (by decide +kernel) (by decide +kernel) (by decide +kernel)
    (by decide +kernel)
  exact ⟨runs, runs ▸ settled.1, settled.2⟩

end ConstructEngine
