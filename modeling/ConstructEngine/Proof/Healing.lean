import Mathlib.Data.Multiset.Filter
import ConstructEngine.Proof.Responder
import ConstructEngine.Proof.Routing

namespace ConstructEngine

open Interaction Program Machine

/-- The responder runs for a message of this sender. -/
def Event.runsFor (senderId : String) : Event → Bool
  | .handling .sessionInitResponder message => message.senderId = senderId
  | _ => false

/-- The healing queue allows one more attempt for this sender. -/
def Event.grants (senderId : String) : Event → Bool
  | .core (.recordHealAttempt other (.retryAllowed _ _)) => other = senderId
  | _ => false

/-- The healing record of this sender is cleared. -/
def Event.clears (senderId : String) : Event → Bool
  | .core (.clearHealRecord other) => other = senderId
  | _ => false

/-- Between two clears, the healing queue allows this many attempts at most. -/
def HealBound (limit : Nat) (senderId : String) (log : List Event) : Prop :=
  ∀ before between later, log = before ++ between ++ later →
    (∀ event ∈ between, event.clears senderId = false) → between.countP (Event.grants senderId) ≤ limit

/-- A queue that allows few attempts in all allows few between two clears. -/
theorem healBound_total {limit : Nat} {senderId : String} {log : List Event}
    (few : log.countP (Event.grants senderId) ≤ limit) : HealBound limit senderId log := by
  rintro before between later rfl _
  rw [List.countP_append, List.countP_append] at few
  omega

/-- The action reports the end of the session attempt that this message began. -/
def PlatformAction.settles (message : IncomingMessage) : PlatformAction → Bool
  | .sessionEstablished contactId sessionId =>
      contactId = message.senderId ∧ sessionId = message.messageId
  | .sessionError contactId _ => contactId = message.senderId
  | _ => false

/-- The responder works on a message until something else is taken up. Each report about that message
settles it once. -/
structure Outcomes where
  current : Option IncomingMessage
  settled : List IncomingMessage

/-- A message is in hand until something else is taken up, and its report settles it. -/
def Outcomes.record (outcomes : Outcomes) : Event → Outcomes
  | .handling .sessionInitResponder message => { outcomes with current := some message }
  | .handling .. | .refreshDue _ | .event _ | .frame _ | .action (.connectionStateChanged false) =>
      { outcomes with current := none }
  | .action action => { outcomes with
      settled := outcomes.settled ++
        (outcomes.current.filter fun message => action.settles message).toList }
  | _ => outcomes

/-- The whole trace settles these messages. -/
def outcomes (log : List Event) : Outcomes := log.foldl Outcomes.record ⟨none, []⟩

/-- Outcomes go on with what is appended. -/
theorem outcomes_append (log more : List Event) :
    outcomes (log ++ more) = more.foldl Outcomes.record (outcomes log) := List.foldl_append ..

/-- The last event decides how the outcomes go on. -/
theorem outcomes_snoc (log : List Event) (event : Event) :
    outcomes (log ++ [event]) = (outcomes log).record event := outcomes_append log [event]

/-- What tells nothing leaves the outcomes as they are. -/
theorem record_silent {event : Event} (silent : event.topic.tells = false) (before : Outcomes) :
    before.record event = before := by
  unfold Outcomes.record
  split
  · cases silent
  · cases silent
  · cases silent
  · cases silent
  · cases silent
  · cases silent
  next action other =>
    have quiet : (before.current.filter fun message => action.settles message) = none := by
      have none (message : IncomingMessage) : action.settles message = false := by
        cases action <;> first | rfl | cases silent
      simp [none]
    rw [quiet]
    simp
  · rfl

/-- What takes nothing up leaves the message in hand. -/
theorem record_current {event : Event} (aloof : Aloof event.topic) (before : Outcomes) :
    (before.record event).current = before.current := by
  unfold Outcomes.record
  split
  · exact absurd rfl aloof.2.1
  · exact absurd rfl aloof.2.1
  · exact absurd rfl aloof.1
  · exact absurd rfl aloof.1
  · exact absurd rfl aloof.1
  · exact absurd rfl aloof.1
  · rfl
  · rfl

/-- Without a message in hand nothing is settled. -/
theorem record_settled {event : Event} (aloof : Aloof event.topic) (before : Outcomes)
    (session : event.topic ≠ .session ∨ before.current = none) :
    (before.record event).settled = before.settled := by
  unfold Outcomes.record
  split
  · rfl
  · rfl
  · rfl
  · rfl
  · rfl
  · rfl
  next action other =>
    have quiet : (before.current.filter fun message => action.settles message) = none := by
      rcases session with session | idle
      · have none (message : IncomingMessage) : action.settles message = false := by
          cases action <;> first | rfl | exact absurd rfl session
        simp [none]
      · rw [idle]
        rfl
    simp [quiet]
  · rfl

/-- A run of the responder is told by its first event, and so is the use of the healing queue. -/
theorem telling_runsFor {senderId : String} (event : Event) (runs : event.runsFor senderId = true) :
    event.telling = true := by
  unfold Event.runsFor at runs
  split at runs
  · rfl
  · cases runs

/-- A granted attempt tells. -/
theorem telling_grants {senderId : String} (event : Event) (grants : event.grants senderId = true) :
    event.telling = true := by
  unfold Event.grants at grants
  split at grants
  · rfl
  · cases grants

/-- A cleared record tells. -/
theorem telling_clears {senderId : String} (event : Event) (clears : event.clears senderId = true) :
    event.telling = true := by
  unfold Event.clears at clears
  split at clears
  · rfl
  · cases clears

section
variable {start told log : List Event}

/-- What was told decides the outcomes. -/
theorem Since.outcomes (since : Since start told log) :
    outcomes log = told.foldl Outcomes.record (outcomes start) := by
  obtain ⟨more, rfl, rfl⟩ := since
  rw [outcomes_append]
  generalize ConstructEngine.outcomes start = before
  induction more generalizing before with
  | nil => rfl
  | cons event rest ih =>
      by_cases telling : event.telling = true
      · simp only [List.foldl_cons, List.filter_cons_of_pos telling, ih]
      · have silent : event.topic.tells = false := by simpa [Event.telling] using telling
        simp only [List.foldl_cons, List.filter_cons_of_neg telling, record_silent silent, ih]

/-- What tells can be counted in what was told. -/
theorem Since.count (since : Since start told log) {test : Event → Bool}
    (telling : ∀ event, test event = true → event.telling = true) :
    log.countP test = start.countP test + told.countP test := by
  obtain ⟨more, rfl, rfl⟩ := since
  rw [List.countP_append, List.countP_filter]
  congr 1
  refine List.countP_congr fun event _ => ?_
  constructor
  · exact fun holds => by simp [holds, telling event holds]
  · exact fun both => (Bool.and_eq_true_iff.mp both).1

end

/-- The clears cut the trace into parts with few grants each. -/
theorem grants_bounded {limit : Nat} {senderId : String} {log : List Event}
    (bound : HealBound limit senderId log) :
    log.countP (Event.grants senderId) ≤ limit * (log.countP (Event.clears senderId) + 1) := by
  have parts : ∃ front rest, log = front ++ rest ∧ (∀ event ∈ rest, event.clears senderId = false) ∧
      front.countP (Event.grants senderId) ≤ limit * front.countP (Event.clears senderId) := by
    induction log using List.reverseRecOn with
    | nil => exact ⟨[], [], rfl, nofun, Nat.zero_le _⟩
    | append_singleton log event ih =>
        have earlier : HealBound limit senderId log := by
          rintro before between later rfl
          exact bound before between (later ++ [event]) (by simp)
        obtain ⟨front, rest, rfl, still, few⟩ := ih earlier
        by_cases clears : event.clears senderId = true
        · refine ⟨front ++ rest ++ [event], [], (List.append_nil _).symm, nofun, ?_⟩
          have last := bound front rest [event] rfl still
          have grants : event.grants senderId = false := by
            cases event with
            | core call => cases call <;> first | rfl | cases clears
            | _ => rfl
          simp only [List.countP_append, List.countP_singleton, grants, clears, if_true, if_false,
            Bool.false_eq_true, Nat.mul_add, Nat.mul_one]
          omega
        · refine ⟨front, rest ++ [event], by simp, fun later member => ?_, few⟩
          rcases List.mem_append.mp member with before | last
          · exact still later before
          · rw [List.mem_singleton.mp last]
            simpa using clears
  obtain ⟨front, rest, rfl, still, few⟩ := parts
  have last := bound front rest [] (by simp) still
  have fewer : front.countP (Event.clears senderId) ≤ (front ++ rest).countP (Event.clears senderId) := by
    rw [List.countP_append]
    omega
  have grown := Nat.mul_le_mul_left limit fewer
  rw [List.countP_append, Nat.mul_add, Nat.mul_one]
  omega

/-- These messages come from one sender. -/
def fromSender (senderId : String) (messages : Multiset IncomingMessage) : Multiset IncomingMessage :=
  messages.filter fun message => message.senderId = senderId

section
variable {senderId : String}

/-- No message comes from nowhere. -/
theorem fromSender_zero : fromSender senderId 0 = 0 := Multiset.filter_zero ..

/-- The messages of a sender add up. -/
theorem fromSender_add (first second : Multiset IncomingMessage) :
    fromSender senderId (first + second) = fromSender senderId first + fromSender senderId second :=
  Multiset.filter_add ..

/-- The messages of a sender follow one another. -/
theorem fromSender_append (first second : List IncomingMessage) :
    fromSender senderId (first ++ second : List IncomingMessage) =
      fromSender senderId first + fromSender senderId second := by
  rw [← Multiset.coe_add, fromSender_add]

/-- A message of somebody else does not count. -/
theorem fromSender_other {message : IncomingMessage} (other : message.senderId ≠ senderId) :
    fromSender senderId {message} = 0 := by
  simp [fromSender, Multiset.filter_singleton, other]

/-- A message counts once for its sender. -/
theorem card_fromSender (message : IncomingMessage) :
    (fromSender senderId {message}).card = if message.senderId = senderId then 1 else 0 := by
  unfold fromSender
  rw [Multiset.filter_singleton]
  split <;> rfl

end

variable {Core A : Type} [Prost] [ConstructCore Core]

/-- Every retry carries a first message. Of the messages of this sender, each one that arrived is
settled, waits as a retry, or is due now; and the responder ran once for each settled message and
once for each attempt that the healing queue allowed. -/
structure Steady (Core : Type) [ConstructCore Core] (limit : Nat) (senderId : String)
    (due : Multiset IncomingMessage) (log : List Event) (arrived : List IncomingMessage)
    (pending : Multiset Bytes) : Prop where
  retries : ∃ retries : Multiset IncomingMessage, pending = retries.map retryFrame ∧
    (∀ message ∈ retries, numberOf Core message.wirePayload = some 0 ∧ Fits message) ∧
    fromSender senderId arrived = fromSender senderId (outcomes log).settled +
      fromSender senderId retries + fromSender senderId due
  runs : log.countP (Event.runsFor senderId) =
    (fromSender senderId (outcomes log).settled).card + log.countP (Event.grants senderId)
  clears : log.countP (Event.clears senderId) ≤ (fromSender senderId (outcomes log).settled).card
  grants : log.countP (Event.grants senderId) ≤ limit * (fromSender senderId arrived).card

section
variable {limit : Nat} {senderId : String} {due : Multiset IncomingMessage} {log : List Event}
  {arrived : List IncomingMessage} {pending : Multiset Bytes}

/-- An event that neither settles a message nor tells about a run or about healing changes nothing. -/
theorem Steady.snoc (steady : Steady Core limit senderId due log arrived pending) {event : Event}
    (settled : ((outcomes log).record event).settled = (outcomes log).settled)
    (runs : event.runsFor senderId = false) (healing : event.topic ≠ .healing) :
    Steady Core limit senderId due (log ++ [event]) arrived pending := by
  have grants : event.grants senderId = false := by
    unfold Event.grants
    split
    · exact absurd rfl healing
    · rfl
  have clears : event.clears senderId = false := by
    unfold Event.clears
    split
    · exact absurd rfl healing
    · rfl
  constructor
  · rw [outcomes_snoc, settled]
    exact steady.retries
  · rw [outcomes_snoc, settled]
    simpa [runs, grants] using steady.runs
  · rw [outcomes_snoc, settled]
    simpa [clears] using steady.clears
  · simpa [grants] using steady.grants

/-- A retry of another sender does not count. -/
theorem Steady.forget {message : IncomingMessage}
    (steady : Steady Core limit senderId {message} log arrived pending)
    (other : message.senderId ≠ senderId) :
    Steady Core limit senderId 0 log arrived pending := by
  obtain ⟨retries, same, first, books⟩ := steady.retries
  rw [fromSender_other other] at books
  exact ⟨⟨retries, same, first, books⟩, steady.runs, steady.clears, steady.grants⟩

/-- A message that is due for the responder is counted once, whether it is new or a retry. -/
theorem Steady.arrive {message : IncomingMessage} {arrivals : Arrivals}
    (steady : Steady Core limit senderId (if arrivals.retrying then {message} else 0) log
      arrivals.arrived pending) :
    Steady Core limit senderId {message} log
      (arrivals.take .sessionInitResponder message).arrived pending := by
  unfold Arrivals.take
  cases retrying : arrivals.retrying with
  | true => simpa [retrying] using steady
  | false =>
      simp only [retrying, Bool.false_eq_true, if_false] at steady ⊢
      obtain ⟨retries, same, first, books⟩ := steady.retries
      refine ⟨⟨retries, same, first, ?_⟩, steady.runs, steady.clears, ?_⟩
      · rw [fromSender_append, books, fromSender_zero, Multiset.add_zero]
        rfl
      · refine steady.grants.trans (Nat.mul_le_mul_left limit ?_)
        rw [fromSender_append, Multiset.card_add]
        exact Nat.le_add_right _ _

/-- The due message is settled after one run, and at most one clear came with it. -/
theorem Steady.settle {message : IncomingMessage}
    (steady : Steady Core limit senderId {message} log arrived pending) {later : List Event}
    (settled : (outcomes later).settled = (outcomes log).settled ++ [message])
    (runs : later.countP (Event.runsFor senderId) =
      log.countP (Event.runsFor senderId) + (fromSender senderId {message}).card)
    (grants : later.countP (Event.grants senderId) = log.countP (Event.grants senderId))
    (clears : later.countP (Event.clears senderId) ≤
      log.countP (Event.clears senderId) + (fromSender senderId {message}).card) :
    Steady Core limit senderId 0 later arrived pending := by
  have counted : fromSender senderId (outcomes later).settled =
      fromSender senderId (outcomes log).settled + fromSender senderId {message} := by
    rw [settled, fromSender_append]
    rfl
  obtain ⟨retries, same, first, books⟩ := steady.retries
  constructor
  · refine ⟨retries, same, first, ?_⟩
    rw [books, counted, fromSender_zero, Multiset.add_zero, Multiset.add_assoc,
      Multiset.add_comm (fromSender senderId retries), ← Multiset.add_assoc]
  · rw [runs, grants, counted, Multiset.card_add, steady.runs]
    omega
  · rw [counted, Multiset.card_add]
    exact clears.trans (Nat.add_le_add_right steady.clears _)
  · rw [grants]
    exact steady.grants

/-- The due message becomes a retry after one run that the healing queue allowed. -/
theorem Steady.retry {message : IncomingMessage}
    (steady : Steady Core limit senderId {message} log arrived pending) {later : List Event}
    (first : numberOf Core message.wirePayload = some 0) (fits : Fits message)
    (settled : (outcomes later).settled = (outcomes log).settled)
    (runs : later.countP (Event.runsFor senderId) =
      log.countP (Event.runsFor senderId) + (fromSender senderId {message}).card)
    (grants : later.countP (Event.grants senderId) =
      log.countP (Event.grants senderId) + (fromSender senderId {message}).card)
    (clears : later.countP (Event.clears senderId) = log.countP (Event.clears senderId))
    (bound : HealBound limit senderId later) :
    Steady Core limit senderId 0 later arrived ({retryFrame message} + pending) := by
  obtain ⟨retries, same, carried, books⟩ := steady.retries
  have total := congrArg Multiset.card books
  simp only [Multiset.card_add] at total
  constructor
  · refine ⟨{message} + retries, ?_, ?_, ?_⟩
    · rw [Multiset.map_add, same]
      rfl
    · intro other member
      rcases Multiset.mem_add.mp member with own | earlier
      · rw [Multiset.mem_singleton.mp own]
        exact ⟨first, fits⟩
      · exact carried other earlier
    · rw [settled, books, fromSender_add, fromSender_zero, Multiset.add_zero, Multiset.add_assoc,
        Multiset.add_comm (fromSender senderId retries)]
  · rw [runs, grants, settled, steady.runs]
    omega
  · rw [clears, settled]
    exact steady.clears
  · by_cases own : message.senderId = senderId
    · -- One message of this sender is not settled yet, so the clears leave room for its grant.
      have one : (fromSender senderId {message}).card = 1 := by rw [card_fromSender, if_pos own]
      have few := grants_bounded bound
      have clears := steady.clears
      have room : later.countP (Event.clears senderId) + 1 ≤ (fromSender senderId arrived).card := by
        omega
      exact few.trans (Nat.mul_le_mul_left limit room)
    · rw [grants, fromSender_other own]
      exact steady.grants

/-- The responder brings a due message to its end, and the books are balanced again. -/
theorem Steady.respond {message : IncomingMessage} {before after : Inbox Core}
    (steady : Steady Core limit senderId
      (if before.arrivals.retrying then {message} else 0) before.engine.log before.arrivals.arrived
      before.pending)
    (first : numberOf Core message.wirePayload = some 0) (fits : Fits message)
    (responds : Responds message before after)
    (bound : HealBound limit senderId after.engine.log) :
    Steady Core limit senderId 0 after.engine.log after.arrivals.arrived after.pending := by
  obtain ⟨told, spawned, responded, since, arrivals, pending⟩ := responds
  have arrived := steady.arrive
  have grown := since.outcomes
  have runs := since.count (@telling_runsFor senderId)
  have grants := since.count (@telling_grants senderId)
  have clears := since.count (@telling_clears senderId)
  rw [outcomes_snoc] at grown
  simp only [List.countP_append, List.countP_singleton] at runs grants clears
  rw [arrivals, pending]
  generalize before.engine.core = core at responded
  generalize after.engine.core = left at responded
  cases responded with
  | refused text =>
      rw [Multiset.zero_add]
      refine arrived.settle ?_ ?_ ?_ ?_
      · simp [grown, Outcomes.record, PlatformAction.settles]
      · simp [runs, card_fromSender, Event.runsFor]
      · simp [grants, Event.grants]
      · simp [clears, Event.clears]
  | retried init heal =>
      refine arrived.retry first fits ?_ ?_ ?_ ?_ bound
      · simp [grown, Outcomes.record]
      · simp [runs, card_fromSender, Event.runsFor]
      · simp [grants, card_fromSender, Event.grants, List.countP_cons]
      · simp [clears, Event.clears]
  | exhausted text init heal final =>
      rw [Multiset.zero_add]
      refine arrived.settle ?_ ?_ ?_ ?_
      · simp [grown, Outcomes.record, PlatformAction.settles]
      · simp [runs, card_fromSender, Event.runsFor]
      · rcases final with rfl | rfl <;> simp [grants, Event.grants]
      · simp [clears, card_fromSender, Event.clears, List.countP_cons]
  | established init =>
      rw [Multiset.zero_add]
      refine arrived.settle ?_ ?_ ?_ ?_
      · simp [grown, Outcomes.record, PlatformAction.settles]
      · simp [runs, card_fromSender, Event.runsFor]
      · simp [grants, Event.grants]
      · simp [clears, card_fromSender, Event.clears, List.countP_cons]

/-- An event that is not about a run, a mark or healing leaves the books alone, unless it reports a
session while the responder works. -/
theorem Steady.aloof (steady : Steady Core limit senderId due log arrived pending) {event : Event}
    (aloof : Aloof event.topic) (healing : event.topic ≠ .healing)
    (session : event.topic ≠ .session ∨ (outcomes log).current = none) :
    Steady Core limit senderId due (log ++ [event]) arrived pending := by
  have runs : event.runsFor senderId = false := by
    unfold Event.runsFor
    split
    · exact absurd rfl aloof.2.1
    · rfl
  exact steady.snoc (record_settled aloof _ session) runs healing

/-- The loop takes a retry from the pending ones, and its message becomes due. -/
theorem Steady.take {frame : Bytes}
    (steady : Steady Core limit senderId 0 log arrived (frame ::ₘ pending)) :
    ∃ message, frame = retryFrame message ∧ numberOf Core message.wirePayload = some 0 ∧ Fits message ∧
      Steady Core limit senderId {message} log arrived pending := by
  obtain ⟨retries, same, carried, books⟩ := steady.retries
  have member : frame ∈ retries.map retryFrame := same ▸ Multiset.mem_cons_self frame pending
  obtain ⟨message, waiting, rfl⟩ := Multiset.mem_map.mp member
  obtain ⟨rest, rfl⟩ := Multiset.exists_cons_of_mem waiting
  rw [Multiset.map_cons] at same
  refine ⟨message, rfl, (carried message waiting).1, (carried message waiting).2, ?_, steady.runs,
    steady.clears, steady.grants⟩
  refine ⟨rest, (Multiset.cons_inj_right _).mp same, fun other later =>
    carried other (Multiset.mem_cons_of_mem later), ?_⟩
  rw [books, ← Multiset.singleton_add, fromSender_add, fromSender_zero, Multiset.add_zero,
    Multiset.add_comm (fromSender senderId {message}), Multiset.add_assoc]

end

/-- The healing queue keeps its bound, and every message of the responder fits into a retry. -/
structure HealingRun (limit : Nat) (senderId : String) (log : List Event) : Prop where
  bound : HealBound limit senderId log
  fits : ∀ message, .handling .sessionInitResponder message ∈ log → Fits message

/-- In these runs the healing queue keeps to its limit, and retries fit. -/
abbrev healingPromise (Core : Type) [ConstructCore Core] (config : EngineConfig) (limit : Nat)
    (senderId : String) : (arrivalMachine Core config).Promise :=
  ((Promise.any (engineMachine Core config)).monitored (arrivalLedger Core config)).within
    fun state => HealingRun limit senderId state.1.engine.log

/-- A run of the responder stays within the number of runs. -/
def healingGuard (Core : Type) [ConstructCore Core] (config : EngineConfig) (limit : Nat)
    (senderId : String) : (arrivalMachine Core config).Guard := fun op state =>
  match op with
  | .handling .sessionInitResponder message => message.senderId = senderId →
      (World.engine state.1).log.countP (Event.runsFor senderId) + 1 ≤
        (fromSender senderId (state.2.take .sessionInitResponder message).arrived).card * (limit + 1)
  | _ => True

variable {config : EngineConfig} {limit : Nat} {senderId : String} {inbox : Inbox Core}

/-- The program, begun with this inbox, keeps within the number of runs. -/
abbrev HealingSafe (config : EngineConfig) (limit : Nat) (senderId : String)
    (program : EngineM Core A) (result : A → Inbox Core → Prop) (inbox : Inbox Core) : Prop :=
  InboxSafe (healingPromise Core config limit senderId) (healingGuard Core config limit senderId)
    program result inbox

/-- No handler holds a message, and the engine works on no retry. -/
structure Inbox.Idle (inbox : Inbox Core) : Prop where
  current : (outcomes inbox.engine.log).current = none
  retrying : inbox.arrivals.retrying = false

/-- The books are balanced. -/
structure Inbox.Rests (limit : Nat) (senderId : String) (inbox : Inbox Core) : Prop where
  steady : Steady Core limit senderId 0 inbox.engine.log inbox.arrivals.arrived inbox.pending
  run : HealingRun limit senderId inbox.engine.log

omit [Prost] in
/-- The guard speaks of receptions alone. -/
theorem healingGuard_free {B : Type} (op : Op Core B) (state : (arrivalMachine Core config).State)
    (other : op.topic ≠ .handling) : healingGuard Core config limit senderId op state := by
  cases op with
  | handling => exact absurd rfl other
  | _ => trivial

/-- Programs that are not about runs, marks or healing leave the books alone. -/
theorem steady_concerns {topics : Topic → Prop} {due : Multiset IncomingMessage}
    (calm : ∀ topic, Engages topics topic → Aloof topic ∧ topic ≠ .healing)
    (session : (∀ topic, Engages topics topic → topic ≠ .session) ∨
      (outcomes inbox.engine.log).current = none)
    {program : EngineM Core A} (concerns : Concerns topics program)
    (steady : Steady Core limit senderId due inbox.engine.log inbox.arrivals.arrived inbox.pending)
    (run : HealingRun limit senderId inbox.engine.log) :
    HealingSafe config limit senderId program (fun _ after =>
      (Steady Core limit senderId due after.engine.log after.arrivals.arrived after.pending ∧
        HealingRun limit senderId after.engine.log) ∧
      after.arrivals = inbox.arrivals ∧
      (outcomes after.engine.log).current = (outcomes inbox.engine.log).current) inbox := by
  have each {C : Type} (op : Op Core C) (choice : Choice) (world : World Core) (value : C)
      (after : World Core) (engages : Engages topics op.topic)
      (answered : exec config op choice world = some (value, after))
      (now : Steady Core limit senderId due world.engine.log inbox.arrivals.arrived inbox.pending ∧
        (outcomes world.engine.log).current = (outcomes inbox.engine.log).current) :
      Steady Core limit senderId due after.engine.log inbox.arrivals.arrived inbox.pending ∧
        (outcomes after.engine.log).current = (outcomes inbox.engine.log).current := by
    refine exec_log (fun log => Steady Core limit senderId due log inbox.arrivals.arrived inbox.pending ∧
      (outcomes log).current = (outcomes inbox.engine.log).current) ?_ engages answered now
    intro log event engages now
    obtain ⟨aloof, healing⟩ := calm _ engages
    refine ⟨now.1.aloof aloof healing (session.imp (fun free => free _ engages) fun idle => ?_), ?_⟩
    · exact now.2.trans idle
    · rw [outcomes_snoc, record_current aloof]
      exact now.2
  have kept : HealingSafe config limit senderId program _ inbox := concerns_inbox
    (fun engine => Steady Core limit senderId due engine.log inbox.arrivals.arrived inbox.pending ∧
      (outcomes engine.log).current = (outcomes inbox.engine.log).current)
    (fun topic engages => (calm topic engages).1) each
    (fun op state engages => healingGuard_free op state (calm _ engages).1.2.1) concerns ⟨steady, rfl⟩
  refine (kept.within run).weaken fun _ after now => ?_
  obtain ⟨⟨⟨books, current⟩, arrivals, pending⟩, run⟩ := now
  rw [arrivals, pending]
  exact ⟨⟨books, run⟩, rfl, current⟩

/-- The responder keeps the books, and it runs within the bound. -/
theorem handleSessionInitResponder_rests {message : IncomingMessage}
    (first : numberOf Core message.wirePayload = some 0)
    (steady : Steady Core limit senderId (if inbox.arrivals.retrying then {message} else 0)
      inbox.engine.log inbox.arrivals.arrived inbox.pending)
    (run : HealingRun limit senderId inbox.engine.log) :
    HealingSafe config limit senderId (handleSessionInitResponder message)
      (fun _ after => after.Rests limit senderId ∧ after.arrivals.retrying = inbox.arrivals.retrying)
      inbox := by
  have arrived := steady.arrive
  have within (state : (arrivalMachine Core config).State)
      (same : (inboxOwned Core config).view state = inbox) :
      healingGuard Core config limit senderId (.handling .sessionInitResponder message) state := by
    subst same
    intro own
    obtain ⟨retries, -, -, books⟩ := arrived.retries
    have total := congrArg Multiset.card books
    have runs := arrived.runs
    have grants := arrived.grants
    rw [Multiset.card_add, Multiset.card_add, card_fromSender, if_pos own] at total
    simp only [inboxOwned] at total runs grants ⊢
    rw [Nat.mul_add, Nat.mul_one, Nat.mul_comm]
    omega
  refine ((handleSessionInitResponder_responds healingGuard_free message within).within run).weaken
    fun _ after now => ?_
  obtain ⟨responds, run⟩ := now
  have kept := responds
  obtain ⟨told, spawned, -, ⟨more, grown, -⟩, arrivals, -⟩ := kept
  have fits : Fits message := run.fits message (by rw [grown]; simp)
  refine ⟨⟨steady.respond first fits responds run.bound, run⟩, ?_⟩
  rw [arrivals, Arrivals.take_retrying]

/-- A message that does not go to the responder leaves the books alone. -/
theorem handling_rests {B : Type} {path : ReceivePath} {message : IncomingMessage}
    {rest : Unit → EngineM Core B} {result : B → Inbox Core → Prop}
    (other : path ≠ .sessionInitResponder) (rests : inbox.Rests limit senderId)
    (later : ∀ next : Inbox Core, next.Rests limit senderId → next.arrivals = inbox.arrivals →
      HealingSafe config limit senderId (rest ()) result next) :
    HealingSafe config limit senderId (perform (.handling path message) >>= rest) result inbox := by
  have free (state : (arrivalMachine Core config).State) :
      healingGuard Core config limit senderId (.handling path message) state := by
    cases path <;> trivial
  refine Owned.safe_step (fun state _ => free state) fun state choice value after same kept answered => ?_
  have run := kept.2 value after answered
  obtain ⟨world, arrivals⟩ := state
  obtain ⟨after, written⟩ := after
  obtain ⟨done, wrote⟩ := monitored_exec answered
  cases same
  cases done
  have wrote : written = arrivals := wrote.trans (Arrivals.take_other other arrivals message)
  subst wrote
  refine later _ ⟨?_, run⟩ rfl
  refine rests.steady.snoc ?_ ?_ (by simp [Event.topic]) <;>
    cases path <;> first | rfl | exact absurd rfl other

/-- These topics are not about runs, marks, healing or sessions. -/
def Calm (topic : Topic) : Prop := Aloof topic ∧ topic ≠ .healing ∧ topic ≠ .session

omit [Prost] in
/-- What a calm program engages in is calm. -/
theorem calm_engages {topics : Topic → Prop} (calm : ∀ topic, topics topic → Calm topic) {topic : Topic}
    (engages : Engages topics topic) : Calm topic := by
  rcases engages with rfl | rfl | rfl | own
  · simp [Calm, Aloof]
  · simp [Calm, Aloof]
  · simp [Calm, Aloof]
  · exact calm topic own

/-- A calm program leaves the books balanced. -/
theorem rests_concerns {topics : Topic → Prop} (calm : ∀ topic, topics topic → Calm topic)
    {program : EngineM Core A} (concerns : Concerns topics program) (rests : inbox.Rests limit senderId) :
    HealingSafe config limit senderId program
      (fun _ after => after.Rests limit senderId ∧ after.arrivals = inbox.arrivals) inbox := by
  refine (steady_concerns (fun topic engages => ?_) (.inl fun topic engages => ?_) concerns rests.steady
    rests.run).weaken fun _ after now => ⟨⟨now.1.1, now.1.2⟩, now.2.1⟩
  · exact ⟨(calm_engages calm engages).1, (calm_engages calm engages).2.1⟩
  · exact (calm_engages calm engages).2.2

/-- To decrypt a message leaves the books balanced. -/
theorem handleDecryptMessage_rests (message : IncomingMessage) (rests : inbox.Rests limit senderId) :
    HealingSafe config limit senderId (handleDecryptMessage message)
      (fun _ after => after.Rests limit senderId ∧ after.arrivals = inbox.arrivals) inbox := by
  unfold handleDecryptMessage
  refine handling_rests (by decide) rests fun next rests same => ?_
  let topics (topic : Topic) : Prop := topic = .opening ∨ topic = .sending .sendAckFrame
  have calm (topic : Topic) (listed : topics topic) : Calm topic := by
    rcases listed with rfl | rfl <;> simp [Calm, Aloof]
  refine (rests_concerns calm (uses_bind (concerns_own (.inl rfl)) fun received => ?_) rests).weaken
    fun _ after now => ⟨now.1, now.2.trans same⟩
  rcases received with error | ⟨plaintext, stateBytes⟩
  · exact uses_pure ()
  have receipt : Concerns topics (sendAckFrame message.messageId : EngineM Core Unit) :=
    (built_sendAckFrame (.inr rfl) _ : Built topics (anyRequest topics) _).concerns
  exact uses_bind (concerns_saveState stateBytes) fun _ => uses_bind receipt fun _ => concerns_report rfl

/-- A pending message arrives for the responder, or it leaves the books alone. -/
theorem handlePendingMessage_rests (totals : Nat × Bool) (msg : PendingMessage)
    (rests : inbox.Rests limit senderId) (idle : inbox.arrivals.retrying = false) :
    HealingSafe config limit senderId (handlePendingMessage totals msg)
      (fun _ after => after.Rests limit senderId ∧ after.arrivals.retrying = false) inbox := by
  unfold handlePendingMessage
  dsimp only
  split
  · exact Owned.safe_done ⟨rests, idle⟩
  split
  · exact Owned.safe_done ⟨rests, idle⟩
  next filled =>
  cases unpacked : ConstructCore.unpack Core msg.encryptedPayload with
  | error message => exact Owned.safe_done ⟨rests, idle⟩
  | ok decoded =>
  dsimp only
  split
  next first =>
    have number : numberOf Core msg.encryptedPayload = some 0 := by
      rw [numberOf, if_neg filled, unpacked, ← first]
      rfl
    have steady := rests.steady
    refine Owned.Safe.andThen (handleSessionInitResponder_rests number ?_ rests.run) fun _ next now => ?_
    · rw [idle]
      exact steady
    · exact Owned.safe_done ⟨now.1, now.2.trans idle⟩
  · refine handling_rests (by decide) rests fun next rests same => ?_
    have calm (topic : Topic) (listed : topic = .opening) : Calm topic := by
      rw [listed]
      simp [Calm, Aloof]
    refine (rests_concerns calm (uses_bind (concerns_own rfl) fun answer => ?_) rests).weaken
      fun _ after now => ⟨now.1, by rw [now.2, same, idle]⟩
    rcases answer with error | plaintext
    · exact uses_pure _
    · exact uses_bind (concerns_report rfl) fun _ => uses_bind (concerns_report rfl) fun _ => uses_pure _

end ConstructEngine
