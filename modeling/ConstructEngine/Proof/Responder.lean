import ConstructEngine.Proof.Inbox
import ConstructEngine.Proof.Sections

namespace ConstructEngine

open Interaction Program Machine

/-- These topics tell what became of a received message. -/
def Topic.tells : Topic → Bool
  | .session | .opening | .healing | .handling | .selection => true
  | _ => false

/-- The event tells what its topic tells. -/
def Event.telling (event : Event) : Bool := event.topic.tells

/-- The trace tells this since the start. -/
def Since (start told log : List Event) : Prop :=
  ∃ more, log = start ++ more ∧ more.filter Event.telling = told

section
variable {start told log : List Event}

/-- At the start nothing has been told. -/
theorem Since.refl (log : List Event) : Since log [] log := ⟨[], (List.append_nil log).symm, rfl⟩

/-- What is appended tells its telling events. -/
theorem Since.append (since : Since start told log) (more : List Event) :
    Since start (told ++ more.filter Event.telling) (log ++ more) := by
  obtain ⟨front, rfl, rfl⟩ := since
  exact ⟨front ++ more, List.append_assoc .., List.filter_append ..⟩

/-- What is told later comes after what was told before. -/
theorem Since.trans {more later : List Event} (since : Since start told log) (further : Since log more later) :
    Since start (told ++ more) later := by
  obtain ⟨rest, rfl, rfl⟩ := further
  exact since.append rest

/-- An event without such a topic tells nothing. -/
theorem Since.quiet (since : Since start told log) {event : Event} (quiet : event.topic.tells = false) :
    Since start told (log ++ [event]) := by
  simpa [Event.telling, quiet] using since.append [event]

/-- An event with such a topic tells itself. -/
theorem Since.tell (since : Since start told log) {event : Event} (telling : event.topic.tells = true) :
    Since start (told ++ [event]) (log ++ [event]) := by
  simpa [Event.telling, telling] using since.append [event]

end

variable {Core A : Type}

/-- These topics neither tell anything nor touch the core or the retries. -/
def Mute (topic : Topic) : Prop :=
  topic.tells = false ∧ topic.cryptographic = false ∧ topic ≠ .retry

/-- What is mute takes nothing up. -/
theorem Mute.aloof {topic : Topic} (mute : Mute topic) : Aloof topic := by
  refine ⟨?_, ?_, mute.2.2⟩ <;> rintro rfl <;> cases mute.1

section
variable [Prost]

/-- A message for the responder has one of these ends, with what the trace tells, what becomes of the
core, and the retry that is spawned. -/
inductive Responded [ConstructCore Core] (message : IncomingMessage) :
    Option Core → List Event → Option Core → Multiset Bytes → Prop
  | refused (core : Option Core) (text : String) :
      Responded message core [.action (.sessionError message.senderId text)] core 0
  | retried {core failed granted : Core} {bundle : X3DHPublicKeyBundle} {first : IncomingFirstMessage}
      {error : String} {attempt retryAfterMs : Nat}
      (init : ConstructCore.initReceivingSessionWithMsg message.senderId bundle first core =
        (.error error, failed))
      (heal : ConstructCore.recordHealAttempt message.senderId
        (ConstructCore.enqueueHeal message.senderId message.wirePayload failed) =
          (.retryAllowed attempt retryAfterMs, granted)) :
      Responded message (some core) [.core (.initReceivingSession message.senderId (.error error)),
        .core (.enqueueHeal message.senderId message.wirePayload),
        .core (.recordHealAttempt message.senderId (.retryAllowed attempt retryAfterMs))]
        (some granted) {retryFrame message}
  | exhausted {core failed denied : Core} {bundle : X3DHPublicKeyBundle} {first : IncomingFirstMessage}
      {error : String} {decision : HealingDecision} (text : String)
      (init : ConstructCore.initReceivingSessionWithMsg message.senderId bundle first core =
        (.error error, failed))
      (heal : ConstructCore.recordHealAttempt message.senderId
        (ConstructCore.enqueueHeal message.senderId message.wirePayload failed) = (decision, denied))
      (final : decision = .maxAttemptsReached ∨ decision = .notFound) :
      Responded message (some core) [.core (.initReceivingSession message.senderId (.error error)),
        .core (.enqueueHeal message.senderId message.wirePayload),
        .core (.recordHealAttempt message.senderId decision),
        .core (.clearHealRecord message.senderId), .action (.sessionError message.senderId text)]
        (some (ConstructCore.clearHealRecord message.senderId denied)) 0
  | established {core opened : Core} {bundle : X3DHPublicKeyBundle} {first : IncomingFirstMessage}
      {answer : String × Bytes}
      (init : ConstructCore.initReceivingSessionWithMsg message.senderId bundle first core =
        (.ok answer, opened)) :
      Responded message (some core) [.core (.initReceivingSession message.senderId (.ok answer)),
        .core (.clearHealRecord message.senderId),
        .action (.sessionEstablished message.senderId message.messageId)]
        (some (ConstructCore.clearHealRecord message.senderId opened)) 0

/-- The responder took the message up and brought it to one of its ends. -/
def Responds [ConstructCore Core] (message : IncomingMessage) (before after : Inbox Core) : Prop :=
  ∃ told spawned, Responded message before.engine.core told after.engine.core spawned ∧
    Since (before.engine.log ++ [.handling .sessionInitResponder message]) told after.engine.log ∧
    after.arrivals = before.arrivals.take .sessionInitResponder message ∧
    after.pending = spawned + before.pending

end

/-- The handler has come to this point. -/
structure Standing (start told : List Event) (core : Option Core) (arrivals : Arrivals)
    (pending : Multiset Bytes) (inbox : Inbox Core) : Prop where
  since : Since start told inbox.engine.log
  core : inbox.engine.core = core
  arrivals : inbox.arrivals = arrivals
  pending : inbox.pending = pending

variable [ConstructCore Core] {config : EngineConfig} {promise : (arrivalMachine Core config).Promise}
  {guard : (arrivalMachine Core config).Guard} {inbox : Inbox Core}

/-- A program of mute operations leaves the handler where it is. -/
theorem mute_inbox {topics : Topic → Prop} (mute : ∀ topic, Engages topics topic → Mute topic)
    (free : ∀ {C : Type} (op : Op Core C) state, op.topic ≠ .handling → guard op state)
    {program : EngineM Core A} (concerns : Concerns topics program) {start told : List Event}
    {core : Option Core} {arrivals : Arrivals} {pending : Multiset Bytes}
    (standing : Standing start told core arrivals pending inbox) :
    InboxSafe promise guard program (fun _ after => Standing start told core arrivals pending after)
      inbox := by
  have each {C : Type} (op : Op Core C) (choice : Choice) (world : World Core) (value : C)
      (after : World Core) (engages : Engages topics op.topic)
      (answered : exec config op choice world = some (value, after))
      (now : Since start told world.engine.log ∧ world.engine.core = core) :
      Since start told after.engine.log ∧ after.engine.core = core := by
    refine ⟨exec_log (Since start told) (fun log event engages now => ?_) engages answered now.1, ?_⟩
    · exact now.quiet (mute _ engages).1
    · exact (exec_core (mute _ engages).2.1 answered).trans now.2
  refine (concerns_inbox (fun engine => Since start told engine.log ∧ engine.core = core)
    (fun topic engages => (mute topic engages).aloof) each
    (fun op state engages => free op state (mute _ engages).aloof.2.1) concerns
    ⟨standing.since, standing.core⟩).weaken fun _ after now => ?_
  exact ⟨now.1.1, now.1.2, now.2.1.trans standing.arrivals, now.2.2.trans standing.pending⟩

section
variable {B : Type} {result : B → Inbox Core → Prop} {start told : List Event} {core : Option Core}
  {arrivals : Arrivals} {pending : Multiset Bytes}

/-- The handler goes on from what the section does to the core. -/
theorem standing_section {region : CoreSection Core A} {rest : A → EngineM Core B} {answer : A}
    {left : Option Core} {calls : List CoreCall} (ran : region.run core = (answer, left, calls))
    (guarded : ∀ state, guard (.core region) state)
    (standing : Standing start told core arrivals pending inbox)
    (later : ∀ next, Standing start (told ++ (calls.map Event.core).filter Event.telling) left arrivals
      pending next → InboxSafe promise guard (rest answer) result next) :
    InboxSafe promise guard (perform (.core region) >>= rest) result inbox := by
  refine inbox_section guarded ?_
  rw [standing.core, ran]
  exact later _ ⟨standing.since.append _, rfl, standing.arrivals, standing.pending⟩

/-- The handler reports and goes on. -/
theorem standing_tell {action : PlatformAction} {rest : Unit → EngineM Core B}
    (session : action.topic = .session) (guarded : ∀ state, guard (.onAction action) state)
    (standing : Standing start told core arrivals pending inbox)
    (later : ∀ next, Standing start (told ++ [.action action]) core arrivals pending next →
      InboxSafe promise guard (rest ()) result next) :
    InboxSafe promise guard (onAction action >>= rest) result inbox := by
  refine inbox_action guarded (later _ ?_)
  refine ⟨standing.since.tell ?_, standing.core, standing.arrivals, standing.pending⟩
  change action.topic.tells = true
  rw [session]
  rfl

/-- The handler may end with a report. -/
theorem standing_last {action : PlatformAction} {result : Unit → Inbox Core → Prop}
    (session : action.topic = .session) (guarded : ∀ state, guard (.onAction action) state)
    (standing : Standing start told core arrivals pending inbox)
    (later : ∀ next, Standing start (told ++ [.action action]) core arrivals pending next →
      result () next) :
    InboxSafe promise guard (onAction action) result inbox := by
  have ends (next : Inbox Core) (now : Standing start (told ++ [.action action]) core arrivals pending next) :
      InboxSafe promise guard (Program.done ()) result next := Owned.safe_done (later next now)
  exact standing_tell session guarded standing ends

end

section
variable [Prost] (free : ∀ {C : Type} (op : Op Core C) state, op.topic ≠ .handling → guard op state)
  {message : IncomingMessage} {told : List Event} {core : Option Core} {before : Inbox Core}
include free

omit [Prost] in
/-- The guard speaks of receptions alone. -/
theorem free_action (reported : PlatformAction) (state : (arrivalMachine Core config).State) :
    guard (.onAction reported) state := by
  refine free _ state fun same => ?_
  have same : reported.topic = .handling := same
  simpa [same] using action_topic reported

omit [Prost] in
/-- The guard asks nothing of the core. -/
theorem free_region {B : Type} (region : CoreSection Core B) (state : (arrivalMachine Core config).State) :
    guard (.core region) state := by
  refine free _ state ?_
  cases region <;> simp [Op.topic, CoreSection.topic]

/-- The responder has taken the message up, and nothing is spawned yet. -/
abbrev Underway (message : IncomingMessage) (before : Inbox Core) (told : List Event) (core : Option Core)
    (inbox : Inbox Core) : Prop :=
  Standing (before.engine.log ++ [.handling .sessionInitResponder message]) told core
    (before.arrivals.take .sessionInitResponder message) before.pending inbox

omit free in
/-- A handler that spawns nothing has ended here. -/
theorem Standing.responds {after : Inbox Core} (standing : Underway message before told core after)
    (responded : Responded message before.engine.core told core 0) : Responds message before after :=
  ⟨told, 0, standing.core ▸ responded, standing.since, standing.arrivals,
    standing.pending.trans (Multiset.zero_add _).symm⟩

/-- A message without the keys of its sender is refused. -/
theorem refused_responds (text : String) (standing : Underway message before [] before.engine.core inbox) :
    InboxSafe promise guard (onAction (.sessionError message.senderId text))
      (fun _ after => Responds message before after) inbox :=
  standing_last rfl (free_action free _) standing fun _ standing => standing.responds (.refused _ text)

/-- Without another attempt the record is cleared, and the failure is reported. -/
theorem exhausted_responds {core failed denied : Core} {bundle : X3DHPublicKeyBundle}
    {first : IncomingFirstMessage} {error : String} {decision : HealingDecision} (text : String)
    (present : before.engine.core = some core)
    (init : ConstructCore.initReceivingSessionWithMsg message.senderId bundle first core = (.error error, failed))
    (heal : ConstructCore.recordHealAttempt message.senderId
      (ConstructCore.enqueueHeal message.senderId message.wirePayload failed) = (decision, denied))
    (final : decision = .maxAttemptsReached ∨ decision = .notFound)
    (standing : Underway message before [.core (.initReceivingSession message.senderId (.error error)),
      .core (.enqueueHeal message.senderId message.wirePayload),
      .core (.recordHealAttempt message.senderId decision)] (some denied) inbox) :
    InboxSafe promise guard (do
      perform (.core (.clearHeal message.senderId))
      onAction (.sessionError message.senderId text))
      (fun _ after => Responds message before after) inbox := by
  refine standing_section rfl (free_region free _) standing fun next standing => ?_
  refine standing_last rfl (free_action free _) standing fun last standing => ?_
  refine standing.responds ?_
  rw [present]
  exact .exhausted text init heal final

omit free [Prost] [ConstructCore Core] in
/-- The bundle fetch and the receipt tell nothing about sessions. -/
theorem quiet_site {site topic : Topic} (listed : site = .rpc keyGetBundle ∨ site = .sending .sendAckFrame)
    (engages : Engages (· = site) topic) : Mute topic := by
  rcases listed with rfl | rfl <;> rcases engages with rfl | rfl | rfl | rfl <;>
    simp [Mute, Topic.tells, Topic.cryptographic]

/-- An accepted session is saved, acknowledged and reported, and its first message is displayed. -/
theorem established_responds {core opened : Core} {bundle : X3DHPublicKeyBundle}
    {first : IncomingFirstMessage} {answer : String × Bytes} (plaintext stateBytes : Bytes)
    (present : before.engine.core = some core)
    (init : ConstructCore.initReceivingSessionWithMsg message.senderId bundle first core = (.ok answer, opened))
    (standing : Underway message before [.core (.initReceivingSession message.senderId (.ok answer))]
      (some opened) inbox) :
    InboxSafe promise guard (do
      perform (.core (.clearHeal message.senderId))
      saveState stateBytes
      sendAckFrame message.messageId
      onAction (.sessionEstablished message.senderId message.messageId)
      if plaintext.isEmpty then return
      else onAction (.displayMessage message.messageId plaintext message.senderId
        message.conversationId message.timestamp))
      (fun _ after => Responds message before after) inbox := by
  refine standing_section rfl (free_region free _) standing fun next standing => ?_
  refine (mute_inbox (fun _ => quiet_site (.inl rfl)) free (concerns_saveState stateBytes) standing).andThen
    fun _ next standing => ?_
  have receipt : Concerns (· = Topic.sending .sendAckFrame) (sendAckFrame message.messageId : EngineM Core Unit) :=
    (built_sendAckFrame (by rfl) _ : Built _ (anyRequest _) _).concerns
  refine (mute_inbox (fun _ => quiet_site (.inr rfl)) free receipt standing).andThen fun _ next standing => ?_
  refine standing_tell rfl (free_action free _) standing fun next standing => ?_
  have displayed : Concerns (· = Topic.rpc keyGetBundle) (if plaintext.isEmpty then pure ()
      else onAction (.displayMessage message.messageId plaintext message.senderId
        message.conversationId message.timestamp) : EngineM Core Unit) := by
    split
    · exact uses_pure ()
    · exact concerns_report rfl
  refine (mute_inbox (fun _ => quiet_site (.inl rfl)) free displayed standing).weaken fun _ after standing => ?_
  refine standing.responds ?_
  rw [present]
  exact .established init

/-- Whatever the answers are, the responder brings the message to one of its ends. -/
theorem handleSessionInitResponder_responds (message : IncomingMessage)
    (guarded : ∀ state, (inboxOwned Core config).view state = inbox →
      guard (.handling .sessionInitResponder message) state) :
    InboxSafe promise guard (handleSessionInitResponder message)
      (fun _ after => Responds message inbox after) inbox := by
  unfold handleSessionInitResponder
  refine inbox_handling guarded ?_
  have start : Underway message inbox [] inbox.engine.core
      ⟨inbox.engine.record (.handling .sessionInitResponder message),
        inbox.arrivals.take .sessionInitResponder message, inbox.pending⟩ :=
    ⟨Since.refl _, rfl, rfl, rfl⟩
  have bundle : Concerns (· = Topic.rpc keyGetBundle) (fetchBundle message.senderId
      "Server returned no pre-key bundle for sender" : EngineM Core (Except String (PreKeyBundle × Bytes))) :=
    (built_fetchBundle (fun _ => rfl) _ _ : Built _ (anyRequest _) _).concerns
  refine (mute_inbox (fun _ => quiet_site (.inl rfl)) free bundle start).andThen
    fun fetched middle standing => ?_
  rcases fetched with text | ⟨bundle, verifyingKey⟩
  · exact refused_responds free text standing
  dsimp only
  cases unpacked : ConstructCore.unpack Core message.wirePayload with
  | error error => exact refused_responds free _ standing
  | ok decoded =>
  cases present : inbox.engine.core with
  | none =>
      -- Without a core no section makes a call, and healing gives up at once.
      have ends (text : String) {last : Inbox Core} (standing : Underway message inbox [] none last) :
          InboxSafe promise guard (onAction (.sessionError message.senderId text))
            (fun _ after => Responds message inbox after) last :=
        refused_responds free text (present.symm ▸ standing)
      rw [present] at standing
      refine standing_section rfl (free_region free _) standing fun next standing => ?_
      refine standing_section rfl (free_region free _) standing fun next standing => ?_
      exact standing_section rfl (free_region free _) standing fun next standing => ends _ standing
  | some core =>
  rw [present] at standing
  rcases CoreSection.receiveAndExport_calls message.senderId (x3dhBundle bundle verifyingKey)
      ⟨decoded.dhPublicKey, decoded.messageNumber, decoded.sealedBox, decoded.oneTimePrekeyId⟩ core with
    ⟨error, text, failed, init, ran⟩ | ⟨sessionId, plaintext, stateBytes, opened, answer, init, ran⟩
  · refine standing_section ran (free_region free _) standing fun next standing => ?_
    obtain ⟨decision, after, heal, ran⟩ :=
      CoreSection.heal_calls message.senderId message.wirePayload failed
    refine standing_section ran (free_region free _) standing fun next standing => ?_
    cases decision with
    | retryAllowed attempt retryAfterMs =>
        refine inbox_retry (fun state => free _ state (by simp [Op.topic])) ⟨_, _, ?_, standing.since,
          standing.arrivals, congrArg ({retryFrame message} + ·) standing.pending⟩
        rw [present, standing.core]
        exact .retried init heal
    | maxAttemptsReached => exact exhausted_responds free _ present init heal (.inl rfl) standing
    | notFound => exact exhausted_responds free _ present init heal (.inr rfl) standing
  · refine standing_section ran (free_region free _) standing fun next standing => ?_
    exact established_responds free plaintext stateBytes present init standing

end

end ConstructEngine
