import ConstructEngine.Proof.Recovery
import ConstructEngine.Proof.Redelivery
import ConstructEngine.Proof.Timer

namespace ConstructEngine

open Interaction Program Machine

section
variable {Core A : Type} [Prost] [ConstructCore Core] {config : EngineConfig} {limit : Nat}
  {senderId : String} {inbox : Inbox Core}

/-- The frame brings a cursor with it. -/
def bringsCursor (frame : Bytes) : Bool := (cursorIn frame).isSome

/-- The engine has a core, and the core decrypts this payload now. -/
def decryptsNow (senderId : String) (wirePayload : Bytes) (core : Option Core) : Bool :=
  core.any fun core => (ConstructCore.decryptBytesFor senderId wirePayload core).1.isOk

omit [Prost] in
/-- To decrypt takes a core and a plaintext. -/
theorem decryptsNow_some {wirePayload : Bytes} {core : Option Core}
    (opened : decryptsNow senderId wirePayload core = true) : ∃ present, core = some present ∧
      ∃ plaintext, (ConstructCore.decryptBytesFor senderId wirePayload present).1 = .ok plaintext := by
  cases core with
  | none => cases opened
  | some present =>
      refine ⟨present, rfl, ?_⟩
      have opened : (ConstructCore.decryptBytesFor senderId wirePayload present).1.isOk = true := opened
      cases answer : (ConstructCore.decryptBytesFor senderId wirePayload present).1 with
      | error message =>
          rw [answer] at opened
          cases opened
      | ok plaintext => exact ⟨plaintext, rfl⟩

/-- The engine decrypts what a frame with a cursor carries. -/
def Op.decrypts : Op Core A → Engine Core → Bool
  | .core (.decryptAndExport senderId wirePayload), engine =>
      match currentTask engine.log with
      | some (.frame frame) => !bringsCursor frame || decryptsNow senderId wirePayload engine.core
      | _ => true
  | _, _ => true

/-- In these runs no message of a frame with a cursor fails to decrypt. -/
def decryptingPromise (Core : Type) [ConstructCore Core] (config : EngineConfig) :
    (engineMachine Core config).Promise where
  answers op _ world := op.decrypts world.engine = true
  moves _ _ := True

instance (A : Type) (op : Op Core A) (choice : (engineMachine Core config).Choice)
    (state : (engineMachine Core config).State) :
    Decidable ((decryptingPromise Core config).answers op choice state) :=
  inferInstanceAs (Decidable (op.decrypts state.engine = true))

instance (move : (engineMachine Core config).Move) (state : (engineMachine Core config).State) :
    Decidable ((decryptingPromise Core config).moves move state) := isTrue trivial

/-- The platform was shown this message. -/
def WasDisplayed (message : IncomingMessage) (log : List Event) : Prop :=
  ∃ plaintext, .action (.displayMessage message.messageId plaintext message.senderId
    message.conversationId message.timestamp) ∈ log

/-- The message of a frame with a cursor has arrived for the responder or was displayed. -/
def Attended (Core : Type) [ConstructCore Core] (frame : Bytes) (inbox : Inbox Core) : Prop :=
  bringsCursor frame = true → ∀ envelope number, acceptedIn Core frame = some (envelope, number) →
    ∃ id, envelope.Identified id ∧
      if number = 0 then envelope.message id ∈ inbox.arrivals.arrived
      else WasDisplayed (envelope.message id) inbox.engine.log

/-- The message of every frame that was taken up is attended. -/
def Inbox.Covers (inbox : Inbox Core) : Prop :=
  ∀ frame, .frame frame ∈ inbox.engine.log → Attended Core frame inbox

/-- The trace and the arrivals have grown, and no frame was taken up. -/
structure Inbox.Grown (before after : Inbox Core) : Prop where
  log : before.engine.log ⊆ after.engine.log
  arrived : before.arrivals.arrived ⊆ after.arrivals.arrived
  frames : ∀ frame, .frame frame ∈ after.engine.log → .frame frame ∈ before.engine.log

/-- The loop still works on the same task. -/
structure Inbox.Working (before after : Inbox Core) : Prop where
  task : currentTask after.engine.log = currentTask before.engine.log
  retrying : after.arrivals.retrying = before.arrivals.retrying

/-- What is attended stays so. -/
theorem Attended.grow {frame : Bytes} {before after : Inbox Core} (covered : Attended Core frame before)
    (log : before.engine.log ⊆ after.engine.log)
    (arrived : before.arrivals.arrived ⊆ after.arrivals.arrived) : Attended Core frame after := by
  intro brings envelope number accepted
  obtain ⟨id, own, fate⟩ := covered brings envelope number accepted
  refine ⟨id, own, ?_⟩
  split at fate
  · rw [if_pos ‹_›]
    exact arrived fate
  · rw [if_neg ‹_›]
    obtain ⟨plaintext, shown⟩ := fate
    exact ⟨plaintext, log shown⟩

/-- While no frame is taken up, the frames stay covered. -/
theorem Inbox.Covers.grow {before after : Inbox Core} (covers : before.Covers) (grown : before.Grown after) :
    after.Covers := fun frame taken => (covers frame (grown.frames frame taken)).grow grown.log grown.arrived

omit [Prost] [ConstructCore Core] in
/-- An inbox has grown from itself. -/
theorem Inbox.Grown.refl (inbox : Inbox Core) : inbox.Grown inbox :=
  ⟨List.Subset.refl _, List.Subset.refl _, fun _ taken => taken⟩

omit [Prost] [ConstructCore Core] in
/-- What has grown twice has grown. -/
theorem Inbox.Grown.trans {before middle after : Inbox Core} (first : before.Grown middle)
    (second : middle.Grown after) : before.Grown after :=
  ⟨fun _ member => second.log (first.log member), fun _ member => second.arrived (first.arrived member),
    fun frame taken => first.frames frame (second.frames frame taken)⟩

/-- A selection finds every frame covered. -/
def coverGuard (Core : Type) [ConstructCore Core] (config : EngineConfig) :
    (arrivalMachine Core config).Guard := fun op state =>
  op.takes = true → ((inboxOwned Core config).view state).Covers

/-- In these runs messages decrypt and the healing queue keeps to its limit. -/
abbrev coverPromise (Core : Type) [ConstructCore Core] (config : EngineConfig) (limit : Nat)
    (senderId : String) : (arrivalMachine Core config).Promise :=
  (((decryptingPromise Core config).monitored (arrivalLedger Core config)).within
    fun state => HealingRun limit senderId state.1.engine.log).guarded
      (recoveryGuard Core config limit senderId)

/-- The program, begun with this inbox, selects only when every frame is covered. -/
abbrev CoverSafe (config : EngineConfig) (limit : Nat) (senderId : String) (program : EngineM Core A)
    (result : A → Inbox Core → Prop) (inbox : Inbox Core) : Prop :=
  InboxSafe (coverPromise Core config limit senderId) (coverGuard Core config) program result inbox

omit [Prost] in
/-- Only a selection takes a frame up. -/
theorem grown_exec {op : Op Core A} (other : op.takes = false) {choice : Choice}
    {state after : (arrivalMachine Core config).State} {value : A}
    (answered : (arrivalMachine Core config).exec op choice state = some (value, after)) :
    ((inboxOwned Core config).view state).Grown ((inboxOwned Core config).view after) := by
  obtain ⟨world, arrivals⟩ := state
  obtain ⟨after, written⟩ := after
  obtain ⟨done, wrote⟩ := monitored_exec answered
  change written = op.arrivals world value arrivals at wrote
  obtain ⟨more, grown, -, traces⟩ := exec_traces done
  constructor
  · change world.engine.log ⊆ after.engine.log
    rw [grown]
    exact List.subset_append_left _ _
  · change arrivals.arrived ⊆ written.arrived
    rw [wrote]
    exact (arrivals_grow op world value arrivals).subset
  · intro frame taken
    change .frame frame ∈ after.engine.log at taken
    rw [grown] at taken
    rcases List.mem_append.mp taken with before | new
    · exact before
    · rw [takes_of_frame (traces _ new)] at other
      cases other

omit [Prost] in
/-- Only a selection begins another task. -/
theorem working_exec {op : Op Core A} (other : op.topic ≠ .selection) {choice : Choice}
    {state after : (arrivalMachine Core config).State} {value : A}
    (answered : (arrivalMachine Core config).exec op choice state = some (value, after)) :
    ((inboxOwned Core config).view state).Working ((inboxOwned Core config).view after) := by
  obtain ⟨world, arrivals⟩ := state
  obtain ⟨after, written⟩ := after
  obtain ⟨done, wrote⟩ := monitored_exec answered
  change written = op.arrivals world value arrivals at wrote
  refine ⟨exec_task other done, ?_⟩
  change written.retrying = arrivals.retrying
  rw [wrote]
  cases op with
  | select => exact absurd rfl other
  | handling path message => exact arrivals.take_retrying path message
  | _ => rfl

/-- A handler lets the trace and the arrivals grow, and the loop works on the same task. -/
theorem grows {program : EngineM Core A} (uses : program.Uses fun op => op.topic ≠ .selection) :
    CoverSafe config limit senderId program (fun _ after => inbox.Grown after ∧ inbox.Working after)
      inbox := by
  refine Owned.safe_of_uses (fun after : Inbox Core => inbox.Grown after ∧ inbox.Working after) ?_ ?_ uses
    ⟨.refl _, rfl, rfl⟩
  · intro B op state other _ takes
    rw [takes_of_topic other] at takes
    cases takes
  · intro B op choice state value after other now _ answered
    have working := working_exec other answered
    exact ⟨now.1.trans (grown_exec (takes_of_topic other) answered), working.task.trans now.2.task,
      working.retrying.trans now.2.retrying⟩

omit [Prost] [ConstructCore Core] in
/-- A message that is taken up adds to the inbox. -/
theorem grown_handling (inbox : Inbox Core) (path : ReceivePath) (message : IncomingMessage) :
    inbox.Grown ⟨inbox.engine.record (.handling path message), inbox.arrivals.take path message,
      inbox.pending⟩ := by
  refine ⟨List.subset_append_left _ _, (take_grows _ path message).subset, fun frame taken => ?_⟩
  rcases List.mem_append.mp taken with before | new
  · exact before
  · cases List.mem_singleton.mp new

omit [Prost] [ConstructCore Core] in
/-- A program without that topic selects nothing. -/
theorem unselected {topics : Topic → Prop} (other : ∀ topic, topics topic → topic ≠ .selection)
    {program : EngineM Core A} (concerns : Concerns topics program) :
    program.Uses fun op => op.topic ≠ .selection :=
  concerns.mono fun op engages => engages.ne (by simp) other

/-- The message for the responder has arrived when it was taken up. -/
theorem handleSessionInitResponder_covers {message : IncomingMessage} (fresh : inbox.arrivals.retrying = false) :
    CoverSafe config limit senderId (handleSessionInitResponder message)
      (fun _ after => inbox.Grown after ∧ message ∈ after.arrivals.arrived) inbox := by
  have built : Built (· ∈ receiveTopics) (anyRequest (· ∈ receiveTopics))
      (handleSessionInitResponder message : EngineM Core Unit) := by
    refine built_handleSessionInitResponder ?_ ?_ ?_ ?_ ?_ ?_ ?_ (fun _ => ?_) message <;>
      simp [anyRequest, receiveTopics]
  have uses := unselected (by simp [receiveTopics]) built.concerns
  unfold handleSessionInitResponder at uses ⊢
  refine inbox_handling (fun _ _ takes => by cases takes) ?_
  have arrived : message ∈ (inbox.arrivals.take .sessionInitResponder message).arrived := by
    simp [Arrivals.take, fresh]
  refine (grows (uses.2 ())).weaken fun _ after now => ?_
  exact ⟨(grown_handling inbox .sessionInitResponder message).trans now.1, now.1.arrived arrived⟩

/-- The message is displayed when the core decrypts it. -/
theorem handleDecryptMessage_covers {message : IncomingMessage} {frame : Bytes}
    (brings : bringsCursor frame = true) (task : currentTask inbox.engine.log = some (.frame frame)) :
    CoverSafe config limit senderId (handleDecryptMessage message)
      (fun _ after => inbox.Grown after ∧ WasDisplayed message after.engine.log) inbox := by
  unfold handleDecryptMessage
  refine inbox_handling (fun _ _ takes => by cases takes) ?_
  have handled := grown_handling inbox .decryptMessage message
  refine Owned.safe_step (fun _ _ takes => by cases takes) fun state choice answer after same kept answered => ?_
  have decrypting : (Op.core (.decryptAndExport message.senderId message.wirePayload)).decrypts
      state.1.engine = true := kept.1.1
  have grown := grown_exec rfl answered
  rw [same] at grown
  have engine : state.1.engine = inbox.engine.record (.handling .decryptMessage message) :=
    congrArg Inbox.engine same
  have working : currentTask state.1.engine.log = some (.frame frame) := by
    rw [engine, ← task]
    exact currentTask_snoc _ (by simp [Event.topic])
  have opened : decryptsNow message.senderId message.wirePayload state.1.engine.core = true := by
    simpa [Op.decrypts, working, brings] using decrypting
  obtain ⟨core, present, plaintext, decrypted⟩ := decryptsNow_some opened
  obtain ⟨stateBytes, rfl⟩ : ∃ stateBytes, answer = .ok (plaintext, stateBytes) := by
    have value : (CoreSection.run (.decryptAndExport message.senderId message.wirePayload)
        state.1.engine.core).1 = answer :=
      congrArg Prod.fst (Option.some.inj (monitored_exec answered).1)
    rw [present] at value
    rcases CoreSection.decryptAndExport_calls message.senderId message.wirePayload core with
      ⟨error, text, after, failed, ran⟩ | ⟨opened, stateBytes, after, exported, ok, ran⟩
    · rw [failed] at decrypted
      cases decrypted
    · rw [ran] at value
      rw [ok] at decrypted
      cases decrypted
      exact ⟨stateBytes, value.symm⟩
  have saved : (saveState stateBytes : EngineM Core Unit).Uses fun op => op.topic ≠ .selection :=
    unselected (fun topic none => none.elim) (concerns_saveState stateBytes : Concerns (fun _ => False) _)
  have receipt : (sendAckFrame message.messageId : EngineM Core Unit).Uses fun op => op.topic ≠ .selection := by
    have built : Built (· = Topic.sending .sendAckFrame) (anyRequest (· = Topic.sending .sendAckFrame))
        (sendAckFrame message.messageId : EngineM Core Unit) := built_sendAckFrame (by rfl) _
    exact unselected (fun topic same => by rw [same]; simp) built.concerns
  refine (grows saved).andThen fun _ middle first => ?_
  refine (grows receipt).andThen fun _ last second => ?_
  have before := ((handled.trans grown).trans first.1).trans second.1
  refine Owned.safe_perform (fun _ _ takes => by cases takes) fun state choice value after same _ answered => ?_
  have shown := grown_exec rfl answered
  rw [same] at shown
  refine ⟨before.trans shown, plaintext, ?_⟩
  obtain ⟨world, arrivals⟩ := state
  obtain ⟨done, -⟩ := monitored_exec answered
  obtain ⟨after, written⟩ := after
  cases done
  exact List.mem_append_right _ (List.mem_singleton_self _)

/-- A frame with a cursor is covered when its handler ends. -/
theorem handleIncomingFrame_covers {frame : Bytes}
    (fresh : bringsCursor frame = true → inbox.arrivals.retrying = false)
    (task : currentTask inbox.engine.log = some (.frame frame)) :
    CoverSafe config limit senderId (handleIncomingFrame frame)
      (fun _ after => inbox.Grown after ∧ Attended Core frame after) inbox := by
  have uses : (handleIncomingFrame frame : EngineM Core Unit).Uses fun op => op.topic ≠ .selection := by
    exact unselected (by simp [receiveTopics]) (built_frame frame).concerns
  by_cases brings : bringsCursor frame = true
  · have fresh := fresh brings
    cases accepted : acceptedIn Core frame with
    | none =>
        refine (grows uses).weaken fun _ after now => ⟨now.1, fun _ envelope number routed => ?_⟩
        rw [accepted] at routed
        cases routed
    | some routed =>
    obtain ⟨envelope, number⟩ := routed
    rw [handleIncomingFrame_accepted accepted]
    have reading {topic : Topic} (same : topic = .cursor) : topic ≠ .selection := by
      rw [same]
      simp
    refine (grows (unselected (fun _ => reading) (concerns_cursor frame))).andThen fun _ next moved => ?_
    have identified : CoverSafe config limit senderId (messageIdOf envelope.messageIdType) _ next :=
      messageIdOf_identified ⟨.refl next, rfl, rfl⟩ (grows (unselected (fun _ => reading) fresh_reading))
    refine identified.andThen fun id last named => ?_
    obtain ⟨own, grown, same⟩ := named
    have before := moved.1.trans grown
    have working : currentTask last.engine.log = some (.frame frame) :=
      (same.task.trans moved.2.task).trans task
    unfold receiver
    split
    next first =>
      refine (handleSessionInitResponder_covers ((same.retrying.trans moved.2.retrying).trans fresh)).weaken
        fun _ after now => ⟨before.trans now.1, fun _ other known routed => ?_⟩
      cases accepted.symm.trans routed
      refine ⟨id, own, ?_⟩
      rw [if_pos first]
      exact now.2
    next later =>
      refine (handleDecryptMessage_covers brings working).weaken
        fun _ after now => ⟨before.trans now.1, fun _ other known routed => ?_⟩
      cases accepted.symm.trans routed
      refine ⟨id, own, ?_⟩
      rw [if_neg later]
      exact now.2
  · exact (grows uses).weaken fun _ after now => ⟨now.1, fun claimed => absurd claimed brings⟩

/-- A selected frame with a cursor is no retry, and the frames before it are covered. -/
def Inbox.Faces (branch : Branch) (inbox : Inbox Core) : Prop :=
  match branch with
  | .frame frame => currentTask inbox.engine.log = some (.frame frame) ∧
      (bringsCursor frame = true → inbox.arrivals.retrying = false) ∧
      ∀ other, .frame other ∈ inbox.engine.log → other = frame ∨ Attended Core other inbox
  | _ => inbox.Covers

/-- A frame that is taken up is the task in hand, and a retry brings no cursor. -/
theorem select_faces (codec : ∀ response : MessageStreamResponse, RoundTrips .messageStreamResponse response)
    (armed : Bool) (covers : inbox.Covers) :
    CoverSafe config limit senderId (perform (.select armed)) Inbox.Faces inbox := by
  refine Owned.safe_perform (fun state same _ => ?_) fun state choice branch after same kept answered => ?_
  · rw [same]
    exact covers
  obtain ⟨world, arrivals⟩ := state
  obtain ⟨after, written⟩ := after
  have rests : Inbox.Rests limit senderId ((inboxOwned Core config).view (world, arrivals)) := kept.2.1 rfl
  obtain ⟨done, wrote⟩ := monitored_exec answered
  have done : exec config (.select armed) choice world = some (branch, after) := done
  rw [← same] at covers
  have marked (event : Event) (other : ∀ frame, event ≠ .frame frame) :
      ((inboxOwned Core config).view (world, arrivals)).Grown
        ⟨world.engine.record event, ⟨false, arrivals.arrived⟩, world.net.pending⟩ := by
    refine ⟨List.subset_append_left _ _, List.Subset.refl _, fun frame taken => ?_⟩
    rcases List.mem_append.mp taken with before | new
    · exact before
    · exact absurd (List.mem_singleton.mp new).symm (other frame)
  obtain ⟨rfl, -, rfl⟩ | ⟨rfl, -, rfl⟩ | ⟨-, ⟨event, rest, -, rfl, rfl⟩ | ⟨-, ⟨frame, rest, front, rfl, rfl⟩ |
    ⟨-, rfl, rfl⟩⟩⟩ := select_effect done
  · cases wrote
    exact covers.grow (marked _ nofun)
  · cases wrote
    exact covers.grow ⟨fun _ member => member, fun _ member => member, fun _ taken => taken⟩
  · cases wrote
    exact covers.grow (marked _ nofun)
  · cases wrote
    refine ⟨currentTask_mark _ rfl, fun brings => ?_, fun other taken => ?_⟩
    · -- A retry is a pending frame, and it has no cursor.
      change world.net.nextIsRetry = false
      by_contra retry
      have retry : world.net.nextIsRetry = true := by simpa using retry
      obtain ⟨retries, same, carried, -⟩ := rests.steady.retries
      have pending := pending_cons front
      rw [if_pos retry] at pending
      have member : frame.frame ∈ retries.map retryFrame := by
        rw [← same]
        change frame.frame ∈ world.net.pending
        rw [pending]
        exact Multiset.mem_cons_self _ _
      obtain ⟨message, waiting, carries⟩ := Multiset.mem_map.mp member
      rw [← carries, bringsCursor, cursorIn_retry codec (carried message waiting).2] at brings
      cases brings
    · rcases List.mem_append.mp taken with before | new
      · exact .inr ((covers other before).grow (List.subset_append_left _ _) (List.Subset.refl _))
      · cases List.mem_singleton.mp new
        exact .inl rfl
  · cases wrote
    exact covers.grow ⟨fun _ member => member, fun _ member => member, fun _ taken => taken⟩

/-- Each frame is attended before the next selection. -/
theorem eventLoop_covers
    (codec : ∀ response : MessageStreamResponse, RoundTrips .messageStreamResponse response) :
    Keeps (coverPromise Core config limit senderId) (coverGuard Core config)
      (fun state => ((inboxOwned Core config).view state).Covers) (eventLoop config) := by
  have handled {B : Type} {topics : Topic → Prop} (other : ∀ topic, topics topic → topic ≠ .selection)
      {program : EngineM Core B} (concerns : Concerns topics program) {inbox : Inbox Core} (now : inbox.Covers) :
      CoverSafe config limit senderId program (fun _ after => after.Covers) inbox :=
    (grows (unselected other concerns)).weaken fun _ after grown => now.grow grown.1
  refine eventLoop_owned Inbox.Faces ?_ (fun armed inbox now => select_faces codec armed now) ?_
    (fun inbox now => now) ?_ ?_ ?_ (fun inbox now => now.elim id id)
  · intro A op inbox own now
    exact handled (fun topic listed => by rw [listed]; simp) (uses_perform own) now
  · exact fun inbox now => handled (by simp [loginTopics]) (concerns_refresh config) now
  · intro inbox now
    have reported : CoverSafe config limit senderId (onAction (.connectionStateChanged false))
        (fun _ after => after.Covers) inbox := by
      refine Owned.safe_perform (fun _ _ takes => by cases takes) fun state choice value after same _ answered => ?_
      rw [← same] at now
      exact now.grow (grown_exec rfl answered)
    exact reported.andThen fun _ next now => handled (by simp) concerns_reconnect now
  · intro event inbox now
    exact handled (topics_unselected event) (built_handleEvent config event fun _ member => member).concerns now
  · intro frame inbox now
    obtain ⟨task, fresh, before⟩ := now
    refine (handleIncomingFrame_covers fresh task).weaken fun _ after covered => fun other taken => ?_
    rcases before other (covered.1.frames other taken) with rfl | earlier
    · exact covered.2
    · exact earlier.grow covered.1.log covered.1.arrived

/-- The message of the envelope was reported, or it waits for another attempt of the responder. -/
def Resolved (Core : Type) (envelope : Envelope) (number : Nat) (world : World Core) : Prop :=
  ∃ id, envelope.Identified id ∧
    if number = 0 then envelope.message id ∈ (outcomes world.engine.log).settled ∨
      retryFrame (envelope.message id) ∈ world.net.pending
    else WasDisplayed (envelope.message id) world.engine.log

/-- The message of every frame that was taken up with the stored cursor is resolved. -/
def CursorCovered (world : World Core) : Prop :=
  ∀ params cursor frame, world.engine.streamParams = some params → params.lastCursor = some cursor →
    .frame frame ∈ world.engine.log → cursorIn frame = some cursor →
    ∀ envelope number, acceptedIn Core frame = some (envelope, number) →
      Resolved Core envelope number world

/-- In every run in which the core decrypts the messages that come with a cursor, the stored cursor is
covered whenever the loop waits. -/
theorem cursor_covered
    (codec : ∀ response : MessageStreamResponse, RoundTrips .messageStreamResponse response)
    {engine : Engine Core} (created : Engine.new config = .ok engine) {world : World Core}
    {later : EngineM Core Unit}
    (reached : Reaches (decryptingPromise Core config) (startWorld engine, eventLoop config) (world, later))
    (fits : ∀ message, .handling .sessionInitResponder message ∈ world.engine.log → Fits message)
    (waiting : isWaiting later = true) : CursorCovered world := by
  intro params cursor frame stored last taken carried envelope number accepted
  obtain ⟨core, rfl⟩ := Engine.new_fresh created
  obtain ⟨armed, next, rfl⟩ := isWaiting_shape waiting
  have named := senderId_accepted accepted
  let limit := world.engine.log.countP (Event.grants envelope.senderId)
  obtain ⟨arrivals, reached⟩ := reached.monitored (arrivalLedger Core config) ⟨false, []⟩
  have run : HealingRun limit envelope.senderId world.engine.log := ⟨healBound_total (Nat.le_refl _), fits⟩
  obtain ⟨start, within⟩ := healing_within reached run
  have rests : Inbox.Rests limit envelope.senderId
      ((inboxOwned Core config).view (startWorld (Engine.fresh config core), ⟨false, []⟩)) := fresh_rests start
  have holds := eventLoop_rests codec named _ rests
  have weaker {last : (arrivalMachine Core config).Configuration Unit}
      (path : Reaches (((decryptingPromise Core config).monitored (arrivalLedger Core config)).within
        fun state => HealingRun limit envelope.senderId state.1.engine.log)
        ((startWorld (Engine.fresh config core), ⟨false, []⟩), eventLoop config) last) :
      Reaches (healingPromise Core config limit envelope.senderId)
        ((startWorld (Engine.fresh config core), ⟨false, []⟩), eventLoop config) last := by
    refine Reaches.mono ?_ ?_ path
    · exact fun _ _ _ kept => ⟨trivial, kept.2⟩
    · exact fun _ _ kept => ⟨trivial, kept.2⟩
  have covers : Inbox.Covers ((inboxOwned Core config).view (world, arrivals)) :=
    (eventLoop_covers codec _ (fun _ taken => by cases taken) _ _ (holds.guarded weaker within)).1 _ _ _ rfl rfl
  have settled := (((holds _ _ (weaker within)).1 _ _ _ rfl).1 rfl).steady.retries
  have brings : bringsCursor frame = true := by
    rw [bringsCursor, carried]
    rfl
  obtain ⟨id, own, fate⟩ := covers frame taken brings envelope number accepted
  refine ⟨id, own, ?_⟩
  split
  next first =>
    rw [if_pos first] at fate
    obtain ⟨retries, pending, -, books⟩ := settled
    rw [fromSender_zero, Multiset.add_zero] at books
    change fromSender envelope.senderId arrivals.arrived = _ at books
    have arrived : envelope.message id ∈ fromSender envelope.senderId arrivals.arrived :=
      Multiset.mem_filter.mpr ⟨fate, rfl⟩
    rw [books] at arrived
    rcases Multiset.mem_add.mp arrived with done | waits
    · exact .inl (Multiset.mem_filter.mp done).1
    · refine .inr ?_
      change world.net.pending = _ at pending
      rw [pending]
      exact Multiset.mem_map_of_mem _ (Multiset.mem_filter.mp waits).1
  next later =>
    rw [if_neg later] at fate
    exact fate

end

section
attribute [local instance] responding

/-- The server sends the second message of alice with a cursor. -/
def secondFrame : Bytes := encodeGrpcFrame (responseWire.put ⟨some (.message {
  sender := some ⟨"alice"⟩
  encryptedPayload := [1, 5]
  messageIdType := some (.messageId "m2")
  conversationId := "alice" }), some "7"⟩)

/-- The frame carries an accepted envelope with the number one. -/
theorem secondFrame_accepted : ∃ envelope, acceptedIn RehearsalCore secondFrame = some (envelope, 1) := by
  have read : (acceptedIn RehearsalCore secondFrame).map Prod.snd = some 1 := by decide +kernel
  obtain ⟨⟨envelope, number⟩, accepted, same⟩ := Option.map_eq_some_iff.mp read
  cases same
  exact ⟨envelope, accepted⟩

/-- The engine begins with these keys and this core. -/
abbrev secondStart (keys : Bytes) (core : Option RehearsalCore) :
    (rehearsalMachine (rehearsalConfig keys none)).Configuration Unit :=
  (startWorld (Engine.fresh (rehearsalConfig keys none) core), eventLoop (rehearsalConfig keys none))

/-- The stream is opened, its pump reads the frame, and the loop takes it up. -/
def secondInputs (keys : Bytes) : List (rehearsalMachine (rehearsalConfig keys none)).Input :=
  .move (Move.dispatch (.openMessageStream ["c"] none)) :: List.replicate 40 (.answer openChoice) ++
    [.move (Move.pump 0 .queueEmpty), .move (Move.pump 0 (.chunk secondFrame))] ++
    List.replicate 20 (.answer openChoice)

/-- The platform opens the stream, and the frame comes. -/
def secondSent (keys : Bytes) (core : Option RehearsalCore) :
    (rehearsalMachine (rehearsalConfig keys none)).Configuration Unit :=
  run (secondStart keys core) (secondInputs keys)

/-- This run has taken up the frame and stores its cursor. -/
def storesSecond (world : World RehearsalCore) : Bool :=
  (world.engine.streamParams.bind StreamParams.lastCursor == some "7") && world.engine.log.any fun
    | .frame frame => frame = secondFrame
    | _ => false

/-- With its cursor stored, the message must be resolved. -/
theorem storesSecond_resolved {world : World RehearsalCore} (stores : storesSecond world = true)
    (covered : CursorCovered world) : ∃ envelope, Resolved RehearsalCore envelope 1 world := by
  obtain ⟨envelope, accepted⟩ := secondFrame_accepted
  obtain ⟨last, taken⟩ := Bool.and_eq_true_iff.mp stores
  obtain ⟨params, stored, last⟩ := Option.bind_eq_some_iff.mp (beq_iff_eq.mp last)
  obtain ⟨event, member, same⟩ := List.any_eq_true.mp taken
  refine ⟨envelope, covered params "7" secondFrame stored last ?_ (by decide +kernel) envelope 1 accepted⟩
  split at same
  · rw [← of_decide_eq_true same]
    exact member
  · cases same

/-- The platform is shown no message, and the responder takes up none. -/
def Event.undisplayed : Event → Bool
  | .action (.displayMessage ..) => false
  | _ => true

def Event.unresponding : Event → Bool
  | .handling .sessionInitResponder _ => false
  | _ => true

/-- Without a core the message is dropped, and the cursor has moved past it. -/
theorem cursor_covered_fails :
    ¬ ∀ final : (rehearsalMachine (rehearsalConfig [] none)).Configuration Unit,
      Reaches (Promise.any (rehearsalMachine (rehearsalConfig [] none))) (secondStart [] none) final →
      isWaiting final.2 = true → CursorCovered final.1 := by
  intro covered
  have reached : Reaches (Promise.any (rehearsalMachine (rehearsalConfig [] none))) (secondStart [] none)
      (secondSent [] none) := by
    unfold secondSent
    exact run_reaches (allAllowed_any _ _)
  obtain ⟨envelope, id, -, fate⟩ := storesSecond_resolved (by decide +kernel) (covered _ reached (by decide +kernel))
  obtain ⟨plaintext, shown⟩ := fate
  have silent : (secondSent [] none).1.engine.log.all Event.undisplayed = true := by decide +kernel
  cases List.all_eq_true.mp silent _ shown

/-- The core decrypts the message, and it is displayed before the loop waits. -/
theorem cursor_covered_displayed :
    (secondSent [1] (some ⟨[], []⟩)).1.engine.streamParams.bind StreamParams.lastCursor = some "7" ∧
      CursorCovered (secondSent [1] (some ⟨[], []⟩)).1 := by
  have covered (final : (rehearsalMachine (rehearsalConfig [1] none)).Configuration Unit)
      (reached : Reaches (decryptingPromise RehearsalCore (rehearsalConfig [1] none))
        (secondStart [1] (some ⟨[], []⟩)) final)
      (later : final.1.engine.log.all Event.unresponding = true) (waiting : isWaiting final.2 = true) :
      CursorCovered final.1 := by
    obtain ⟨world, program⟩ := final
    exact cursor_covered responding_roundTrips (rehearsal_with_core [] none) reached
      (fun message member => by cases List.all_eq_true.mp later _ member) waiting
  have reached : Reaches (decryptingPromise RehearsalCore (rehearsalConfig [1] none))
      (secondStart [1] (some ⟨[], []⟩)) (secondSent [1] (some ⟨[], []⟩)) := by
    unfold secondSent
    exact run_reaches (by decide +kernel)
  exact ⟨by decide +kernel, covered _ reached (by decide +kernel) (by decide +kernel)⟩

end

end ConstructEngine
