import ConstructEngine.Proof.Resubscription
import ConstructEngine.Proof.Responder
import ConstructEngine.Proof.Routing

namespace ConstructEngine

open Interaction Program Machine

/-- The platform is told about a session. -/
def Event.aboutSession : Event → Bool
  | .action (.sessionEstablished ..) | .action (.sessionError ..) => true
  | _ => false

/-- The identifier is the one that the envelope carries, if it carries one. -/
def Envelope.Identified (envelope : Envelope) (id : String) : Prop :=
  ∀ own, envelope.messageIdType = some (.messageId own) → id = own

/-- The platform is told about a new session with this contact. -/
def Event.establishes (contactId : String) : Event → Bool
  | .action (.sessionEstablished other _) => other = contactId
  | _ => false

/-- The handler has ended. -/
def isOver {Core : Type} (program : EngineM Core Unit) : Bool :=
  match program with
  | .done _ => true
  | _ => false

/-- A program that is over has nothing left. -/
theorem isOver_shape {Core : Type} {program : EngineM Core Unit} (finished : isOver program = true) :
    program = .done () := by
  unfold isOver at finished
  split at finished
  · rfl
  · cases finished

section
variable {Core : Type} [Prost] [ConstructCore Core] {config : EngineConfig}

/-- Each end of a message is one report or one retry. -/
theorem Responded.once {message : IncomingMessage} {core left : Option Core} {told : List Event}
    {spawned : Multiset Bytes} (responded : Responded message core told left spawned) :
    told.countP Event.aboutSession + spawned.card = 1 := by
  cases responded with
  | refused => rfl
  | retried => rfl
  | exhausted => rfl
  | established => rfl

/-- The message was brought to one of its ends, and the trace tells nothing else. -/
structure Processed (message : IncomingMessage) (before after : World Core) : Prop where
  ends : ∃ told spawned, Responded message before.engine.core told after.engine.core spawned ∧
    told.countP Event.aboutSession + spawned.card = 1 ∧
    Since before.engine.log (.handling .sessionInitResponder message :: told) after.engine.log ∧
    after.net.pending = spawned + before.net.pending

omit [Prost] [ConstructCore Core] in
/-- The identifier of a message is its own one, or it is read from the random source. -/
theorem messageIdOf_identified {machine : Machine (Op Core)} {View : Type} {owned : machine.Owned View}
    {promise : machine.Promise} {guard : machine.Guard} {envelope : Envelope} {view : View}
    {result : View → Prop} (now : result view)
    (fresh : owned.Safe promise guard (do return uuidText (← perform .uuid)) (fun _ => result) view) :
    owned.Safe promise guard (messageIdOf envelope.messageIdType)
      (fun id after => envelope.Identified id ∧ result after) view := by
  unfold Envelope.Identified
  cases envelope.messageIdType with
  | none => exact fresh.weaken fun id after kept => ⟨fun own same => (by cases same), kept⟩
  | some idType =>
      cases idType with
      | messageId id => exact Owned.safe_done ⟨fun own same => (by cases same; rfl), now⟩
      | other => exact fresh.weaken fun id after kept => ⟨fun own same => (by cases same), kept⟩

omit [Prost] [ConstructCore Core] in
/-- A new id is only read. -/
theorem fresh_reading {topics : Topic → Prop} :
    Concerns topics (do return uuidText (← perform .uuid) : EngineM Core String) :=
  uses_bind (concerns_reading rfl) fun _ => uses_pure _

/-- Wherever the engine stands, a frame with a first message is brought to one of the ends again. -/
theorem redelivery_repeats {frame : Bytes} {envelope : Envelope}
    (accepted : acceptedIn Core frame = some (envelope, 0)) {world after : World Core}
    (reached : Reaches (Promise.any (engineMachine Core config)) (world, handleIncomingFrame frame)
      (after, .done ())) :
    ∃ id, envelope.Identified id ∧
      Processed (envelope.message id) world after := by
  let arrivals : Arrivals := ⟨false, []⟩
  obtain ⟨written, reached⟩ := reached.monitored (arrivalLedger Core config) arrivals
  have mute (topic : Topic) (engages : Engages (· = Topic.cursor) topic) : Mute topic := by
    rcases engages with rfl | rfl | rfl | rfl <;> simp [Mute, Topic.tells, Topic.cryptographic]
  have start : Standing world.engine.log [] world.engine.core arrivals world.net.pending
      ((inboxOwned Core config).view (world, arrivals)) := ⟨.refl _, rfl, rfl, rfl⟩
  have safe : InboxSafe (Promise.monitored (Promise.any (engineMachine Core config))
      (arrivalLedger Core config)) (fun _ _ => True) (handleIncomingFrame frame)
      (fun _ last => ∃ id, envelope.Identified id ∧
        ∃ told spawned, Responded (envelope.message id) world.engine.core told last.engine.core spawned ∧
          Since world.engine.log (.handling .sessionInitResponder (envelope.message id) :: told)
            last.engine.log ∧ last.pending = spawned + world.net.pending)
      ((inboxOwned Core config).view (world, arrivals)) := by
    rw [handleIncomingFrame_accepted accepted]
    refine (mute_inbox mute (fun _ _ _ => trivial) (concerns_cursor frame) start).andThen fun _ next standing => ?_
    refine (messageIdOf_identified standing
      (mute_inbox mute (fun _ _ _ => trivial) fresh_reading standing)).andThen fun id next identified => ?_
    obtain ⟨own, standing⟩ := identified
    refine (handleSessionInitResponder_responds (fun _ _ _ => trivial) (envelope.message id)
      fun _ _ => trivial).weaken fun _ last responds => ?_
    obtain ⟨told, spawned, responded, since, -, pending⟩ := responds
    rw [standing.core] at responded
    rw [standing.pending] at pending
    exact ⟨id, own, told, spawned, responded, (standing.since.tell rfl).trans since, pending⟩
  obtain ⟨id, own, told, spawned, responded, since, pending⟩ := (safe (world, arrivals) rfl _ _ reached).2 () rfl
  exact ⟨id, own, ⟨told, spawned, responded, responded.once, since, pending⟩⟩

end

/-- The server delivers this frame on the open stream, and the engine handles it. -/
def deliveredFrame : Bytes := [0, 0, 0, 0, 2, 0, 5]

/-- The frame is handled once. -/
def deliveredOnce : (rehearsalMachine (rehearsalConfig [1] none)).Configuration Unit :=
  rehearsed (rehearsalConfig [1] none) (some ⟨[], []⟩)
    (rehearsal (rehearsalConfig [1] none) [.openMessageStream ["c"] none] (List.replicate 40 openChoice)
      [.pump 0 .queueEmpty, .pump 0 (.chunk deliveredFrame)] ++ List.replicate 20 (.answer servedChoice))

/-- The frame is handled once more. -/
def deliveredAgain : (rehearsalMachine (rehearsalConfig [1] none)).Configuration Unit :=
  run (deliveredOnce.1, handleIncomingFrame deliveredFrame) (List.replicate 12 (.answer servedChoice))

theorem deliveredAgain_reaches : Reaches (Promise.any (rehearsalMachine (rehearsalConfig [1] none)))
    (deliveredOnce.1, handleIncomingFrame deliveredFrame) deliveredAgain := by
  unfold deliveredAgain
  exact run_reaches (allAllowed_any _ _)

theorem deliveredFrame_accepted : ∃ envelope,
    acceptedIn RehearsalCore deliveredFrame = some (envelope, 0) ∧ envelope.senderId = "alice" := by
  have read : (acceptedIn RehearsalCore deliveredFrame).map (fun accepted =>
      (accepted.1.senderId, accepted.2)) = some ("alice", 0) := by decide +kernel
  obtain ⟨⟨envelope, number⟩, accepted, same⟩ := Option.map_eq_some_iff.mp read
  obtain ⟨sender, first⟩ := Prod.mk.inj same
  cases first
  exact ⟨envelope, accepted, sender⟩

/-- The first message that opened the session comes again, and the platform is told about another
session. -/
theorem redelivery_repeats_fails :
    ¬ ∀ world later frame envelope after,
      Reaches (Promise.any (rehearsalMachine (rehearsalConfig [1] none)))
        (rehearsalStart (rehearsalConfig [1] none) (some ⟨[], []⟩)) (world, later) →
      isWaiting later = true → acceptedIn RehearsalCore frame = some (envelope, 0) →
      world.engine.log.any (Event.establishes envelope.senderId) = true →
      Reaches (Promise.any (rehearsalMachine (rehearsalConfig [1] none)))
        (world, handleIncomingFrame frame) (after, .done ()) →
      after.engine.log.countP Event.aboutSession = world.engine.log.countP Event.aboutSession ∧
        after.net.pending = world.net.pending := by
  intro idempotent
  obtain ⟨envelope, accepted, sender⟩ := deliveredFrame_accepted
  have again (final : (rehearsalMachine (rehearsalConfig [1] none)).Configuration Unit)
      (reached : Reaches (Promise.any (rehearsalMachine (rehearsalConfig [1] none)))
        (deliveredOnce.1, handleIncomingFrame deliveredFrame) final) (finished : isOver final.2 = true) :
      final.1.engine.log.countP Event.aboutSession =
        deliveredOnce.1.engine.log.countP Event.aboutSession := by
    obtain ⟨after, later⟩ := final
    cases isOver_shape finished
    refine (idempotent _ _ _ _ _ (rehearsed_any _ _ _) (by decide +kernel) accepted ?_ reached).1
    rw [sender]
    decide +kernel
  have counted := again _ deliveredAgain_reaches (by decide +kernel)
  exact absurd counted (by decide +kernel)

theorem redelivery_repeats_again : ∃ (envelope : Envelope) (id : String), envelope.senderId = "alice" ∧
    Processed (envelope.message id) deliveredOnce.1 deliveredAgain.1 := by
  obtain ⟨envelope, accepted, sender⟩ := deliveredFrame_accepted
  have processed (final : (rehearsalMachine (rehearsalConfig [1] none)).Configuration Unit)
      (reached : Reaches (Promise.any (rehearsalMachine (rehearsalConfig [1] none)))
        (deliveredOnce.1, handleIncomingFrame deliveredFrame) final) (finished : isOver final.2 = true) :
      ∃ id, Processed (envelope.message id) deliveredOnce.1 final.1 := by
    obtain ⟨after, later⟩ := final
    cases isOver_shape finished
    obtain ⟨id, -, processed⟩ := redelivery_repeats accepted reached
    exact ⟨id, processed⟩
  obtain ⟨id, processed⟩ := processed _ deliveredAgain_reaches (by decide +kernel)
  exact ⟨envelope, id, sender, processed⟩

end ConstructEngine
