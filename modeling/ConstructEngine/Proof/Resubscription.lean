import ConstructEngine.Proof.Rehearsal
import ConstructEngine.Proof.Turn

namespace ConstructEngine

open Interaction Program Machine

variable {Core A : Type}

/-- Only an opening handler and a frame with a cursor write the stored parameters. -/
def Op.writesParams : {A : Type} → Op Core A → Bool
  | _, .paramsWrite _ | _, .paramsCursor _ => true
  | _, _ => false

section
variable [Prost]

/-- This is the stream cursor that a frame carries. -/
def frameCursor (frame : Bytes) : Option String :=
  match decodeGrpcFrame frame with
  | .error _ => none
  | .ok (msg, _) => ((Prost.decode .messageStreamResponse msg).toOption.bind
      MessageStreamResponse.streamCursor)

/-- The platform opens a stream with these parameters, and frames that are handled move the cursor. -/
def recordWish (wish : Option StreamParams) : Event → Option StreamParams
  | .event (.openMessageStream conversationIds sinceCursor) => some ⟨conversationIds, sinceCursor⟩
  | .frame frame =>
      match frameCursor frame with
      | some cursor => wish.map fun params => { params with lastCursor := some cursor }
      | none => wish
  | _ => wish

/-- The whole trace shows what the platform wishes. -/
def wishedStream (log : List Event) : Option StreamParams := log.foldl recordWish none

/-- The last event decides how the wish goes on. -/
theorem wishedStream_snoc (log : List Event) (event : Event) :
    wishedStream (log ++ [event]) = recordWish (wishedStream log) event := by
  simp [wishedStream]

/-- The stored parameters are the wished ones. -/
def Engine.Follows (engine : Engine Core) : Prop := engine.streamParams = wishedStream engine.log

/-- Only what is taken up changes the wish. -/
theorem recordWish_other {op : Op Core A} (working : op.takes = false) (wish : Option StreamParams) {event : Event}
    (traces : op.Traces event) : recordWish wish event = wish := by
  cases event with
  | event => rw [takes_of_event traces] at working; cases working
  | frame => rw [takes_of_frame traces] at working; cases working
  | _ => rfl

/-- A subscription asks for what the platform wished, from the latest cursor on. -/
def resubscriptionLaw (log : List Event) : Event → Prop
  | .subscribed conversationIds sinceCursor =>
      wishedStream log = some ⟨conversationIds, sinceCursor⟩
  | _ => True

variable [ConstructCore Core] {config : EngineConfig}

/-- Only a selection takes up an event or a frame. -/
theorem exec_wished {op : Op Core A} (working : op.takes = false) {choice : Choice}
    {world after : World Core} {value : A}
    (answered : exec config op choice world = some (value, after)) :
    wishedStream after.engine.log = wishedStream world.engine.log := by
  obtain ⟨more, grown, -, traces⟩ := exec_traces answered
  rw [grown]
  clear grown
  induction more using List.reverseRecOn with
  | nil => rw [List.append_nil]
  | append_singleton rest last ih =>
      rw [← List.append_assoc, wishedStream_snoc, recordWish_other working _ (traces last (by simp)),
        ih fun event member => traces event (List.mem_append_left _ member)]

omit [Prost] in
/-- Only the writes of the parameters change them. -/
theorem exec_params {op : Op Core A} (other : op.writesParams = false) {choice : Choice}
    {world after : World Core} {value : A}
    (answered : exec config op choice world = some (value, after)) :
    after.engine.streamParams = world.engine.streamParams := by
  have unwritten : op.writes .streamParams = false := by cases op <;> first | rfl | cases other
  exact (exec_frame answered).streamParams unwritten

/-- Every subscription that the engine asks for is the wished one, and so are the stored parameters
whenever the loop waits. -/
def wishedGuard (Core : Type) [ConstructCore Core] (config : EngineConfig) :
    (engineMachine Core config).Guard := fun op world =>
  match op with
  | .openExchange _ _ conversationIds sinceCursor _ =>
      wishedStream (World.engine world).log = some ⟨conversationIds, sinceCursor⟩
  | .select _ => (World.engine world).Follows
  | _ => True

/-- The program, begun with this engine, requests only what is wished. -/
abbrev WishSafe (config : EngineConfig) (program : EngineM Core A) (result : A → Engine Core → Prop)
    (engine : Engine Core) : Prop :=
  EngineSafe (Promise.any (engineMachine Core config)) (wishedGuard Core config) program result engine

/-- The stored parameters and the wished ones are these. -/
def Engine.Wishes (params : Option StreamParams) (engine : Engine Core) : Prop :=
  engine.streamParams = params ∧ wishedStream engine.log = params

/-- An operation that writes no parameters keeps them and the wish. -/
theorem wishes_step {op : Op Core A} (other : op.writesParams = false) (unselected : op.topic ≠ .selection)
    {params : Option StreamParams}
    (asks : ∀ world : World Core, wishedStream world.engine.log = params → wishedGuard Core config op world)
    {engine : Engine Core} (now : engine.Wishes params) :
    WishSafe config (perform op) (fun _ => Engine.Wishes params) engine := by
  refine Owned.safe_perform (fun world same => asks world ?_) fun world choice value after same _ answered => ?_
  · change world.engine = engine at same
    rw [same]
    exact now.2
  · cases same
    exact ⟨(exec_params other answered).trans now.1, (exec_wished (takes_of_topic unselected) answered).trans now.2⟩

/-- These operations are about something else than the subscription. -/
def Aside (topic : Topic) : Prop :=
  topic ≠ .subscription ∧ topic ≠ .wish ∧ topic ≠ .cursor ∧ topic ≠ .selection

omit [Prost] [ConstructCore Core] in
/-- What a program aside engages in is aside. -/
theorem aside_engages {topic : Topic} (engages : Engages Aside topic) : Aside topic := by
  rcases engages with rfl | rfl | rfl | own
  · simp [Aside]
  · simp [Aside]
  · simp [Aside]
  · exact own

/-- An operation aside keeps the parameters and the wish. -/
theorem aside_step {op : Op Core A} (aside : Aside op.topic) {params : Option StreamParams}
    {engine : Engine Core} (now : engine.Wishes params) :
    WishSafe config (perform op) (fun _ => Engine.Wishes params) engine := by
  refine wishes_step ?_ aside.2.2.2 ?_ now
  · cases op <;> first | rfl | exact absurd rfl aside.1 | exact absurd rfl aside.2.2.1
  · intro world _
    cases op with
    | openExchange => exact absurd rfl aside.1
    | select => exact absurd rfl aside.2.2.2
    | _ => trivial

/-- The stream opens with the wished parameters, and whether it succeeds or not they stay. -/
theorem openMessageStream_wishes {params : StreamParams} {engine : Engine Core}
    (now : engine.Wishes (some params)) :
    WishSafe config (openMessageStream params.conversationIds params.lastCursor)
      (fun _ => Engine.Wishes (some params)) engine := by
  have links {B : Type} {program : EngineM Core B} (links : Links program) {engine : Engine Core}
      (now : engine.Wishes (some params)) :
      WishSafe config program (fun _ => Engine.Wishes (some params)) engine :=
    safe_uses (fun op engine linking now => aside_step (by
      rcases linking with same | same <;> simp [same, Aside]) now) links now
  unfold openMessageStream
  refine (links (links_ensureH3 _) now).andThen fun ensured engine now => ?_
  rcases ensured with error | ⟨⟩
  · exact Owned.safe_done now
  refine (links links_sendRequest now).andThen fun sendReq engine now => ?_
  rcases sendReq with error | conn
  · exact Owned.safe_done now
  refine (aside_step (by simp [Aside, Op.topic]) now).andThen fun token engine now => ?_
  refine (aside_step (by simp [Aside, Op.topic]) now).andThen fun requestId engine now => ?_
  have asked (engine : Engine Core) (now : engine.Wishes (some params)) :
      WishSafe config (perform (.openExchange conn token params.conversationIds params.lastCursor requestId))
        (fun _ => Engine.Wishes (some params)) engine :=
    wishes_step rfl (by simp [Op.topic]) (by exact fun world wished => wished) now
  refine (asked engine now).andThen fun opened engine now => ?_
  rcases opened with error | ⟨⟩
  · exact Owned.safe_done now
  have spawned : WishSafe config (perform (.spawnPump conn)) (fun _ => Engine.Wishes (some params)) engine :=
    wishes_step rfl (by simp [Op.topic]) (by exact fun _ _ => trivial) now
  exact spawned.andThen fun handle engine now => Owned.safe_done now

/-- An attempt to open the wished stream stores its parameters before it asks for them. -/
theorem handleOpenStream_wishes {params : StreamParams} {engine : Engine Core}
    (wished : wishedStream engine.log = some params) :
    WishSafe config (handleOpenStream params.conversationIds params.lastCursor)
      (fun _ => Engine.Wishes (some params)) engine := by
  have stored : WishSafe config (perform (.paramsWrite params))
      (fun _ => Engine.Wishes (some params)) engine := by
    refine Owned.safe_perform (fun _ _ => trivial) fun world choice value after same _ answered => ?_
    change exec config (.paramsWrite params) choice world = _ at answered
    obtain ⟨-, rfl⟩ := paramsWrite_effect answered
    cases same
    exact ⟨rfl, wished⟩
  refine stored.andThen fun _ engine now => (openMessageStream_wishes now).andThen
    fun opened engine now => ?_
  cases opened with
  | error error => exact aside_step (by simp [Aside, Op.topic, PlatformAction.topic]) now
  | ok handle =>
      have held : WishSafe config (perform (.streamWrite (some handle)))
          (fun _ => Engine.Wishes (some params)) engine :=
        wishes_step rfl (by simp [Op.topic]) (by exact fun _ _ => trivial) now
      exact held.andThen fun _ engine now =>
        aside_step (by simp [Aside, Op.topic, PlatformAction.topic]) now

/-- An automatic attempt opens the stored stream, which is the wished one. -/
theorem reopenStreamIfNeeded_follows {engine : Engine Core} (now : engine.Follows) :
    WishSafe config reopenStreamIfNeeded (fun _ => Engine.Follows) engine := by
  refine Owned.safe_step (fun _ _ => trivial) fun world choice params after same _ answered => ?_
  change exec config .paramsRead choice world = _ at answered
  obtain ⟨-, rfl, rfl⟩ := paramsRead_effect answered
  change after.engine = engine at same
  subst same
  cases stored : after.engine.streamParams with
  | none => exact Owned.safe_done now
  | some params =>
      exact (handleOpenStream_wishes (now.symm.trans stored)).weaken
        fun _ after kept => kept.1.trans kept.2.symm

omit [ConstructCore Core] in
/-- The stored parameters are the wished ones. -/
theorem Engine.Follows.wishes {engine : Engine Core} (now : engine.Follows) :
    engine.Wishes (wishedStream engine.log) := ⟨now, rfl⟩

/-- An operation aside goes on following. -/
theorem follows_step {op : Op Core A} (aside : Aside op.topic) {engine : Engine Core}
    (now : engine.Follows) : WishSafe config (perform op) (fun _ => Engine.Follows) engine :=
  (aside_step aside now.wishes).weaken fun _ _ kept => kept.1.trans kept.2.symm

/-- A handler that neither wishes nor moves the cursor keeps the stored parameters the wished ones. -/
theorem follows_built {topics : Topic → Prop}
    (unsteered : ∀ topic, topics topic → topic ≠ .wish ∧ topic ≠ .cursor ∧ topic ≠ .selection)
    {program : EngineM Core A} (built : Built topics (anyRequest topics) program) {engine : Engine Core}
    (now : engine.Follows) : WishSafe config program (fun _ => Engine.Follows) engine := by
  have kept : Keeps (Promise.any (engineMachine Core config)) (wishedGuard Core config)
      (fun world => world.engine.Follows) program := by
    refine keeps_built (stable_engine Engine.Follows) (fun _ engages apart => keeps_engine.mpr
      fun _ now => follows_step ?_ now) (fun wished => absurd rfl (unsteered _ wished).1)
      (fun _ => keeps_engine.mpr fun engine now => reopenStreamIfNeeded_follows now) built
    refine ⟨fun same => ?_, ?_, ?_, ?_⟩
    · simp [same, Topic.opens] at apart
    · exact engages.ne (by simp) fun topic listed => (unsteered topic listed).1
    · exact engages.ne (by simp) fun topic listed => (unsteered topic listed).2.1
    · exact engages.ne (by simp) fun topic listed => (unsteered topic listed).2.2
  exact keeps_engine.mp kept engine now

/-- A program aside goes on following. -/
theorem follows_concerns {program : EngineM Core A} (concerns : Concerns Aside program) {engine : Engine Core}
    (now : engine.Follows) : WishSafe config program (fun _ => Engine.Follows) engine :=
  safe_uses (fun _ _ engages now => follows_step (aside_engages engages) now) concerns now

omit [ConstructCore Core] in
/-- An event that changes no wish leaves the parameters in step. -/
theorem Engine.Follows.record {engine : Engine Core} (now : engine.Follows) {event : Event}
    (same : recordWish (wishedStream engine.log) event = wishedStream engine.log) :
    (engine.record event).Follows := by
  unfold Engine.Follows Engine.record
  rw [wishedStream_snoc, same]
  exact now

/-- The cursor of a frame goes to the stored parameters before the rest of the frame is handled. -/
theorem handleIncomingFrame_split (frame : Bytes) : ∃ rest : EngineM Core Unit,
    Built (· ∈ receiveTopics) (anyRequest (· ∈ receiveTopics)) rest ∧
    handleIncomingFrame frame = (do
      (frameCursor frame).forM fun cursor => perform (.paramsCursor cursor)
      rest) := by
  unfold handleIncomingFrame frameCursor
  cases decodeGrpcFrame frame with
  | error malformed => exact ⟨pure (), built_return (), rfl⟩
  | ok decoded =>
  obtain ⟨msg, left⟩ := decoded
  dsimp only
  cases Prost.decode .messageStreamResponse msg with
  | error malformed => exact ⟨pure (), built_return (), rfl⟩
  | ok resp =>
  refine ⟨_, ?_, rfl⟩
  split
  next envelope _ =>
      refine built_handleIncomingEnvelope ?_ ?_ ?_ ?_ ?_ ?_ ?_ (fun _ => ?_) envelope <;>
        simp [anyRequest, receiveTopics]
  · exact .forM fun id => built_action (by simp [receiveTopics, PlatformAction.topic])
  · exact built_return ()

/-- A cursor that a frame carries moves the wish as it moves the stored parameters. -/
theorem handleIncomingFrame_follows {engine : Engine Core} (now : engine.Follows) (frame : Bytes) :
    WishSafe config (handleIncomingFrame frame) (fun _ => Engine.Follows) (engine.record (.frame frame)) := by
  obtain ⟨rest, built, same⟩ : ∃ rest : EngineM Core Unit, _ ∧ handleIncomingFrame frame = _ :=
    handleIncomingFrame_split frame
  rw [same]
  have moved : WishSafe config ((frameCursor frame).forM fun cursor => perform (.paramsCursor cursor))
      (fun _ => Engine.Follows) (engine.record (.frame frame)) := by
    cases carried : frameCursor frame with
    | none => exact Owned.safe_done (now.record (by simp [recordWish, carried]))
    | some cursor =>
        refine Owned.safe_perform (fun _ _ => trivial) fun world choice value after same _ answered => ?_
        change exec config (.paramsCursor cursor) choice world = _ at answered
        obtain ⟨-, rfl⟩ := paramsCursor_effect answered
        change world.engine = _ at same
        change Option.map _ world.engine.streamParams = wishedStream world.engine.log
        rw [same, Engine.record, wishedStream_snoc, recordWish, carried, ← now]
  exact moved.andThen fun _ engine now => follows_built (by simp [receiveTopics]) built now

/-- Only the platform's opening event sets a new wish, and its handler follows it. -/
theorem handleEvent_follows {engine : Engine Core} (now : engine.Follows) (event : UiEvent) :
    WishSafe config (handleEvent config event) (fun _ => Engine.Follows) (engine.record (.event event)) := by
  have handled (apart : Topic.wish ∉ event.topics ∧ Topic.cursor ∉ event.topics)
      (same : recordWish (wishedStream engine.log) (.event event) = wishedStream engine.log) :
      WishSafe config (handleEvent config event) (fun _ => Engine.Follows) (engine.record (.event event)) :=
    follows_built (fun topic listed => ⟨fun same => apart.1 (same ▸ listed), fun same => apart.2 (same ▸ listed),
      topics_unselected event topic listed⟩) (built_handleEvent config event fun _ member => member)
      (now.record same)
  cases event with
  | openMessageStream conversationIds sinceCursor =>
      have wished : wishedStream (engine.record (.event (.openMessageStream conversationIds sinceCursor))).log =
          some ⟨conversationIds, sinceCursor⟩ := by
        rw [Engine.record, wishedStream_snoc, recordWish]
      exact (handleOpenStream_wishes wished).weaken fun _ after kept => kept.1.trans kept.2.symm
  | _ => exact handled (by simp [UiEvent.topics, receiveTopics, keyCountTopics, loginTopics]) rfl

/-- The loop re-opens the stored stream, too. -/
theorem resubscribe_follows {engine : Engine Core} (now : engine.Follows) :
    WishSafe config resubscribe (fun _ => Engine.Follows) engine := by
  refine Owned.safe_step (fun _ _ => trivial) fun world choice params after same _ answered => ?_
  change exec config .paramsLock choice world = _ at answered
  obtain ⟨-, rfl, rfl⟩ := paramsLock_effect answered
  cases same
  have locked : ({ world.engine with paramsHeld := true } : Engine Core).Follows := now
  cases stored : world.engine.streamParams with
  | none => exact follows_step (by simp [Aside, Op.topic]) locked
  | some params =>
      have opens : WishSafe config (handleOpenStream params.conversationIds params.lastCursor)
          (fun _ => Engine.Wishes (some params)) { world.engine with paramsHeld := true } :=
        handleOpenStream_wishes (now.symm.trans stored)
      exact opens.andThen fun _ after kept =>
        follows_step (by simp [Aside, Op.topic]) (kept.1.trans kept.2.symm)

/-- The reconnect drops the stream and keeps its parameters. -/
theorem handleDisconnect_follows {engine : Engine Core} (now : engine.Follows) :
    WishSafe config handleDisconnect (fun _ => Engine.Follows) engine := by
  have reported : WishSafe config (onAction (.connectionStateChanged false)) (fun _ => Engine.Follows) engine := by
    refine Owned.safe_perform (fun _ _ => trivial) fun world choice value after same _ answered => ?_
    cases answered
    cases same
    exact now.record rfl
  refine reported.andThen fun _ engine now => ?_
  refine (follows_step (by simp [Aside, Op.topic]) now).andThen fun _ engine now => ?_
  refine (follows_concerns concerns_ensureConnected now).andThen fun _ engine now => ?_
  exact resubscribe_follows now

/-- Between two turns the stored parameters are the wished ones. -/
theorem eventLoop_follows : Keeps (Promise.any (engineMachine Core config)) (wishedGuard Core config)
    (fun world => world.engine.Follows) (eventLoop config) := by
  refine eventLoop_engine Engine.Follows ?_ ?_ ?_ ?_ ?_ ?_ ?_
  · intro A op engine own now
    refine follows_step ⟨?_, ?_, ?_, ?_⟩ now <;> exact own.ne (by simp) (by simp)
  · exact fun refreshArmed world now => now
  · exact fun engine connectedSeen tokenSeen now => now
  · exact fun engine clock now => follows_built (by simp [loginTopics]) (built_refresh config) (now.record rfl)
  · exact fun engine now => handleDisconnect_follows now
  · exact fun event engine now => handleEvent_follows now event
  · exact fun frame engine now => handleIncomingFrame_follows now frame

/-- What a guarded operation records obeys the law. -/
theorem guarded_traces {op : Op Core A} {world : World Core} {event : Event}
    (guarded : wishedGuard Core config op world) (traces : op.Traces event) :
    resubscriptionLaw world.engine.log event := by
  cases event with
  | subscribed conversationIds sinceCursor =>
      cases op with
      | openExchange =>
          cases traces
          exact guarded
      | _ => simp [Op.Traces] at traces
  | _ => trivial

/-- In every run, each subscription carries the conversations of the last opening event and the last
cursor that a frame has carried since, or else that event's own cursor. -/
theorem resubscription_follows {engine : Engine Core} (created : Engine.new config = .ok engine)
    {world : World Core} {later : EngineM Core Unit}
    (reached : Reaches (Promise.any (engineMachine Core config)) (startWorld engine, eventLoop config)
      (world, later)) :
    AtEach resubscriptionLaw world.engine.log ∧
    (∀ conn token conversationIds sinceCursor requestId next,
      later = .ask (.openExchange conn token conversationIds sinceCursor requestId) next →
      wishedStream world.engine.log = some ⟨conversationIds, sinceCursor⟩) ∧
    (isWaiting later = true → world.engine.Follows) := by
  obtain ⟨core, rfl⟩ := Engine.new_fresh created
  have holds : Holds (Promise.any (engineMachine Core config)) (wishedGuard Core config) (eventLoop config) _
    (startWorld (Engine.fresh config core)) := eventLoop_follows _ rfl
  refine ⟨?_, ?_, ?_⟩
  · refine traced_reached (fun _ _ => trivial) (holds.relax fun op world guarded => ?_) (atEach_nil _) reached
    exact fun choice event _ traces _ => guarded_traces guarded traces
  · rintro conn token conversationIds sinceCursor requestId next rfl
    exact (holds _ _ reached).1 _ _ _ rfl
  · intro waiting
    obtain ⟨armed, next, rfl⟩ := isWaiting_shape waiting
    exact (holds _ _ reached).1 _ _ _ rfl

end

end ConstructEngine
