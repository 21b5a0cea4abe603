import ConstructEngine.Proof.Attribution

namespace ConstructEngine

open Interaction Program Machine

variable {Core : Type}

/-- These events ask for an answer of the platform's. -/
def UiEvent.isRequest : UiEvent → Bool
  | .platformReady | .openMessageStream .. | .sendMessage .. | .initSessionInitiator _ | .searchUser _
  | .backgroundPush _ => true
  | _ => false

/-- Each request has its own kinds of answer. -/
def UiEvent.answeredBy (event : UiEvent) (action : PlatformAction) : Bool :=
  match event with
  | .platformReady =>
      match action with
      | .loadKeychain _ => true
      | _ => false
  | .openMessageStream .. => action.opensStream
  | .sendMessage .. =>
      match action with
      | .updateMessageStatus .. => true
      | _ => false
  | .initSessionInitiator _ =>
      match action with
      | .sessionEstablished .. | .sessionError .. => true
      | _ => false
  | .searchUser _ =>
      match action with
      | .userFound .. | .userNotFound _ => true
      | _ => false
  | .backgroundPush _ =>
      match action with
      | .backgroundFetchComplete .. => true
      | _ => false
  | _ => false

/-- These actions were fired since the loop took up its task. -/
def sinceTask (log : List Event) : List PlatformAction :=
  log.foldl (fun fired event => if event.isMark then [] else fired ++ event.fired.toList) []

/-- The request that the loop took up last was answered once. -/
def AnsweredOnce (log : List Event) : Prop :=
  ∀ event, currentTask log = some (.event event) → event.isRequest = true →
    (sinceTask log).countP event.answeredBy = 1

/-- The loop leaves no request without its answer. -/
def answerLaw (before : List Event) (event : Event) : Prop := event.topic = .selection → AnsweredOnce before

/-- With a new task the count of answers begins again. -/
theorem sinceTask_mark (log : List Event) {event : Event} (mark : event.topic = .selection) :
    sinceTask (log ++ [event]) = [] := by
  simp [sinceTask, Event.isMark, mark]

/-- Within a task the fired actions add up. -/
theorem sinceTask_snoc (log : List Event) {event : Event} (other : event.topic ≠ .selection) :
    sinceTask (log ++ [event]) = sinceTask log ++ event.fired.toList := by
  simp [sinceTask, Event.isMark, other]

/-- The loop works on this request and has answered it so often. -/
def Replying (event : UiEvent) (count : Nat) (log : List Event) : Prop :=
  currentTask log = some (.event event) ∧ (sinceTask log).countP event.answeredBy = count

/-- A request with one answer is answered. -/
theorem Replying.once {event : UiEvent} {log : List Event} (replying : Replying event 1 log) :
    AnsweredOnce log := by
  intro other task _
  cases replying.1.symm.trans task
  exact replying.2

/-- Such an action neither answers the event nor ends its task. -/
def Unanswering (event : UiEvent) (action : PlatformAction) : Prop :=
  event.answeredBy action = false ∧ action ≠ .connectionStateChanged false

/-- What a handler fires takes up no task, unless it reports a lost connection. -/
theorem firedBy_unmarked {receiving : Prop} {actions : PlatformAction → Prop} {event : Event}
    (fired : event.FiredBy receiving actions) (unmarked : ¬ actions (.connectionStateChanged false)) :
    event.topic ≠ .selection := by
  intro mark
  obtain ⟨clock, rfl⟩ | ⟨ui, rfl⟩ | ⟨frame, rfl⟩ | rfl := topic_selection mark
  · exact fired
  · exact fired
  · exact fired
  · exact unmarked fired

/-- Other actions leave the count as it is. -/
theorem Replying.quiet {event : UiEvent} {count : Nat} {log : List Event} (now : Replying event count log)
    {next : Event} (fired : next.FiredBy True (Unanswering event)) : Replying event count (log ++ [next]) := by
  have other := firedBy_unmarked fired fun quiet => quiet.2 rfl
  refine ⟨(currentTask_snoc log other).trans now.1, ?_⟩
  have silent : next.fired.toList.countP event.answeredBy = 0 := by
    cases next with
    | action action => simpa [Event.fired] using fired.1
    | _ => rfl
  rw [sinceTask_snoc log other, List.countP_append, now.2, silent, Nat.add_zero]

/-- An answer counts once. -/
theorem Replying.answered {event : UiEvent} {count : Nat} {log : List Event} (now : Replying event count log)
    {action : PlatformAction} (answers : event.answeredBy action = true)
    (kept : action ≠ .connectionStateChanged false) :
    Replying event (count + 1) (log ++ [.action action]) := by
  have other : (Event.action action).topic ≠ .selection := by
    intro mark
    obtain ⟨clock, same⟩ | ⟨ui, same⟩ | ⟨frame, same⟩ | same := topic_selection mark <;> cases same
    exact kept rfl
  refine ⟨(currentTask_snoc log other).trans now.1, ?_⟩
  rw [sinceTask_snoc log other, List.countP_append, now.2]
  simp [Event.fired, answers]

/-- A request that was just taken up has no answer yet. -/
theorem replying_task (log : List Event) (event : UiEvent) : Replying event 0 (log ++ [.event event]) :=
  ⟨currentTask_mark log rfl, by rw [sinceTask_mark log rfl]; rfl⟩

variable [ConstructCore Core] {config : EngineConfig}

/-- The program, begun with this engine, lets no task end without its answer. -/
abbrev AnswerSafe {A : Type} (config : EngineConfig) (program : EngineM Core A)
    (result : A → Engine Core → Prop) (engine : Engine Core) : Prop :=
  EngineSafe (Promise.any (engineMachine Core config))
    (traceGuard (Promise.any (engineMachine Core config)) answerLaw) program result engine

/-- From here on the program answers the event once. -/
def Answers {A : Type} (config : EngineConfig) (event : UiEvent) (program : EngineM Core A) : Prop :=
  ∀ engine : Engine Core, Replying event 0 engine.log →
    AnswerSafe config program (fun _ after => Replying event 1 after.log) engine

/-- What answers nothing may come before the answer. -/
theorem answers_bind {A B : Type} {event : UiEvent} {program : EngineM Core A} {rest : A → EngineM Core B}
    (quiet : Fires True (Unanswering event) program) (later : ∀ value, Answers config event (rest value)) :
    Answers config event (program >>= rest) := by
  intro engine now
  refine (fires_log (Replying event 0) (fun log next fired now => now.quiet fired) ?_ quiet now).andThen
    fun value after now => later value after now
  exact fun log next fired _ mark =>
    absurd mark (firedBy_unmarked fired fun quiet => quiet.2 rfl)

/-- The answer may come last. -/
theorem answers_action {event : UiEvent} {action : PlatformAction} (answers : event.answeredBy action = true)
    (kept : action ≠ .connectionStateChanged false) :
    Answers config event (onAction action : EngineM Core Unit) := by
  intro engine now
  refine action_done (fun world same => traceGuard_action fun mark => ?_) (now.answered answers kept)
  obtain ⟨clock, same⟩ | ⟨ui, same⟩ | ⟨frame, same⟩ | same := topic_selection mark <;> cases same
  exact absurd rfl kept

section
variable [Prost]

omit [Prost] in
/-- A stream is ready or has failed. -/
theorem handleOpenStream_answers (conversationIds : List String) (sinceCursor : Option String) :
    Answers config (.openMessageStream conversationIds sinceCursor)
      (handleOpenStream conversationIds sinceCursor : EngineM Core Unit) := by
  unfold handleOpenStream
  refine answers_bind (uses_perform trivial) fun _ => answers_bind (fires_openMessageStream _ _) fun opened => ?_
  rcases opened with error | handle
  · exact answers_action rfl nofun
  · exact answers_bind (uses_perform trivial) fun _ => answers_action rfl nofun

/-- A user is found or is not. -/
theorem handleSearchUser_answers (query : String) :
    Answers config (.searchUser query) (handleSearchUser query : EngineM Core Unit) := by
  unfold handleSearchUser
  refine answers_bind (fires_unaryCall _ _) fun answer => ?_
  rcases answer with error | bytes
  · exact answers_action rfl nofun
  dsimp only
  split
  · exact answers_action rfl nofun
  · split <;> exact answers_action rfl nofun

/-- Every exit of the handler reports a status. -/
theorem handleSendMessage_answers (contactId : String) (plaintext : Bytes) (localId conversationId : String)
    (level : AnonymityLevel) :
    Answers config (.sendMessage contactId plaintext localId conversationId level)
      (handleSendMessage contactId plaintext localId conversationId level : EngineM Core Unit) := by
  unfold handleSendMessage
  refine answers_bind (uses_perform nofun) fun encrypted => ?_
  rcases encrypted with error | ⟨wirePayload, stateBytes⟩
  · exact answers_action rfl nofun
  refine answers_bind (fires_saveState (fun _ => ⟨rfl, nofun⟩) _) fun _ =>
    answers_bind (fires_buildEnvelope _ _ _ _ _) fun envelope =>
    answers_bind (uses_perform trivial) fun stream => ?_
  cases stream with
  | none => exact answers_action rfl nofun
  | some stream =>
      refine answers_bind (uses_perform trivial) fun accepted => ?_
      rcases accepted with error | ⟨⟩ <;> exact answers_action rfl nofun

/-- A session is established or has failed, with or without a stream. -/
theorem handleInitSessionInitiator_answers (contactId : String) :
    Answers config (.initSessionInitiator contactId)
      (handleInitSessionInitiator contactId : EngineM Core Unit) := by
  unfold handleInitSessionInitiator
  refine answers_bind (fires_fetchBundle _ _) fun fetched => ?_
  rcases fetched with message | ⟨bundle, verifyingKey⟩
  · exact answers_action rfl nofun
  refine answers_bind (uses_perform nofun) fun initiated => ?_
  rcases initiated with message | ⟨wirePayload, stateBytes⟩
  · exact answers_action rfl nofun
  refine answers_bind (fires_saveState (fun _ => ⟨rfl, nofun⟩) _) fun _ =>
    answers_bind (uses_perform trivial) fun uuid => answers_bind (uses_perform trivial) fun stream => ?_
  cases stream with
  | none => exact answers_action rfl nofun
  | some stream => exact answers_bind (uses_perform trivial) fun _ => answers_action rfl nofun

/-- Neither the pages nor the last export answer, so the totals do. -/
theorem handleBackgroundPush_answers (sinceCursor : Option String) :
    Answers config (.backgroundPush sinceCursor)
      (handleBackgroundPush sinceCursor : EngineM Core Unit) := by
  unfold handleBackgroundPush
  refine answers_bind ?_ fun totals => answers_bind (uses_perform (by nofun)) fun exported =>
    answers_bind ?_ fun _ => answers_action rfl nofun
  · exact fires_backgroundPages trivial (fun _ => ⟨rfl, nofun⟩) (fun _ _ => ⟨rfl, nofun⟩)
      (fun _ _ => ⟨rfl, nofun⟩) (fun _ _ _ _ _ => ⟨rfl, nofun⟩) (fun _ _ _ _ _ => ⟨rfl, nofun⟩) _
  · exact Composed.uses (.option fun stateBytes =>
      .piece (fires_saveState (fun _ => ⟨rfl, nofun⟩) stateBytes)) fun _ fires => fires

end

section
variable [Prost]

/-- A request is answered once, whatever the server and the core say. -/
theorem handleEvent_answers (event : UiEvent) (request : event.isRequest = true) :
    Answers config event (handleEvent config event : EngineM Core Unit) := by
  cases event with
  | platformReady => exact answers_action rfl nofun
  | openMessageStream => exact handleOpenStream_answers _ _
  | sendMessage => exact handleSendMessage_answers _ _ _ _ _
  | initSessionInitiator => exact handleInitSessionInitiator_answers _
  | searchUser => exact handleSearchUser_answers _
  | backgroundPush => exact handleBackgroundPush_answers _
  | _ => cases request

end

/-- The loop works on no request. -/
def Unasked (log : List Event) : Prop :=
  ∀ event, currentTask log = some (.event event) → event.isRequest = false

omit [ConstructCore Core] in
/-- Without a request there is nothing to answer. -/
theorem Unasked.once {log : List Event} (unasked : Unasked log) : AnsweredOnce log := by
  intro event task request
  rw [unasked event task] at request
  cases request

omit [ConstructCore Core] in
/-- The loop takes up a request. -/
def Event.isRequest : Event → Bool
  | .event ui => ui.isRequest
  | _ => false

/-- A task that is no request asks for nothing. -/
theorem unasked_mark (log : List Event) {mark : Event} (selection : mark.topic = .selection)
    (other : mark.isRequest = false) : Unasked (log ++ [mark]) := by
  intro event task
  rw [currentTask_mark log selection] at task
  cases Option.some.inj task
  exact other

/-- A task that is no request owes no answer. -/
theorem unasked_safe {A : Type} {topics : Topic → Prop} {program : EngineM Core A}
    (concerns : Concerns topics program) (apart : ∀ topic, topics topic → topic ≠ .selection)
    {engine : Engine Core} (unasked : Unasked engine.log) :
    AnswerSafe config program (fun _ after => AnsweredOnce after.log) engine := by
  have elsewhere {topic : Topic} (engages : Engages topics topic) : topic ≠ .selection :=
    engages.ne (by decide) apart
  refine (concerns_log Unasked (fun log event engages unasked => ?_) ?_ concerns unasked).weaken
    fun _ after unasked => unasked.once
  · intro other task
    rw [currentTask_snoc log (elsewhere engages)] at task
    exact unasked other task
  · intro B op world engages _ choice event _ traces _ mark
    rcases traces_about traces with reading | same
    · rw [mark] at reading; cases reading
    · exact absurd (same.symm.trans mark) (elsewhere engages)

section
variable [Prost]

/-- The program begins and ends with every request answered. -/
abbrev KeepsAnswered {A : Type} (config : EngineConfig) (program : EngineM Core A) : Prop :=
  Keeps (Promise.any (engineMachine Core config))
    (traceGuard (Promise.any (engineMachine Core config)) answerLaw)
    (fun world => AnsweredOnce world.engine.log) program

omit [Prost] in
/-- Between its tasks the loop fires nothing. -/
theorem idle_answered {A : Type} {program : EngineM Core A} (fires : Fires False (fun _ => False) program) :
    KeepsAnswered config program := by
  refine keeps_engine.mpr fun engine now => fires_log AnsweredOnce ?_ ?_ fires now
  · intro log event fired now other task request
    have unmarked := firedBy_unmarked fired id
    have silent : event.fired = none := by
      cases event with
      | action action => exact fired.elim
      | _ => rfl
    rw [currentTask_snoc log unmarked] at task
    rw [sinceTask_snoc log unmarked, silent]
    simpa using now other task request
  · exact fun log event fired _ mark => absurd mark (firedBy_unmarked fired id)

/-- Each turn answers the request that it takes up before it ends. -/
theorem eventLoopTurn_answered (refreshArmed : Bool) :
    KeepsAnswered config (eventLoopTurn config refreshArmed : EngineM Core (Bool ⊕ Unit)) := by
  have stable : Stable (Promise.any (engineMachine Core config))
      fun world : World Core => AnsweredOnce world.engine.log :=
    stable_engine fun engine => AnsweredOnce engine.log
  have done {program : EngineM Core Unit} {world : World Core}
      (safe : AnswerSafe config program (fun _ after => AnsweredOnce after.log) world.engine) :
      Holds (Promise.any (engineMachine Core config))
        (traceGuard (Promise.any (engineMachine Core config)) answerLaw) program
        (fun _ world => AnsweredOnce world.engine.log) world := safe world rfl
  refine eventLoopTurn_branches (fun branch (after : World Core) =>
      ∃ before : Engine Core, AnsweredOnce before.log ∧ before.Selected branch after.engine) stable
    (fun armed => idle_answered (updateRefreshTimer_fires armed)) ?_ ?_ ?_ ?_ ?_ ?_ refreshArmed
  · intro armed world now
    refine holds_ask (fun world : World Core => AnsweredOnce world.engine.log) stable
      (fun world now choice event _ _ _ _ => now) (fun world choice branch after now _ selected => ?_) now
    change exec config (.select armed) choice world = some (branch, after) at selected
    exact holds_done (stable_engine fun engine =>
      ∃ before : Engine Core, AnsweredOnce before.log ∧ before.Selected branch engine)
      ⟨world.engine, now, select_engine selected⟩
  · rintro world ⟨before, -, clock, same⟩
    refine done (unasked_safe (concerns_refresh config) (by simp [loginTopics]) ?_)
    rw [same]
    exact unasked_mark _ rfl rfl
  · rintro world ⟨before, now, connectedSeen, same⟩
    have now : AnsweredOnce world.engine.log := by rw [same]; exact now
    unfold handleConnectedChange
    refine keeps_bind (idle_answered (uses_perform (by trivial))) (fun connected => ?_) world now
    split
    · exact idle_answered (uses_pure ())
    intro world now
    unfold handleDisconnect
    refine done (action_bind (fun world same => traceGuard_action fun _ => same ▸ now) ?_)
    refine unasked_safe concerns_reconnect (by simp) ?_
    exact unasked_mark _ rfl rfl
  · rintro event world ⟨before, -, same⟩
    have same : world.engine = before.record (.event event) := same
    cases request : event.isRequest with
    | true =>
        refine done ((handleEvent_answers event request world.engine ?_).weaken fun _ after replying =>
          replying.once)
        rw [same]
        exact replying_task _ event
    | false =>
        refine done (unasked_safe (built_handleEvent config event fun topic listed => listed).concerns
          (topics_unselected event) ?_)
        rw [same]
        exact unasked_mark _ rfl request
  · rintro frame world ⟨before, -, same⟩
    have same : world.engine = before.record (.frame frame) := same
    refine done (unasked_safe (built_frame frame).concerns (by simp [receiveTopics]) ?_)
    rw [same]
    exact unasked_mark _ rfl rfl
  · rintro world (⟨before, -, impossible⟩ | ⟨before, now, tokenSeen, same⟩)
    · exact impossible.elim
    · rw [same]
      exact now

/-- Before the first task nothing was asked. -/
theorem eventLoop_answered {engine : Engine Core} (silent : engine.log = []) :
    Holds (Promise.any (engineMachine Core config))
      (traceGuard (Promise.any (engineMachine Core config)) answerLaw) (eventLoop config)
      (fun _ _ => True) (startWorld engine) := by
  have stable : Stable (Promise.any (engineMachine Core config))
      fun world : World Core => AnsweredOnce world.engine.log :=
    stable_engine fun engine => AnsweredOnce engine.log
  have unasked : Unasked engine.log := by rw [silent]; exact nofun
  suffices safe : AnswerSafe config (eventLoop config) (fun _ _ => True) engine from
    safe (startWorld engine) rfl
  unfold eventLoop
  have first : AnswerSafe config (perform .transportNew) (fun _ after => Unasked after.log) engine := by
    refine Owned.safe_perform (fun world _ choice event _ traces _ => traces.elim) ?_
    rintro world choice value after same _ answered
    cases answered
    cases same
    exact unasked
  refine first.andThen fun started engine unasked => ?_
  rcases started with error | ⟨⟩
  · have failing : Concerns (· = .loop) (do
        onAction (.networkError s!"Transport init failed: {error}")
        perform .rxDrop : EngineM Core Unit) := uses_bind (concerns_report rfl) fun _ => concerns_own rfl
    exact (unasked_safe failing (by simp) unasked).weaken fun _ _ _ => trivial
  have connecting : Concerns (fun _ => False) (ensureConnected : EngineM Core Unit) :=
    concerns_ensureConnected
  refine (unasked_safe connecting (by simp) unasked).andThen fun _ engine now => ?_
  rintro world rfl
  refine Holds.weaken (keeps_bind (idle_answered (uses_perform (by trivial))) (fun _ =>
    keeps_bind (keeps_iterate stable eventLoopTurn_answered false) fun _ =>
      idle_answered (uses_perform (by trivial))) world now) fun _ _ _ => trivial

/-- Whatever the server, the core and the network do, each request that the loop takes up is answered
exactly once before the loop takes up anything else or waits. -/
theorem requests_answered {engine : Engine Core} (created : Engine.new config = .ok engine)
    {world : World Core} {later : EngineM Core Unit}
    (reached : Reaches (Promise.any (engineMachine Core config)) (startWorld engine, eventLoop config)
      (world, later)) :
    AtEach answerLaw world.engine.log ∧ (isWaiting later = true → AnsweredOnce world.engine.log) := by
  obtain ⟨core, rfl⟩ := Engine.new_fresh created
  have silent : (Engine.fresh config core).log = [] := rfl
  have safe : Holds (Promise.any (engineMachine Core config))
      (traceGuard (Promise.any (engineMachine Core config)) answerLaw) (eventLoop config)
      (fun _ _ => True) (startWorld (Engine.fresh config core)) := eventLoop_answered silent
  refine ⟨?_, fun waiting => ?_⟩
  · refine traced_reached (fun _ call mark => ?_) safe (atEach_nil _) reached
    have same : call.topic = .selection := mark
    simpa [same] using call_topic call
  · obtain ⟨refreshArmed, next, rfl⟩ := isWaiting_shape waiting
    exact (safe _ _ reached).1 _ _ _ rfl {} (.frame []) trivial (.inr (.inr ⟨[], rfl⟩)) nofun rfl

end

/-- The loop waits again, and the search that failed was answered. -/
theorem requests_answered_search :
    (currentTask (rehearsed (rehearsalConfig [] none) none failedSearch).1.engine.log).isSome = true ∧
      AnsweredOnce (rehearsed (rehearsalConfig [] none) none failedSearch).1.engine.log :=
  ⟨by decide +kernel, (requests_answered (rehearsal_without_core none) (rehearsed_any _ _ _)).2
    (by decide +kernel)⟩

end ConstructEngine
