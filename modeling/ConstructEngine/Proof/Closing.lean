import ConstructEngine.Proof.Rehearsal
import ConstructEngine.Proof.Turn

namespace ConstructEngine

open Interaction Program Machine

/-- The platform wishes for an open or for a closed stream. -/
def streamWish : Event → Option Bool
  | .event (.openMessageStream ..) => some true
  | .event .closeMessageStream => some false
  | _ => none

/-- The last wish of the platform was for a closed stream. -/
def isClosed (log : List Event) : Bool := (log.filterMap streamWish).getLast? = some false

theorem isClosed_silent (log : List Event) {event : Event} (silent : streamWish event = none) :
    isClosed (log ++ [event]) = isClosed log := by
  simp [isClosed, List.filterMap_append, silent]

theorem isClosed_open (log : List Event) (conversationIds : List String)
    (sinceCursor : Option String) :
    isClosed (log ++ [.event (.openMessageStream conversationIds sinceCursor)]) = false := by
  simp [isClosed, List.filterMap_append, streamWish]

/-- Only an event of the platform is a wish. -/
theorem streamWish_event {event : Event} {wished : Bool} (wish : streamWish event = some wished) :
    ∃ ui, event = .event ui := by
  cases event with
  | event ui => exact ⟨ui, rfl⟩
  | _ => cases wish

/-- While the stream is closed, nothing subscribes. -/
def closedLaw (log : List Event) : Event → Prop
  | .subscribed .. => isClosed log = false
  | _ => True

variable {Core A : Type}

def Op.closes : {A : Type} → Op Core A → Bool
  | _, .streamWrite none => true
  | _, _ => false

/-- Every attempt to open the stream again reads the stored parameters first. -/
def Op.reopens : {A : Type} → Op Core A → Bool
  | _, .paramsRead | _, .paramsLock => true
  | _, _ => false

variable [ConstructCore Core] {config : EngineConfig}

/-- In these runs nothing is stored for an attempt to open the stream again while it is closed. -/
def closedPromise (Core : Type) [ConstructCore Core] (config : EngineConfig) :
    (engineMachine Core config).Promise where
  answers op _ world :=
    op.reopens = true → isClosed world.engine.log = true → world.engine.streamParams = none
  moves _ _ := True

instance (A : Type) (op : Op Core A) (choice : (engineMachine Core config).Choice)
    (world : (engineMachine Core config).State) :
    Decidable ((closedPromise Core config).answers op choice world) :=
  inferInstanceAs (Decidable (op.reopens = true → isClosed (World.engine world).log = true →
    (World.engine world).streamParams = none))

instance (move : (engineMachine Core config).Move) (world : (engineMachine Core config).State) :
    Decidable ((closedPromise Core config).moves move world) := isTrue trivial

/-- These operations open a stream. -/
def Op.opens : {A : Type} → Op Core A → Bool
  | _, .paramsWrite _ | _, .openExchange .. | _, .spawnPump _ | _, .streamWrite (some _) => true
  | _, _ => false

omit [ConstructCore Core] in
theorem opens_of_topic {op : Op Core A} (apart : op.topic.opens = false) : op.opens = false := by
  cases op with
  | streamWrite stream =>
      cases stream with
      | none => rfl
      | some handle => cases apart
  | paramsWrite => cases apart
  | openExchange => cases apart
  | spawnPump => cases apart
  | _ => rfl

/-- While the stream is closed, the engine has none and does not subscribe. -/
def closedGuard (Core : Type) [ConstructCore Core] (config : EngineConfig) :
    (engineMachine Core config).Guard := fun op world =>
  isClosed world.engine.log = true →
    op.opens = false ∧ (world.engine.stream = none ∨ op.closes = true)

/-- A closed stream is gone. -/
def Engine.Shut (engine : Engine Core) : Prop := isClosed engine.log = true → engine.stream = none

/-- Only a selection changes the wish of the platform. -/
theorem exec_isClosed {op : Op Core A} (takes : op.takes = false) {choice : Choice}
    {world after : World Core} {value : A}
    (answered : exec config op choice world = some (value, after)) :
    isClosed after.engine.log = isClosed world.engine.log := by
  obtain ⟨more, grown, -, traces⟩ := exec_traces answered
  have silent : more.filterMap streamWish = [] := by
    rw [List.filterMap_eq_nil_iff]
    intro event member
    cases wish : streamWish event with
    | none => rfl
    | some wished =>
        obtain ⟨ui, rfl⟩ := streamWish_event wish
        rw [takes_of_event (traces _ member)] at takes
        cases takes
  simp [isClosed, grown, List.filterMap_append, silent]

/-- Only an attempt to open the stream, or to close it, changes the handle. -/
theorem exec_handle {op : Op Core A} (apart : op.opens = false) {choice : Choice}
    {world after : World Core} {value : A}
    (answered : exec config op choice world = some (value, after)) :
    after.engine.stream = world.engine.stream ∨ after.engine.stream = none := by
  cases op with
  | streamWrite stream =>
      cases stream with
      | none => cases answered; exact .inr rfl
      | some handle => cases apart
  | _ => exact .inl ((exec_frame answered).stream rfl)

section
variable [Prost]

/-- The engine keeps a closed stream shut. -/
abbrev KeepsShut (config : EngineConfig) (program : EngineM Core A) : Prop :=
  Keeps (closedPromise Core config) (closedGuard Core config) (fun world => world.engine.Shut) program

omit [Prost] in
theorem keepsShut_stable : Stable (closedPromise Core config) fun world : World Core => world.engine.Shut :=
  stable_engine Engine.Shut

omit [Prost] in
theorem keepsShut_op {op : Op Core A} (takes : op.takes = false) (apart : op.topic.opens = false) :
    KeepsShut config (perform op) := by
  refine keeps_perform keepsShut_stable (fun world shut closed => ⟨opens_of_topic apart, .inl (shut closed)⟩) ?_
  intro world choice value after shut _ answered closed
  rw [exec_isClosed takes answered] at closed
  rcases exec_handle (opens_of_topic apart) answered with same | gone
  · rw [same]; exact shut closed
  · exact gone

omit [Prost] in
/-- While the platform wishes for an open stream, the engine may do anything but take up a wish. -/
theorem shut_of_open {engine : Engine Core} (wished : isClosed engine.log = false)
    {program : EngineM Core A} (concerns : Concerns (· = Topic.subscription) program) :
    EngineSafe (closedPromise Core config) (closedGuard Core config) program
      (fun _ after => after.Shut) engine := by
  refine (concerns_log (fun log => isClosed log = false) ?_ ?_ concerns wished).weaken ?_
  · intro log event engages now
    rw [isClosed_silent log]
    · exact now
    · cases wish : streamWish event with
      | none => rfl
      | some wished =>
          obtain ⟨ui, rfl⟩ := streamWish_event wish
          rcases engages with same | same | same | same <;> cases same
  · intro B op world _ now closed
    rw [now] at closed
    cases closed
  · intro _ after now closed
    rw [now] at closed
    cases closed

omit [ConstructCore Core] [Prost] in
theorem open_of_stored {engine : Engine Core} {params : StreamParams}
    (kept : isClosed engine.log = true → engine.streamParams = none)
    (stored : engine.streamParams = some params) : isClosed engine.log = false := by
  refine Bool.eq_false_iff.mpr fun closed => ?_
  rw [kept closed] at stored
  cases stored

omit [Prost] in
/-- Nothing is stored for a closed stream, and an open one may be opened again. -/
theorem keepsShut_reopen : KeepsShut config (reopenStreamIfNeeded : EngineM Core Unit) := by
  refine keeps_engine.mpr fun engine shut => ?_
  unfold reopenStreamIfNeeded
  refine Owned.safe_step (fun world same closed => ⟨rfl, .inl ?_⟩) ?_
  · have same : world.engine = engine := same
    rw [same] at closed ⊢
    exact shut closed
  intro world choice params after same kept answered
  change exec config .paramsRead choice world = _ at answered
  obtain ⟨-, rfl, rfl⟩ := paramsRead_effect answered
  change after.engine = engine at same
  subst same
  cases stored : after.engine.streamParams with
  | none => exact Owned.safe_done shut
  | some params =>
      exact shut_of_open (open_of_stored (kept rfl) stored) (concerns_handleOpenStream (by rfl) _ _)

omit [Prost] in
/-- After a lost connection an open stream is opened again, too. -/
theorem keepsShut_resubscribe : KeepsShut config (resubscribe : EngineM Core Unit) := by
  refine keeps_engine.mpr fun engine shut => ?_
  unfold resubscribe
  refine Owned.safe_step (fun world same closed => ⟨rfl, .inl ?_⟩) ?_
  · have same : world.engine = engine := same
    rw [same] at closed ⊢
    exact shut closed
  intro world choice params after same kept answered
  change exec config .paramsLock choice world = _ at answered
  obtain ⟨-, rfl, rfl⟩ := paramsLock_effect answered
  change world.engine = engine at same
  subst same
  have unlocks (engine : Engine Core) (shut : engine.Shut) : EngineSafe (closedPromise Core config)
      (closedGuard Core config) (perform .paramsUnlock) (fun _ after => after.Shut) engine :=
    keeps_engine.mp (keepsShut_op rfl rfl) engine shut
  have locked : ({ world.engine with paramsHeld := true } : Engine Core).Shut := shut
  cases stored : world.engine.streamParams with
  | none => exact unlocks _ locked
  | some params =>
      have opens : EngineSafe (closedPromise Core config) (closedGuard Core config)
          (handleOpenStream params.conversationIds params.lastCursor) (fun _ after => after.Shut)
          { world.engine with paramsHeld := true } :=
        shut_of_open (by exact open_of_stored (kept rfl) stored) (concerns_handleOpenStream (by rfl) _ _)
      exact opens.andThen fun _ after now => unlocks after now

/-- An event without a wish leaves a closed stream shut. -/
theorem keepsShut_event {event : UiEvent} (silent : streamWish (.event event) = none) :
    KeepsShut config (handleEvent config event : EngineM Core Unit) := by
  have apart : ∀ topic ∈ event.topics, topic ≠ .wish := by
    cases event with
    | openMessageStream => cases silent
    | _ => simp [UiEvent.topics, receiveTopics, keyCountTopics, loginTopics]
  refine keeps_built keepsShut_stable (fun op engages apart => keepsShut_op (takes_of_topic ?_) apart)
    (fun wished => absurd rfl (apart _ wished)) (fun _ => keepsShut_reopen)
    (built_handleEvent config event fun _ member => member)
  exact engages.ne (by simp) (topics_unselected event)

omit [ConstructCore Core] [Prost] in
theorem Engine.Shut.record {engine : Engine Core} (shut : engine.Shut) {event : Event}
    (silent : streamWish event = none) : (engine.record event).Shut := by
  intro closed
  rw [Engine.record, isClosed_silent _ silent] at closed
  exact shut closed

theorem eventLoop_shut : KeepsShut config (eventLoop config : EngineM Core Unit) := by
  have ops {B : Type} (op : Op Core B) (other : op.topic ≠ .selection) (apart : op.topic.opens = false) :
      KeepsShut config (perform op) := keepsShut_op (takes_of_topic other) apart
  have refreshes (refreshToken : String) :
      KeepsShut config (handleRefreshToken config refreshToken : EngineM Core Unit) :=
    keepsShut_event (rfl : streamWish (.event (.refreshToken refreshToken)) = none)
  have own {B : Type} (op : Op Core B) (own : op.Own) : KeepsShut config (perform op) := by
    refine ops op (own.ne (by simp) (by simp)) ?_
    have apart : op.topic ≠ .subscription := own.ne (by simp) (by simp)
    simpa [Topic.opens] using apart
  refine eventLoop_engine Engine.Shut ?_ ?_ ?_ ?_ ?_ ?_ ?_
  · exact fun op engine single shut => keeps_engine.mp (own op single) engine shut
  · intro refreshArmed world shut closed
    exact ⟨rfl, .inl (shut closed)⟩
  · exact fun engine connectedSeen tokenSeen shut => shut
  · intro engine clock shut
    refine keeps_engine.mp (keeps_bind (own _ (.inl rfl)) fun due => ?_) _ (shut.record rfl)
    cases due with
    | none => exact keeps_done keepsShut_stable ()
    | some due => exact refreshes due.refreshToken
  · intro engine shut
    have connect : KeepsShut config (ensureConnected : EngineM Core Unit) :=
      keeps_of_uses keepsShut_stable (fun op engages => own op (own_of_engages engages))
        concerns_ensureConnected
    have closes : KeepsShut config (perform (.streamWrite none) : EngineM Core Unit) :=
      keepsShut_op rfl rfl
    have reports : KeepsShut config (onAction (.connectionStateChanged false) : EngineM Core Unit) :=
      keepsShut_op rfl rfl
    exact keeps_engine.mp (keeps_bind reports fun _ => keeps_bind closes fun _ =>
      keeps_bind connect fun _ => keepsShut_resubscribe) engine shut
  · intro event engine shut
    by_cases wish : streamWish (.event event) = none
    · exact keeps_engine.mp (keepsShut_event wish) _ (shut.record wish)
    cases event with
    | openMessageStream conversations cursor =>
        exact shut_of_open (isClosed_open engine.log _ _) (concerns_handleOpenStream (by rfl) _ _)
    | closeMessageStream =>
        refine Owned.safe_perform (fun world _ _ => ⟨rfl, .inr rfl⟩) ?_
        intro world choice value after _ _ answered _
        cases answered
        rfl
    | _ => exact absurd rfl wish
  · intro frame engine shut
    refine keeps_engine.mp (keeps_built keepsShut_stable ?_ ?_ ?_ (built_frame frame)) _ (shut.record rfl)
    · exact fun op engages => ops op (engages.ne (by simp) (by simp [receiveTopics]))
    · simp [receiveTopics]
    · simp [receiveTopics]

omit [Prost] in
/-- After a selection the handle is left for the handler of the closing event. -/
theorem closing_kept {op : Op Core A} {choice : Choice} {world after : World Core} {value : A}
    (guarded : closedGuard Core config op world)
    (answered : exec config op choice world = some (value, after))
    (closed : isClosed after.engine.log = true) :
    after.engine.stream = none ∨
      after.engine.log.getLast? = some (.event .closeMessageStream) := by
  cases takes : op.takes with
  | false =>
      rw [exec_isClosed takes answered] at closed
      obtain ⟨apart, shut | closing⟩ := guarded closed
      · rcases exec_handle apart answered with same | gone
        · exact .inl (same.trans shut)
        · exact .inl gone
      · cases op with
        | streamWrite stream =>
            cases stream with
            | none => cases answered; exact .inl rfl
            | some handle => cases closing
        | _ => cases closing
  | true =>
      cases op with
      | select refreshArmed =>
          have still (closed : isClosed world.engine.log = true) : world.engine.stream = none :=
            (guarded closed).2.resolve_right nofun
          have passes (event : Event) (silent : streamWish event = none)
              (closed : isClosed (world.engine.log ++ [event]) = true) : world.engine.stream = none :=
            still (by rwa [isClosed_silent _ silent] at closed)
          obtain ⟨-, -, rfl⟩ | ⟨-, -, rfl⟩ | ⟨-, ⟨event, rest, -, -, rfl⟩ | ⟨-, ⟨frame, rest, -, -, rfl⟩ |
            ⟨-, -, rfl⟩⟩⟩ := select_effect answered
          · exact .inl (passes _ (by rfl) closed)
          · exact .inl (still closed)
          · cases event with
            | closeMessageStream => exact .inr List.getLast?_concat
            | openMessageStream =>
                rw [Engine.record, isClosed_open] at closed
                cases closed
            | _ => exact .inl (passes _ (by rfl) closed)
          · exact .inl (passes _ (by rfl) closed)
          · exact .inl (still closed)
      | _ => cases takes

end

/-- The server accepts the login and the subscription. -/
def loginAfter (events : List UiEvent) (answers : Nat) :
    List (rehearsalMachine (rehearsalConfig [] none)).Input :=
  rehearsal (rehearsalConfig [] none) (events ++ [.authenticate "d" [] []]) (List.replicate answers
    { http := {
        recvResponse := .ok (⟨200, "200 OK"⟩, [])
        recvData := [[0, 0, 0, 0, 0]] }
      opened := { recvResponse := .ok ⟨200, "200 OK"⟩ } }) []

end ConstructEngine
