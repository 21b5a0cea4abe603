import ConstructEngine.Proof.Fate
import ConstructEngine.Proof.Rehearsal

namespace ConstructEngine

open Interaction Program Machine

variable {Core : Type}

/-- The engine holds exactly the pump of its handle. -/
theorem holds_iff {world : World Core} {number : Nat} :
    world.holds number = true ↔ ∃ handle ∈ world.engine.stream, handle.pump = number := by
  rw [World.holds, Option.any_eq_true]
  simp

/-- No attempt to open the stream is under way, and the held stream may be lost. -/
def Adrift (state : World Core × Vigil) : Prop := state.2.opening = false ∧ Enrolled state

variable [ConstructCore Core] {config : EngineConfig}

section
variable {promise : (vigilMachine Core config).Promise}

/-- A move goes onward, or it makes a pump die and notes this unless an attempt awaits it. -/
theorem vigil_move {move : Move} {state after : World Core × Vigil}
    (moved : (vigilMachine Core config).move move state = some after) :
    Onward state.1 after.1 ∧ after.2 = state.2 ∨
      ∃ number, Dies number state.1 after.1 ∧
        (state.2.opening = true ∧ state.1.holds number = true ∧ after.2 = state.2 ∨
          ¬(state.2.opening = true ∧ state.1.holds number = true) ∧
            after.2 = { state.2 with unanswered := number :: state.2.unanswered }) := by
  obtain ⟨done, noted⟩ := journaled_move moved
  change after.2 = move.vigil state.1 state.2 at noted
  rw [noted]
  exact moveWorld_fate done

/-- A pump that dies outside of an attempt is noted. -/
theorem adrift_stable : Stable promise (Adrift) := by
  rintro move ⟨world, vigil⟩ ⟨after, noted⟩ ⟨closed, enrolled⟩ _ moved
  obtain ⟨onward, rfl⟩ | ⟨number, dies, ⟨opening, -⟩ | ⟨-, rfl⟩⟩ := vigil_move moved
  · exact ⟨closed, onward.enrolled enrolled⟩
  · cases closed.symm.trans opening
  · exact ⟨closed, dies.enrolled enrolled⟩

/-- Without an attempt there is no death that goes unnoted. -/
theorem atRest_stable : Stable promise (AtRest) := by
  rintro move ⟨world, vigil⟩ ⟨after, noted⟩ calm _ moved
  obtain ⟨onward, rfl⟩ | ⟨number, dies, ⟨opening, -⟩ | ⟨-, rfl⟩⟩ := vigil_move moved
  · exact onward.atRest calm
  · cases calm.1.1.symm.trans opening
  · exact dies.atRest calm

/-- During an attempt only the end of the stream that is about to be replaced goes unnoted. -/
theorem attempting_stable : Stable promise (Attempting) := by
  rintro move ⟨world, vigil⟩ ⟨after, noted⟩ attempting _ moved
  obtain ⟨onward, rfl⟩ | ⟨number, dies, ⟨-, -, rfl⟩ | ⟨unheld, rfl⟩⟩ := vigil_move moved
  · exact onward.attempting attempting
  · exact dies.attempting_held attempting
  · refine dies.attempting_other attempting fun handle member same => unheld ⟨attempting.1.1, ?_⟩
    exact holds_iff.mpr ⟨handle, member, same⟩

/-- The end of a pump that is not stored yet is noted even during the attempt. -/
theorem opened_stable (opened : Except EngineError BiDiStreamHandle) :
    Stable promise (Opened opened) := by
  rintro move state after now kept moved
  cases opened with
  | error error => exact attempting_stable move state after now kept moved
  | ok handle =>
      obtain ⟨attempting, accounted, unlike⟩ := now
      refine ⟨attempting_stable move state after attempting kept moved, ?_⟩
      obtain ⟨world, vigil⟩ := state
      obtain ⟨after, noted⟩ := after
      obtain ⟨onward, rfl⟩ | ⟨number, dies, ⟨-, holds, rfl⟩ | ⟨-, rfl⟩⟩ := vigil_move moved
      · exact ⟨onward.accounted accounted, fun held member => unlike held (onward.stream ▸ member)⟩
      · obtain ⟨held, member, rfl⟩ := holds_iff.mp holds
        exact ⟨dies.accounted_other (unlike held member).symm accounted,
          fun held member => unlike held (dies.engine ▸ member)⟩
      · exact ⟨dies.accounted accounted, fun held member => unlike held (dies.engine ▸ member)⟩

end

/-- Every selection of the loop finds the engine at rest. -/
def vigilGuard (Core : Type) [ConstructCore Core] (config : EngineConfig) :
    (vigilMachine Core config).Guard := fun op state =>
  match op with
  | .select _ => AtRest state
  | _ => True

/-- The vigil watches one program. -/
abbrev VigilHolds {A : Type} (config : EngineConfig) (program : EngineM Core A)
    (result : A → World Core × Vigil → Prop) (state : World Core × Vigil) : Prop :=
  Holds (Promise.any (vigilMachine Core config)) (vigilGuard Core config) program result state

/-- The program keeps the invariant of the vigil. -/
abbrev KeepsVigil {A : Type} (config : EngineConfig) (invariant : World Core × Vigil → Prop)
    (program : EngineM Core A) : Prop :=
  Keeps (Promise.any (vigilMachine Core config)) (vigilGuard Core config) invariant program

theorem exec_vigil {A : Type} {op : Op Core A} {choice : Choice} {state after : World Core × Vigil} {value : A}
    (answered : (vigilMachine Core config).exec op choice state = some (value, after)) :
    exec config op choice state.1 = some (value, after.1) ∧ after.2 = op.vigil state.2 :=
  journaled_exec answered

section
variable {invariant : World Core × Vigil → Prop}
  (stable : Stable (Promise.any (vigilMachine Core config)) invariant)
  (onward : ∀ {world after : World Core} {vigil : Vigil}, Onward world after →
    invariant (world, vigil) → invariant (after, vigil))
include stable onward

/-- An operation that spares the stream keeps whatever a step onward keeps. -/
theorem spared_keeps {A : Type} (op : Op Core A) (spares : op.sparesStream = true)
    (handler : op.kind ≠ .loop) : KeepsVigil config invariant (perform op) := by
  refine keeps_perform stable (fun state _ => ?_) fun state choice value after now _ answered => ?_
  · cases op with
    | select refreshArmed => exact absurd rfl handler
    | _ => trivial
  · obtain ⟨done, noted⟩ := exec_vigil answered
    obtain ⟨world, vigil⟩ := state
    obtain ⟨after, note⟩ := after
    obtain rfl : note = vigil := noted.trans (sparesStream_vigil spares vigil)
    exact onward (exec_onward done spares) now

theorem plain_keeps {A : Type} (op : Op Core A) (kind : op.kind = .plain) :
    KeepsVigil config invariant (perform op) := by
  refine spared_keeps stable onward op ?_ (by rw [kind]; decide)
  cases op with
  | streamWrite stream => cases stream <;> cases kind
  | spawnPump conn => cases kind
  | paramsWrite params => cases kind
  | onAction action =>
      cases action with
      | streamError message => cases kind
      | connectionStateChanged connected =>
          cases connected with
          | false => cases kind
          | true => rfl
      | _ => rfl
  | _ => rfl

/-- An attempt to connect changes no handle, so it keeps what plain operations keep. -/
theorem connectH3_keeps (site : ConnectSite) :
    KeepsVigil config invariant (connectH3 site : EngineM Core (Except EngineError Unit)) := by
  unfold connectH3
  refine keeps_bind (spared_keeps stable onward _ rfl (by nofun)) fun _ =>
    keeps_bind (spared_keeps stable onward _ rfl (by nofun)) fun connected => ?_
  rcases connected with error | conn
  · exact keeps_done stable _
  · exact keeps_bind (spared_keeps stable onward _ rfl (by nofun)) fun _ =>
      keeps_bind (spared_keeps stable onward _ rfl (by nofun)) fun _ => keeps_done stable _

omit onward in
theorem composed_keeps {A : Type} {program : EngineM Core A}
    (composed : Composed (fun _ single => KeepsVigil config invariant single) program) :
    KeepsVigil config invariant program := keeps_of_composed stable composed

end

theorem atRest_keeps {A : Type} (op : Op Core A) (spares : op.sparesStream = true) (handler : op.kind ≠ .loop) :
    KeepsVigil config AtRest (perform op) :=
  spared_keeps atRest_stable Onward.atRest op spares handler

/-- A plain operation leaves the engine at rest. -/
theorem plain_atRest {A : Type} (op : Op Core A) (kind : op.kind = .plain) :
    KeepsVigil config AtRest (perform op) :=
  plain_keeps atRest_stable Onward.atRest op kind

/-- A unary call may lose the connection, but it replaces no stream. -/
theorem unaryCall_atRest (servicePath : String) (request : Bytes) :
    KeepsVigil config AtRest (unaryCall servicePath request : EngineM Core (Except EngineError Bytes)) :=
  composed_keeps atRest_stable (composed_unaryCall plain_atRest
    (connectH3_keeps atRest_stable Onward.atRest _) (fun _ _ _ _ => atRest_keeps _ rfl (by nofun))
    (atRest_keeps _ rfl (by nofun)) servicePath request)

theorem ensureConnected_atRest : KeepsVigil config AtRest (ensureConnected : EngineM Core Unit) :=
  composed_keeps atRest_stable
    (composed_ensureConnected plain_atRest (connectH3_keeps atRest_stable Onward.atRest _))

/-- The new pump is watched from its first step, although its handle is not stored yet. -/
theorem openMessageStream_opened (conversations : List String) (cursor : Option String)
    {state : World Core × Vigil} (attempting : Attempting state) :
    VigilHolds config (openMessageStream conversations cursor) Opened state := by
  have plain {A : Type} (op : Op Core A) (kind : op.kind = .plain) :
      KeepsVigil config Attempting (perform op) := plain_keeps attempting_stable Onward.attempting op kind
  have failed (error : EngineError) {state : World Core × Vigil} (attempting : Attempting state) :
      VigilHolds config (.done (.error error)) Opened state := holds_done (opened_stable _) attempting
  unfold openMessageStream
  refine holds_bind (composed_keeps attempting_stable (composed_ensureH3 plain
    (connectH3_keeps attempting_stable Onward.attempting .openMessageStream)) state attempting)
    fun ensured state attempting => ?_
  rcases ensured with error | ⟨⟩
  · exact failed error attempting
  refine holds_bind (composed_keeps attempting_stable (composed_sendRequest plain) state
    attempting) fun sendReq state attempting => ?_
  rcases sendReq with error | conn
  · exact failed error attempting
  refine holds_bind (plain .tokenRead rfl state attempting) fun token state attempting => ?_
  refine holds_bind (plain .requestId rfl state attempting) fun requestId state attempting => ?_
  refine holds_bind (spared_keeps attempting_stable Onward.attempting (.openExchange ..) rfl (by nofun) state
    attempting) fun accepted state attempting => ?_
  rcases accepted with error | ⟨⟩
  · exact failed error attempting
  refine holds_perform Attempting attempting_stable (fun _ _ => trivial)
    (fun state choice handle after attempting _ spawned => ?_) attempting
  obtain ⟨done, noted⟩ := exec_vigil spawned
  obtain ⟨world, vigil⟩ := state
  obtain ⟨after, note⟩ := after
  cases done
  cases noted
  exact holds_done (opened_stable _) (spawnPump_opened attempting conn)

/-- An attempt begins and ends at rest. -/
theorem handleOpenStream_atRest (conversations : List String) (cursor : Option String) :
    KeepsVigil config AtRest (handleOpenStream conversations cursor : EngineM Core Unit) := by
  intro state calm
  unfold handleOpenStream
  refine holds_perform AtRest atRest_stable (fun _ _ => trivial)
    (fun state choice value after calm _ stored => ?_) calm
  have attempting : Attempting after := by
    obtain ⟨done, noted⟩ := exec_vigil stored
    obtain ⟨world, vigil⟩ := state
    obtain ⟨after, note⟩ := after
    obtain ⟨-, rfl⟩ := paramsWrite_effect done
    cases noted
    exact attempting_of_atRest calm
  refine holds_bind (openMessageStream_opened conversations cursor attempting) fun opened state now => ?_
  rcases opened with error | handle
  · refine holds_ask Attempting attempting_stable (fun _ _ => trivial)
      (fun state choice value after attempting _ told => ?_) now
    obtain ⟨done, noted⟩ := exec_vigil told
    obtain ⟨world, vigil⟩ := state
    obtain ⟨after, note⟩ := after
    cases done
    cases noted
    exact holds_done atRest_stable (atRest_of_error attempting _)
  · refine holds_perform (Opened (.ok handle)) (opened_stable _) (fun _ _ => trivial)
      (fun state choice value after opened _ written => ?_) now
    obtain ⟨done, noted⟩ := exec_vigil written
    obtain ⟨world, vigil⟩ := state
    obtain ⟨after, note⟩ := after
    cases done
    cases noted
    exact plain_atRest (.onAction (.streamReady none)) rfl _ (atRest_of_stored opened)

/-- A dropped handle cannot be missed. -/
theorem handleCloseStream_atRest {state : World Core × Vigil} (adrift : Adrift state) :
    VigilHolds config handleCloseStream (fun _ => AtRest) state := by
  refine holds_ask Adrift adrift_stable (fun _ _ => trivial)
    (fun state choice value after adrift _ written => ?_) adrift
  obtain ⟨done, noted⟩ := exec_vigil written
  obtain ⟨world, vigil⟩ := state
  obtain ⟨after, note⟩ := after
  cases done
  cases noted
  exact holds_done atRest_stable (atRest_of_closed adrift.2)

theorem handler_atRest {A : Type} (op : Op Core A) (below : BelowLoop op.kind) :
    KeepsVigil config AtRest (perform op) := by
  cases op with
  | streamWrite stream =>
      cases stream with
      | none => exact fun state calm => handleCloseStream_atRest calm.1
      | some handle => exact absurd rfl below.1
  | spawnPump conn => exact absurd rfl below.1
  | paramsWrite params => exact absurd rfl below.1
  | onAction action =>
      refine atRest_keeps _ ?_ below.2
      cases action with
      | streamError message => exact absurd rfl below.1
      | connectionStateChanged connected =>
          cases connected with
          | false => exact absurd rfl below.2
          | true => rfl
      | _ => rfl
  | _ => exact atRest_keeps _ rfl below.2

/-- Reading the watch leaves the engine at rest. -/
theorem borrow_atRest : KeepsVigil config AtRest (perform .connectedBorrow : EngineM Core Bool) := by
  refine keeps_perform atRest_stable (fun _ _ => trivial) fun state choice value after calm _ answered => ?_
  obtain ⟨done, noted⟩ := exec_vigil answered
  obtain ⟨world, vigil⟩ := state
  obtain ⟨after, note⟩ := after
  cases noted
  exact (exec_onward done rfl).atRest calm

/-- The report of a lost connection is followed by the drop of the handle. -/
theorem handleConnectedChange_atRest : KeepsVigil config AtRest (handleConnectedChange : EngineM Core Unit) := by
  unfold handleConnectedChange
  refine keeps_bind borrow_atRest fun connected => ?_
  split
  · exact keeps_done atRest_stable ()
  intro state calm
  unfold handleDisconnect
  refine holds_perform Adrift adrift_stable (fun _ _ => trivial)
    (fun state choice value after adrift _ told => ?_) calm.1
  have adrift : Adrift after := by
    obtain ⟨done, noted⟩ := exec_vigil told
    obtain ⟨world, vigil⟩ := state
    obtain ⟨after, note⟩ := after
    cases done
    cases noted
    exact adrift
  refine holds_bind (handleCloseStream_atRest adrift) fun _ state calm => ?_
  refine keeps_bind ensureConnected_atRest (fun _ => keeps_bind (plain_atRest .paramsLock rfl) fun stored => ?_)
    state calm
  cases stored with
  | none => exact plain_atRest .paramsUnlock rfl
  | some params => exact keeps_bind (handleOpenStream_atRest _ _) fun _ => plain_atRest .paramsUnlock rfl

theorem select_atRest (refreshArmed : Bool) :
    KeepsVigil config AtRest (perform (.select refreshArmed) : EngineM Core Branch) := by
  refine keeps_perform atRest_stable (fun _ calm => calm) fun state choice branch after calm _ answered => ?_
  obtain ⟨done, noted⟩ := exec_vigil answered
  obtain ⟨world, vigil⟩ := state
  obtain ⟨after, note⟩ := after
  cases noted
  exact (exec_onward done rfl).atRest calm

section
variable [Prost]

/-- Between two tasks no stream is being opened. -/
theorem eventLoop_atRest : KeepsVigil config AtRest (eventLoop config : EngineM Core Unit) := by
  refine eventLoop_links atRest_stable handler_atRest unaryCall_atRest handleOpenStream_atRest AtRest
    (fun _ => AtRest) (fun refreshArmed state calm => ?_)
    (fun state calm => handleConnectedChange_atRest state calm)
    (handleEvent_links atRest_stable handler_atRest unaryCall_atRest handleOpenStream_atRest)
    ensureConnected_atRest
  exact (select_atRest refreshArmed state calm).weaken fun branch after calm => selected_of_invariant calm

/-- The loop is idle when it waits and no signal is pending. -/
def isIdle (config : World Core × EngineM Core Unit) : Bool :=
  match config with
  | (world, .ask (.select refreshArmed) _) => (selectBranch refreshArmed world).isNone
  | _ => false

/-- Whenever the loop waits, the platform was told of the end of the held stream unless this end is
unanswered. -/
theorem deadStream_reported {engine : Engine Core} (created : Engine.new config = .ok engine)
    {world : World Core} {vigil : Vigil} {later : EngineM Core Unit}
    (reached : Reaches (Promise.any (vigilMachine Core config))
      ((startWorld engine, ⟨false, []⟩), eventLoop config) ((world, vigil), later))
    (waiting : isWaiting later = true) :
    DeathReported world ↔ ∀ handle ∈ world.engine.stream, handle.pump ∉ vigil.unanswered := by
  obtain ⟨core, rfl⟩ := Engine.new_fresh created
  obtain ⟨refreshArmed, next, rfl⟩ := isWaiting_shape waiting
  have start : AtRest (startWorld (Engine.fresh config core), ⟨false, []⟩) := ⟨⟨rfl, nofun⟩, nofun⟩
  have calm : AtRest (world, vigil) := (eventLoop_atRest _ start _ _ reached).1 _ _ _ rfl
  exact calm.reported_iff

end

/-- The stream opens, and these moves follow once the loop is idle. -/
def openedStream (moves : List Move) : List (rehearsalMachine (rehearsalConfig [] none)).Input :=
  rehearsal (rehearsalConfig [] none) [.openMessageStream ["c"] none]
    (List.replicate 26 { opened := { recvResponse := .ok ⟨200, "200 OK"⟩ } }) moves

/-- The server closes the stream while nothing is pending, and the loop stays idle. -/
theorem deadStream_reported_fails :
    ¬ ∀ world later, Reaches (Promise.any (rehearsalMachine (rehearsalConfig [] none)))
      (rehearsalStart (rehearsalConfig [] none) none) (world, later) →
      isIdle (world, later) = true → DeathReported world := by
  intro reported
  have claimed := reported _ _ (rehearsed_any _ _
    (openedStream [.pump 0 .queueEmpty, .pump 0 .serverCloses])) (by decide +kernel)
  exact absurd claimed (by decide +kernel)

/-- The server closes the stream, and then the platform asks for a new one, which fails to open. -/
def replacedStream : (vigilMachine RehearsalCore (rehearsalConfig [] none)).Configuration Unit :=
  run ((startWorld (Engine.fresh (rehearsalConfig [] none) none), ⟨false, []⟩),
      eventLoop (rehearsalConfig [] none))
    (.move (Move.dispatch (.openMessageStream ["c"] none)) ::
      List.replicate 26 (.answer { opened := { recvResponse := .ok ⟨200, "200 OK"⟩ } }) ++
      [.move (Move.pump 0 .queueEmpty), .move (Move.pump 0 .serverCloses),
        .move (Move.dispatch (.openMessageStream ["c"] none))] ++
      List.replicate 10 (.answer {}))

/-- The engine still holds the dead stream, and the platform knows. -/
theorem deadStream_reported_replaced : replacedStream.1.1.engine.stream = some ⟨0, 0⟩ ∧
    DeathReported replacedStream.1.1 := by
  have reached : Reaches (Promise.any (vigilMachine RehearsalCore (rehearsalConfig [] none)))
      ((startWorld (Engine.fresh (rehearsalConfig [] none) none), ⟨false, []⟩),
        eventLoop (rehearsalConfig [] none))
      ((replacedStream.1.1, replacedStream.1.2), replacedStream.2) := run_reaches (allAllowed_any _ _)
  have waiting : isWaiting replacedStream.2 = true := by decide +kernel
  exact ⟨by decide +kernel,
    (deadStream_reported (rehearsal_without_core none) reached waiting).mpr (by decide +kernel)⟩

end ConstructEngine
