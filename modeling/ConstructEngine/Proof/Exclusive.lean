import ConstructEngine.Proof.Link
import ConstructEngine.Proof.Rehearsal

namespace ConstructEngine

open Interaction Program Machine

variable {Core : Type} {config : EngineConfig}

/-- A pump is open as long as its handle was not dropped. -/
def Net.isOpen (net : Net) (number : Nat) : Bool := (net.pumps[number]?).any fun pump => !pump.handleDropped

/-- The held stream is known by its pump. -/
def Engine.heldPump (engine : Engine Core) : Option Nat := engine.stream.map BiDiStreamHandle.pump

/-- The open pumps are the pump of the held stream and no other. -/
def Exclusive (world : World Core) : Prop :=
  ∀ number, world.net.isOpen number = true ↔ world.engine.heldPump = some number

/-- Besides the held stream there is the new one. -/
def Pending (handle : BiDiStreamHandle) (world : World Core) : Prop :=
  world.engine.heldPump ≠ some handle.pump ∧
    ∀ number, world.net.isOpen number = true ↔
      number = handle.pump ∨ world.engine.heldPump = some number

/-- A change of one pump opens and closes no other. -/
theorem Net.isOpen_update (net : Net) {number : Nat} {pump : Pump} (after : Pump)
    (found : net.pumps[number]? = some pump) (other : Nat) :
    (net.updatePump number after).isOpen other =
      if number = other then !after.handleDropped else net.isOpen other := by
  by_cases same : number = other
  · subst same
    simp [Net.isOpen, Net.updatePump, List.getElem?_set_self (List.getElem?_eq_some_iff.mp found).1]
  · simp [Net.isOpen, Net.updatePump, List.getElem?_set_ne same, same]

/-- A pump that keeps the mark of its handle stays as open as it was. -/
theorem Net.isOpen_marked {net : Net} {number : Nat} {pump after : Pump}
    (found : net.pumps[number]? = some pump) (marked : after.handleDropped = pump.handleDropped) :
    (net.updatePump number after).isOpen = net.isOpen := by
  funext other
  rw [Net.isOpen_update net after found]
  split
  next same =>
    subst same
    simp [Net.isOpen, found, marked]
  next => rfl

/-- Only the pump of the dropped handle closes. -/
theorem Net.isOpen_dropHandle (net : Net) (stream : Option BiDiStreamHandle) (number : Nat) :
    (net.dropHandle stream).isOpen number = true ↔
      net.isOpen number = true ∧ stream.map BiDiStreamHandle.pump ≠ some number := by
  cases stream with
  | none => simp [Net.dropHandle]
  | some handle =>
      simp only [Net.dropHandle, Option.map_some, ne_eq, Option.some.injEq]
      split
      next absent =>
        refine ⟨fun isOpen => ⟨isOpen, ?_⟩, fun isOpen => isOpen.1⟩
        rintro rfl
        simp [Net.isOpen, absent] at isOpen
      next pump found =>
        rw [Net.isOpen_update net _ found]
        split <;> simp_all

/-- A new pump is open. -/
theorem Net.isOpen_spawn (net : Net) (conn number : Nat) :
    ({ net with pumps := net.pumps ++ [{ conn }] } : Net).isOpen number = true ↔
      number = net.pumps.length ∨ net.isOpen number = true := by
  rcases Nat.lt_trichotomy number net.pumps.length with known | rfl | beyond
  · simp [Net.isOpen, List.getElem?_append_left known, Nat.ne_of_lt known]
  · simp [Net.isOpen]
  · have outside : (net.pumps ++ [({ conn } : Pump)]).length ≤ number := by
      simpa using Nat.succ_le_of_lt beyond
    simp only [Net.isOpen, List.getElem?_eq_none (Nat.le_of_lt beyond), List.getElem?_eq_none outside]
    simp [Nat.ne_of_gt beyond]

/-- These operations make, store or drop a handle. -/
def Op.movesHandle : {A : Type} → Op Core A → Bool
  | _, .streamWrite _ | _, .spawnPump _ => true
  | _, _ => false

/-- Between these worlds no handle is stored, dropped or made. -/
structure SameHandles (world after : World Core) : Prop where
  stream : after.engine.stream = world.engine.stream
  isOpen : after.net.isOpen = world.net.isOpen

section
variable {world after : World Core}

/-- Without a move of handles the streams stay exclusive. -/
theorem SameHandles.exclusive (same : SameHandles world after) (now : Exclusive world) : Exclusive after := by
  intro number
  rw [same.isOpen, Engine.heldPump, same.stream]
  exact now number

/-- Without a move of handles the new stream stays the only other one. -/
theorem SameHandles.pending (handle : BiDiStreamHandle) (same : SameHandles world after)
    (now : Pending handle world) : Pending handle after := by
  unfold Pending
  rw [same.isOpen, Engine.heldPump, same.stream]
  exact now

/-- At the start there is no stream. -/
theorem exclusive_start (engine : Engine Core) (closed : engine.stream = none) :
    Exclusive (startWorld engine) := by
  intro number
  simp [Net.isOpen, startWorld, Net.new, Engine.heldPump, closed]

/-- A new pump waits for its handle to be stored. -/
theorem pending_of_spawned (now : Exclusive world) (conn : Nat) :
    Pending ⟨world.net.pumps.length, conn⟩
      { world with net := { world.net with pumps := world.net.pumps ++ [{ conn }] } } := by
  refine ⟨fun held => ?_, fun number => ?_⟩
  · have known := (now _).mpr held
    simp [Net.isOpen] at known
  · rw [Net.isOpen_spawn, now number]

/-- The stored handle replaces the held one. -/
theorem exclusive_of_stored {handle : BiDiStreamHandle} (now : Pending handle world) :
    Exclusive ⟨{ world.engine with stream := some handle }, world.net.dropHandle world.engine.stream⟩ := by
  obtain ⟨unlike, others⟩ := now
  intro number
  rw [Net.isOpen_dropHandle, others number]
  change _ ∧ world.engine.heldPump ≠ some number ↔ some handle.pump = some number
  constructor
  · rintro ⟨rfl | held, free⟩
    · rfl
    · exact absurd held free
  · intro same
    obtain rfl := Option.some.inj same
    exact ⟨.inl rfl, unlike⟩

/-- After the held stream was dropped there is none. -/
theorem exclusive_of_closed (now : Exclusive world) :
    Exclusive ⟨{ world.engine with stream := none }, world.net.dropHandle world.engine.stream⟩ := by
  intro number
  rw [Net.isOpen_dropHandle, now number]
  change _ ∧ world.engine.heldPump ≠ some number ↔ none = some number
  simp

/-- Only the engine drops the handle of a pump. -/
theorem Pump.step_handle {pump after : Pump} {input : PumpInput} {frames : List Bytes}
    (stepped : pump.step input = some (after, frames)) : after.handleDropped = pump.handleDropped := by
  unfold Pump.step at stepped
  split at stepped
  · cases stepped
  · split at stepped <;> cases stepped
    rfl
  · split at stepped <;> cases stepped
    rfl
  · cases stepped
    rfl
  · cases stepped
    rfl
  · split at stepped
    · split at stepped <;> cases stepped <;> rfl
    · cases stepped
  · cases stepped
    rfl
  · cases stepped
    rfl
  · cases stepped
    rfl
  · cases stepped
    rfl
  · cases stepped

/-- A pump does not drop its own handle. -/
theorem movePump_isOpen {net after : Net} {recorded number : Nat} {input : PumpInput}
    (moved : net.movePump recorded number input = some after) : after.isOpen = net.isOpen := by
  simp only [Net.movePump, Option.bind_eq_bind, Option.bind_eq_some_iff, Option.pure_def,
    Option.some.injEq] at moved
  obtain ⟨pump, found, ⟨stepped, frames⟩, step, rfl⟩ := moved
  have same : stepped.handleDropped = pump.handleDropped := Pump.step_handle step
  exact Net.isOpen_marked found (by split <;> exact same)

/-- The environment ends pumps, but it drops no handle. -/
theorem move_sameHandles {move : Move} (moved : moveWorld config move world = some after) :
    SameHandles world after := by
  obtain ⟨net, done, rfl⟩ := moveWorld_some moved
  refine ⟨rfl, ?_⟩
  cases move with
  | pump number input => exact movePump_isOpen done
  | driverExits conn =>
      simp only [moveNet, Net.driverExits] at done
      split at done <;> cases done
      rfl
  | dispatch event =>
      simp only [moveNet, Net.dispatch, Option.some.injEq] at done
      subst done
      split <;> rfl
  | retryDue index =>
      obtain ⟨frame, rfl⟩ := retryDue_some done
      rfl
  | tick millis => cases done; rfl

variable [ConstructCore Core]

/-- Sending on a stream changes its pump, but no handle. -/
theorem exec_sameHandles {A : Type} {op : Op Core A} {choice : Choice} {value : A}
    (answered : exec config op choice world = some (value, after))
    (keeps : op.movesHandle = false) : SameHandles world after := by
  cases op with
  | streamWrite stream => cases keeps
  | spawnPump conn => cases keeps
  | sendFrame site handle frame =>
      obtain ⟨-, rfl⟩ | ⟨pump, found, -, -, -, rfl⟩ := sendFrame_effect answered
      · exact ⟨rfl, rfl⟩
      · exact ⟨rfl, Net.isOpen_marked found rfl⟩
  | _ =>
      have pumps := (exec_surrounds answered).pumps rfl
      exact ⟨(exec_frame answered).stream rfl, by funext number; simp only [Net.isOpen, pumps]⟩

end

variable [ConstructCore Core]

/-- Every selection of the loop finds its streams exclusive. -/
abbrev KeepsExclusive {A : Type} (config : EngineConfig) (invariant : World Core → Prop)
    (program : EngineM Core A) : Prop :=
  Keeps (Promise.any (engineMachine Core config)) (selectGuard config Exclusive) invariant program

section
variable {invariant : World Core → Prop}
  (same : ∀ {world after : World Core}, SameHandles world after → invariant world → invariant after)
include same

/-- No move of the environment moves handles. -/
theorem sameHandles_stable : Stable (Promise.any (engineMachine Core config)) invariant :=
  fun _ _ _ now _ moved => same (move_sameHandles moved) now

/-- An operation that moves no handle keeps what handles decide. -/
theorem unmoved_keeps {A : Type} (op : Op Core A) (keeps : op.movesHandle = false)
    (handler : op.kind ≠ .loop) : KeepsExclusive config invariant (perform op) :=
  keeps_perform (sameHandles_stable same) (fun world _ => selectGuard_of_kind handler world)
    fun _ _ _ _ now _ answered => same (exec_sameHandles answered keeps) now

/-- A plain operation moves no handle. -/
theorem plain_unmoved {A : Type} (op : Op Core A) (kind : op.kind = .plain) :
    KeepsExclusive config invariant (perform op) := by
  refine unmoved_keeps same op ?_ (by rw [kind]; decide)
  cases op with
  | streamWrite stream => cases stream <;> exact absurd kind nofun
  | spawnPump conn => exact absurd kind nofun
  | _ => rfl

/-- A new connection leaves the streams alone. -/
theorem connectH3_unmoved (site : ConnectSite) :
    KeepsExclusive config invariant (connectH3 site : EngineM Core (Except EngineError Unit)) := by
  unfold connectH3
  refine keeps_bind (unmoved_keeps same _ rfl (by nofun)) fun _ =>
    keeps_bind (unmoved_keeps same _ rfl (by nofun)) fun connected => ?_
  rcases connected with error | conn
  · exact keeps_done (sameHandles_stable same) _
  · exact keeps_bind (unmoved_keeps same _ rfl (by nofun)) fun _ =>
      keeps_bind (unmoved_keeps same _ rfl (by nofun)) fun _ => keeps_done (sameHandles_stable same) _

/-- What its pieces keep, the program keeps. -/
theorem unmoved_composed {A : Type} {program : EngineM Core A}
    (composed : Composed (fun _ single => KeepsExclusive config invariant single) program) :
    KeepsExclusive config invariant program := keeps_of_composed (sameHandles_stable same) composed

end

theorem unaryCall_exclusive (servicePath : String) (request : Bytes) :
    KeepsExclusive config Exclusive
      (unaryCall servicePath request : EngineM Core (Except EngineError Bytes)) :=
  unmoved_composed SameHandles.exclusive (composed_unaryCall (plain_unmoved SameHandles.exclusive)
    (connectH3_unmoved SameHandles.exclusive _)
    (fun _ _ _ _ => unmoved_keeps SameHandles.exclusive _ rfl (by nofun))
    (unmoved_keeps SameHandles.exclusive _ rfl (by nofun)) servicePath request)

theorem ensureConnected_exclusive :
    KeepsExclusive config Exclusive (ensureConnected : EngineM Core Unit) :=
  unmoved_composed SameHandles.exclusive (composed_ensureConnected
    (plain_unmoved SameHandles.exclusive) (connectH3_unmoved SameHandles.exclusive _))

/-- A stream that failed to open leaves no open pump behind. -/
def StreamOpened (opened : Except EngineError BiDiStreamHandle) (world : World Core) : Prop :=
  match opened with
  | .error _ => Exclusive world
  | .ok handle => Pending handle world

/-- Either outcome lasts until the handle is stored. -/
theorem streamOpened_stable (opened : Except EngineError BiDiStreamHandle) :
    Stable (Promise.any (engineMachine Core config)) (fun world : World Core => StreamOpened opened world) := by
  cases opened with
  | error => exact sameHandles_stable SameHandles.exclusive
  | ok handle => exact sameHandles_stable (SameHandles.pending handle)

/-- The pump is spawned last, so no failure leaves one behind. -/
theorem openMessageStream_pending (conversations : List String) (cursor : Option String)
    {world : World Core} (now : Exclusive world) :
    Holds (Promise.any (engineMachine Core config)) (selectGuard config Exclusive)
      (openMessageStream conversations cursor) StreamOpened world := by
  have plain {A : Type} (op : Op Core A) (kind : op.kind = .plain) :
      KeepsExclusive config Exclusive (perform op) := plain_unmoved SameHandles.exclusive op kind
  have failed (error : EngineError) {world : World Core} (now : Exclusive world) :
      Holds (Promise.any (engineMachine Core config)) (selectGuard config Exclusive)
        (.done (.error error)) StreamOpened world := holds_done (streamOpened_stable _) now
  unfold openMessageStream
  refine holds_bind (unmoved_composed SameHandles.exclusive (composed_ensureH3 plain
    (connectH3_unmoved SameHandles.exclusive .openMessageStream)) world now) fun ensured world now => ?_
  rcases ensured with error | ⟨⟩
  · exact failed error now
  refine holds_bind (unmoved_composed SameHandles.exclusive (composed_sendRequest plain) world now)
    fun sendReq world now => ?_
  rcases sendReq with error | conn
  · exact failed error now
  refine holds_bind (plain .tokenRead rfl world now) fun token world now => ?_
  refine holds_bind (plain .requestId rfl world now) fun requestId world now => ?_
  refine holds_bind (unmoved_keeps SameHandles.exclusive (.openExchange ..) rfl (by nofun) world now)
    fun accepted world now => ?_
  rcases accepted with error | ⟨⟩
  · exact failed error now
  refine holds_perform Exclusive (sameHandles_stable SameHandles.exclusive) (fun _ _ => trivial)
    (fun world choice handle after now _ spawned => ?_) now
  cases spawned
  exact holds_done (streamOpened_stable _) (pending_of_spawned now conn)

/-- The new handle takes the place of the held one. -/
theorem handleOpenStream_exclusive (conversations : List String) (cursor : Option String) :
    KeepsExclusive config Exclusive (handleOpenStream conversations cursor : EngineM Core Unit) := by
  unfold handleOpenStream
  refine keeps_bind (unmoved_keeps SameHandles.exclusive (.paramsWrite _) rfl (by nofun)) fun _ world now => ?_
  refine holds_bind (openMessageStream_pending conversations cursor now) fun opened world now => ?_
  rcases opened with error | handle
  · exact unmoved_keeps SameHandles.exclusive (.onAction (.streamError _)) rfl (by nofun) world now
  · refine holds_perform (Pending handle) (sameHandles_stable (SameHandles.pending handle)) (fun _ _ => trivial)
      (fun world choice value after pending _ written => ?_) now
    cases written
    exact plain_unmoved SameHandles.exclusive (.onAction _) rfl _ (exclusive_of_stored pending)

/-- The held handle is dropped. -/
theorem handleCloseStream_exclusive :
    KeepsExclusive config Exclusive (handleCloseStream : EngineM Core Unit) := by
  refine keeps_perform (sameHandles_stable SameHandles.exclusive) (fun _ _ => trivial)
    fun world choice value after now _ written => ?_
  cases written
  exact exclusive_of_closed now

/-- Outside of the transport only a closing stream moves handles. -/
theorem handler_exclusive {A : Type} (op : Op Core A) (below : BelowLoop op.kind) :
    KeepsExclusive config Exclusive (perform op) := by
  cases op with
  | streamWrite stream =>
      cases stream with
      | none => exact handleCloseStream_exclusive
      | some handle => exact absurd rfl below.1
  | spawnPump conn => exact absurd rfl below.1
  | _ => exact unmoved_keeps SameHandles.exclusive _ rfl below.2

theorem handleConnectedChange_exclusive :
    KeepsExclusive config Exclusive (handleConnectedChange : EngineM Core Unit) := by
  have stable : Stable (Promise.any (engineMachine Core config)) (fun world : World Core => Exclusive world) :=
    sameHandles_stable SameHandles.exclusive
  unfold handleConnectedChange
  refine keeps_bind (keeps_perform stable (fun _ _ => trivial) fun world choice value after now _
    borrowed => ?_) fun connected => ?_
  · cases borrowed
    exact now
  split
  · exact keeps_done stable ()
  unfold handleDisconnect
  refine keeps_bind (keeps_perform stable (fun _ _ => trivial) fun world choice value after now _ told => ?_)
    fun _ => keeps_bind handleCloseStream_exclusive fun _ => keeps_bind ensureConnected_exclusive fun _ => ?_
  · cases told
    exact now
  refine keeps_bind (plain_unmoved SameHandles.exclusive .paramsLock rfl) fun stored => ?_
  cases stored with
  | none => exact plain_unmoved SameHandles.exclusive .paramsUnlock rfl
  | some params =>
      exact keeps_bind (handleOpenStream_exclusive _ _) fun _ =>
        plain_unmoved SameHandles.exclusive .paramsUnlock rfl

section
variable [Prost]

/-- A handler leaves the streams exclusive, and so does the loss of the connection. -/
theorem eventLoop_exclusive : KeepsExclusive config Exclusive (eventLoop config : EngineM Core Unit) := by
  have stable : Stable (Promise.any (engineMachine Core config)) (fun world : World Core => Exclusive world) :=
    sameHandles_stable SameHandles.exclusive
  refine eventLoop_links stable handler_exclusive unaryCall_exclusive handleOpenStream_exclusive
    Exclusive (fun _ => Exclusive) ?_ handleConnectedChange_exclusive
    (handleEvent_links stable handler_exclusive unaryCall_exclusive handleOpenStream_exclusive)
    ensureConnected_exclusive
  intro refreshArmed world now
  refine (keeps_perform stable (fun _ now => now) (fun world choice branch after now _ selected =>
    SameHandles.exclusive (exec_sameHandles selected rfl) now) world now).weaken ?_
  exact fun branch world now => selected_of_invariant now

/-- Whenever the loop waits, the pumps that no dropped handle stops are the pump of the held stream and
no other: no stream leaks, however often it was opened, replaced, lost or closed. -/
theorem waiting_exclusive {engine : Engine Core} (created : Engine.new config = .ok engine)
    {world : World Core} {later : EngineM Core Unit}
    (reached : Reaches (Promise.any (engineMachine Core config)) (startWorld engine, eventLoop config)
      (world, later)) (waiting : isWaiting later = true) (number : Nat) :
    world.net.isOpen number = true ↔ world.engine.stream.map BiDiStreamHandle.pump = some number := by
  obtain ⟨core, rfl⟩ := Engine.new_fresh created
  obtain ⟨refreshArmed, next, rfl⟩ := isWaiting_shape waiting
  have start : Exclusive (startWorld (Engine.fresh config core)) := exclusive_start _ rfl
  exact (eventLoop_exclusive _ start _ _ reached).1 _ _ _ rfl number

end

/-- The platform opens a stream and then another one. -/
def reopenedStream : List (rehearsalMachine (rehearsalConfig [] none)).Input :=
  rehearsal (rehearsalConfig [] none) [.openMessageStream ["c"] none, .openMessageStream ["d"] none]
    (List.replicate 40 { opened := { recvResponse := .ok ⟨200, "200 OK"⟩ } }) []

/-- The first pump is stopped, and the second one is open. -/
theorem waiting_exclusive_reopened :
    (rehearsed (rehearsalConfig [] none) none reopenedStream).1.net.pumps.length = 2 ∧
      (rehearsed (rehearsalConfig [] none) none reopenedStream).1.net.isOpen 0 = false ∧
      (rehearsed (rehearsalConfig [] none) none reopenedStream).1.net.isOpen 1 = true := by
  have exclusive := waiting_exclusive (rehearsal_without_core none)
    (rehearsed_any (rehearsalConfig [] none) none reopenedStream) (by decide +kernel)
  refine ⟨by decide +kernel, ?_, (exclusive 1).mpr (by decide +kernel)⟩
  rw [← Bool.not_eq_true, exclusive 0]
  decide +kernel

end ConstructEngine
