import ConstructEngine.Interaction.Monitor
import ConstructEngine.Interaction.Progress
import ConstructEngine.Proof.Link

namespace ConstructEngine

open Interaction Program Machine

variable {Core A B : Type}

/-- The note says whether the loop has read of a lost connection while a subscription was stored. -/
def Op.severs : {A : Type} → Op Core A → World Core → A → Bool → Bool
  | _, .connectedBorrow, world, connected, severed =>
      severed || (!connected && world.engine.streamParams.isSome)
  | _, _, _, _, severed => severed

/-- The loop is about to read whether the connection runs. -/
def isBorrowing (program : EngineM Core A) : Bool :=
  match program with
  | .ask .connectedBorrow _ => true
  | _ => false

theorem isBorrowing_shape {program : EngineM Core A} (borrowing : isBorrowing program = true) :
    ∃ next, program = .ask .connectedBorrow next := by
  unfold isBorrowing at borrowing
  split at borrowing
  · exact ⟨_, rfl⟩
  · cases borrowing

/-- A program that has not ended reads the watch when a sequence that it begins does. -/
theorem isBorrowing_bind {program : EngineM Core A} {rest : A → EngineM Core B}
    (borrowing : isBorrowing program = true) : isBorrowing (program >>= rest) = true := by
  obtain ⟨next, rfl⟩ := isBorrowing_shape borrowing
  rfl

/-- The connection is lost while a subscription is stored. -/
def Forsaken (world : World Core) : Prop :=
  world.net.connected.value = false ∧ world.engine.streamParams.isSome = true

/-- The loop is about to read of a lost connection while a subscription is stored. -/
def LostRead (world : World Core) (later : EngineM Core A) : Prop :=
  isBorrowing later = true ∧ Forsaken world

instance decidableLostRead (world : World Core) (later : EngineM Core A) : Decidable (LostRead world later) :=
  inferInstanceAs (Decidable (_ ∧ _ ∧ _))

variable [ConstructCore Core] {config : EngineConfig}

/-- The ledger carries the note. -/
def severanceLedger (Core : Type) [ConstructCore Core] (config : EngineConfig) :
    (engineMachine Core config).Ledger Bool := ⟨fun op world value => op.severs world value⟩

/-- The machine of the engine with the note. -/
abbrev severanceMachine (Core : Type) [ConstructCore Core] (config : EngineConfig) : Machine (Op Core) :=
  (engineMachine Core config).monitored (severanceLedger Core config)

/-- The loop does not read of a lost connection while a subscription is stored. -/
def readGuard (Core : Type) [ConstructCore Core] (config : EngineConfig) :
    (engineMachine Core config).Guard := fun op world =>
  match op with
  | .connectedBorrow => ¬Forsaken (world : World Core)
  | _ => True

/-- The loop waits only as long as it has read no such loss. -/
def severanceGuard (Core : Type) [ConstructCore Core] (config : EngineConfig) :
    (severanceMachine Core config).Guard := fun op state =>
  match op with
  | .select _ => state.2 = false
  | _ => True

/-- A note that stays clean was clean before, and the operation was allowed. -/
theorem severs_clean {op : Op Core A} {choice : Choice} {world after : World Core} {severed : Bool} {value : A}
    (answered : exec config op choice world = some (value, after)) (clean : op.severs world value severed = false) :
    severed = false ∧ readGuard Core config op world := by
  cases op with
  | connectedBorrow =>
      cases answered
      rw [Op.severs, Bool.or_eq_false_iff] at clean
      refine ⟨clean.1, fun forsaken => ?_⟩
      rw [forsaken.1, forsaken.2] at clean
      cases clean.2
  | _ => exact ⟨clean, trivial⟩

/-- In these runs the loop reads no such loss. -/
abbrev unsevered (Core : Type) [ConstructCore Core] (config : EngineConfig) : (engineMachine Core config).Promise :=
  (Promise.any (engineMachine Core config)).guarded (readGuard Core config)

/-- A run that is not severed at its end was never severed. -/
theorem reaches_unsevered {start final : World Core × Bool} {program later : EngineM Core A}
    (reached : Reaches (Promise.any (severanceMachine Core config)) (start, program) (final, later))
    (whole : final.2 = false) :
    start.2 = false ∧ Reaches (unsevered Core config) (start.1, program) (final.1, later) := by
  have monitored : Reaches ((Promise.any (engineMachine Core config)).monitored (severanceLedger Core config))
      (start, program) (final, later) := reached
  exact Reaches.of_monitored (· = false)
    (fun _ _ _ _ _ _ _ answered clean => severs_clean answered clean) monitored whole

variable {promise : (severanceMachine Core config).Promise}

/-- The environment does not touch the note. -/
theorem unsevered_stable : Stable promise fun state => state.2 = false :=
  (severanceLedger Core config).owned.stable (· = false)

/-- A connection that is lost stays lost as long as the engine makes no new one. -/
theorem forsaken_stable : Stable promise fun state => Forsaken state.1 := by
  intro move state after now _ moved
  obtain ⟨done, -⟩ := monitored_move moved
  obtain ⟨net, moved, world⟩ := moveWorld_some done
  rw [world]
  refine ⟨?_, now.2⟩
  obtain ⟨conn, -, -, lost⟩ | ⟨-, same⟩ := moveNet_link moved
  · rw [lost]
    rfl
  · rw [same]
    exact now.1

/-- These programs do not read the watch. -/
abbrev KeepsWhole {A : Type} (config : EngineConfig) (program : EngineM Core A) : Prop :=
  Keeps (Promise.any (severanceMachine Core config)) (severanceGuard Core config)
    (fun state => state.2 = false) program

/-- Only the loop itself reads the watch. -/
theorem op_whole (op : Op Core A) (kind : op.kind ≠ .loop) : KeepsWhole config (perform op) := by
  refine keeps_perform unsevered_stable (fun state now => ?_) fun state choice value after now _ answered => ?_
  · cases op with
    | select => exact now
    | _ => trivial
  · obtain ⟨-, written⟩ := monitored_exec answered
    cases op with
    | connectedBorrow => exact absurd rfl kind
    | _ => exact written.trans now

theorem uses_whole {program : EngineM Core A} (uses : program.Uses fun op => op.kind ≠ .loop) :
    KeepsWhole config program := keeps_of_uses unsevered_stable op_whole uses

omit [ConstructCore Core] in
theorem below_of_kind {kind other : OpKind} (same : kind = other) (below : other ≠ .loop) : kind ≠ .loop := by
  rw [same]
  exact below

/-- The backoff does not read the watch. -/
theorem ensureConnected_whole : KeepsWhole config (ensureConnected : EngineM Core Unit) :=
  uses_whole (uses_ensureConnected (fun _ kind => below_of_kind kind (by decide))
    fun _ kind => below_of_kind kind (by decide))

/-- An attempt to open the stream does not read the watch. -/
theorem handleOpenStream_whole (conversations : List String) (cursor : Option String) :
    KeepsWhole config (handleOpenStream conversations cursor : EngineM Core Unit) :=
  uses_whole (uses_handleOpenStream (fun _ kind => below_of_kind kind (by decide))
    (fun _ kind => below_of_kind kind (by decide)) _ _)

/-- No operation removes a stored subscription. -/
theorem exec_stored {op : Op Core A} {choice : Choice} {world after : World Core} {value : A}
    (answered : exec config op choice world = some (value, after))
    (stored : world.engine.streamParams.isSome = true) : after.engine.streamParams.isSome = true := by
  cases op with
  | paramsWrite params =>
      obtain ⟨-, rfl⟩ := paramsWrite_effect answered
      rfl
  | paramsCursor cursor =>
      obtain ⟨-, rfl⟩ := paramsCursor_effect answered
      rw [Option.isSome_map]
      exact stored
  | _ =>
      rw [(exec_frame answered).streamParams rfl]
      exact stored

/-- A subscription is stored, and the program does not wait. -/
abbrev KeepsStored {A : Type} (config : EngineConfig) (program : EngineM Core A) : Prop :=
  Keeps (Promise.any (severanceMachine Core config)) (severanceGuard Core config)
    (fun state => state.1.engine.streamParams.isSome = true) program

theorem severanceOwned_stable (assertion : Engine Core → Prop) :
    Stable promise fun state => assertion state.1.engine :=
  ((engineOwned Core config).monitored (severanceLedger Core config)).stable fun view => assertion view.1

/-- A subscription that is stored stays stored. -/
theorem op_stored (op : Op Core A) (awake : ∀ state, severanceGuard Core config op state) :
    KeepsStored config (perform op) := by
  refine keeps_perform (severanceOwned_stable fun engine => engine.streamParams.isSome = true)
    (fun state _ => awake state) fun state choice value after stored _ answered => ?_
  exact exec_stored (monitored_exec answered).1 stored

theorem awake_of_kind {op : Op Core A} (kind : op.kind ≠ .loop) (state : World Core × Bool) :
    severanceGuard Core config op state := by
  cases op with
  | select => exact absurd rfl kind
  | _ => trivial

/-- An opening handler waits for the mutex of the subscription first. -/
theorem handleOpenStream_blocks (conversations : List String) (cursor : Option String)
    {state : World Core × Bool} (held : state.1.engine.paramsHeld = true) :
    Holds (Promise.any (severanceMachine Core config)) (severanceGuard Core config)
      (handleOpenStream conversations cursor) (fun _ _ => False) state := by
  unfold handleOpenStream
  refine holds_perform (fun state : World Core × Bool => state.1.engine.paramsHeld = true)
    (severanceOwned_stable fun engine => engine.paramsHeld = true) (fun _ _ => trivial)
    (fun before choice value after held _ answered => ?_) held
  obtain ⟨done, -⟩ := monitored_exec answered
  change exec config (.paramsWrite ⟨conversations, cursor⟩) choice before.1 = _ at done
  obtain ⟨free, -⟩ := paramsWrite_effect done
  rw [held] at free
  cases free

/-- The loop holds this mutex while it opens the stored stream again. -/
theorem resubscribe_blocks {state : World Core × Bool}
    (stored : state.1.engine.streamParams.isSome = true) :
    Holds (Promise.any (severanceMachine Core config)) (severanceGuard Core config) resubscribe
      (fun _ _ => False) state := by
  unfold resubscribe
  refine holds_perform (fun state : World Core × Bool => state.1.engine.streamParams.isSome = true)
    (severanceOwned_stable fun engine => engine.streamParams.isSome = true) (fun _ _ => trivial)
    (fun before choice params locked stored _ answered => ?_) stored
  obtain ⟨done, -⟩ := monitored_exec answered
  change exec config .paramsLock choice before.1 = _ at done
  obtain ⟨-, rfl, after⟩ := paramsLock_effect done
  have held : locked.1.engine.paramsHeld = true := by rw [after]
  obtain ⟨params, stored⟩ := Option.isSome_iff_exists.mp stored
  rw [stored]
  exact holds_bind (handleOpenStream_blocks params.conversationIds params.lastCursor held)
    fun _ _ impossible => impossible.elim

/-- The loop does not come back from a lost connection while a subscription is stored. -/
theorem handleDisconnect_blocks {state : World Core × Bool}
    (stored : state.1.engine.streamParams.isSome = true) :
    Holds (Promise.any (severanceMachine Core config)) (severanceGuard Core config) handleDisconnect
      (fun _ _ => False) state := by
  unfold handleDisconnect
  have reports : KeepsStored config (onAction (.connectionStateChanged false) : EngineM Core Unit) :=
    op_stored _ fun _ => trivial
  have drops : KeepsStored config (perform (.streamWrite none) : EngineM Core Unit) :=
    op_stored _ fun _ => trivial
  have connects : KeepsStored config (ensureConnected : EngineM Core Unit) :=
    keeps_of_uses (severanceOwned_stable fun engine => engine.streamParams.isSome = true)
      (fun op (kind : op.kind ≠ .loop) => op_stored op (awake_of_kind kind))
      (uses_ensureConnected (fun _ kind => below_of_kind kind (by decide))
        fun _ kind => below_of_kind kind (by decide))
  refine holds_bind (reports state stored) fun _ state stored => ?_
  refine holds_bind (drops state stored) fun _ state stored => ?_
  exact holds_bind (connects state stored) fun _ state stored => resubscribe_blocks stored

/-- A reconnect that finds the mutex free does not read the watch. -/
theorem resubscribe_whole : KeepsWhole config (resubscribe : EngineM Core Unit) := by
  unfold resubscribe
  refine keeps_bind (op_whole _ (by nofun)) fun params => ?_
  cases params with
  | none => exact op_whole _ (by nofun)
  | some params => exact keeps_bind (handleOpenStream_whole _ _) fun _ => op_whole _ (by nofun)

/-- Nothing after the report of a loss reads the watch. -/
theorem handleDisconnect_whole : KeepsWhole config (handleDisconnect : EngineM Core Unit) := by
  have reports : KeepsWhole config (onAction (.connectionStateChanged false) : EngineM Core Unit) :=
    keeps_perform unsevered_stable (fun _ _ => trivial) fun _ _ _ _ now _ answered =>
      (monitored_exec answered).2.trans now
  exact keeps_bind reports fun _ => keeps_bind (op_whole (.streamWrite none) (by nofun)) fun _ =>
    keeps_bind ensureConnected_whole fun _ => resubscribe_whole

/-- After a read of a lost connection with a stored subscription, the loop does not go on. -/
theorem handleConnectedChange_whole : KeepsWhole config (handleConnectedChange : EngineM Core Unit) := by
  intro state now
  unfold handleConnectedChange
  refine holds_perform (fun state : World Core × Bool => state.2 = false) unsevered_stable (fun _ _ => trivial)
    (fun before choice connected after now _ answered => ?_) now
  obtain ⟨done, written⟩ := monitored_exec answered
  change exec config .connectedBorrow choice before.1 = _ at done
  obtain ⟨rfl, same⟩ : before.1.net.connected.value = connected ∧ before.1 = after.1 := by
    simpa [exec] using done
  change after.2 = (before.2 || (!before.1.net.connected.value && before.1.engine.streamParams.isSome)) at written
  rw [now, Bool.false_or, same] at written
  rw [same]
  cases connected : after.1.net.connected.value with
  | true =>
      rw [connected] at written
      exact holds_done unsevered_stable written
  | false =>
      rw [connected, Bool.not_false, Bool.true_and] at written
      cases stored : after.1.engine.streamParams.isSome with
      | true => exact (handleDisconnect_blocks stored).weaken fun _ _ impossible => impossible.elim
      | false =>
          rw [stored] at written
          exact handleDisconnect_whole after written

/-- The loop waits or ends only while it has read no such loss. -/
theorem eventLoop_whole [Prost] : KeepsWhole config (eventLoop config : EngineM Core Unit) := by
  refine eventLoop_links unsevered_stable (fun op below => op_whole op below.2) ?_ handleOpenStream_whole
    (fun state => state.2 = false) (fun _ state => state.2 = false) ?_ handleConnectedChange_whole ?_
    ensureConnected_whole
  · exact fun servicePath request => uses_whole (uses_unaryCall (fun _ kind => below_of_kind kind (by decide))
      (fun _ kind => below_of_kind kind (by decide)) _ _)
  · intro refreshArmed state now
    have selects : KeepsWhole config (perform (.select refreshArmed) : EngineM Core Branch) :=
      keeps_perform unsevered_stable (fun _ now => now) fun _ _ _ _ now _ answered =>
        (monitored_exec answered).2.trans now
    exact (selects state now).weaken fun _ _ kept => selected_of_invariant kept
  · refine fun event state now => handleEvent_links unsevered_stable (fun op below => op_whole op below.2) ?_
      handleOpenStream_whole event state now
    exact fun servicePath request => uses_whole (uses_unaryCall (fun _ kind => below_of_kind kind (by decide))
      (fun _ kind => below_of_kind kind (by decide)) _ _)

section
variable [Prost] {engine : Engine Core} {state final : World Core × Bool} {later following : EngineM Core Unit}

/-- The loop is at its selection, or it has ended. -/
def isResting (program : EngineM Core Unit) : Bool :=
  match program with
  | .ask (.select _) _ | .done _ => true
  | _ => false

/-- Where the loop rests, it was not severed. -/
theorem resting_whole
    (reached : Reaches (Promise.any (severanceMachine Core config)) ((startWorld engine, false), eventLoop config)
      (state, later)) (resting : isResting later = true) : state.2 = false := by
  have holds : Holds (Promise.any (severanceMachine Core config)) (severanceGuard Core config) (eventLoop config)
      (fun _ state => state.2 = false) (startWorld engine, false) := eventLoop_whole _ rfl
  unfold isResting at resting
  split at resting
  · exact (holds _ _ reached).1 _ _ _ rfl
  · exact (holds _ _ reached).2 _ rfl
  · cases resting

/-- Where the loop can still rest, it neither has read such a loss nor is about to. -/
theorem resting_ahead
    (reached : Reaches (Promise.any (severanceMachine Core config)) ((startWorld engine, false), eventLoop config)
      (state, later))
    (ahead : Reaches (Promise.any (severanceMachine Core config)) (state, later) (final, following))
    (resting : isResting following = true) : state.2 = false ∧ ¬LostRead state.1 later := by
  have whole : final.2 = false := resting_whole (reached.trans ahead) resting
  refine ⟨(reaches_unsevered ahead whole).1, fun lost => ?_⟩
  obtain ⟨next, rfl⟩ := isBorrowing_shape lost.1
  obtain ⟨rfl, -⟩ | ⟨choice, before, value, middle, forsaken, -, answered, path⟩ :=
    reaches_ask_calm forsaken_stable lost.2 ahead
  · cases resting
  · obtain ⟨done, written⟩ := monitored_exec answered
    have read : exec config .connectedBorrow choice before.1 = some (value, middle.1) := done
    have clean : Op.severs .connectedBorrow before.1 value before.2 = false :=
      written.symm.trans (reaches_unsevered path whole).1
    exact (severs_clean read clean).2 forsaken

end

end ConstructEngine
