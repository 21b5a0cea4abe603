import ConstructEngine.Interaction.Monitor
import ConstructEngine.Proof.Link
import ConstructEngine.Proof.Rehearsal

namespace ConstructEngine

open Interaction Program Machine

variable {Core : Type} [ConstructCore Core] {config : EngineConfig}

/-- The stream of the engine was opened on the stored connection. -/
def Attached (world : World Core) : Prop :=
  ∀ handle ∈ world.engine.stream, ∀ conn ∈ world.engine.h3, handle.conn = conn

instance decidableAttached (world : World Core) : Decidable (Attached world) :=
  inferInstanceAs (Decidable (∀ handle ∈ world.engine.stream, ∀ conn ∈ world.engine.h3,
    handle.conn = conn))

/-- The note says whether a connection was stored since the handle of the stream was stored. -/
def Op.replaced : {A : Type} → Op Core A → Bool → Bool
  | _, .h3Store .., _ => true
  | _, .streamWrite _, _ => false
  | _, _, replaced => replaced

/-- The note follows the stored connections and the stored handles. -/
def replacementLedger (Core : Type) [ConstructCore Core] (config : EngineConfig) :
    (engineMachine Core config).Ledger Bool := ⟨fun op _ _ => op.replaced⟩

/-- This is the engine with the note next to its state. -/
abbrev replacementMachine (Core : Type) [ConstructCore Core] (config : EngineConfig) : Machine (Op Core) :=
  (engineMachine Core config).monitored (replacementLedger Core config)

/-- This is the part of the state that ties the held stream to its connection. -/
structure LinkView where
  h3 : Option Nat
  stream : Option BiDiStreamHandle
  nextConn : Nat

/-- The tie is read off the engine and the network. -/
def World.link (world : World Core) : LinkView :=
  ⟨world.engine.h3, world.engine.stream, world.net.nextConn⟩

/-- Connections are numbered in order, and the held stream belongs to the stored connection unless
this one came later. -/
structure Coupled (view : LinkView × Bool) : Prop where
  stored : ∀ conn ∈ view.1.h3, conn < view.1.nextConn
  opened : ∀ handle ∈ view.1.stream, handle.conn < view.1.nextConn
  link : ∀ handle ∈ view.1.stream, ∀ conn ∈ view.1.h3,
    if view.2 = true then handle.conn < conn else handle.conn = conn

/-- The tie is kept. -/
abbrev Tied (state : World Core × Bool) : Prop := Coupled (state.1.link, state.2)

/-- This connection is younger than the held stream. -/
def Younger (conn : Nat) (view : LinkView) : Prop :=
  conn < view.nextConn ∧ ∀ handle ∈ view.stream, handle.conn < conn

/-- A stored connection is younger than the held stream, and a stored stream belongs to the stored
connection. -/
def linkGuard (Core : Type) [ConstructCore Core] (config : EngineConfig) :
    (replacementMachine Core config).Guard := fun op state =>
  match op with
  | .h3Store _ conn => Younger conn state.1.link
  | .streamWrite (some handle) => state.1.engine.h3 = some handle.conn
  | _ => True

omit [ConstructCore Core] in
/-- The held stream is attached unless the stored connection came later. -/
theorem attached_iff {world : World Core} {replaced : Bool} (tied : Coupled (world.link, replaced)) :
    Attached world ↔
      ¬(world.engine.stream.isSome = true ∧ world.engine.h3.isSome = true ∧ replaced = true) := by
  constructor
  · rintro attached ⟨held, stored, rfl⟩
    obtain ⟨handle, opened⟩ := Option.isSome_iff_exists.mp held
    obtain ⟨conn, stored⟩ := Option.isSome_iff_exists.mp stored
    have later : handle.conn < conn := tied.link handle opened conn stored
    exact Nat.ne_of_lt later (attached handle opened conn stored)
  · intro kept handle opened conn stored
    have link := tied.link handle opened conn stored
    cases replaced with
    | false => exact link
    | true =>
        have held : world.engine.stream.isSome = true := Option.isSome_iff_exists.mpr ⟨handle, opened⟩
        have lost : world.engine.h3.isSome = true := Option.isSome_iff_exists.mpr ⟨conn, stored⟩
        exact absurd ⟨held, lost, rfl⟩ kept

/-- The environment neither stores nor numbers a connection. -/
def linkOwned (Core : Type) [ConstructCore Core] (config : EngineConfig) :
    (replacementMachine Core config).Owned (LinkView × Bool) where
  view state := (state.1.link, state.2)
  kept move state after moved := by
    obtain ⟨done, note⟩ := monitored_move moved
    obtain ⟨net, moved, world⟩ := moveWorld_some done
    have next : net.nextConn = state.1.net.nextConn := nextConn_moves moved
    rw [note, world]
    simp only [World.link, next]

variable {promise : (replacementMachine Core config).Promise}

/-- No move of the environment changes the tie. -/
theorem link_stable (assertion : LinkView × Bool → Prop) :
    Stable promise fun state => assertion (state.1.link, state.2) :=
  (linkOwned Core config).stable assertion

/-- The environment keeps the tie. -/
theorem tied_stable : Stable promise fun state => Tied state := link_stable Coupled

/-- Only these operations change the tie. -/
def Op.ties : {A : Type} → Op Core A → Bool
  | _, .quicConnect | _, .h3Store .. | _, .h3Drop | _, .streamWrite _ => true
  | _, _ => false

/-- Any other operation leaves the tie as it is. -/
theorem exec_link {A : Type} {op : Op Core A} {choice : Choice} {state after : World Core × Bool} {value : A}
    (answered : (replacementMachine Core config).exec op choice state = some (value, after))
    (apart : op.ties = false) : (after.1.link, after.2) = (state.1.link, state.2) := by
  obtain ⟨done, note⟩ := monitored_exec answered
  have cells : op.writes .h3 = false ∧ op.writes .stream = false ∧ op.disturbs .drivers = false ∧
      op.replaced state.2 = state.2 := by
    cases op <;> first | exact ⟨rfl, rfl, rfl, rfl⟩ | cases apart
  have frame := exec_frame done
  have surrounds := exec_surrounds done
  have replaced : after.2 = state.2 := note.trans cells.2.2.2
  simp only [World.link, frame.h3 cells.1, frame.stream cells.2.1, surrounds.nextConn cells.2.2.1, replaced]

/-- Every operation keeps the tie under its guard. -/
theorem tied_kept {A : Type} {op : Op Core A} {choice : Choice} {state after : World Core × Bool} {value : A}
    (guarded : linkGuard Core config op state) (now : Tied state)
    (answered : (replacementMachine Core config).exec op choice state = some (value, after)) :
    Tied after := by
  have apart (apart : op.ties = false) : Tied after := by
    unfold Tied
    rw [exec_link answered apart]
    exact now
  obtain ⟨world, replaced⟩ := state
  obtain ⟨after, note⟩ := after
  obtain ⟨done, written⟩ := monitored_exec answered
  cases op with
  | quicConnect =>
      cases written
      change exec config .quicConnect choice world = _ at done
      obtain ⟨error, -, -, rfl⟩ | ⟨-, rfl⟩ := quicConnect_effect done
      · exact now
      · exact ⟨fun conn stored => Nat.lt_succ_of_lt (now.stored conn stored),
          fun handle opened => Nat.lt_succ_of_lt (now.opened handle opened), now.link⟩
  | h3Store site conn =>
      cases written
      cases done
      refine ⟨fun other stored => ?_, now.opened, fun handle opened other stored => ?_⟩
      · cases stored
        exact guarded.1
      · cases stored
        exact guarded.2 handle opened
  | h3Drop =>
      cases written
      cases done
      exact ⟨nofun, now.opened, fun _ _ => nofun⟩
  | streamWrite stream =>
      cases written
      cases done
      obtain ⟨pumps, dropped⟩ := dropHandle_effect world.net world.engine.stream
      have next : (world.net.dropHandle world.engine.stream).nextConn = world.net.nextConn := by rw [dropped]
      cases stream with
      | none => exact ⟨by simpa only [World.link, next] using now.stored, nofun, nofun⟩
      | some handle =>
          refine ⟨by simpa only [World.link, next] using now.stored, fun held opened => ?_,
            fun held opened conn stored => ?_⟩
          · cases opened
            simpa only [World.link, next] using now.stored handle.conn guarded
          · cases opened
            exact Option.some.inj (guarded.symm.trans stored)
  | _ => exact apart rfl

/-- In these programs, connections and streams are stored under the guard. -/
abbrev KeepsTied {A : Type} (config : EngineConfig) (program : EngineM Core A) : Prop :=
  Keeps (Promise.any (replacementMachine Core config)) (linkGuard Core config)
    Tied program

/-- The program ends with this result when it began with the tie. -/
abbrev TiedHolds {A : Type} (config : EngineConfig) (program : EngineM Core A)
    (result : A → World Core × Bool → Prop) (state : World Core × Bool) : Prop :=
  Holds (Promise.any (replacementMachine Core config)) (linkGuard Core config) program result state

/-- These operations have a guard. -/
def Op.stores : {A : Type} → Op Core A → Bool
  | _, .h3Store .. | _, .streamWrite (some _) => true
  | _, _ => false

/-- The guard speaks of stored connections and handles alone. -/
theorem linkGuard_free {A : Type} (op : Op Core A) (free : op.stores = false) (state : World Core × Bool) :
    linkGuard Core config op state := by
  cases op with
  | h3Store site conn => cases free
  | streamWrite stream =>
      cases stream with
      | none => trivial
      | some handle => cases free
  | _ => trivial

/-- An operation without a guard keeps the tie. -/
theorem free_tied {A : Type} (op : Op Core A) (free : op.stores = false) : KeepsTied config (perform op) :=
  keeps_perform tied_stable (fun state _ => linkGuard_free _ free state)
    fun state _ _ _ now _ answered => tied_kept (linkGuard_free _ free state) now answered

/-- Outside of the transport and the loop nothing is stored. -/
theorem below_tied {A : Type} (op : Op Core A) (below : BelowLoop op.kind) : KeepsTied config (perform op) := by
  refine free_tied op ?_
  cases op with
  | h3Store site conn => exact absurd rfl below.1
  | streamWrite stream =>
      cases stream with
      | none => rfl
      | some handle => exact absurd rfl below.1
  | _ => rfl

/-- A plain operation stores nothing. -/
theorem plain_tied {A : Type} (op : Op Core A) (kind : op.kind = .plain) : KeepsTied config (perform op) :=
  below_tied op (by rw [kind]; constructor <;> decide)

/-- The number of a new connection is the largest one, and it is stored right after the handshake. -/
theorem connectH3_tied (site : ConnectSite) :
    KeepsTied config (connectH3 site : EngineM Core (Except EngineError Unit)) := by
  unfold connectH3
  refine keeps_bind (free_tied _ rfl) fun _ state now => ?_
  refine holds_perform Tied tied_stable (fun _ _ => trivial)
    (fun state choice connected after now _ answered => ?_) now
  have tied : Tied after := tied_kept (linkGuard_free .quicConnect rfl state) now answered
  obtain ⟨done, -⟩ := monitored_exec answered
  change exec config .quicConnect choice state.1 = _ at done
  obtain ⟨error, -, rfl, -⟩ | ⟨rfl, world⟩ := quicConnect_effect done
  · exact holds_done tied_stable tied
  have younger : Younger state.1.net.nextConn after.1.link := by
    rw [world]
    exact ⟨Nat.lt_succ_self _, now.opened⟩
  refine holds_perform (fun later : World Core × Bool => Tied later ∧ Younger state.1.net.nextConn later.1.link)
    (link_stable fun view => Coupled view ∧ Younger state.1.net.nextConn view.1) (fun _ ahead => ahead.2)
    (fun later choice value stored ahead _ answered => ?_) ⟨tied, younger⟩
  have guarded : linkGuard Core config (.h3Store site state.1.net.nextConn) later := ahead.2
  have tied : Tied stored := tied_kept guarded ahead.1 answered
  exact keeps_bind (free_tied .connectedSend rfl) (fun _ => keeps_done tied_stable _) stored tied

/-- What its pieces keep, the program keeps. -/
theorem composed_tied {A : Type} {program : EngineM Core A}
    (composed : Composed (fun _ single => KeepsTied config single) program) :
    KeepsTied config program := keeps_of_composed tied_stable composed

/-- A call may replace the connection, and the note says so. -/
theorem unaryCall_tied (servicePath : String) (request : Bytes) :
    KeepsTied config (unaryCall servicePath request : EngineM Core (Except EngineError Bytes)) :=
  composed_tied (composed_unaryCall plain_tied (connectH3_tied _) (fun _ _ _ _ => free_tied _ rfl)
    (free_tied _ rfl) servicePath request)

/-- So may the reconnect loop. -/
theorem ensureConnected_tied : KeepsTied config (ensureConnected : EngineM Core Unit) :=
  composed_tied (composed_ensureConnected plain_tied (connectH3_tied _))

/-- Until the stream is stored, the stored connection stays what it is. -/
def TiedTo (conn : Nat) (state : World Core × Bool) : Prop := Tied state ∧ state.1.engine.h3 = some conn

/-- The environment replaces no stored connection. -/
theorem tiedTo_stable (conn : Nat) : Stable promise (TiedTo conn) :=
  link_stable fun view => Coupled view ∧ view.1.h3 = some conn

omit [ConstructCore Core] in
/-- With the same tie the stored connection is the same. -/
theorem tiedTo_of_link {conn : Nat} {state after : World Core × Bool}
    (same : (after.1.link, after.2) = (state.1.link, state.2)) (now : TiedTo conn state) :
    TiedTo conn after := by
  have link : after.1.link = state.1.link := congrArg Prod.fst same
  refine ⟨by unfold Tied; rw [same]; exact now.1, ?_⟩
  exact (congrArg LinkView.h3 link).trans now.2

/-- The answer names the stored connection unless it is an error. -/
def TiedBy {A : Type} (conn : A → Nat) : Except EngineError A → World Core × Bool → Prop
  | .error _, state => Tied state
  | .ok value, state => TiedTo (conn value) state

/-- A failed attempt leaves the tie. -/
theorem failed_tied {A : Type} {conn : A → Nat} {error : EngineError} {state : World Core × Bool}
    (now : Tied state) :
    TiedHolds config (.done (.error error)) (TiedBy conn) state := holds_done tied_stable now

/-- The connection that is taken is the stored one. -/
theorem sendRequest_tied {state : World Core × Bool} (now : Tied state) :
    TiedHolds config sendRequest (TiedBy id) state := by
  unfold sendRequest
  refine holds_perform Tied tied_stable (fun _ _ => trivial)
    (fun state choice h3 after now _ answered => ?_) now
  have tied : Tied after := tied_kept (linkGuard_free .h3Read rfl state) now answered
  obtain ⟨done, -⟩ := monitored_exec answered
  obtain ⟨rfl, same⟩ : state.1.engine.h3 = h3 ∧ state.1 = after.1 := by
    simpa [exec] using done
  cases stored : state.1.engine.h3 with
  | none => exact failed_tied tied
  | some conn => exact holds_done (tiedTo_stable conn) ⟨tied, same ▸ stored⟩

/-- These operations leave the stored connection alone. -/
theorem fixed_tied {A : Type} (conn : Nat) (op : Op Core A) (apart : op.ties = false) :
    Keeps (Promise.any (replacementMachine Core config)) (linkGuard Core config)
      (TiedTo conn) (perform op) := by
  refine keeps_perform (tiedTo_stable conn) (fun state _ => linkGuard_free op ?_ state)
    fun state choice value after now _ answered => ?_
  · cases op <;> first | rfl | cases apart
  · exact tiedTo_of_link (exec_link answered apart) now

/-- The stream opens on the stored connection. -/
theorem openMessageStream_tied (conversations : List String) (cursor : Option String)
    {state : World Core × Bool} (now : Tied state) :
    TiedHolds config (openMessageStream conversations cursor) (TiedBy BiDiStreamHandle.conn) state := by
  unfold openMessageStream
  refine holds_bind (composed_tied (composed_ensureH3 plain_tied
    (connectH3_tied .openMessageStream)) state now) fun ensured state now => ?_
  rcases ensured with error | ⟨⟩
  · exact failed_tied now
  refine holds_bind (sendRequest_tied now) fun sendReq state now => ?_
  rcases sendReq with error | conn
  · exact failed_tied now
  refine holds_bind (fixed_tied conn .tokenRead rfl state now) fun token state now => ?_
  refine holds_bind (fixed_tied conn .requestId rfl state now) fun requestId state now => ?_
  refine holds_bind (fixed_tied conn (.openExchange ..) rfl state now) fun accepted state now => ?_
  rcases accepted with error | ⟨⟩
  · exact failed_tied now.1
  refine holds_perform (TiedTo conn) (tiedTo_stable conn)
    (fun _ _ => trivial) (fun state choice handle after now _ answered => ?_) now
  have kept : TiedTo conn after := tiedTo_of_link (exec_link answered rfl) now
  obtain ⟨done, -⟩ := monitored_exec answered
  obtain rfl : ⟨state.1.net.pumps.length, conn⟩ = handle := congrArg Prod.fst (Option.some.inj done)
  exact holds_done (tiedTo_stable conn) kept

/-- The new stream is opened on the stored connection. -/
theorem handleOpenStream_tied (conversations : List String) (cursor : Option String) :
    KeepsTied config (handleOpenStream conversations cursor : EngineM Core Unit) := by
  unfold handleOpenStream
  refine keeps_bind (free_tied _ rfl) fun _ state now => ?_
  refine holds_bind (openMessageStream_tied conversations cursor now) fun answer state now => ?_
  rcases answer with error | handle
  · exact free_tied (.onAction _) rfl state now
  refine holds_perform (TiedTo handle.conn)
    (tiedTo_stable handle.conn) (fun _ now => now.2)
    (fun state choice value after now _ answered => ?_) now
  have guarded : linkGuard Core config (.streamWrite (some handle)) state := now.2
  exact plain_tied (.onAction _) rfl after (tied_kept guarded now.1 answered)

/-- The stream of a lost connection is dropped before anything is stored. -/
theorem handleConnectedChange_tied :
    KeepsTied config (handleConnectedChange : EngineM Core Unit) := by
  unfold handleConnectedChange
  refine keeps_bind (free_tied _ rfl) fun connected => ?_
  split
  · exact keeps_done tied_stable ()
  unfold handleDisconnect
  refine keeps_bind (free_tied (.onAction _) rfl) fun _ => keeps_bind (free_tied _ rfl) fun _ =>
    keeps_bind ensureConnected_tied fun _ => ?_
  refine keeps_bind (free_tied .paramsLock rfl) fun stored => ?_
  cases stored with
  | none => exact free_tied .paramsUnlock rfl
  | some params => exact keeps_bind (handleOpenStream_tied _ _) fun _ => free_tied .paramsUnlock rfl

section
variable [Prost]

/-- Every turn of the loop keeps the tie. -/
theorem eventLoop_tied : KeepsTied config (eventLoop config : EngineM Core Unit) := by
  refine eventLoop_links tied_stable below_tied unaryCall_tied handleOpenStream_tied
    Tied (fun _ => Tied) ?_
    (fun state now => handleConnectedChange_tied state now)
    (handleEvent_links tied_stable below_tied unaryCall_tied handleOpenStream_tied)
    ensureConnected_tied
  intro refreshArmed state now
  exact (free_tied (.select refreshArmed) rfl state now).weaken fun branch after now => selected_of_invariant now

/-- In every state, and so whenever the loop waits, the held stream belongs to the stored connection
unless a connection was stored since the handle of the stream was. -/
theorem waiting_attached {engine : Engine Core} (created : Engine.new config = .ok engine)
    {world : World Core} {replaced : Bool} {later : EngineM Core Unit}
    (reached : Reaches (Promise.any (replacementMachine Core config))
      ((startWorld engine, false), eventLoop config) ((world, replaced), later)) :
    Attached world ↔
      ¬(world.engine.stream.isSome = true ∧ world.engine.h3.isSome = true ∧ replaced = true) := by
  obtain ⟨core, rfl⟩ := Engine.new_fresh created
  have start : Coupled ((startWorld (Engine.fresh config core)).link, false) := ⟨nofun, nofun, nofun⟩
  have tied : Coupled (world.link, replaced) :=
    (eventLoop_tied (startWorld (Engine.fresh config core), false) start).invariant
      Tied tied_stable
      (fun op choice state value after guarded now _ answered => tied_kept guarded now answered)
      start reached
  exact attached_iff tied

end

/-- The stream opens, the first of two unary calls loses the connection, and the second one
reconnects and then succeeds. -/
def replacedConnection (failures successes : Nat) :
    List (rehearsalMachine (rehearsalConfig [] none)).Input :=
  rehearsal (rehearsalConfig [] none)
    [.openMessageStream ["c"] none, .fetchPreKeyBundle "u" none, .fetchPreKeyBundle "u" none]
    (List.replicate failures { opened := { recvResponse := .ok ⟨200, "200 OK"⟩ } } ++
      List.replicate successes { http := { recvResponse := .ok (⟨200, "200 OK"⟩, []) } }) []

/-- The loop waits with the stream of the lost connection after it took up the reconnect. -/
theorem waiting_attached_fails :
    ¬ ∀ world later, Reaches (Promise.any (rehearsalMachine (rehearsalConfig [] none)))
      (rehearsalStart (rehearsalConfig [] none) none) (world, later) → isWaiting later = true →
      world.engine.connectedSeen = world.net.connected.version → Attached world := by
  intro attached
  have claimed := attached _ _ (rehearsed_any _ _ (replacedConnection 40 10)) (by decide +kernel)
    (by decide +kernel)
  exact absurd claimed (by decide +kernel)

/-- The stream opens and no unary call follows. -/
def openedConnection : (replacementMachine RehearsalCore (rehearsalConfig [] none)).Configuration Unit :=
  run ((startWorld (Engine.fresh (rehearsalConfig [] none) none), false), eventLoop (rehearsalConfig [] none))
    (.move (Move.dispatch (.openMessageStream ["c"] none)) ::
      List.replicate 26 (.answer { opened := { recvResponse := .ok ⟨200, "200 OK"⟩ } }))

theorem waiting_attached_opened : openedConnection.1.1.engine.stream = some ⟨0, 0⟩ ∧
    Attached openedConnection.1.1 := by
  have reached : Reaches (Promise.any (replacementMachine RehearsalCore (rehearsalConfig [] none)))
      ((startWorld (Engine.fresh (rehearsalConfig [] none) none), false), eventLoop (rehearsalConfig [] none))
      ((openedConnection.1.1, openedConnection.1.2), openedConnection.2) := run_reaches (allAllowed_any _ _)
  exact ⟨by decide +kernel, (waiting_attached (rehearsal_without_core none) reached).mpr (by decide +kernel)⟩

end ConstructEngine
