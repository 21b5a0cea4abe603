import ConstructEngine.Proof.Tables

namespace ConstructEngine.P2P

open Interaction Program

variable {Addr A : Type}

/-- These are the calls on one connection. -/
inductive ConnectionCall where
  | connect (candidates : List ICECandidate)
  | reconnect (candidates : List ICECandidate)
  | send (data : List UInt8)
  | close

/-- Each call runs to its end, whatever it answers. -/
def ConnectionCall.body [SocketAddr Addr] (id : Nat) : ConnectionCall → PeerM Addr PUnit
  | .connect candidates => do
      let _ ← P2P.connect id candidates
      return ⟨⟩
  | .reconnect candidates => do
      let _ ← P2P.reconnect id candidates
      return ⟨⟩
  | .send data => do
      let _ ← P2P.send id data
      return ⟨⟩
  | .close => P2P.close id

/-- One call is made after the other, and each is at one of these stages. -/
inductive Stage where
  | idle
  | connecting
  | sending
  | closing
  deriving DecidableEq

/-- Other closes are pending between their two writes. A connection is dormant when it was closed, or
was still being closed, after the last connect started. -/
structure Progress where
  stage : Stage := .idle
  pending : Nat := 0
  dormant : Bool := false

/-- A connect starts with the first of these states and ends with one of the next two. -/
def Progress.enter (progress : Progress) : ConnectionState → Progress
  | .connecting => { progress with stage := .connecting, dormant := 0 < progress.pending }
  | .connected => { progress with stage := .idle }
  | .failed => { progress with stage := .idle }
  | .closed => { progress with stage := .closing, dormant := true }
  | _ => progress

/-- A close ends when it forgets the address, and a send goes on when it knows one. -/
def Progress.write : {A : Type} → PeerOp Addr A → A → Progress → Progress
  | _, .connectionLock _ (.stateWrite state), _, progress => progress.enter state
  | _, .connectionLock _ (.remoteAddrWrite none), _, progress => { progress with stage := .idle }
  | _, .connectionLock _ .remoteAddrRead, some _, progress => { progress with stage := .sending }
  | _, .sendData _ _ _, _, progress => { progress with stage := .idle }
  | _, _, _, progress => progress

/-- A close that runs beside the calls writes the state first and the address later. -/
inductive CloseMove where
  | stateWrite
  | remoteAddrWrite

/-- This is the connection with the progress of its calls. -/
abbrev ConnectionView (Addr : Type) := P2PConnection Addr × Progress

/-- The first write closes the connection, and the second one forgets the address. -/
def CloseMove.run : CloseMove → ConnectionView Addr → ConnectionView Addr
  | .stateWrite, (connection, progress) => ((ConnectionAccess.run (.stateWrite .closed) connection).2,
      { progress with pending := progress.pending + 1, dormant := true })
  | .remoteAddrWrite, (connection, progress) => ((ConnectionAccess.run (.remoteAddrWrite none) connection).2,
      { progress with pending := progress.pending - 1 })

/-- No close interrupts a send, and its second write follows its first. -/
def CloseMove.possible : CloseMove → Progress → Prop
  | .stateWrite, progress => progress.stage ≠ .sending
  | .remoteAddrWrite, progress => 0 < progress.pending

instance decidablePossible : (move : CloseMove) → (progress : Progress) → Decidable (move.possible progress)
  | .stateWrite, progress => inferInstanceAs (Decidable (progress.stage ≠ .sending))
  | .remoteAddrWrite, progress => inferInstanceAs (Decidable (0 < progress.pending))

/-- Other closes run beside the calls on the connection. -/
abbrev connectionMachine (Addr : Type) (id : Nat) : Machine (PeerOp Addr) where
  State := Manager Addr × Progress
  Choice := PeerChoice Addr
  Move := CloseMove
  exec op choice state :=
    let (answer, after) := op.exec choice state.1
    some (answer, after, state.2.write op answer)
  move move state :=
    let (connection, progress) := move.run (state.1.arena id, state.2)
    some ({ state.1 with arena := Function.update state.1.arena id connection }, progress)

/-- No connect fails while an address is left over, none succeeds behind a close, and no send starts
before a close has ended. -/
def PeerOp.agreeing : {A : Type} → PeerOp Addr A → Manager Addr → Progress → Bool
  | _, .connectionLock id (.stateWrite .failed), manager, progress =>
      (manager.arena id).remoteAddr.isNone || 0 < progress.pending
  | _, .connectionLock _ (.stateWrite .connected), _, progress => !progress.dormant
  | _, .connectionLock _ .remoteAddrRead, _, progress => progress.pending = 0
  | _, _, _, _ => true

/-- Closes run beside the calls, and the network answers as it likes. -/
def besidePromise (Addr : Type) (id : Nat) : (connectionMachine Addr id).Promise where
  answers _ _ _ := True
  moves move state := move.possible state.2

def agreePromise (Addr : Type) (id : Nat) : (connectionMachine Addr id).Promise where
  answers op _ state := op.agreeing state.1 state.2 = true
  moves move state := move.possible state.2

/-- Whenever no connect runs and no close stands between its two writes, the address and the state
agree. A connected connection has an address at any time, and a dormant one is not connected. -/
structure ConnectionAgrees (connection : P2PConnection Addr) (progress : Progress) : Prop where
  linked : progress.stage ≠ .connecting → progress.stage ≠ .closing → progress.pending = 0 →
    (connection.remoteAddr.isSome = true ↔ connection.state = .connected)
  known : connection.state = .connected → connection.remoteAddr.isSome = true
  closed : progress.dormant = true → connection.state ≠ .connected

/-- This is what every operation and every other close preserves. -/
structure Sound (view : ConnectionView Addr) : Prop where
  address : view.1.remoteAddr.isSome = true → view.1.state = .connected ∨ view.2.stage = .connecting ∨
    view.2.stage = .closing ∨ 0 < view.2.pending
  connected : view.1.state = .connected → view.1.remoteAddr.isSome = true ∧ view.2.stage ≠ .connecting
  dormant : view.2.dormant = true → view.1.state ≠ .connected
  pending : 0 < view.2.pending → view.2.dormant = true
  closing : view.2.stage = .closing → view.2.dormant = true

/-- What is preserved says that the address and the state agree. -/
theorem Sound.agrees {view : ConnectionView Addr} (sound : Sound view) : ConnectionAgrees view.1 view.2 := by
  have known : view.1.state = .connected → view.1.remoteAddr.isSome = true :=
    fun connected => (sound.connected connected).1
  refine ⟨fun quiet whole alone => ⟨fun present => ?_, known⟩, known, sound.dormant⟩
  rcases sound.address present with connected | connecting | closing | pending
  · exact connected
  · exact absurd connecting quiet
  · exact absurd closing whole
  · omega

/-- Without a connected state, only a leftover address has to be explained. -/
theorem sound_unconnected {connection : P2PConnection Addr} {progress : Progress}
    (unconnected : connection.state ≠ .connected)
    (address : connection.remoteAddr.isSome = true → progress.stage = .connecting ∨
      progress.stage = .closing ∨ 0 < progress.pending)
    (pending : 0 < progress.pending → progress.dormant = true)
    (closing : progress.stage = .closing → progress.dormant = true) : Sound (connection, progress) where
  address present := .inr (address present)
  connected connected := absurd connected unconnected
  dormant _ := unconnected
  pending
  closing

/-- Another close leaves a sound connection. -/
theorem Sound.move {view : ConnectionView Addr} (sound : Sound view) {move : CloseMove}
    (possible : move.possible view.2) : Sound (move.run view) := by
  obtain ⟨connection, progress⟩ := view
  cases move with
  | stateWrite =>
      exact sound_unconnected (fun impossible => by cases impossible)
        (fun _ => .inr (.inr (Nat.succ_pos _))) (fun _ => rfl) fun _ => rfl
  | remoteAddrWrite =>
      have dormant : progress.dormant = true := sound.pending possible
      exact sound_unconnected (sound.dormant dormant) (fun impossible => by cases impossible)
        (fun _ => dormant) fun _ => dormant

/-- An assertion about the connection implies that it is sound, and the other closes keep it. -/
structure Assertion (Addr : Type) where
  holds : ConnectionView Addr → Prop
  sound : ∀ view, holds view → Sound view
  kept : ∀ view (move : CloseMove), holds view → move.possible view.2 → holds (move.run view)

/-- The calls are at this stage of a sound connection, and more is known of it. -/
structure At (stage : Stage) (fact : ConnectionView Addr → Prop) (view : ConnectionView Addr) : Prop where
  sound : Sound view
  stage : view.2.stage = stage
  fact : fact view

/-- A close beside the calls is at no stage of theirs. -/
theorem CloseMove.run_stage (move : CloseMove) (view : ConnectionView Addr) :
    (move.run view).2.stage = view.2.stage := by
  cases move <;> rfl

/-- The other closes keep the stage, so only the additional fact needs an argument. -/
def Assertion.staged (stage : Stage) (fact : ConnectionView Addr → Prop)
    (kept : ∀ view (move : CloseMove), At stage fact view → move.possible view.2 → fact (move.run view)) :
    Assertion Addr where
  holds := At stage fact
  sound _ now := now.sound
  kept view move now possible :=
    ⟨now.sound.move possible, (move.run_stage view).trans now.stage, kept view move now possible⟩

/-- No call runs. -/
def idle : Assertion Addr := .staged .idle (fun _ => True) fun _ _ _ _ => trivial

/-- A connect runs. -/
def connecting : Assertion Addr := .staged .connecting (fun _ => True) fun _ _ _ _ => trivial

/-- A close has written the state and not the address. -/
def closing : Assertion Addr := .staged .closing (fun _ => True) fun _ _ _ _ => trivial

/-- A candidate that answered has left its address, unless the connection is being closed. -/
def found : Assertion Addr :=
  .staged .connecting (fun view => view.2.dormant = true ∨ view.1.remoteAddr.isSome = true) <| by
    intro view move now possible
    cases move with
    | stateWrite => exact .inl rfl
    | remoteAddrWrite => exact .inl (now.sound.pending possible)

/-- The address is forgotten. -/
def unlinked : Assertion Addr :=
  .staged .idle (fun view => view.1.remoteAddr = none) <| by
    intro view move now possible
    cases move with
    | stateWrite => exact now.fact
    | remoteAddrWrite => rfl

/-- A send goes on while the connection is connected. -/
def ready : Assertion Addr :=
  .staged .sending (fun view => view.1.state = .connected) <| by
    intro view move now possible
    cases move with
    | stateWrite => exact absurd now.stage possible
    | remoteAddrWrite => exact now.fact

/-- A send reaches the socket only on a connected connection. -/
def sendGuard (id : Nat) : {B : Type} → PeerOp Addr B → Manager Addr × Progress → Prop
  | _, .sendData _ _ _, state => (state.1.arena id).state = .connected
  | _, _, _ => True

/-- An operation leaves a sound connection. -/
def soundGuard (id : Nat) {B : Type} (op : PeerOp Addr B) (state : Manager Addr × Progress) : Prop :=
  sendGuard id op state ∧ ∀ choice, op.agreeing state.1 state.2 = true →
    Sound ((op.exec choice state.1).2.arena id, state.2.write op (op.exec choice state.1).1)

section
variable {id : Nat}

/-- Every run from the first assertion is guarded and ends with the second one. -/
def CallHolds (id : Nat) (before : Assertion Addr) (program : PeerM Addr A)
    (result : A → Assertion Addr) : Prop :=
  ∀ state : Manager Addr × Progress, before.holds (state.1.arena id, state.2) →
    Machine.Holds (agreePromise Addr id) (soundGuard id) program
      (fun value after => (result value).holds (after.1.arena id, after.2)) state

/-- An assertion survives the closes beside the calls. -/
theorem Assertion.stable (assertion : Assertion Addr) :
    Machine.Stable (agreePromise Addr id) fun state => assertion.holds (state.1.arena id, state.2) := by
  intro move state after now possible moved
  cases Option.some.inj moved
  have run := assertion.kept (state.1.arena id, state.2) move now possible
  change assertion.holds (Function.update state.1.arena id _ id, _)
  rw [Function.update_self]
  exact run

/-- A call may end where its assertion implies the result. -/
theorem callHolds_done {assertion : Assertion Addr} {result : A → Assertion Addr} {value : A}
    (implies : ∀ view, assertion.holds view → (result value).holds view) :
    CallHolds id assertion (.done value) result := fun _ now =>
  Machine.holds_done (result value).stable (implies _ now)

/-- One part of a call ends where the next one begins. -/
theorem callHolds_bind {B : Type} {before : Assertion Addr} {program : PeerM Addr A}
    {rest : A → PeerM Addr B} {middle : A → Assertion Addr} {result : B → Assertion Addr}
    (first : CallHolds id before program middle)
    (later : ∀ value, CallHolds id (middle value) (rest value) result) :
    CallHolds id before (program >>= rest) result := fun state now =>
  Machine.holds_bind (first state now) fun value after => later value after

/-- A call may promise less. -/
theorem callHolds_weaken {before : Assertion Addr} {program : PeerM Addr A} {strong weak : A → Assertion Addr}
    (holds : CallHolds id before program strong)
    (implies : ∀ value view, (strong value).holds view → (weak value).holds view) :
    CallHolds id before program weak := fun state now =>
  (holds state now).weaken fun value _ => implies value _

/-- The effect of an operation establishes the assertion that follows it. -/
theorem callHolds_perform {op : PeerOp Addr A} {before : Assertion Addr} {result : A → Assertion Addr}
    (guarded : ∀ state : Manager Addr × Progress, before.holds (state.1.arena id, state.2) →
      sendGuard id op state)
    (effect : ∀ manager progress choice, before.holds (manager.arena id, progress) →
      op.agreeing manager progress = true →
      (result (op.exec choice manager).1).holds
        ((op.exec choice manager).2.arena id, progress.write op (op.exec choice manager).1)) :
    CallHolds id before (perform op) result := by
  have safe : ∀ state : Manager Addr × Progress, before.holds (state.1.arena id, state.2) →
      soundGuard id op state := by
    intro state now
    refine ⟨guarded state now, fun choice agreeing => ?_⟩
    exact (result _).sound _ (effect _ _ choice now agreeing)
  intro state now
  refine Machine.holds_ask _ before.stable safe ?_ now
  intro state choice value later now allowed answered
  cases Option.some.inj answered
  exact Machine.holds_done (result _).stable (effect _ _ choice now allowed)

/-- An access to the connection changes it and the progress of the calls. -/
theorem callHolds_access {access : ConnectionAccess Addr A} {before : Assertion Addr}
    {result : A → Assertion Addr}
    (effect : ∀ (manager : Manager Addr) progress, before.holds (manager.arena id, progress) →
      (PeerOp.connectionLock id access).agreeing manager progress = true →
      (result (access.run (manager.arena id)).1).holds ((access.run (manager.arena id)).2,
        progress.write (PeerOp.connectionLock id access) (access.run (manager.arena id)).1)) :
    CallHolds id before (perform (.connectionLock id access)) result := by
  refine callHolds_perform (fun _ _ => trivial) ?_
  intro manager progress choice now agreeing
  change (result _).holds (Function.update manager.arena id _ id, _)
  rw [Function.update_self]
  exact effect manager progress now agreeing

/-- An operation on the network leaves the connection and the stage as they are. -/
theorem network_holds {op : PeerOp Addr A} {assertion : Assertion Addr}
    (free : ∀ state : Manager Addr × Progress, sendGuard id op state)
    (unchanged : ∀ choice manager, (op.exec choice manager).2 = manager)
    (silent : ∀ answer (progress : Progress), progress.write op answer = progress) :
    CallHolds id assertion (perform op) fun _ => assertion := by
  refine callHolds_perform (fun state _ => free state) ?_
  intro manager progress choice now agreeing
  rw [unchanged, silent]
  exact now

/-- A connect begins by saying so. -/
theorem connecting_holds : CallHolds id (idle : Assertion Addr)
    (perform (.connectionLock id (.stateWrite .connecting))) fun _ => connecting := by
  refine callHolds_access fun manager progress now agreeing => ?_
  refine ⟨sound_unconnected ?_ (fun _ => .inl rfl) (fun pending => decide_eq_true pending) ?_, rfl, trivial⟩
  · exact fun impossible => by cases impossible
  · exact fun impossible => by cases impossible

/-- A connect ends with an address. -/
theorem connected_holds : CallHolds id (found : Assertion Addr)
    (perform (.connectionLock id (.stateWrite .connected))) fun _ => idle := by
  refine callHolds_access fun manager progress now agreeing => ?_
  have awake : progress.dormant = false := by simpa [PeerOp.agreeing] using agreeing
  have known : (manager.arena id).remoteAddr.isSome = true := by
    rcases now.fact with dormant | known
    · cases awake.symm.trans dormant
    · exact known
  refine ⟨⟨fun _ => .inl rfl, fun _ => ⟨known, fun impossible => (by cases impossible)⟩, ?_,
    now.sound.pending, fun impossible => (by cases impossible)⟩, rfl, trivial⟩
  intro dormant
  cases awake.symm.trans dormant

/-- An address that is left over after a failure is about to be forgotten. -/
theorem failed_holds : CallHolds id (connecting : Assertion Addr)
    (perform (.connectionLock id (.stateWrite .failed))) fun _ => idle := by
  refine callHolds_access fun manager progress now agreeing => ?_
  have forgotten : (manager.arena id).remoteAddr.isNone = true ∨ 0 < progress.pending := by
    simpa [PeerOp.agreeing] using agreeing
  refine ⟨sound_unconnected ?_ (fun known => ?_) now.sound.pending ?_, rfl, trivial⟩
  · exact fun impossible => by cases impossible
  · rcases forgotten with absent | pending
    · have known : (manager.arena id).remoteAddr.isSome = true := known
      rw [Option.isNone_iff_eq_none.mp absent] at known
      cases known
    · exact .inr (.inr pending)
  · exact fun impossible => by cases impossible

/-- The candidate that answered leaves its address. -/
theorem found_holds (addr : Addr) : CallHolds id (connecting : Assertion Addr)
    (perform (.connectionLock id (.remoteAddrWrite (some addr)))) fun _ => found := by
  refine callHolds_access fun manager progress now agreeing => ?_
  have stage : progress.stage = .connecting := now.stage
  refine ⟨⟨fun _ => .inr (.inl stage), fun connected => ?_, now.sound.dormant, now.sound.pending,
    now.sound.closing⟩, stage, .inr rfl⟩
  exact absurd stage (now.sound.connected connected).2

/-- A close begins with the state. -/
theorem closed_holds : CallHolds id (idle : Assertion Addr)
    (perform (.connectionLock id (.stateWrite .closed))) fun _ => closing := by
  refine callHolds_access fun manager progress now agreeing => ?_
  exact ⟨sound_unconnected (fun impossible => by cases impossible) (fun _ => .inr (.inl rfl))
    (fun _ => rfl) fun _ => rfl, rfl, trivial⟩

/-- A close ends when it forgets the address. -/
theorem unlinked_holds : CallHolds id (closing : Assertion Addr)
    (perform (.connectionLock id (.remoteAddrWrite none))) fun _ => unlinked := by
  refine callHolds_access fun manager progress now agreeing => ?_
  have dormant : progress.dormant = true := now.sound.closing now.stage
  exact ⟨sound_unconnected (now.sound.dormant dormant) (fun impossible => by cases impossible)
    now.sound.pending (fun impossible => by cases impossible), rfl, rfl⟩

/-- A reconnect begins without an address. -/
theorem reconnecting_holds : CallHolds id (unlinked : Assertion Addr)
    (perform (.connectionLock id (.stateWrite .reconnecting))) fun _ => idle := by
  refine callHolds_access fun manager progress now agreeing => ?_
  have absent : (manager.arena id).remoteAddr = none := now.fact
  refine ⟨sound_unconnected ?_ (fun known => ?_) now.sound.pending now.sound.closing, now.stage, trivial⟩
  · exact fun impossible => by cases impossible
  · have known : (manager.arena id).remoteAddr.isSome = true := known
    rw [absent] at known
    cases known

/-- A send goes on with the address that it read. -/
def addressRead : Option Addr → Assertion Addr
  | some _ => ready
  | none => idle

/-- An address that is read between the calls belongs to a connected connection. -/
theorem remoteAddrRead_holds : CallHolds id (idle : Assertion Addr)
    (perform (.connectionLock id .remoteAddrRead)) addressRead := by
  refine callHolds_access fun manager progress now agreeing => ?_
  have alone : progress.pending = 0 := by simpa [PeerOp.agreeing] using agreeing
  have stage : progress.stage = .idle := now.stage
  have agrees := now.sound.agrees.linked (by rw [stage]; decide) (by rw [stage]; decide) alone
  change (addressRead (manager.arena id).remoteAddr).holds
    (manager.arena id, progress.write (.connectionLock id .remoteAddrRead) (manager.arena id).remoteAddr)
  cases known : (manager.arena id).remoteAddr with
  | none => exact now
  | some addr =>
      have connected : (manager.arena id).state = .connected := agrees.mp (by rw [known]; rfl)
      exact ⟨⟨fun _ => .inl connected, fun connected => ⟨(now.sound.connected connected).1,
        fun impossible => (by cases impossible)⟩, now.sound.dormant, now.sound.pending,
        fun impossible => (by cases impossible)⟩, rfl, connected⟩

/-- The data goes out while the connection is connected. -/
theorem sendData_holds (addr : Addr) (data : List UInt8) : CallHolds id (ready : Assertion Addr)
    (perform (.sendData id addr data)) fun _ => idle := by
  refine callHolds_perform (fun state now => now.fact) fun manager progress choice now agreeing => ?_
  have connected : (manager.arena id).state = .connected := now.fact
  exact ⟨⟨fun _ => .inl connected, fun connected => ⟨(now.sound.connected connected).1,
    fun impossible => (by cases impossible)⟩, now.sound.dormant, now.sound.pending,
    fun impossible => (by cases impossible)⟩, rfl, trivial⟩

/-- The counters are no part of the agreement. -/
theorem bytesSentAdd_holds (length : Nat) : CallHolds id (idle : Assertion Addr)
    (perform (.connectionLock id (.bytesSentAdd length))) fun _ => idle := by
  refine callHolds_access fun manager progress now agreeing => ?_
  exact ⟨⟨now.sound.address, now.sound.connected, now.sound.dormant, now.sound.pending,
    now.sound.closing⟩, now.stage, trivial⟩

/-- A close leaves the connection without an address. -/
theorem close_holds : CallHolds id (idle : Assertion Addr) (close id) fun _ => unlinked :=
  callHolds_bind closed_holds fun _ => unlinked_holds

/-- A send without an address ends at once. -/
theorem send_holds (data : List UInt8) : CallHolds id (idle : Assertion Addr) (send id data) fun _ => idle := by
  refine callHolds_bind remoteAddrRead_holds fun known => ?_
  cases known with
  | none => exact callHolds_done fun _ now => now
  | some addr =>
      refine callHolds_bind (sendData_holds addr data) fun outcome => ?_
      cases outcome with
      | error message => exact callHolds_done fun _ now => now
      | ok length => exact callHolds_bind (bytesSentAdd_holds length) fun _ => callHolds_done fun _ now => now

variable [SocketAddr Addr]

/-- A candidate that succeeds has left its address. -/
def tried : Except String Unit → Assertion Addr
  | .ok () => found
  | .error _ => connecting

/-- A candidate that does not answer leaves nothing behind. -/
theorem tryConnectToCandidate_holds (candidate : ICECandidate) :
    CallHolds id connecting (tryConnectToCandidate id candidate : PeerM Addr _) tried := by
  intro state now
  let probing : (connectionMachine Addr id).State → Prop := fun state =>
    connecting.holds (state.1.arena id, state.2)
  refine tryConnectToCandidate_rule probing (fun _ => probing) (fun value => (tried value).stable)
    (fun _ _ now => now) ?_ ?_ (fun addr => found_holds addr) now
  · exact fun addr => network_holds (fun _ => trivial) (fun _ _ => rfl) fun _ _ => rfl
  · intro addr state _ now
    have waited : CallHolds id connecting (perform (.recvProbe id addr)) fun _ => connecting :=
      network_holds (fun _ => trivial) (fun _ _ => rfl) fun _ _ => rfl
    refine (waited state now).weaken fun datagram after now => ?_
    split
    · exact now
    · exact fun _ => now

/-- The first candidate that answers connects, and if none does the connect fails. -/
theorem tryCandidates_holds (candidates : List ICECandidate) :
    CallHolds id (connecting : Assertion Addr) (tryCandidates id candidates) fun _ => idle := by
  induction candidates with
  | nil => exact callHolds_bind failed_holds fun _ => callHolds_done fun _ now => now
  | cons candidate rest inductionHypothesis =>
      refine callHolds_bind (tryConnectToCandidate_holds candidate) fun outcome => ?_
      cases outcome with
      | ok value => exact callHolds_bind connected_holds fun _ => callHolds_done fun _ now => now
      | error message => exact inductionHypothesis

/-- A connect ends connected or failed. -/
theorem connect_holds (candidates : List ICECandidate) :
    CallHolds id (idle : Assertion Addr) (connect id candidates) fun _ => idle :=
  callHolds_bind connecting_holds fun _ => tryCandidates_holds _

/-- A reconnect is a close and a connect. -/
theorem reconnect_holds (candidates : List ICECandidate) :
    CallHolds id (idle : Assertion Addr) (reconnect id candidates) fun _ => idle := by
  refine callHolds_bind close_holds fun _ => ?_
  refine callHolds_bind (network_holds (fun _ => trivial) (fun _ _ => rfl) fun _ _ => rfl) fun _ => ?_
  exact callHolds_bind reconnecting_holds fun _ => connect_holds _

/-- Each call begins and ends between the calls. -/
theorem body_holds (call : ConnectionCall) :
    CallHolds id (idle : Assertion Addr) (call.body id) fun _ => idle := by
  cases call with
  | connect candidates => exact callHolds_bind (connect_holds candidates) fun _ => callHolds_done fun _ now => now
  | reconnect candidates =>
      exact callHolds_bind (reconnect_holds candidates) fun _ => callHolds_done fun _ now => now
  | send data => exact callHolds_bind (send_holds data) fun _ => callHolds_done fun _ now => now
  | close => exact callHolds_weaken close_holds fun _ _ now => ⟨now.sound, now.stage, trivial⟩

/-- So does any list of calls. -/
theorem calls_holds (calls : List ConnectionCall) :
    CallHolds id (idle : Assertion Addr) (calls.forM (ConnectionCall.body id)) fun _ => idle := by
  induction calls with
  | nil => exact callHolds_done fun _ now => now
  | cons call rest inductionHypothesis => exact callHolds_bind (body_holds call) fun _ => inductionHypothesis

/-- The calls start on a new connection of the manager. -/
def opened (manager : Manager Addr) (id : Nat) (peerUserId peerDeviceId : String) (timeoutSecs : Nat) :
    (connectionMachine Addr id).State :=
  ({ manager with
    arena := Function.update manager.arena id (.new peerUserId peerDeviceId timeoutSecs) }, {})

omit [SocketAddr Addr] in
/-- A new connection has neither an address nor a call. -/
theorem opened_idle (manager : Manager Addr) (id : Nat) (peerUserId peerDeviceId : String) (timeoutSecs : Nat) :
    let start := opened manager id peerUserId peerDeviceId timeoutSecs
    idle.holds (start.1.arena id, start.2) := by
  change idle.holds (Function.update manager.arena id _ id, _)
  rw [Function.update_self]
  exact ⟨⟨fun impossible => (by cases impossible), fun impossible => (by cases impossible),
    fun impossible => (by cases impossible), fun impossible => (by cases impossible),
    fun impossible => (by cases impossible)⟩, rfl, trivial⟩

/-- In every run that meets the condition the address and the state agree, and the next operation
sends data only while the connection is connected. -/
theorem connection_agrees (manager : Manager Addr) (peerUserId peerDeviceId : String) (timeoutSecs : Nat)
    (calls : List ConnectionCall) {after : (connectionMachine Addr id).State} {later : PeerM Addr PUnit}
    (reached : Machine.Reaches (agreePromise Addr id)
      (opened manager id peerUserId peerDeviceId timeoutSecs, calls.forM (ConnectionCall.body id)) (after, later)) :
    ConnectionAgrees (after.1.arena id) after.2 ∧
      ∀ number addr data next, later = .ask (.sendData number addr data) next →
        (after.1.arena id).state = .connected := by
  have start := opened_idle manager id peerUserId peerDeviceId timeoutSecs
  have safe := calls_holds calls (opened manager id peerUserId peerDeviceId timeoutSecs) start
  have sound : Sound (after.1.arena id, after.2) := by
    refine safe.invariant (fun state => Sound (state.1.arena id, state.2)) ?_ ?_ start.sound reached
    · intro move state after sound possible moved
      cases Option.some.inj moved
      change Sound (Function.update state.1.arena id _ id, _)
      rw [Function.update_self]
      exact sound.move possible
    · intro B op choice state value after guarded _ allowed answered
      cases Option.some.inj answered
      exact guarded.2 choice allowed
  refine ⟨sound.agrees, fun number addr data next asked => ?_⟩
  exact ((safe _ _ reached).1 _ _ next asked).1

end

instance decidableBesideAnswers (id : Nat) (B : Type) (op : PeerOp Addr B) (choice : PeerChoice Addr)
    (state : Manager Addr × Progress) : Decidable ((besidePromise Addr id).answers op choice state) :=
  isTrue trivial

instance decidableAgreeAnswers (id : Nat) (B : Type) (op : PeerOp Addr B) (choice : PeerChoice Addr)
    (state : Manager Addr × Progress) : Decidable ((agreePromise Addr id).answers op choice state) :=
  inferInstanceAs (Decidable (_ = true))

instance decidableBesideMoves (id : Nat) (move : CloseMove) (state : Manager Addr × Progress) :
    Decidable ((besidePromise Addr id).moves move state) :=
  decidablePossible move state.2

instance decidableAgreeMoves (id : Nat) (move : CloseMove) (state : Manager Addr × Progress) :
    Decidable ((agreePromise Addr id).moves move state) :=
  decidablePossible move state.2

/-- Every probe of these calls is answered. -/
def answeredCalls (calls : List ConnectionCall) (count : Nat) : (connectionMachine String 0).Configuration PUnit :=
  Machine.run (opened {} 0 "u" "d" 10, calls.forM (ConnectionCall.body 0))
    (List.replicate count (.answer { datagram := .received 1 peerAddr }))

/-- A connect without candidates fails and leaves the address of an earlier one. -/
theorem connection_agrees_fails :
    ¬ ∀ (calls : List ConnectionCall) (after : (connectionMachine String 0).State) (later : PeerM String PUnit),
      Machine.Reaches (besidePromise String 0)
        (opened {} 0 "u" "d" 10, calls.forM (ConnectionCall.body 0)) (after, later) →
      ConnectionAgrees (after.1.arena 0) after.2 ∧
        ∀ number addr data next, later = .ask (.sendData number addr data) next →
          (after.1.arena 0).state = .connected := by
  intro agree
  let calls : List ConnectionCall := [.connect [.lan peerAddr none], .connect []]
  have reached : Machine.Reaches (besidePromise String 0)
      (opened {} 0 "u" "d" 10, calls.forM (ConnectionCall.body 0)) (answeredCalls calls 7) :=
    Machine.run_reaches (by decide +kernel)
  have failed := (agree calls _ _ reached).1.linked (by decide +kernel) (by decide +kernel) (by decide +kernel)
  exact absurd (failed.mp (by decide +kernel)) (by decide +kernel)

/-- A connection that is established, used and closed keeps the agreement. -/
theorem connection_agrees_used :
    ConnectionAgrees ((answeredCalls [.connect [.lan peerAddr none], .send [1], .close] 9).1.1.arena 0)
      (answeredCalls [.connect [.lan peerAddr none], .send [1], .close] 9).1.2 :=
  (connection_agrees {} "u" "d" 10 [.connect [.lan peerAddr none], .send [1], .close]
    (Machine.run_reaches (by decide +kernel))).1

end ConstructEngine.P2P
