import ConstructEngine.Interaction.Composition
import ConstructEngine.Proof.Probe

namespace ConstructEngine.P2P

open Interaction Program

variable {Addr A : Type}

/-- A connect task has concluded when it has written the status of its peer. -/
abbrev Concluded := Nat → Bool

/-- A connect task concludes with the status that it writes. -/
def writeConcluded : {A : Type} → ManagerTask → PeerOp Addr A → Concluded → Concluded
  | _, .connect _ _ id _, .peersLock (.setStatus ..), concluded => Function.update concluded id true
  | _, _, _, concluded => concluded

/-- No connect task is pending. -/
def Quiet (tasks : List (ManagerTask × PeerM Addr Unit)) : Prop :=
  ∀ task program, (task, program) ∈ tasks → task.isCall = false → program = .done ()

/-- Nothing remains of the task. -/
def hasFinished : PeerM Addr Unit → Bool
  | .done () => true
  | _ => false

/-- Whether a connect task is pending can be read off the programs. -/
theorem quiet_of_finished {tasks : List (ManagerTask × PeerM Addr Unit)}
    (finished : (tasks.all fun entry => entry.1.isCall || hasFinished entry.2) = true) : Quiet tasks := by
  intro task program member spawned
  have done := List.all_eq_true.mp finished (task, program) member
  rw [spawned, Bool.false_or] at done
  cases program with
  | done => rfl
  | ask => cases done
  | loop => cases done

/-- A stored connection belongs to a known peer, a connected peer has a connected one, and a failed
peer has none. -/
structure TablesAgree (manager : Manager Addr) : Prop where
  known : ∀ key id, manager.connections key = some id → (manager.peers key).isSome
  connected : ∀ key peer, manager.peers key = some peer → peer.status = .connected →
    ∃ id, manager.connections key = some id ∧ (manager.arena id).state = .connected
  failed : ∀ key peer id, manager.peers key = some peer → peer.status = .failed →
    manager.connections key = some id → (manager.arena id).state ≠ .connected

/-- Peers are removed only without a connection, connections are stored only for known peers, and the
connect tasks of a peer conclude in the order of their connections. -/
def PeerOp.inOrder : {A : Type} → ManagerTask → PeerOp Addr A → Manager Addr → Concluded → Bool
  | _, _, .peersLock (.remove key), manager, _ => (manager.connections key).isNone
  | _, _, .connectionsInsert key _ _, manager, _ => (manager.peers key).isSome
  | _, .connect _ _ id _, .peersLock (.setStatus key _), manager, concluded =>
      (manager.connections key).all fun stored => stored == id || !concluded stored
  | _, _, _, _, _ => true

section
variable [SocketAddr Addr] {config : P2PConfig}

/-- These are the tasks of the manager with the note next to its state. -/
abbrev tablePool (Addr : Type) [SocketAddr Addr] (config : P2PConfig) :
    Pool (PeerOp Addr) ManagerTask :=
  (managerPool Addr config).monitored fun task op _ _ concluded => writeConcluded task op concluded

/-- The platform makes its calls, and the network answers as it likes. -/
def callPromise (Addr : Type) [SocketAddr Addr] (config : P2PConfig) : (tablePool Addr config).Promise where
  calls task _ := task.isCall = true
  answers _ _ _ _ := True

/-- In these runs every operation on the tables is in order. -/
def orderPromise (Addr : Type) [SocketAddr Addr] (config : P2PConfig) : (tablePool Addr config).Promise where
  calls task _ := task.isCall = true
  answers task op _ state := op.inOrder task state.1 state.2 = true

instance (task : ManagerTask) (state : (tablePool Addr config).State) :
    Decidable ((callPromise Addr config).calls task state) :=
  inferInstanceAs (Decidable (task.isCall = true))

instance (A : Type) (task : ManagerTask) (op : PeerOp Addr A) (choice : (tablePool Addr config).Choice)
    (state : (tablePool Addr config).State) :
    Decidable ((callPromise Addr config).answers task op choice state) := isTrue trivial

instance (task : ManagerTask) (state : (tablePool Addr config).State) :
    Decidable ((orderPromise Addr config).calls task state) :=
  inferInstanceAs (Decidable (task.isCall = true))

instance (A : Type) (task : ManagerTask) (op : PeerOp Addr A) (choice : (tablePool Addr config).Choice)
    (state : (tablePool Addr config).State) :
    Decidable ((orderPromise Addr config).answers task op choice state) :=
  inferInstanceAs (Decidable (op.inOrder task state.1 state.2 = true))

/-- The connection of a connect task and its conclusion are its own. -/
def ownRely (task : ManagerTask) (before after : (tablePool Addr config).State) : Prop :=
  match task with
  | .connect _ _ id _ => after.1.arena id = before.1.arena id ∧ after.2 id = before.2 id
  | _ => True

/-- A connect task uses its own connection and concludes with its state. A call marks its peer as
connecting at most and leaves the connections alone. -/
def tableGuard (config : P2PConfig) (task : ManagerTask) {A : Type} (op : PeerOp Addr A)
    (state : (tablePool Addr config).State) : Prop :=
  match task with
  | .connect key _ id _ =>
      match op with
      | .peersLock (.setStatus written status) => written = key ∧
          (status = .connected ∧ (state.1.arena id).state = .connected ∨
            status = .failed ∧ (state.1.arena id).state ≠ .connected)
      | .connectionLock used access => used = id ∧ (access.writesState = true → state.2 id = false)
      | .peersLock _ | .connectionsInsert .. => False
      | _ => True
  | _ =>
      match op with
      | .peersLock (.setStatus _ status) => status = .connecting
      | .connectionLock .. => False
      | _ => True

/-- A finished connect task has concluded. -/
def hasConcluded (task : ManagerTask) (state : (tablePool Addr config).State) : Prop :=
  match task with
  | .connect _ _ id _ => state.2 id = true
  | _ => True

/-- The task obeys its guard, whatever the other tasks do. -/
abbrev TableSafe (config : P2PConfig) (task : ManagerTask) (program : PeerM Addr Unit)
    (state : (tablePool Addr config).State) : Prop :=
  Pool.Safe ownRely (orderPromise Addr config) (tableGuard config) hasConcluded task program state

omit [SocketAddr Addr] in
/-- What is outside of the tables leaves them alone. -/
theorem outside_exec {op : PeerOp Addr A} (outside : op.outside = true) (choice : PeerChoice Addr)
    (manager : Manager Addr) :
    (op.exec choice manager).2.peers = manager.peers ∧
      (op.exec choice manager).2.connections = manager.connections ∧
      (op.exec choice manager).2.arena = manager.arena ∧
      (op.exec choice manager).2.nextConnection = manager.nextConnection := by
  cases op <;> first | exact ⟨rfl, rfl, rfl, rfl⟩ | cases outside

omit [SocketAddr Addr] in
/-- What is outside of the tables concludes nothing. -/
theorem outside_concluded {op : PeerOp Addr A} (outside : op.outside = true) (task : ManagerTask)
    (concluded : Concluded) : writeConcluded task op concluded = concluded := by
  cases op with
  | peersLock => cases outside
  | _ => cases task <;> rfl

/-- An operation acts on the manager, and the note follows it. -/
theorem answered_exec {task : ManagerTask} {op : PeerOp Addr A} {choice : PeerChoice Addr}
    {state after : (tablePool Addr config).State} {value : A}
    (answered : (tablePool Addr config).exec task op choice state = some (value, after)) :
    op.exec choice state.1 = (value, after.1) ∧ after.2 = writeConcluded task op state.2 := by
  obtain ⟨done, written⟩ := Pool.monitored_exec answered
  exact ⟨Option.some.inj done, written⟩

section
variable (config) (key peerUserId : String) (id : Nat) (candidates : List ICECandidate)

/-- A connect task owns its connection and the note of its conclusion. -/
def ownConnection : (Pool.view (ownRely : ManagerTask → (tablePool Addr config).State → _ → Prop)
    (.connect key peerUserId id candidates)).Owned (P2PConnection Addr × Bool) where
  view state := (state.1.arena id, state.2 id)
  kept _ _ _ moved := by
    have relied := Pool.view_move ownRely moved
    exact Prod.ext relied.1 relied.2

/-- A piece of the connect task is safe when it begins with this connection. -/
abbrev ConnectSafe (program : PeerM Addr A) (result : A → P2PConnection Addr × Bool → Prop)
    (view : P2PConnection Addr × Bool) : Prop :=
  (ownConnection config key peerUserId id candidates).Safe
    ((orderPromise Addr config).view ownRely (.connect key peerUserId id candidates))
    (tableGuard config (.connect key peerUserId id candidates)) program result view

variable {config key peerUserId id candidates} {view : P2PConnection Addr × Bool}

/-- An operation outside of the tables leaves the connection alone. -/
theorem outside_step {op : PeerOp Addr A} (outside : op.outside = true) :
    ConnectSafe config key peerUserId id candidates (perform op) (fun _ after => after = view) view := by
  refine Machine.Owned.safe_perform (fun state _ => ?_) fun state choice value after same _ answered => ?_
  · cases op with
    | peersLock => cases outside
    | connectionsInsert => cases outside
    | connectionLock => cases outside
    | _ => trivial
  · obtain ⟨done, written⟩ := answered_exec answered
    have kept := outside_exec outside choice state.1
    rw [done] at kept
    rw [outside_concluded outside] at written
    rw [← same]
    exact Prod.ext (congrFun kept.2.2.1 id) (congrFun written id)

/-- An access to the connection of the task changes its state only before the task concludes. -/
theorem access_step {access : ConnectionAccess Addr A}
    (guarded : access.writesState = true → view.2 = false) :
    ConnectSafe config key peerUserId id candidates (perform (.connectionLock id access))
      (fun _ after => after.1 = (access.run view.1).2 ∧ after.2 = view.2) view := by
  refine Machine.Owned.safe_perform (fun state same => ?_) fun state choice value after same _ answered => ?_
  · rw [← same] at guarded
    exact ⟨rfl, guarded⟩
  · have taken : (tablePool Addr config).exec (.connect key peerUserId id candidates)
      (.connectionLock id access) choice state = some (value, after) := answered
    obtain ⟨done, written⟩ := answered_exec taken
    have manager : ((PeerOp.connectionLock id access).exec choice state.1).2 = after.1 := congrArg Prod.snd done
    rw [← same]
    constructor
    · change after.1.arena id = _
      rw [← manager]
      exact Function.update_self ..
    · exact congrFun written id

/-- The state of the connection changes before the task concludes. -/
theorem stateWrite_step (state : ConnectionState) (pending : view.2 = false) :
    ConnectSafe config key peerUserId id candidates (perform (.connectionLock id (.stateWrite state)))
      (fun _ after => after.1.state = state ∧ after.2 = false) view :=
  (access_step fun _ => pending).weaken fun _ after done =>
    ⟨by rw [done.1]; rfl, done.2.trans pending⟩

/-- The task has not concluded yet. -/
def Pending (view : P2PConnection Addr × Bool) : Prop := view.2 = false

/-- The task has concluded. -/
def Finished (view : P2PConnection Addr × Bool) : Prop := view.2 = true

/-- The note of the conclusion stays while the state of the connection does. -/
theorem conclusion_kept {concluded : Bool} {program : PeerM Addr A}
    (uses : program.Uses fun op => op.keepsState id) (now : view.2 = concluded) :
    ConnectSafe config key peerUserId id candidates program (fun _ after => after.2 = concluded) view := by
  refine Machine.Owned.safe_of_uses (fun view : P2PConnection Addr × Bool => view.2 = concluded) ?_ ?_ uses now
  · intro B op state kept _
    cases op with
    | connectionLock used access => exact ⟨kept.1, fun writes => by rw [kept.2] at writes; cases writes⟩
    | peersLock => cases kept
    | connectionsInsert => cases kept
    | _ => trivial
  · intro B op choice state value after kept now _ answered
    have written := congrFun (answered_exec answered).2 id
    change after.2 id = concluded
    cases op with
    | peersLock => cases kept
    | _ => exact written.trans now

/-- The candidates end with the state of the connection that the answer says. -/
theorem tryCandidates_pending (rest : List ICECandidate) (pending : Pending view) :
    ConnectSafe config key peerUserId id candidates (tryCandidates id rest) (fun answer after =>
      Pending after ∧ (answer.isOk = true ↔ after.1.state = .connected)) view := by
  induction rest generalizing view with
  | nil =>
      refine (stateWrite_step .failed pending).andThen fun _ after written => ?_
      refine Machine.Owned.safe_done ⟨written.2, ?_⟩
      simp [written.1, Except.isOk, Except.toBool]
  | cons candidate rest ih =>
      refine (conclusion_kept (tryConnectToCandidate_keeps id candidate) pending).andThen
        fun tried after pending => ?_
      rcases tried with message | ⟨⟩
      · exact ih pending
      · refine (stateWrite_step .connected pending).andThen fun _ last written => ?_
        refine Machine.Owned.safe_done ⟨written.2, ?_⟩
        simp [written.1, Except.isOk, Except.toBool]

/-- The task concludes with a status that fits its connection. -/
theorem conclude_step {status : PeerStatus}
    (fits : status = .connected ∧ view.1.state = .connected ∨ status = .failed ∧ view.1.state ≠ .connected) :
    ConnectSafe config key peerUserId id candidates (perform (.peersLock (.setStatus key status)))
      (fun _ => Finished) view := by
  refine Machine.Owned.safe_perform (fun state same => ?_) fun state choice value after same _ answered => ?_
  · rw [← same] at fits
    exact ⟨rfl, fits⟩
  · have taken : (tablePool Addr config).exec (.connect key peerUserId id candidates)
      (.peersLock (.setStatus key status)) choice state = some (value, after) := answered
    change after.2 id = true
    rw [(answered_exec taken).2]
    exact Function.update_self ..

/-- The task writes the status that its connection has. -/
theorem connectTask_finished (pending : Pending view) :
    ConnectSafe config key peerUserId id candidates (connectTask key peerUserId id candidates)
      (fun _ => Finished) view := by
  have outside {op : PeerOp Addr Unit} (outside : op.outside = true)
      {view : P2PConnection Addr × Bool} (finished : Finished view) :
      ConnectSafe config key peerUserId id candidates (perform op) (fun _ => Finished) view :=
    (outside_step outside).weaken fun _ after same => same ▸ finished
  have connected : ConnectSafe config key peerUserId id candidates (connect id candidates)
      (fun answer after => Pending after ∧ (answer.isOk = true ↔ after.1.state = .connected)) view :=
    (stateWrite_step .connecting pending).andThen fun _ after written =>
      tryCandidates_pending (sortedCandidates candidates) written.2
  refine connected.andThen fun answer after known => ?_
  rcases answer with message | ⟨⟩
  · have failed : after.1.state ≠ .connected := fun same => by cases known.2.mpr same
    refine (conclude_step (.inr ⟨rfl, failed⟩)).andThen fun _ view finished => ?_
    exact (outside rfl finished).andThen fun _ view finished => outside rfl finished
  · refine (outside_step rfl).andThen fun _ view same => ?_
    subst same
    refine (conclude_step (.inl ⟨rfl, known.2.mp rfl⟩)).andThen fun _ view finished => ?_
    refine (conclusion_kept (measureRtt_keeps id) finished).andThen fun rtt view finished => ?_
    cases rtt with
    | none => exact Machine.Owned.safe_done finished
    | some rtt => exact outside rfl finished

end

/-- A call marks a peer as connecting at most and leaves the connections alone. -/
def PeerOp.called : {A : Type} → PeerOp Addr A → Prop
  | _, .peersLock (.setStatus _ status) => status = .connecting
  | _, .connectionLock .. => False
  | _, _ => True

omit [SocketAddr Addr] in
/-- To gather the own candidates touches no table. -/
theorem gatherLocalCandidates_outside (config : P2PConfig) :
    (gatherLocalCandidates config : PeerM Addr _).Uses fun op => op.outside = true := by
  have queries (servers : List String) :
      (queryStunServers servers : PeerM Addr _).Uses fun op => op.outside = true := by
    induction servers with
    | nil => exact uses_pure _
    | cons server rest ih =>
        refine uses_bind (uses_perform rfl) fun answer => ?_
        cases answer with
        | error => exact ih
        | ok => exact uses_pure _
  exact uses_bind (uses_perform rfl) fun interfaces => uses_bind (queries _) fun stun =>
    uses_bind (uses_perform rfl) fun _ => uses_pure _

omit [SocketAddr Addr] in
/-- A call may gather the own candidates. -/
theorem gatherLocalCandidates_called (config : P2PConfig) :
    (gatherLocalCandidates config : PeerM Addr _).Uses fun op => op.called :=
  (gatherLocalCandidates_outside config).mono fun op outside => by cases op <;> trivial

omit [SocketAddr Addr] in
/-- A call may attempt a connection. -/
theorem attemptConnection_called (config : P2PConfig) (userId deviceId : String) :
    (attemptConnection config userId deviceId : PeerM Addr Unit).Uses fun op => op.called := by
  unfold attemptConnection
  refine uses_bind (uses_perform rfl) fun _ => uses_bind (uses_perform trivial) fun candidates => ?_
  split
  · exact uses_pure ()
  · exact uses_bind (uses_perform trivial) fun _ => uses_pure ()

/-- A call does nothing else. -/
theorem body_called {task : ManagerTask} (call : task.isCall = true) :
    (task.body config : PeerM Addr Unit).Uses fun op => op.called := by
  cases task with
  | initiateHandoff userId deviceId =>
      exact uses_bind (uses_perform trivial) fun _ => uses_bind (uses_perform trivial) fun _ =>
        uses_bind (gatherLocalCandidates_called config) fun _ => uses_perform trivial
  | handleHandoffInitiate userId deviceId candidates =>
      exact uses_bind (uses_perform trivial) fun _ => uses_bind (gatherLocalCandidates_called config) fun _ =>
        uses_bind (uses_perform trivial) fun _ => attemptConnection_called config userId deviceId
  | handleHandoffAck userId deviceId candidates =>
      exact uses_bind (uses_perform trivial) fun _ => attemptConnection_called config userId deviceId
  | removePeer => exact uses_perform trivial
  | updatePeerLatency => exact uses_perform trivial
  | connect => cases call

/-- A call is safe in every state. -/
theorem call_safe {task : ManagerTask} (call : task.isCall = true) (state : (tablePool Addr config).State) :
    TableSafe config task (task.body config) state := by
  have allowed {B : Type} (op : PeerOp Addr B) (state : (tablePool Addr config).State) (called : op.called) :
      tableGuard config task op state := by
    cases task with
    | connect => cases call
    | _ => exact called
  have safe : Machine.Holds ((orderPromise Addr config).view ownRely task) (tableGuard config task)
      (task.body config) (fun _ _ => True) state := by
    refine Machine.holds_of_uses (fun _ => True) Machine.stable_true ?_ ?_ (body_called call) trivial
    · exact fun op state called _ => allowed op state called
    · exact fun _ _ _ _ _ _ _ _ _ => trivial
  refine safe.weaken fun _ after _ => ?_
  cases task with
  | connect => cases call
  | _ => trivial

/-- A connect task is safe when it has not concluded. -/
theorem connect_safe {key userId : String} {id : Nat} {candidates : List ICECandidate}
    {state : (tablePool Addr config).State} (pending : state.2 id = false) :
    TableSafe config (.connect key userId id candidates)
      ((ManagerTask.connect key userId id candidates).body config) state :=
  connectTask_finished (by exact pending) state rfl

end

/-- A peer with a connection stays known. -/
theorem peers_known {region : PeersSection A} {task : ManagerTask} {manager : Manager Addr}
    {concluded : Concluded} (inOrder : (PeerOp.peersLock region).inOrder task manager concluded = true)
    {key : String} (stored : (manager.connections key).isSome) (known : (manager.peers key).isSome) :
    ((region.run manager.peers).2 key).isSome := by
  have modified (written : String) (change : PeerInfo → PeerInfo) :
      (manager.peers.modify written change key).isSome := by
    by_cases same : key = written
    · subst same
      simpa [Peers.modify] using known
    · simpa [Peers.modify, same] using known
  have updated (written : String) (peer : PeerInfo) :
      (Function.update manager.peers written (some peer) key).isSome := by
    by_cases same : key = written
    · subst same
      simp
    · simpa [same] using known
  cases region with
  | handshake => exact updated _ _
  | offer => exact updated _ _
  | storeCandidates => exact modified _ _
  | setStatus => exact modified _ _
  | candidatesRead => exact known
  | setLatency => exact modified _ _
  | remove removed =>
      have unstored : manager.connections removed = none := by
        cases task <;> simpa [PeerOp.inOrder] using inOrder
      have other : key ≠ removed := by
        rintro rfl
        rw [unstored] at stored
        cases stored
      simpa [PeersSection.run, other] using known

/-- The status says how the last attempt ended. -/
def PeerStatus.decided (status : PeerStatus) : Prop := status = .connected ∨ status = .failed

/-- A call decides no status. -/
theorem peers_decided {region : PeersSection A} (called : (PeerOp.peersLock region : PeerOp Addr A).called)
    {peers : Peers} {key : String} {peer : PeerInfo} (found : (region.run peers).2 key = some peer)
    (decided : peer.status.decided) : ∃ old, peers key = some old ∧ old.status = peer.status := by
  have undecided : ¬ PeerStatus.handshaking.decided ∧ ¬ PeerStatus.connecting.decided := by
    simp [PeerStatus.decided]
  have modified (written : String) (change : PeerInfo → PeerInfo)
      (kept : ∀ old, (change old).status.decided → (change old).status = old.status)
      (found : peers.modify written change key = some peer) :
      ∃ old, peers key = some old ∧ old.status = peer.status := by
    by_cases same : key = written
    · subst same
      simp only [Peers.modify, Function.update_self, Option.map_eq_some_iff] at found
      obtain ⟨old, before, rfl⟩ := found
      exact ⟨old, before, (kept old decided).symm⟩
    · exact ⟨peer, by simpa [Peers.modify, same] using found, rfl⟩
  have updated (written : String) (new : PeerInfo) (greeted : new.status = .handshaking)
      (found : Function.update peers written (some new) key = some peer) :
      ∃ old, peers key = some old ∧ old.status = peer.status := by
    by_cases same : key = written
    · subst same
      rw [Function.update_self] at found
      cases found
      rw [greeted] at decided
      exact absurd decided undecided.1
    · exact ⟨peer, by simpa [same] using found, rfl⟩
  cases region with
  | handshake => exact updated _ _ (by split <;> rfl) found
  | offer => exact updated _ _ (by split <;> rfl) found
  | storeCandidates => exact modified _ _ (by exact fun _ _ => rfl) found
  | setStatus written status =>
      have marked : status = .connecting := called
      subst marked
      exact modified _ _ (fun _ decided => absurd decided undecided.2) found
  | candidatesRead => exact ⟨peer, found, rfl⟩
  | setLatency => exact modified _ _ (by exact fun _ _ => rfl) found
  | remove removed =>
      by_cases same : key = removed
      · subst same
        simp [PeersSection.run] at found
      · exact ⟨peer, by simpa [PeersSection.run, same] using found, rfl⟩

/-- A connect task has its own connection. -/
def ManagerTask.connectionId : ManagerTask → Option Nat
  | .connect _ _ id _ => some id
  | _ => none

/-- A value that occurs once in a list of options belongs to one position. -/
theorem others_distinct {B C : Type} {number : B → Option C} {before later : List B} {own : B} {value : C}
    (distinct : ((before ++ own :: later).filterMap number).Nodup) (found : number own = some value) :
    ∀ other ∈ before ++ later, number other ≠ some value := by
  intro other member same
  rw [List.filterMap_append, List.filterMap_cons_some found] at distinct
  have absent : value ∉ before.filterMap number ++ later.filterMap number :=
    (List.nodup_middle.mp distinct).notMem
  rw [← List.filterMap_append] at absent
  exact absent (List.mem_filterMap.mpr ⟨other, member, same⟩)

/-- Every stored connection has a connect task for its peer, and no two connect tasks share one. -/
structure Placed (manager : Manager Addr) (tasks : List ManagerTask) : Prop where
  distinct : (tasks.filterMap ManagerTask.connectionId).Nodup
  used : ∀ id ∈ tasks.filterMap ManagerTask.connectionId, id < manager.nextConnection
  stored : ∀ key id, manager.connections key = some id →
    ∃ userId candidates, .connect key userId id candidates ∈ tasks

section
variable {manager : Manager Addr} {tasks : List ManagerTask}

/-- A new connection takes the next identity, and the others stay stored. -/
theorem insert_stored {key other : String} {id : Nat} {connection : P2PConnection Addr}
    (found : (manager.insert key connection).2.connections other = some id) :
    other = key ∧ id = manager.nextConnection ∨ other ≠ key ∧ manager.connections other = some id := by
  by_cases same : other = key
  · subst same
    simp only [Manager.insert, Function.update_self, Option.some.injEq] at found
    exact .inl ⟨rfl, found.symm⟩
  · exact .inr ⟨same, by simpa [Manager.insert, same] using found⟩

/-- A new connection has no task yet. -/
theorem Placed.unused (placed : Placed manager tasks) {id : Nat}
    (member : id ∈ tasks.filterMap ManagerTask.connectionId) : id ≠ manager.nextConnection :=
  Nat.ne_of_lt (placed.used id member)

/-- A stored connection gets a task of its own. -/
theorem Placed.insert (placed : Placed manager tasks) (key : String) (connection : P2PConnection Addr)
    (candidates : List ICECandidate) :
    Placed (manager.insert key connection).2
      (tasks ++ [.connect key connection.peerUserId manager.nextConnection candidates]) := by
  refine ⟨?_, fun id member => ?_, fun other id found => ?_⟩
  · rw [List.filterMap_append]
    simpa [ManagerTask.connectionId, List.nodup_append, placed.distinct] using fun id => placed.unused
  · rw [List.filterMap_append, List.mem_append] at member
    rcases member with old | new
    · exact Nat.lt_succ_of_lt (placed.used id old)
    · obtain rfl : id = manager.nextConnection := by simpa [ManagerTask.connectionId] using new
      exact Nat.lt_succ_self _
  · rcases insert_stored found with ⟨rfl, rfl⟩ | ⟨-, before⟩
    · exact ⟨_, _, List.mem_append_right _ (List.mem_singleton_self _)⟩
    · obtain ⟨userId, candidates, member⟩ := placed.stored other id before
      exact ⟨userId, candidates, List.mem_append_left _ member⟩

/-- A connect task is the only one with its connection. -/
theorem Placed.unique (placed : Placed manager tasks) {key other userId otherId : String} {id : Nat}
    {candidates others : List ICECandidate} (member : .connect key userId id candidates ∈ tasks)
    (second : .connect other otherId id others ∈ tasks) : other = key := by
  obtain ⟨before, later, rfl⟩ := List.append_of_mem member
  by_cases sibling : .connect other otherId id others ∈ before ++ later
  · exact absurd rfl (others_distinct placed.distinct rfl _ sibling)
  · simp only [List.mem_append, List.mem_cons] at second sibling
    have own : ManagerTask.connect other otherId id others = .connect key userId id candidates := by
      rcases second with earlier | same | later
      · exact absurd (.inl earlier) sibling
      · exact same
      · exact absurd (.inr later) sibling
    cases own
    rfl

end

/-- Each stored connection belongs to a known peer and has its own connect task, and a decided status
fits the stored connection once that task has concluded. -/
structure Tables (state : Manager Addr × Concluded) (tasks : List ManagerTask) : Prop where
  distinct : (tasks.filterMap ManagerTask.connectionId).Nodup
  used : ∀ id ∈ tasks.filterMap ManagerTask.connectionId, id < state.1.nextConnection
  fresh : ∀ id, state.1.nextConnection ≤ id → state.2 id = false
  stored : ∀ key id, state.1.connections key = some id →
    (state.1.peers key).isSome ∧ ∃ userId candidates, .connect key userId id candidates ∈ tasks
  held : ∀ key userId id candidates, .connect key userId id candidates ∈ tasks →
    (state.1.connections key).isSome
  connected : ∀ key peer, state.1.peers key = some peer → peer.status = .connected →
    (state.1.connections key).isSome
  fits : ∀ key peer id, state.1.peers key = some peer → state.1.connections key = some id →
    state.2 id = true → (peer.status = .connected → (state.1.arena id).state = .connected) ∧
      (peer.status = .failed → (state.1.arena id).state ≠ .connected)

variable {state : Manager Addr × Concluded} {tasks : List ManagerTask}

/-- A call that changes the table of peers keeps the tables in order. -/
theorem Tables.call {region : PeersSection A} {task : ManagerTask} (tables : Tables state tasks)
    (inOrder : (PeerOp.peersLock region).inOrder task state.1 state.2 = true)
    (called : (PeerOp.peersLock region : PeerOp Addr A).called) :
    Tables ({ state.1 with peers := (region.run state.1.peers).2 }, state.2) tasks where
  distinct := tables.distinct
  used := tables.used
  fresh := tables.fresh
  stored key id found :=
    have stored : (state.1.connections key).isSome := by rw [found]; rfl
    ⟨peers_known inOrder stored (tables.stored key id found).1, (tables.stored key id found).2⟩
  held := tables.held
  connected key peer found status := by
    obtain ⟨old, before, same⟩ := peers_decided called found (.inl status)
    exact tables.connected key old before (same.trans status)
  fits key peer id found stored concluded := by
    constructor
    · intro status
      obtain ⟨old, before, same⟩ := peers_decided called found (.inl status)
      exact (tables.fits key old id before stored concluded).1 (same.trans status)
    · intro status
      obtain ⟨old, before, same⟩ := peers_decided called found (.inr status)
      exact (tables.fits key old id before stored concluded).2 (same.trans status)

/-- The tasks keep to their connections. -/
theorem Tables.placed (tables : Tables state tasks) : Placed state.1 tasks :=
  ⟨tables.distinct, tables.used, fun key id found => (tables.stored key id found).2⟩

/-- A new connection has a connect task that has not concluded. -/
theorem Tables.insert (tables : Tables state tasks) {key : String} (known : (state.1.peers key).isSome)
    (connection : P2PConnection Addr) (candidates : List ICECandidate) :
    Tables ((state.1.insert key connection).2, state.2)
      (tasks ++ [.connect key connection.peerUserId state.1.nextConnection candidates]) := by
  have placed := tables.placed.insert key connection candidates
  have grown (other : String) (held : (state.1.connections other).isSome) :
      ((state.1.insert key connection).2.connections other).isSome := by
    by_cases same : other = key
    · subst same
      simp [Manager.insert]
    · simpa [Manager.insert, same] using held
  refine ⟨placed.distinct, placed.used, fun id later => tables.fresh id (Nat.le_of_succ_le later),
    fun other id found => ⟨?_, placed.stored other id found⟩, fun other userId id others member => ?_,
    fun other peer found status => grown other (tables.connected other peer found status),
    fun other peer id found stored concluded => ?_⟩
  · rcases insert_stored found with ⟨rfl, rfl⟩ | ⟨-, before⟩
    · exact known
    · exact (tables.stored other id before).1
  · rcases List.mem_append.mp member with old | new
    · exact grown other (tables.held other userId id others old)
    · cases List.mem_singleton.mp new
      simp [Manager.insert]
  · rcases insert_stored stored with ⟨rfl, rfl⟩ | ⟨-, before⟩
    · have open' : state.2 state.1.nextConnection = true := concluded
      rw [tables.fresh _ (Nat.le_refl _)] at open'
      cases open'
    · obtain ⟨-, userId, candidates, member⟩ := tables.stored other id before
      have old : id ≠ state.1.nextConnection :=
        tables.placed.unused (List.mem_filterMap.mpr ⟨_, member, rfl⟩)
      have same : (state.1.insert key connection).2.arena id = state.1.arena id := by
        simp [Manager.insert, old]
      rw [same]
      exact tables.fits other peer id found before concluded

/-- A connect task that concludes in order writes a status that fits the stored connection. -/
theorem Tables.conclude (tables : Tables state tasks) {key userId : String} {id : Nat}
    {candidates : List ICECandidate} (member : .connect key userId id candidates ∈ tasks) {status : PeerStatus}
    (inOrder : (state.1.connections key).all fun stored => stored == id || !state.2 stored)
    (fits : status = .connected ∧ (state.1.arena id).state = .connected ∨
      status = .failed ∧ (state.1.arena id).state ≠ .connected) :
    Tables ({ state.1 with peers := ((PeersSection.setStatus key status).run state.1.peers).2 },
      Function.update state.2 id true) tasks where
  distinct := tables.distinct
  used := tables.used
  fresh other later := by
    have below : id < state.1.nextConnection := tables.used id (List.mem_filterMap.mpr ⟨_, member, rfl⟩)
    have apart : other ≠ id := by
      rintro rfl
      exact absurd below (Nat.not_lt.mpr later)
    change Function.update state.2 id true other = false
    rw [Function.update_of_ne apart]
    exact tables.fresh other later
  stored other stored found := by
    obtain ⟨known, task⟩ := tables.stored other stored found
    refine ⟨?_, task⟩
    by_cases same : other = key
    · subst same
      simpa [PeersSection.run, Peers.modify] using known
    · simpa [PeersSection.run, Peers.modify, same] using known
  held := tables.held
  connected other peer found decided := by
    by_cases same : other = key
    · subst same
      exact tables.held other userId id candidates member
    · have before : state.1.peers other = some peer := by
        simpa [PeersSection.run, Peers.modify, same] using found
      exact tables.connected other peer before decided
  fits other peer stored found connection concluded := by
    by_cases same : other = key
    · subst same
      have written : peer.status = status := by
        simp only [PeersSection.run, Peers.modify, Function.update_self, Option.map_eq_some_iff] at found
        obtain ⟨old, -, rfl⟩ := found
        rfl
      have listed : state.1.connections other = some stored := connection
      rw [listed] at inOrder
      by_cases own : stored = id
      · subst own
        rw [written]
        rcases fits with ⟨rfl, open'⟩ | ⟨rfl, shut⟩
        · exact ⟨fun _ => open', fun impossible => by cases impossible⟩
        · exact ⟨fun impossible => (by cases impossible), fun _ => shut⟩
      · -- the task of the stored connection writes the status later
        have unconcluded : state.2 stored = false := by simpa [own] using inOrder
        change Function.update state.2 id true stored = true at concluded
        rw [Function.update_of_ne own, unconcluded] at concluded
        cases concluded
    · have before : state.1.peers other = some peer := by
        simpa [PeersSection.run, Peers.modify, same] using found
      obtain ⟨-, otherId, others, listed⟩ := tables.stored other stored connection
      have apart : stored ≠ id := by
        rintro rfl
        exact same (tables.placed.unique member listed)
      change Function.update state.2 id true stored = true at concluded
      rw [Function.update_of_ne apart] at concluded
      exact tables.fits other peer stored before connection concluded

/-- An access to a connection changes its state only before its task concludes. -/
theorem Tables.access (tables : Tables state tasks) {id : Nat} {access : ConnectionAccess Addr A}
    (pending : access.writesState = true → state.2 id = false) :
    Tables ({ state.1 with
      arena := Function.update state.1.arena id (access.run (state.1.arena id)).2 }, state.2) tasks where
  distinct := tables.distinct
  used := tables.used
  fresh := tables.fresh
  stored := tables.stored
  held := tables.held
  connected := tables.connected
  fits key peer other found stored concluded := by
    have kept : (Function.update state.1.arena id (access.run (state.1.arena id)).2 other).state =
        (state.1.arena other).state := by
      by_cases same : other = id
      · subst same
        rw [Function.update_self]
        refine access_kept (Bool.eq_false_iff.mpr fun writes => ?_) _
        rw [show state.2 other = true from concluded] at pending
        cases pending writes
      · rw [Function.update_of_ne same]
    rw [kept]
    exact tables.fits key peer other found stored concluded

section
variable [SocketAddr Addr] {config : P2PConfig} {state after : (tablePool Addr config).State}
  {before later : List ManagerTask} {task : ManagerTask}

/-- What one operation of a task leaves to the other ones. -/
def Leaves (config : P2PConfig) (task : ManagerTask) (op : PeerOp Addr A) (value : A)
    (before later : List ManagerTask) (state after : (tablePool Addr config).State) : Prop :=
  Tables after (before ++ task :: later ++ (op.starts value).toList) ∧
    (∀ other ∈ before ++ later, ownRely other state after) ∧
    ∀ new ∈ op.starts value, TableSafe config new (new.body config) after

/-- A task that spawns nothing leaves the tasks as they were. -/
theorem leaves_same {op : PeerOp Addr A} {value : A} (silent : op.starts value = none)
    (tables : Tables after (before ++ task :: later))
    (arena : ∀ other ∈ before ++ later, ∀ id, other.connectionId = some id →
      after.1.arena id = state.1.arena id ∧ after.2 id = state.2 id) :
    Leaves config task op value before later state after := by
  refine ⟨?_, fun other member => ?_, fun new started => ?_⟩
  · rw [silent]
    simpa using tables
  · cases other with
    | connect key userId id candidates => exact arena _ member id rfl
    | _ => trivial
  · rw [silent] at started
    cases started

/-- A step of a connect task keeps the tables. -/
theorem connect_leaves {key userId : String} {id : Nat} {candidates : List ICECandidate} {op : PeerOp Addr A}
    (guarded : tableGuard config (.connect key userId id candidates) op state)
    (tables : Tables state (before ++ .connect key userId id candidates :: later))
    (inOrder : op.inOrder (.connect key userId id candidates) state.1 state.2 = true)
    (choice : PeerChoice Addr) :
    Leaves config (.connect key userId id candidates) op (op.exec choice state.1).1 before later state
      ((op.exec choice state.1).2, writeConcluded (.connect key userId id candidates) op state.2) := by
  have member : .connect key userId id candidates ∈ before ++ .connect key userId id candidates :: later := by
    simp
  have apart (other : ManagerTask) (sibling : other ∈ before ++ later) (number : Nat)
      (found : other.connectionId = some number) : number ≠ id := by
    rintro rfl
    exact others_distinct tables.distinct rfl other sibling found
  cases op with
  | peersLock region =>
      cases region with
      | setStatus written status =>
          obtain ⟨rfl, fits⟩ := guarded
          refine leaves_same rfl (tables.conclude member inOrder fits) fun other sibling number found =>
            ⟨rfl, Function.update_of_ne (apart other sibling number found) _ _⟩
      | _ => exact guarded.elim
  | connectionsInsert => exact guarded.elim
  | connectionLock used access =>
      obtain ⟨rfl, pending⟩ := guarded
      exact leaves_same rfl (tables.access pending) fun other sibling number found =>
        ⟨Function.update_of_ne (apart other sibling number found) _ _, rfl⟩
  | _ => exact leaves_same rfl ⟨tables.distinct, tables.used, tables.fresh, tables.stored, tables.held,
      tables.connected, tables.fits⟩ fun _ _ _ _ => ⟨rfl, rfl⟩

/-- A step of a call keeps the tables. -/
theorem call_leaves (call : task.isCall = true) {op : PeerOp Addr A} (called : op.called)
    (tables : Tables state (before ++ task :: later)) (inOrder : op.inOrder task state.1 state.2 = true)
    (choice : PeerChoice Addr) :
    Leaves config task op (op.exec choice state.1).1 before later state
      ((op.exec choice state.1).2, writeConcluded task op state.2) := by
  have silent : writeConcluded task op state.2 = state.2 := by
    cases task with
    | connect => cases call
    | _ => rfl
  rw [silent]
  cases op with
  | peersLock region =>
      exact leaves_same rfl (tables.call inOrder called) fun _ _ _ _ => ⟨rfl, rfl⟩
  | connectionLock => exact called.elim
  | connectionsInsert key connection candidates =>
      have known : (state.1.peers key).isSome := by
        cases task <;> exact inOrder
      have grown := tables.insert known connection candidates
      refine ⟨grown, fun other sibling => ?_, fun new started => ?_⟩
      · cases other with
        | connect otherKey userId number others =>
            have old : number ≠ state.1.nextConnection := by
              refine Nat.ne_of_lt (tables.used number (List.mem_filterMap.mpr
                ⟨.connect otherKey userId number others, ?_, rfl⟩))
              simp only [List.mem_append, List.mem_cons] at sibling ⊢
              exact sibling.imp id .inr
            exact ⟨Function.update_of_ne old _ _, rfl⟩
        | _ => trivial
      · cases started
        exact connect_safe (tables.fresh _ (Nat.le_refl _))
  | _ => exact leaves_same rfl ⟨tables.distinct, tables.used, tables.fresh, tables.stored, tables.held,
      tables.connected, tables.fits⟩ fun _ _ _ _ => ⟨rfl, rfl⟩

/-- Every run keeps the tables, and its tasks stay safe. -/
theorem tables_safe {first last : (tablePool Addr config).Configuration}
    (reached : Pool.Reaches (orderPromise Addr config) first last) (start : first = ⟨({}, fun _ => false), []⟩) :
    Tables last.state (last.tasks.map Prod.fst) ∧ ∀ entry ∈ last.tasks,
      TableSafe config entry.1 entry.2 last.state := by
  refine Pool.reaches_safe Tables ?_ ?_ reached ?_
  · intro task state tasks call tables
    have silent : task.connectionId = none := by
      cases task with
      | connect => cases call
      | _ => rfl
    have ids : (tasks ++ [task]).filterMap ManagerTask.connectionId = tasks.filterMap ManagerTask.connectionId := by
      simp [silent]
    refine ⟨⟨ids ▸ tables.distinct, ids ▸ tables.used, tables.fresh, fun key id found => ?_,
      fun key userId id candidates member => ?_, tables.connected, tables.fits⟩, call_safe call state⟩
    · obtain ⟨known, userId, candidates, member⟩ := tables.stored key id found
      exact ⟨known, userId, candidates, List.mem_append_left _ member⟩
    · rcases List.mem_append.mp member with old | new
      · exact tables.held key userId id candidates old
      · cases List.mem_singleton.mp new
        cases call
  · intro B before later task op choice state value after tables guarded inOrder answered
    obtain ⟨done, written⟩ := answered_exec answered
    obtain ⟨manager, concluded⟩ := after
    cases written
    have same : op.exec choice state.1 = (value, manager) := done
    have leaves : Leaves config task op (op.exec choice state.1).1 before later state
        ((op.exec choice state.1).2, writeConcluded task op state.2) := by
      cases task with
      | connect => exact connect_leaves guarded tables inOrder choice
      | _ => exact call_leaves rfl guarded tables inOrder choice
    rw [same] at leaves
    exact leaves
  · subst start
    refine ⟨⟨List.nodup_nil, ?_, fun _ _ => rfl, ?_, ?_, ?_, ?_⟩, ?_⟩ <;> simp

/-- In every run that keeps the order, the tables agree whenever no connect task is pending. -/
theorem tables_agree {last : (tablePool Addr config).Configuration}
    (reached : Pool.Reaches (orderPromise Addr config) ⟨({}, fun _ => false), []⟩ last)
    (quiet : Quiet last.tasks) : TablesAgree last.state.1 := by
  obtain ⟨tables, safe⟩ := tables_safe reached rfl
  -- the connect task of a stored connection has finished, and so it has concluded
  have concluded (key : String) (id : Nat) (found : last.state.1.connections key = some id) :
      last.state.2 id = true := by
    obtain ⟨-, userId, candidates, member⟩ := tables.stored key id found
    obtain ⟨⟨task, program⟩, listed, rfl⟩ := List.mem_map.mp member
    have finished : program = .done () := quiet _ _ listed rfl
    exact (safe _ listed).result finished
  refine ⟨fun key id found => (tables.stored key id found).1, fun key peer found status => ?_,
    fun key peer id found status stored => ?_⟩
  · obtain ⟨id, stored⟩ := Option.isSome_iff_exists.mp (tables.connected key peer found status)
    exact ⟨id, stored, (tables.fits key peer id found stored (concluded key id stored)).1 status⟩
  · exact (tables.fits key peer id found stored (concluded key id stored)).2 status

end

/-- Every text is an address. -/
instance textAddr : SocketAddr String := ⟨.ok⟩

/-- There is no server, and an attempt waits for ten seconds. -/
abbrev handoffConfig : P2PConfig := ⟨[], 10⟩

/-- The peer of the concrete runs has this address. -/
abbrev peerAddr : String := "10.0.0.2:8765"

/-- A peer offers one candidate, whose probe is answered, and later calls follow. -/
def handoff (later : List (tablePool String handoffConfig).Input) : (tablePool String handoffConfig).Configuration :=
  Pool.run ⟨({}, fun _ => false), []⟩
    (.call (.handleHandoffInitiate "u" "d" [.lan "a" none]) :: List.replicate 7 (.step 0 {}) ++
      List.replicate 11 (.step 1 { datagram := .received 1 "a" }) ++ later)

/-- A removed peer leaves its connection in the table. -/
theorem tables_agree_fails :
    ¬ ∀ last, Pool.Reaches (callPromise String handoffConfig) ⟨({}, fun _ => false), []⟩ last →
      Quiet last.tasks → TablesAgree last.state.1 := by
  intro agree
  have known := (agree (handoff [.call (.removePeer "u" "d"), .step 2 {}]) (Pool.run_reaches (by decide +kernel))
    (quiet_of_finished (by decide +kernel))).known "u:d" 0 (by decide +kernel)
  exact absurd known (by decide +kernel)

theorem tables_agree_handoff : TablesAgree (handoff []).state.1 :=
  tables_agree (Pool.run_reaches (by decide +kernel)) (quiet_of_finished (by decide +kernel))

end ConstructEngine.P2P
