import ConstructEngine.Proof.Tables

namespace ConstructEngine.P2P

open Interaction Program

variable {Addr A : Type}

/-- A section works under one key. -/
def PeersSection.key : {A : Type} → PeersSection A → String
  | _, .handshake key _ _ => key
  | _, .offer key _ _ _ => key
  | _, .storeCandidates key _ => key
  | _, .setStatus key _ => key
  | _, .candidatesRead key => key
  | _, .setLatency key _ => key
  | _, .remove key => key

/-- A section leaves the peers under other keys alone. -/
theorem PeersSection.frame (region : PeersSection A) (peers : Peers) {key : String} (other : key ≠ region.key) :
    (region.run peers).2 key = peers key := by
  have modified (change : PeerInfo → PeerInfo) : peers.modify region.key change key = peers key :=
    Function.update_of_ne other _ _
  cases region with
  | handshake => exact Function.update_of_ne other _ _
  | offer => exact Function.update_of_ne other _ _
  | storeCandidates => exact modified _
  | setStatus => exact modified _
  | candidatesRead => rfl
  | setLatency => exact modified _
  | remove => exact Function.update_of_ne other _ _

/-- This is what one pair of a user and a device sees of the manager. -/
structure PeerView (Addr : Type) where
  status : Option PeerStatus
  candidates : List ICECandidate
  stored : Option Nat
  connection : Option (P2PConnection Addr)

/-- The status, the candidates and the stored connection are read under the key of the pair. -/
def Manager.peerView (manager : Manager Addr) (userId deviceId : String) : PeerView Addr :=
  let key := peerKey userId deviceId
  { status := getPeerStatus manager userId deviceId
    candidates := ((PeersSection.candidatesRead key).run manager.peers).1
    stored := manager.connections key
    connection := (manager.connections key).map manager.arena }

/-- The task is a call for this pair, or the connect task of its attempt. -/
def ManagerTask.IsFor (userId deviceId : String) : ManagerTask → Prop
  | .initiateHandoff user device => user = userId ∧ device = deviceId
  | .handleHandoffInitiate user device _ => user = userId ∧ device = deviceId
  | .handleHandoffAck user device _ => user = userId ∧ device = deviceId
  | .removePeer user device => user = userId ∧ device = deviceId
  | .updatePeerLatency user device _ => user = userId ∧ device = deviceId
  | .connect key _ _ _ => key = peerKey userId deviceId

/-- A task works under one key. -/
def ManagerTask.key : ManagerTask → String
  | .initiateHandoff user device => peerKey user device
  | .handleHandoffInitiate user device _ => peerKey user device
  | .handleHandoffAck user device _ => peerKey user device
  | .removePeer user device => peerKey user device
  | .updatePeerLatency user device _ => peerKey user device
  | .connect key _ _ _ => key

/-- A task of the pair works under its key. -/
theorem ManagerTask.IsFor.key_eq {userId deviceId : String} {task : ManagerTask}
    (own : task.IsFor userId deviceId) : task.key = peerKey userId deviceId := by
  cases task with
  | connect => exact own
  | _ =>
      obtain ⟨rfl, rfl⟩ := own
      rfl

/-- The task touches the tables under its own key only, and only its own connection. -/
def PeerOp.within (task : ManagerTask) : {A : Type} → PeerOp Addr A → Prop
  | _, .peersLock region => region.key = task.key
  | _, .connectionsInsert key _ _ => key = task.key
  | _, .connectionLock id _ => task.connectionId = some id
  | _, _ => True

/-- What touches no table stays within any task. -/
theorem within_of_outside (task : ManagerTask) {op : PeerOp Addr A} (outside : op.outside = true) :
    op.within task := by
  cases op <;> trivial

section
variable [SocketAddr Addr] (config : P2PConfig)

omit [SocketAddr Addr] in
/-- An attempt works under the key of its peer. -/
theorem attemptConnection_within {task : ManagerTask} {userId deviceId : String}
    (own : task.key = peerKey userId deviceId) :
    (attemptConnection config userId deviceId : PeerM Addr Unit).Uses fun op => op.within task := by
  unfold attemptConnection
  refine uses_bind (uses_perform own.symm) fun _ => uses_bind (uses_perform own.symm) fun candidates => ?_
  split
  · exact uses_pure ()
  · exact uses_bind (uses_perform own.symm) fun _ => uses_pure ()

section
variable {task : ManagerTask} {id : Nat} (own : task.connectionId = some id)
include own

omit [SocketAddr Addr] in
/-- What keeps the state of its connection stays within the connect task. -/
theorem within_of_keepsState {op : PeerOp Addr A} (keeps : op.keepsState id) : op.within task := by
  cases op with
  | connectionLock used access =>
      obtain ⟨rfl, -⟩ := keeps
      exact own
  | peersLock => cases keeps
  | connectionsInsert => cases keeps
  | _ => trivial

/-- The connect task uses its own connection alone. -/
theorem connect_within (candidates : List ICECandidate) :
    (connect id candidates : PeerM Addr _).Uses fun op => op.within task := by
  have tried (rest : List ICECandidate) :
      (tryCandidates id rest : PeerM Addr _).Uses fun op => op.within task := by
    induction rest with
    | nil => exact uses_bind (uses_perform own) fun _ => uses_pure _
    | cons candidate rest inductionHypothesis =>
        refine uses_bind ((tryConnectToCandidate_keeps id candidate).mono fun _ =>
          within_of_keepsState own) fun answer => ?_
        rcases answer with message | ⟨⟩
        · exact inductionHypothesis
        · exact uses_bind (uses_perform own) fun _ => uses_pure _
  exact uses_bind (uses_perform own) fun _ => tried (sortedCandidates candidates)

end

/-- No task leaves its own key. -/
theorem body_within (task : ManagerTask) : (task.body config : PeerM Addr Unit).Uses fun op => op.within task := by
  have gathers : (gatherLocalCandidates config : PeerM Addr _).Uses fun op => op.within task :=
    (gatherLocalCandidates_outside config).mono fun op outside => within_of_outside task outside
  cases task with
  | initiateHandoff =>
      exact uses_bind (uses_perform rfl) fun _ => uses_bind (uses_perform trivial) fun _ =>
        uses_bind gathers fun _ => uses_perform trivial
  | handleHandoffInitiate =>
      exact uses_bind (uses_perform rfl) fun _ => uses_bind gathers fun _ =>
        uses_bind (uses_perform trivial) fun _ => attemptConnection_within config rfl
  | handleHandoffAck =>
      exact uses_bind (uses_perform rfl) fun _ => attemptConnection_within config rfl
  | removePeer => exact uses_perform rfl
  | updatePeerLatency => exact uses_perform rfl
  | connect =>
      refine uses_bind (connect_within rfl _) fun answer => ?_
      rcases answer with message | ⟨⟩
      · exact uses_bind (uses_perform rfl) fun _ => uses_bind (uses_perform trivial) fun _ =>
          uses_perform trivial
      · refine uses_bind (uses_perform trivial) fun _ => uses_bind (uses_perform rfl) fun _ =>
          uses_bind ((measureRtt_keeps _).mono fun _ => within_of_keepsState rfl) fun rtt => ?_
        cases rtt with
        | none => exact uses_pure _
        | some rtt => exact uses_perform trivial

end

section
variable [SocketAddr Addr] {config : P2PConfig}

/-- The platform makes calls, and only attempts start connect tasks. -/
def platformPromise (Addr : Type) [SocketAddr Addr] (config : P2PConfig) :
    (managerPool Addr config).Promise where
  calls task _ := task.isCall = true
  answers _ _ _ _ := True

omit [SocketAddr Addr] in
/-- A step keeps the connections of the tasks apart. -/
theorem placed_step {manager : Manager Addr} {before later : List ManagerTask} {task : ManagerTask}
    (placed : Placed manager (before ++ task :: later)) (op : PeerOp Addr A) (choice : PeerChoice Addr) :
    Placed (op.exec choice manager).2
      (before ++ task :: later ++ (op.starts (op.exec choice manager).1).toList) := by
  cases op with
  | connectionsInsert key connection candidates => exact placed.insert key connection candidates
  | _ =>
      rw [show Option.toList _ = [] from rfl, List.append_nil]
      exact ⟨placed.distinct, placed.used, placed.stored⟩

/-- The other tasks may do anything to the tables. -/
def anyRely (config : P2PConfig) (_ : ManagerTask) (_ _ : (managerPool Addr config).State) : Prop := True

/-- Every operation of the task stays within it. -/
abbrev WithinSafe (config : P2PConfig) (task : ManagerTask) (program : PeerM Addr Unit)
    (manager : Manager Addr) : Prop :=
  Pool.Safe (anyRely config) (platformPromise Addr config) (fun task {_} op _ => op.within task)
    (fun _ _ => True) task program manager

/-- Whatever a task does, it does under its own key and on its own connection. -/
theorem body_safe (task : ManagerTask) (manager : Manager Addr) :
    WithinSafe config task (task.body config) manager :=
  Machine.holds_of_uses (fun _ => True) Machine.stable_true (fun _ _ within _ => within)
    (fun _ _ _ _ _ _ _ _ _ => trivial) (body_within config task) trivial

/-- In every run, the stored connections have their tasks and no task leaves its own key. -/
theorem tasks_within {last : (managerPool Addr config).Configuration}
    (reached : Pool.Reaches (platformPromise Addr config) ⟨{}, []⟩ last) :
    Placed last.state (last.tasks.map Prod.fst) ∧ ∀ entry ∈ last.tasks,
      WithinSafe config entry.1 entry.2 last.state := by
  refine Pool.reaches_safe Placed ?_ ?_ reached ?_
  · intro task state tasks call placed
    have silent : task.connectionId = none := by
      cases task with
      | connect => cases call
      | _ => rfl
    have ids : (tasks ++ [task]).filterMap ManagerTask.connectionId = tasks.filterMap ManagerTask.connectionId := by
      simp [silent]
    refine ⟨⟨ids ▸ placed.distinct, ids ▸ placed.used, fun key id found => ?_⟩, body_safe task state⟩
    obtain ⟨userId, candidates, member⟩ := placed.stored key id found
    exact ⟨userId, candidates, List.mem_append_left _ member⟩
  · intro B before later task op choice state value after placed _ _ answered
    have same : op.exec choice state = (value, after) := Option.some.inj answered
    have grown := placed_step placed op choice
    rw [same] at grown
    exact ⟨grown, fun _ _ => trivial, fun new _ => body_safe new after⟩
  · exact ⟨⟨List.nodup_nil, by simp, by simp⟩, by simp⟩

omit [SocketAddr Addr] in
/-- The view depends on the entries under its key. -/
theorem peerView_congr {manager after : Manager Addr} {userId deviceId : String}
    (peers : after.peers (peerKey userId deviceId) = manager.peers (peerKey userId deviceId))
    (connections : after.connections (peerKey userId deviceId) = manager.connections (peerKey userId deviceId))
    (arena : ∀ id, manager.connections (peerKey userId deviceId) = some id → after.arena id = manager.arena id) :
    after.peerView userId deviceId = manager.peerView userId deviceId := by
  have connection : (manager.connections (peerKey userId deviceId)).map after.arena =
      (manager.connections (peerKey userId deviceId)).map manager.arena := Option.map_congr arena
  simp only [Manager.peerView, getPeerStatus, PeersSection.run, peers, connections, connection]

omit [SocketAddr Addr] in
/-- One operation of a task leaves what another key sees. -/
theorem exec_peerView {manager : Manager Addr} {tasks : List ManagerTask} (placed : Placed manager tasks)
    {task : ManagerTask} (member : task ∈ tasks) {op : PeerOp Addr A} (within : op.within task)
    (choice : PeerChoice Addr) {userId deviceId : String} (other : peerKey userId deviceId ≠ task.key) :
    (op.exec choice manager).2.peerView userId deviceId = manager.peerView userId deviceId := by
  cases op with
  | peersLock region =>
      have own : region.key = task.key := within
      exact peerView_congr (region.frame manager.peers (own ▸ other)) rfl fun _ _ => rfl
  | connectionsInsert key connection candidates =>
      have own : key = task.key := within
      refine peerView_congr rfl (Function.update_of_ne (own ▸ other) _ _) fun id found => ?_
      obtain ⟨user, others, listed⟩ := placed.stored _ id found
      exact Function.update_of_ne (placed.unused (List.mem_filterMap.mpr ⟨_, listed, rfl⟩)) _ _
  | connectionLock used access =>
      refine peerView_congr rfl rfl fun id found => Function.update_of_ne ?_ _ _
      obtain ⟨user, others, listed⟩ := placed.stored _ id found
      rintro rfl
      -- the connection of the task is stored under the key of the task
      cases task with
      | connect key peer number candidates =>
          cases Option.some.inj within
          exact other (placed.unique member listed)
      | _ => cases within
  | _ => rfl

end

/-- Whatever a task for the first pair does in any run, the second pair sees nothing of it. -/
def LeavesAlone (Addr : Type) [SocketAddr Addr] (config : P2PConfig) (first second : String × String) : Prop :=
  ∀ (manager : Manager Addr) (before later : List (ManagerTask × PeerM Addr Unit)) (task : ManagerTask)
    (B : Type) (op : PeerOp Addr B) (next : B → PeerM Addr Unit),
    Pool.Reaches (platformPromise Addr config) ⟨{}, []⟩ ⟨manager, before ++ (task, .ask op next) :: later⟩ →
      task.IsFor first.1 first.2 → ∀ choice : PeerChoice Addr,
        (op.exec choice manager).2.peerView second.1 second.2 = manager.peerView second.1 second.2

/-- The peers are told apart exactly where their keys are. -/
theorem leavesAlone_iff [SocketAddr Addr] (config : P2PConfig) (first second : String × String) :
    LeavesAlone Addr config first second ↔ peerKey first.1 first.2 ≠ peerKey second.1 second.2 := by
  constructor
  · intro alone same
    have reached : Pool.Reaches (platformPromise Addr config) ⟨{}, []⟩ ⟨{}, [] ++
        [(ManagerTask.initiateHandoff first.1 first.2, initiateHandoff config first.1 first.2)]⟩ :=
      .single (.call (ManagerTask.initiateHandoff first.1 first.2) rfl)
    have kept := congrArg PeerView.status (alone {} [] [] (ManagerTask.initiateHandoff first.1 first.2) Unit
      (.peersLock (.handshake (peerKey first.1 first.2) first.1 first.2)) _ reached ⟨rfl, rfl⟩ {})
    simp [Manager.peerView, getPeerStatus, PeerOp.exec, PeersSection.run, same] at kept
  · intro apart manager before later task B op next reached own choice
    obtain ⟨placed, safe⟩ := tasks_within reached
    have within : op.within task := (safe (task, .ask op next) (by simp) _ _ Relation.ReflTransGen.refl).1 _ _ _ rfl
    refine exec_peerView placed ?_ within choice ?_
    · simp
    · rw [own.key_eq]
      exact apart.symm

/-- A colon in an identifier moves the border between the user and the device. -/
theorem leavesAlone_fails : ¬ ∀ first second : String × String, first ≠ second →
    LeavesAlone String handoffConfig first second := by
  intro alone
  have apart := (leavesAlone_iff handoffConfig ("a:b", "c") ("a", "b:c")).mp (alone _ _ (by decide))
  exact apart (by decide)

end ConstructEngine.P2P
