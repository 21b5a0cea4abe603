import ConstructEngine.Proof.PeerFrame

namespace ConstructEngine.P2P

open Interaction Program

variable {Addr A : Type}

/-- The notes say which candidates were announced for a peer, for which peer a connection was stored,
and where the datagrams of a peer went. -/
structure Contacts (Addr : Type) where
  announced : List (String × ICECandidate) := []
  owner : Nat → String := fun _ => ""
  contacted : List (String × Addr) := []

/-- A section that stores candidates announces them. -/
def PeersSection.announces : {A : Type} → PeersSection A → List (String × ICECandidate)
  | _, .offer key _ _ candidates => candidates.map (key, ·)
  | _, .storeCandidates key candidates => candidates.map (key, ·)
  | _, _ => []

/-- The note follows the announcements, the stored connections, the probes and the datagrams. -/
def writeContacts : {A : Type} → ManagerTask → PeerOp Addr A → A → Contacts Addr → Contacts Addr
  | _, _, .peersLock region, _, contacts =>
      { contacts with announced := contacts.announced ++ region.announces }
  | _, _, .connectionsInsert key _ _, id, contacts =>
      { contacts with owner := Function.update contacts.owner id key }
  | _, task, .sendProbe _ addr, _, contacts =>
      { contacts with contacted := contacts.contacted ++ [(task.key, addr)] }
  | _, task, .sendData _ addr _, _, contacts =>
      { contacts with contacted := contacts.contacted ++ [(task.key, addr)] }
  | _, _, _, _, contacts => contacts

section
variable [SocketAddr Addr] {config : P2PConfig}

/-- Some announced candidate of the peer has this address. -/
def Contacts.Vouches (contacts : Contacts Addr) (key : String) (addr : Addr) : Prop :=
  ∃ candidate, (key, candidate) ∈ contacts.announced ∧ SocketAddr.parse candidate.address = .ok addr

/-- These are the tasks of the manager with the note next to its state. -/
abbrev contactPool (Addr : Type) [SocketAddr Addr] (config : P2PConfig) :
    Pool (PeerOp Addr) ManagerTask :=
  (managerPool Addr config).monitored fun task op _ value contacts => writeContacts task op value contacts

/-- The platform makes its calls, and the network answers as it likes. -/
def contactPromise (Addr : Type) [SocketAddr Addr] (config : P2PConfig) :
    (contactPool Addr config).Promise where
  calls task _ := task.isCall = true
  answers _ _ _ _ := True

/-- Every stored candidate was announced under its key. -/
def Listed (peers : Peers) (announced : List (String × ICECandidate)) : Prop :=
  ∀ key peer, peers key = some peer → ∀ candidate ∈ peer.candidates, (key, candidate) ∈ announced

/-- The tables hold only announced candidates, a connection knows only an announced address, and
datagrams went only to announced addresses. -/
structure Vouched (manager : Manager Addr) (contacts : Contacts Addr) : Prop where
  peers : Listed manager.peers contacts.announced
  linked : ∀ id addr, (manager.arena id).remoteAddr = some addr → contacts.Vouches (contacts.owner id) addr
  contacted : ∀ key addr, (key, addr) ∈ contacts.contacted → contacts.Vouches key addr

/-- A task writes only announced addresses and candidates, and sends only to announced addresses. -/
def contactGuard (config : P2PConfig) (task : ManagerTask) {A : Type} (op : PeerOp Addr A)
    (state : (contactPool Addr config).State) : Prop :=
  match op with
  | .sendProbe _ addr => state.2.Vouches task.key addr
  | .sendData _ addr _ => state.2.Vouches task.key addr
  | .connectionLock id (.remoteAddrWrite (some addr)) => state.2.Vouches (state.2.owner id) addr
  | .connectionsInsert key connection candidates => connection.remoteAddr = none ∧
      ∀ candidate ∈ candidates, (key, candidate) ∈ state.2.announced
  | _ => True

/-- Announcements and owners stay, and so does what the tables vouch for. -/
structure Grown (before after : (contactPool Addr config).State) : Prop where
  announced : before.2.announced ⊆ after.2.announced
  next : before.1.nextConnection ≤ after.1.nextConnection
  owner : ∀ id < before.1.nextConnection, after.2.owner id = before.2.owner id
  vouched : Vouched before.1 before.2 → Vouched after.1 after.2

/-- What was announced stays so. -/
theorem Contacts.Vouches.mono {before after : Contacts Addr} (grown : before.announced ⊆ after.announced)
    {key : String} {addr : Addr} (vouches : before.Vouches key addr) : after.Vouches key addr := by
  obtain ⟨candidate, member, parsed⟩ := vouches
  exact ⟨candidate, grown member, parsed⟩

/-- A section stores only the candidates that it announces. -/
theorem Listed.updated {peers : Peers} {announced : List (String × ICECandidate)}
    (listed : Listed peers announced) (region : PeersSection A) :
    Listed (region.run peers).2 (announced ++ region.announces) := by
  have kept (key : String) (peer : PeerInfo) (found : peers key = some peer) (candidate : ICECandidate)
      (member : candidate ∈ peer.candidates) : (key, candidate) ∈ announced ++ region.announces :=
    List.mem_append_left _ (listed key peer found candidate member)
  have modified (written : String) (change : PeerInfo → PeerInfo)
      (fresh : ∀ peer candidate, candidate ∈ (change peer).candidates → candidate ∈ peer.candidates ∨
        (written, candidate) ∈ region.announces) :
      Listed (peers.modify written change) (announced ++ region.announces) := by
    intro key peer found candidate member
    by_cases same : key = written
    · subst same
      rw [Peers.modify, Function.update_self] at found
      obtain ⟨old, before, rfl⟩ := Option.map_eq_some_iff.mp found
      rcases fresh old candidate member with stored | new
      · exact kept key old before candidate stored
      · exact List.mem_append_right _ new
    · rw [Peers.modify, Function.update_of_ne same] at found
      exact kept key peer found candidate member
  have replaced (written : String) (new : PeerInfo)
      (fresh : ∀ candidate ∈ new.candidates, (written, candidate) ∈ announced ++ region.announces) :
      Listed (Function.update peers written (some new)) (announced ++ region.announces) := by
    intro key peer found candidate member
    by_cases same : key = written
    · subst same
      rw [Function.update_self] at found
      cases found
      exact fresh candidate member
    · rw [Function.update_of_ne same] at found
      exact kept key peer found candidate member
  cases region with
  | handshake written userId deviceId =>
      refine replaced written _ fun candidate member => ?_
      split at member
      next peer found => exact kept written peer found candidate member
      next => cases member
  | offer written userId deviceId candidates =>
      refine replaced written _ fun candidate member => List.mem_append_right _ ?_
      split at member
      · exact List.mem_map_of_mem member
      · exact List.mem_map_of_mem member
  | storeCandidates written candidates =>
      exact modified written _ fun peer candidate member => .inr (List.mem_map_of_mem member)
  | setStatus written status => exact modified written _ fun _ _ member => .inl member
  | candidatesRead => exact kept
  | setLatency written latencyMs => exact modified written _ fun _ _ member => .inl member
  | remove written =>
      intro key peer found candidate member
      by_cases same : key = written
      · subst same
        simp [PeersSection.run] at found
      · simp only [PeersSection.run, Function.update_of_ne same] at found
        exact kept key peer found candidate member

/-- A candidate that is read was announced. -/
theorem Listed.read {peers : Peers} {announced : List (String × ICECandidate)} (listed : Listed peers announced)
    {key : String} {candidate : ICECandidate}
    (member : candidate ∈ ((PeersSection.candidatesRead key).run peers).1) : (key, candidate) ∈ announced := by
  change candidate ∈ ((peers key).map PeerInfo.candidates).getD [] at member
  cases found : peers key with
  | none =>
      rw [found] at member
      cases member
  | some peer =>
      rw [found] at member
      exact listed key peer found candidate member

/-- An operation acts on the manager, and the note follows it. -/
theorem contact_exec {task : ManagerTask} {op : PeerOp Addr A} {choice : PeerChoice Addr}
    {state after : (contactPool Addr config).State} {value : A}
    (answered : (contactPool Addr config).exec task op choice state = some (value, after)) :
    op.exec choice state.1 = (value, after.1) ∧ after.2 = writeContacts task op value state.2 := by
  obtain ⟨done, written⟩ := Pool.monitored_exec answered
  exact ⟨Option.some.inj done, written⟩

/-- One more contact keeps the notes, when its address is announced. -/
theorem Vouched.contact {manager : Manager Addr} {contacts : Contacts Addr} (vouched : Vouched manager contacts)
    {key : String} {addr : Addr} (announced : contacts.Vouches key addr) :
    Vouched manager { contacts with contacted := contacts.contacted ++ [(key, addr)] } where
  peers := vouched.peers
  linked := vouched.linked
  contacted other target member := by
    rcases List.mem_append.mp member with old | new
    · exact vouched.contacted other target old
    · cases List.mem_singleton.mp new
      exact announced

/-- Every guarded operation keeps what the tables vouch for. -/
theorem exec_grown {task : ManagerTask} {op : PeerOp Addr A} {choice : PeerChoice Addr}
    {state after : (contactPool Addr config).State} {value : A} (guarded : contactGuard config task op state)
    (answered : (contactPool Addr config).exec task op choice state = some (value, after)) :
    Grown state after := by
  obtain ⟨done, written⟩ := contact_exec answered
  obtain ⟨manager, contacts⟩ := state
  obtain ⟨last, notes⟩ := after
  dsimp only at done written
  subst written
  cases op with
  | peersLock region =>
      have announced : contacts.announced ⊆ contacts.announced ++ region.announces :=
        List.subset_append_left _ _
      cases done
      refine ⟨announced, Nat.le_refl _, fun _ _ => rfl, fun vouched =>
        ⟨vouched.peers.updated region, ?_, ?_⟩⟩
      · exact fun id addr known => (vouched.linked id addr known).mono announced
      · exact fun key addr member => (vouched.contacted key addr member).mono announced
  | connectionsInsert key connection candidates =>
      cases done
      have other {id : Nat} (old : id ≠ manager.nextConnection) :
          Function.update contacts.owner manager.nextConnection key id = contacts.owner id :=
        Function.update_of_ne old _ _
      refine ⟨List.Subset.refl _, Nat.le_succ _, fun id old => other (Nat.ne_of_lt old), fun vouched =>
        ⟨vouched.peers, fun id addr known => ?_, vouched.contacted⟩⟩
      change (Function.update manager.arena manager.nextConnection connection id).remoteAddr = some addr at known
      by_cases fresh : id = manager.nextConnection
      · rw [fresh, Function.update_self, guarded.1] at known
        cases known
      · rw [Function.update_of_ne fresh] at known
        change contacts.Vouches (Function.update contacts.owner manager.nextConnection key id) addr
        rw [other fresh]
        exact vouched.linked id addr known
  | connectionLock id access =>
      cases done
      refine ⟨List.Subset.refl _, Nat.le_refl _, fun _ _ => rfl, fun vouched =>
        ⟨vouched.peers, fun number addr known => ?_, vouched.contacted⟩⟩
      change (Function.update manager.arena id (access.run (manager.arena id)).2 number).remoteAddr =
        some addr at known
      change contacts.Vouches (contacts.owner number) addr
      by_cases same : number = id
      · subst same
        rw [Function.update_self] at known
        cases access with
        | remoteAddrWrite remoteAddr =>
            change remoteAddr = some addr at known
            subst known
            exact guarded
        | _ => exact vouched.linked number addr known
      · rw [Function.update_of_ne same] at known
        exact vouched.linked number addr known
  | sendProbe id addr =>
      cases done
      exact ⟨List.Subset.refl _, Nat.le_refl _, fun _ _ => rfl, fun vouched => vouched.contact guarded⟩
  | sendData id addr data =>
      cases done
      exact ⟨List.Subset.refl _, Nat.le_refl _, fun _ _ => rfl, fun vouched => vouched.contact guarded⟩
  | _ =>
      cases done
      exact ⟨List.Subset.refl _, Nat.le_refl _, fun _ _ => rfl, fun vouched =>
        ⟨vouched.peers, vouched.linked, vouched.contacted⟩⟩

/-- The other tasks only add to the notes and keep what the tables vouch for. -/
abbrev contactRely (_ : ManagerTask) (before after : (contactPool Addr config).State) : Prop := Grown before after

/-- An assertion is preserved when it holds of all grown notes. -/
def Preserved (assertion : (contactPool Addr config).State → Prop) : Prop :=
  ∀ before after, Grown before after → assertion before → assertion after

/-- All these candidates were announced for the peer. -/
def AllAnnounced (config : P2PConfig) (key : String) (candidates : List ICECandidate)
    (state : (contactPool Addr config).State) : Prop :=
  ∀ candidate ∈ candidates, (key, candidate) ∈ state.2.announced

/-- Other tasks only announce more. -/
theorem allAnnounced_preserved (key : String) (candidates : List ICECandidate) :
    Preserved (AllAnnounced config key candidates : (contactPool Addr config).State → Prop) :=
  fun _ _ grown now candidate member => grown.announced (now candidate member)

/-- Every address in the manager was announced. -/
abbrev AllVouched (config : P2PConfig) (state : (contactPool Addr config).State) : Prop :=
  Vouched state.1 state.2

/-- Other tasks keep it so. -/
theorem vouched_preserved : Preserved (AllVouched config : (contactPool Addr config).State → Prop) :=
  fun _ _ grown now => grown.vouched now

/-- The task contacts only announced addresses, whatever the other tasks do. -/
abbrev ContactHolds (config : P2PConfig) (task : ManagerTask) (program : PeerM Addr A)
    (result : A → (contactPool Addr config).State → Prop) (state : (contactPool Addr config).State) : Prop :=
  Machine.Holds ((contactPromise Addr config).view contactRely task) (contactGuard config task) program
    result state

/-- The program keeps this and contacts only announced addresses. -/
abbrev ContactKeeps (config : P2PConfig) (task : ManagerTask)
    (assertion : (contactPool Addr config).State → Prop) (program : PeerM Addr A) : Prop :=
  Machine.Keeps ((contactPromise Addr config).view contactRely task) (contactGuard config task) assertion program

section
variable {task : ManagerTask} {assertion : (contactPool Addr config).State → Prop}

/-- What every operation keeps, the other tasks keep. -/
theorem Preserved.stable (preserved : Preserved assertion) :
    Machine.Stable ((contactPromise Addr config).view contactRely task) assertion :=
  fun _ _ _ now _ moved => preserved _ _ (Pool.view_move contactRely moved) now

/-- A guarded operation keeps what is preserved, and the task can learn from its answer. -/
theorem contact_perform {op : PeerOp Addr A} {fact : A → (contactPool Addr config).State → Prop}
    (preserved : Preserved assertion) (guarded : ∀ state, assertion state → contactGuard config task op state)
    (facts : ∀ value, Preserved (fact value))
    (learnt : ∀ state choice value after, assertion state →
      (contactPool Addr config).exec task op choice state = some (value, after) → fact value after)
    {state : (contactPool Addr config).State} (now : assertion state) :
    ContactHolds config task (perform op) (fun value after => assertion after ∧ fact value after) state := by
  have stable (value : A) : Machine.Stable ((contactPromise Addr config).view contactRely task)
      fun state => assertion state ∧ fact value state := fun _ _ _ now _ moved =>
    have grown := Pool.view_move contactRely moved
    ⟨preserved _ _ grown now.1, facts value _ _ grown now.2⟩
  refine Machine.holds_ask assertion preserved.stable guarded (fun state choice value after now _ answered =>
    Machine.holds_done (stable value) ?_) now
  have grown := exec_grown (guarded state now) answered
  exact ⟨preserved _ _ grown now, learnt state choice value after now answered⟩

/-- An operation whose guard holds keeps what every operation keeps. -/
theorem contact_keeps {op : PeerOp Addr A} (preserved : Preserved assertion)
    (guarded : ∀ state, assertion state → contactGuard config task op state) :
    ContactKeeps config task assertion (perform op) := fun _ now =>
  (contact_perform preserved guarded (fun _ _ _ _ now => now) (fun _ _ _ _ _ _ => trivial) now).weaken
    fun _ _ kept => kept.1

/-- These operations need no announcement. -/
def PeerOp.unguarded : {A : Type} → PeerOp Addr A → Prop
  | _, .sendProbe .. => False
  | _, .sendData .. => False
  | _, .connectionLock _ (.remoteAddrWrite _) => False
  | _, .connectionsInsert .. => False
  | _, _ => True

/-- Operations that contact nobody are free. -/
theorem unguarded_keeps {program : PeerM Addr A} (preserved : Preserved assertion)
    (uses : program.Uses fun op => op.unguarded) : ContactKeeps config task assertion program := by
  refine Machine.keeps_of_uses preserved.stable (fun op free => contact_keeps preserved fun _ _ => ?_) uses
  cases op with
  | sendProbe => exact free.elim
  | sendData => exact free.elim
  | connectionsInsert => exact free.elim
  | connectionLock id access =>
      cases access with
      | remoteAddrWrite => exact free.elim
      | _ => trivial
  | _ => trivial

/-- An attempt stores the candidates that it reads, and these were announced. -/
theorem attemptConnection_keeps (userId deviceId : String) :
    ContactKeeps config task (AllVouched config) (attemptConnection config userId deviceId : PeerM Addr Unit) := by
  unfold attemptConnection
  refine Machine.keeps_bind (contact_keeps vouched_preserved fun _ _ => by trivial) fun _ state now => ?_
  refine Machine.holds_bind (contact_perform vouched_preserved (fun _ _ => by trivial)
    (allAnnounced_preserved (peerKey userId deviceId)) ?read now) fun candidates state known => ?_
  case read =>
    intro state choice candidates after now answered candidate member
    obtain ⟨done, written⟩ := contact_exec answered
    rw [written]
    refine List.mem_append_left _ (now.peers.read ?_)
    rw [show candidates = _ from (congrArg Prod.fst done).symm] at member
    exact member
  split
  · exact Machine.holds_done vouched_preserved.stable known.1
  · have insert : ContactKeeps config task (fun state => AllVouched config state ∧
        AllAnnounced config (peerKey userId deviceId) candidates state)
        (perform (.connectionsInsert (peerKey userId deviceId) (.new userId deviceId config.p2pTimeoutSecs)
          candidates) : PeerM Addr Nat) := by
      refine contact_keeps (fun _ _ grown now => ⟨grown.vouched now.1, ?_⟩) fun _ now => ⟨rfl, now.2⟩
      exact allAnnounced_preserved _ _ _ _ grown now.2
    exact Machine.holds_bind (insert state known) fun _ state kept =>
      Machine.holds_done vouched_preserved.stable kept.1

/-- To gather the own candidates sends nothing to a peer. -/
theorem gatherLocalCandidates_keeps :
    ContactKeeps config task (AllVouched config) (gatherLocalCandidates config : PeerM Addr _) := by
  refine unguarded_keeps vouched_preserved ((gatherLocalCandidates_gathers config).mono fun op gathers => ?_)
  cases op with
  | sendProbe => exact gathers
  | sendData => exact gathers
  | connectionsInsert => exact gathers
  | connectionLock => exact gathers.elim
  | _ => trivial

/-- A call stores and connects only what was announced. -/
theorem call_keeps (call : task.isCall = true) :
    ContactKeeps config task (AllVouched config) (task.body config : PeerM Addr Unit) := by
  have one {A : Type} {op : PeerOp Addr A} (free : op.unguarded) : ContactKeeps config task (AllVouched config)
      (perform op) := unguarded_keeps vouched_preserved (uses_perform free)
  cases task with
  | initiateHandoff userId deviceId =>
      exact Machine.keeps_bind (one trivial) fun _ => Machine.keeps_bind (one trivial) fun _ =>
        Machine.keeps_bind gatherLocalCandidates_keeps fun _ => one trivial
  | handleHandoffInitiate userId deviceId candidates =>
      exact Machine.keeps_bind (one trivial) fun _ => Machine.keeps_bind gatherLocalCandidates_keeps fun _ =>
        Machine.keeps_bind (one trivial) fun _ => attemptConnection_keeps userId deviceId
  | handleHandoffAck userId deviceId candidates =>
      exact Machine.keeps_bind (one trivial) fun _ => attemptConnection_keeps userId deviceId
  | removePeer => exact one trivial
  | updatePeerLatency => exact one trivial
  | connect => cases call

end

/-- The connection of a connect task is stored for its peer, and all its candidates were announced. -/
structure Connecting (config : P2PConfig) (key : String) (id : Nat) (candidates : List ICECandidate)
    (state : (contactPool Addr config).State) : Prop where
  vouched : AllVouched config state
  owner : state.2.owner id = key
  used : id < state.1.nextConnection
  announced : AllAnnounced config key candidates state

section
variable {key userId : String} {id : Nat} {candidates : List ICECandidate}

/-- Other tasks leave the connection with its announced candidates. -/
theorem connecting_preserved :
    Preserved (Connecting config key id candidates : (contactPool Addr config).State → Prop) :=
  fun _ _ grown now => ⟨grown.vouched now.vouched, (grown.owner id now.used).trans now.owner,
    Nat.lt_of_lt_of_le now.used grown.next, allAnnounced_preserved key candidates _ _ grown now.announced⟩

/-- A piece of the connect task contacts only announced addresses. -/
abbrev ConnectKeeps (config : P2PConfig) (key userId : String) (id : Nat) (candidates : List ICECandidate)
    (program : PeerM Addr A) : Prop :=
  ContactKeeps config (.connect key userId id candidates) (Connecting config key id candidates) program

/-- An operation that contacts nobody is a piece of the connect task. -/
theorem connect_op {op : PeerOp Addr A} (free : op.unguarded) :
    ConnectKeeps config key userId id candidates (perform op) :=
  unguarded_keeps connecting_preserved (uses_perform free)

/-- To answer is to contact nobody. -/
theorem connect_pure (value : A) : ConnectKeeps config key userId id candidates (pure value : PeerM Addr A) :=
  Machine.keeps_done connecting_preserved.stable value

/-- A probe goes to the address of a candidate, and an answer makes it the remote address. -/
theorem tryConnectToCandidate_contacts {candidate : ICECandidate} (member : candidate ∈ candidates) :
    ConnectKeeps config key userId id candidates (tryConnectToCandidate id candidate : PeerM Addr _) := by
  unfold tryConnectToCandidate
  split
  · exact connect_pure _
  next addr parsed =>
  have vouches (state : (contactPool Addr config).State) (now : Connecting config key id candidates state) :
      state.2.Vouches key addr := ⟨candidate, now.announced candidate member, parsed⟩
  refine Machine.keeps_bind (contact_keeps connecting_preserved vouches) fun sent => ?_
  cases sent with
  | error message => exact connect_pure _
  | ok value =>
      refine Machine.keeps_bind (connect_op trivial) fun datagram => ?_
      cases datagram with
      | joinError message => exact connect_pure _
      | recvError message => exact connect_pure _
      | received length source =>
          dsimp only
          split
          · refine Machine.keeps_bind (contact_keeps connecting_preserved fun state now => ?_) fun _ =>
              connect_pure _
            change state.2.Vouches (state.2.owner id) addr
            rw [now.owner]
            exact vouches state now
          · exact connect_pure _

/-- Each candidate is probed at its own address. -/
theorem connect_contacts :
    ConnectKeeps config key userId id candidates (connect id candidates : PeerM Addr _) := by
  have tried (rest : List ICECandidate) (listed : rest ⊆ candidates) :
      ConnectKeeps config key userId id candidates (tryCandidates id rest : PeerM Addr _) := by
    induction rest with
    | nil => exact Machine.keeps_bind (connect_op trivial) fun _ => connect_pure _
    | cons candidate rest inductionHypothesis =>
        refine Machine.keeps_bind (tryConnectToCandidate_contacts (listed (by simp))) fun answer => ?_
        rcases answer with message | ⟨⟩
        · exact inductionHypothesis fun other later => listed (List.mem_cons_of_mem _ later)
        · exact Machine.keeps_bind (connect_op trivial) fun _ => connect_pure _
  refine Machine.keeps_bind (connect_op trivial) fun _ => tried _ fun candidate sorted => ?_
  exact (List.perm_insertionSort _ candidates).mem_iff.mp sorted

/-- A known remote address was announced. -/
def Known (config : P2PConfig) (key : String) (remoteAddr : Option Addr)
    (state : (contactPool Addr config).State) : Prop :=
  ∀ addr, remoteAddr = some addr → state.2.Vouches key addr

/-- An address that was announced stays so. -/
theorem known_preserved (remoteAddr : Option Addr) : Preserved (Known config key remoteAddr) :=
  fun _ _ grown known addr same => (known addr same).mono grown.announced

/-- Whoever reads the remote address gets an announced one. -/
theorem remoteAddrRead_known {state : (contactPool Addr config).State}
    (now : Connecting config key id candidates state) :
    ContactHolds config (.connect key userId id candidates) (perform (.connectionLock id .remoteAddrRead))
      (fun remoteAddr after => Connecting config key id candidates after ∧ Known config key remoteAddr after)
      state := by
  refine contact_perform connecting_preserved (fun _ _ => by trivial) known_preserved ?_ now
  intro state choice remoteAddr after now answered addr same
  obtain ⟨done, written⟩ := contact_exec answered
  have read : (state.1.arena id).remoteAddr = remoteAddr := congrArg Prod.fst done
  have vouches := now.vouched.linked id addr (read.trans same)
  rw [now.owner] at vouches
  rw [written]
  exact vouches

/-- Data goes to the remote address, which was announced. -/
theorem send_contacts (data : List UInt8) :
    ConnectKeeps config key userId id candidates (send id data : PeerM Addr _) := by
  intro state now
  refine Machine.holds_bind (remoteAddrRead_known now) fun remoteAddr state known => ?_
  cases remoteAddr with
  | none => exact Machine.holds_done connecting_preserved.stable known.1
  | some addr =>
      have sends : ContactKeeps config (.connect key userId id candidates) (fun state =>
          Connecting config key id candidates state ∧ Known config key (some addr) state)
          (perform (.sendData id addr data)) :=
        contact_keeps (fun _ _ grown now => ⟨connecting_preserved _ _ grown now.1,
          known_preserved _ _ _ grown now.2⟩) fun state now => now.2 addr rfl
      refine Machine.holds_bind (sends state known) fun sent state kept => ?_
      cases sent with
      | error message => exact Machine.holds_done connecting_preserved.stable kept.1
      | ok length =>
          exact Machine.keeps_bind (connect_op (by trivial)) (fun _ => connect_pure _) state kept.1

/-- Receiving sends nothing. -/
theorem receive_contacts (limitMs : Option Nat) :
    ConnectKeeps config key userId id candidates (receive id limitMs : PeerM Addr _) := by
  refine Machine.keeps_bind (connect_op trivial) fun remoteAddr => ?_
  cases remoteAddr with
  | none => exact connect_pure _
  | some addr =>
      refine Machine.keeps_bind (connect_op trivial) fun received => ?_
      rcases received with _ | message | data
      · exact connect_pure _
      · exact connect_pure _
      · exact Machine.keeps_bind (connect_op trivial) fun _ => connect_pure _

/-- The datagram of the measurement goes to the stored address. -/
theorem measureRtt_contacts : ConnectKeeps config key userId id candidates (measureRtt id : PeerM Addr _) := by
  refine Machine.keeps_bind (connect_op trivial) fun state => ?_
  split
  · exact connect_pure _
  refine Machine.keeps_bind (connect_op trivial) fun start =>
    Machine.keeps_bind (send_contacts ping) fun sent => ?_
  cases sent with
  | error message => exact connect_pure _
  | ok length =>
      refine Machine.keeps_bind (receive_contacts (some 2000)) fun received => ?_
      rcases received with _ | message | data
      · exact connect_pure _
      · exact connect_pure _
      · dsimp only
        split
        · exact Machine.keeps_bind (connect_op trivial) fun now =>
            Machine.keeps_bind (connect_op trivial) fun _ => connect_pure _
        · exact connect_pure _

/-- The connect task probes, measures and reports. -/
theorem connectTask_contacts :
    ConnectKeeps config key userId id candidates (connectTask key userId id candidates : PeerM Addr _) := by
  refine Machine.keeps_bind connect_contacts fun answer => ?_
  rcases answer with message | ⟨⟩
  · exact Machine.keeps_bind (connect_op trivial) fun _ => Machine.keeps_bind (connect_op trivial) fun _ =>
      connect_op trivial
  · refine Machine.keeps_bind (connect_op trivial) fun _ => Machine.keeps_bind (connect_op trivial) fun _ =>
      Machine.keeps_bind measureRtt_contacts fun rtt => ?_
    cases rtt with
    | none => exact connect_pure _
    | some rtt => exact connect_op trivial

end

/-- A new connect task starts with an owned connection and announced candidates. -/
theorem started_connecting {task new : ManagerTask} {op : PeerOp Addr A} {choice : PeerChoice Addr}
    {state after : (contactPool Addr config).State} {value : A} (vouched : AllVouched config after)
    (guarded : contactGuard config task op state)
    (answered : (contactPool Addr config).exec task op choice state = some (value, after))
    (started : new ∈ op.starts value) :
    Pool.Safe contactRely (contactPromise Addr config) (contactGuard config) (fun _ _ => True) new
      (new.body config) after := by
  obtain ⟨done, written⟩ := contact_exec answered
  cases op with
  | connectionsInsert key connection candidates =>
      cases started
      obtain ⟨manager, notes⟩ := after
      dsimp only at done written
      subst written
      cases done
      refine (connectTask_contacts _ ?_).weaken fun _ _ _ => trivial
      exact ⟨vouched, Function.update_self .., Nat.lt_succ_self _, guarded.2⟩
  | _ => cases started

/-- Whatever the other tasks do and the network answers, every datagram for a peer went to the address of
a candidate that was announced for that peer before. -/
theorem contacts_announced {last : (contactPool Addr config).Configuration}
    (reached : Pool.Reaches (contactPromise Addr config) ⟨({}, {}), []⟩ last) {key : String} {addr : Addr}
    (contacted : (key, addr) ∈ last.state.2.contacted) :
    ∃ candidate, (key, candidate) ∈ last.state.2.announced ∧
      SocketAddr.parse candidate.address = .ok addr := by
  have safe : AllVouched config last.state ∧ ∀ entry ∈ last.tasks, Pool.Safe contactRely
      (contactPromise Addr config) (contactGuard config) (fun _ _ => True) entry.1 entry.2 last.state := by
    refine Pool.reaches_safe (fun state _ => AllVouched config state) ?called ?stepped reached ?start
    case called =>
      exact fun task state tasks call vouched => ⟨vouched, (call_keeps call state vouched).weaken
        fun _ _ _ => trivial⟩
    case stepped =>
      intro B before later task op choice state value after vouched guarded permitted answered
      have grown := exec_grown guarded answered
      exact ⟨grown.vouched vouched, fun _ _ => grown, fun new started =>
        started_connecting (grown.vouched vouched) guarded answered started⟩
    case start => exact ⟨⟨nofun, nofun, nofun⟩, nofun⟩
  exact safe.1.contacted key addr contacted

end

/-- A peer offers one candidate, and its probe is answered. -/
def contactRun : (contactPool String handoffConfig).Configuration :=
  Pool.run ⟨({}, {}), []⟩ (.call (.handleHandoffInitiate "u" "d" [.lan peerAddr none]) ::
    List.replicate 7 (.step 0 {}) ++ List.replicate 11 (.step 1 { datagram := .received 1 "a" }))

instance (task : ManagerTask) (state : (contactPool String handoffConfig).State) :
    Decidable ((contactPromise String handoffConfig).calls task state) :=
  inferInstanceAs (Decidable (task.isCall = true))

instance (A : Type) (task : ManagerTask) (op : PeerOp String A)
    (choice : (contactPool String handoffConfig).Choice) (state : (contactPool String handoffConfig).State) :
    Decidable ((contactPromise String handoffConfig).answers task op choice state) := isTrue trivial

theorem contacts_announced_probe : ∃ candidate, ("u:d", candidate) ∈ contactRun.state.2.announced ∧
    SocketAddr.parse candidate.address = .ok peerAddr :=
  contacts_announced (Pool.run_reaches (by decide +kernel)) (by decide +kernel)

end ConstructEngine.P2P
