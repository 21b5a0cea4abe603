import ConstructEngine.Construction.Handoff
import ConstructEngine.Interaction.Owned

namespace ConstructEngine.P2P

open Interaction Program

variable {Addr A : Type}

/-- The access changes the state of the connection. -/
def ConnectionAccess.writesState : {A : Type} → ConnectionAccess Addr A → Bool
  | _, .stateWrite _ => true
  | _, _ => false

/-- Only the writes of the state change it. -/
theorem access_kept {access : ConnectionAccess Addr A} (other : access.writesState = false)
    (connection : P2PConnection Addr) : (access.run connection).2.state = connection.state := by
  cases access <;> first | rfl | cases other

/-- These operations touch neither the tables nor a connection. -/
def PeerOp.outside : {A : Type} → PeerOp Addr A → Bool
  | _, .peersLock _ | _, .connectionsInsert .. | _, .connectionLock .. => false
  | _, _ => true

/-- The operation uses one connection at most, and it leaves its state and the tables alone. -/
def PeerOp.keepsState (id : Nat) : {A : Type} → PeerOp Addr A → Prop
  | _, .connectionLock used access => used = id ∧ access.writesState = false
  | _, op => op.outside = true

section
variable (id : Nat)

theorem send_keeps (data : List UInt8) : (send id data : PeerM Addr _).Uses fun op => op.keepsState id := by
  refine uses_bind (uses_perform ⟨rfl, rfl⟩) fun known => ?_
  cases known with
  | none => exact uses_pure _
  | some addr =>
      refine uses_bind (uses_perform rfl) fun sent => ?_
      cases sent with
      | error message => exact uses_pure _
      | ok length => exact uses_bind (uses_perform ⟨rfl, rfl⟩) fun _ => uses_pure _

theorem receive_keeps (limitMs : Option Nat) :
    (receive id limitMs : PeerM Addr _).Uses fun op => op.keepsState id := by
  refine uses_bind (uses_perform ⟨rfl, rfl⟩) fun known => ?_
  cases known with
  | none => exact uses_pure _
  | some addr =>
      refine uses_bind (uses_perform rfl) fun received => ?_
      rcases received with _ | message | data
      · exact uses_pure _
      · exact uses_pure _
      · exact uses_bind (uses_perform ⟨rfl, rfl⟩) fun _ => uses_pure _

/-- The round trip is measured without a change of the state. -/
theorem measureRtt_keeps : (measureRtt id : PeerM Addr _).Uses fun op => op.keepsState id := by
  refine uses_bind (uses_perform ⟨rfl, rfl⟩) fun state => ?_
  split
  · exact uses_pure _
  refine uses_bind (uses_perform rfl) fun start => uses_bind (send_keeps id ping) fun sent => ?_
  cases sent with
  | error message => exact uses_pure _
  | ok length =>
      refine uses_bind (receive_keeps id (some 2000)) fun received => ?_
      rcases received with _ | message | data
      · exact uses_pure _
      · exact uses_pure _
      · dsimp only
        split
        · exact uses_bind (uses_perform rfl) fun now => uses_bind (uses_perform ⟨rfl, rfl⟩) fun _ => uses_pure _
        · exact uses_pure _

variable [SocketAddr Addr]

theorem tryConnectToCandidate_keeps (candidate : ICECandidate) :
    (tryConnectToCandidate id candidate : PeerM Addr _).Uses fun op => op.keepsState id := by
  unfold tryConnectToCandidate
  split
  · exact uses_pure _
  refine uses_bind (uses_perform rfl) fun sent => ?_
  cases sent with
  | error message => exact uses_pure _
  | ok value =>
      refine uses_bind (uses_perform rfl) fun datagram => ?_
      cases datagram with
      | joinError message => exact uses_pure _
      | recvError message => exact uses_pure _
      | received length source =>
          dsimp only
          split
          · exact uses_bind (uses_perform ⟨rfl, rfl⟩) fun _ => uses_pure _
          · exact uses_pure _

end

/-- These operations look for the own candidates. -/
def PeerOp.gathers : {A : Type} → PeerOp Addr A → Prop
  | _, .getIfAddrs => True
  | _, .queryStun _ => True
  | _, .localCandidatesWrite _ => True
  | _, _ => False

theorem gatherLocalCandidates_gathers (config : P2PConfig) :
    (gatherLocalCandidates config : PeerM Addr _).Uses fun op => op.gathers := by
  have queries (servers : List String) : (queryStunServers servers : PeerM Addr _).Uses fun op => op.gathers := by
    induction servers with
    | nil => exact uses_pure _
    | cons server rest inductionHypothesis =>
        refine uses_bind (uses_perform trivial) fun answer => ?_
        cases answer with
        | error => exact inductionHypothesis
        | ok => exact uses_pure _
  exact uses_bind (uses_perform trivial) fun interfaces => uses_bind (queries _) fun stun =>
    uses_bind (uses_perform trivial) fun _ => uses_pure _

/-- A receive without an error can still bring an empty datagram. -/
def Datagram.hasContent : Datagram Addr → Bool
  | .received length _ => 0 < length
  | _ => false

section
variable [SocketAddr Addr] {machine : Machine (PeerOp Addr)} {promise : machine.Promise} {guard : machine.Guard}
  {id : Nat} {candidate : ICECandidate}

/-- This is the rule of one candidate. A probe is sent to its address and one datagram is awaited, and
only a datagram with content sets the remote address. -/
theorem tryConnectToCandidate_rule (probing : machine.State → Prop) (answered : Addr → machine.State → Prop)
    {result : Except String Unit → machine.State → Prop}
    (stable : ∀ value, Machine.Stable promise (result value))
    (refused : ∀ message state, probing state → result (.error message) state)
    (sent : ∀ addr state, probing state →
      Machine.Holds promise guard (perform (.sendProbe id addr)) (fun _ => probing) state)
    (received : ∀ addr state, SocketAddr.parse candidate.address = .ok addr → probing state →
      Machine.Holds promise guard (perform (.recvProbe id addr)) (fun datagram after =>
        if datagram.hasContent then answered addr after else ∀ message, result (.error message) after) state)
    (found : ∀ addr state, answered addr state →
      Machine.Holds promise guard (perform (.connectionLock id (.remoteAddrWrite (some addr))))
        (fun _ => result (.ok ())) state)
    {state : machine.State} (now : probing state) :
    Machine.Holds promise guard (tryConnectToCandidate id candidate) result state := by
  unfold tryConnectToCandidate
  split
  · exact Machine.holds_done (stable _) (refused _ state now)
  next addr parsed =>
  refine Machine.holds_bind (sent addr state now) fun outcome after probing => ?_
  cases outcome with
  | error message => exact Machine.holds_done (stable _) (refused _ after probing)
  | ok value =>
      refine Machine.holds_bind (received addr after parsed probing) fun datagram last outcome => ?_
      cases datagram with
      | joinError message => exact Machine.holds_done (stable _) (outcome _)
      | recvError message => exact Machine.holds_done (stable _) (outcome _)
      | received length source =>
          dsimp only
          split
          · next content =>
            have answered : answered addr last := by simpa [Datagram.hasContent, content] using outcome
            exact Machine.holds_bind (found addr last answered) fun _ final done =>
              Machine.holds_done (stable _) done
          · next empty =>
            have refused : ∀ message, result (.error message) last := by
              simpa [Datagram.hasContent, empty] using outcome
            exact Machine.holds_done (stable _) (refused _)

/-- The same rule speaks about the part of the state that the program owns. -/
theorem tryConnectToCandidate_owned {O : Type} {owned : machine.Owned O} {before : O}
    (answered : Addr → O → Prop) {result : Except String Unit → O → Prop}
    (refused : ∀ message, result (.error message) before)
    (sent : ∀ addr, owned.Safe promise guard (perform (.sendProbe id addr)) (fun _ after => after = before) before)
    (received : ∀ addr, SocketAddr.parse candidate.address = .ok addr →
      owned.Safe promise guard (perform (.recvProbe id addr)) (fun datagram after =>
        if datagram.hasContent then answered addr after else ∀ message, result (.error message) after) before)
    (found : ∀ addr view, answered addr view →
      owned.Safe promise guard (perform (.connectionLock id (.remoteAddrWrite (some addr))))
        (fun _ => result (.ok ())) view) :
    owned.Safe promise guard (tryConnectToCandidate id candidate) result before := by
  intro state now
  refine tryConnectToCandidate_rule (fun state => owned.view state = before)
    (fun addr state => answered addr (owned.view state)) (fun value => owned.stable (result value)) ?_ ?_ ?_ ?_ now
  · intro message state now
    rw [now]
    exact refused message
  · exact fun addr state now => sent addr state now
  · exact fun addr state parsed now => received addr parsed state now
  · exact fun addr state now => found addr _ now state rfl

end

end ConstructEngine.P2P
