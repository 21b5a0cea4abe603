import ConstructEngine.Proof.Tables

namespace ConstructEngine.P2P

open Interaction Program

variable {Addr A : Type}

/-- A datagram from any source arrives at a probe socket. -/
structure Arrival (Addr : Type) where
  length : Nat
  source : Addr

/-- The platform can end the wait of a probe with an error. -/
inductive WaitFailure where
  | recv (message : String)
  | join (message : String)

/-- These are the answers of one probe socket and the datagrams that arrive at it while it waits. -/
structure SocketChoice (Addr : Type) where
  probe : ProbeOutcome := {}
  arrivals : List (Arrival Addr) := []
  failure : Option WaitFailure := none

/-- One receive takes the first datagram that arrives, and times out without one. -/
def SocketChoice.datagram (choice : SocketChoice Addr) : Datagram Addr :=
  match choice.failure, choice.arrivals with
  | some (.recv message), _ => .recvError message
  | some (.join message), _ => .joinError message
  | none, [] => .recvError "timed out"
  | none, first :: _ => .received first.length first.source

/-- A probe socket waits for one address. -/
structure Socket (Addr : Type) where
  addr : Addr
  arrivals : List (Arrival Addr)
  failed : Bool

namespace Socket

/-- This datagram is the only one that the probe looks at. -/
def read (socket : Socket Addr) : Option (Arrival Addr) :=
  if socket.failed then none else socket.arrivals.head?

/-- The probe succeeds. -/
def succeeds (socket : Socket Addr) : Bool := socket.read.any fun arrival => 0 < arrival.length

/-- The probed address answers with content. -/
def Answered (socket : Socket Addr) : Prop :=
  ∃ arrival ∈ socket.arrivals, 0 < arrival.length ∧ arrival.source = socket.addr

/-- A success is an answer, and no answer is passed over. -/
def Honest (socket : Socket Addr) : Prop :=
  if socket.succeeds then ∀ arrival, socket.read = some arrival → arrival.source = socket.addr
  else ¬ socket.Answered

end Socket

/-- Every probe socket is written down with what arrived at it. -/
def PeerOp.opened : {A : Type} → PeerOp Addr A → SocketChoice Addr → List (Socket Addr) → List (Socket Addr)
  | _, .recvProbe _ addr, choice, sockets => sockets ++ [⟨addr, choice.arrivals, choice.failure.isSome⟩]
  | _, _, _, sockets => sockets

/-- The environment changes everything but the connection and the sockets between two operations. -/
abbrev socketMachine (Addr : Type) (id : Nat) : Machine (PeerOp Addr) where
  State := Manager Addr × List (Socket Addr)
  Choice := SocketChoice Addr
  Move := Manager Addr
  exec op choice state :=
    let (answer, after) := op.exec { probe := choice.probe, datagram := choice.datagram } state.1
    some (answer, after, op.opened choice state.2)
  move other state := some
    ({ other with arena := Function.update other.arena id (state.1.arena id) }, state.2)

section
variable {id : Nat}

/-- The connection and the sockets belong to the attempt. -/
def ownSockets (Addr : Type) (id : Nat) :
    (socketMachine Addr id).Owned (P2PConnection Addr × List (Socket Addr)) where
  view state := (state.1.arena id, state.2)
  kept other state after moved := by
    cases moved
    exact Prod.ext (Function.update_self ..) rfl

abbrev SocketSafe (id : Nat) (program : PeerM Addr A)
    (result : A → P2PConnection Addr × List (Socket Addr) → Prop)
    (view : P2PConnection Addr × List (Socket Addr)) : Prop :=
  (ownSockets Addr id).Safe (Machine.Promise.any (socketMachine Addr id)) (fun _ _ => True) program result view

variable {view : P2PConnection Addr × List (Socket Addr)}

theorem socket_access (access : ConnectionAccess Addr A) :
    SocketSafe id (perform (.connectionLock id access))
      (fun _ after => after = ((access.run view.1).2, view.2)) view := by
  refine Machine.Owned.safe_perform (fun _ _ => trivial) fun state choice value after same _ answered => ?_
  cases Option.some.inj answered
  rw [← same]
  exact Prod.ext (Function.update_self ..) rfl

theorem socket_send (addr : Addr) :
    SocketSafe id (perform (.sendProbe id addr)) (fun _ after => after = view) view := by
  refine Machine.Owned.safe_perform (fun _ _ => trivial) fun state choice value after same _ answered => ?_
  cases Option.some.inj answered
  exact same

/-- One more socket is written down, and its first datagram decides about the probe. -/
theorem socket_recv (addr : Addr) :
    SocketSafe id (perform (.recvProbe id addr)) (fun datagram after => ∃ socket : Socket Addr,
      socket.addr = addr ∧ after = (view.1, view.2 ++ [socket]) ∧
        (socket.succeeds = true ↔ datagram.hasContent = true)) view := by
  refine Machine.Owned.safe_perform (fun _ _ => trivial) fun state choice value after same _ answered => ?_
  cases Option.some.inj answered
  rw [← same]
  refine ⟨⟨addr, choice.arrivals, choice.failure.isSome⟩, rfl, rfl, ?_⟩
  change _ ↔ choice.datagram.hasContent = true
  unfold Socket.succeeds Socket.read SocketChoice.datagram
  rcases choice.failure with _ | message | message
  · cases choice.arrivals <;> simp [Datagram.hasContent]
  · simp [Datagram.hasContent]
  · simp [Datagram.hasContent]

variable [SocketAddr Addr]

def ICECandidate.parsed (Addr : Type) [SocketAddr Addr] (candidate : ICECandidate) : Option Addr :=
  match (SocketAddr.parse candidate.address : Except String Addr) with
  | .ok addr => some addr
  | .error _ => none

/-- A probe leaves at most one socket behind, and it sets the remote address when it succeeds. -/
structure ProbeLeaves (candidate : ICECandidate) (before after : P2PConnection Addr × List (Socket Addr))
    (ok : Bool) (new : List (Socket Addr)) : Prop where
  sockets : after.2 = before.2 ++ new
  addresses : (new.map Socket.addr).Sublist (ICECandidate.parsed Addr candidate).toList
  failed : ok = false → after.1 = before.1 ∧ ∀ socket ∈ new, socket.succeeds = false
  succeeded : ok = true → ∃ socket, new = [socket] ∧ socket.succeeds = true ∧
    after.1.remoteAddr = some socket.addr

theorem tryConnectToCandidate_leaves (candidate : ICECandidate) :
    SocketSafe id (tryConnectToCandidate id candidate)
      (fun answer after => ∃ new, ProbeLeaves candidate view after answer.isOk new) view := by
  have unprobed : ProbeLeaves candidate view view false [] :=
    ⟨(List.append_nil _).symm, List.nil_sublist _, fun _ => ⟨rfl, List.forall_mem_nil _⟩,
      fun impossible => (by cases impossible)⟩
  refine tryConnectToCandidate_owned (fun addr after => ∃ socket : Socket Addr, socket.addr = addr ∧
      ICECandidate.parsed Addr candidate = some addr ∧ after = (view.1, view.2 ++ [socket]) ∧
      socket.succeeds = true)
    (fun _ => ⟨[], unprobed⟩) socket_send ?_ ?_
  · intro addr parses
    have parsed : ICECandidate.parsed Addr candidate = some addr := by
      unfold ICECandidate.parsed
      rw [parses]
    refine (socket_recv addr).weaken fun datagram after received => ?_
    obtain ⟨socket, own, rfl, decides⟩ := received
    split
    · next content => exact ⟨socket, own, parsed, rfl, decides.mpr content⟩
    · next empty =>
      refine fun _ => ⟨[socket], rfl, ?_, fun _ => ⟨rfl, fun other member => ?_⟩,
        fun impossible => (by cases impossible)⟩
      · rw [parsed, List.map_singleton, own]
        exact List.Sublist.refl _
      · cases List.mem_singleton.mp member
        exact Bool.eq_false_iff.mpr fun success => empty (decides.mp success)
  · rintro addr _ ⟨socket, own, parsed, rfl, succeeds⟩
    refine (socket_access _).weaken fun _ last written => ?_
    subst written
    refine ⟨[socket], rfl, ?_, fun impossible => (by cases impossible), fun _ => ⟨socket, rfl, succeeds, ?_⟩⟩
    · rw [parsed, List.map_singleton, own]
      exact List.Sublist.refl _
    · rw [own]
      rfl

/-- The probes go through the list up to the first success, which sets the remote address. -/
structure AttemptLeaves (candidates : List ICECandidate) (before : List (Socket Addr))
    (after : P2PConnection Addr × List (Socket Addr)) (ok : Bool) (new : List (Socket Addr)) : Prop where
  sockets : after.2 = before ++ new
  addresses : (new.map Socket.addr).Sublist (candidates.filterMap (ICECandidate.parsed Addr))
  failed : ok = false → ∀ socket ∈ new, socket.succeeds = false
  succeeded : ok = true → ∃ earlier last, new = earlier ++ [last] ∧
    (∀ socket ∈ earlier, socket.succeeds = false) ∧ last.succeeds = true ∧
      after.1.remoteAddr = some last.addr

theorem tryCandidates_leaves (candidates : List ICECandidate) :
    SocketSafe id (tryCandidates id candidates)
      (fun answer after => ∃ new, AttemptLeaves candidates view.2 after answer.isOk new) view := by
  induction candidates generalizing view with
  | nil =>
      refine (socket_access _).andThen fun _ after written => ?_
      subst written
      exact Machine.Owned.safe_done ⟨[], (List.append_nil _).symm, List.nil_sublist _,
        fun _ => List.forall_mem_nil _, fun impossible => (by cases impossible)⟩
  | cons candidate rest inductionHypothesis =>
      have addresses : (candidate :: rest).filterMap (ICECandidate.parsed Addr) =
          (ICECandidate.parsed Addr candidate).toList ++ rest.filterMap (ICECandidate.parsed Addr) := by
        cases parsed : ICECandidate.parsed Addr candidate with
        | none => rw [List.filterMap_cons_none parsed]; rfl
        | some addr => rw [List.filterMap_cons_some parsed]; rfl
      refine (tryConnectToCandidate_leaves candidate).andThen fun answer middle tried => ?_
      obtain ⟨new, probe⟩ := tried
      rcases answer with message | ⟨⟩
      · refine inductionHypothesis.weaken fun answer after later => ?_
        obtain ⟨more, attempt⟩ := later
        have none' := (probe.failed rfl).2
        refine ⟨new ++ more, ?_, ?_, fun failed => ?_, fun success => ?_⟩
        · rw [attempt.sockets, probe.sockets, List.append_assoc]
        · rw [List.map_append, addresses]
          exact probe.addresses.append attempt.addresses
        · exact List.forall_mem_append.mpr ⟨none', attempt.failed failed⟩
        · obtain ⟨earlier, last, whole, fails, succeeds, remote⟩ := attempt.succeeded success
          exact ⟨new ++ earlier, last, by rw [whole, List.append_assoc],
            List.forall_mem_append.mpr ⟨none', fails⟩, succeeds, remote⟩
      · obtain ⟨socket, single, succeeds, remote⟩ := probe.succeeded rfl
        refine (socket_access _).andThen fun _ after written => ?_
        subst written
        refine Machine.Owned.safe_done ⟨new, probe.sockets, ?_, fun impossible => (by cases impossible),
          fun _ => ⟨[], socket, single, List.forall_mem_nil _, succeeds, remote⟩⟩
        rw [addresses]
        exact probe.addresses.trans (List.sublist_append_left _ _)

theorem connect_leaves_sockets (candidates : List ICECandidate) :
    SocketSafe id (connect id candidates)
      (fun answer after => ∃ new, AttemptLeaves (sortedCandidates candidates) view.2 after answer.isOk new)
        view := by
  refine (socket_access (.stateWrite .connecting)).andThen fun _ after written => ?_
  subst written
  exact tryCandidates_leaves (sortedCandidates candidates)

end

/-- A connection is established with the candidate that answered first, and no other datagram lets a
probe succeed. -/
structure AnsweredOnly [SocketAddr Addr] (candidates : List ICECandidate) (remoteAddr : Option Addr)
    (sockets : List (Socket Addr)) (ok : Bool) : Prop where
  order : (sockets.map Socket.addr).Sublist
    ((sortedCandidates candidates).filterMap (ICECandidate.parsed Addr))
  established : ok = true → ∃ earlier last, sockets = earlier ++ [last] ∧ remoteAddr = some last.addr ∧
    (∃ candidate ∈ candidates, ICECandidate.parsed Addr candidate = some last.addr) ∧ last.Answered ∧
      ∀ socket ∈ earlier, ¬ socket.Answered
  sources : ∀ socket ∈ sockets, socket.succeeds = true →
    ∀ arrival, socket.read = some arrival → arrival.source = socket.addr

/-- When a probe succeeds, the first datagram at every socket tells whether its address answered. -/
def AnswerCondition (sockets : List (Socket Addr)) : Prop :=
  (∃ socket ∈ sockets, socket.succeeds = true) → ∀ socket ∈ sockets, socket.Honest

/-- A successful probe has read a datagram that arrived. -/
theorem Socket.answered_of_source {socket : Socket Addr} (succeeds : socket.succeeds = true)
    (own : ∀ arrival, socket.read = some arrival → arrival.source = socket.addr) : socket.Answered := by
  unfold Socket.succeeds at succeeds
  cases read : socket.read with
  | none => rw [read] at succeeds; cases succeeds
  | some arrival =>
      rw [read] at succeeds
      have content : 0 < arrival.length := by simpa using succeeds
      refine ⟨arrival, ?_, content, own arrival read⟩
      unfold Socket.read at read
      split at read
      · cases read
      · exact List.mem_of_mem_head? read

section
variable [SocketAddr Addr] {candidates : List ICECandidate} {before sockets : List (Socket Addr)}
  {after : P2PConnection Addr × List (Socket Addr)} {ok : Bool}

theorem answeredOnly_iff (attempt : AttemptLeaves (sortedCandidates candidates) before after ok sockets) :
    AnsweredOnly candidates after.1.remoteAddr sockets ok ↔ AnswerCondition sockets := by
  constructor
  · rintro answered ⟨single, member, succeeds⟩ socket listed
    have established : ok = true := by
      by_contra failed
      rw [attempt.failed (Bool.eq_false_iff.mpr failed) single member] at succeeds
      cases succeeds
    unfold Socket.Honest
    split
    · next success => exact answered.sources socket listed success
    · next failed =>
      obtain ⟨earlier, last, whole, -, -, last', silent⟩ := answered.established established
      obtain ⟨early, final, split, -, success, -⟩ := attempt.succeeded established
      obtain ⟨rfl, same⟩ := List.append_inj' (whole.symm.trans split) rfl
      cases same
      rw [whole] at listed
      rcases List.mem_append.mp listed with inside | own
      · exact silent socket inside
      · cases List.mem_singleton.mp own
        exact absurd success failed
  · intro condition
    refine ⟨attempt.addresses, fun established => ?_, fun socket listed succeeds => ?_⟩
    · obtain ⟨earlier, last, whole, fails, succeeds, remote⟩ := attempt.succeeded established
      have honest := condition ⟨last, by rw [whole]; simp, succeeds⟩
      have lastHonest := honest last (by rw [whole]; simp)
      unfold Socket.Honest at lastHonest
      rw [if_pos succeeds] at lastHonest
      refine ⟨earlier, last, whole, remote, ?_, Socket.answered_of_source succeeds lastHonest,
        fun socket inside => ?_⟩
      · have address : last.addr ∈ sockets.map Socket.addr := by rw [whole]; simp
        obtain ⟨candidate, listed, parsed⟩ := List.mem_filterMap.mp (attempt.addresses.subset address)
        exact ⟨candidate, (List.perm_insertionSort _ candidates).subset listed, parsed⟩
      · have early := honest socket (by rw [whole]; simp [inside])
        unfold Socket.Honest at early
        rwa [fails socket inside, if_neg (by decide)] at early
    · have honest := condition ⟨socket, listed, succeeds⟩ socket listed
      unfold Socket.Honest at honest
      rwa [if_pos succeeds] at honest

/-- A connection is established only with a candidate that answered, exactly under the condition on the
datagrams that arrived. -/
theorem connect_answered (id : Nat) (candidates : List ICECandidate) {manager after : Manager Addr}
    {sockets : List (Socket Addr)} {result : Except String Unit}
    (reached : Machine.Reaches (Machine.Promise.any (socketMachine Addr id)) ((manager, []), connect id candidates)
      ((after, sockets), .done result)) :
    AnsweredOnly candidates (after.arena id).remoteAddr sockets result.isOk ↔ AnswerCondition sockets := by
  have safe : SocketSafe id (connect id candidates) (fun answer last => ∃ new,
      AttemptLeaves (sortedCandidates candidates) [] last answer.isOk new)
        (manager.arena id, []) := connect_leaves_sockets candidates
  obtain ⟨new, attempt⟩ := (safe (manager, []) rfl (after, sockets) _ reached).2 result rfl
  have same : sockets = new := attempt.sockets
  subst same
  exact answeredOnly_iff attempt

end

/-- One datagram arrives at the only probe socket. -/
def arrivalInputs (source : String) : List (socketMachine String 0).Input :=
  List.replicate 5 (.answer { arrivals := [⟨1, source⟩] })

theorem arrival_reached (source : String) : ∃ after : Manager String,
    Machine.Reaches (Machine.Promise.any (socketMachine String 0)) (({}, []), connect 0 [.lan peerAddr none])
      ((after, [⟨peerAddr, [⟨1, source⟩], false⟩]), .done (.ok ())) := by
  have reached := Machine.run_reaches (Machine.allAllowed_any (arrivalInputs source)
    ((({}, []) : Manager String × List (Socket String)), connect 0 [.lan peerAddr none]))
  exact ⟨_, reached⟩

/-- A datagram from a stranger establishes the connection. -/
theorem connect_answered_fails :
    ¬ ∀ candidates (manager after : Manager String) sockets result,
      Machine.Reaches (Machine.Promise.any (socketMachine String 0)) ((manager, []), connect 0 candidates)
        ((after, sockets), .done result) →
      AnsweredOnly candidates (after.arena 0).remoteAddr sockets result.isOk := by
  intro answered
  obtain ⟨after, reached⟩ := arrival_reached "10.0.0.9:4000"
  have sources := (answered _ _ _ _ _ reached).sources _ List.mem_cons_self rfl _ rfl
  exact absurd sources (by decide)

/-- The peer itself answers. -/
theorem connect_answered_peer : ∃ after : Manager String,
    AnsweredOnly [.lan peerAddr none] (after.arena 0).remoteAddr [⟨peerAddr, [⟨1, peerAddr⟩], false⟩] true := by
  obtain ⟨after, reached⟩ := arrival_reached peerAddr
  refine ⟨after, (connect_answered 0 [.lan peerAddr none] reached).mpr fun _ socket listed => ?_⟩
  cases List.mem_singleton.mp listed
  rintro arrival read
  cases read
  rfl

end ConstructEngine.P2P
