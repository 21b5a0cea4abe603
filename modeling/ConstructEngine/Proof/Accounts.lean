import Mathlib.Data.ZMod.Basic
import ConstructEngine.Interaction.Balance
import ConstructEngine.Proof.PeerFrame

namespace ConstructEngine.P2P

open Interaction Program

variable {Addr A G : Type} [AddCommGroup G]

/-- The own candidates are offered to a peer. -/
def isOffer : UiEvent → Bool
  | .p2pHandoffInitiate .. => true
  | _ => false

/-- The offer of a peer is acknowledged. -/
def isAck : UiEvent → Bool
  | .p2pHandoffAck .. => true
  | _ => false

/-- The platform is told that the peer is reached over the relay. -/
def isRelayReport : UiEvent → Bool
  | .p2pStatusReport _ _ _ isRelay => isRelay
  | _ => false

/-- The platform asks for a handoff. -/
def ManagerTask.initiates : ManagerTask → Bool
  | .initiateHandoff .. => true
  | _ => false

/-- A peer offers a handoff. -/
def ManagerTask.acknowledges : ManagerTask → Bool
  | .handleHandoffInitiate .. => true
  | _ => false

/-- A stored connection is tried in a task of its own. -/
def ManagerTask.connects : ManagerTask → Bool
  | .connect .. => true
  | _ => false

/-- A tariff prices the updates of the statistics and the events. A connect task costs the same whether
it succeeds or falls back. -/
structure Tariff (G : Type) [AddCommGroup G] where
  attempt : G := 0
  established : G := 0
  fallback : G := 0
  offer : G := 0
  ack : G := 0
  relayReport : G := 0
  concludes : fallback + relayReport = established

namespace Tariff

/-- An update of the statistics costs what its counter does. -/
def update (tariff : Tariff G) : StatsUpdate → G
  | .handoffAttempt => tariff.attempt
  | .established => tariff.established
  | .fallback => tariff.fallback

/-- A sent event costs what its kind does. -/
def event (tariff : Tariff G) : UiEvent → G
  | .p2pHandoffInitiate .. => tariff.offer
  | .p2pHandoffAck .. => tariff.ack
  | .p2pStatusReport _ _ _ isRelay => if isRelay then tariff.relayReport else 0
  | _ => 0

/-- Other operations are free. -/
def gain (tariff : Tariff G) : {A : Type} → PeerOp Addr A → G
  | _, .statsLock update => tariff.update update
  | _, .eventSend event => tariff.event event
  | _, _ => 0

/-- This is the price of a whole task. -/
def debt (tariff : Tariff G) : ManagerTask → G
  | .initiateHandoff .. => tariff.attempt + tariff.offer
  | .handleHandoffInitiate .. => tariff.ack
  | .connect .. => tariff.established
  | _ => 0

end Tariff

section
variable (tariff : Tariff G)

/-- No operation of the program updates the statistics or sends an event. -/
abbrev Free (program : PeerM Addr A) : Prop := program.Owes tariff.gain 0

/-- Sending data counts bytes of the connection and nothing here. -/
theorem send_free (id : Nat) (data : List UInt8) : Free tariff (send id data : PeerM Addr _) := by
  refine owes_after (owes_free rfl) fun known => ?_
  cases known with
  | none => exact owes_done _
  | some addr =>
      refine owes_after (owes_free rfl) fun sent => ?_
      cases sent with
      | error message => exact owes_done _
      | ok length => exact owes_after (owes_free rfl) fun _ => owes_done _

/-- Receiving data counts bytes of the connection and nothing here. -/
theorem receive_free (id : Nat) (limitMs : Option Nat) : Free tariff (receive id limitMs : PeerM Addr _) := by
  refine owes_after (owes_free rfl) fun known => ?_
  cases known with
  | none => exact owes_done _
  | some addr =>
      refine owes_after (owes_free rfl) fun received => ?_
      rcases received with _ | message | data
      · exact owes_done _
      · exact owes_done _
      · exact owes_after (owes_free rfl) fun _ => owes_done _

/-- A measurement sends and receives. -/
theorem measureRtt_free (id : Nat) : Free tariff (measureRtt id : PeerM Addr _) := by
  refine owes_after (owes_free rfl) fun state => ?_
  split
  · exact owes_done _
  refine owes_after (owes_free rfl) fun start => owes_after (send_free tariff id ping) fun sent => ?_
  cases sent with
  | error message => exact owes_done _
  | ok length =>
      refine owes_after (receive_free tariff id (some 2000)) fun received => ?_
      rcases received with _ | message | data
      · exact owes_done _
      · exact owes_done _
      · dsimp only
        split
        · exact owes_after (owes_free rfl) fun now => owes_after (owes_free rfl) fun _ => owes_done _
        · exact owes_done _

/-- The candidates are gathered without the statistics. -/
theorem gatherLocalCandidates_free (config : P2PConfig) :
    Free tariff (gatherLocalCandidates config : PeerM Addr _) := by
  refine owes_of_uses ((gatherLocalCandidates_gathers config).mono fun op gathers => ?_)
  cases op <;> first | rfl | exact gathers.elim

/-- The attempt leaves the counting to the connect task that it spawns. -/
theorem attemptConnection_free (config : P2PConfig) (userId deviceId : String) :
    Free tariff (attemptConnection config userId deviceId : PeerM Addr Unit) := by
  unfold attemptConnection
  refine owes_after (owes_free rfl) fun _ => owes_after (owes_free rfl) fun candidates => ?_
  split
  · exact owes_done _
  · exact owes_after (owes_free rfl) fun _ => owes_done _

variable [SocketAddr Addr]

/-- A probe changes the connection alone. -/
theorem tryConnectToCandidate_free (id : Nat) (candidate : ICECandidate) :
    Free tariff (tryConnectToCandidate id candidate : PeerM Addr _) := by
  unfold tryConnectToCandidate
  split
  · exact owes_done _
  refine owes_after (owes_free rfl) fun sent => ?_
  cases sent with
  | error message => exact owes_done _
  | ok value =>
      refine owes_after (owes_free rfl) fun datagram => ?_
      cases datagram with
      | joinError message => exact owes_done _
      | recvError message => exact owes_done _
      | received length source =>
          dsimp only
          split
          · exact owes_after (owes_free rfl) fun _ => owes_done _
          · exact owes_done _

/-- All candidates are probed before anything is counted. -/
theorem connect_free (id : Nat) (candidates : List ICECandidate) :
    Free tariff (connect id candidates : PeerM Addr _) := by
  have tried (rest : List ICECandidate) : Free tariff (tryCandidates id rest : PeerM Addr _) := by
    induction rest with
    | nil => exact owes_after (owes_free rfl) fun _ => owes_done _
    | cons candidate rest inductionHypothesis =>
        refine owes_after (tryConnectToCandidate_free tariff id candidate) fun answer => ?_
        rcases answer with message | ⟨⟩
        · exact inductionHypothesis
        · exact owes_after (owes_free rfl) fun _ => owes_done _
  exact owes_after (owes_free rfl) fun _ => tried (sortedCandidates candidates)

/-- Each task adds the price of its kind, on every path. -/
theorem body_owes (config : P2PConfig) (task : ManagerTask) :
    (task.body config : PeerM Addr Unit).Owes tariff.gain (tariff.debt task) := by
  have updates (update : StatsUpdate) : (perform (.statsLock update) : PeerM Addr Unit).Owes tariff.gain
      (tariff.update update) := owes_perform _
  have sends (event : UiEvent) : (perform (.eventSend event) : PeerM Addr Unit).Owes tariff.gain
      (tariff.event event) := owes_perform _
  cases task with
  | initiateHandoff userId deviceId =>
      exact owes_after (owes_free rfl) fun _ => owes_bind (updates .handoffAttempt) fun _ =>
        owes_after (gatherLocalCandidates_free tariff config) fun candidates =>
          sends (.p2pHandoffInitiate userId candidates)
  | handleHandoffInitiate userId deviceId offered =>
      refine owes_after (owes_free rfl) fun _ => owes_after (gatherLocalCandidates_free tariff config)
        fun candidates => ?_
      rw [← add_zero (tariff.debt _)]
      exact owes_bind (sends (.p2pHandoffAck (peerKey userId deviceId) true candidates none)) fun _ =>
        attemptConnection_free tariff config userId deviceId
  | handleHandoffAck userId deviceId candidates =>
      exact owes_after (owes_free rfl) fun _ => attemptConnection_free tariff config userId deviceId
  | removePeer => exact owes_free rfl
  | updatePeerLatency => exact owes_free rfl
  | connect key userId id candidates =>
      refine owes_after (connect_free tariff id candidates) fun answer => ?_
      rcases answer with message | ⟨⟩
      · change Program.Owes tariff.gain _ tariff.established
        rw [← tariff.concludes]
        exact owes_after (owes_free rfl) fun _ => owes_bind (updates .fallback) fun _ =>
          sends (.p2pStatusReport userId false none true)
      · change Program.Owes tariff.gain _ tariff.established
        rw [← add_zero tariff.established]
        refine owes_bind (updates .established) fun _ => owes_after (owes_free rfl) fun _ =>
          owes_after (measureRtt_free tariff id) fun rtt => ?_
        cases rtt with
        | none => exact owes_done _
        | some rtt => exact sends (.p2pStatusReport userId true (some (rtt % 2 ^ 32)) false)

variable (Addr) in
/-- A tariff that prices what the statistics count keeps an account of the manager. -/
def Tariff.account (config : P2PConfig) (held : P2PStats → G)
    (counted : ∀ update stats, held (StatsUpdate.run update stats) = held stats + tariff.update update) :
    (managerPool Addr config).Account G where
  holds manager := held manager.stats + (manager.sent.map tariff.event).sum
  gain := tariff.gain
  debt := tariff.debt
  owed := body_owes tariff config
  booked := by
    intro B task op choice state value after answered
    have done : op.exec choice state = (value, after) := Option.some.inj answered
    cases op with
    | statsLock update =>
        cases done
        change held (update.run state.stats) + _ = held state.stats + _ + tariff.update update
        rw [counted]
        abel
    | eventSend event =>
        cases done
        change held state.stats + ((state.sent ++ [event]).map tariff.event).sum = _ + _ + tariff.event event
        simp [add_assoc]
    | _ =>
        cases done
        exact (add_zero _).symm

omit [SocketAddr Addr] in
/-- The events cost what their numbers say. -/
theorem events_total (events : List UiEvent) :
    (events.map tariff.event).sum = events.countP isOffer • tariff.offer + events.countP isAck • tariff.ack +
      events.countP isRelayReport • tariff.relayReport := by
  have single (event : UiEvent) : tariff.event event =
      (if isOffer event then 1 else 0) • tariff.offer + (if isAck event then 1 else 0) • tariff.ack +
        (if isRelayReport event then 1 else 0) • tariff.relayReport := by
    cases event with
    | p2pStatusReport peerId connected latencyMs isRelay =>
        cases isRelay <;> simp [Tariff.event, isOffer, isAck, isRelayReport]
    | _ => simp [Tariff.event, isOffer, isAck, isRelayReport]
  induction events with
  | nil => simp
  | cons event rest inductionHypothesis =>
      simp only [List.map_cons, List.sum_cons, inductionHypothesis, single, List.countP_cons, add_nsmul]
      abel

omit [SocketAddr Addr] in
/-- The tasks cost what their numbers say. -/
theorem tasks_total (tasks : List ManagerTask) :
    (tasks.map tariff.debt).sum = tasks.countP ManagerTask.initiates • (tariff.attempt + tariff.offer) +
      tasks.countP ManagerTask.acknowledges • tariff.ack +
      tasks.countP ManagerTask.connects • tariff.established := by
  have single (task : ManagerTask) : tariff.debt task =
      (if task.initiates then 1 else 0) • (tariff.attempt + tariff.offer) +
        (if task.acknowledges then 1 else 0) • tariff.ack +
        (if task.connects then 1 else 0) • tariff.established := by
    cases task <;> simp [Tariff.debt, ManagerTask.initiates, ManagerTask.acknowledges, ManagerTask.connects]
  induction tasks with
  | nil => simp
  | cons task rest inductionHypothesis =>
      simp only [List.map_cons, List.sum_cons, inductionHypothesis, single, List.countP_cons, add_nsmul]
      abel

/-- In a run that has settled, the prices of what happened add up to the prices of the tasks. -/
theorem settled_total (config : P2PConfig) (held : P2PStats → G)
    (counted : ∀ update stats, held (StatsUpdate.run update stats) = held stats + tariff.update update)
    {promise : (managerPool Addr config).Promise} {last : (managerPool Addr config).Configuration}
    (reached : Pool.Reaches promise ⟨{}, []⟩ last) (done : ∀ entry ∈ last.tasks, entry.2 = .done ()) :
    held last.state.stats + (last.state.sent.countP isOffer • tariff.offer +
        last.state.sent.countP isAck • tariff.ack +
        last.state.sent.countP isRelayReport • tariff.relayReport) =
      held {} + ((last.tasks.map Prod.fst).countP ManagerTask.initiates • (tariff.attempt + tariff.offer) +
        (last.tasks.map Prod.fst).countP ManagerTask.acknowledges • tariff.ack +
        (last.tasks.map Prod.fst).countP ManagerTask.connects • tariff.established) := by
  have even := (tariff.account Addr config held counted).settled reached done
  change held last.state.stats + (last.state.sent.map tariff.event).sum =
    held {} + (([] : List UiEvent).map tariff.event).sum + ((last.tasks.map Prod.fst).map tariff.debt).sum at even
  rwa [events_total, tasks_total, List.map_nil, List.sum_nil, add_zero] at even

end

/-- The counters wrap around at 64 bits. -/
abbrev Wrapped := ZMod (2 ^ 64)

/-- Only the counted attempts cost. -/
def attemptTariff : Tariff Wrapped := { attempt := 1, concludes := add_zero 0 }

/-- Only the sent offers cost. -/
def offerTariff : Tariff ℤ := { offer := 1, concludes := add_zero 0 }

/-- Only the sent acknowledgements cost. -/
def ackTariff : Tariff ℤ := { ack := 1, concludes := add_zero 0 }

/-- A success and a fallback conclude a connect task alike. -/
def conclusionTariff : Tariff Wrapped := { established := 1, fallback := 1, concludes := add_zero 1 }

/-- Nothing costs, and the held difference of the two success counters is what is left. -/
def successTariff : Tariff Wrapped := { concludes := add_zero 0 }

/-- Each fallback pays for its report. -/
def reportTariff : Tariff Wrapped := { fallback := -1, relayReport := 1, concludes := neg_add_cancel 1 }

/-- No task is left. -/
def AllDone (tasks : List (ManagerTask × PeerM Addr Unit)) : Prop :=
  ∀ entry ∈ tasks, entry.2 = .done ()

/-- It can be read off the programs. -/
theorem allDone_of_finished {tasks : List (ManagerTask × PeerM Addr Unit)}
    (finished : (tasks.all fun entry => hasFinished entry.2) = true) : AllDone tasks := by
  rintro ⟨task, program⟩ member
  have done : hasFinished program = true := List.all_eq_true.mp finished _ member
  cases program with
  | done => rfl
  | ask => cases done
  | loop => cases done

/-- The counters are those of the tasks and the events, up to the wrap at 64 bits. -/
structure AccountsSettled (manager : Manager Addr) (tasks : List ManagerTask) : Prop where
  attempts : manager.stats.handoffAttempts ≡ tasks.countP ManagerTask.initiates [MOD 2 ^ 64]
  offers : manager.sent.countP isOffer = tasks.countP ManagerTask.initiates
  acks : manager.sent.countP isAck = tasks.countP ManagerTask.acknowledges
  stored : manager.nextConnection = tasks.countP ManagerTask.connects
  concluded : manager.stats.connectionsEstablished + manager.stats.fallbacksToRelay ≡ manager.nextConnection
    [MOD 2 ^ 64]
  successes : manager.stats.handoffsSuccessful ≡ manager.stats.connectionsEstablished [MOD 2 ^ 64]
  reports : manager.sent.countP isRelayReport ≡ manager.stats.fallbacksToRelay [MOD 2 ^ 64]

/-- A wrapped counter counts on. -/
theorem cast_increment (counter : Nat) : ((increment counter : Nat) : Wrapped) = counter + 1 := by
  unfold increment
  rw [ZMod.natCast_mod]
  push_cast
  rfl

section
variable [SocketAddr Addr] {config : P2PConfig}

/-- Each stored connection has its own connect task. -/
theorem stored_connects {last : (managerPool Addr config).Configuration}
    (reached : Pool.Reaches (platformPromise Addr config) ⟨{}, []⟩ last) :
    last.state.nextConnection = (last.tasks.map Prod.fst).countP ManagerTask.connects := by
  induction reached with
  | refl => rfl
  | tail _ step inductionHypothesis =>
      cases step with
      | call task kept =>
          have silent : task.connects = false := by
            cases task with
            | connect => cases kept
            | _ => rfl
          simpa [silent] using inductionHypothesis
      | @answer B state after before later task op next value choice kept answered =>
          have done : op.exec choice state = (value, after) := Option.some.inj answered
          have fresh : after.nextConnection = state.nextConnection +
              (op.starts value).toList.countP ManagerTask.connects := by
            cases op <;> cases done <;> rfl
          simp only [List.map_append, List.map_cons, List.countP_append, List.countP_cons,
            Pool.started_tasks] at inductionHypothesis ⊢
          omega
      | turn => simpa using inductionHypothesis

end

/-- One call offers the local candidates, and one peer's offer is acknowledged and connected. -/
def settledRun : (managerPool String handoffConfig).Configuration :=
  Pool.run ⟨{}, []⟩ (.call (.initiateHandoff "u" "d") :: List.replicate 5 (.step 0 {}) ++
    .call (.handleHandoffInitiate "u" "d" [.lan "a" none]) :: List.replicate 7 (.step 1 {}) ++
    List.replicate 11 (.step 2 { datagram := .received 1 "a" }))

instance (task : ManagerTask) (state : (managerPool String handoffConfig).State) :
    Decidable ((platformPromise String handoffConfig).calls task state) :=
  inferInstanceAs (Decidable (task.isCall = true))

instance (A : Type) (task : ManagerTask) (op : PeerOp String A)
    (choice : (managerPool String handoffConfig).Choice) (state : (managerPool String handoffConfig).State) :
    Decidable ((platformPromise String handoffConfig).answers task op choice state) := isTrue trivial

end ConstructEngine.P2P
