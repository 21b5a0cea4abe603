import ConstructEngine.Proof.Tables

namespace ConstructEngine.P2P

open Interaction Program

variable {Addr A : Type}

/-- This is what one attempt reads and does. The last status that it wrote is written down too. -/
structure AttemptNote where
  status : PeerStatus
  candidates : List ICECandidate := []
  spawned : Option ManagerTask := none
  answered : Bool := false
  ponged : Bool := false
  established : Nat := 0
  fallbacks : Nat := 0
  reports : List (String × Bool) := []

/-- A probe is answered by a datagram with content, and a ping by a pong. -/
def AttemptNote.write : {A : Type} → PeerOp Addr A → A → AttemptNote → AttemptNote
  | _, .peersLock (.setStatus _ status), _, note => { note with status }
  | _, .peersLock (.candidatesRead _), candidates, note => { note with candidates }
  | _, .connectionsInsert key connection candidates, id, note =>
      { note with spawned := (PeerOp.connectionsInsert key connection candidates).starts id }
  | _, .recvProbe _ _, .received length _, note => { note with answered := note.answered || 0 < length }
  | _, .recvData _ _, some (.ok data), note => { note with ponged := note.ponged || data = pong }
  | _, .statsLock .established, _, note => { note with established := note.established + 1 }
  | _, .statsLock .fallback, _, note => { note with fallbacks := note.fallbacks + 1 }
  | _, .eventSend (.p2pStatusReport peerId connected _ _), _, note =>
      { note with reports := note.reports ++ [(peerId, connected)] }
  | _, _, _, note => note

/-- This is the task that the attempt spawned. Without candidates there is none. -/
def AttemptNote.task [SocketAddr Addr] (config : P2PConfig) (note : AttemptNote) : PeerM Addr Unit :=
  match note.spawned with
  | some task => task.body config
  | none => .done ()

/-- While no other attempt for the peer runs, the rest of the manager can change everything but this
peer. Its latency can be reported, and a handoff that is initiated resets its status. -/
inductive AttemptMove (Addr : Type) where
  | elsewhere (other : Manager Addr)
  | latency (latencyMs : Nat)
  | handshake (userId deviceId : String)

/-- A status that a handoff resets stays so until the attempt writes the next one. -/
structure AttemptState (Addr : Type) where
  manager : Manager Addr
  note : AttemptNote
  reset : Bool := false

def PeerOp.resets : {A : Type} → PeerOp Addr A → Bool → Bool
  | _, .peersLock (.setStatus _ _), _ => false
  | _, _, reset => reset

def AttemptMove.run (key : String) : AttemptMove Addr → AttemptState Addr → AttemptState Addr
  | .elsewhere other, state => { state with
      manager := { other with peers := Function.update other.peers key (state.manager.peers key) } }
  | .latency latencyMs, state => { state with
      manager := { state.manager with peers := ((PeersSection.setLatency key latencyMs).run state.manager.peers).2 } }
  | .handshake userId deviceId, state => { state with
      manager := { state.manager with
        peers := ((PeersSection.handshake key userId deviceId).run state.manager.peers).2 }
      reset := true }

abbrev attemptMachine (Addr : Type) (key : String) : Machine (PeerOp Addr) where
  State := AttemptState Addr
  Choice := PeerChoice Addr
  Move := AttemptMove Addr
  exec op choice state :=
    let (answer, manager) := op.exec choice state.manager
    some (answer, ⟨manager, state.note.write op answer, op.resets state.reset⟩)
  move move state := some (move.run key state)

/-- The status, the one report and the counters tell the same outcome. -/
structure Outcome (peerUserId : String) (status : Option PeerStatus) (note : AttemptNote) (connected : Bool) :
    Prop where
  status : status = some (if connected then .connected else .failed)
  reports : note.reports = [(peerUserId, connected)]
  established : note.established = if connected then 1 else 0
  fallbacks : note.fallbacks = if connected then 0 else 1

def AttemptConcluded (peerUserId : String) (status : Option PeerStatus) (note : AttemptNote) : Prop :=
  ∃ connected, Outcome peerUserId status note connected

/-- The attempt has a candidate, a connection that is established is also measured, and no handoff
resets the last status. -/
structure ConclusionCondition (state : AttemptState Addr) : Prop where
  candidates : state.note.candidates ≠ []
  measured : state.note.answered = true → state.note.ponged = true
  kept : state.reset = false

section
variable {key : String}

/-- The notes belong to the attempt. -/
def ownNote (Addr : Type) (key : String) : (attemptMachine Addr key).Owned AttemptNote where
  view := AttemptState.note
  kept move state after moved := by
    cases moved
    cases move <;> rfl

/-- An attempt writes the status of its own peer and nothing else in the table. -/
def PeerOp.own (key : String) : {A : Type} → PeerOp Addr A → Prop
  | _, .peersLock (.setStatus peerKey _) => peerKey = key
  | _, .peersLock (.candidatesRead _) => True
  | _, .peersLock _ => False
  | _, _ => True

abbrev AttemptSafe (key : String) (program : PeerM Addr A) (result : A → AttemptNote → Prop)
    (note : AttemptNote) : Prop :=
  (ownNote Addr key).Safe (Machine.Promise.any (attemptMachine Addr key)) (fun op _ => op.own key) program
    result note

variable {note : AttemptNote}

/-- One operation writes one note about its answer, and the rest continues with it. -/
theorem attempt_step {C : Type} {op : PeerOp Addr A} {rest : A → PeerM Addr C}
    {result : C → AttemptNote → Prop} (own : op.own key)
    (later : ∀ answer, AttemptSafe key (rest answer) result (note.write op answer)) :
    AttemptSafe key (perform op >>= rest) result note := by
  refine Machine.Owned.safe_step (fun _ _ => own) fun state choice value after same _ answered => ?_
  cases Option.some.inj answered
  subst same
  exact later _

/-- The last operation of a program leaves its note. -/
theorem attempt_last {op : PeerOp Addr A} {result : A → AttemptNote → Prop} (own : op.own key)
    (now : ∀ answer, result answer (note.write op answer)) : AttemptSafe key (perform op) result note := by
  refine Machine.Owned.safe_perform (fun _ _ => own) fun state choice value after same _ answered => ?_
  cases Option.some.inj answered
  subst same
  exact now _

theorem attempt_done {result : A → AttemptNote → Prop} {value : A} (now : result value note) :
    AttemptSafe key (.done value : PeerM Addr A) result note :=
  Machine.Owned.safe_done now

/-- A send leaves no note. -/
theorem send_notes (id : Nat) (data : List UInt8) :
    AttemptSafe key (send id data : PeerM Addr _) (fun _ after => after = note) note := by
  refine attempt_step trivial fun known => ?_
  cases known with
  | none => exact attempt_done rfl
  | some addr =>
      refine attempt_step trivial fun sent => ?_
      cases sent with
      | error message => exact attempt_done rfl
      | ok length => exact attempt_step trivial fun _ => attempt_done rfl

/-- A receive takes note of a pong. -/
theorem receive_notes (id : Nat) (limitMs : Option Nat) (silent : note.ponged = false) :
    AttemptSafe key (receive id limitMs : PeerM Addr _) (fun answer after =>
      after = { note with ponged := decide (answer = some (.ok pong)) }) note := by
  have unheard : note = { note with ponged := false } := by rw [← silent]
  refine attempt_step trivial fun known => ?_
  cases known with
  | none => exact attempt_done unheard
  | some addr =>
      refine attempt_step trivial fun received => ?_
      rcases received with _ | message | data
      · exact attempt_done unheard
      · exact attempt_done unheard
      · refine attempt_step trivial fun _ => attempt_done ?_
        change { note with ponged := note.ponged || decide (data = pong) } = _
        rw [silent, Bool.false_or]
        simp

/-- A round trip is measured exactly when a pong is received. -/
theorem measureRtt_notes (id : Nat) (silent : note.ponged = false) :
    AttemptSafe key (measureRtt id : PeerM Addr _) (fun rtt after =>
      after = { note with ponged := rtt.isSome }) note := by
  have unheard : note = { note with ponged := false } := by rw [← silent]
  refine attempt_step trivial fun state => ?_
  split
  · exact attempt_done unheard
  refine attempt_step trivial fun start => ?_
  refine (send_notes id ping).andThen fun sent after same => ?_
  subst same
  cases sent with
  | error message => exact attempt_done unheard
  | ok length =>
      refine (receive_notes id (some 2000) silent).andThen fun answer after same => ?_
      subst same
      rcases answer with _ | message | data
      · exact attempt_done rfl
      · exact attempt_done rfl
      · dsimp only
        split
        · next heard =>
          refine attempt_step trivial fun now => attempt_step trivial fun _ => attempt_done ?_
          simp [AttemptNote.write, heard]
        · next other =>
          refine attempt_done ?_
          simp [other]

variable [SocketAddr Addr]

/-- A candidate succeeds exactly when its probe is answered. -/
theorem tryConnectToCandidate_notes (id : Nat) (candidate : ICECandidate) (silent : note.answered = false) :
    AttemptSafe key (tryConnectToCandidate id candidate : PeerM Addr _) (fun answer after =>
      after = { note with answered := answer.isOk }) note := by
  have unanswered : note = { note with answered := false } := by rw [← silent]
  refine tryConnectToCandidate_owned (fun _ after => after = { note with answered := true }) (fun _ => unanswered)
    ?_ ?_ ?_
  · exact fun addr => attempt_last trivial fun _ => rfl
  · refine fun addr _ => attempt_last trivial fun datagram => ?_
    have written : note.write (.recvProbe id addr) datagram = { note with answered := datagram.hasContent } := by
      cases datagram with
      | received length source =>
          change { note with answered := note.answered || decide (0 < length) } = _
          rw [silent, Bool.false_or]
          rfl
      | _ => exact unanswered
    rw [written]
    split
    · next content => rw [content]
    · next empty =>
      rw [Bool.eq_false_iff.mpr empty]
      exact fun _ => rfl
  · rintro addr _ rfl
    exact attempt_last trivial fun _ => rfl

theorem tryCandidates_notes (id : Nat) (candidates : List ICECandidate) (silent : note.answered = false) :
    AttemptSafe key (tryCandidates id candidates : PeerM Addr _) (fun answer after =>
      after = { note with answered := answer.isOk }) note := by
  induction candidates generalizing note with
  | nil =>
      have unanswered : note = { note with answered := false } := by rw [← silent]
      exact attempt_step trivial fun _ => attempt_done unanswered
  | cons candidate rest inductionHypothesis =>
      refine (tryConnectToCandidate_notes id candidate silent).andThen fun answer after same => ?_
      subst same
      cases answer with
      | error message => exact inductionHypothesis rfl
      | ok value => exact attempt_step trivial fun _ => attempt_done rfl

/-- A connect succeeds exactly when a probe is answered. -/
theorem connect_notes (id : Nat) (candidates : List ICECandidate) (silent : note.answered = false) :
    AttemptSafe key (connect id candidates : PeerM Addr _) (fun answer after =>
      after = { note with answered := answer.isOk }) note :=
  attempt_step trivial fun _ => tryCandidates_notes id _ silent

/-- The attempt leaves these notes at its end. -/
def AttemptNote.settled (note : AttemptNote) (peerUserId : String) (answered ponged : Bool) : AttemptNote :=
  if answered then
    { note with
      answered
      ponged
      established := note.established + 1
      status := .connected
      reports := note.reports ++ if ponged then [(peerUserId, true)] else [] }
  else
    { note with
      answered
      fallbacks := note.fallbacks + 1
      status := .failed
      reports := note.reports ++ [(peerUserId, false)] }

theorem connectTask_notes (peerUserId : String) (id : Nat) (candidates : List ICECandidate)
    (unanswered : note.answered = false) (unheard : note.ponged = false) :
    AttemptSafe key (connectTask key peerUserId id candidates : PeerM Addr _)
      (fun _ after => ∃ answered ponged, after = note.settled peerUserId answered ponged) note := by
  refine (connect_notes id candidates unanswered).andThen fun result after same => ?_
  subst same
  cases result with
  | error message =>
      refine attempt_step rfl fun _ => attempt_step trivial fun _ => attempt_last trivial fun _ => ?_
      exact ⟨false, false, rfl⟩
  | ok value =>
      refine attempt_step trivial fun _ => attempt_step rfl fun _ => ?_
      refine Machine.Owned.Safe.andThen (measureRtt_notes id ?_) fun rtt after same => ?_
      · exact unheard
      subst same
      cases rtt with
      | none =>
          refine attempt_done ⟨true, false, ?_⟩
          simp [AttemptNote.settled, AttemptNote.write, Except.isOk, Except.toBool]
      | some rtt => exact attempt_last trivial fun _ => ⟨true, true, rfl⟩

omit [SocketAddr Addr] in
/-- An attempt with candidates spawns one task, and one without spawns none. -/
theorem attemptConnection_notes (config : P2PConfig) (peerUserId peerDeviceId : String) :
    AttemptSafe (peerKey peerUserId peerDeviceId)
      (attemptConnection config peerUserId peerDeviceId : PeerM Addr _)
      (fun _ after => ∃ candidates spawned,
        after = { note with status := .connecting, candidates, spawned } ∧
          (candidates = [] ∧ spawned = note.spawned ∨ candidates ≠ [] ∧ ∃ id,
            spawned = some (.connect (peerKey peerUserId peerDeviceId) peerUserId id candidates))) note := by
  refine attempt_step rfl fun _ => attempt_step trivial fun candidates => ?_
  dsimp only
  split
  · next empty =>
    exact attempt_done ⟨candidates, note.spawned, rfl, .inl ⟨List.isEmpty_iff.mp empty, rfl⟩⟩
  · next filled =>
    refine attempt_step trivial fun id => attempt_done ⟨candidates, _, rfl, .inr ⟨?_, id, rfl⟩⟩
    exact fun empty => filled (List.isEmpty_iff.mpr empty)

/-- The peer is known, and its status is the last one written unless a handoff has reset it. -/
def StatusKept (key : String) (state : AttemptState Addr) : Prop :=
  ∃ peer, state.manager.peers key = some peer ∧
    peer.status = if state.reset then .handshaking else state.note.status

omit [SocketAddr Addr] in
theorem AttemptMove.run_kept {state : AttemptState Addr} (kept : StatusKept key state)
    (move : AttemptMove Addr) : StatusKept key (move.run key state) := by
  obtain ⟨peer, known, status⟩ := kept
  cases move with
  | elsewhere other => exact ⟨peer, (Function.update_self ..).trans known, status⟩
  | latency latencyMs =>
      refine ⟨{ peer with latencyMs := some latencyMs }, ?_, status⟩
      exact (Function.update_self ..).trans (by rw [known]; rfl)
  | handshake userId deviceId =>
      refine ⟨{ peer with status := .handshaking }, ?_, rfl⟩
      exact (Function.update_self ..).trans (by rw [known])

omit [SocketAddr Addr] in
/-- The operations of the attempt keep the peer and write down its status. -/
theorem own_kept {op : PeerOp Addr A} {choice : PeerChoice Addr} {state : AttemptState Addr}
    (kept : StatusKept key state) (own : op.own key) :
    StatusKept key ⟨(op.exec choice state.manager).2,
      state.note.write op (op.exec choice state.manager).1, op.resets state.reset⟩ := by
  obtain ⟨peer, known, status⟩ := kept
  cases op with
  | peersLock region =>
      cases region with
      | setStatus peerKey written =>
          have same : peerKey = key := own
          subst same
          refine ⟨{ peer with status := written }, ?_, rfl⟩
          exact (Function.update_self ..).trans (by rw [known]; rfl)
      | candidatesRead peerKey => exact ⟨peer, known, status⟩
      | _ => exact own.elim
  | statsLock update => cases update <;> exact ⟨peer, known, status⟩
  | recvProbe id addr =>
      refine ⟨peer, known, ?_⟩
      change peer.status = if state.reset then _ else (state.note.write _ choice.datagram).status
      cases choice.datagram <;> exact status
  | recvData id limitMs =>
      refine ⟨peer, known, ?_⟩
      change peer.status = if state.reset then _ else (state.note.write _ choice.received).status
      rcases choice.received with _ | _ | _ <;> exact status
  | eventSend event => cases event <;> exact ⟨peer, known, status⟩
  | _ => exact ⟨peer, known, status⟩

omit [SocketAddr Addr] in
/-- A run of the attempt or of its task keeps the peer. -/
theorem statusKept_run {program later : PeerM Addr A} {result : A → AttemptNote → Prop}
    {state after : AttemptState Addr} (safe : AttemptSafe key program result state.note)
    (kept : StatusKept key state)
    (reached : Machine.Reaches (Machine.Promise.any (attemptMachine Addr key)) (state, program) (after, later)) :
    StatusKept key after := by
  refine (safe state rfl).invariant (StatusKept key) ?_ ?_ kept reached
  · intro move state after kept _ moved
    cases Option.some.inj moved
    exact move.run_kept kept
  · intro B op choice state value after own kept _ answered
    cases Option.some.inj answered
    exact own_kept kept own

omit [SocketAddr Addr] in
/-- The attempt and its task tell the same outcome exactly when a pong follows an answer and the last
status is kept. -/
theorem settled_concluded {peerUserId : String} {answered ponged reset : Bool}
    (silent : note.reports = []) (uncounted : note.established = 0 ∧ note.fallbacks = 0) :
    AttemptConcluded peerUserId
        (some (if reset then .handshaking else (note.settled peerUserId answered ponged).status))
        (note.settled peerUserId answered ponged) ↔
      ((answered = true → ponged = true) ∧ reset = false) := by
  obtain ⟨unestablished, unfallen⟩ := uncounted
  constructor
  · rintro ⟨connected, outcome⟩
    refine ⟨fun established => ?_, ?_⟩
    · subst established
      cases ponged with
      | true => rfl
      | false =>
          have reports := outcome.reports
          simp [AttemptNote.settled, silent] at reports
    · cases reset with
      | false => rfl
      | true =>
          have status := outcome.status
          cases connected <;> simp at status
  · rintro ⟨measured, rfl⟩
    refine ⟨answered, ?_⟩
    cases answered with
    | false =>
        exact ⟨rfl, congrArg (· ++ [(peerUserId, false)]) silent, unestablished,
          congrArg (· + 1) unfallen⟩
    | true =>
        cases measured rfl
        exact ⟨rfl, congrArg (· ++ [(peerUserId, true)]) silent, congrArg (· + 1) unestablished, unfallen⟩

omit [SocketAddr Addr] in
theorem settled_condition {peerUserId : String} {answered ponged reset : Bool} {manager : Manager Addr}
    (filled : note.candidates ≠ []) :
    ConclusionCondition ⟨manager, note.settled peerUserId answered ponged, reset⟩ ↔
      ((answered = true → ponged = true) ∧ reset = false) := by
  have listed : (note.settled peerUserId answered ponged).candidates = note.candidates := by
    unfold AttemptNote.settled
    split <;> rfl
  have measured : ((note.settled peerUserId answered ponged).answered = true →
      (note.settled peerUserId answered ponged).ponged = true) ↔ (answered = true → ponged = true) := by
    cases answered with
    | false => exact ⟨fun _ impossible => (by cases impossible), fun _ impossible => (by cases impossible)⟩
    | true => exact Iff.rfl
  constructor
  · exact fun condition => ⟨measured.mp condition.measured, condition.kept⟩
  · exact fun condition =>
      ⟨fun empty => filled (listed.symm.trans empty), measured.mpr condition.1, condition.2⟩

/-- Nothing is answered, counted or reported before the task starts. -/
structure AttemptNote.Fresh (note : AttemptNote) : Prop where
  unanswered : note.answered = false
  unheard : note.ponged = false
  unestablished : note.established = 0
  unfallen : note.fallbacks = 0
  silent : note.reports = []

omit [SocketAddr Addr] in
/-- Without a task the attempt reports nothing. -/
theorem unspawned_concluded {peerUserId : String} {middle after : AttemptState Addr} (fresh : middle.note.Fresh)
    (empty : middle.note.candidates = [])
    (finished : Machine.Reaches (Machine.Promise.any (attemptMachine Addr key)) (middle, .done ())
      (after, .done ())) :
    AttemptConcluded peerUserId ((after.manager.peers key).map PeerInfo.status) after.note ↔
      ConclusionCondition after := by
  have idle : AttemptSafe key (.done () : PeerM Addr Unit) (fun _ last => last = middle.note) middle.note :=
    attempt_done rfl
  have unchanged : after.note = middle.note := (idle middle rfl _ _ finished).2 () rfl
  constructor
  · rintro ⟨connected, outcome⟩
    have reports := outcome.reports
    rw [unchanged, fresh.silent] at reports
    cases reports
  · intro condition
    exact absurd (congrArg AttemptNote.candidates unchanged |>.trans empty) condition.candidates

/-- The task concludes the attempt exactly under the condition. -/
theorem connectTask_concluded {peerUserId : String} {id : Nat} {candidates : List ICECandidate}
    {middle after : AttemptState Addr} (kept : StatusKept key middle) (fresh : middle.note.Fresh)
    (filled : middle.note.candidates ≠ [])
    (finished : Machine.Reaches (Machine.Promise.any (attemptMachine Addr key))
      (middle, connectTask key peerUserId id candidates) (after, .done ())) :
    AttemptConcluded peerUserId ((after.manager.peers key).map PeerInfo.status) after.note ↔
      ConclusionCondition after := by
  have task : AttemptSafe key (connectTask key peerUserId id candidates : PeerM Addr _) _ middle.note :=
    connectTask_notes peerUserId id candidates fresh.unanswered fresh.unheard
  obtain ⟨answered, ponged, settled⟩ := (task middle rfl _ _ finished).2 () rfl
  obtain ⟨last, known, status⟩ := statusKept_run task kept finished
  rcases after with ⟨manager, note, reset⟩
  have settled : note = middle.note.settled peerUserId answered ponged := settled
  subst settled
  change AttemptConcluded peerUserId ((manager.peers key).map PeerInfo.status) _ ↔ _
  rw [known, Option.map_some, status]
  exact (settled_concluded fresh.silent ⟨fresh.unestablished, fresh.unfallen⟩).trans
    (settled_condition filled).symm

/-- Every attempt with a known peer is concluded and reported once exactly under the condition. -/
theorem attempt_concluded (config : P2PConfig) (peerUserId peerDeviceId : String) {manager : Manager Addr}
    {peer : PeerInfo} (known : manager.peers (peerKey peerUserId peerDeviceId) = some peer)
    {middle after : AttemptState Addr}
    (attempted : Machine.Reaches (Machine.Promise.any (attemptMachine Addr (peerKey peerUserId peerDeviceId)))
      (⟨manager, { status := peer.status }, false⟩, attemptConnection config peerUserId peerDeviceId)
      (middle, .done ()))
    (finished : Machine.Reaches (Machine.Promise.any (attemptMachine Addr (peerKey peerUserId peerDeviceId)))
      (middle, middle.note.task config) (after, .done ())) :
    AttemptConcluded peerUserId ((after.manager.peers (peerKey peerUserId peerDeviceId)).map PeerInfo.status)
      after.note ↔ ConclusionCondition after := by
  have kept : StatusKept (peerKey peerUserId peerDeviceId)
      (⟨manager, { status := peer.status }, false⟩ : AttemptState Addr) := ⟨peer, known, rfl⟩
  have attempt : AttemptSafe _ (attemptConnection config peerUserId peerDeviceId : PeerM Addr _) _
      { status := peer.status } := attemptConnection_notes config peerUserId peerDeviceId
  have keptMiddle := statusKept_run attempt kept attempted
  obtain ⟨candidates, spawned, noted, outcome⟩ := (attempt _ rfl _ _ attempted).2 () rfl
  have noted : middle.note = { status := .connecting, candidates, spawned } := noted
  have fresh : middle.note.Fresh := by
    rw [noted]
    exact ⟨rfl, rfl, rfl, rfl, rfl⟩
  have listed : middle.note.candidates = candidates := by rw [noted]
  rcases outcome with ⟨empty, unspawned⟩ | ⟨filled, id, spawns⟩
  · have nothing : middle.note.task config = (.done () : PeerM Addr Unit) := by
      rw [noted, unspawned]
      rfl
    rw [nothing] at finished
    exact unspawned_concluded fresh (listed.trans empty) finished
  · have task : middle.note.task config = (connectTask (peerKey peerUserId peerDeviceId) peerUserId id candidates :
        PeerM Addr Unit) := by
      rw [noted, spawns]
      rfl
    rw [task] at finished
    exact connectTask_concluded keptMiddle fresh (by rwa [listed]) finished

end

/-- The peer is known with these candidates. -/
def attemptStart (candidates : List ICECandidate) : AttemptState String where
  manager :=
    { peers := Function.update (fun _ => none) (peerKey "u" "d")
        (some ⟨"u", "d", candidates, .handshaking, none⟩) }
  note := { status := .handshaking }

def attempted (candidates : List ICECandidate) :
    (attemptMachine String (peerKey "u" "d")).Configuration Unit :=
  Machine.run (attemptStart candidates, attemptConnection handoffConfig "u" "d") (List.replicate 3 (.answer {}))

/-- Every wait of the task is answered. -/
def concluded (candidates : List ICECandidate) :
    (attemptMachine String (peerKey "u" "d")).Configuration Unit :=
  Machine.run ((attempted candidates).1, (attempted candidates).1.note.task handoffConfig)
    (List.replicate 18 (.answer { datagram := .received 1 peerAddr, sent := .ok 4, received := some (.ok pong) }))

theorem attempted_reaches {candidates : List ICECandidate} (ended : (attempted candidates).2 = .done ()) :
    Machine.Reaches (Machine.Promise.any _)
      (attemptStart candidates, attemptConnection handoffConfig "u" "d") ((attempted candidates).1, .done ()) := by
  rw [← ended]
  exact Machine.run_reaches (Machine.allAllowed_any _ _)

theorem concluded_reaches {candidates : List ICECandidate} (ended : (concluded candidates).2 = .done ()) :
    Machine.Reaches (Machine.Promise.any _)
      ((attempted candidates).1, (attempted candidates).1.note.task handoffConfig)
      ((concluded candidates).1, .done ()) := by
  rw [← ended]
  exact Machine.run_reaches (Machine.allAllowed_any _ _)

/-- An attempt without candidates leaves its peer connecting and reports nothing. -/
theorem attempt_concluded_fails :
    ¬ ∀ (candidates : List ICECandidate) (middle after : AttemptState String),
      Machine.Reaches (Machine.Promise.any (attemptMachine String (peerKey "u" "d")))
        (attemptStart candidates, attemptConnection handoffConfig "u" "d") (middle, .done ()) →
      Machine.Reaches (Machine.Promise.any (attemptMachine String (peerKey "u" "d")))
        (middle, middle.note.task handoffConfig) (after, .done ()) →
      AttemptConcluded "u" ((after.manager.peers (peerKey "u" "d")).map PeerInfo.status) after.note := by
  intro told
  obtain ⟨connected, outcome⟩ := told [] _ _ (attempted_reaches rfl) (concluded_reaches rfl)
  exact absurd outcome.reports (List.cons_ne_nil _ _).symm

/-- An attempt whose probe and ping are answered is concluded. -/
theorem attempt_concluded_measured :
    AttemptConcluded "u" (((concluded [.lan peerAddr none]).1.manager.peers (peerKey "u" "d")).map PeerInfo.status)
      (concluded [.lan peerAddr none]).1.note := by
  have known : (attemptStart [.lan peerAddr none]).manager.peers (peerKey "u" "d") =
      some ⟨"u", "d", [.lan peerAddr none], .handshaking, none⟩ := rfl
  exact (attempt_concluded handoffConfig "u" "d" known (attempted_reaches rfl) (concluded_reaches rfl)).mpr
    ⟨List.cons_ne_nil _ _, fun _ => rfl, rfl⟩

end ConstructEngine.P2P
