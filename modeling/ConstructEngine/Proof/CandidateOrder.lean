import ConstructEngine.Interaction.Trace
import ConstructEngine.Proof.Tables
import Mathlib.Data.List.Perm.Subperm

namespace ConstructEngine.P2P

open Interaction Program

variable {Addr : Type}

/-- A tried candidate is written down with its answer. -/
structure Try where
  candidate : ICECandidate
  succeeded : Bool
  deriving DecidableEq

section
variable [SocketAddr Addr]

/-- The first candidate that succeeds ends the attempt, and the tries are written down. -/
def tryCandidatesTraced (id : Nat) : List ICECandidate → PeerM Addr (List Try × Except String Unit)
  | [] => do
      perform (.connectionLock id (.stateWrite .failed))
      return ([], .error "All ICE candidates failed")
  | candidate :: rest => do
      match ← tryConnectToCandidate id candidate with
      | .ok () =>
          perform (.connectionLock id (.stateWrite .connected))
          return ([⟨candidate, true⟩], .ok ())
      | .error _ =>
          let (tries, result) ← tryCandidatesTraced id rest
          return (⟨candidate, false⟩ :: tries, result)

def connectTraced (id : Nat) (candidates : List ICECandidate) :
    PeerM Addr (List Try × Except String Unit) := do
  perform (.connectionLock id (.stateWrite .connecting))
  tryCandidatesTraced id (sortedCandidates candidates)

theorem tryCandidatesTraced_value (id : Nat) (candidates : List ICECandidate) :
    (do return (← tryCandidatesTraced id candidates).2 : PeerM Addr _) = tryCandidates id candidates := by
  induction candidates with
  | nil => rfl
  | cons candidate rest inductionHypothesis =>
      change Program.bind (Program.bind _ _) _ = Program.bind _ _
      rw [bind_assoc]
      congr 1
      funext answer
      rcases answer with message | ⟨⟩
      · change Program.bind (Program.bind _ _) _ = tryCandidates id rest
        rw [bind_assoc, ← inductionHypothesis]
        rfl
      · rfl

/-- Without the tries, the traced connection attempt is the connection attempt. -/
theorem connectTraced_value (id : Nat) (candidates : List ICECandidate) :
    (do return (← connectTraced id candidates).2 : PeerM Addr _) = connect id candidates := by
  change Program.bind (Program.bind _ _) _ = Program.bind _ _
  rw [bind_assoc]
  congr 1
  funext answer
  exact tryCandidatesTraced_value id (sortedCandidates candidates)

end

/-- The list is tried from its head on, up to the first success. -/
inductive Tried : List ICECandidate → List Try → Bool → Prop
  | none : Tried [] [] false
  | succeeded (candidate : ICECandidate) (rest : List ICECandidate) :
      Tried (candidate :: rest) [⟨candidate, true⟩] true
  | failed (candidate : ICECandidate) {rest : List ICECandidate} {tries : List Try} {ok : Bool}
      (later : Tried rest tries ok) : Tried (candidate :: rest) (⟨candidate, false⟩ :: tries) ok

section
variable [SocketAddr Addr] {machine : Machine (PeerOp Addr)} (promise : machine.Promise)

/-- Whatever the environment answers, the candidates are tried in the order of the list. -/
theorem tryCandidatesTraced_tried (id : Nat) (candidates : List ICECandidate) (state : machine.State) :
    Machine.Holds promise (fun _ _ => True) (tryCandidatesTraced id candidates)
      (fun outcome _ => Tried candidates outcome.1 outcome.2.isOk) state := by
  induction candidates generalizing state with
  | nil =>
      refine Machine.holds_bind (Machine.holds_trivial _ state) fun _ after _ => ?_
      exact Machine.holds_done (Machine.stable_const _) .none
  | cons candidate rest inductionHypothesis =>
      refine Machine.holds_bind (Machine.holds_trivial _ state) fun answer after _ => ?_
      rcases answer with message | ⟨⟩
      · refine Machine.holds_bind (inductionHypothesis after) fun outcome last tried => ?_
        exact Machine.holds_done (Machine.stable_const _) (.failed candidate tried)
      · refine Machine.holds_bind (Machine.holds_trivial _ after) fun _ last _ => ?_
        exact Machine.holds_done (Machine.stable_const _) (.succeeded candidate rest)

theorem connectTraced_tried (id : Nat) (candidates : List ICECandidate) (state : machine.State) :
    Machine.Holds promise (fun _ _ => True) (connectTraced id candidates)
      (fun outcome _ => Tried (sortedCandidates candidates) outcome.1 outcome.2.isOk) state :=
  Machine.holds_bind (Machine.holds_trivial _ state) fun _ after _ =>
    tryCandidatesTraced_tried promise id (sortedCandidates candidates) after

end

/-- These candidates failed. -/
def failedOf (tries : List Try) : List ICECandidate :=
  (tries.filter fun single => !single.succeeded).map Try.candidate

/-- A candidate of this type is tried only when every candidate of the earlier types has failed. -/
def Behind (candidates : List ICECandidate) (type : CandidateType) (earlier : CandidateType → Bool)
    (before : List Try) (single : Try) : Prop :=
  single.candidate.candidateType = type →
    (candidates.filter fun candidate => earlier candidate.candidateType).Subperm (failedOf before)

/-- The candidates are tried one by one up to the first success, the public ones behind the local
ones, and the relays at last. -/
structure DirectFirst (candidates : List ICECandidate) (tries : List Try) (ok : Bool) : Prop where
  once : (tries.map Try.candidate).Subperm candidates
  stops : AtEach (fun before _ => ∀ earlier ∈ before, earlier.succeeded = false) tries
  result : ok = true ↔ ∃ single ∈ tries, single.succeeded = true
  complete : ok = false → (tries.map Try.candidate).Perm candidates
  relays : AtEach (Behind candidates .relay (· ≠ .relay)) tries
  publics : AtEach (Behind candidates .publicIp (· = .localLan)) tries

/-- The constructors give a candidate the default priority of its type. -/
inductive Made : ICECandidate → Prop
  | lan (address : String) (interfaceName : Option String) : Made (.lan address interfaceName)
  | publicIp (address : String) : Made (.publicIp address)
  | new (candidateType : CandidateType) (address : String) :
      Made (.new candidateType address candidateType.defaultPriority)

/-- Nothing is sorted before a relay but other relays. -/
theorem relay_of_le {type : CandidateType}
    (bounded : type.defaultPriority ≤ CandidateType.relay.defaultPriority) : type = .relay := by
  revert bounded
  cases type <;> decide

/-- Only relays and global addresses are sorted before a public address. -/
theorem publicIp_of_le {type : CandidateType}
    (bounded : type.defaultPriority ≤ CandidateType.publicIp.defaultPriority) (direct : type ≠ .relay)
    (other : type ≠ .ipv6Global) : type = .publicIp := by
  revert bounded direct other
  cases type <;> decide

theorem Made.priority {candidate : ICECandidate} (made : Made candidate) :
    candidate.priority = candidate.candidateType.defaultPriority := by
  cases made <;> rfl

/-- The priorities sort the relays first and the local candidates last. -/
def OrderCondition (candidates : List ICECandidate) (tries : List Try) : Prop :=
  (∀ candidate ∈ candidates, candidate.candidateType = .relay) ∨
    (∀ candidate ∈ candidates, candidate.candidateType ≠ .relay) ∧
      ((∀ candidate ∈ candidates, candidate.candidateType ≠ .publicIp) ∨
        (∀ candidate ∈ candidates, candidate.candidateType ≠ .localLan) ∨
        ∃ single ∈ tries, single.succeeded = true ∧ single.candidate.candidateType = .ipv6Global)

section
variable {candidates : List ICECandidate} {tries : List Try} {ok : Bool}

/-- The tried candidates are a front of the list, and only the last one can succeed. -/
theorem Tried.front (tried : Tried candidates tries ok) :
    ∃ rest, candidates = tries.map Try.candidate ++ rest ∧ (ok = false → rest = []) := by
  induction tried with
  | none => exact ⟨[], rfl, fun _ => rfl⟩
  | succeeded candidate rest => exact ⟨rest, rfl, fun impossible => by cases impossible⟩
  | failed candidate later inductionHypothesis =>
      obtain ⟨rest, whole, all⟩ := inductionHypothesis
      exact ⟨rest, by rw [whole]; rfl, all⟩

theorem Tried.stops (tried : Tried candidates tries ok) :
    AtEach (fun before _ => ∀ earlier ∈ before, earlier.succeeded = false) tries := by
  induction tried with
  | none => exact atEach_nil _
  | succeeded candidate rest =>
      exact atEach_cons.mpr ⟨List.forall_mem_nil _, atEach_nil _⟩
  | failed candidate later inductionHypothesis =>
      refine atEach_cons.mpr ⟨List.forall_mem_nil _, ?_⟩
      intro before event rest split earlier member
      rcases List.mem_cons.mp member with rfl | inside
      · rfl
      · exact inductionHypothesis before event rest split earlier inside

theorem Tried.result (tried : Tried candidates tries ok) :
    ok = true ↔ ∃ single ∈ tries, single.succeeded = true := by
  induction tried with
  | none => simp
  | succeeded candidate rest => simp
  | failed candidate later inductionHypothesis => simpa using inductionHypothesis

end

theorem sortedCandidates_perm (candidates : List ICECandidate) :
    (sortedCandidates candidates).Perm candidates := List.perm_insertionSort _ candidates

theorem sortedCandidates_sorted (candidates : List ICECandidate) :
    (sortedCandidates candidates).Pairwise fun first second => first.priority ≤ second.priority :=
  List.pairwise_insertionSort _ candidates

/-- When no candidate of the front succeeds, the next one is tried behind all of them. -/
theorem Tried.behind {front back : List ICECandidate} {next : ICECandidate} {tries : List Try} {ok : Bool}
    (tried : Tried (front ++ next :: back) tries ok)
    (failed : ∀ single ∈ tries, single.succeeded = true → single.candidate ∉ front) :
    ∃ succeeded later, tries = front.map (⟨·, false⟩) ++ ⟨next, succeeded⟩ :: later := by
  induction front generalizing tries with
  | nil =>
      cases tried with
      | succeeded => exact ⟨true, [], rfl⟩
      | failed => exact ⟨false, _, rfl⟩
  | cons first front inductionHypothesis =>
      cases tried with
      | succeeded => exact absurd List.mem_cons_self (failed ⟨first, true⟩ List.mem_cons_self rfl)
      | failed _ later =>
          have rest (single : Try) (member : single ∈ _) (success : single.succeeded = true) :
              single.candidate ∉ front := fun inside =>
            failed single (List.mem_cons_of_mem _ member) success (List.mem_cons_of_mem first inside)
          obtain ⟨succeeded, last, whole⟩ := inductionHypothesis later rest
          exact ⟨succeeded, last, by rw [whole]; rfl⟩

section
variable {candidates : List ICECandidate} (made : ∀ candidate ∈ candidates, Made candidate)
  {tries : List Try} {ok : Bool} (tried : Tried (sortedCandidates candidates) tries ok)
include made tried

omit made in
theorem tried_mem {single : Try} (member : single ∈ tries) : single.candidate ∈ candidates := by
  obtain ⟨rest, whole, -⟩ := tried.front
  refine (sortedCandidates_perm candidates).subset ?_
  rw [whole]
  exact List.mem_append_left rest (List.mem_map_of_mem member)

/-- The types that are sorted before a type have at most its priority. -/
theorem priority_le {first later : Try} {before middle after : List Try}
    (split : tries = before ++ first :: (middle ++ later :: after)) :
    first.candidate.candidateType.defaultPriority ≤ later.candidate.candidateType.defaultPriority := by
  have sorted := sortedCandidates_sorted candidates
  obtain ⟨rest, whole, -⟩ := tried.front
  have firstMember : first.candidate ∈ candidates := tried_mem tried (by rw [split]; simp)
  have laterMember : later.candidate ∈ candidates := tried_mem tried (by rw [split]; simp)
  rw [whole, split] at sorted
  simp only [List.map_append, List.map_cons, List.append_assoc, List.cons_append] at sorted
  have ordered := (List.pairwise_cons.mp (List.pairwise_append.mp sorted).2.1).1 later.candidate (by simp)
  rwa [(made _ firstMember).priority, (made _ laterMember).priority] at ordered

/-- A relay in the list is sorted to its head. -/
theorem relays_all (relays : AtEach (Behind candidates .relay (· ≠ .relay)) tries)
    {relay : ICECandidate} (listed : relay ∈ candidates) (type : relay.candidateType = .relay) :
    ∀ candidate ∈ candidates, candidate.candidateType = .relay := by
  have member := (sortedCandidates_perm candidates).symm.subset listed
  have sorted := sortedCandidates_sorted candidates
  have inside (candidate : ICECandidate) := (sortedCandidates_perm candidates).subset (a := candidate)
  cases list : sortedCandidates candidates with
  | nil => rw [list] at member; cases member
  | cons first rest =>
      rw [list] at member sorted inside tried
      have head : first.candidateType = .relay := by
        have bounded : first.priority ≤ relay.priority := by
          rcases List.mem_cons.mp member with rfl | later
          · exact Nat.le_refl _
          · exact (List.pairwise_cons.mp sorted).1 relay later
        rw [(made _ (inside first List.mem_cons_self)).priority, (made _ listed).priority, type] at bounded
        exact relay_of_le bounded
      have none' : (candidates.filter fun candidate => candidate.candidateType ≠ .relay).Subperm
          (failedOf []) := by
        cases tried with
        | succeeded => exact relays [] _ _ rfl head
        | failed => exact relays [] _ _ rfl head
      have empty := List.subperm_nil.mp none'
      intro candidate given
      by_contra other
      have kept : candidate ∈ candidates.filter fun candidate => candidate.candidateType ≠ .relay :=
        List.mem_filter.mpr ⟨given, decide_eq_true other⟩
      rw [empty] at kept
      cases kept

/-- Without relays, only candidates with a global address are sorted before the public ones. -/
theorem publics_early (direct : ∀ candidate ∈ candidates, candidate.candidateType ≠ .relay)
    (publics : AtEach (Behind candidates .publicIp (· = .localLan)) tries)
    {shown own : ICECandidate} (listed : shown ∈ candidates) (isPublic : shown.candidateType = .publicIp)
    (given : own ∈ candidates) (isLocal : own.candidateType = .localLan) :
    ∃ single ∈ tries, single.succeeded = true ∧ single.candidate.candidateType = .ipv6Global := by
  by_contra none'
  have inside {candidate : ICECandidate} (sorted : candidate ∈ sortedCandidates candidates) :
      candidate ∈ candidates := (sortedCandidates_perm candidates).subset sorted
  have member : shown ∈ sortedCandidates candidates := (sortedCandidates_perm candidates).symm.subset listed
  have sorted := sortedCandidates_sorted candidates
  -- the first candidate without a global address is a public one
  obtain ⟨next, found⟩ := Option.isSome_iff_exists.mp (List.find?_isSome (p := fun candidate : ICECandidate =>
    decide (candidate.candidateType ≠ .ipv6Global)) |>.mpr ⟨shown, member, by rw [isPublic]; rfl⟩)
  obtain ⟨other, front, back, whole, globals⟩ := List.find?_eq_some_iff_append.mp found
  have nextListed : next ∈ candidates := inside (by rw [whole]; simp)
  rw [whole] at tried sorted member
  have nextPublic : next.candidateType = .publicIp := by
    have bounded : next.priority ≤ shown.priority := by
      rcases List.mem_append.mp member with early | late
      · have global := globals shown early
        simp [isPublic] at global
      · rcases List.mem_cons.mp late with rfl | later
        · exact Nat.le_refl _
        · exact (List.pairwise_cons.mp (List.pairwise_append.mp sorted).2.1).1 shown later
    rw [(made _ nextListed).priority, (made _ listed).priority, isPublic] at bounded
    exact publicIp_of_le bounded (direct next nextListed) (of_decide_eq_true other)
  have global {candidate : ICECandidate} (early : candidate ∈ front) :
      candidate.candidateType = .ipv6Global := by simpa using globals candidate early
  obtain ⟨succeeded, later, split⟩ := tried.behind fun single member success early =>
    none' ⟨single, member, success, global early⟩
  have failed := publics _ _ _ split nextPublic
  have ownFailed := failed.subset (List.mem_filter.mpr ⟨given, decide_eq_true isLocal⟩)
  have early : own ∈ front := by simpa [failedOf, List.filter_map, Function.comp_def] using ownFailed
  rw [global early] at isLocal
  cases isLocal

theorem directFirst_iff : DirectFirst candidates tries ok ↔ OrderCondition candidates tries := by
  constructor
  · intro direct
    by_cases relay : ∃ candidate ∈ candidates, candidate.candidateType = .relay
    · obtain ⟨candidate, listed, type⟩ := relay
      exact .inl (relays_all made tried direct.relays listed type)
    · have none' (candidate : ICECandidate) (listed : candidate ∈ candidates) :
          candidate.candidateType ≠ .relay := fun type => relay ⟨candidate, listed, type⟩
      refine .inr ⟨none', ?_⟩
      by_cases shown : ∃ candidate ∈ candidates, candidate.candidateType = .publicIp
      · by_cases own : ∃ candidate ∈ candidates, candidate.candidateType = .localLan
        · obtain ⟨_, listed, isPublic⟩ := shown
          obtain ⟨_, given, isLocal⟩ := own
          exact .inr (.inr (publics_early made tried none' direct.publics listed isPublic given isLocal))
        · exact .inr (.inl fun candidate listed type => own ⟨candidate, listed, type⟩)
      · exact .inl fun candidate listed type => shown ⟨candidate, listed, type⟩
  · intro condition
    obtain ⟨rest, whole, all⟩ := tried.front
    have front : (tries.map Try.candidate).Sublist (sortedCandidates candidates) := by
      rw [whole]
      exact List.sublist_append_left _ rest
    have absent (earlier : CandidateType → Bool) {before : List Try}
        (none' : ∀ candidate ∈ candidates, earlier candidate.candidateType = false) :
        (candidates.filter fun candidate => earlier candidate.candidateType).Subperm (failedOf before) := by
      have empty : (candidates.filter fun candidate => earlier candidate.candidateType) = [] :=
        List.filter_eq_nil_iff.mpr fun candidate listed => by simp [none' candidate listed]
      rw [empty]
      exact List.nil_subperm
    have listed {before after : List Try} {single : Try} (split : tries = before ++ single :: after) :
        single.candidate ∈ candidates := tried_mem tried (by rw [split]; simp)
    refine ⟨front.subperm.trans (sortedCandidates_perm candidates).subperm, tried.stops, tried.result,
      fun failed => ?_, fun before single after split type => ?_, fun before single after split type => ?_⟩
    · have complete := sortedCandidates_perm candidates
      rwa [whole, all failed, List.append_nil] at complete
    · rcases condition with relays | ⟨direct, -⟩
      · exact absent (· ≠ .relay) fun candidate member => by simp [relays candidate member]
      · exact absurd type (direct _ (listed split))
    · rcases condition with relays | ⟨-, noPublic | noLocal | ⟨success, member, succeeded, global⟩⟩
      · rw [relays _ (listed split)] at type
        cases type
      · exact absurd type (noPublic _ (listed split))
      · exact absent (· = .localLan) fun candidate member => decide_eq_false (noLocal candidate member)
      · -- the candidate that succeeded can stand neither before nor behind the public one
        rw [split] at member
        rcases List.mem_append.mp member with early | late
        · have failed := tried.stops before single after split success early
          rw [succeeded] at failed
          cases failed
        · rcases List.mem_cons.mp late with same | later
          · rw [same, type] at global
            cases global
          · obtain ⟨middle, last, behind⟩ := List.append_of_mem later
            have ordered := priority_le made tried (by rw [split, behind])
            rw [type, global] at ordered
            exact absurd ordered (by decide)

end

/-- The environment answers every operation and changes the manager between two of them as it likes. -/
abbrev freeMachine (Addr : Type) : Machine (PeerOp Addr) where
  State := Manager Addr
  Choice := PeerChoice Addr
  Move := Manager Addr
  exec op choice manager := some (op.exec choice manager)
  move other _ := some other

/-- The order of the candidate types is kept exactly on the lists and answers of the condition. -/
theorem connect_directFirst [SocketAddr Addr] (id : Nat) (candidates : List ICECandidate)
    (made : ∀ candidate ∈ candidates, Made candidate) {manager after : Manager Addr} {tries : List Try}
    {result : Except String Unit}
    (reached : Machine.Reaches (Machine.Promise.any (freeMachine Addr)) (manager, connectTraced id candidates)
      (after, .done (tries, result))) :
    DirectFirst candidates tries result.isOk ↔ OrderCondition candidates tries := by
  have holds : Machine.Holds (Machine.Promise.any (freeMachine Addr)) (fun _ _ => True)
      (connectTraced id candidates) (fun outcome _ =>
        Tried (sortedCandidates candidates) outcome.1 outcome.2.isOk) manager :=
    connectTraced_tried (Machine.Promise.any (freeMachine Addr)) id candidates manager
  exact directFirst_iff made ((holds after _ reached).2 (tries, result) rfl)

/-- The first probe is answered. -/
def answeredInputs : List (freeMachine String).Input :=
  List.replicate 5 (.answer { datagram := .received 1 peerAddr })

def answeredRun (candidates : List ICECandidate) :
    (freeMachine String).Configuration (List Try × Except String Unit) :=
  Machine.run ({}, connectTraced 0 candidates) answeredInputs

/-- A relay is tried before the local candidate. -/
theorem connect_directFirst_fails :
    ¬ ∀ candidates : List ICECandidate, (∀ candidate ∈ candidates, Made candidate) →
      ∀ (manager after : Manager String) tries result,
        Machine.Reaches (Machine.Promise.any (freeMachine String)) (manager, connectTraced 0 candidates)
          (after, .done (tries, result)) → DirectFirst candidates tries result.isOk := by
  intro direct
  have made : ∀ candidate ∈ [ICECandidate.lan peerAddr none, .new .relay "10.0.9.1:3478" 10], Made candidate := by
    simp only [List.forall_mem_cons, List.not_mem_nil, false_implies, implies_true, and_true]
    exact ⟨.lan peerAddr none, .new .relay "10.0.9.1:3478"⟩
  have ended : ∃ after, answeredRun [.lan peerAddr none, .new .relay "10.0.9.1:3478" 10] =
      (after, .done ([⟨.new .relay "10.0.9.1:3478" 10, true⟩], .ok ())) := ⟨_, rfl⟩
  obtain ⟨after, ended⟩ := ended
  have reached := Machine.run_reaches (Machine.allAllowed_any answeredInputs
    (({} : Manager String), connectTraced 0 [.lan peerAddr none, .new .relay "10.0.9.1:3478" 10]))
  rw [show Machine.run _ answeredInputs = _ from ended] at reached
  have first := (direct _ made _ _ _ _ reached).relays [] _ _ rfl rfl
  exact absurd (List.subperm_nil.mp first) (by decide)

/-- A local candidate alone is tried in order. -/
theorem connect_directFirst_own : DirectFirst [.lan peerAddr none] [⟨.lan peerAddr none, true⟩] true := by
  have ended : ∃ after, answeredRun [.lan peerAddr none] =
      (after, .done ([⟨.lan peerAddr none, true⟩], .ok ())) := ⟨_, rfl⟩
  obtain ⟨after, ended⟩ := ended
  have reached := Machine.run_reaches (Machine.allAllowed_any answeredInputs
    (({} : Manager String), connectTraced 0 [.lan peerAddr none]))
  rw [show Machine.run _ answeredInputs = _ from ended] at reached
  refine (connect_directFirst 0 [.lan peerAddr none] ?_ reached).mpr (.inr ⟨?_, .inl ?_⟩)
  · intro candidate listed
    cases List.mem_singleton.mp listed
    exact .lan peerAddr none
  · intro candidate listed
    cases List.mem_singleton.mp listed
    decide
  · intro candidate listed
    cases List.mem_singleton.mp listed
    decide

end ConstructEngine.P2P
