import ConstructEngine.Interaction.Monitor
import ConstructEngine.Proof.Rehearsal
import ConstructEngine.Proof.Timer

namespace ConstructEngine

open Interaction Program Machine

variable {Core A : Type}

/-- The loop planned the refresh of this state with this system time, at this moment. -/
structure RefreshPlan where
  state : TokenRefreshState
  now : Int
  clock : Nat

/-- The last system time that was read, and the last plan. -/
structure RefreshPlans where
  read : Int
  plan : Option RefreshPlan

/-- The plan is made from the time that was read last. -/
def Op.refreshPlans : {A : Type} → Op Core A → World Core → A → RefreshPlans → RefreshPlans
  | _, .systemTime, _, time, plans => { plans with read := time }
  | _, .refreshReset _, world, _, plans => { plans with
      plan := world.engine.tokenState.value.map fun state => ⟨state, plans.read, world.net.clock⟩ }
  | _, _, _, _, plans => plans

/-- The refresh is due five minutes before the expiry and not within ten seconds, computed exactly. -/
def exactSecs (now expiresAt : Int) : Nat := (max (expiresAt - now - 300) 10).toNat

/-- The value fits into 64 bits with a sign. -/
def FitsI64 (value : Int) : Prop := -2 ^ 63 ≤ value ∧ value < 2 ^ 63

instance (value : Int) : Decidable (FitsI64 value) := inferInstanceAs (Decidable (_ ∧ _))

/-- A value that fits does not wrap. -/
theorem wrapI64_fits {value : Int} (fits : FitsI64 value) : wrapI64 value = value := by
  unfold FitsI64 at fits
  exact Int.bmod_eq_of_le_mul_two (by omega) (by omega)

/-- Without a wrap the delay is the exact one. -/
theorem secsUntilRefresh_exact {now expiresAt : Int} (remaining : FitsI64 (expiresAt - now))
    (early : FitsI64 (expiresAt - now - 300)) :
    secsUntilRefresh now expiresAt = exactSecs now expiresAt := by
  unfold secsUntilRefresh
  dsimp only
  rw [wrapI64_fits remaining, wrapI64_fits early]
  rfl

/-- The timer is armed for the held token, by a plan that is not too late. -/
def Planned (plan : Option RefreshPlan) (armed : Bool) (timer : Timer) : Prop :=
  ∀ state, timer.tokenState.value = some state → armed = true ∧ ∃ now clock,
    plan = some ⟨state, now, clock⟩ ∧ timer.deadline ≤ clock + exactSecs now state.expiresAt * 1000

/-- The timer branch has been taken and has not sent its request. -/
def refreshBegins (log : List Event) : Bool :=
  match log.getLast? with
  | some (.refreshDue _) => true
  | _ => false

section
variable [Prost]

/-- The server accepts the refresh or rejects it. -/
def refreshConcludes : Except EngineError Bytes → Bool
  | .ok bytes => (Prost.decode .refreshTokenResponse bytes).isOk
  | .error error => error.isUnauthenticated

variable [ConstructCore Core] {config : EngineConfig}

/-- The plans follow the operations. -/
def planLedger (Core : Type) [ConstructCore Core] (config : EngineConfig) :
    (engineMachine Core config).Ledger RefreshPlans := ⟨Op.refreshPlans⟩

/-- This is the engine with the plans next to its state. -/
abbrev planMachine (Core : Type) [ConstructCore Core] (config : EngineConfig) : Machine (Op Core) :=
  (engineMachine Core config).monitored (planLedger Core config)

/-- The engine and the plans belong to the program. -/
def planOwned (Core : Type) [ConstructCore Core] (config : EngineConfig) :
    (planMachine Core config).Owned (Engine Core × RefreshPlans) :=
  (engineOwned Core config).monitored (planLedger Core config)

/-- The refresh of the timer branch reaches a server that accepts or rejects it, and the expiry that the
loop takes note of is within the range of the computation. -/
def Op.concludes (config : EngineConfig) :
    {A : Type} → Op Core A → Choice → Engine Core → RefreshPlans → Bool
  | _, .quicConnect, choice, engine, _ =>
      !refreshBegins engine.log || (choice.connect.result config).isOk
  | _, .exchange _ servicePath _ _, choice, engine, _ =>
      !refreshBegins engine.log || refreshConcludes (doUnaryCall servicePath choice.http)
  | _, .refreshReset _, _, engine, plans => engine.tokenState.value.all fun token =>
      FitsI64 (token.expiresAt - plans.read) ∧ FitsI64 (token.expiresAt - plans.read - 300)
  | _, _, _, _, _ => true

/-- In these runs every refresh of the timer branch comes to a conclusion. -/
def concludingPromise (Core : Type) [ConstructCore Core] (config : EngineConfig) :
    (planMachine Core config).Promise where
  answers op choice state := op.concludes config choice (World.engine state.1) state.2 = true
  moves _ _ := True

instance (A : Type) (op : Op Core A) (choice : (planMachine Core config).Choice)
    (state : (planMachine Core config).State) :
    Decidable ((concludingPromise Core config).answers op choice state) :=
  inferInstanceAs (Decidable (op.concludes config choice (World.engine state.1) state.2 = true))

instance (move : (planMachine Core config).Move) (state : (planMachine Core config).State) :
    Decidable ((concludingPromise Core config).moves move state) := isTrue trivial

/-- Whenever the loop selects, the held token has its plan. -/
def plannedGuard (Core : Type) [ConstructCore Core] (config : EngineConfig) :
    (planMachine Core config).Guard := fun op state =>
  match op with
  | .select armed => Planned state.2.plan armed (Engine.timer (World.engine state.1))
  | _ => True

/-- The program, begun with this engine and plans, selects only with a plan for the held token. -/
abbrev PlanSafe (config : EngineConfig) (program : EngineM Core A)
    (result : A → Engine Core × RefreshPlans → Prop) (view : Engine Core × RefreshPlans) : Prop :=
  (planOwned Core config).Safe (concludingPromise Core config) (plannedGuard Core config) program result
    view

/-- The token state is planned for, or its change waits for the loop. -/
def Awaiting (armed : Bool) (view : Engine Core × RefreshPlans) : Prop :=
  view.1.timer.Noted (Planned view.2.plan armed)

/-- An operation of a handler keeps the plan. -/
theorem plan_work {op : Op Core A} (handles : op.steers = false) {view : Engine Core × RefreshPlans} :
    PlanSafe config (perform op) (fun _ after => view.1.timer.Handled op.topic after.1.timer ∧
      after.2.plan = view.2.plan) view := by
  refine Owned.safe_perform (fun state _ => ?_) fun state choice value after same _ answered => ?_
  · cases op with
    | select => cases handles
    | _ => trivial
  · cases same
    obtain ⟨done, written⟩ := monitored_exec answered
    refine ⟨exec_timer handles done, ?_⟩
    change after.2.plan = state.2.plan
    rw [written]
    cases op <;> first | rfl | cases handles

omit [Prost] [ConstructCore Core] in
/-- What a handler does to the timer keeps the plan. -/
theorem Awaiting.still {armed : Bool} {view after : Engine Core × RefreshPlans} {topic : Topic}
    (awaiting : Awaiting armed view) (handled : view.1.timer.Handled topic after.1.timer)
    (plan : after.2.plan = view.2.plan) : Awaiting armed after := by
  unfold Awaiting
  rw [plan]
  exact Timer.Noted.handled awaiting handled

/-- A state that the loop takes note of is planned with the time read before. -/
theorem updateRefreshTimer_plans {armed : Bool} {view : Engine Core × RefreshPlans}
    (awaiting : Awaiting armed view) :
    PlanSafe config (updateRefreshTimer armed) (fun armed after =>
      after.1.tokenSeen = after.1.tokenState.version ∧ Planned after.2.plan armed after.1.timer) view := by
  unfold updateRefreshTimer
  have looks : PlanSafe config (perform .tokenHasChanged) (fun changed after =>
      after.1.tokenSeen = after.1.tokenState.version ∧
        ((changed = none ∧ Planned after.2.plan armed after.1.timer) ∨
          ∃ state, changed = some state ∧ after.1.tokenState.value = state)) view := by
    refine Owned.safe_perform (fun _ _ => trivial) fun state choice changed after same _ answered => ?_
    cases same
    obtain ⟨done, written⟩ := monitored_exec answered
    obtain ⟨⟨engine, net⟩, plans⟩ := state
    obtain ⟨world, later⟩ := after
    change later = plans at written
    cases written
    simp only [exec] at done
    split at done
    next seen =>
      cases done
      exact ⟨seen, .inl ⟨rfl, awaiting.2 seen⟩⟩
    next =>
      cases done
      exact ⟨rfl, .inr ⟨_, rfl, rfl⟩⟩
  refine looks.andThen fun changed middle now => ?_
  obtain ⟨seen, ⟨rfl, planned⟩ | ⟨state, rfl, held⟩⟩ := now
  · exact Owned.safe_done ⟨seen, planned⟩
  cases state with
  | none =>
      refine Owned.safe_done ⟨seen, fun state current => ?_⟩
      exact absurd (held.symm.trans current) (Option.some_ne_none state).symm
  | some state =>
  have reads : PlanSafe config (perform .systemTime) (fun time after =>
      after.1 = middle.1 ∧ after.2.read = time) middle := by
    refine Owned.safe_perform (fun _ _ => trivial) fun before choice time after same _ answered => ?_
    cases same
    obtain ⟨done, written⟩ := monitored_exec answered
    obtain ⟨world, plans⟩ := after
    cases done
    cases written
    exact ⟨rfl, rfl⟩
  refine reads.andThen fun time next now => ?_
  obtain ⟨same, read⟩ := now
  rw [← same] at seen held
  refine Owned.safe_step (fun _ _ => trivial) fun before choice _ after same kept answered => ?_
  cases same
  obtain ⟨done, written⟩ := monitored_exec answered
  obtain ⟨world, plans⟩ := after
  obtain ⟨⟨engine, net⟩, earlier⟩ := before
  have range : (engine.tokenState.value.all fun token => FitsI64 (token.expiresAt - earlier.read) ∧
      FitsI64 (token.expiresAt - earlier.read - 300)) = true := kept
  obtain ⟨remaining, early⟩ : FitsI64 (state.expiresAt - earlier.read) ∧
      FitsI64 (state.expiresAt - earlier.read - 300) := by
    rw [show engine.tokenState.value = some state from held] at range
    simpa using range
  cases read
  cases done
  cases written
  refine Owned.safe_done ⟨seen, fun token current => ?_⟩
  have held : engine.tokenState.value = some state := held
  have current : engine.tokenState.value = some token := current
  obtain rfl : state = token := Option.some.inj (held.symm.trans current)
  refine ⟨rfl, earlier.read, net.clock, ?_, ?_⟩
  · change engine.tokenState.value.map _ = _
    rw [held]
    rfl
  · change net.clock + secsUntilRefresh earlier.read state.expiresAt * 1000 ≤ _
    exact Nat.le_of_eq (by rw [secsUntilRefresh_exact remaining early])

/-- The timer branch begins, and a sent token state will be noted. -/
def Begins (view : Engine Core × RefreshPlans) : Prop :=
  refreshBegins view.1.log = true ∧ view.1.timer.Noted fun _ => True

/-- The timer branch begins a refresh, and the other branches leave the plan. -/
theorem select_planned {armed : Bool} {view : Engine Core × RefreshPlans}
    (now : view.1.tokenSeen = view.1.tokenState.version ∧ Planned view.2.plan armed view.1.timer) :
    PlanSafe config (perform (.select armed)) (TimerSelected (Awaiting armed) (Awaiting armed) Begins)
      view := by
  refine Owned.safe_perform (fun state same => ?_) fun state choice branch after same _ answered => ?_
  · cases same
    exact now.2
  cases same
  obtain ⟨done, written⟩ := monitored_exec answered
  obtain ⟨⟨engine, net⟩, plans⟩ := after
  change plans = state.2 at written
  cases written
  have taken : exec config (.select armed) choice state.1 = some (branch, ⟨engine, net⟩) := done
  have selected : state.1.engine.Selected branch engine := select_engine taken
  have seen : state.1.engine.tokenSeen ≤ state.1.engine.tokenState.version := Nat.le_of_eq now.1
  have rested : Awaiting armed (state.1.engine, state.2) := ⟨seen, fun _ => now.2⟩
  cases branch with
  | refresh =>
      obtain ⟨clock, rfl⟩ := selected
      refine ⟨?_, seen, fun _ => trivial⟩
      change refreshBegins (state.1.engine.log ++ [_]) = true
      rw [refreshBegins, List.getLast?_concat]
  | changed =>
      obtain ⟨connectedSeen, rfl⟩ := selected
      exact rested
  | event event =>
      cases event with
      | none => exact selected.elim
      | some ui =>
          cases selected
          exact rested
  | frame received =>
      cases selected
      exact rested
  | tokenChanged =>
      obtain ⟨impossible, -⟩ | ⟨impossible, -⟩ | ⟨-, ⟨_, _, -, impossible, -⟩ |
        ⟨-, ⟨_, _, -, impossible, -⟩ | ⟨-, -, after⟩⟩⟩ := select_effect taken
      · cases impossible
      · cases impossible
      · cases impossible
      · cases impossible
      · cases after
        exact ⟨Nat.le_refl _, fun _ => now.2⟩

/-- A linking operation leaves the begun branch alone. -/
theorem begins_step {op : Op Core A} (linking : Linking op.topic) (fact : A → Engine Core → Prop)
    {view : Engine Core × RefreshPlans}
    (effect : ∀ choice state value after, state.1.engine = view.1 →
      (concludingPromise Core config).answers op choice state →
      exec config op choice state.1 = some (value, after) → fact value after.engine)
    (now : Begins view) :
    PlanSafe config (perform op) (fun value after => Begins after ∧ fact value after.1) view := by
  have handles : op.steers = false := by
    refine steers_of_topic ?_ ?_ <;> rcases linking with same | same <;> simp [same]
  refine Owned.safe_perform (fun state _ => ?_) fun state choice value after same kept answered => ?_
  · cases op with
    | select => cases handles
    | _ => trivial
  · cases same
    obtain ⟨done, -⟩ := monitored_exec answered
    refine ⟨⟨?_, Timer.Noted.handled now.2 (exec_timer handles done)⟩,
      effect choice state value after.1 rfl kept done⟩
    change refreshBegins after.1.engine.log = true
    rw [(exec_linking linking done).1]
    exact now.1

/-- The begun refresh connects when it has to. -/
theorem connectH3_begins (site : ConnectSite) {view : Engine Core × RefreshPlans} (now : Begins view) :
    PlanSafe config (connectH3 site) (fun answer after => answer = .ok () ∧ Begins after ∧
      after.1.h3.isSome = true) view := by
  unfold connectH3
  refine (begins_step (.inr rfl) (fun _ _ => True) (fun _ _ _ _ _ _ _ => trivial) now).andThen
    fun _ view now => ?_
  refine (begins_step (.inr rfl) (fun answer _ => ∃ conn, answer = .ok conn) ?_ now.1).andThen
    fun answer middle connected => ?_
  · intro choice state answer after same kept answered
    obtain ⟨error, failed, -⟩ | ⟨rfl, -⟩ := quicConnect_effect answered
    · have begins : refreshBegins state.1.engine.log = true := by
        rw [same]
        exact now.1.1
      have connects : (!refreshBegins state.1.engine.log ||
        (ConnectOutcome.result config choice.connect).isOk) = true := kept
      rw [begins, failed] at connects
      cases connects
    · exact ⟨_, rfl⟩
  obtain ⟨begun, conn, rfl⟩ := connected
  refine (begins_step (.inr rfl) (fun _ engine => engine.h3.isSome = true) ?_ begun).andThen
    fun _ stored held => ?_
  · intro choice state value after same _ answered
    cases answered
    rfl
  refine (begins_step (.inr rfl) (fun _ engine => engine.h3.isSome = true) ?_ held.1).andThen
    fun _ last held => Owned.safe_done ⟨rfl, held⟩
  intro choice state value after same _ answered
  cases answered
  change state.1.engine.h3.isSome = true
  rw [same]
  exact held.2

/-- The begun refresh reaches the server, which accepts or rejects it. -/
theorem unaryCall_concludes (request : Bytes) {view : Engine Core × RefreshPlans} (now : Begins view) :
    PlanSafe config (unaryCall authRefresh request) (fun answer after =>
      refreshConcludes answer = true ∧ after.1.timer.Noted fun _ => True) view := by
  have read {view : Engine Core × RefreshPlans} (now : Begins view) :
      PlanSafe config (perform .h3Read) (fun conn after => Begins after ∧ conn = after.1.h3 ∧
        after.1.h3 = view.1.h3) view := by
    refine begins_step (.inl rfl) (fun conn engine => conn = engine.h3 ∧ engine.h3 = view.1.h3) ?_ now
    intro choice state conn after same _ answered
    cases answered
    exact ⟨rfl, congrArg Engine.h3 same⟩
  have ensured : PlanSafe config (ensureH3 .unaryCall) (fun answer after => answer = .ok () ∧ Begins after ∧
      after.1.h3.isSome = true) view := by
    unfold ensureH3
    refine (read now).andThen fun conn middle known => ?_
    obtain ⟨begun, rfl, -⟩ := known
    cases held : middle.1.h3 with
    | none => exact connectH3_begins _ begun
    | some conn => exact Owned.safe_done ⟨rfl, begun, by rw [held]; rfl⟩
  unfold unaryCall
  refine ensured.andThen fun answer middle known => ?_
  obtain ⟨rfl, begun, held⟩ := known
  have sends : PlanSafe config sendRequest (fun answer after => (∃ conn, answer = .ok conn) ∧ Begins after)
      middle := by
    unfold sendRequest
    refine (read begun).andThen fun conn last known => ?_
    obtain ⟨begun, rfl, same⟩ := known
    rw [← same] at held
    obtain ⟨conn, connected⟩ := Option.isSome_iff_exists.mp held
    rw [connected]
    exact Owned.safe_done ⟨⟨conn, rfl⟩, begun⟩
  refine sends.andThen fun answer middle known => ?_
  obtain ⟨⟨conn, rfl⟩, begun⟩ := known
  refine (begins_step (.inl rfl) (fun _ _ => True) (fun _ _ _ _ _ _ _ => trivial) begun).andThen
    fun token middle known => ?_
  have asks : PlanSafe config (perform (.exchange conn authRefresh request token)) (fun exchange after =>
      refreshConcludes (doUnaryCall authRefresh exchange) = true ∧ after.1.timer.Noted fun _ => True)
      middle := by
    refine Owned.safe_perform (fun _ _ => trivial) fun state choice exchange after same kept answered => ?_
    cases same
    obtain ⟨done, -⟩ := monitored_exec answered
    obtain ⟨world, plans⟩ := after
    cases done
    have begins : refreshBegins state.1.engine.log = true := known.1.1
    have concludes : (!refreshBegins state.1.engine.log ||
      refreshConcludes (doUnaryCall authRefresh choice.http)) = true := kept
    rw [begins] at concludes
    exact ⟨concludes, known.1.2⟩
  refine asks.andThen fun exchange last concluded => ?_
  split
  next message failed =>
    rw [failed] at concluded
    cases concluded.1
  · exact Owned.safe_done concluded

/-- An operation of a handler keeps the plan. -/
theorem awaiting_work {armed : Bool} {op : Op Core A} (handles : op.steers = false)
    {view : Engine Core × RefreshPlans} (now : Awaiting armed view) :
    PlanSafe config (perform op) (fun _ => Awaiting armed) view :=
  (plan_work handles).weaken fun _ _ kept => now.still kept.1 kept.2

/-- A handler keeps the plan. -/
theorem awaiting_concerns {armed : Bool} {program : EngineM Core A} (concerns : Concerns Working program)
    {view : Engine Core × RefreshPlans} (now : Awaiting armed view) :
    PlanSafe config program (fun _ => Awaiting armed) view := by
  refine safe_uses (fun op view engages now => awaiting_work ?_ now) concerns now
  exact steers_of_topic (working_engages engages).1 (working_engages engages).2

/-- A sent token state waits for the loop. -/
theorem tokenStateSend_awaits (state : Option TokenRefreshState) {view : Engine Core × RefreshPlans}
    (now : view.1.timer.Noted fun _ => True) :
    PlanSafe config (perform (.tokenStateSend state)) (fun _ => Awaiting false) view := by
  refine Owned.safe_perform (fun _ _ => trivial) fun before choice value after same _ answered => ?_
  cases same
  obtain ⟨done, -⟩ := monitored_exec answered
  obtain ⟨world, plans⟩ := after
  cases done
  exact Timer.Noted.sent now state

/-- The refresh that has begun concludes with another state or with none. -/
theorem handleRefreshToken_awaits (refreshToken : String) {view : Engine Core × RefreshPlans}
    (now : Begins view) :
    PlanSafe config (handleRefreshToken config refreshToken) (fun _ => Awaiting false) view := by
  have report (action : PlatformAction) (topic : action.topic = .login) :
      Concerns Working (onAction action : EngineM Core Unit) :=
    concerns_own (by simp [Op.topic, topic, Working])
  unfold handleRefreshToken
  refine (unaryCall_concludes _ now).andThen fun answer middle known => ?_
  obtain ⟨concluded, noted⟩ := known
  split
  · exact (tokenStateSend_awaits none noted).andThen fun _ after now => awaiting_concerns (report _ rfl) now
  next error other =>
    cases error with
    | unauthenticated text => exact absurd rfl (other text)
    | _ => cases concluded
  next bytes =>
    split
    next message failed =>
      rw [refreshConcludes, failed] at concluded
      cases concluded
    next resp _ =>
      refine (plan_work rfl).andThen fun _ written kept => ?_
      refine (tokenStateSend_awaits _ (noted.handled kept.1)).andThen fun _ after now => ?_
      exact awaiting_concerns (uses_bind (report _ rfl) fun _ =>
        concerns_reopenStreamIfNeeded (by simp [Working])) now

/-- The loop begins without a token. -/
theorem eventLoop_planned {state : World Core × RefreshPlans}
    (start : state.1.engine.tokenState.value = none) :
    Holds (concludingPromise Core config) (plannedGuard Core config) (eventLoop config)
      (fun _ _ => True) state := by
  refine eventLoop_timer (fun view => view.1.tokenState.value = none) Begins Awaiting Awaiting
    (fun armed view => view.1.tokenSeen = view.1.tokenState.version ∧
      Planned view.2.plan armed view.1.timer)
    ?_ ?_ (fun armed view awaiting => updateRefreshTimer_plans awaiting)
    (fun armed view ready => select_planned ready) ?_ ?_ ?_ ?_ (fun armed view now => now) ?_ start
  · intro A op view handles _ other now
    refine (plan_work handles).weaken fun _ after kept => ?_
    obtain ⟨same | ⟨token, -⟩, -⟩ := kept
    · exact (congrArg (fun timer => timer.tokenState.value) same).trans now
    · exact absurd token other
  · intro view now
    refine Owned.safe_perform (fun _ _ => trivial) fun state choice value after same _ answered => ?_
    cases same
    obtain ⟨done, -⟩ := monitored_exec answered
    obtain ⟨world, plans⟩ := after
    cases done
    refine ⟨Nat.le_refl _, fun _ token current => ?_⟩
    exact absurd (now.symm.trans current) (Option.some_ne_none token).symm
  · intro view now
    refine (begins_step (.inl rfl) (fun token engine => token = engine.tokenState.value) ?_ now).andThen
      fun token middle known => ?_
    · intro choice state token after _ _ answered
      cases answered
      rfl
    obtain ⟨begun, current⟩ := known
    cases token with
    | none =>
        refine Owned.safe_done ⟨begun.2.1, fun _ token held => ?_⟩
        exact absurd (current.trans held) (Option.some_ne_none token).symm
    | some token => exact handleRefreshToken_awaits token.refreshToken begun
  · exact fun armed view awaiting => awaiting_work rfl awaiting
  · exact fun armed view awaiting => awaiting_work rfl awaiting
  · exact fun armed op view working awaiting =>
      awaiting_work (steers_of_topic working.1 working.2) awaiting
  · exact fun view => Owned.safe_perform (fun _ _ => trivial) fun _ _ _ _ _ _ _ => trivial

/-- The timer is armed at this selection. -/
def armedAt (program : EngineM Core Unit) : Bool :=
  match program with
  | .ask (.select armed) _ => armed
  | _ => false

/-- In these runs a held token always has its refresh pending while the loop waits. -/
theorem refresh_pending {engine : Engine Core} (created : Engine.new config = .ok engine)
    {world : World Core} {plans : RefreshPlans} {later : EngineM Core Unit}
    (reached : Reaches (concludingPromise Core config)
      ((startWorld engine, ⟨0, none⟩), eventLoop config) ((world, plans), later))
    (waiting : isWaiting later = true) {state : TokenRefreshState}
    (held : world.engine.tokenState.value = some state) :
    armedAt later = true ∧ ∃ now clock, plans.plan = some ⟨state, now, clock⟩ ∧
      world.engine.deadline ≤ clock + exactSecs now state.expiresAt * 1000 := by
  obtain ⟨core, rfl⟩ := Engine.new_fresh created
  obtain ⟨armed, next, rfl⟩ := isWaiting_shape waiting
  have safe : Holds (concludingPromise Core config) (plannedGuard Core config) (eventLoop config) _
      (startWorld (Engine.fresh config core), ⟨0, none⟩) := eventLoop_planned rfl
  exact (safe _ _ reached).1 _ _ _ rfl state held

end

/-- The login is accepted with a token that expires after 1000 seconds. The server cannot be reached when
the refresh is due. -/
def lostRefresh : List (rehearsalMachine (rehearsalConfig [] none)).Input :=
  [.move (Move.dispatch (.authenticate "d" [] []))] ++ List.replicate 40 (.answer servedChoice) ++
    [.move (Move.tick 700000)] ++ List.replicate 12 (.answer ({} : Choice))

/-- The failed refresh leaves the token without a pending one. -/
theorem refresh_pending_fails :
    ¬ ∀ world later, Reaches (Promise.any (rehearsalMachine (rehearsalConfig [] none)))
      (rehearsalStart (rehearsalConfig [] none) none) (world, later) → isWaiting later = true →
      world.engine.tokenState.value.isSome = true → armedAt later = true := by
  intro pending
  have armed := pending _ _ (rehearsed_any _ none lostRefresh) (by decide +kernel) (by decide +kernel)
  exact absurd armed (by decide +kernel)

/-- The login is accepted, and the refresh of its token is pending. -/
def heldToken : (planMachine RehearsalCore (rehearsalConfig [] none)).Configuration Unit :=
  run ((startWorld (Engine.fresh (rehearsalConfig [] none) none), ⟨0, none⟩),
      eventLoop (rehearsalConfig [] none))
    ([.move (Move.dispatch (.authenticate "d" [] []))] ++ List.replicate 40 (.answer servedChoice))

theorem refresh_pending_login : armedAt heldToken.2 = true ∧ ∃ now clock,
    heldToken.1.2.plan = some ⟨⟨"r", 1000⟩, now, clock⟩ ∧
      heldToken.1.1.engine.deadline ≤ clock + exactSecs now 1000 * 1000 :=
  refresh_pending (rehearsal_without_core none) (run_reaches (by decide +kernel)) (by decide +kernel)
    (by decide +kernel)

end ConstructEngine
