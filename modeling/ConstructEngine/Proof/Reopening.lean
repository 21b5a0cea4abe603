import ConstructEngine.Proof.Served

namespace ConstructEngine

open Interaction Program Machine

variable {Core A : Type}

/-- A re-open owes the request for the parameters that it took up until the stream is asked for or no
connection can be made. -/
def Op.owes : {A : Type} → Op Core A → A → Option StreamParams → Option StreamParams
  | _, .paramsRead, params, _ => params
  | _, .paramsLock, params, _ => params
  | _, .openExchange .., _, _ => none
  | _, .quicConnect, .error _, _ => none
  | _, _, _, owed => owed

variable [ConstructCore Core] {config : EngineConfig}

/-- The ledger carries what a re-open owes. -/
def owingLedger (Core : Type) [ConstructCore Core] (config : EngineConfig) :
    (severanceMachine Core config).Ledger (Option StreamParams) := ⟨fun op _ value => op.owes value⟩

/-- The machine notes the severance and what a re-open owes. -/
abbrev owingMachine (Core : Type) [ConstructCore Core] (config : EngineConfig) : Machine (Op Core) :=
  (severanceMachine Core config).monitored (owingLedger Core config)

/-- The machine answers like the engine, and the debt follows the operation. -/
theorem exec_owing {op : Op Core A} {choice : Choice} {state after : (World Core × Bool) × Option StreamParams}
    {value : A} (answered : (owingMachine Core config).exec op choice state = some (value, after)) :
    exec config op choice state.1.1 = some (value, after.1.1) ∧ after.2 = op.owes value state.2 := by
  obtain ⟨done, written⟩ := monitored_exec answered
  exact ⟨(monitored_exec done).1, written⟩

/-- The loop waits and takes parameters up only when it owes nothing, and it asks for what it owes. -/
def owingGuard (Core : Type) [ConstructCore Core] (config : EngineConfig) :
    (owingMachine Core config).Guard := fun op state =>
  match op with
  | .paramsRead | .paramsLock | .select _ => state.2 = none
  | .openExchange _ _ conversationIds sinceCursor _ => ∀ params ∈ state.2, params = ⟨conversationIds, sinceCursor⟩
  | _ => True

/-- A program is safe when it asks for what it owes. -/
abbrev OwingHolds (config : EngineConfig) (program : EngineM Core A)
    (result : A → (World Core × Bool) × Option StreamParams → Prop)
    (state : (World Core × Bool) × Option StreamParams) : Prop :=
  Holds (Promise.any (owingMachine Core config)) (owingGuard Core config) program result state

/-- The program begins and ends without a debt. -/
abbrev KeepsEven (config : EngineConfig) (program : EngineM Core A) : Prop :=
  Keeps (Promise.any (owingMachine Core config)) (owingGuard Core config) (fun state => state.2 = none) program

/-- Nothing but these parameters is owed. -/
def Owes (params : StreamParams) (state : (World Core × Bool) × Option StreamParams) : Prop :=
  ∀ owed ∈ state.2, owed = params

omit [ConstructCore Core] in
theorem Owes.same {params : StreamParams} {state after : (World Core × Bool) × Option StreamParams}
    (now : Owes params state) (same : after.2 = state.2) : Owes params after := by
  unfold Owes
  rw [same]
  exact now

/-- The environment changes neither the engine nor the debt. -/
theorem owing_stable {promise : (owingMachine Core config).Promise}
    (assertion : Engine Core → Option StreamParams → Prop) :
    Stable promise fun state => assertion state.1.1.engine state.2 :=
  (((engineOwned Core config).monitored (severanceLedger Core config)).monitored (owingLedger Core config)).stable
    fun view => assertion view.1.1 view.2

theorem even_stable {promise : (owingMachine Core config).Promise} : Stable promise fun state => state.2 = none :=
  owing_stable fun _ owed => owed = none

theorem owes_stable {promise : (owingMachine Core config).Promise} (params : StreamParams) :
    Stable promise (Owes params) :=
  owing_stable fun _ owed => ∀ other ∈ owed, other = params

/-- These operations have a guard. -/
def Op.dues : {A : Type} → Op Core A → Bool
  | _, .paramsRead | _, .paramsLock | _, .openExchange .. | _, .select _ => true
  | _, _ => false

omit [ConstructCore Core] in
/-- Outside of an attempt to open the stream, only a selection has a guard. -/
theorem dues_of_topic {op : Op Core A} (apart : op.topic.opens = false) (unselected : op.topic ≠ .selection) :
    op.dues = false := by
  cases op <;> first | rfl | exact absurd rfl unselected | cases apart

omit [ConstructCore Core] in
/-- Only an attempt to open the stream takes parameters up. -/
theorem owes_apart {op : Op Core A} (apart : op.dues = false) (value : A) (owed : Option StreamParams) :
    op.owes value owed = owed ∨ op.owes value owed = none := by
  cases op with
  | quicConnect => cases value <;> simp [Op.owes]
  | paramsRead => cases apart
  | paramsLock => cases apart
  | openExchange => cases apart
  | _ => exact .inl rfl

/-- The other operations are always allowed. -/
theorem owingGuard_apart {op : Op Core A} (apart : op.dues = false)
    (state : (World Core × Bool) × Option StreamParams) : owingGuard Core config op state := by
  cases op with
  | select => cases apart
  | paramsRead => cases apart
  | paramsLock => cases apart
  | openExchange => cases apart
  | _ => trivial

/-- Another operation adds nothing to what is owed. -/
theorem exec_owes {op : Op Core A} (apart : op.dues = false) {params : StreamParams} {choice : Choice}
    {state after : (World Core × Bool) × Option StreamParams} {value : A} (now : Owes params state)
    (answered : (owingMachine Core config).exec op choice state = some (value, after)) : Owes params after := by
  have written := (exec_owing answered).2
  obtain same | cleared := owes_apart apart value state.2
  · exact now.same (written.trans same)
  · intro owed stored
    rw [written, cleared] at stored
    cases stored

/-- The other operations keep a debt as it is, or they settle it. -/
theorem apart_owes {params : StreamParams} (op : Op Core A) (apart : op.dues = false) :
    Keeps (Promise.any (owingMachine Core config)) (owingGuard Core config) (Owes params) (perform op) :=
  keeps_perform (owes_stable params) (fun state _ => owingGuard_apart apart state)
    fun _ _ _ _ now _ answered => exec_owes apart now answered

/-- The other operations make no debt. -/
theorem apart_even (op : Op Core A) (apart : op.dues = false) : KeepsEven config (perform op) := by
  refine keeps_perform even_stable (fun state _ => owingGuard_apart apart state)
    fun state choice value after now _ answered => ?_
  rw [(exec_owing answered).2]
  obtain same | cleared := owes_apart apart value state.2
  · exact same.trans now
  · exact cleared

/-- A connection is stored, too. -/
def Equipped (params : StreamParams) (state : (World Core × Bool) × Option StreamParams) : Prop :=
  Owes params state ∧ state.1.1.engine.h3.isSome = true

theorem equipped_stable {promise : (owingMachine Core config).Promise} (params : StreamParams) :
    Stable promise (Equipped params) :=
  owing_stable fun engine owed => (∀ other ∈ owed, other = params) ∧ engine.h3.isSome = true

/-- Only a dropped connection takes the stored one away. -/
theorem equipped_keeps {params : StreamParams} (op : Op Core A) (apart : op.dues = false)
    (spares : op.writes .h3 = false) :
    Keeps (Promise.any (owingMachine Core config)) (owingGuard Core config) (Equipped params) (perform op) := by
  refine keeps_perform (equipped_stable params) (fun state _ => owingGuard_apart apart state)
    fun state choice value after now _ answered => ⟨exec_owes apart now.1 answered, ?_⟩
  rw [(exec_frame (exec_owing answered).1).h3 spares]
  exact now.2

/-- A failed attempt to connect owes nothing, and a connection that is made is stored. -/
def Attempted (params : StreamParams) :
    Except EngineError Unit → (World Core × Bool) × Option StreamParams → Prop
  | .error _, state => state.2 = none
  | .ok (), state => Equipped params state

section
variable {params : StreamParams} {state : (World Core × Bool) × Option StreamParams}

/-- An attempt to connect that fails settles the debt, and one that succeeds stores a connection. -/
theorem connectH3_owes (site : ConnectSite) (now : Owes params state) :
    OwingHolds config (connectH3 site) (Attempted params) state := by
  unfold connectH3
  refine holds_bind (apart_owes .connectBegin rfl state now) fun _ state now => ?_
  refine holds_perform (Owes params) (owes_stable params) (fun _ _ => trivial)
    (fun before choice connected after now _ answered => ?_) now
  obtain ⟨-, written⟩ := exec_owing answered
  rcases connected with error | conn
  · exact holds_done even_stable written
  have owes : Owes params after := now.same written
  refine holds_perform (Owes params) (owes_stable params) (fun _ _ => trivial)
    (fun before choice value stored now _ answered => ?_) owes
  obtain ⟨done, written⟩ := exec_owing answered
  change exec config (.h3Store site conn) choice before.1.1 = _ at done
  have held : stored.1.1.engine.h3 = some conn := by
    obtain ⟨-, same⟩ := Prod.mk.inj (Option.some.inj done)
    rw [← same]
  have equipped : Equipped params stored := ⟨now.same written, by rw [held]; rfl⟩
  refine holds_bind (equipped_keeps .connectedSend rfl rfl stored equipped) fun _ state now => ?_
  exact holds_done (equipped_stable params) now

/-- After the check a connection is stored, or the debt is settled. -/
theorem ensureH3_owes (site : ConnectSite) (now : Owes params state) :
    OwingHolds config (ensureH3 site) (Attempted params) state := by
  unfold ensureH3
  refine holds_perform (Owes params) (owes_stable params) (fun _ _ => trivial)
    (fun before choice stored after now _ answered => ?_) now
  obtain ⟨done, written⟩ := exec_owing answered
  have owes : Owes params after := now.same written
  cases stored with
  | none => exact connectH3_owes site owes
  | some conn =>
      change exec config .h3Read choice before.1.1 = _ at done
      have held : after.1.1.engine.h3.isSome = true := by
        simp only [exec, Option.some.injEq, Prod.mk.injEq] at done
        rw [← done.2, done.1]
        rfl
      exact holds_done (equipped_stable params) ⟨owes, held⟩

/-- With a stored connection the request can be made. -/
theorem sendRequest_owes (now : Equipped params state) :
    OwingHolds config sendRequest (fun answer state => ∃ conn, answer = .ok conn ∧ Owes params state) state := by
  unfold sendRequest
  refine holds_perform (Equipped params) (equipped_stable params) (fun _ _ => trivial)
    (fun before choice stored after now _ answered => ?_) now
  obtain ⟨done, written⟩ := exec_owing answered
  change exec config .h3Read choice before.1.1 = _ at done
  obtain ⟨rfl, -⟩ := Prod.mk.inj (Option.some.inj done)
  obtain ⟨conn, held⟩ := Option.isSome_iff_exists.mp now.2
  rw [held]
  exact holds_done (owing_stable fun _ owed => ∃ found, Except.ok conn = (.ok found : Except EngineError Nat) ∧
    ∀ other ∈ owed, other = params) ⟨conn, rfl, now.1.same written⟩

/-- The opening asks for the stream unless no connection can be made. -/
theorem openMessageStream_owes (now : Owes params state) :
    OwingHolds config (openMessageStream params.conversationIds params.lastCursor) (fun _ state => state.2 = none)
      state := by
  unfold openMessageStream
  refine holds_bind (ensureH3_owes .openMessageStream now) fun ensured state now => ?_
  rcases ensured with error | ⟨⟩
  · exact holds_done even_stable now
  refine holds_bind (sendRequest_owes now) fun sendReq state now => ?_
  obtain ⟨conn, rfl, now⟩ := now
  refine holds_bind (apart_owes .tokenRead rfl state now) fun token state now => ?_
  refine holds_bind (apart_owes .requestId rfl state now) fun requestId state now => ?_
  refine holds_perform (Owes params) (owes_stable params) (fun _ now => now)
    (fun before choice accepted after _ _ answered => ?_) now
  have paid : after.2 = none := (exec_owing answered).2
  rcases accepted with error | ⟨⟩
  · exact holds_done even_stable paid
  · exact holds_bind (apart_even (.spawnPump conn) rfl after paid) fun handle state now =>
      holds_done even_stable now

/-- An attempt to open the stream settles a debt of its parameters. -/
theorem handleOpenStream_owes (now : Owes params state) :
    OwingHolds config (handleOpenStream params.conversationIds params.lastCursor) (fun _ state => state.2 = none)
      state := by
  unfold handleOpenStream
  refine holds_bind (apart_owes (.paramsWrite params) rfl state now) fun _ state now => ?_
  refine holds_bind (openMessageStream_owes now) fun opened state now => ?_
  rcases opened with error | handle
  · exact apart_even (.onAction _) rfl state now
  · exact holds_bind (apart_even (.streamWrite (some handle)) rfl state now) fun _ state now =>
      apart_even (.onAction _) rfl state now

end

omit [ConstructCore Core] in
/-- Without a debt any parameters may be asked for. -/
theorem owes_none {params : StreamParams} {state : (World Core × Bool) × Option StreamParams}
    (even : state.2 = none) : Owes params state := by
  intro owed stored
  rw [even] at stored
  cases stored

theorem handleOpenStream_even (conversations : List String) (cursor : Option String) :
    KeepsEven config (handleOpenStream conversations cursor : EngineM Core Unit) := by
  intro state even
  have owes : Owes ⟨conversations, cursor⟩ state := owes_none even
  exact handleOpenStream_owes owes

omit [ConstructCore Core] in
/-- The debt is for the parameters that were taken up. -/
theorem owes_taken {params : StreamParams} {state : (World Core × Bool) × Option StreamParams}
    (taken : state.2 = some params) : Owes params state := by
  intro owed stored
  rw [taken] at stored
  exact (Option.some.inj stored).symm

/-- A re-open pays for the parameters that it takes up. -/
theorem reopenStreamIfNeeded_even : KeepsEven config (reopenStreamIfNeeded : EngineM Core Unit) := by
  intro state even
  unfold reopenStreamIfNeeded
  refine holds_perform (fun state : (World Core × Bool) × Option StreamParams => state.2 = none) even_stable
    (fun _ even => even) (fun before choice params after _ _ answered => ?_) even
  have taken : after.2 = params := (exec_owing answered).2
  cases params with
  | none => exact holds_done even_stable taken
  | some params => exact handleOpenStream_owes (owes_taken taken)

/-- A reconnect takes the parameters up under the lock and settles its debt. -/
theorem resubscribe_even : KeepsEven config (resubscribe : EngineM Core Unit) := by
  intro state even
  unfold resubscribe
  refine holds_perform (fun state : (World Core × Bool) × Option StreamParams => state.2 = none) even_stable
    (fun _ even => even) (fun before choice params after _ _ answered => ?_) even
  have taken : after.2 = params := (exec_owing answered).2
  cases params with
  | none => exact apart_even .paramsUnlock rfl after taken
  | some params =>
      exact holds_bind (handleOpenStream_owes (owes_taken taken)) fun _ state even =>
        apart_even .paramsUnlock rfl state even

/-- A handler that takes up nothing itself owes nothing between its parts. -/
theorem built_even [Prost] {topics : Topic → Prop} (unselected : ∀ topic, topics topic → topic ≠ .selection)
    {program : EngineM Core A} (built : Built topics (anyRequest topics) program) : KeepsEven config program := by
  refine keeps_built even_stable (fun op engages apart => apart_even op (dues_of_topic apart ?_))
    (fun _ => handleOpenStream_even) (fun _ => reopenStreamIfNeeded_even) built
  exact engages.ne (by simp) unselected

theorem own_even (op : Op Core A) (own : op.Own) : KeepsEven config (perform op) := by
  refine apart_even op (dues_of_topic ?_ (own.ne (by simp) (by simp)))
  have other : op.topic ≠ .subscription := own.ne (by simp) (by simp)
  simpa [Topic.opens] using other

theorem ensureConnected_even : KeepsEven config (ensureConnected : EngineM Core Unit) :=
  keeps_of_uses even_stable (fun op engages => own_even op (own_of_engages engages)) concerns_ensureConnected

/-- A change of the watch is handled without a debt that remains. -/
theorem handleConnectedChange_even : KeepsEven config (handleConnectedChange : EngineM Core Unit) := by
  unfold handleConnectedChange
  refine keeps_bind (apart_even _ rfl) fun connected => ?_
  split
  · exact keeps_done even_stable ()
  · exact keeps_bind (apart_even (.onAction _) rfl) fun _ =>
      keeps_bind (apart_even (.streamWrite none) rfl) fun _ =>
      keeps_bind ensureConnected_even fun _ => resubscribe_even

theorem select_even (refreshArmed : Bool) :
    KeepsEven config (perform (.select refreshArmed) : EngineM Core Branch) := by
  refine keeps_perform even_stable (fun _ even => even) fun state choice branch after even _ answered => ?_
  have same : after.2 = state.2 := (exec_owing answered).2
  exact same.trans even

/-- Wherever the loop waits or ends, it owes nothing. -/
theorem eventLoop_even [Prost] : KeepsEven config (eventLoop config : EngineM Core Unit) := by
  have timer (refreshArmed : Bool) : KeepsEven config (updateRefreshTimer refreshArmed : EngineM Core Bool) :=
    updateRefreshTimer_keeps even_stable (fun op own _ => own_even op own) refreshArmed
  refine eventLoop_keeps even_stable (fun op own _ => own_even op own) ensureConnected_even fun refreshArmed => ?_
  refine eventLoopTurn_branches (fun _ (state : (World Core × Bool) × Option StreamParams) => state.2 = none)
    even_stable timer ?_ ?_ ?_ ?_ ?_ ?_ refreshArmed
  · exact select_even
  · exact built_even (by simp [loginTopics]) (built_refresh config)
  · exact handleConnectedChange_even
  · exact fun event => built_even (topics_unselected event) (built_handleEvent config event fun _ member => member)
  · exact fun frame => built_even (by simp [receiveTopics]) (built_frame frame)
  · rintro state (even | even) <;> exact even

/-- This is what automatic re-subscription promises in one configuration of a run: every subscription so far
and the next one are the wished ones, a loop at rest owes none, and what is owed can be asked for. -/
structure Resubscribes [Prost] (config : EngineConfig) (world : World Core) (owed : Option StreamParams)
    (later : EngineM Core Unit) : Prop where
  logged : AtEach resubscriptionLaw world.engine.log
  asked : ∀ conn token conversationIds sinceCursor requestId next,
    later = .ask (.openExchange conn token conversationIds sinceCursor requestId) next →
    wishedStream world.engine.log = some ⟨conversationIds, sinceCursor⟩
  paid : isResting later = true → owed = none
  sends : ∃ after following more, Reaches (serving Core config) (world, later) (after, following) ∧
    isResting following = true ∧ after.engine.log = world.engine.log ++ more ∧
    ∀ params ∈ owed, .subscribed params.conversationIds params.lastCursor ∈ more

section
variable [Prost] {engine : Engine Core} {world : World Core} {severed : Bool} {owed : Option StreamParams}
  {later : EngineM Core Unit}

/-- Where the loop rests, nothing is owed. -/
theorem resting_even {state : (World Core × Bool) × Option StreamParams}
    (reached : Reaches (Promise.any (owingMachine Core config))
      (((startWorld engine, false), none), eventLoop config) (state, later))
    (resting : isResting later = true) : state.2 = none := by
  have holds : OwingHolds config (eventLoop config) (fun _ state => state.2 = none)
      ((startWorld engine, false), none) := eventLoop_even _ rfl
  unfold isResting at resting
  split at resting
  · exact (holds _ _ reached).1 _ _ _ rfl
  · exact (holds _ _ reached).2 _ rfl
  · cases resting

/-- What is owed is still owed, or the trace has grown by the request. -/
def Paying (owed : Option StreamParams) (log : List Event) (state : (World Core × Bool) × Option StreamParams) :
    Prop :=
  ∃ more, state.1.1.engine.log = log ++ more ∧ ∀ params ∈ owed, state.2 = some params ∨
    .subscribed params.conversationIds params.lastCursor ∈ more

omit [Prost] in
/-- An attempt that does not fail asks for what is owed. -/
theorem paying_kept {log : List Event} {op : Op Core A} {choice : Choice}
    {state after : (World Core × Bool) × Option StreamParams} {value : A}
    (guarded : owingGuard Core config op state) (granted : op.granted config choice)
    (answered : (owingMachine Core config).exec op choice state = some (value, after))
    (now : Paying owed log state) : Paying owed log after := by
  obtain ⟨more, grown, pays⟩ := now
  obtain ⟨done, written⟩ := exec_owing answered
  obtain ⟨added, further, -, -⟩ := exec_traces done
  have grows : after.1.1.engine.log = log ++ (more ++ added) := by
    rw [further, grown, List.append_assoc]
  refine ⟨more ++ added, grows, fun params member => ?_⟩
  obtain owes | asked := pays params member
  · cases op with
    | paramsRead => cases guarded.symm.trans owes
    | paramsLock => cases guarded.symm.trans owes
    | select => cases guarded.symm.trans owes
    | quicConnect =>
        cases value with
        | ok conn => exact .inl (written.trans owes)
        | error error =>
            obtain ⟨_, failed, -⟩ | ⟨connected, -⟩ := quicConnect_effect done
            · cases granted.symm.trans failed
            · cases connected
    | openExchange conn token conversationIds sinceCursor requestId =>
        obtain rfl : params = ⟨conversationIds, sinceCursor⟩ := guarded params owes
        have accepted : choice.opened.accepted = .ok () := granted
        simp only [exec, accepted, Option.some.injEq, Prod.mk.injEq] at done
        rw [← done.2] at further
        have asked : added = [.subscribed conversationIds sinceCursor] := (List.append_cancel_left further).symm
        exact .inr (List.mem_append_right more (by simp [asked]))
    | _ => exact .inl (written.trans owes)
  · exact .inr (List.mem_append_left _ asked)

variable (reached : Reaches (Promise.any (owingMachine Core config))
  (((startWorld engine, false), none), eventLoop config) (((world, severed), owed), later))
include reached

/-- Where a run without failing attempts rests, the request that was owed is in the trace. -/
theorem owed_sent {after : World Core} {following : EngineM Core Unit}
    (path : Reaches (serving Core config) (world, later) (after, following))
    (resting : isResting following = true) :
    ∃ more, after.engine.log = world.engine.log ++ more ∧
      ∀ params ∈ owed, .subscribed params.conversationIds params.lastCursor ∈ more := by
  obtain ⟨severance, monitored⟩ := path.monitored (severanceLedger Core config) severed
  obtain ⟨final, ahead⟩ := monitored.monitored (owingLedger Core config) owed
  have free {last : (owingMachine Core config).Configuration Unit}
      (ahead : Reaches (((serving Core config).monitored (severanceLedger Core config)).monitored
        (owingLedger Core config)) (((world, severed), owed), later) last) :
      Reaches (Promise.any (owingMachine Core config)) (((world, severed), owed), later) last :=
    ahead.any
  have holds : OwingHolds config (eventLoop config) (fun _ state => state.2 = none)
      ((startWorld engine, false), none) := eventLoop_even _ rfl
  have onwards : Holds (((serving Core config).monitored (severanceLedger Core config)).monitored
      (owingLedger Core config)) (owingGuard Core config) later (fun _ state => state.2 = none)
      ((world, severed), owed) := fun _ _ ahead => holds _ _ (reached.trans (free ahead))
  have paying : Paying owed world.engine.log ((after, severance), final) := by
    refine onwards.invariant (Paying owed world.engine.log) (owing_stable fun engine note => ∃ more,
      engine.log = world.engine.log ++ more ∧ ∀ params ∈ owed, note = some params ∨
        .subscribed params.conversationIds params.lastCursor ∈ more) ?_ ?_ ahead
    · exact fun _ _ _ _ _ guarded now granted answered => paying_kept guarded granted answered now
    · exact ⟨[], (List.append_nil _).symm, fun params member => .inl member⟩
  obtain ⟨more, grown, pays⟩ := paying
  have even : final = none := resting_even (reached.trans (free ahead)) resting
  refine ⟨more, grown, fun params member => (pays params member).resolve_left fun owes => ?_⟩
  cases even.symm.trans owes

/-- Automatic re-subscription keeps its promise in every configuration of a run exactly as long as the loop
has not read of a lost connection while a subscription was stored and is not about to. -/
theorem reopening_sends (created : Engine.new config = .ok engine) :
    Resubscribes config world owed later ↔ severed = false ∧ ¬LostRead world later := by
  have watched : Reaches (Promise.any (severanceMachine Core config))
      ((startWorld engine, false), eventLoop config) ((world, severed), later) :=
    reaches_unmonitored reached
  constructor
  · intro resubscribes
    obtain ⟨after, following, _, path, resting, -⟩ := resubscribes.sends
    exact resting_unsevered watched path resting
  · rintro ⟨whole, heard⟩
    have free : Reaches (Promise.any (engineMachine Core config)) (startWorld engine, eventLoop config)
        (world, later) := reaches_unmonitored watched
    obtain ⟨logged, asked, -⟩ := resubscription_follows created free
    refine ⟨logged, asked, resting_even reached, ?_⟩
    obtain ⟨armed, after, path, -⟩ | ⟨_, after, path, -⟩ := unsevered_regains created watched whole heard
    · obtain ⟨more, grown, sent⟩ := owed_sent reached (patience_serves path) rfl
      exact ⟨after, _, more, patience_serves path, rfl, grown, sent⟩
    · obtain ⟨more, grown, sent⟩ := owed_sent reached path rfl
      exact ⟨after, _, more, path, rfl, grown, sent⟩

end

/-- The platform's events come first, and the moves stand between two series of answers. -/
def owingRehearsal (events : List UiEvent) (choices : List Choice) (moves : List Move) (later : List Choice) :
    (owingMachine RehearsalCore (rehearsalConfig [] none)).Configuration Unit :=
  run (((startWorld (Engine.fresh (rehearsalConfig [] none) none), false), none),
      eventLoop (rehearsalConfig [] none))
    (events.map (fun event => .move (Move.dispatch event)) ++ choices.map (fun choice => .answer choice) ++
      moves.map (fun move => .move move) ++
      later.map fun choice => (.answer choice : (owingMachine RehearsalCore (rehearsalConfig [] none)).Input))

theorem owingRehearsal_reaches (events : List UiEvent) (choices : List Choice) (moves : List Move)
    (later : List Choice) :
    Reaches (Promise.any (owingMachine RehearsalCore (rehearsalConfig [] none)))
      (((startWorld (Engine.fresh (rehearsalConfig [] none) none), false), none),
        eventLoop (rehearsalConfig [] none))
      ((((owingRehearsal events choices moves later).1.1.1, (owingRehearsal events choices moves later).1.1.2),
        (owingRehearsal events choices moves later).1.2), (owingRehearsal events choices moves later).2) :=
  run_reaches (allAllowed_any _ _)

/-- After a login the stream is about to be asked for again. -/
def reopeningLogin : (owingMachine RehearsalCore (rehearsalConfig [] none)).Configuration Unit :=
  owingRehearsal [.openMessageStream ["c"] (some "5"), .authenticate "d" [] []] (List.replicate 41 openChoice) [] []

theorem reopening_sends_login : reopeningLogin.1.2 = some ⟨["c"], some "5"⟩ ∧
    Resubscribes (rehearsalConfig [] none) reopeningLogin.1.1.1 reopeningLogin.1.2 reopeningLogin.2 :=
  ⟨by decide +kernel, (reopening_sends (owingRehearsal_reaches _ _ _ _) (rehearsal_without_core none)).mpr
    ⟨by decide +kernel, by decide +kernel⟩⟩

/-- The program is about to store parameters. -/
def isStoring (program : EngineM Core A) : Bool :=
  match program with
  | .ask (.paramsWrite _) _ => true
  | _ => false

/-- A program that stores parameters while their mutex is held gets no further. -/
theorem storing_waits {promise : (engineMachine Core config).Promise} {world after : World Core}
    {program later : EngineM Core A} (storing : isStoring program = true)
    (held : world.engine.paramsHeld = true) (path : Reaches promise (world, program) (after, later)) :
    after.engine = world.engine := by
  unfold isStoring at storing
  split at storing
  next params _ =>
    have still : Stable promise fun state : World Core => state.engine = world.engine :=
      (engineOwned Core config).stable (· = world.engine)
    obtain ⟨-, same⟩ | ⟨choice, before, _, _, same, -, answered, -⟩ := reaches_ask_calm still rfl path
    · exact same
    · change exec config (.paramsWrite params) choice before = _ at answered
      obtain ⟨free, -⟩ := paramsWrite_effect answered
      rw [same, held] at free
      cases free
  next => cases storing

/-- The stream opens, its driver exits, and the connection is made again. -/
def reconnected : (owingMachine RehearsalCore (rehearsalConfig [] none)).Configuration Unit :=
  owingRehearsal [.openMessageStream ["c"] none] (List.replicate 26 willing) [.driverExits 0]
    (List.replicate 11 willing)

/-- The connection runs and the subscription is owed, but no run goes on to ask for it. -/
theorem reopening_fails : reconnected.1.1.1.net.connected.value = true ∧
    reconnected.1.2 = some ⟨["c"], none⟩ ∧
    ∀ after following, Reaches (Promise.any (rehearsalMachine (rehearsalConfig [] none)))
      (reconnected.1.1.1, reconnected.2) (after, following) →
      (after.engine.log.filterMap fun
        | .subscribed conversationIds sinceCursor => some (conversationIds, sinceCursor)
        | _ => none) = [(["c"], none)] := by
  refine ⟨by decide +kernel, by decide +kernel, fun after following path => ?_⟩
  rw [storing_waits (by decide +kernel) (by decide +kernel) path]
  decide +kernel

end ConstructEngine
