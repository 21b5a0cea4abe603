import ConstructEngine.Proof.Link
import ConstructEngine.Proof.Rehearsal

namespace ConstructEngine

open Interaction Program Machine

variable {Core : Type} [ConstructCore Core] {config : EngineConfig}

/-- The driver of the stored connection is still running. -/
def StoredRuns (world : World Core) : Prop :=
  ∃ conn ∈ world.engine.h3, conn ∈ world.net.drivers

/-- Outside of a connection attempt, a running connection shows as connected. -/
def Truthful (world : World Core) : Prop :=
  world.engine.phase = .idle → StoredRuns world → world.net.connected.value = true

instance (world : World Core) : Decidable (StoredRuns world) :=
  inferInstanceAs (Decidable (∃ conn ∈ world.engine.h3, conn ∈ world.net.drivers))

instance (world : World Core) : Decidable (Truthful world) :=
  inferInstanceAs (Decidable (_ → _ → _))

/-- Outside of a connection attempt only the driver of the stored connection exits while the stored
connection runs. -/
def ExitHarmless (world : World Core) : Move → Prop
  | .driverExits conn => world.engine.phase = .idle → StoredRuns world → world.engine.h3 = some conn
  | _ => True

/-- Whether an exit is harmless can be read off the world. -/
instance decidableExit (world : World Core) : (move : Move) → Decidable (ExitHarmless world move)
  | .driverExits _ => inferInstanceAs (Decidable (_ → _ → _))
  | .pump .. => isTrue trivial
  | .dispatch _ => isTrue trivial
  | .retryDue _ => isTrue trivial
  | .tick _ => isTrue trivial

/-- In these runs no exit of an older driver hides the stored connection. -/
def driverPromise (Core : Type) [ConstructCore Core] (config : EngineConfig) :
    (engineMachine Core config).Promise where
  answers _ _ _ := True
  moves move world := ExitHarmless world move

instance (A : Type) (op : Op Core A) (choice : (engineMachine Core config).Choice)
    (world : (engineMachine Core config).State) :
    Decidable ((driverPromise Core config).answers op choice world) := isTrue trivial

instance (move : (engineMachine Core config).Move) (world : (engineMachine Core config).State) :
    Decidable ((driverPromise Core config).moves move world) :=
  decidableExit world move

/-- Outside of an attempt, the watch shows a running connection. -/
def Sound (world : World Core) : Prop := world.engine.phase = .idle ∧ Truthful world

/-- The engine is about to attempt a connection, and the stored one does not run. -/
def Parted (world : World Core) : Prop := world.engine.phase = .idle ∧ ¬StoredRuns world

omit [ConstructCore Core] in
/-- Where no stored connection runs, there is nothing to show. -/
theorem Parted.sound {world : World Core} (parted : Parted world) : Sound world :=
  ⟨parted.1, fun _ runs => absurd runs parted.2⟩

/-- No connection that runs is replaced, a connection is stored during an attempt, and the loop reads a
truthful watch. -/
def watchGuard (Core : Type) [ConstructCore Core] (config : EngineConfig) :
    (engineMachine Core config).Guard := fun op world =>
  match op with
  | .quicConnect => ¬StoredRuns world
  | .h3Store _ _ => world.engine.phase = .spawned
  | .connectedBorrow => Sound world
  | _ => True

/-- A harmless exit hides no running connection. -/
theorem truthful_stable : Stable (driverPromise Core config) Truthful := by
  intro move world after now kept moved
  obtain ⟨net, done, rfl⟩ := moveWorld_some moved
  rintro idle ⟨conn, stored, running⟩
  rcases moveNet_link done with ⟨exited, rfl, drivers, connected⟩ | ⟨drivers, connected⟩
  · rw [drivers, List.mem_filter] at running
    have same := kept idle ⟨conn, stored, running.1⟩
    have equal : conn = exited := Option.some.inj (stored.symm.trans same)
    simp [equal] at running
  · rw [connected]
    exact now idle ⟨conn, stored, by rw [← drivers]; exact running⟩

/-- The engine is in this phase of an attempt. -/
abbrev InPhase (phase : ConnectPhase) (world : World Core) : Prop := world.engine.phase = phase

/-- The phase belongs to the engine. -/
theorem phase_stable {promise : (engineMachine Core config).Promise} (phase : ConnectPhase) :
    Stable promise (InPhase phase) :=
  (engineOwned Core config).stable fun engine => engine.phase = phase

/-- No move brings a driver back. -/
theorem parted_stable {promise : (engineMachine Core config).Promise} (phase : ConnectPhase) :
    Stable promise fun world : World Core => world.engine.phase = phase ∧ ¬StoredRuns world := by
  intro move world after now _ moved
  obtain ⟨net, done, rfl⟩ := moveWorld_some moved
  refine ⟨now.1, ?_⟩
  rintro ⟨conn, stored, running⟩
  refine now.2 ⟨conn, stored, ?_⟩
  rcases moveNet_link done with ⟨exited, -, drivers, -⟩ | ⟨drivers, -⟩
  · rw [drivers] at running
    exact (List.mem_filter.mp running).1
  · rwa [drivers] at running

/-- A harmless environment keeps the watch sound. -/
theorem sound_stable : Stable (driverPromise Core config) (Sound : World Core → Prop) := by
  intro move world after now kept moved
  have idle : Stable (driverPromise Core config) (InPhase .idle) := phase_stable .idle
  exact ⟨idle move world after now.1 kept moved, truthful_stable move world after now.2 kept moved⟩

omit [ConstructCore Core] in
/-- No driver starts without a connection attempt. -/
theorem SameConnection.runs {world after : World Core} (same : SameConnection world after)
    (runs : StoredRuns after) : StoredRuns world := by
  obtain ⟨conn, stored, running⟩ := runs
  exact ⟨conn, same.h3.symm.trans stored, by rw [← same.drivers]; exact running⟩

omit [ConstructCore Core] in
/-- With the same connection the watch stays sound. -/
theorem SameConnection.sound {world after : World Core} (same : SameConnection world after)
    (sound : Sound world) : Sound after := by
  refine ⟨same.phase.trans sound.1, fun _ runs => ?_⟩
  rw [same.connected]
  exact sound.2 sound.1 (same.runs runs)

omit [ConstructCore Core] in
/-- With the same connection none runs that did not. -/
theorem SameConnection.parted {world after : World Core} (same : SameConnection world after)
    (parted : Parted world) : Parted after :=
  ⟨same.phase.trans parted.1, fun runs => parted.2 (same.runs runs)⟩

/-- A program keeps the watch sound when it begins and ends outside of attempts. -/
abbrev KeepsSound {A : Type} (config : EngineConfig) (program : EngineM Core A) : Prop :=
  Keeps (driverPromise Core config) (watchGuard Core config) Sound program

/-- The engine loses no connection that runs. -/
abbrev WatchHolds {A : Type} (config : EngineConfig) (program : EngineM Core A)
    (result : A → World Core → Prop) (world : World Core) : Prop :=
  Holds (driverPromise Core config) (watchGuard Core config) program result world

/-- An operation that touches no connection keeps the watch sound. -/
theorem steady_sound {A : Type} (op : Op Core A) (steady : op.relinks = false) :
    KeepsSound config (perform op) := by
  refine keeps_perform sound_stable (fun world sound => ?_)
    fun world choice value after sound _ answered => (exec_connection answered steady).sound sound
  cases op with
  | quicConnect => cases steady
  | h3Store site conn => cases steady
  | connectedBorrow => exact sound
  | _ => trivial

/-- A plain operation touches no connection. -/
theorem plain_sound {A : Type} (op : Op Core A) (kind : op.kind = .plain) : KeepsSound config (perform op) :=
  steady_sound op (relinks_of_kind (by rw [kind]; decide))

/-- Without a stored connection there is nothing to show. -/
theorem drop_sound : KeepsSound config (perform .h3Drop : EngineM Core Unit) := by
  refine keeps_perform sound_stable (fun _ _ => trivial) fun world choice value after sound _ dropped => ?_
  cases dropped
  refine ⟨sound.1, fun _ runs => ?_⟩
  obtain ⟨conn, stored, -⟩ := runs
  cases stored

/-- An attempt without a running connection leaves one that shows, or none as before. -/
theorem connectH3_sound (site : ConnectSite) {world : World Core} (parted : Parted world) :
    WatchHolds config (connectH3 site) (fun answer after => match answer with
      | .error _ => Parted after
      | .ok _ => Sound after) world := by
  unfold connectH3
  refine holds_perform Parted (parted_stable .idle) (fun _ _ => trivial)
    (fun world choice value after parted _ begun => ?_) parted
  cases begun
  refine holds_perform (fun world : World Core => world.engine.phase = .handshake ∧ ¬StoredRuns world)
    (parted_stable .handshake) (fun _ parted => parted.2)
    (fun world choice answer after parted _ connected => ?_) ⟨rfl, parted.2⟩
  change exec config .quicConnect choice world = _ at connected
  obtain ⟨error, -, rfl, rfl⟩ | ⟨rfl, rfl⟩ := quicConnect_effect connected
  · exact holds_done (parted_stable .idle) ⟨rfl, parted.2⟩
  refine holds_perform (InPhase .spawned) (phase_stable .spawned)
    (fun _ spawned => spawned) (fun world choice value after spawned _ stored => ?_) rfl
  cases stored
  refine holds_perform (InPhase .spawned) (phase_stable .spawned)
    (fun _ _ => trivial) (fun world choice value after _ _ sent => ?_) spawned
  cases sent
  exact holds_done sound_stable ⟨rfl, fun _ _ => rfl⟩

/-- A call connects only when nothing is stored. -/
theorem ensureH3_sound (site : ConnectSite) :
    KeepsSound config (ensureH3 site : EngineM Core (Except EngineError Unit)) := by
  intro world sound
  unfold ensureH3
  refine holds_perform Sound sound_stable (fun _ _ => trivial)
    (fun world choice stored after sound _ read => ?_) sound
  cases read
  cases stored : world.engine.h3 with
  | some conn => exact holds_done sound_stable sound
  | none =>
      have parted : Parted world := by
        refine ⟨sound.1, fun runs => ?_⟩
        obtain ⟨conn, other, -⟩ := runs
        rw [stored] at other
        cases other
      refine (connectH3_sound site parted).weaken fun answer after kept => ?_
      rcases answer with error | ⟨⟩
      · exact kept.sound
      · exact kept

/-- To take the connection changes nothing. -/
theorem sendRequest_sound : KeepsSound config (sendRequest : EngineM Core (Except EngineError Nat)) := by
  unfold sendRequest
  refine keeps_bind (plain_sound _ rfl) fun stored => ?_
  cases stored <;> exact keeps_done sound_stable _

/-- A failed call drops its connection, and the next one connects without a running one. -/
theorem unaryCall_sound (servicePath : String) (request : Bytes) :
    KeepsSound config (unaryCall servicePath request : EngineM Core (Except EngineError Bytes)) := by
  unfold unaryCall
  refine keeps_bind (ensureH3_sound _) fun ensured => ?_
  rcases ensured with error | ⟨⟩
  · exact keeps_done sound_stable _
  refine keeps_bind sendRequest_sound fun sendReq => ?_
  rcases sendReq with error | conn
  · exact keeps_done sound_stable _
  refine keeps_bind (plain_sound _ rfl) fun token => keeps_bind (steady_sound _ rfl) fun exchange => ?_
  split
  · exact keeps_bind drop_sound fun _ => keeps_done sound_stable _
  · exact keeps_done sound_stable _

/-- A stream is opened over the stored connection or over a new one. -/
theorem handleOpenStream_sound (conversations : List String) (cursor : Option String) :
    KeepsSound config (handleOpenStream conversations cursor : EngineM Core Unit) := by
  unfold handleOpenStream openMessageStream
  refine keeps_bind (steady_sound _ rfl) fun _ => keeps_bind ?_ fun opened => ?_
  · refine keeps_bind (ensureH3_sound _) fun ensured => ?_
    rcases ensured with error | ⟨⟩
    · exact keeps_done sound_stable _
    refine keeps_bind sendRequest_sound fun sendReq => ?_
    rcases sendReq with error | conn
    · exact keeps_done sound_stable _
    refine keeps_bind (plain_sound _ rfl) fun token => keeps_bind (plain_sound _ rfl)
      fun requestId => keeps_bind (steady_sound _ rfl) fun accepted => ?_
    rcases accepted with error | ⟨⟩
    · exact keeps_done sound_stable _
    · exact keeps_bind (steady_sound _ rfl) fun handle => keeps_done sound_stable _
  · rcases opened with error | handle
    · exact steady_sound _ rfl
    · exact keeps_bind (steady_sound _ rfl) fun _ => steady_sound _ rfl

/-- An operation that touches no connection leaves it as it is. -/
theorem steady_parted {A : Type} (op : Op Core A) (steady : op.relinks = false)
    (unread : op.borrowsConnected = false) :
    Keeps (driverPromise Core config) (watchGuard Core config) Parted (perform op) := by
  refine keeps_perform (parted_stable .idle) (fun world _ => ?_)
    fun world choice value after parted _ answered => (exec_connection answered steady).parted parted
  cases op with
  | quicConnect => cases steady
  | h3Store site conn => cases steady
  | connectedBorrow => cases unread
  | _ => trivial

/-- A report leaves the connection as it is. -/
theorem onAction_parted (action : PlatformAction) :
    Keeps (driverPromise Core config) (watchGuard Core config) Parted (onAction action) :=
  steady_parted (.onAction action) rfl rfl

/-- A report keeps the watch sound. -/
theorem onAction_sound (action : PlatformAction) : KeepsSound config (onAction action : EngineM Core Unit) :=
  steady_sound (.onAction action) rfl

/-- Without a running connection, the attempts go on until one succeeds. -/
theorem ensureConnected_sound {world : World Core} (parted : Parted world) :
    WatchHolds config ensureConnected (fun _ => Sound) world := by
  unfold ensureConnected
  refine holds_iterate (fun _ => Parted) (fun _ => parted_stable .idle) (fun delay world parted => ?_)
    (fun _ => sound_stable) parted
  refine holds_bind (connectH3_sound _ parted) fun answer world kept => ?_
  rcases answer with error | ⟨⟩
  · refine holds_bind (onAction_parted _ world kept) fun _ world parted => ?_
    refine holds_bind (keeps_bind (steady_parted .instantNow rfl rfl)
      (fun now => steady_parted (.sleepUntil _) rfl rfl) world parted) fun _ world parted => ?_
    exact holds_done (parted_stable .idle) parted
  · refine holds_bind (onAction_sound _ world kept) fun _ world sound => ?_
    exact holds_done sound_stable sound

/-- A lost connection does not run when the loop reads that it is lost. -/
theorem handleConnectedChange_sound : KeepsSound config (handleConnectedChange : EngineM Core Unit) := by
  intro world sound
  unfold handleConnectedChange
  refine holds_perform Sound sound_stable (fun _ sound => sound)
    (fun world choice connected after sound _ read => ?_) sound
  cases read
  cases lost : world.net.connected.value with
  | true => exact holds_done sound_stable sound
  | false =>
      have parted : Parted world :=
        ⟨sound.1, fun runs => by rw [sound.2 sound.1 runs] at lost; cases lost⟩
      unfold handleDisconnect
      refine holds_bind (onAction_parted _ world parted) fun _ world parted => ?_
      refine holds_bind (steady_parted (.streamWrite none) rfl rfl world parted) fun _ world parted => ?_
      refine holds_bind (ensureConnected_sound parted) fun _ world sound => ?_
      refine keeps_bind (plain_sound .paramsLock rfl) (fun stored => ?_) world sound
      cases stored with
      | none => exact plain_sound .paramsUnlock rfl
      | some params =>
          exact keeps_bind (handleOpenStream_sound _ _) fun _ => plain_sound .paramsUnlock rfl

section
variable [Prost]

/-- Before its first attempt the engine stores no connection. -/
theorem eventLoop_sound {world : World Core} (parted : Parted world) :
    WatchHolds config (eventLoop config) (fun _ => Sound) world := by
  have handler {A : Type} (op : Op Core A) (kind : BelowLoop op.kind) : KeepsSound config (perform op) :=
    steady_sound op (relinks_of_kind kind.1)
  have handling {A : Type} {program : EngineM Core A} (made : Made BelowLoop program) :
      KeepsSound config program :=
    made_keeps sound_stable handler unaryCall_sound handleOpenStream_sound made
  unfold eventLoop
  refine holds_bind (steady_parted .transportNew rfl rfl world parted) fun started world parted => ?_
  rcases started with error | ⟨⟩
  · exact keeps_bind (onAction_sound _) (fun _ => plain_sound .rxDrop rfl) world parted.sound
  refine holds_bind (ensureConnected_sound parted) fun _ world sound => ?_
  refine keeps_bind (plain_sound .tokenSubscribe rfl) (fun _ => keeps_bind ?_ fun _ =>
    plain_sound .rxDrop rfl) world sound
  refine keeps_iterate sound_stable (fun refreshArmed => ?_) false
  refine eventLoopTurn_keeps Sound (fun _ => Sound) sound_stable plain_sound ?_
    (fun world sound => handleConnectedChange_sound world sound) ?_ ?_ ?_ refreshArmed
  · intro refreshArmed world sound
    refine (steady_sound (.select refreshArmed) rfl world sound).weaken fun branch after kept => ?_
    exact selected_of_invariant kept
  · intro refreshToken
    exact handling (made_handleRefreshToken (by constructor <;> decide) (by constructor <;> decide)
      config refreshToken)
  · exact handleEvent_links sound_stable handler unaryCall_sound handleOpenStream_sound
  · intro frame
    exact handling (made_handleIncomingFrame (by constructor <;> decide) (by constructor <;> decide)
      (by constructor <;> decide) frame)

end

/-- Every operation keeps the watch truthful. -/
theorem truthful_kept {A : Type} (op : Op Core A) (choice : Choice) (world : World Core) (value : A)
    (after : World Core) (guarded : watchGuard Core config op world) (now : Truthful world)
    (answered : exec config op choice world = some (value, after)) : Truthful after := by
  have same (link : SameConnection world after) : Truthful after := by
    intro idle runs
    rw [link.connected]
    exact now (link.phase.symm.trans idle) (link.runs runs)
  cases op with
  | connectBegin =>
      cases answered
      exact fun idle => by cases idle
  | quicConnect =>
      obtain ⟨error, failed, -, rfl⟩ | ⟨-, rfl⟩ := quicConnect_effect answered
      · exact fun _ runs => absurd runs guarded
      · exact fun idle => by cases idle
  | h3Store site conn =>
      cases answered
      exact fun idle => by cases guarded.symm.trans idle
  | connectedSend =>
      cases answered
      exact fun _ _ => rfl
  | h3Drop =>
      cases answered
      rintro idle ⟨conn, stored, _⟩
      cases stored
  | _ => exact same (exec_connection answered rfl)

/-- Outside of an attempt the watch shows a running connection as connected, and so does the loop
when it takes up a change. -/
theorem watch_truthful [Prost] {engine : Engine Core} (created : Engine.new config = .ok engine)
    {world : World Core} {later : EngineM Core Unit}
    (reached : Reaches (driverPromise Core config) (startWorld engine, eventLoop config)
      (world, later)) :
    Truthful world ∧ ∀ next : Bool → EngineM Core Unit, later = .ask .connectedBorrow next →
      StoredRuns world → world.net.connected.value = true := by
  obtain ⟨core, rfl⟩ := Engine.new_fresh created
  have unstored : ¬StoredRuns (startWorld (Engine.fresh config core)) := by
    rintro ⟨conn, stored, -⟩
    cases stored
  have safe : WatchHolds config (eventLoop config) (fun _ => Sound) (startWorld (Engine.fresh config core)) :=
    eventLoop_sound ⟨rfl, unstored⟩
  have truthful : Truthful world := by
    refine safe.invariant Truthful truthful_stable
      (fun op choice world value after guarded now _ answered =>
        truthful_kept op choice world value after guarded now answered)
      (fun _ runs => absurd runs unstored) reached
  refine ⟨truthful, ?_⟩
  rintro next rfl runs
  have sound : Sound world := (safe _ _ reached).1 _ _ _ rfl
  exact truthful sound.1 runs

/-- Two unary calls fail with a transport error, so that the second one reconnects, and the driver
of the first connection exits after this many answers. -/
def lazyReconnect (answers : Nat) : List (rehearsalMachine (rehearsalConfig [] none)).Input :=
  rehearsal (rehearsalConfig [] none) [.fetchPreKeyBundle "u" none, .fetchPreKeyBundle "u" none]
    (List.replicate answers {}) [.driverExits 0]

/-- The old driver exits while the new connection is stored and running. -/
theorem watch_truthful_fails :
    ¬ ∀ world later, Reaches (Promise.any (rehearsalMachine (rehearsalConfig [] none)))
      (rehearsalStart (rehearsalConfig [] none) none) (world, later) → Truthful world := by
  intro truthful
  have claimed := truthful _ _ (rehearsed_any _ _ (lazyReconnect 28))
  exact absurd claimed (by decide +kernel)

/-- The old driver exits before the second call reconnects. -/
theorem watch_truthful_early_exit :
    Truthful (rehearsed (rehearsalConfig [] none) none (lazyReconnect 22)).1 :=
  (watch_truthful (rehearsal_without_core none) (rehearsed_reaches (by decide +kernel))).1

end ConstructEngine
