import ConstructEngine.Proof.Progress
import ConstructEngine.Proof.Refresh
import ConstructEngine.Proof.Resubscription
import ConstructEngine.Proof.Severance

namespace ConstructEngine

open Interaction Program Machine

variable {Core A : Type}

/-- Each branch of the selection runs one task. -/
def branchWork [ConstructCore Core] [Prost] (config : EngineConfig) : Branch → EngineM Core Unit
  | .refresh => do (← perform .tokenStateRead).forM fun state => handleRefreshToken config state.refreshToken
  | .changed => handleConnectedChange
  | .event (some event) => handleEvent config event
  | .frame frame => handleIncomingFrame frame
  | .event none | .tokenChanged => return

/-- A refresh disarms the timer. -/
def Branch.rearms (refreshArmed : Bool) : Branch → Bool
  | .refresh => false
  | _ => refreshArmed

/-- Only a closed event queue ends the loop. -/
def branchTurn [ConstructCore Core] [Prost] (config : EngineConfig) (refreshArmed : Bool) :
    Branch → EngineM Core (Bool ⊕ Unit)
  | .event none => return .inr ()
  | branch => do
      branchWork config branch
      return .inl (branch.rearms refreshArmed)

/-- The loop is about to turn. -/
def looping [ConstructCore Core] [Prost] (config : EngineConfig) (refreshArmed : Bool) : EngineM Core Unit :=
  .loop (eventLoopTurn config) refreshArmed fun _ => perform .rxDrop

/-- The loop waits at its selection. -/
def waiting [ConstructCore Core] [Prost] (config : EngineConfig) (refreshArmed : Bool) : EngineM Core Unit :=
  .ask (.select refreshArmed) fun branch =>
    branchTurn config refreshArmed branch >>= Program.turn (eventLoopTurn config) fun _ => perform .rxDrop

/-- The selection takes the queued events first and then the queued frames. -/
def Net.work (net : Net) : List Event := net.events.map .event ++ net.frames.map fun queued => .frame queued.frame

/-- The refresh timer does not fire yet. -/
def NotDue (refreshArmed : Bool) (world : World Core) : Prop :=
  refreshArmed = true → world.net.clock < world.engine.deadline

section
variable [ConstructCore Core] [Prost] {config : EngineConfig}

theorem branchTurn_work {branch : Branch} (some : branch ≠ .event none) (refreshArmed : Bool) :
    (branchTurn config refreshArmed branch : EngineM Core (Bool ⊕ Unit)) = (do
      branchWork config branch
      return .inl (branch.rearms refreshArmed)) := by
  unfold branchTurn
  split
  · exact absurd rfl some
  · rfl

/-- A turn updates the timer, waits and does the work of the branch. -/
theorem eventLoopTurn_eq (refreshArmed : Bool) :
    (eventLoopTurn config refreshArmed : EngineM Core (Bool ⊕ Unit)) = (do
      let refreshArmed ← updateRefreshTimer refreshArmed
      let branch ← perform (.select refreshArmed)
      branchTurn config refreshArmed branch) := by
  unfold eventLoopTurn
  refine congrArg _ (funext fun armed => congrArg _ (funext fun branch => ?_))
  cases branch with
  | event event => cases event <;> rfl
  | _ => rfl

/-- This environment answers every operation and lets every attempt succeed, but it brings nothing new in. -/
def serving (Core : Type) [ConstructCore Core] (config : EngineConfig) :
    (engineMachine Core config).Promise where
  answers op choice _ := op.granted config choice
  moves move _ := move.isPatient = true

omit [Prost] in
theorem patience_serves {start last : (engineMachine Core config).Configuration A}
    (reached : Reaches (patience Core config) start last) : Reaches (serving Core config) start last := by
  refine Reaches.mono ?_ ?_ reached
  · exact fun _ _ _ asked => asked.2
  · exact fun _ _ patient => patient

omit [ConstructCore Core] [Prost] in
/-- A pump that writes or waits passes no frame on. -/
theorem pump_silent {number : Nat} {input : PumpInput} (patient : (Move.pump number input).isPatient = true)
    {pump after : Pump} {frames : List Bytes} (stepped : pump.step input = some (after, frames)) :
    frames = [] := by
  cases input with
  | pop =>
      cases place : pump.location <;> simp only [Pump.step, place, reduceCtorEq] at stepped
      cases queued : pump.outgoing <;> rw [queued] at stepped <;> cases stepped
      rfl
  | sent =>
      cases place : pump.location <;> simp only [Pump.step, place, reduceCtorEq] at stepped
      cases stepped
      rfl
  | timeout =>
      cases place : pump.location <;> simp only [Pump.step, place, reduceCtorEq] at stepped
      cases stepped
      rfl
  | _ => cases patient

omit [ConstructCore Core] [Prost] in
theorem move_patient {move : Move} {world after : World Core} (patient : move.isPatient = true)
    (moved : moveWorld config move world = some after) :
    after.net.events = world.net.events ∧ after.net.frames = world.net.frames := by
  obtain ⟨net, done, rfl⟩ := moveWorld_some moved
  cases move with
  | tick millis => cases done; exact ⟨rfl, rfl⟩
  | pump number input =>
      simp only [moveNet, Net.movePump, Option.bind_eq_bind, Option.bind_eq_some_iff, Option.pure_def,
        Option.some.injEq] at done
      obtain ⟨pump, -, ⟨stepped, frames⟩, step, rfl⟩ := done
      have silent : frames = [] := pump_silent patient step
      subst silent
      exact ⟨rfl, List.append_nil _⟩
  | _ => cases patient

omit [ConstructCore Core] [Prost] in
/-- What leaves the queued events alone leaves the queued frames alone. -/
theorem disturbs_frames {op : Op Core A} (asked : op.disturbs .events = false) :
    op.disturbs .frames = false := by
  cases op with
  | select => cases asked
  | _ => rfl

omit [Prost] in
/-- A patient environment leaves the queues alone. -/
theorem patience_work {world after : World Core} {program later : EngineM Core A}
    (reached : Reaches (patience Core config) (world, program) (after, later)) :
    after.net.work = world.net.work := by
  have queues : after.net.events = world.net.events ∧ after.net.frames = world.net.frames := by
    refine reaches_invariant (fun state : World Core =>
      state.net.events = world.net.events ∧ state.net.frames = world.net.frames) ?_ ?_ ⟨rfl, rfl⟩ reached
    · intro move state moved now patient done
      exact (move_patient patient done).imp (fun same => same.trans now.1) fun same => same.trans now.2
    · intro B op choice state value later now asked answered
      have surrounds := exec_surrounds answered
      exact ⟨(surrounds.events asked.1).trans now.1, (surrounds.frames (disturbs_frames asked.1)).trans now.2⟩
  unfold Net.work
  rw [queues.1, queues.2]

/-- The connection runs, or the loop has noticed its loss. -/
def Noticed (world : World Core) : Prop :=
  world.net.connected.value = true ∨ world.engine.connectedSeen = world.net.connected.version

/-- The loop can notice a change of the connection and go on. -/
structure Ready (world : World Core) : Prop where
  free : world.engine.paramsHeld = false
  heeds : Noticed world ∨ world.engine.streamParams = none

omit [ConstructCore Core] [Prost] in
theorem Ready.unlocked {world : World Core} (ready : Ready world) : Unlocked world := ⟨ready.free, trivial⟩

/-- Between its work and its selection the loop only updates its timer. -/
structure Retimed (refreshArmed armed : Bool) (before after : World Core) : Prop where
  timer : NotDue refreshArmed before → NotDue armed after
  net : after.net = before.net
  seen : after.engine.connectedSeen = before.engine.connectedSeen
  held : after.engine.paramsHeld = before.engine.paramsHeld
  params : after.engine.streamParams = before.engine.streamParams

section
variable {refreshArmed armed : Bool} {before after : World Core}
  (settled : Retimed refreshArmed armed before after)
include settled

omit [ConstructCore Core] [Prost] in
theorem Retimed.unlocked (now : Unlocked before) : Unlocked after := ⟨settled.held.trans now.1, trivial⟩

omit [ConstructCore Core] [Prost] in
theorem Retimed.ready (now : Ready before) : Ready after := by
  refine ⟨settled.held.trans now.free, ?_⟩
  unfold Noticed
  rw [settled.net, settled.seen, settled.params]
  exact now.heeds

end

variable (config) in
omit [Prost] in
/-- The timer fires at a later time than it is set, or not at all. -/
theorem timer_finishes (refreshArmed : Bool) (world : World Core) :
    CanFinish (patience Core config) (updateRefreshTimer refreshArmed : EngineM Core Bool)
      (fun armed after => Retimed refreshArmed armed world after) world := by
  unfold updateRefreshTimer
  by_cases same : world.engine.tokenSeen = world.engine.tokenState.version
  · exact canFinish_ask willing ⟨rfl, trivial⟩ (if_pos same) (canFinish_done ⟨id, rfl, rfl, rfl, rfl⟩)
  · refine canFinish_ask willing ⟨rfl, trivial⟩ (if_neg same) ?_
    cases stored : world.engine.tokenState.value with
    | none => exact canFinish_done ⟨fun _ => nofun, rfl, rfl, rfl, rfl⟩
    | some state =>
        refine canFinish_ask willing ⟨rfl, trivial⟩ rfl (canFinish_ask willing ⟨rfl, trivial⟩ rfl
          (canFinish_done ⟨fun _ _ => ?_, rfl, rfl, rfl, rfl⟩))
        have ten := secsUntilRefresh_ten 0 state.expiresAt
        change world.net.clock < world.net.clock + secsUntilRefresh 0 state.expiresAt * 1000
        omega

/-- From this configuration the loop can get back to its selection, in such a state. -/
def Settles (promise : (engineMachine Core config).Promise)
    (start : (engineMachine Core config).Configuration Unit) (good : Bool → World Core → Prop) : Prop :=
  ∃ refreshArmed after, Reaches promise start (after, waiting config refreshArmed) ∧ good refreshArmed after

section
variable {promise : (engineMachine Core config).Promise}
  {start middle : (engineMachine Core config).Configuration Unit} {good better : Bool → World Core → Prop}

theorem Settles.after (reached : Reaches promise start middle) (settles : Settles promise middle good) :
    Settles promise start good := by
  obtain ⟨armed, after, path, now⟩ := settles
  exact ⟨armed, after, reached.trans path, now⟩

theorem Settles.weaken (settles : Settles promise start better)
    (implies : ∀ armed after, better armed after → good armed after) : Settles promise start good := by
  obtain ⟨armed, after, path, now⟩ := settles
  exact ⟨armed, after, path, implies armed after now⟩

end

theorem Settles.serves {start : (engineMachine Core config).Configuration Unit}
    {good : Bool → World Core → Prop} (settles : Settles (patience Core config) start good) :
    Settles (serving Core config) start good := by
  obtain ⟨armed, after, path, now⟩ := settles
  exact ⟨armed, after, patience_serves path, now⟩

/-- The head of the loop leads to the selection. -/
theorem looping_settles (refreshArmed : Bool) (world : World Core) :
    Settles (patience Core config) (world, looping config refreshArmed) fun armed after =>
      Retimed refreshArmed armed world after := by
  obtain ⟨armed, after, path, now⟩ := timer_finishes config refreshArmed world
  refine ⟨armed, after, .head .turn ?_, now⟩
  rw [eventLoopTurn_eq]
  exact (path.bind _).bind _

/-- Time stands still, and the engine does not touch its timer. -/
def stillness (Core : Type) [ConstructCore Core] (config : EngineConfig) :
    (engineMachine Core config).Promise where
  answers op choice world := (patience Core config).answers op choice world ∧ op.writes .deadline = false
  moves _ _ := False

omit [Prost] in
theorem stillness_prompt : Prompt (stillness Core config) := fun op world prompt => by
  refine ⟨patience_prompt op world prompt, ?_⟩
  cases op with
  | refreshReset => cases prompt
  | _ => rfl

omit [Prost] in
/-- Such an operation leaves the timer and the clock alone, and it loses no connection. -/
theorem still_exec {op : Op Core A} {choice : Choice} {world after : World Core} {value : A}
    (still : op.writes .deadline = false) (answered : exec config op choice world = some (value, after)) :
    after.net.clock = world.net.clock ∧ after.engine.deadline = world.engine.deadline ∧
      (world.net.connected.value = true → after.net.connected.value = true) := by
  have surrounds := exec_surrounds answered
  have frame := exec_frame answered
  refine ⟨surrounds.clock, frame.deadline still, fun connected => ?_⟩
  cases op with
  | connectedSend => cases answered; rfl
  | _ => rw [surrounds.connected rfl]; exact connected

omit [Prost] in
theorem stillness_patient {start last : (engineMachine Core config).Configuration A}
    (reached : Reaches (stillness Core config) start last) : Reaches (patience Core config) start last := by
  refine Reaches.mono ?_ ?_ reached
  · exact fun _ _ _ still => still.1
  · exact fun _ _ moves => moves.elim

omit [Prost] in
/-- Without a stored subscription, a lost connection is replaced while no time passes. -/
theorem handleConnectedChange_still {world : World Core} (now : Free (· = none) world) :
    CanFinish (stillness Core config) (handleConnectedChange : EngineM Core Unit) (fun _ after =>
      (after.net.connected.value = true ∧ Unlocked after) ∧ after.net.clock = world.net.clock ∧
        after.engine.deadline = world.engine.deadline) world := by
  have stable (good : World Core → Prop) : Stable (stillness Core config) good :=
    fun _ _ _ _ moves _ => moves.elim
  suffices connects : CanFinish (stillness Core config) (handleConnectedChange : EngineM Core Unit)
      (fun _ after => after.net.connected.value = true ∧ Unlocked after) world by
    refine connects.keeping (fun after => after.net.clock = world.net.clock ∧
      after.engine.deadline = world.engine.deadline) (stable _) ?_ ⟨rfl, rfl⟩
    intro B op choice state value after now still answered
    have kept := still_exec still.2 answered
    exact ⟨kept.1.trans now.1, kept.2.1.trans now.2⟩
  unfold handleConnectedChange
  refine canFinish_ask willing ⟨⟨rfl, trivial⟩, rfl⟩ rfl ?_
  cases connected : world.net.connected.value with
  | true => exact canFinish_done ⟨connected, now.1, trivial⟩
  | false =>
      unfold handleDisconnect
      refine canFinish_ask willing ⟨⟨rfl, trivial⟩, rfl⟩ rfl (canFinish_ask willing ⟨⟨rfl, trivial⟩, rfl⟩ rfl ?_)
      have connects {lost : World Core} (free : Free (· = none) lost) :
          CanFinish (stillness Core config) (ensureConnected : EngineM Core Unit)
            (fun _ after => after.net.connected.value = true ∧ Free (· = none) after) lost :=
        ensureConnected_succeeds stillness_prompt free
      refine (connects (by exact now)).bind fun _ after replaced => ?_
      have resubscribes : Resumable (stillness Core config) (stillness Core config) (Free (· = none))
          (resubscribe : EngineM Core Unit) := resumes_resubscribe (fun world => ⟨patience_locks world, rfl⟩)
          fun world => ⟨patience_unlocks world, rfl⟩
      refine ((resubscribes.finishes replaced.2).keeping (fun state => state.net.connected.value = true)
        (stable _) ?_ replaced.1).weaken fun _ _ kept => ⟨kept.2, kept.1.1, trivial⟩
      exact fun op choice state value after now still answered => (still_exec still.2 answered).2.2 now

/-- After its work the loop gets back to its selection. -/
theorem work_settles {branch : Branch} (some : branch ≠ .event none) (refreshArmed : Bool) (world : World Core)
    {finished : World Core → Prop}
    (works : CanFinish (patience Core config) (branchWork config branch : EngineM Core Unit)
      (fun _ after => finished after) world) :
    Settles (patience Core config) (world, branchTurn config refreshArmed branch >>=
        Program.turn (eventLoopTurn config) fun _ => perform .rxDrop) fun armed after =>
      ∃ before, finished before ∧ Retimed (branch.rearms refreshArmed) armed before after := by
  obtain ⟨_, before, path, now⟩ := works
  have turns : Reaches (patience Core config) (world, branchTurn config refreshArmed branch >>=
      Program.turn (eventLoopTurn config) fun _ => perform .rxDrop)
      (before, looping config (branch.rearms refreshArmed)) := by
    rw [branchTurn_work some]
    exact (path.bind _).bind _
  exact .after turns ((looping_settles _ before).weaken fun armed after kept => ⟨before, now, kept⟩)

theorem resumes_branchWork {past : (engineMachine Core config).Promise} {branch : Branch}
    (other : branch ≠ .changed) :
    Resumable past (patience Core config) Unlocked (branchWork config branch : EngineM Core Unit) := by
  cases branch with
  | refresh =>
      exact resumes_ask patience_prompt rfl fun due =>
        resumable_option free_stable fun state => resumes_handleRefreshToken patience_prompt state.refreshToken
  | changed => exact absurd rfl other
  | event event =>
      cases event with
      | none => exact resumes_done ()
      | some event => exact resumes_handleEvent patience_prompt resumes_sendFrame event
  | frame frame => exact resumes_handleIncomingFrame patience_prompt resumes_sendFrame frame
  | tokenChanged => exact resumes_done ()

omit [ConstructCore Core] [Prost] in
theorem free_unlocked {keep : Option StreamParams → Prop} {world : World Core} (now : Free keep world) :
    Unlocked world := ⟨now.1, trivial⟩

omit [Prost] in
/-- A loss that the loop reads without a stored subscription can be made good. -/
theorem change_resumes {world after : World Core} {later : EngineM Core Unit} (now : Unlocked world)
    (reached : Reaches (unsevered Core config) (world, handleConnectedChange) (after, later))
    (heard : ¬LostRead after later) :
    CanFinish (patience Core config) later (fun _ => Unlocked) after ∧
      ∀ value, later = .done value → Unlocked after := by
  have replaces : Resumable (unsevered Core config) (patience Core config) (Free (· = none))
      (handleDisconnect : EngineM Core Unit) :=
    resumes_handleDisconnect patience_prompt resumes_sleepUntil patience_locks patience_unlocks
  have bare {state : World Core} (free : Unlocked state) (lost : state.net.connected.value = false)
      (kept : ¬Forsaken state) : Free (· = none) state :=
    ⟨free.1, Option.not_isSome_iff_eq_none.mp fun stored => kept ⟨lost, stored⟩⟩
  unfold handleConnectedChange at reached
  obtain ⟨rfl, waits⟩ | ⟨choice, before, connected, middle, free, ⟨-, whole⟩, answered, path⟩ :=
    reaches_ask_calm free_stable now reached
  · refine ⟨canFinish_ask willing ⟨rfl, trivial⟩ rfl ?_, nofun⟩
    cases connected : after.net.connected.value with
    | true => exact canFinish_done waits
    | false =>
        have finishes := replaces.finishes (bare waits connected fun lost => heard ⟨rfl, lost⟩)
        exact finishes.weaken fun _ _ kept => free_unlocked kept
  · cases answered
    cases connected : before.net.connected.value with
    | true =>
        rw [connected] at path
        exact resumes_done () before after later free path
    | false =>
        rw [connected] at path
        have resumed := replaces before after later (bare free connected whole) path
        exact ⟨resumed.1.weaken fun _ _ kept => free_unlocked kept,
          fun value ended => free_unlocked (resumed.2 value ended)⟩

theorem branchWork_resumes {branch : Branch} {world after : World Core} {later : EngineM Core Unit}
    (now : Unlocked world)
    (reached : Reaches (unsevered Core config) (world, branchWork config branch) (after, later))
    (heard : ¬LostRead after later) :
    CanFinish (patience Core config) later (fun _ => Unlocked) after ∧
      ∀ value, later = .done value → Unlocked after := by
  by_cases changed : branch = .changed
  · subst changed
    exact change_resumes now reached heard
  · exact resumes_branchWork changed _ _ _ now reached

theorem Settles.work {world : World Core} {program : EngineM Core Unit} {good : Bool → World Core → Prop}
    (settles : Settles (patience Core config) (world, program) good) :
    Settles (patience Core config) (world, program) fun armed after =>
      good armed after ∧ after.net.work = world.net.work := by
  obtain ⟨armed, after, path, now⟩ := settles
  exact ⟨armed, after, path, now, patience_work path⟩

omit [Prost] in
theorem noticed_stable : Stable (patience Core config) (Noticed : World Core → Prop) := by
  intro move world after now patient moved
  obtain ⟨net, done, rfl⟩ := moveWorld_some moved
  obtain ⟨conn, rfl, -⟩ | ⟨-, same⟩ := moveNet_link done
  · cases patient
  · unfold Noticed
    rw [same]
    exact now

omit [Prost] in
/-- Only a selection notices, and only a new connection is published. -/
theorem noticed_kept {op : Op Core A} {choice : Choice} {world after : World Core} {value : A}
    (asked : op.disturbs .events = false) (answered : exec config op choice world = some (value, after))
    (now : Noticed world) : Noticed after := by
  cases op with
  | connectedSend => cases answered; exact .inl rfl
  | select => cases asked
  | _ =>
      unfold Noticed
      rw [(exec_surrounds answered).connected rfl, (exec_frame answered).connectedSeen rfl]
      exact now

omit [Prost] in
/-- A patient environment loses no connection. -/
theorem patience_noticed {world after : World Core} {program later : EngineM Core A}
    (reached : Reaches (patience Core config) (world, program) (after, later)) (now : Noticed world) :
    Noticed after := by
  refine reaches_invariant Noticed noticed_stable ?_ now reached
  exact fun _ _ _ _ _ now asked answered => noticed_kept asked.1 answered now

/-- A patient environment brings in no new wish. -/
theorem patience_wished {world after : World Core} {program later : EngineM Core A} {wish : Option StreamParams}
    (reached : Reaches (patience Core config) (world, program) (after, later))
    (now : wishedStream world.engine.log = wish) : wishedStream after.engine.log = wish := by
  refine reaches_invariant (fun state : World Core => wishedStream state.engine.log = wish) ?_ ?_ now reached
  · exact (engineOwned Core config).stable fun engine => wishedStream engine.log = wish
  · intro B op choice state value after now asked answered
    have working : op.takes = false := by
      cases op with
      | select => cases asked.1
      | _ => rfl
    exact (exec_wished working answered).trans now

/-- A refresh whose request fails stores nothing. -/
theorem refresh_fails {world : World Core} (now : Free (· = none) world) :
    CanFinish (patience Core config) (branchWork config .refresh : EngineM Core Unit)
      (fun _ => Free (· = none)) world := by
  refine canFinish_ask willing ⟨rfl, trivial⟩ rfl ?_
  cases stored : world.engine.tokenState.value with
  | none => exact canFinish_done now
  | some state =>
      change CanFinish _ (handleRefreshToken config state.refreshToken) _ _
      unfold handleRefreshToken
      refine (unaryCall_fails patience_prompt _ _ now).bind fun answer after failed => ?_
      obtain ⟨⟨error, rfl⟩, free⟩ := failed
      split
      · exact canFinish_ask willing ⟨rfl, trivial⟩ rfl
          (canFinish_ask willing ⟨rfl, trivial⟩ rfl (canFinish_done free))
      · exact canFinish_done free
      · next same => cases same

/-- A refresh leaves the loop ready. -/
theorem refresh_ready {world : World Core} (ready : Ready world) :
    CanFinish (patience Core config) (branchWork config .refresh : EngineM Core Unit) (fun _ => Ready) world := by
  obtain noticed | absent := ready.heeds
  · have works : Resumable (patience Core config) (patience Core config) Unlocked
        (branchWork config .refresh : EngineM Core Unit) := resumes_branchWork (by nofun)
    obtain ⟨value, after, path, free⟩ := works.finishes ready.unlocked
    exact ⟨value, after, path, free.1, .inl (patience_noticed path noticed)⟩
  · exact (refresh_fails ⟨ready.free, absent⟩).weaken fun _ _ free => ⟨free.1, .inr free.2⟩

/-- A selection that is due runs the refresh, and then the timer is not due any more. -/
theorem waiting_cools (refreshArmed : Bool) {world : World Core} (ready : Ready world) :
    Settles (serving Core config) (world, waiting config refreshArmed) fun armed after =>
      (NotDue armed after ∧ Ready after) ∧ after.net.work = world.net.work := by
  by_cases due : refreshArmed = true ∧ world.engine.deadline ≤ world.net.clock
  · have answered : exec config (.select refreshArmed) willing world =
        some (.refresh, { world with engine := world.engine.record (.refreshDue world.net.clock) }) := if_pos due
    have other : Branch.refresh ≠ .event none := by simp
    let selected : World Core := { world with engine := world.engine.record (.refreshDue world.net.clock) }
    have still : Ready selected := ⟨ready.free, ready.heeds⟩
    refine .after (.single (.answer willing trivial answered))
      ((work_settles other refreshArmed selected (refresh_ready still)).work.serves.weaken
        fun armed after now => ?_)
    obtain ⟨⟨before, ready, settled⟩, work⟩ := now
    exact ⟨⟨settled.timer fun armed => Bool.noConfusion armed, settled.ready ready⟩, work⟩
  · refine ⟨refreshArmed, world, .refl, ⟨fun armed => ?_, ready⟩, rfl⟩
    exact Nat.lt_of_not_le fun passed => due ⟨armed, passed⟩

/-- The loop takes up a change of the connection. -/
theorem waiting_changes {refreshArmed : Bool} {world : World Core} (rested : NotDue refreshArmed world)
    (unseen : world.engine.connectedSeen ≠ world.net.connected.version) {finished : World Core → Prop}
    (works : CanFinish (patience Core config) (handleConnectedChange : EngineM Core Unit)
      (fun _ after => finished after)
      { world with engine := { world.engine with connectedSeen := world.net.connected.version } }) :
    Settles (serving Core config) (world, waiting config refreshArmed) fun armed after =>
      (∃ before, finished before ∧ Retimed refreshArmed armed before after) ∧
      after.net.work = world.net.work := by
  have later : ¬(refreshArmed = true ∧ world.engine.deadline ≤ world.net.clock) :=
    fun due => Nat.not_le_of_lt (rested due.1) due.2
  have answered : exec config (.select refreshArmed) willing world = some (.changed,
      { world with engine := { world.engine with connectedSeen := world.net.connected.version } }) :=
    (if_neg later).trans (if_pos unseen)
  have other : Branch.changed ≠ .event none := by simp
  exact .after (.single (.answer willing trivial answered)) (work_settles other refreshArmed _ works).work.serves

theorem Settles.again {start : (engineMachine Core config).Configuration Unit}
    {good better : Bool → World Core → Prop} (settles : Settles (serving Core config) start good)
    (later : ∀ armed after, good armed after →
      Settles (serving Core config) (after, waiting config armed) better) :
    Settles (serving Core config) start better := by
  obtain ⟨armed, after, path, now⟩ := settles
  exact (later armed after now).after path

/-- The selection turns to the queues next. -/
structure Attentive (refreshArmed : Bool) (world : World Core) : Prop where
  rested : NotDue refreshArmed world
  seen : world.engine.connectedSeen = world.net.connected.version
  free : Unlocked world

/-- A live connection needs no work. -/
theorem waiting_notices {refreshArmed : Bool} {world : World Core} (rested : NotDue refreshArmed world)
    (free : Unlocked world) (connected : world.net.connected.value = true) :
    Settles (serving Core config) (world, waiting config refreshArmed) fun armed after =>
      Attentive armed after ∧ after.net.work = world.net.work := by
  by_cases seen : world.engine.connectedSeen = world.net.connected.version
  · exact ⟨refreshArmed, world, .refl, ⟨rested, seen, free⟩, rfl⟩
  let noticed : World Core :=
    { world with engine := { world.engine with connectedSeen := world.net.connected.version } }
  have idle : CanFinish (patience Core config) (handleConnectedChange : EngineM Core Unit)
      (fun _ after => after = noticed) noticed := by
    unfold handleConnectedChange
    refine canFinish_ask willing ⟨rfl, trivial⟩ rfl ?_
    change CanFinish _ (if world.net.connected.value = true then _ else _) _ _
    rw [if_pos connected]
    exact canFinish_done rfl
  refine (waiting_changes rested seen idle).weaken fun armed after now => ?_
  obtain ⟨⟨_, rfl, settled⟩, work⟩ := now
  refine ⟨⟨settled.timer rested, ?_, settled.unlocked free⟩, work⟩
  rw [settled.seen, settled.net]

/-- A selection that is not due first follows the connection. -/
theorem waiting_follows {refreshArmed : Bool} {world : World Core} (rested : NotDue refreshArmed world)
    (ready : Ready world) :
    Settles (serving Core config) (world, waiting config refreshArmed) fun armed after =>
      Attentive armed after ∧ after.net.work = world.net.work := by
  by_cases connected : world.net.connected.value = true
  · exact waiting_notices rested ready.unlocked connected
  by_cases seen : world.engine.connectedSeen = world.net.connected.version
  · exact ⟨refreshArmed, world, .refl, ⟨rested, seen, ready.unlocked⟩, rfl⟩
  have absent : world.engine.streamParams = none :=
    ready.heeds.resolve_left fun noticed => noticed.elim connected seen
  let noticed : World Core :=
    { world with engine := { world.engine with connectedSeen := world.net.connected.version } }
  have replaces : CanFinish (patience Core config) (handleConnectedChange : EngineM Core Unit) (fun _ after =>
      (after.net.connected.value = true ∧ Unlocked after) ∧ after.net.clock = world.net.clock ∧
        after.engine.deadline = world.engine.deadline) noticed := by
    have bare : Free (· = none) noticed := ⟨ready.free, absent⟩
    obtain ⟨_, replaced, path, kept⟩ := handleConnectedChange_still bare
    exact ⟨(), replaced, stillness_patient path, kept⟩
  refine (waiting_changes rested seen replaces).again fun armed after now => ?_
  obtain ⟨⟨before, ⟨⟨connected, free⟩, clock, deadline⟩, settled⟩, work⟩ := now
  have early : NotDue armed after := settled.timer fun armed => by
    rw [clock, deadline]
    exact rested armed
  refine (waiting_notices early (settled.unlocked free) (by rw [settled.net]; exact connected)).weaken
    fun armed after now => ?_
  exact ⟨now.1, now.2.trans work⟩

variable (config) in
omit [Prost] in
/-- An attentive selection takes the first piece of work. -/
theorem select_takes {refreshArmed : Bool} {world : World Core} (now : Attentive refreshArmed world)
    {mark : Event} {rest : List Event} (queued : world.net.work = mark :: rest) :
    ∃ branch after, (branch ≠ .event none ∧ branch ≠ .changed) ∧
      exec config (.select refreshArmed) willing world = some (branch, after) ∧
      (after.engine.log.getLast? = some mark ∧ after.net.work = rest) ∧ Unlocked after ∧ Noticed after := by
  have later : ¬(refreshArmed = true ∧ world.engine.deadline ≤ world.net.clock) :=
    fun due => Nat.not_le_of_lt (now.rested due.1) due.2
  simp only [exec, selectBranch, if_neg later, if_neg (not_not.mpr now.seen)]
  unfold Net.work at queued
  cases events : world.net.events with
  | cons event others =>
      rw [events] at queued
      cases queued
      exact ⟨.event (some event), ⟨world.engine.record (.event event), { world.net with events := others }⟩,
        by simp, rfl, ⟨List.getLast?_concat, rfl⟩, now.free, .inr now.seen⟩
  | nil =>
      rw [events] at queued
      cases frames : world.net.frames with
      | nil => rw [frames] at queued; cases queued
      | cons frame others =>
          rw [frames] at queued
          cases queued
          exact ⟨.frame frame.frame, ⟨world.engine.record (.frame frame.frame),
            { world.net with events := [], frames := others }⟩, by simp, rfl, ⟨List.getLast?_concat, rfl⟩,
            now.free, .inr now.seen⟩

variable (config) in
/-- The environment can bring the loop to take up the first piece of work. -/
theorem waiting_takes (refreshArmed : Bool) {world : World Core} (ready : Ready world) {mark : Event}
    {rest : List Event} (queued : world.net.work = mark :: rest) :
    ∃ armed branch after, (branch ≠ .event none ∧ branch ≠ .changed) ∧
      Reaches (serving Core config) (world, waiting config refreshArmed)
        (after, branchTurn config armed branch >>=
          Program.turn (eventLoopTurn config) fun _ => perform .rxDrop) ∧
      (after.engine.log.getLast? = some mark ∧ after.net.work = rest) ∧ Unlocked after ∧ Noticed after := by
  obtain ⟨armed, settled, path, attentive, work⟩ :
      Settles (serving Core config) (world, waiting config refreshArmed) fun armed after =>
        Attentive armed after ∧ after.net.work = world.net.work :=
    (waiting_cools refreshArmed ready).again fun armed after now =>
      (waiting_follows now.1.1 now.1.2).weaken fun _ _ later => ⟨later.1, later.2.trans now.2⟩
  obtain ⟨branch, after, other, selects, taken, kept⟩ :=
    select_takes config attentive (work.trans queued)
  exact ⟨armed, branch, after, other, path.tail (.answer willing trivial selects), taken, kept⟩

/-- Every piece of work is taken up in its turn. -/
theorem waiting_serves (front : List Event) (refreshArmed : Bool) {world : World Core} (ready : Ready world)
    {mark : Event} {rest : List Event} (queued : world.net.work = front ++ mark :: rest) :
    ∃ after following, Reaches (serving Core config) (world, waiting config refreshArmed) (after, following) ∧
      after.engine.log.getLast? = some mark ∧ after.net.work = rest := by
  induction front generalizing refreshArmed world with
  | nil =>
      obtain ⟨_, _, after, -, path, taken, -⟩ := waiting_takes config refreshArmed ready queued
      exact ⟨after, _, path, taken⟩
  | cons first others inductionHypothesis =>
      obtain ⟨armed, branch, after, other, path, ⟨-, left⟩, free, noticed⟩ :=
        waiting_takes config refreshArmed ready queued
      have works : CanFinish (patience Core config) (branchWork config branch) (fun _ => Ready) after := by
        have resumes : Resumable (patience Core config) (patience Core config) Unlocked
            (branchWork config branch : EngineM Core Unit) := resumes_branchWork other.2
        obtain ⟨value, final, path, free⟩ := resumes.finishes free
        exact ⟨value, final, path, free.1, .inl (patience_noticed path noticed)⟩
      obtain ⟨again, settled, back, ⟨before, ready, kept⟩, work⟩ := (work_settles other.1 armed after works).work
      obtain ⟨final, following, served, taken⟩ :=
        inductionHypothesis again (kept.ready ready) (work.trans left)
      exact ⟨final, following, (path.trans (patience_serves back)).trans served, taken⟩

/-- Within a turn the loop updates its timer, waits, works or is about to turn again. What its parts
keep holds where each of them begins and ends. -/
theorem turn_inv {past : (engineMachine Core config).Promise} {calm : World Core → Prop}
    (stable : Stable past calm) {refreshArmed : Bool} {begun world : World Core}
    (timer : ∀ armed ready,
      Reaches past (begun, updateRefreshTimer refreshArmed) (ready, .done armed) → calm ready)
    (select : ∀ {armed choice before} {branch : Branch} {taken}, calm before →
      exec config (.select armed) choice before = some (branch, taken) → calm taken)
    (works : ∀ branch taken after value, calm taken →
      Reaches past (taken, branchWork config branch) (after, .done value) → calm after)
    {part : EngineM Core (Bool ⊕ Unit)}
    (reached : Reaches past (begun, eventLoopTurn config refreshArmed) (world, part)) :
    (∃ timer : EngineM Core Bool, part = (do
        let armed ← timer
        let branch ← perform (.select armed)
        branchTurn config armed branch) ∧
      Reaches past (begun, updateRefreshTimer refreshArmed) (world, timer)) ∨
      (∃ armed, part = (do
        let branch ← perform (.select armed)
        branchTurn config armed branch) ∧ calm world) ∨
      (∃ (armed : Bool) (branch : Branch) (taken : World Core) (work : EngineM Core Unit), part = (do
          work
          return .inl armed) ∧ calm taken ∧
        Reaches past (taken, branchWork config branch) (world, work)) ∨
      ∃ armed, part = .done (.inl armed) ∧ calm world := by
  rw [eventLoopTurn_eq] at reached
  obtain ⟨timer, rfl, path⟩ | ⟨armed, ready, timed, path⟩ := reaches_bind_inv reached
  · exact .inl ⟨timer, rfl, path⟩
  obtain ⟨rfl, waits⟩ | ⟨choice, before, branch, taken, calmly, -, answered, path⟩ :=
    reaches_ask_calm stable (timer armed ready timed) path
  · exact .inr (.inl ⟨armed, rfl, waits⟩)
  have selected : exec config (.select armed) choice before = some (branch, taken) := answered
  have busy : branch ≠ .event none := by
    rintro rfl
    obtain ⟨other, -⟩ | ⟨other, -⟩ | ⟨-, ⟨_, _, -, other, -⟩ | ⟨-, ⟨_, _, -, other, -⟩ | ⟨-, other, -⟩⟩⟩ :=
      select_effect selected <;> cases other
  have begins : calm taken := select calmly selected
  change Reaches _ (taken, branchTurn config armed branch) _ at path
  rw [branchTurn_work busy] at path
  obtain ⟨work, rfl, working⟩ | ⟨value, rested, ended, worked⟩ := reaches_bind_inv path
  · exact .inr (.inr (.inl ⟨_, branch, taken, work, rfl, begins, working⟩))
  · have ends : calm rested := works branch taken rested value begins ended
    exact .inr (.inr (.inr ⟨_, reaches_done_inv worked, reaches_done_calm stable ends worked⟩))

/-- A turn does not end the loop. -/
theorem turn_stays {past : (engineMachine Core config).Promise} {refreshArmed : Bool} {begun world : World Core}
    {value : Unit}
    (reached : Reaches past (begun, eventLoopTurn config refreshArmed) (world, .done (.inr value))) : False := by
  obtain ⟨timer, same, -⟩ | ⟨_, same, -⟩ | ⟨_, _, _, work, same, -⟩ | ⟨_, same, -⟩ :=
    turn_inv (stable_const True) (fun _ _ _ => trivial) (fun _ _ => trivial) (fun _ _ _ _ _ _ => trivial) reached
  · cases timer <;> cases same
  · cases same
  · cases work <;> cases same
  · cases same

section
variable {refreshArmed : Bool} {begun world : World Core} (now : Unlocked begun)
include now

/-- An unsevered turn begins and ends with a free mutex. -/
theorem turn_unlocked {part : EngineM Core (Bool ⊕ Unit)}
    (reached : Reaches (unsevered Core config) (begun, eventLoopTurn config refreshArmed) (world, part)) :
    (∃ timer : EngineM Core Bool, part = (do
        let armed ← timer
        let branch ← perform (.select armed)
        branchTurn config armed branch) ∧
      Reaches (unsevered Core config) (begun, updateRefreshTimer refreshArmed) (world, timer)) ∨
      (∃ armed, part = (do
        let branch ← perform (.select armed)
        branchTurn config armed branch) ∧ Unlocked world) ∨
      (∃ (armed : Bool) (branch : Branch) (taken : World Core) (work : EngineM Core Unit), part = (do
          work
          return .inl armed) ∧ Unlocked taken ∧
        Reaches (unsevered Core config) (taken, branchWork config branch) (world, work)) ∨
      ∃ armed, part = .done (.inl armed) ∧ Unlocked world := by
  have timer : Resumable (unsevered Core config) (patience Core config) Unlocked
      (updateRefreshTimer refreshArmed : EngineM Core Bool) :=
    resumes_updateRefreshTimer patience_prompt refreshArmed resumes_refreshReset
  refine turn_inv free_stable (fun _ _ ended => timer.ends now ended) ?_ ?_ reached
  · exact fun calmly answered => exec_apart rfl rfl answered calmly
  · exact fun branch taken after value calmly ended =>
      (branchWork_resumes calmly ended fun lost => by cases lost.1).2 value rfl

/-- From within a turn the loop gets back to its selection. -/
theorem turn_settles {part : EngineM Core (Bool ⊕ Unit)}
    (reached : Reaches (unsevered Core config) (begun, eventLoopTurn config refreshArmed) (world, part))
    (heard : ¬LostRead world part) :
    Settles (patience Core config)
      (world, part >>= Program.turn (eventLoopTurn config) fun _ => perform .rxDrop) fun _ => Unlocked := by
  have heads (armed : Bool) {world : World Core} (now : Unlocked world) :
      Settles (patience Core config) (world, looping config armed) fun _ => Unlocked :=
    (looping_settles armed world).weaken fun _ _ settled => settled.unlocked now
  obtain ⟨timer, rfl, path⟩ | ⟨armed, rfl, waits⟩ | ⟨armed, branch, taken, work, rfl, begins, path⟩ |
    ⟨armed, rfl, ends⟩ := turn_unlocked now reached
  · have timed : Resumable (unsevered Core config) (patience Core config) Unlocked
        (updateRefreshTimer refreshArmed : EngineM Core Bool) :=
      resumes_updateRefreshTimer patience_prompt refreshArmed resumes_refreshReset
    obtain ⟨armed, after, ended, free⟩ := (timed begun world timer now path).1
    exact ⟨armed, after, (ended.bind _).bind _, free⟩
  · exact ⟨armed, world, .refl, waits⟩
  · obtain ⟨_, after, ended, free⟩ :=
      (branchWork_resumes begins path fun lost => heard ⟨isBorrowing_bind lost.1, lost.2⟩).1
    exact .after ((ended.bind _).bind _) (heads armed free)
  · exact heads armed ends

/-- From everywhere in the loop it gets back to its selection. -/
theorem looping_settles_again {later : EngineM Core Unit}
    (reached : Reaches (unsevered Core config) (begun, looping config refreshArmed) (world, later))
    (heard : ¬LostRead world later) : Settles (patience Core config) (world, later) fun _ => Unlocked := by
  have kept (start : Bool) (state : World Core) (outcome : Bool ⊕ Unit) (after : World Core)
      (now : Unlocked state)
      (ended : Reaches (unsevered Core config) (state, eventLoopTurn config start) (after, .done outcome)) :
      Unlocked after := by
    obtain ⟨timer, same, -⟩ | ⟨_, same, -⟩ | ⟨_, _, _, work, same, begins, path⟩ | ⟨_, -, free⟩ :=
      turn_unlocked now ended
    · cases timer <;> cases same
    · cases same
    · obtain ⟨value, rfl, -⟩ := Program.bind_done_inv same.symm
      exact (branchWork_resumes begins path fun lost => by cases lost.1).2 value rfl
    · exact free
  obtain ⟨armed, rfl, free⟩ | ⟨armed, turning, part, rfl, begins, path⟩ |
    ⟨armed, turning, value, left, -, path, -⟩ := reaches_loop_inv free_stable kept now reached
  · exact (looping_settles armed world).weaken fun _ _ settled => settled.unlocked free
  · exact turn_settles begins path fun lost => heard ⟨isBorrowing_bind lost.1, lost.2⟩
  · exact (turn_stays path).elim

end

/-- The trace of a loop whose transport could not start. -/
def Unstarted (log : List Event) : Prop :=
  ∃ error : EngineError, log = [.action (.networkError s!"Transport init failed: {error}")]

/-- The loop ends only when the transport could not start, and it did nothing else. -/
theorem eventLoop_ends {engine : Engine Core} (silent : engine.log = []) :
    Holds (Promise.any (engineMachine Core config)) (fun _ _ => True) (eventLoop config)
      (fun _ world => Unstarted world.engine.log) (startWorld engine) := by
  have stable (good : List Event → Prop) :
      Stable (Promise.any (engineMachine Core config)) fun world => good world.engine.log :=
    (engineOwned Core config).stable fun engine => good engine.log
  refine holds_ask (fun world : World Core => world.engine.log = []) (stable (· = [])) (fun _ _ => trivial)
    (fun before choice started begun now _ answered => ?_) silent
  obtain rfl : begun = before := by cases answered; rfl
  rcases started with error | ⟨⟩
  · refine holds_ask (fun world : World Core => world.engine.log = []) (stable (· = [])) (fun _ _ => trivial)
      (fun before choice _ reported now _ answered => ?_) now
    cases answered
    refine holds_ask (fun world : World Core =>
      world.engine.log = [.action (.networkError s!"Transport init failed: {error}")]) (stable (· = _))
      (fun _ _ => trivial) (fun before choice _ dropped now _ answered => ?_) ?_
    · cases answered
      exact holds_done (stable Unstarted) ⟨error, now⟩
    · change before.engine.log ++ _ = _
      rw [now]
      rfl
  · change Holds _ _ (ensureConnected >>= _) _ _
    refine holds_bind (holds_trivial ensureConnected _) fun _ world _ => ?_
    refine holds_bind (holds_trivial (perform Op.tokenSubscribe) _) fun _ world _ => ?_
    refine holds_bind (holds_iterate (fun _ _ => True) (fun _ => stable_true) ?_
      (fun _ => stable_const False) trivial) fun _ _ impossible => impossible.elim
    intro armed world _ after later reached
    refine ⟨fun _ _ _ _ => trivial, fun outcome finished => ?_⟩
    subst finished
    cases outcome with
    | inl again => trivial
    | inr value => exact turn_stays reached

/-- After the first connection the loop begins. -/
theorem connected_settles {world : World Core} (now : Unlocked world) :
    Settles (patience Core config) (world, do
      perform .tokenSubscribe
      iterate (eventLoopTurn config) false
      perform .rxDrop) fun _ => Unlocked :=
  .after (.single (.answer willing ⟨rfl, trivial⟩ rfl))
    ((looping_settles false _).weaken fun _ _ settled => settled.unlocked (by exact now))

/-- A run that is not severed can be brought back to the selection, or to the end of a loop whose transport
could not start. -/
theorem eventLoop_regains {engine : Engine Core} (silent : engine.log = []) (free : engine.paramsHeld = false)
    {world : World Core} {later : EngineM Core Unit}
    (reached : Reaches (unsevered Core config) (startWorld engine, eventLoop config) (world, later))
    (heard : ¬LostRead world later) :
    Settles (patience Core config) (world, later) (fun _ => Unlocked) ∨
      CanFinish (serving Core config) later (fun _ after => Unstarted after.engine.log) world := by
  have begun := reached
  have starts : Unlocked (startWorld engine) := ⟨free, trivial⟩
  have connecting : Resumable (unsevered Core config) (patience Core config) Unlocked
      (ensureConnected : EngineM Core Unit) := resumes_ensureConnected patience_prompt resumes_sleepUntil
  unfold eventLoop at reached
  obtain ⟨rfl, waits⟩ | ⟨choice, before, started, middle, free, -, answered, path⟩ :=
    reaches_ask_calm free_stable starts reached
  · obtain ⟨_, after, connects, -, free⟩ := ensureConnected_succeeds patience_prompt waits
    exact .inl (.after (.head (.answer willing ⟨rfl, trivial⟩ rfl) (connects.bind _)) (connected_settles free))
  have free : Unlocked middle := by cases answered; exact free
  rcases started with error | ⟨⟩
  · have serves : Prompt (serving Core config) := fun op _ _ => op.granted_willing config
    have drops : Resumable (unsevered Core config) (serving Core config) Unlocked
        (perform .rxDrop : EngineM Core Unit) :=
      resumes_waiting rfl rfl fun _ now => canFinish_ask willing trivial rfl (canFinish_done now)
    obtain ⟨value, after, ends, -⟩ :=
      (resumable_bind (resumes_action serves _) (fun _ => drops) middle world later free path).1
    have ended : Reaches (Promise.any (engineMachine Core config)) (startWorld engine, eventLoop config)
        (after, .done value) := begun.any.trans ends.any
    exact .inr ⟨value, after, ends, (eventLoop_ends silent _ _ ended).2 value rfl⟩
  refine .inl ?_
  change Reaches _ (middle, ensureConnected >>= _) _ at path
  obtain ⟨part, rfl, inner⟩ | ⟨_, connected, ended, path⟩ := reaches_bind_inv path
  · obtain ⟨_, after, connects, free⟩ := (connecting middle world part free inner).1
    exact .after (connects.bind _) (connected_settles free)
  have free : Unlocked connected := connecting.ends free ended
  obtain ⟨rfl, waits⟩ | ⟨choice, before, _, subscribed, free, -, answered, loops⟩ :=
    reaches_ask_calm free_stable free path
  · exact connected_settles waits
  · have free : Unlocked subscribed := by cases answered; exact free
    exact looping_settles_again free loops heard

section
variable {engine : Engine Core} {world : World Core} {severed : Bool} {later : EngineM Core Unit}

/-- The loop can be brought back to its selection, or to its end when the transport could not start, as long
as it has not read of a lost connection with a stored subscription. -/
theorem unsevered_regains (created : Engine.new config = .ok engine)
    (reached : Reaches (Promise.any (severanceMachine Core config)) ((startWorld engine, false), eventLoop config)
      ((world, severed), later)) (whole : severed = false) (heard : ¬LostRead world later) :
    Settles (patience Core config) (world, later) (fun _ => Unlocked) ∨
      CanFinish (serving Core config) later (fun _ after => Unstarted after.engine.log) world := by
  obtain ⟨core, rfl⟩ := Engine.new_fresh created
  exact eventLoop_regains rfl rfl (reaches_unsevered reached whole).2 heard

/-- Where the loop can be brought to rest, it has not read of such a loss. -/
theorem resting_unsevered
    (reached : Reaches (Promise.any (severanceMachine Core config)) ((startWorld engine, false), eventLoop config)
      ((world, severed), later)) {promise : (engineMachine Core config).Promise} {after : World Core}
    {following : EngineM Core Unit} (path : Reaches promise (world, later) (after, following))
    (resting : isResting following = true) : severed = false ∧ ¬LostRead world later := by
  obtain ⟨written, ahead⟩ := path.monitored (severanceLedger Core config) severed
  have free : Reaches (Promise.any (severanceMachine Core config)) ((world, severed), later)
      ((after, written), following) := ahead.any
  exact resting_ahead reached free resting

end

end

/-- A rehearsal of the loop notes what it reads of the connection. -/
def severanceRehearsal (events : List UiEvent) (choices : List Choice) :
    (severanceMachine RehearsalCore (rehearsalConfig [] none)).Configuration Unit :=
  run ((startWorld (Engine.fresh (rehearsalConfig [] none) none), false), eventLoop (rehearsalConfig [] none))
    (events.map (fun event => .move (Move.dispatch event)) ++
      choices.map fun choice =>
        (.answer choice : (severanceMachine RehearsalCore (rehearsalConfig [] none)).Input))

theorem severanceRehearsal_reaches (events : List UiEvent) (choices : List Choice) :
    Reaches (Promise.any (severanceMachine RehearsalCore (rehearsalConfig [] none)))
      ((startWorld (Engine.fresh (rehearsalConfig [] none) none), false), eventLoop (rehearsalConfig [] none))
      (((severanceRehearsal events choices).1.1, (severanceRehearsal events choices).1.2),
        (severanceRehearsal events choices).2) := run_reaches (allAllowed_any _ _)

/-- The first attempt fails, and the loop sleeps before the next one. -/
def asleep : (severanceMachine RehearsalCore (rehearsalConfig [] none)).Configuration Unit :=
  severanceRehearsal [] [{}, {}, {}, { connect := { quicConnect := .error .handshakeTimedOut } }, {}, {}]

/-- These events wait before the loop starts. -/
def threeQueued : (severanceMachine RehearsalCore (rehearsalConfig [] none)).Configuration Unit :=
  severanceRehearsal [.platformReady, .logout, .closeMessageStream] []

end ConstructEngine
