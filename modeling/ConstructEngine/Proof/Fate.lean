import ConstructEngine.Interaction.Journal
import ConstructEngine.Proof.Trail

namespace ConstructEngine

open Interaction Program Machine

variable {Core : Type} {config : EngineConfig}

/-- A pump that ended by itself died when the trace had this length. -/
def Pump.diedAt (pump : Pump) : Option Nat :=
  match pump.location with
  | .ended reason => if reason.byItself then pump.endedAt else none
  | _ => none

/-- These inputs end a pump by itself. -/
def PumpInput.kills : PumpInput → Bool
  | .sendFails | .serverCloses | .recvFails => true
  | _ => false

/-- These actions tell the platform that the message stream is lost. -/
def PlatformAction.reportsDeath : PlatformAction → Bool
  | .streamError _ => true
  | .connectionStateChanged connected => !connected
  | _ => false

/-- The event tells the platform that the message stream is lost. -/
def Event.reportsDeath : Event → Bool
  | .action told => told.reportsDeath
  | _ => false

/-- The platform was told after the pump of the held stream died. -/
def DeathReported (world : World Core) : Prop :=
  ∀ handle ∈ world.engine.stream, ∀ pump ∈ world.net.pumps[handle.pump]?,
    ∀ died ∈ pump.diedAt, (world.engine.log.drop died).any Event.reportsDeath = true

instance decidableDeathReported (world : World Core) : Decidable (DeathReported world) :=
  inferInstanceAs (Decidable (∀ handle ∈ world.engine.stream,
    ∀ pump ∈ world.net.pumps[handle.pump]?, ∀ died ∈ pump.diedAt,
      (world.engine.log.drop died).any Event.reportsDeath = true))

/-- While the engine opens a stream, the end of the held one cannot be missed. The other pumps that end
by themselves stay unanswered until the next attempt. -/
structure Vigil where
  opening : Bool
  unanswered : List Nat
  deriving DecidableEq

/-- An attempt to open the stream stores its parameters first. It stores a handle or reports an error
at the end. -/
def Op.vigil : {A : Type} → Op Core A → Vigil → Vigil
  | _, .paramsWrite _, _ => ⟨true, []⟩
  | _, .streamWrite _, vigil => { vigil with opening := false }
  | _, .onAction (.streamError _), vigil => { vigil with opening := false }
  | _, _, vigil => vigil

/-- The engine holds the handle of this pump. -/
def World.holds (world : World Core) (number : Nat) : Bool :=
  world.engine.stream.any fun handle => handle.pump = number

/-- A pump that ends by itself apart from a held one is unanswered. -/
def Move.vigil (move : Move) (world : World Core) (vigil : Vigil) : Vigil :=
  match move with
  | .pump number input =>
      if input.kills = true ∧ ¬(vigil.opening = true ∧ world.holds number = true) then
        { vigil with unanswered := number :: vigil.unanswered }
      else vigil
  | _ => vigil

/-- The vigil follows the operations and the pumps. -/
def vigilJournal (Core : Type) [ConstructCore Core] (config : EngineConfig) :
    (engineMachine Core config).Journal Vigil := ⟨fun op _ _ => op.vigil, Move.vigil⟩

/-- This is the engine with the vigil next to its state. -/
abbrev vigilMachine (Core : Type) [ConstructCore Core] (config : EngineConfig) : Machine (Op Core) :=
  (engineMachine Core config).journaled (vigilJournal Core config)

/-- A pump that takes a step has not died. -/
theorem Pump.step_running {pump after : Pump} {input : PumpInput} {frames : List Bytes}
    (stepped : pump.step input = some (after, frames)) : pump.diedAt = none := by
  cases located : pump.location with
  | ended reason => simp [Pump.step, located] at stepped
  | _ => simp [Pump.diedAt, located]

/-- A killing input makes the pump die now, and no other one does. -/
theorem Pump.step_fate {pump after : Pump} {input : PumpInput} {frames : List Bytes} (recorded : Nat)
    (stepped : pump.step input = some (after, frames)) :
    (if after.isEnded then { after with endedAt := some recorded } else after).diedAt =
      if input.kills then some recorded else none := by
  unfold Pump.step at stepped
  split at stepped
  · cases stepped
  · split at stepped <;> cases stepped
    rfl
  · split at stepped <;> cases stepped
    rfl
  · cases stepped
    rfl
  · cases stepped
    rfl
  · split at stepped
    · split at stepped <;> cases stepped <;> rfl
    · cases stepped
  · cases stepped
    rfl
  · cases stepped
    rfl
  · cases stepped
    rfl
  · cases stepped
    rfl
  · cases stepped

/-- The pump of this number exists, and it did not die in the future. -/
def Located (world : World Core) (number : Nat) (pump : Pump) : Prop :=
  world.net.pumps[number]? = some pump ∧ ∀ died ∈ pump.diedAt, died ≤ world.engine.log.length

/-- The end of this pump is unanswered exactly while the platform was not told. -/
def Accounted (state : World Core × Vigil) (number : Nat) : Prop :=
  ∃ pump, Located state.1 number pump ∧ (number ∈ state.2.unanswered ↔
    ∃ died ∈ pump.diedAt, (state.1.engine.log.drop died).any Event.reportsDeath = false)

/-- The end of this pump is going to be answered. -/
def Awaited (state : World Core × Vigil) (number : Nat) : Prop :=
  (∃ pump, Located state.1 number pump) ∧ number ∉ state.2.unanswered

/-- No pump of the future is unanswered. -/
def Enrolled (state : World Core × Vigil) : Prop :=
  ∀ number ∈ state.2.unanswered, number < state.1.net.pumps.length

/-- No attempt to open the stream is under way. -/
def AtRest (state : World Core × Vigil) : Prop :=
  (state.2.opening = false ∧ Enrolled state) ∧ ∀ handle ∈ state.1.engine.stream, Accounted state handle.pump

/-- An attempt to open the stream is under way. -/
def Attempting (state : World Core × Vigil) : Prop :=
  (state.2.opening = true ∧ Enrolled state) ∧ ∀ handle ∈ state.1.engine.stream, Awaited state handle.pump

/-- The attempt has brought this handle, and it is not stored yet. -/
def Opened (opened : Except EngineError BiDiStreamHandle) (state : World Core × Vigil) : Prop :=
  match opened with
  | .error _ => Attempting state
  | .ok handle => Attempting state ∧ Accounted state handle.pump ∧
      ∀ held ∈ state.1.engine.stream, held.pump ≠ handle.pump

/-- Between these worlds the platform is told of no loss, and no pump dies. -/
structure Onward (world after : World Core) : Prop where
  log : ∃ more, after.engine.log = world.engine.log ++ more ∧ more.any Event.reportsDeath = false
  stream : after.engine.stream = world.engine.stream
  pumps : ∀ (number : Nat) before, world.net.pumps[number]? = some before →
    ∃ pump, after.net.pumps[number]? = some pump ∧ pump.diedAt = before.diedAt

section
variable {world after : World Core} {vigil : Vigil} {number : Nat}

/-- What was told after a moment of the past stays told, and nothing else is. -/
theorem Onward.told (onward : Onward world after) {died : Nat} (past : died ≤ world.engine.log.length) :
    (after.engine.log.drop died).any Event.reportsDeath =
      (world.engine.log.drop died).any Event.reportsDeath := by
  obtain ⟨more, grown, silent⟩ := onward.log
  rw [grown, List.drop_append_of_le_length past, List.any_append, silent, Bool.or_false]

theorem Onward.located (onward : Onward world after) {before : Pump} (located : Located world number before) :
    ∃ pump, Located after number pump ∧ pump.diedAt = before.diedAt := by
  obtain ⟨more, grown, -⟩ := onward.log
  obtain ⟨pump, found, same⟩ := onward.pumps number before located.1
  refine ⟨pump, ⟨found, fun died member => ?_⟩, same⟩
  rw [grown, List.length_append]
  exact Nat.le_add_right_of_le (located.2 died (same ▸ member))

theorem Onward.accounted (onward : Onward world after) (accounted : Accounted (world, vigil) number) :
    Accounted (after, vigil) number := by
  obtain ⟨before, located, unanswered⟩ := accounted
  obtain ⟨pump, found, same⟩ := onward.located located
  refine ⟨pump, found, unanswered.trans ?_⟩
  simp only [same]
  refine exists_congr fun died => and_congr_right fun member => ?_
  rw [onward.told (located.2 died member)]

theorem Onward.awaited (onward : Onward world after) (awaited : Awaited (world, vigil) number) :
    Awaited (after, vigil) number := by
  obtain ⟨⟨before, located⟩, answered⟩ := awaited
  obtain ⟨pump, found, -⟩ := onward.located located
  exact ⟨⟨pump, found⟩, answered⟩

theorem Onward.enrolled (onward : Onward world after) (enrolled : Enrolled (world, vigil)) :
    Enrolled (after, vigil) := by
  intro number member
  have earlier : number < world.net.pumps.length := enrolled number member
  obtain ⟨pump, found, -⟩ := onward.pumps number _ (List.getElem?_eq_getElem earlier)
  exact (List.getElem?_eq_some_iff.mp found).1

theorem Onward.atRest (onward : Onward world after) (calm : AtRest (world, vigil)) : AtRest (after, vigil) := by
  refine ⟨⟨calm.1.1, onward.enrolled calm.1.2⟩, fun handle member => ?_⟩
  exact onward.accounted (calm.2 handle (onward.stream ▸ member))

theorem Onward.attempting (onward : Onward world after) (attempting : Attempting (world, vigil)) :
    Attempting (after, vigil) := by
  refine ⟨⟨attempting.1.1, onward.enrolled attempting.1.2⟩, fun handle member => ?_⟩
  exact onward.awaited (attempting.2 handle (onward.stream ▸ member))

end

/-- The pump of this number dies, and nothing else happens. -/
structure Dies (number : Nat) (world after : World Core) : Prop where
  engine : after.engine = world.engine
  was : ∃ before, world.net.pumps[number]? = some before ∧ before.diedAt = none
  died : ∃ pump, after.net.pumps[number]? = some pump ∧ pump.diedAt = some world.engine.log.length
  others : ∀ other, other ≠ number → after.net.pumps[other]? = world.net.pumps[other]?
  length : after.net.pumps.length = world.net.pumps.length

section
variable {world after : World Core} {vigil : Vigil} {number : Nat}

theorem Dies.located (dies : Dies number world after) {other : Nat} {before : Pump}
    (located : Located world other before) : ∃ pump, Located after other pump := by
  by_cases same : other = number
  · subst same
    obtain ⟨pump, found, died⟩ := dies.died
    refine ⟨pump, found, fun moment member => ?_⟩
    rw [died] at member
    rw [dies.engine]
    exact Nat.le_of_eq (Option.some.inj member).symm
  · exact ⟨before, (dies.others other same).trans located.1, by rw [dies.engine]; exact located.2⟩

/-- A pump that dies is unanswered from now on. -/
theorem Dies.accounted (dies : Dies number world after) {other : Nat}
    (accounted : Accounted (world, vigil) other) :
    Accounted (after, { vigil with unanswered := number :: vigil.unanswered }) other := by
  obtain ⟨before, located, unanswered⟩ := accounted
  by_cases same : other = number
  · subst same
    obtain ⟨pump, found, died⟩ := dies.died
    obtain ⟨pump, located⟩ := dies.located located
    obtain rfl : _ = pump := Option.some.inj (found.symm.trans located.1)
    refine ⟨_, located, ⟨fun _ => ⟨_, died, ?_⟩, fun _ => List.mem_cons_self⟩⟩
    rw [dies.engine, List.drop_length]
    rfl
  · refine ⟨before, ⟨(dies.others other same).trans located.1, by rw [dies.engine]; exact located.2⟩, ?_⟩
    rw [dies.engine]
    exact (List.mem_cons.trans (or_iff_right same)).trans unanswered

/-- The end of another pump leaves a accounted one alone. -/
theorem Dies.accounted_other (dies : Dies number world after) {other : Nat} (unlike : other ≠ number)
    (accounted : Accounted (world, vigil) other) : Accounted (after, vigil) other := by
  obtain ⟨before, located, unanswered⟩ := accounted
  refine ⟨before, ⟨(dies.others other unlike).trans located.1, by rw [dies.engine]; exact located.2⟩, ?_⟩
  rw [dies.engine]
  exact unanswered

theorem Dies.enrolled (dies : Dies number world after) (enrolled : Enrolled (world, vigil)) :
    Enrolled (after, { vigil with unanswered := number :: vigil.unanswered }) := by
  intro other member
  change other < after.net.pumps.length
  rw [dies.length]
  rcases List.mem_cons.mp member with rfl | earlier
  · obtain ⟨before, found, -⟩ := dies.was
    exact (List.getElem?_eq_some_iff.mp found).1
  · exact enrolled other earlier

theorem Dies.atRest (dies : Dies number world after) (calm : AtRest (world, vigil)) :
    AtRest (after, { vigil with unanswered := number :: vigil.unanswered }) := by
  refine ⟨⟨calm.1.1, dies.enrolled calm.1.2⟩, fun handle member => dies.accounted (calm.2 handle ?_)⟩
  exact dies.engine ▸ member

/-- An attempt awaits the end of the held stream. -/
theorem Dies.attempting_held (dies : Dies number world after) (attempting : Attempting (world, vigil)) :
    Attempting (after, vigil) := by
  refine ⟨⟨attempting.1.1, fun other member => ?_⟩, fun handle member => ?_⟩
  · exact dies.length ▸ attempting.1.2 other member
  · rw [dies.engine] at member
    obtain ⟨⟨before, located⟩, answered⟩ := attempting.2 handle member
    exact ⟨dies.located located, answered⟩

/-- An attempt does not await the end of another stream. -/
theorem Dies.attempting_other (dies : Dies number world after) (attempting : Attempting (world, vigil))
    (unheld : ∀ handle ∈ world.engine.stream, handle.pump ≠ number) :
    Attempting (after, { vigil with unanswered := number :: vigil.unanswered }) := by
  refine ⟨⟨attempting.1.1, dies.enrolled attempting.1.2⟩, fun handle member => ?_⟩
  rw [dies.engine] at member
  obtain ⟨⟨before, located⟩, answered⟩ := attempting.2 handle member
  refine ⟨dies.located located, fun listed => ?_⟩
  exact (List.mem_cons.mp listed).elim (unheld handle member) answered

end

/-- The environment goes onward, or one pump dies and the vigil notes it. -/
theorem moveWorld_fate [ConstructCore Core] {world after : World Core} {move : Move} {vigil : Vigil}
    (moved : moveWorld config move world = some after) :
    Onward world after ∧ move.vigil world vigil = vigil ∨
      ∃ number, Dies number world after ∧
        (vigil.opening = true ∧ world.holds number = true ∧ move.vigil world vigil = vigil ∨
          ¬(vigil.opening = true ∧ world.holds number = true) ∧
            move.vigil world vigil = { vigil with unanswered := number :: vigil.unanswered }) := by
  obtain ⟨net, done, rfl⟩ := moveWorld_some moved
  have still (pumps : net.pumps = world.net.pumps) : Onward world { world with net } :=
    ⟨⟨[], (List.append_nil _).symm, rfl⟩, rfl, fun _ before found => ⟨before, by rw [pumps, found], rfl⟩⟩
  cases move with
  | pump number input =>
      simp only [moveNet, Net.movePump, Option.bind_eq_bind, Option.bind_eq_some_iff, Option.pure_def,
        Option.some.injEq] at done
      obtain ⟨before, found, ⟨stepped, frames⟩, step, rfl⟩ := done
      have alive := Pump.step_running step
      have fate := Pump.step_fate world.engine.log.length step
      have bound := (List.getElem?_eq_some_iff.mp found).1
      have others (other : Nat) (unlike : other ≠ number) (pump : Pump) :
          (world.net.pumps.set number pump)[other]? = world.net.pumps[other]? :=
        List.getElem?_set_ne (Ne.symm unlike)
      cases kills : input.kills with
      | false =>
          rw [kills] at fate
          refine .inl ⟨⟨⟨[], (List.append_nil _).symm, rfl⟩, rfl, fun other pump stored => ?_⟩, ?_⟩
          · by_cases same : other = number
            · subst same
              cases found.symm.trans stored
              exact ⟨_, List.getElem?_set_self bound, fate.trans alive.symm⟩
            · exact ⟨pump, (others other same _).trans stored, rfl⟩
          · simp [Move.vigil, kills]
      | true =>
          rw [kills] at fate
          refine .inr ⟨number, ⟨rfl, ⟨before, found, alive⟩, ⟨_, List.getElem?_set_self bound, fate⟩,
            fun other unlike => others other unlike _, List.length_set ..⟩, ?_⟩
          by_cases awaited : vigil.opening = true ∧ world.holds number = true
          · exact .inl ⟨awaited.1, awaited.2, by simp [Move.vigil, awaited]⟩
          · exact .inr ⟨awaited, by simp only [Move.vigil, kills, true_and]; rw [if_pos awaited]⟩
  | driverExits conn =>
      simp only [moveNet, Net.driverExits] at done
      split at done <;> cases done
      exact .inl ⟨still rfl, rfl⟩
  | dispatch event =>
      simp only [moveNet, Net.dispatch, Option.some.injEq] at done
      subst done
      exact .inl ⟨still (by split <;> rfl), rfl⟩
  | retryDue index =>
      obtain ⟨frame, rfl⟩ := retryDue_some done
      exact .inl ⟨still rfl, rfl⟩
  | tick millis =>
      cases done
      exact .inl ⟨still rfl, rfl⟩

/-- These operations neither tell of a loss nor change the held stream nor touch the vigil. -/
def Op.sparesStream : {A : Type} → Op Core A → Bool
  | _, .streamWrite _ | _, .spawnPump _ | _, .paramsWrite _ => false
  | _, .onAction action => !action.reportsDeath
  | _, _ => true

/-- What spares the stream changes no vigil. -/
theorem sparesStream_vigil {A : Type} {op : Op Core A} (spares : op.sparesStream = true) (vigil : Vigil) :
    op.vigil vigil = vigil := by
  cases op with
  | onAction action => cases action <;> first | rfl | cases spares
  | paramsWrite => cases spares
  | streamWrite => cases spares
  | _ => rfl

/-- What spares the stream reports no loss. -/
theorem records_untold {A : Type} {op : Op Core A} {event : Event} (spares : op.sparesStream = true)
    (records : op.Records event) : event.reportsDeath = false := by
  have background (silent : event.isBackground = true) : event.reportsDeath = false := by
    cases event <;> first | rfl | cases silent
  cases op with
  | onAction action =>
      cases records
      simpa [Op.sparesStream, Event.reportsDeath] using spares
  | handling path message => cases records; rfl
  | sendFrame site handle frame => obtain ⟨accepted, rfl⟩ := records; rfl
  | core region => obtain ⟨call, rfl, -⟩ := records; rfl
  | _ => exact background records

section
variable [ConstructCore Core] {world after : World Core} {vigil : Vigil}

theorem sendFrame_pumps {site : SendSite} {handle : BiDiStreamHandle} {frame : Bytes} {choice : Choice}
    {value : Except EngineError Unit} {number : Nat} {before : Pump}
    (answered : exec config (.sendFrame site handle frame) choice world = some (value, after))
    (found : world.net.pumps[number]? = some before) :
    ∃ pump, after.net.pumps[number]? = some pump ∧ pump.diedAt = before.diedAt := by
  obtain ⟨-, rfl⟩ | ⟨pump, stored, -, -, -, rfl⟩ := sendFrame_effect answered
  · exact ⟨before, found, rfl⟩
  · by_cases same : handle.pump = number
    · subst same
      cases stored.symm.trans found
      exact ⟨_, List.getElem?_set_self (List.getElem?_eq_some_iff.mp stored).1, rfl⟩
    · exact ⟨before, (List.getElem?_set_ne same).trans found, rfl⟩

theorem exec_onward {A : Type} {op : Op Core A} {choice : Choice} {value : A}
    (answered : exec config op choice world = some (value, after)) (spares : op.sparesStream = true) :
    Onward world after := by
  obtain ⟨more, grown, records⟩ := exec_records answered
  have silent : more.any Event.reportsDeath = false :=
    List.any_eq_false.mpr fun event member => by simp [records_untold spares (records event member)]
  have unwritten : op.writes .stream = false := by cases op <;> first | rfl | cases spares
  refine ⟨⟨more, grown, silent⟩, (exec_frame answered).stream unwritten, fun number before found => ?_⟩
  have same (undisturbed : op.disturbs .pumps = false) :
      ∃ pump, after.net.pumps[number]? = some pump ∧ pump.diedAt = before.diedAt :=
    ⟨before, by rw [(exec_surrounds answered).pumps undisturbed, found], rfl⟩
  cases op with
  | sendFrame site handle frame => exact sendFrame_pumps answered found
  | streamWrite => cases spares
  | spawnPump => cases spares
  | _ => exact same rfl

end

section
variable {world : World Core} {vigil : Vigil}

/-- The pump of a new handle comes after all others. -/
theorem spawnPump_opened (attempting : Attempting (world, vigil)) (conn : Nat) :
    Opened (.ok ⟨world.net.pumps.length, conn⟩)
      ({ world with net := { world.net with pumps := world.net.pumps ++ [{ conn }] } }, vigil) := by
  have earlier {handle : BiDiStreamHandle} (member : handle ∈ world.engine.stream) :
      handle.pump < world.net.pumps.length := by
    obtain ⟨⟨pump, located⟩, -⟩ := attempting.2 handle member
    exact (List.getElem?_eq_some_iff.mp located.1).1
  have fresh : world.net.pumps.length ∉ vigil.unanswered := fun listed =>
    Nat.lt_irrefl _ (attempting.1.2 _ listed)
  refine ⟨⟨⟨attempting.1.1, fun number member => ?_⟩, fun handle member => ?_⟩,
    ⟨{ conn }, ⟨by simp, nofun⟩, ?_⟩, fun handle member => Nat.ne_of_lt (earlier member)⟩
  · simpa using Nat.lt_succ_of_lt (attempting.1.2 number member)
  · obtain ⟨⟨pump, located⟩, answered⟩ := attempting.2 handle member
    refine ⟨⟨pump, ?_, located.2⟩, answered⟩
    exact (List.getElem?_append_left (earlier member)).trans located.1
  · exact ⟨fun listed => absurd listed fresh, nofun⟩

theorem dropHandle_pumps (net : Net) {stream : Option BiDiStreamHandle} {number : Nat}
    (unlike : ∀ held ∈ stream, held.pump ≠ number) :
    (net.dropHandle stream).pumps[number]? = net.pumps[number]? := by
  unfold Net.dropHandle
  cases stream with
  | none => rfl
  | some held =>
      dsimp only
      split
      · rfl
      · exact List.getElem?_set_ne (unlike held rfl)

theorem dropHandle_length (net : Net) (stream : Option BiDiStreamHandle) :
    (net.dropHandle stream).pumps.length = net.pumps.length := by
  unfold Net.dropHandle
  cases stream with
  | none => rfl
  | some held =>
      dsimp only
      split
      · rfl
      · exact List.length_set ..

/-- Nothing is missed while no stream is held. -/
theorem atRest_of_closed (enrolled : Enrolled (world, vigil)) :
    AtRest (⟨{ world.engine with stream := none }, world.net.dropHandle world.engine.stream⟩,
      { vigil with opening := false }) := by
  refine ⟨⟨rfl, fun number member => ?_⟩, nofun⟩
  exact dropHandle_length world.net _ ▸ enrolled number member

/-- A handle that replaces the held one is accounted as it was. -/
theorem atRest_of_stored {handle : BiDiStreamHandle} (opened : Opened (.ok handle) (world, vigil)) :
    AtRest (⟨{ world.engine with stream := some handle }, world.net.dropHandle world.engine.stream⟩,
      { vigil with opening := false }) := by
  obtain ⟨attempting, ⟨pump, located, unanswered⟩, unlike⟩ := opened
  refine ⟨⟨rfl, fun number member => ?_⟩, fun held member => ?_⟩
  · exact dropHandle_length world.net _ ▸ attempting.1.2 number member
  · cases member
    exact ⟨pump, ⟨(dropHandle_pumps world.net unlike).trans located.1, located.2⟩, unanswered⟩

/-- The error of an attempt answers every end that it awaited. -/
theorem atRest_of_error (attempting : Attempting (world, vigil)) (message : String) :
    AtRest ({ world with engine := world.engine.record (.action (.streamError message)) },
      { vigil with opening := false }) := by
  refine ⟨⟨rfl, attempting.1.2⟩, fun handle member => ?_⟩
  obtain ⟨⟨pump, located⟩, answered⟩ := attempting.2 handle member
  refine ⟨pump, ⟨located.1, fun died dies => ?_⟩, fun listed => absurd listed answered, ?_⟩
  · exact Nat.le_trans (located.2 died dies) (List.prefix_append _ _).length_le
  · rintro ⟨died, dies, untold⟩
    change ((world.engine.log ++ [Event.action (.streamError message)]).drop died).any _ = false at untold
    rw [List.drop_append_of_le_length (located.2 died dies), List.any_append] at untold
    simp [Event.reportsDeath, PlatformAction.reportsDeath] at untold

/-- A stored attempt begins with nothing unanswered. -/
theorem attempting_of_atRest {params : StreamParams} (calm : AtRest (world, vigil)) :
    Attempting ({ world with engine := { world.engine with streamParams := some params } }, ⟨true, []⟩) := by
  refine ⟨⟨rfl, nofun⟩, fun handle member => ?_⟩
  obtain ⟨pump, located, -⟩ := calm.2 handle member
  exact ⟨⟨pump, located⟩, nofun⟩

/-- At rest the platform was told of the held stream's end unless it is unanswered. -/
theorem AtRest.reported_iff (calm : AtRest (world, vigil)) :
    DeathReported world ↔ ∀ handle ∈ world.engine.stream, handle.pump ∉ vigil.unanswered := by
  constructor
  · intro reported handle member listed
    obtain ⟨pump, located, unanswered⟩ := calm.2 handle member
    obtain ⟨died, dies, untold⟩ := unanswered.mp listed
    rw [reported handle member pump located.1 died dies] at untold
    cases untold
  · intro answered handle member pump found died dies
    obtain ⟨_, located, unanswered⟩ := calm.2 handle member
    cases located.1.symm.trans found
    refine Bool.of_not_eq_false fun untold => answered handle member (unanswered.mpr ⟨died, dies, untold⟩)

end

end ConstructEngine
