import Mathlib.Data.List.Perm.Basic
import ConstructEngine.Interaction.Journal
import ConstructEngine.Proof.Recovery
import ConstructEngine.Proof.Status

namespace ConstructEngine

open Interaction Program Machine

variable {Core A : Type}

/-- The journal notes the bytes that arrived on each stream, the frames that the loop took, the retries
that were scheduled and that became due, and the events for which the queue had room. -/
structure Deliveries where
  arrived : Nat → Bytes := fun _ => []
  taken : List QueuedFrame := []
  scheduled : List Retry := []
  fired : List Retry := []
  accepted : List UiEvent := []

/-- The selection takes a frame from the front. -/
def Op.deliveries : {A : Type} → Op Core A → World Core → A → Deliveries → Deliveries
  | _, .select _, world, .frame _, deliveries =>
      { deliveries with taken := deliveries.taken ++ world.net.frames.take 1 }
  | _, .spawnRetry retryAfterMs frame, world, _, deliveries =>
      let retry := ⟨world.net.clock + retryAfterMs, frame⟩
      { deliveries with scheduled := deliveries.scheduled ++ [retry] }
  | _, _, _, _, deliveries => deliveries

/-- A pump and a retry put frames at the back. -/
def Move.deliveries (config : EngineConfig) (move : Move) (world : World Core) (deliveries : Deliveries) :
    Deliveries :=
  match move with
  | .pump number input =>
      let arrived := Function.update deliveries.arrived number
        (deliveries.arrived number ++ received [input])
      { deliveries with arrived }
  | .retryDue index =>
      { deliveries with fired := deliveries.fired ++ world.net.retries[index]?.toList }
  | .dispatch event =>
      let room := world.net.rxAlive ∧ world.net.events.length < config.eventBuffer
      { deliveries with accepted := deliveries.accepted ++ if room then [event] else [] }
  | _ => deliveries

/-- The frames of one pump keep their order in the queue of all pumps. -/
def deliveredBy (number : Nat) (queue : List QueuedFrame) : List Bytes :=
  queue.filterMap fun queued => if queued.origin = some number then some queued.frame else none

/-- A frame without a pump comes from a retry. -/
def deliveredRetries (queue : List QueuedFrame) : List Bytes :=
  queue.filterMap fun queued => if queued.origin = none then some queued.frame else none

/-- What a pump keeps is the beginning of its next frame. -/
def Net.buffered (net : Net) (number : Nat) : Bytes :=
  ((net.pumps[number]?).map Pump.recvBuf).getD []

/-- These are the frames whose handler the loop started. -/
def handledFrames (log : List Event) : List Bytes :=
  log.filterMap fun event => match event with
    | .frame frame => some frame
    | _ => none

/-- The frames of one pump follow one another. -/
theorem deliveredBy_append (number : Nat) (first second : List QueuedFrame) :
    deliveredBy number (first ++ second) = deliveredBy number first ++ deliveredBy number second :=
  List.filterMap_append ..

/-- What a pump queues is its own. -/
theorem deliveredBy_queued (number other : Nat) (frames : List Bytes) :
    deliveredBy number (frames.map fun frame => ⟨frame, some other⟩) =
      if other = number then frames else [] := by
  by_cases same : other = number
  · subst same
    simp [deliveredBy, List.filterMap_map]
  · simp [deliveredBy, List.filterMap_map, same]

/-- The frames of the retries follow one another. -/
theorem deliveredRetries_append (first second : List QueuedFrame) :
    deliveredRetries (first ++ second) = deliveredRetries first ++ deliveredRetries second :=
  List.filterMap_append ..

/-- What a pump queues is no retry. -/
theorem deliveredRetries_queued (other : Nat) (frames : List Bytes) :
    deliveredRetries (frames.map fun frame => ⟨frame, some other⟩) = [] := by
  simp [deliveredRetries, List.filterMap_map]

/-- A change of one pump touches no other buffer. -/
theorem Net.buffered_update (net : Net) {number : Nat} {pump : Pump} (after : Pump)
    (found : net.pumps[number]? = some pump) (other : Nat) :
    (net.updatePump number after).buffered other =
      if number = other then after.recvBuf else net.buffered other := by
  by_cases same : number = other
  · subst same
    simp [Net.buffered, Net.updatePump, List.getElem?_set_self (List.getElem?_eq_some_iff.mp found).1]
  · simp [Net.buffered, Net.updatePump, List.getElem?_set_ne same, same]

/-- A dropped handle leaves what its pump keeps. -/
theorem Net.buffered_dropHandle (net : Net) (stream : Option BiDiStreamHandle) (number : Nat) :
    (net.dropHandle stream).buffered number = net.buffered number := by
  unfold Net.dropHandle
  split
  · rfl
  next handle =>
    split
    · rfl
    next pump found =>
      rw [Net.buffered_update net _ found]
      split
      next same => subst same; simp [Net.buffered, found]
      next => rfl

section
variable [ConstructCore Core] {config : EngineConfig}

/-- The deliveries follow the operations and the moves. -/
def deliveryJournal (Core : Type) [ConstructCore Core] (config : EngineConfig) :
    (engineMachine Core config).Journal Deliveries := ⟨Op.deliveries, Move.deliveries config⟩

/-- What the loop takes from the queue moves from the queue to the journal. -/
theorem exec_taken {op : Op Core A} {choice : Choice} {world after : World Core} {value : A}
    (answered : exec config op choice world = some (value, after)) (deliveries : Deliveries) :
    (op.deliveries world value deliveries).taken ++ after.net.frames =
      deliveries.taken ++ world.net.frames := by
  cases takes : op.takes with
  | true =>
      cases op with
      | select refreshArmed =>
          obtain ⟨rfl, -, rfl⟩ | ⟨rfl, -, rfl⟩ | ⟨-, ⟨event, rest, -, rfl, rfl⟩ |
            ⟨-, ⟨frame, rest, queued, rfl, rfl⟩ | ⟨-, rfl, rfl⟩⟩⟩ := select_effect answered <;>
            simp [Op.deliveries, *]
      | _ => cases takes
  | false =>
      have same : (op.deliveries world value deliveries).taken = deliveries.taken := by
        cases op <;> first | rfl | cases takes
      rw [same, (exec_queues takes answered).frames]

/-- The engine leaves the receive buffers of the pumps alone. -/
theorem exec_buffered {op : Op Core A} {choice : Choice} {world after : World Core} {value : A}
    (answered : exec config op choice world = some (value, after)) (number : Nat) :
    after.net.buffered number = world.net.buffered number := by
  cases op with
  | streamWrite stream => cases answered; exact Net.buffered_dropHandle _ _ _
  | spawnPump conn =>
      cases answered
      rcases Nat.lt_trichotomy number world.net.pumps.length with known | rfl | beyond
      · simp [Net.buffered, List.getElem?_append_left known]
      · simp [Net.buffered]
      · have outside : (world.net.pumps ++ [({ conn } : Pump)]).length ≤ number := by
          simpa using Nat.succ_le_of_lt beyond
        simp only [Net.buffered, List.getElem?_eq_none (Nat.le_of_lt beyond), List.getElem?_eq_none outside]
  | sendFrame site handle frame =>
      obtain ⟨-, rfl⟩ | ⟨pump, found, -, -, -, rfl⟩ := sendFrame_effect answered
      · rfl
      · rw [Net.buffered_update _ _ found]
        split
        next same => subst same; simp [Net.buffered, found]
        next => rfl
  | _ =>
      have pumps := (exec_surrounds answered).pumps rfl
      simp only [Net.buffered, pumps]

/-- The frames that the loop handled are the frames that it took. -/
theorem exec_handled {op : Op Core A} {choice : Choice} {world after : World Core} {value : A}
    (answered : exec config op choice world = some (value, after)) {deliveries : Deliveries}
    (now : handledFrames world.engine.log = deliveries.taken.map QueuedFrame.frame) :
    handledFrames after.engine.log =
      (op.deliveries world value deliveries).taken.map QueuedFrame.frame := by
  cases takes : op.takes with
  | true =>
      cases op with
      | select refreshArmed =>
          obtain ⟨rfl, -, rfl⟩ | ⟨rfl, -, rfl⟩ | ⟨-, ⟨event, rest, -, rfl, rfl⟩ |
            ⟨-, ⟨frame, rest, queued, rfl, rfl⟩ | ⟨-, rfl, rfl⟩⟩⟩ := select_effect answered <;>
            simp_all [Op.deliveries, handledFrames, Engine.record]
      | _ => cases takes
  | false =>
      have same : (op.deliveries world value deliveries).taken = deliveries.taken := by
        cases op <;> first | rfl | cases takes
      obtain ⟨more, grown, -, traces⟩ := exec_traces answered
      have nothing : handledFrames more = [] := by
        refine List.filterMap_eq_nil_iff.mpr fun event member => ?_
        split
        next frame =>
          rw [takes_of_frame (traces _ member)] at takes
          cases takes
        next => rfl
      rw [same, grown, ← now]
      refine (List.filterMap_append ..).trans ?_
      rw [show List.filterMap _ more = [] from nothing, List.append_nil]
      rfl

/-- The stream is cut into these frames, with this rest. -/
def CutInto (stream : Bytes) (frames : List Bytes) (rest : Bytes) : Prop :=
  ∃ cutting : grpcCutter.Cutting stream, cutting.frames = frames ∧ cutting.rest = rest

/-- Every stream is cut into the frames that were taken, the frames that are queued, and what its pump
keeps. -/
def StreamsCut (world : World Core) (deliveries : Deliveries) : Prop :=
  ∀ number, CutInto (deliveries.arrived number)
    (deliveredBy number (deliveries.taken ++ world.net.frames)) (world.net.buffered number)

theorem exec_cut {op : Op Core A} {choice : Choice} {world after : World Core} {value : A}
    (answered : exec config op choice world = some (value, after)) {deliveries : Deliveries}
    (cut : StreamsCut world deliveries) : StreamsCut after (op.deliveries world value deliveries) := by
  intro number
  have same : (op.deliveries world value deliveries).arrived = deliveries.arrived := by
    cases op <;> first | rfl | (cases value <;> rfl)
  rw [same, exec_taken answered, exec_buffered answered]
  exact cut number

omit [ConstructCore Core] in
/-- A chunk extends the cutting of its own stream. -/
theorem pump_cut {number : Nat} {input : PumpInput} {world : World Core} {net : Net}
    (moved : world.net.movePump world.engine.log.length number input = some net)
    {deliveries : Deliveries} (cut : StreamsCut world deliveries) :
    StreamsCut { world with net } ((Move.pump number input).deliveries config world deliveries) := by
  simp only [Net.movePump, Option.bind_eq_bind, Option.bind_eq_some_iff, Option.pure_def,
    Option.some.injEq] at moved
  obtain ⟨pump, found, ⟨stepped, passed⟩, step, rfl⟩ := moved
  intro other
  have before := cut other
  have buffer : (if stepped.isEnded = true then
      { stepped with endedAt := some world.engine.log.length } else stepped).recvBuf =
        stepped.recvBuf := by split <;> rfl
  have kept (after : Pump) : ({ world.net.updatePump number after with
      frames := world.net.frames ++ passed.map fun frame => ⟨frame, some number⟩ } : Net).buffered other =
        if number = other then after.recvBuf else world.net.buffered other :=
    Net.buffered_update world.net after found other
  simp only [Move.deliveries, ← List.append_assoc deliveries.taken, deliveredBy_append _ (_ ++ _),
    deliveredBy_queued, kept, buffer]
  by_cases same : number = other
  · subst same
    obtain ⟨cutting, frames, rest⟩ := before
    have started : cutting.rest = pump.recvBuf := by rw [rest]; simp [Net.buffered, found]
    obtain ⟨longer, all, last⟩ := Pump.step_cutting step cutting started
    simp only [Function.update_self, if_true]
    exact ⟨longer, by rw [all, frames], last⟩
  · simp only [Function.update_of_ne (Ne.symm same), if_neg same, List.append_nil]
    exact before

omit [ConstructCore Core] in
theorem move_cut {move : Move} {world after : World Core}
    (moved : moveWorld config move world = some after) {deliveries : Deliveries}
    (cut : StreamsCut world deliveries) : StreamsCut after (move.deliveries config world deliveries) := by
  obtain ⟨net, done, rfl⟩ := moveWorld_some moved
  cases move with
  | pump number input => exact pump_cut done cut
  | driverExits conn =>
      simp only [moveNet, Net.driverExits] at done
      split at done <;> cases done
      exact cut
  | dispatch event =>
      simp only [moveNet, Net.dispatch, Option.some.injEq] at done
      subst done
      split <;> exact cut
  | retryDue index =>
      obtain ⟨frame, rfl⟩ := retryDue_some done
      intro number
      obtain ⟨cutting, frames, rest⟩ := cut number
      refine ⟨cutting, ?_, rest⟩
      simp [Move.deliveries, deliveredBy, frames]
  | tick millis => cases done; exact cut

/-- For every stream, the frames that the loop took from it and then the frames that wait in the queue
are the frames of the bytes that arrived on it, once and in order. -/
theorem stream_delivered [Prost] {engine : Engine Core} (created : Engine.new config = .ok engine)
    {world : World Core} {deliveries : Deliveries} {later : EngineM Core Unit}
    (reached : Reaches ((Promise.any (engineMachine Core config)).journaled (deliveryJournal Core config))
      ((startWorld engine, {}), eventLoop config) ((world, deliveries), later)) :
    handledFrames world.engine.log = deliveries.taken.map QueuedFrame.frame ∧
      ∀ number, drainFrames (deliveries.arrived number) =
        (deliveredBy number deliveries.taken ++ deliveredBy number world.net.frames,
          world.net.buffered number) := by
  obtain ⟨core, rfl⟩ := Engine.new_fresh created
  have handled : handledFrames world.engine.log = deliveries.taken.map QueuedFrame.frame := by
    refine journaled_invariant (fun (world : World Core) (deliveries : Deliveries) =>
      handledFrames world.engine.log = deliveries.taken.map QueuedFrame.frame) ?_ ?_ rfl reached
    · intro move world deliveries after _ now moved
      obtain ⟨net, -, rfl⟩ := moveWorld_some moved
      have same : (move.deliveries config world deliveries).taken = deliveries.taken := by cases move <;> rfl
      exact now.trans (congrArg _ same.symm)
    · intro B op choice world deliveries value after _ now answered
      exact exec_handled answered now
  refine ⟨handled, fun number => ?_⟩
  have cut : StreamsCut world deliveries := by
    refine journaled_invariant StreamsCut ?_ ?_ ?_ reached
    · exact fun move world deliveries after _ now moved => move_cut moved now
    · exact fun op choice world deliveries value after _ now answered => exec_cut answered now
    · exact fun number => ⟨Cutter.Cutting.ofFrames [] rfl (by simp), rfl, rfl⟩
  obtain ⟨cutting, frames, rest⟩ := cut number
  have unique : drained (deliveries.arrived number) = cutting := Subsingleton.elim _ _
  rw [← deliveredBy_append, ← frames, ← rest, ← unique]
  rfl

end

/-- This is the engine with the deliveries next to its state. -/
abbrev deliveryMachine (Core : Type) [ConstructCore Core] (config : EngineConfig) : Machine (Op Core) :=
  (engineMachine Core config).journaled (deliveryJournal Core config)

/-- The stream opens, and one frame arrives on it in two chunks, the second with the start of another. -/
def splitArrival : (deliveryMachine RehearsalCore (rehearsalConfig [1] none)).Configuration Unit :=
  run ((startWorld (Engine.fresh (rehearsalConfig [1] none) (some ⟨[], []⟩)), {}),
      eventLoop (rehearsalConfig [1] none))
    (.move (Move.dispatch (.openMessageStream ["c"] none)) ::
      List.replicate 30 (.answer { opened := { recvResponse := .ok ⟨200, "200 OK"⟩ } }) ++
      [.move (Move.pump 0 .queueEmpty), .move (Move.pump 0 (.chunk [0, 0, 0])),
        .move (Move.pump 0 .queueEmpty), .move (Move.pump 0 (.chunk [0, 1, 7, 0]))] ++
      List.replicate 20 (.answer {}))

/-- The loop handled the whole frame once, and the rest waits in the buffer. -/
theorem stream_delivered_split :
    handledFrames splitArrival.1.1.engine.log = [[0, 0, 0, 0, 1, 7]] ∧
      drainFrames [0, 0, 0, 0, 1, 7, 0] = ([[0, 0, 0, 0, 1, 7]], [0]) := by
  have delivers (final : (deliveryMachine RehearsalCore (rehearsalConfig [1] none)).Configuration Unit)
      (reached : Reaches ((Promise.any (engineMachine RehearsalCore (rehearsalConfig [1] none))).journaled
        (deliveryJournal RehearsalCore (rehearsalConfig [1] none)))
        ((startWorld (Engine.fresh (rehearsalConfig [1] none) (some ⟨[], []⟩)), {}),
          eventLoop (rehearsalConfig [1] none)) final)
      (quiet : final.1.1.net.frames.length = 0) (number : Nat) :
      drainFrames (final.1.2.arrived number) =
        (deliveredBy number final.1.2.taken, final.1.1.net.buffered number) := by
    obtain ⟨⟨world, deliveries⟩, later⟩ := final
    have delivered := (stream_delivered (rehearsal_with_core [] none) reached).2 number
    rw [delivered, List.eq_nil_of_length_eq_zero quiet]
    exact congrArg (·, _) (List.append_nil _)
  have drained := delivers splitArrival (run_reaches (allAllowed_any _ _)) (by decide +kernel) 0
  have arrived : splitArrival.1.2.arrived 0 = [0, 0, 0, 0, 1, 7, 0] := by decide +kernel
  have taken : deliveredBy 0 splitArrival.1.2.taken = [[0, 0, 0, 0, 1, 7]] := by decide +kernel
  have kept : splitArrival.1.1.net.buffered 0 = [0] := by decide +kernel
  rw [arrived, taken, kept] at drained
  exact ⟨by decide +kernel, drained⟩

section
variable [ConstructCore Core] {config : EngineConfig}

/-- A scheduled retry waits for its time, and one that became due goes through the queue. -/
structure RetriesKept (world : World Core) (deliveries : Deliveries) : Prop where
  once : (deliveries.fired ++ world.net.retries).Perm deliveries.scheduled
  patient : ∀ retry ∈ deliveries.fired, retry.due ≤ world.net.clock
  order : deliveries.fired.map Retry.frame = deliveredRetries (deliveries.taken ++ world.net.frames)

theorem exec_retriesKept {op : Op Core A} {choice : Choice} {world after : World Core} {value : A}
    (answered : exec config op choice world = some (value, after)) {deliveries : Deliveries}
    (kept : RetriesKept world deliveries) :
    RetriesKept after (op.deliveries world value deliveries) := by
  have fired : (op.deliveries world value deliveries).fired = deliveries.fired := by
    cases op <;> first | rfl | (cases value <;> rfl)
  have waiting : (deliveries.fired ++ after.net.retries).Perm
      (op.deliveries world value deliveries).scheduled := by
    cases op with
    | spawnRetry retryAfterMs frame =>
        cases answered
        rw [← List.append_assoc]
        exact kept.once.append_right _
    | select refreshArmed =>
        rw [(exec_surrounds answered).retries rfl]
        cases value <;> exact kept.once
    | _ =>
        rw [(exec_surrounds answered).retries rfl]
        exact kept.once
  refine ⟨by rw [fired]; exact waiting, ?_, ?_⟩
  · rw [fired, (exec_surrounds answered).clock]
    exact kept.patient
  · rw [fired, exec_taken answered]
    exact kept.order

omit [ConstructCore Core] in
theorem move_retriesKept {move : Move} {world after : World Core}
    (moved : moveWorld config move world = some after) {deliveries : Deliveries}
    (kept : RetriesKept world deliveries) : RetriesKept after (move.deliveries config world deliveries) := by
  obtain ⟨net, done, rfl⟩ := moveWorld_some moved
  cases move with
  | driverExits conn =>
      simp only [moveNet, Net.driverExits] at done
      split at done <;> cases done
      exact ⟨kept.once, kept.patient, kept.order⟩
  | pump number input =>
      simp only [moveNet, Net.movePump, Option.bind_eq_bind, Option.bind_eq_some_iff,
        Option.pure_def, Option.some.injEq] at done
      obtain ⟨pump, _, ⟨stepped, passed⟩, _, rfl⟩ := done
      refine ⟨kept.once, kept.patient, ?_⟩
      simp only [Move.deliveries, ← List.append_assoc deliveries.taken]
      rw [kept.order, deliveredRetries_append (_ ++ _), deliveredRetries_queued, List.append_nil]
  | dispatch event =>
      simp only [moveNet, Net.dispatch, Option.some.injEq] at done
      subst done
      split <;> exact ⟨kept.once, kept.patient, kept.order⟩
  | retryDue index =>
      obtain ⟨retry, found, delivered⟩ := Option.bind_eq_some_iff.mp done
      obtain ⟨_, due, same⟩ := Option.bind_eq_some_iff.mp delivered
      obtain ⟨bound, rfl⟩ := List.getElem?_eq_some_iff.mp found
      cases same
      have patient : world.net.retries[index].due ≤ world.net.clock := by
        by_contra late
        simp [guard, late] at due
      simp only [Move.deliveries, List.getElem?_eq_getElem bound, Option.toList_some]
      refine ⟨?_, ?_, ?_⟩
      · have waiting := (List.getElem_cons_eraseIdx_perm bound).append_left deliveries.fired
        simpa using waiting.trans kept.once
      · intro retry member
        rcases List.mem_append.mp member with earlier | now
        · exact kept.patient retry earlier
        · rw [List.mem_singleton.mp now]
          exact patient
      · rw [List.map_append, kept.order, ← List.append_assoc, deliveredRetries_append (_ ++ _)]
        rfl
  | tick millis =>
      cases done
      exact ⟨kept.once, fun retry member => Nat.le_add_right_of_le (kept.patient retry member),
        kept.order⟩

/-- Every scheduled retry waits or became due, not before its time, and the loop takes the retries that
became due once and in this order. -/
theorem retry_delivered [Prost] {engine : Engine Core} (created : Engine.new config = .ok engine)
    {world : World Core} {deliveries : Deliveries} {later : EngineM Core Unit}
    (reached : Reaches ((Promise.any (engineMachine Core config)).journaled (deliveryJournal Core config))
      ((startWorld engine, {}), eventLoop config) ((world, deliveries), later)) :
    (deliveries.fired ++ world.net.retries).Perm deliveries.scheduled ∧
      (∀ retry ∈ deliveries.fired, retry.due ≤ world.net.clock) ∧
      deliveries.fired.map Retry.frame =
        deliveredRetries deliveries.taken ++ deliveredRetries world.net.frames := by
  obtain ⟨core, rfl⟩ := Engine.new_fresh created
  have kept : RetriesKept world deliveries := by
    refine journaled_invariant RetriesKept ?_ ?_ ⟨.refl _, nofun, rfl⟩ reached
    · exact fun move world deliveries after _ now moved => move_retriesKept moved now
    · exact fun op choice world deliveries value after _ now answered => exec_retriesKept answered now
  exact ⟨kept.once, kept.patient, kept.order.trans (deliveredRetries_append ..)⟩

end

/-- The first message of a session fails, and its retry becomes due after a second. -/
def retriedOnce : (@deliveryMachine RehearsalCore failingCore (rehearsalConfig [1] none)).Configuration Unit :=
  run ((startWorld (Engine.fresh (rehearsalConfig [1] none) (some ⟨[], []⟩)), {}),
      @eventLoop RehearsalCore failingCore responding (rehearsalConfig [1] none))
    (.move (Move.dispatch (.backgroundPush none)) :: List.replicate 40 (.answer deliveringChoice) ++
      [.move (Move.retryDue 0), .move (Move.tick 1000), .move (Move.retryDue 0)] ++
      List.replicate 20 (.answer deliveringChoice))

/-- The loop handles the retry once, although the platform tried to fire it too early. -/
theorem retry_delivered_once :
    retriedOnce.1.2.fired.length = 1 ∧ (deliveredRetries retriedOnce.1.2.taken).length = 1 ∧
      (retriedOnce.1.2.fired ++ retriedOnce.1.1.net.retries).Perm retriedOnce.1.2.scheduled := by
  have kept (final : (@deliveryMachine RehearsalCore failingCore (rehearsalConfig [1] none)).Configuration Unit)
      (reached : Reaches ((Promise.any (@engineMachine RehearsalCore failingCore (rehearsalConfig [1] none))).journaled
        (@deliveryJournal RehearsalCore failingCore (rehearsalConfig [1] none)))
        ((startWorld (Engine.fresh (rehearsalConfig [1] none) (some ⟨[], []⟩)), {}),
          @eventLoop RehearsalCore failingCore responding (rehearsalConfig [1] none)) final) :
      (final.1.2.fired ++ final.1.1.net.retries).Perm final.1.2.scheduled := by
    obtain ⟨⟨world, deliveries⟩, later⟩ := final
    exact (@retry_delivered RehearsalCore failingCore _ responding _ rfl _ _ _ reached).1
  exact ⟨by decide +kernel, by decide +kernel, kept retriedOnce (run_reaches (allAllowed_any _ _))⟩

/-- While the loop holds its receiver, the events that it took up and then the events that wait are those
for which the queue had room, in the order of their dispatch. A dropped receiver leaves nothing waiting. -/
structure QueueKept (config : EngineConfig) (world : World Core) (deliveries : Deliveries) : Prop where
  order : world.net.rxAlive = true → taken world.engine.log ++ world.net.events = deliveries.accepted
  begun : taken world.engine.log <+: deliveries.accepted
  ended : world.net.rxAlive = false → world.net.events = []
  dispatched : deliveries.accepted.Sublist world.net.dispatched
  bounded : world.net.events.length ≤ config.eventBuffer
  complete : world.net.dispatched.length ≤ config.eventBuffer → world.net.rxAlive = true →
    deliveries.accepted = world.net.dispatched

section
variable [ConstructCore Core] {config : EngineConfig}

theorem exec_queueKept {op : Op Core A} {choice : Choice} {world after : World Core} {value : A}
    (answered : exec config op choice world = some (value, after)) {deliveries : Deliveries}
    (kept : QueueKept config world deliveries) :
    QueueKept config after (op.deliveries world value deliveries) := by
  have accepted : (op.deliveries world value deliveries).accepted = deliveries.accepted := by
    cases op <;> first | rfl | (cases value <;> rfl)
  obtain ⟨moved, dispatched⟩ := exec_queue answered
  have shorter : after.net.events.length ≤ world.net.events.length := by
    cases op with
    | select refreshArmed =>
        obtain ⟨-, -, rfl⟩ | ⟨-, -, rfl⟩ | ⟨-, ⟨event, rest, queued, -, rfl⟩ |
          ⟨-, ⟨frame, rest, -, -, rfl⟩ | ⟨-, -, rfl⟩⟩⟩ := select_effect answered <;> simp [*]
    | rxDrop => cases answered; exact Nat.zero_le _
    | _ => exact Nat.le_of_eq (congrArg _ ((exec_surrounds answered).events rfl))
  refine ⟨fun listens => ?_, ?_, fun deaf => ?_, ?_, shorter.trans kept.bounded, ?_⟩
  · obtain same | ⟨dropped, -⟩ := moved
    · rw [same, accepted, kept.order (exec_listens answered listens)]
    · rw [dropped] at listens
      cases listens
  · rw [accepted]
    obtain same | ⟨-, -, same⟩ := moved
    · have all : taken world.engine.log ++ world.net.events <+: deliveries.accepted := by
        cases listens : world.net.rxAlive with
        | true =>
            exact ⟨[], (List.append_nil _).trans (kept.order listens)⟩
        | false =>
            rw [kept.ended listens, List.append_nil]
            exact kept.begun
      exact (List.prefix_append _ _).trans (same ▸ all)
    · rw [same]
      exact kept.begun
  · obtain same | ⟨-, empty, -⟩ := moved
    · by_cases dropped : op.disturbs .receiver = true
      · cases op with
        | rxDrop => cases answered; rfl
        | _ => cases dropped
      · have before := (exec_surrounds answered).rxAlive (Bool.eq_false_iff.mpr dropped)
        have nothing := kept.ended (before.symm.trans deaf)
        rw [nothing] at shorter
        exact List.eq_nil_of_length_eq_zero (Nat.le_zero.mp shorter)
    · exact empty
  · rw [accepted, dispatched]
    exact kept.dispatched
  · rw [accepted, dispatched]
    exact fun few alive => kept.complete few (exec_listens answered alive)

omit [ConstructCore Core] in
theorem move_queueKept {move : Move} {world after : World Core}
    (moved : moveWorld config move world = some after) {deliveries : Deliveries}
    (kept : QueueKept config world deliveries) :
    QueueKept config after (move.deliveries config world deliveries) := by
  obtain ⟨net, done, rfl⟩ := moveWorld_some moved
  cases move with
  | driverExits conn =>
      simp only [moveNet, Net.driverExits] at done
      split at done <;> cases done
      exact ⟨kept.order, kept.begun, kept.ended, kept.dispatched, kept.bounded, kept.complete⟩
  | pump number input =>
      simp only [moveNet, Net.movePump, Option.bind_eq_bind, Option.bind_eq_some_iff,
        Option.pure_def, Option.some.injEq] at done
      obtain ⟨pump, _, ⟨stepped, passed⟩, _, rfl⟩ := done
      exact ⟨kept.order, kept.begun, kept.ended, kept.dispatched, kept.bounded, kept.complete⟩
  | dispatch event =>
      simp only [moveNet, Net.dispatch, Option.some.injEq] at done
      subst done
      by_cases room : world.net.rxAlive ∧ world.net.events.length < config.eventBuffer
      · rw [if_pos room]
        simp only [Move.deliveries, if_pos room]
        refine ⟨fun alive => by rw [← List.append_assoc, kept.order alive],
          kept.begun.trans (List.prefix_append _ _), fun deaf => ?_, kept.dispatched.append (.refl _), ?_, ?_⟩
        · rw [room.1] at deaf
          cases deaf
        · simpa using Nat.succ_le_of_lt room.2
        · intro few alive
          rw [kept.complete (by simp at few; omega) alive]
      · rw [if_neg room]
        simp only [Move.deliveries, if_neg room, List.append_nil]
        refine ⟨kept.order, kept.begun, kept.ended, kept.dispatched.trans (List.sublist_append_left ..),
          kept.bounded, ?_⟩
        intro few alive
        -- The queue is not longer than what was dispatched, so that it has room.
        have all := kept.complete (by simp at few; omega) alive
        have length := congrArg List.length ((kept.order alive).trans all)
        simp only [List.length_append, List.length_cons, List.length_nil] at length few
        exact absurd ⟨alive, by omega⟩ room
  | retryDue index =>
      obtain ⟨frame, rfl⟩ := retryDue_some done
      exact ⟨kept.order, kept.begun, kept.ended, kept.dispatched, kept.bounded, kept.complete⟩
  | tick millis =>
      cases done
      exact ⟨kept.order, kept.begun, kept.ended, kept.dispatched, kept.bounded, kept.complete⟩

/-- The loop takes up the events that found room in the queue, once and in the order of their dispatch,
until it drops its receiver. The queue never outgrows its capacity, and no event is lost while fewer were
dispatched. -/
theorem dispatch_delivered [Prost] {engine : Engine Core} (created : Engine.new config = .ok engine)
    {world : World Core} {deliveries : Deliveries} {later : EngineM Core Unit}
    (reached : Reaches ((Promise.any (engineMachine Core config)).journaled (deliveryJournal Core config))
      ((startWorld engine, {}), eventLoop config) ((world, deliveries), later)) :
    QueueKept config world deliveries := by
  obtain ⟨core, rfl⟩ := Engine.new_fresh created
  refine journaled_invariant (QueueKept config) ?_ ?_
    ⟨fun _ => rfl, List.prefix_rfl, fun _ => rfl, .slnil, Nat.zero_le _, fun _ _ => rfl⟩ reached
  · exact fun move world deliveries after _ now moved => move_queueKept moved now
  · exact fun op choice world deliveries value after _ now answered => exec_queueKept answered now

end

/-- The queue has room for one event, and three are dispatched, the last after the first was taken up. -/
def crowdedArrival : (deliveryMachine RehearsalCore narrowConfig).Configuration Unit :=
  run ((startWorld (Engine.fresh narrowConfig none), {}), eventLoop narrowConfig)
    (.move (Move.dispatch .platformReady) :: .move (Move.dispatch .logout) ::
      List.replicate 20 (.answer {}) ++ .move (Move.dispatch .closeMessageStream) ::
      List.replicate 10 (.answer {}))

/-- The loop took up the first and the last event, and it never learns of the second. -/
theorem dispatch_delivered_crowded :
    taken crowdedArrival.1.1.engine.log = [.platformReady, .closeMessageStream] ∧
      QueueKept narrowConfig crowdedArrival.1.1 crowdedArrival.1.2 := by
  have kept (final : (deliveryMachine RehearsalCore narrowConfig).Configuration Unit)
      (reached : Reaches ((Promise.any (engineMachine RehearsalCore narrowConfig)).journaled
        (deliveryJournal RehearsalCore narrowConfig))
        ((startWorld (Engine.fresh narrowConfig none), {}), eventLoop narrowConfig) final) :
      QueueKept narrowConfig final.1.1 final.1.2 := by
    obtain ⟨⟨world, deliveries⟩, later⟩ := final
    have created : Engine.new narrowConfig =
        .ok (Engine.fresh narrowConfig (none : Option RehearsalCore)) := rfl
    exact dispatch_delivered created reached
  exact ⟨by decide +kernel, kept crowdedArrival (run_reaches (allAllowed_any _ _))⟩

end ConstructEngine
