import ConstructEngine.Proof.Reassembly
import ConstructEngine.Proof.Rehearsal
import ConstructEngine.Proof.Trail

namespace ConstructEngine

open Interaction Program Machine

variable {Core : Type}

/-- This is the frame that the queue of the pump accepts. -/
def Event.acceptedBy (number : Nat) : Event → Option Bytes
  | .sent _ handle bytes true => if handle.pump = number then some bytes else none
  | _ => none

/-- The queue of this pump accepted these frames, in this order. -/
def acceptedBy (number : Nat) (log : List Event) : List Bytes :=
  log.filterMap (Event.acceptedBy number)

/-- These inputs end the pump and leave the H3 stream as it is. -/
def PumpInput.abandons : PumpInput → Bool
  | .abort | .serverCloses | .recvFails => true
  | _ => false

/-- The stream refuses a frame. -/
def PumpInput.isSendFailure : PumpInput → Bool
  | .sendFails => true
  | _ => false

/-- The frame in flight was popped from the queue, and the stream has not taken it yet. -/
def Pump.inFlight (pump : Pump) : List Bytes :=
  match pump.location with
  | .sending frame => [frame]
  | _ => []

/-- The pump still has to write the frame in flight and the queued ones. -/
def Pump.unwritten (pump : Pump) : List Bytes := pump.inFlight ++ pump.outgoing

/-- Between two frames the queue holds what is not written. -/
theorem Pump.unwritten_queued {pump : Pump} (place : ∀ frame, pump.location ≠ .sending frame) :
    pump.unwritten = pump.outgoing := by
  unfold unwritten inFlight
  split
  · next frame located => exact absurd located (place frame)
  · rfl

/-- The pump wrote or still holds every accepted frame, and it ends with nothing left to write. -/
structure Pump.Conveys (pump : Pump) (accepted : List Bytes) : Prop where
  order : accepted = pump.written ++ pump.unwritten
  ended : pump.isEnded = true → pump.unwritten = []
  finished : pump.finished = true → pump.isEnded = true

/-- A step writes the frames in the order of the queue, and loses none while the stream accepts them. -/
theorem Pump.step_conveys {pump after : Pump} {input : PumpInput} {frames accepted : List Bytes}
    (stepped : pump.step input = some (after, frames)) (sends : input.isSendFailure = false)
    (drained : input.abandons = true → pump.unwritten = []) (conveys : pump.Conveys accepted) :
    after.Conveys accepted := by
  have running : pump.finished = false := by
    cases location : pump.location with
    | ended reason => simp [step, location] at stepped
    | _ =>
        apply Bool.eq_false_iff.mpr
        intro finished
        have ended := conveys.finished finished
        simp [isEnded, location] at ended
  have order := conveys.order
  unfold step at stepped
  split at stepped
  · cases stepped
  · split at stepped <;> cases stepped
    have nothing : pump.unwritten = [] := drained rfl
    have empty : pump.outgoing = [] := (List.append_eq_nil_iff.mp nothing).2
    rw [nothing] at order
    exact ⟨by simpa [unwritten, inFlight, empty] using order, fun _ => empty, fun _ => rfl⟩
  next located =>
    split at stepped
    · next frame rest queued =>
        cases stepped
        refine ⟨?_, ?_, ?_⟩
        · simpa [unwritten, inFlight, located, queued] using order
        · simp [isEnded]
        · simp [running]
    · cases stepped
  next frame located =>
    cases stepped
    refine ⟨?_, ?_, ?_⟩
    · simpa [unwritten, inFlight, located] using order
    · simp [isEnded]
    · simp [running]
  · cases sends
  next located =>
    rw [unwritten_queued (by simp [located])] at order
    split at stepped
    · next empty =>
        split at stepped <;> cases stepped
        · exact ⟨order, fun _ => by simpa [unwritten, inFlight] using empty, fun _ => rfl⟩
        · exact ⟨order, by simp [isEnded], by simp [running]⟩
    · cases stepped
  next located =>
    rw [unwritten_queued (by simp [located])] at order
    cases stepped
    exact ⟨order, by simp [isEnded], by simp [running]⟩
  next located =>
    rw [unwritten_queued (by simp [located])] at order drained
    cases stepped
    exact ⟨order, fun _ => drained rfl, fun _ => rfl⟩
  next located =>
    rw [unwritten_queued (by simp [located])] at order drained
    cases stepped
    exact ⟨order, fun _ => drained rfl, fun _ => rfl⟩
  next located =>
    rw [unwritten_queued (by simp [located])] at order
    cases stepped
    exact ⟨order, by simp [isEnded], by simp [running]⟩
  · cases stepped

/-- A pump that still runs can write everything that it holds. -/
theorem Pump.drains {pump : Pump} {accepted : List Bytes} (conveys : pump.Conveys accepted)
    (running : pump.isEnded = false) :
    ∃ inputs after, pump.run inputs = some (after, []) ∧ after.isEnded = false ∧
      after.written = accepted := by
  have draining (queue : List Bytes) : ∀ pump : Pump, pump.location = .draining →
      pump.outgoing = queue → ∃ inputs after, pump.run inputs = some (after, []) ∧
        after.isEnded = false ∧ after.written = pump.written ++ queue := by
    induction queue with
    | nil =>
        intro pump located empty
        exact ⟨[], pump, rfl, by simp [isEnded, located], (List.append_nil _).symm⟩
    | cons frame rest ih =>
        intro pump located queued
        let popped : Pump := { pump with outgoing := rest, location := .sending frame }
        let written : Pump := { popped with written := pump.written ++ [frame], location := .draining }
        have pops : pump.step .pop = some (popped, []) := by simp [step, located, queued, popped]
        have writes : popped.step .sent = some (written, []) := rfl
        obtain ⟨inputs, after, ran, alive, ends⟩ := ih written rfl rfl
        refine ⟨.pop :: .sent :: inputs, after, ?_, alive, by simp [ends, written]⟩
        simp [run, pops, writes, ran]
  have returning (input : PumpInput) (back : Pump) (stepped : pump.step input = some (back, []))
      (located : back.location = .draining) (same : back.written ++ back.outgoing = accepted) :
      ∃ inputs after, pump.run inputs = some (after, []) ∧ after.isEnded = false ∧
        after.written = accepted := by
    obtain ⟨inputs, after, ran, alive, ends⟩ := draining back.outgoing back located rfl
    refine ⟨input :: inputs, after, ?_, alive, ends.trans same⟩
    simp [run, stepped, ran]
  have order := conveys.order
  cases located : pump.location with
  | draining =>
      obtain ⟨inputs, after, ran, alive, ends⟩ := draining _ pump located rfl
      exact ⟨inputs, after, ran, alive, by simpa [unwritten, inFlight, located, ends] using order.symm⟩
  | sending frame =>
      refine returning .sent { pump with written := pump.written ++ [frame], location := .draining }
        (by simp [step, located]) rfl ?_
      simpa [unwritten, inFlight, located] using order.symm
  | polling =>
      refine returning .timeout { pump with location := .draining } (by simp [step, located]) rfl ?_
      simpa [unwritten, inFlight, located] using order.symm
  | ended reason => simp [isEnded, located] at running

/-- No frame was accepted for a pump that does not exist. -/
def ConveysAt (accepted : List Bytes) : Option Pump → Prop
  | some pump => pump.Conveys accepted
  | none => accepted = []

/-- Every pump of this world conveys what its queue accepted. -/
def Conveyed (world : World Core) : Prop :=
  ∀ number, ConveysAt (acceptedBy number world.engine.log) world.net.pumps[number]?

/-- The mark of a dropped handle changes nothing that a pump conveys. -/
theorem conveys_dropHandle {net : Net} (stream : Option BiDiStreamHandle) {number : Nat}
    {accepted : List Bytes} (now : ConveysAt accepted net.pumps[number]?) :
    ConveysAt accepted (net.dropHandle stream).pumps[number]? := by
  unfold Net.dropHandle
  split
  · exact now
  next handle =>
    split
    · exact now
    next pump found =>
      by_cases same : handle.pump = number
      · subst same
        rw [found] at now
        simp only [Net.updatePump, List.getElem?_set_self (List.getElem?_eq_some_iff.mp found).1]
        exact ⟨now.order, now.ended, now.finished⟩
      · simpa only [Net.updatePump, List.getElem?_set_ne same] using now

/-- What no queue accepts changes nothing. -/
theorem acceptedBy_silent {log more : List Event} {number : Nat}
    (silent : ∀ event ∈ more, event.acceptedBy number = none) :
    acceptedBy number (log ++ more) = acceptedBy number log := by
  have nothing : more.filterMap (Event.acceptedBy number) = [] :=
    List.filterMap_eq_nil_iff.mpr silent
  simp [acceptedBy, nothing]

/-- The operation hands a frame to a stream. -/
def Op.isSendFrame : {A : Type} → Op Core A → Bool
  | _, .sendFrame .. => true
  | _, _ => false

/-- Any other operation hands over nothing. -/
theorem records_silent {A : Type} {op : Op Core A} (other : op.isSendFrame = false) {event : Event}
    (records : op.Records event) (number : Nat) : event.acceptedBy number = none := by
  cases op with
  | onAction reported => cases records; rfl
  | handling path message => cases records; rfl
  | sendFrame => cases other
  | core region => obtain ⟨call, rfl, -⟩ := records; rfl
  | _ => cases event <;> first | rfl | cases records

variable [ConstructCore Core] {config : EngineConfig}

theorem conveys_spawn {pumps : List Pump} {number : Nat} {accepted : List Bytes} (conn : Nat)
    (now : ConveysAt accepted pumps[number]?) :
    ConveysAt accepted (pumps ++ [({ conn } : Pump)])[number]? := by
  rcases Nat.lt_trichotomy number pumps.length with known | rfl | beyond
  · rwa [List.getElem?_append_left known]
  · have nothing : accepted = [] := by simpa [ConveysAt] using now
    subst nothing
    simp only [List.getElem?_append_right (Nat.le_refl _), Nat.sub_self, List.getElem?_cons_zero]
    exact ⟨rfl, fun _ => rfl, by simp⟩
  · rw [List.getElem?_eq_none (Nat.le_of_lt beyond)] at now
    rw [List.getElem?_eq_none (by simpa using Nat.succ_le_of_lt beyond)]
    exact now

/-- An accepted frame waits in the queue that accepted it. -/
theorem conveys_accepted {pump : Pump} {accepted : List Bytes} (frame : Bytes)
    (running : pump.isEnded = false) (now : pump.Conveys accepted) :
    ({ pump with outgoing := pump.outgoing ++ [frame] } : Pump).Conveys (accepted ++ [frame]) := by
  refine ⟨?_, fun ended => ?_, now.finished⟩
  · rw [now.order, List.append_assoc]
    simp [Pump.unwritten, Pump.inFlight]
  · exact absurd ended (by simpa [Pump.isEnded] using running)

theorem sendFrame_conveyed {site : SendSite} {handle : BiDiStreamHandle} {frame : Bytes}
    {choice : Choice} {world after : World Core} {value : Except EngineError Unit}
    (answered : exec config (.sendFrame site handle frame) choice world = some (value, after))
    (conveyed : Conveyed world) : Conveyed after := by
  intro number
  have now := conveyed number
  obtain ⟨-, rfl⟩ | ⟨pump, found, running, -, -, rfl⟩ := sendFrame_effect answered
  · have silent : acceptedBy number (world.engine.log ++ [.sent site handle frame false]) =
        acceptedBy number world.engine.log :=
      acceptedBy_silent (by simp [Event.acceptedBy])
    simpa only [Engine.record, silent] using now
  by_cases same : handle.pump = number
  · subst same
    rw [found] at now
    have grown : acceptedBy handle.pump (world.engine.log ++ [.sent site handle frame true]) =
        acceptedBy handle.pump world.engine.log ++ [frame] := by
      simp [acceptedBy, Event.acceptedBy]
    simp only [Engine.record, Net.updatePump, grown,
      List.getElem?_set_self (List.getElem?_eq_some_iff.mp found).1]
    exact conveys_accepted frame running now
  · have silent : acceptedBy number (world.engine.log ++ [.sent site handle frame true]) =
        acceptedBy number world.engine.log :=
      acceptedBy_silent (by simp [Event.acceptedBy, same])
    simpa only [Engine.record, Net.updatePump, silent, List.getElem?_set_ne same] using now

/-- Only an accepted frame changes what a queue accepted. -/
theorem exec_conveyed {A : Type} {op : Op Core A} {choice : Choice} {world after : World Core}
    {value : A} (answered : exec config op choice world = some (value, after))
    (conveyed : Conveyed world) : Conveyed after := by
  by_cases sends : op.isSendFrame = true
  · cases op with
    | sendFrame site handle frame => exact sendFrame_conveyed answered conveyed
    | _ => cases sends
  intro number
  have now := conveyed number
  obtain ⟨more, grown, records⟩ := exec_records answered
  rw [grown, acceptedBy_silent fun event member =>
    records_silent (Bool.eq_false_iff.mpr sends) (records event member) _]
  clear grown records
  cases op with
  | sendFrame => exact absurd rfl sends
  | spawnPump conn => cases answered; exact conveys_spawn conn now
  | streamWrite stream => cases answered; exact conveys_dropHandle _ now
  | _ =>
      rw [(exec_surrounds answered).pumps rfl]
      exact now

/-- This move lets an H3 stream refuse data. -/
def Move.sendFails : Move → Bool
  | .pump _ input => input.isSendFailure
  | _ => false

/-- A pump ends only when nothing is left in its queue and no frame is in flight. -/
def EndsDrained (world : World Core) : Move → Prop
  | .pump number input =>
      input.abandons = true → ∀ pump ∈ world.net.pumps[number]?, pump.unwritten = []
  | _ => True

instance (world : World Core) (move : Move) : Decidable (EndsDrained world move) :=
  match move with
  | .pump number input => inferInstanceAs
      (Decidable (input.abandons = true → ∀ pump ∈ world.net.pumps[number]?, pump.unwritten = []))
  | .driverExits _ | .dispatch _ | .retryDue _ | .tick _ => isTrue trivial

/-- In these runs the H3 streams accept every send. -/
def sendingPromise (Core : Type) [ConstructCore Core] (config : EngineConfig) :
    (engineMachine Core config).Promise where
  answers _ _ _ := True
  moves move _ := move.sendFails = false

/-- In these runs no pump is moreover ended while a frame is in flight or waits in its queue. -/
def drainPromise (Core : Type) [ConstructCore Core] (config : EngineConfig) :
    (engineMachine Core config).Promise where
  answers _ _ _ := True
  moves move world := move.sendFails = false ∧ EndsDrained world move

instance (A : Type) (op : Op Core A) (choice : Choice) (world : World Core) :
    Decidable ((sendingPromise Core config).answers op choice world) := isTrue trivial

instance (move : Move) (world : World Core) :
    Decidable ((sendingPromise Core config).moves move world) :=
  inferInstanceAs (Decidable (_ = _))

instance (A : Type) (op : Op Core A) (choice : Choice) (world : World Core) :
    Decidable ((drainPromise Core config).answers op choice world) := isTrue trivial

instance (move : Move) (world : World Core) :
    Decidable ((drainPromise Core config).moves move world) :=
  inferInstanceAs (Decidable (_ ∧ EndsDrained world move))

theorem conveyed_stable : Stable (drainPromise Core config) Conveyed := by
  rintro move world after conveyed ⟨sends, drained⟩ moved
  obtain ⟨net, done, rfl⟩ := moveWorld_some moved
  intro number
  have now := conveyed number
  cases move with
  | pump target input =>
      simp only [moveNet, Net.movePump, Option.bind_eq_bind, Option.bind_eq_some_iff,
        Option.pure_def, Option.some.injEq] at done
      obtain ⟨pump, found, ⟨stepped, frames⟩, step, rfl⟩ := done
      by_cases same : target = number
      · subst same
        rw [found] at now
        have conveys := Pump.step_conveys step sends (fun abandons => drained abandons pump found) now
        simp only [Net.updatePump, List.getElem?_set_self (List.getElem?_eq_some_iff.mp found).1]
        split
        · exact ⟨conveys.order, conveys.ended, conveys.finished⟩
        · exact conveys
      · simpa only [Net.updatePump, List.getElem?_set_ne same] using now
  | driverExits conn =>
      simp only [moveNet, Net.driverExits] at done
      split at done <;> cases done
      exact now
  | dispatch event =>
      simp only [moveNet, Net.dispatch, Option.some.injEq] at done
      subst done
      split <;> exact now
  | retryDue index =>
      obtain ⟨frame, rfl⟩ := retryDue_some done
      exact now
  | tick millis => cases done; exact now

/-- In these runs every accepted frame is written once and in order: what a pump has not written
yet is in flight or waits in its queue, a running pump can write all of it, and a pump that ended or
finished its stream wrote everything. -/
theorem accepted_written [Prost] {engine : Engine Core} (created : Engine.new config = .ok engine)
    {world : World Core} {later : EngineM Core Unit}
    (reached : Reaches (drainPromise Core config) (startWorld engine, eventLoop config)
      (world, later)) (number : Nat) (pump : Pump) (found : world.net.pumps[number]? = some pump) :
    acceptedBy number world.engine.log = pump.written ++ pump.inFlight ++ pump.outgoing ∧
      (pump.isEnded = false → ∃ inputs after, pump.run inputs = some (after, []) ∧
        after.isEnded = false ∧ after.written = acceptedBy number world.engine.log) ∧
      (pump.isEnded = true ∨ pump.finished = true →
        pump.written = acceptedBy number world.engine.log) := by
  obtain ⟨core, rfl⟩ := Engine.new_fresh created
  have conveyed : Conveyed world := by
    refine reaches_invariant Conveyed conveyed_stable ?_ (fun number => ?_) reached
    · exact fun op choice world value after now _ answered => exec_conveyed answered now
    · exact (rfl : acceptedBy number [] = [])
  have conveys : pump.Conveys (acceptedBy number world.engine.log) := by
    have now := conveyed number
    rwa [found] at now
  refine ⟨conveys.order.trans (List.append_assoc _ _ _).symm,
    fun running => Pump.drains conveys running, fun quit => ?_⟩
  have ended : pump.isEnded = true := quit.elim id conveys.finished
  rw [conveys.order, conveys.ended ended, List.append_nil]

/-- The stream opens and accepts a message, and the platform closes it. -/
def closedStream (moves : List Move) : List (rehearsalMachine (rehearsalConfig [1] none)).Input :=
  rehearsal (rehearsalConfig [1] none)
    [.openMessageStream ["c"] none, .sendMessage "alice" [1, 2] "l1" "alice" .normal,
      .closeMessageStream]
    (List.replicate 38 { opened := { recvResponse := .ok ⟨200, "200 OK"⟩ } }) moves

/-- The close aborts the pump, and the frame in its queue is never written. -/
theorem accepted_written_fails :
    ¬ ∀ world later, Reaches (sendingPromise RehearsalCore (rehearsalConfig [1] none))
      (rehearsalStart (rehearsalConfig [1] none) (some ⟨[], []⟩)) (world, later) →
      ∀ pump ∈ world.net.pumps[0]?, pump.isEnded = true →
        pump.written = acceptedBy 0 world.engine.log := by
  intro written
  have claimed := written _ _ (rehearsed_reaches (by decide +kernel :
    AllAllowed (sendingPromise RehearsalCore (rehearsalConfig [1] none)) _
      (closedStream [.pump 0 .abort])))
  exact absurd claimed (by decide +kernel)

/-- The pump writes the frame before the abort comes. -/
theorem accepted_written_drained :
    ∃ pump, (rehearsed (rehearsalConfig [1] none) (some ⟨[], []⟩)
        (closedStream [.pump 0 .pop, .pump 0 .sent, .pump 0 .abort])).1.net.pumps[0]? = some pump ∧
      pump.isEnded = true ∧ pump.written.length = 1 ∧
      pump.written = acceptedBy 0 (rehearsed (rehearsalConfig [1] none) (some ⟨[], []⟩)
        (closedStream [.pump 0 .pop, .pump 0 .sent, .pump 0 .abort])).1.engine.log := by
  have found : ∃ pump, (rehearsed (rehearsalConfig [1] none) (some ⟨[], []⟩)
      (closedStream [.pump 0 .pop, .pump 0 .sent, .pump 0 .abort])).1.net.pumps[0]? = some pump ∧
      pump.isEnded = true ∧ pump.written.length = 1 :=
    ⟨_, rfl, by decide +kernel, by decide +kernel⟩
  obtain ⟨pump, stored, ended, written⟩ := found
  have kept := accepted_written (rehearsal_with_core [] none)
    (rehearsed_reaches (by decide +kernel)) 0 pump stored
  exact ⟨pump, stored, ended, written, kept.2.2 (.inl ended)⟩

end ConstructEngine
