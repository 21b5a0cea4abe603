import Mathlib.Data.Multiset.AddSub
import Mathlib.Data.Multiset.MapFold
import ConstructEngine.Interaction.Monitor
import ConstructEngine.Proof.Turn

namespace ConstructEngine

open Interaction Program Machine

variable {Core A : Type}

/-- The loop works on a delayed retry or on something else. Every message for the responder that
does not come from a retry arrives from outside. -/
structure Arrivals where
  retrying : Bool
  arrived : List IncomingMessage

/-- A message for the responder arrives unless a retry brings it. -/
def Arrivals.take (arrivals : Arrivals) : ReceivePath → IncomingMessage → Arrivals
  | .sessionInitResponder, message =>
      if arrivals.retrying then arrivals
      else { arrivals with arrived := arrivals.arrived ++ [message] }
  | _, _ => arrivals

/-- What is taken does not change whether a retry is in hand. -/
theorem Arrivals.take_retrying (arrivals : Arrivals) (path : ReceivePath) (message : IncomingMessage) :
    (arrivals.take path message).retrying = arrivals.retrying := by
  unfold Arrivals.take
  split
  · split <;> rfl
  · rfl

/-- The other paths take no message for the responder. -/
theorem Arrivals.take_other {path : ReceivePath} (other : path ≠ .sessionInitResponder)
    (arrivals : Arrivals) (message : IncomingMessage) : arrivals.take path message = arrivals := by
  cases path <;> first | rfl | exact absurd rfl other

/-- Only a retry has no pump. -/
def Net.nextIsRetry (net : Net) : Bool := net.frames.head?.any fun frame => frame.origin.isNone

/-- The selection shows whether a retry is in hand, and the handlers take messages. -/
def Op.arrivals : {A : Type} → Op Core A → World Core → A → Arrivals → Arrivals
  | _, .select _, world, .frame _, arrivals => { arrivals with retrying := world.net.nextIsRetry }
  | _, .select _, _, _, arrivals => { arrivals with retrying := false }
  | _, .handling path message, _, _, arrivals => arrivals.take path message
  | _, _, _, _, arrivals => arrivals

/-- These retries wait for their time or in the queue of the loop. -/
def Net.pending (net : Net) : Multiset Bytes :=
  (net.retries.map Retry.frame : List Bytes) +
    ((net.frames.filter fun frame => frame.origin.isNone).map QueuedFrame.frame : List Bytes)

/-- A retry that becomes due stays pending, and a frame of a pump is no retry. -/
theorem pending_moves {config : EngineConfig} {recorded : Nat} {move : Move} {net after : Net}
    (moved : moveNet config recorded move net = some after) : after.pending = net.pending := by
  cases move with
  | driverExits conn =>
      simp only [moveNet, Net.driverExits] at moved
      split at moved <;> cases moved
      rfl
  | pump number input =>
      simp only [moveNet, Net.movePump, Option.bind_eq_bind, Option.bind_eq_some_iff,
        Option.pure_def, Option.some.injEq] at moved
      obtain ⟨pump, _, ⟨stepped, frames⟩, _, rfl⟩ := moved
      simp [Net.pending, Net.updatePump, List.filter_append, List.filter_map, Function.comp_def]
  | dispatch event =>
      simp only [moveNet, Net.dispatch, Option.some.injEq] at moved
      subst moved
      split <;> rfl
  | retryDue index =>
      obtain ⟨retry, found, delivered⟩ := Option.bind_eq_some_iff.mp moved
      obtain ⟨_, -, same⟩ := Option.bind_eq_some_iff.mp delivered
      obtain ⟨bound, rfl⟩ := List.getElem?_eq_some_iff.mp found
      cases same
      have waiting := (List.getElem_cons_eraseIdx_perm bound).map Retry.frame
      simp only [Net.pending, ← Multiset.coe_eq_coe.mpr waiting, List.filter_append, List.map_append,
        List.map_cons, Multiset.coe_add, Multiset.coe_eq_coe, ← List.append_assoc]
      exact List.perm_append_singleton _ _
  | tick millis =>
      cases moved
      rfl

/-- The engine owns its own state, the arrivals, and the retries whatever their place is. -/
structure Inbox (Core : Type) where
  engine : Engine Core
  arrivals : Arrivals
  pending : Multiset Bytes

section
variable [ConstructCore Core]

/-- The arrivals follow the operations. -/
def arrivalLedger (Core : Type) [ConstructCore Core] (config : EngineConfig) :
    (engineMachine Core config).Ledger Arrivals := ⟨Op.arrivals⟩

/-- This is the engine with the arrivals next to its state. -/
abbrev arrivalMachine (Core : Type) [ConstructCore Core] (config : EngineConfig) : Machine (Op Core) :=
  (engineMachine Core config).monitored (arrivalLedger Core config)

/-- A move of the environment takes nothing from the inbox. -/
def inboxOwned (Core : Type) [ConstructCore Core] (config : EngineConfig) :
    (arrivalMachine Core config).Owned (Inbox Core) where
  view state := ⟨state.1.engine, state.2, state.1.net.pending⟩
  kept move state after moved := by
    obtain ⟨done, same⟩ := monitored_move moved
    obtain ⟨net, stepped, world⟩ := moveWorld_some done
    rw [world, same, pending_moves stepped]

/-- These operations take nothing up, and they touch neither the arrivals nor the retries. -/
def Aloof (topic : Topic) : Prop := topic ≠ .selection ∧ topic ≠ .handling ∧ topic ≠ .retry

omit [ConstructCore Core] in
/-- Such an operation brings nothing in. -/
theorem arrivals_aloof {op : Op Core A} (aloof : Aloof op.topic) (world : World Core) (value : A)
    (arrivals : Arrivals) : op.arrivals world value arrivals = arrivals := by
  cases op with
  | select => exact absurd rfl aloof.1
  | handling => exact absurd rfl aloof.2.1
  | _ => rfl

/-- Outside of the selection and the retries, the pending retries stay. -/
theorem pending_exec {config : EngineConfig} {op : Op Core A} (selection : op.topic ≠ .selection)
    (retry : op.topic ≠ .retry) {choice : Choice} {world after : World Core} {value : A}
    (answered : exec config op choice world = some (value, after)) :
    after.net.pending = world.net.pending := by
  have queues := exec_queues (takes_of_topic selection) answered
  simp only [Net.pending, queues.frames, exec_retries retry answered]

variable {config : EngineConfig} {promise : (arrivalMachine Core config).Promise}
  {guard : (arrivalMachine Core config).Guard} {B : Type} {result : B → Inbox Core → Prop}
  {inbox : Inbox Core}

/-- The program is safe when it begins with this inbox. -/
abbrev InboxSafe (promise : (arrivalMachine Core config).Promise)
    (guard : (arrivalMachine Core config).Guard) (program : EngineM Core A)
    (result : A → Inbox Core → Prop) (inbox : Inbox Core) : Prop :=
  (inboxOwned Core config).Safe promise guard program result inbox

/-- Most operations change the engine alone. -/
theorem inbox_bind {op : Op Core A} {rest : A → EngineM Core B} (aloof : Aloof op.topic)
    (guarded : ∀ state, guard op state)
    (later : ∀ world choice value after, world.engine = inbox.engine →
      promise.answers op choice (world, inbox.arrivals) →
      exec config op choice world = some (value, after) →
      InboxSafe promise guard (rest value) result { inbox with engine := after.engine }) :
    InboxSafe promise guard (perform op >>= rest) result inbox := by
  refine Owned.safe_step (fun state _ => guarded state) fun state choice value after same kept answered => ?_
  obtain ⟨world, arrivals⟩ := state
  obtain ⟨after, written⟩ := after
  obtain ⟨done, wrote⟩ := monitored_exec answered
  cases same
  have safe := later world choice value after rfl kept done
  have wrote : written = arrivals := wrote.trans (arrivals_aloof aloof world value arrivals)
  change InboxSafe promise guard (rest value) result ⟨after.engine, written, after.net.pending⟩
  rw [wrote, pending_exec aloof.1 aloof.2.2 done]
  exact safe

/-- A section of the core changes the core and the trace. -/
theorem inbox_section {region : CoreSection Core A} {rest : A → EngineM Core B}
    (guarded : ∀ state, guard (.core region) state)
    (later : InboxSafe promise guard (rest (region.run inbox.engine.core).1) result { inbox with
      engine := ({ inbox.engine with core := (region.run inbox.engine.core).2.1 }).recordCalls
        (region.run inbox.engine.core).2.2 }) :
    InboxSafe promise guard (perform (.core region) >>= rest) result inbox := by
  have aloof : Aloof (Op.core region).topic := by cases region <;> simp [Aloof, Op.topic, CoreSection.topic]
  refine inbox_bind aloof guarded fun world choice value after same _ answered => ?_
  cases answered
  rw [same]
  exact later

/-- An action adds to the trace. -/
theorem inbox_action {action : PlatformAction} {rest : Unit → EngineM Core B}
    (guarded : ∀ state, guard (.onAction action) state)
    (later : InboxSafe promise guard (rest ()) result
      { inbox with engine := inbox.engine.record (.action action) }) :
    InboxSafe promise guard (onAction action >>= rest) result inbox := by
  refine Owned.safe_step (fun state _ => guarded state) fun state choice value after same kept answered => ?_
  obtain ⟨world, arrivals⟩ := state
  obtain ⟨after, written⟩ := after
  obtain ⟨done, wrote⟩ := monitored_exec answered
  cases same
  cases done
  cases wrote
  exact later

/-- A message that a handler takes up may be an arrival. -/
theorem inbox_handling {path : ReceivePath} {message : IncomingMessage} {rest : Unit → EngineM Core B}
    (guarded : ∀ state, (inboxOwned Core config).view state = inbox →
      guard (.handling path message) state)
    (later : InboxSafe promise guard (rest ()) result ⟨inbox.engine.record (.handling path message),
      inbox.arrivals.take path message, inbox.pending⟩) :
    InboxSafe promise guard (perform (.handling path message) >>= rest) result inbox := by
  refine Owned.safe_step guarded fun state choice value after same kept answered => ?_
  obtain ⟨world, arrivals⟩ := state
  obtain ⟨after, written⟩ := after
  obtain ⟨done, wrote⟩ := monitored_exec answered
  cases same
  cases done
  cases wrote
  exact later

/-- The spawned retry stays pending until the loop takes it up. -/
theorem inbox_retry {retryAfterMs : Nat} {frame : Bytes} {result : Unit → Inbox Core → Prop}
    (guarded : ∀ state, guard (.spawnRetry retryAfterMs frame) state)
    (now : result () { inbox with pending := frame ::ₘ inbox.pending }) :
    InboxSafe promise guard (perform (.spawnRetry retryAfterMs frame)) result inbox := by
  refine Owned.safe_perform (fun state _ => guarded state) fun state choice value after same _ answered => ?_
  obtain ⟨world, arrivals⟩ := state
  obtain ⟨after, written⟩ := after
  obtain ⟨done, wrote⟩ := monitored_exec answered
  cases same
  cases done
  cases wrote
  have spawned : (Net.pending { world.net with
      retries := world.net.retries ++ [⟨world.net.clock + retryAfterMs, frame⟩] }) =
      frame ::ₘ world.net.pending := by
    simp only [Net.pending, List.map_append, List.map_cons, List.map_nil, Multiset.coe_add,
      Multiset.cons_coe, Multiset.coe_eq_coe, List.append_assoc, List.singleton_append]
    exact List.perm_middle
  change result () ⟨world.engine, arrivals, _⟩
  rw [spawned]
  exact now

/-- A program of these topics keeps what each of its operations keeps, and the inbox beside it. -/
theorem concerns_inbox {topics : Topic → Prop} (holds : Engine Core → Prop)
    (aloof : ∀ topic, Engages topics topic → Aloof topic)
    (each : ∀ {C : Type} (op : Op Core C) choice world value after, Engages topics op.topic →
      exec config op choice world = some (value, after) → holds world.engine → holds after.engine)
    (guarded : ∀ {C : Type} (op : Op Core C) state, Engages topics op.topic → guard op state)
    {program : EngineM Core A} (concerns : Concerns topics program) (now : holds inbox.engine) :
    InboxSafe promise guard program (fun _ after => holds after.engine ∧
      after.arrivals = inbox.arrivals ∧ after.pending = inbox.pending) inbox := by
  refine Owned.safe_of_uses (fun after : Inbox Core => holds after.engine ∧
    after.arrivals = inbox.arrivals ∧ after.pending = inbox.pending)
    (fun op state engages _ => guarded op state engages) ?_ concerns ⟨now, rfl, rfl⟩
  intro C op choice state value after engages before _ answered
  obtain ⟨world, arrivals⟩ := state
  obtain ⟨after, written⟩ := after
  obtain ⟨done, wrote⟩ := monitored_exec answered
  obtain ⟨kept, arrived, pending⟩ := before
  have aside := aloof _ engages
  refine ⟨each op choice world value after engages done kept, ?_, ?_⟩
  · exact (wrote.trans (arrivals_aloof aside world value arrivals)).trans arrived
  · exact (pending_exec aside.1 aside.2.2 done).trans pending

/-- What every step of a run establishes about the trace holds at the end of the program. -/
theorem InboxSafe.within {property : List Event → Prop} {program : EngineM Core B}
    (safe : InboxSafe (promise.within fun state => property state.1.engine.log) guard program result inbox)
    (now : property inbox.engine.log) :
    InboxSafe (promise.within fun state => property state.1.engine.log) guard program
      (fun value after => result value after ∧ property after.engine.log) inbox := by
  rintro state rfl
  exact (safe state rfl).within now

end

end ConstructEngine
