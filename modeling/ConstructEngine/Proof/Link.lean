import ConstructEngine.Proof.Effect
import ConstructEngine.Proof.Loop

namespace ConstructEngine

open Interaction Program Machine

variable {Core : Type} [ConstructCore Core] {config : EngineConfig}

def Op.borrowsConnected : {A : Type} → Op Core A → Bool
  | _, .connectedBorrow => true
  | _, _ => false

/-- Every selection of the loop must find the assertion true. -/
def selectGuard (config : EngineConfig) (assertion : World Core → Prop) :
    (engineMachine Core config).Guard := fun op world =>
  match op with
  | .select _ => assertion world
  | _ => True

theorem selectGuard_of_kind {assertion : World Core → Prop} {A : Type} {op : Op Core A}
    (kind : op.kind ≠ .loop) (world : World Core) : selectGuard config assertion op world := by
  cases op with
  | select refreshArmed => exact absurd rfl kind
  | _ => trivial

/-- Two worlds have the same connection when no attempt, drop or exit came between them. -/
structure SameConnection (world after : World Core) : Prop where
  h3 : after.engine.h3 = world.engine.h3
  phase : after.engine.phase = world.engine.phase
  drivers : after.net.drivers = world.net.drivers
  connected : after.net.connected = world.net.connected

/-- These operations attempt, store, publish or drop a connection. -/
def Op.relinks : {A : Type} → Op Core A → Bool
  | _, .connectBegin | _, .quicConnect | _, .h3Store .. | _, .connectedSend | _, .h3Drop => true
  | _, _ => false

omit [ConstructCore Core] in
theorem relinks_of_kind {A : Type} {op : Op Core A} (elsewhere : op.kind ≠ .transport) :
    op.relinks = false := by
  cases op <;> first | rfl | exact absurd rfl elsewhere

/-- Every other operation leaves the connection alone. -/
theorem exec_connection {A : Type} {op : Op Core A} {choice : Choice} {world after : World Core}
    {value : A} (answered : exec config op choice world = some (value, after))
    (elsewhere : op.relinks = false) : SameConnection world after := by
  have apart : op.writes .h3 = false ∧ op.writes .phase = false ∧ op.disturbs .drivers = false ∧
      op.disturbs .connected = false := by
    cases op <;> first | exact ⟨rfl, rfl, rfl, rfl⟩ | cases elsewhere
  have frame := exec_frame answered
  have surrounds := exec_surrounds answered
  exact ⟨frame.h3 apart.1, frame.phase apart.2.1, surrounds.drivers apart.2.2.1,
    surrounds.connected apart.2.2.2⟩

/-- Only the exit of a driver changes the drivers and the watch. -/
theorem moveNet_link {recorded : Nat} {move : Move} {net after : Net}
    (moved : moveNet config recorded move net = some after) :
    (∃ conn, move = .driverExits conn ∧ after.drivers = net.drivers.filter (· ≠ conn) ∧
      after.connected = net.connected.send false) ∨
    after.drivers = net.drivers ∧ after.connected = net.connected := by
  cases move with
  | driverExits conn =>
      simp only [moveNet, Net.driverExits] at moved
      split at moved <;> cases moved
      exact .inl ⟨conn, rfl, rfl, rfl⟩
  | pump number input =>
      simp only [moveNet, Net.movePump, Option.bind_eq_bind, Option.bind_eq_some_iff,
        Option.pure_def, Option.some.injEq] at moved
      obtain ⟨pump, _, ⟨stepped, frames⟩, _, rfl⟩ := moved
      exact .inr ⟨rfl, rfl⟩
  | dispatch event =>
      simp only [moveNet, Net.dispatch, Option.some.injEq] at moved
      subst moved
      split <;> exact .inr ⟨rfl, rfl⟩
  | retryDue index =>
      obtain ⟨frame, rfl⟩ := retryDue_some moved
      exact .inr ⟨rfl, rfl⟩
  | tick millis =>
      cases moved
      exact .inr ⟨rfl, rfl⟩

/-- The environment gives out no number of a connection. -/
theorem nextConn_moves {recorded : Nat} {move : Move} {net after : Net}
    (moved : moveNet config recorded move net = some after) : after.nextConn = net.nextConn := by
  cases move with
  | driverExits conn =>
      simp only [moveNet, Net.driverExits] at moved
      split at moved <;> cases moved
      rfl
  | pump number input =>
      simp only [moveNet, Net.movePump, Option.bind_eq_bind, Option.bind_eq_some_iff,
        Option.pure_def, Option.some.injEq] at moved
      obtain ⟨pump, _, ⟨stepped, frames⟩, _, rfl⟩ := moved
      rfl
  | dispatch event =>
      simp only [moveNet, Net.dispatch, Option.some.injEq] at moved
      subst moved
      split <;> rfl
  | retryDue index =>
      obtain ⟨frame, rfl⟩ := retryDue_some moved
      rfl
  | tick millis =>
      cases moved
      rfl

end ConstructEngine
