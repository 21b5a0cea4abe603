import ConstructEngine.Interaction.Program

namespace Interaction

universe u

/-- A machine answers the operations of one program while its environment moves.
An operation that answers `none` blocks, and a move that answers `none` is not possible. -/
structure Machine (Op : Type → Type u) where
  State : Type
  Choice : Type
  Move : Type
  exec : {B : Type} → Op B → Choice → State → Option (B × State)
  move : Move → State → Option State

open Relation (ReflTransGen)

variable {Op : Type → Type u} {A C : Type}

/-- A promise limits the answers and the moves that the environment gives. -/
structure Machine.Promise (machine : Machine Op) where
  answers : {B : Type} → Op B → machine.Choice → machine.State → Prop
  moves : machine.Move → machine.State → Prop

namespace Machine

variable (machine : Machine Op)

/-- The environment of this promise is unrestricted. -/
def Promise.any : machine.Promise := ⟨fun _ _ _ => True, fun _ _ => True⟩

/-- A configuration holds the state and what remains of the program. -/
abbrev Configuration (A : Type) := machine.State × Program Op A

variable {machine}

/-- One step is an environment move, one answered operation, or one turn of a loop. -/
inductive Step (promise : machine.Promise) :
    machine.Configuration A → machine.Configuration A → Prop
  | move {state after : machine.State} {program : Program Op A} (move : machine.Move)
      (kept : promise.moves move state) (moved : machine.move move state = some after) :
      Step promise (state, program) (after, program)
  | answer {B : Type} {state after : machine.State} {op : Op B} {next : B → Program Op A} {value : B}
      (choice : machine.Choice) (kept : promise.answers op choice state)
      (answered : machine.exec op choice state = some (value, after)) :
      Step promise (state, .ask op next) (after, next value)
  | turn {B S : Type} {state : machine.State} {body : S → Program Op (S ⊕ B)} {start : S}
      {next : B → Program Op A} :
      Step promise (state, .loop body start next)
        (state, (body start).bind (Program.turn body next))

/-- A configuration reaches every configuration at the end of some run. -/
abbrev Reaches (promise : machine.Promise) :
    machine.Configuration A → machine.Configuration A → Prop :=
  ReflTransGen (Step promise)

/-- The environment chooses one of these inputs at each step of an execution. -/
inductive Input (machine : Machine Op) where
  | move (move : machine.Move)
  | answer (choice : machine.Choice)

/-- An input that is not possible leaves the configuration as it is. -/
def advance (input : machine.Input) (config : machine.Configuration A) :
    machine.Configuration A :=
  match input with
  | .move move => ((machine.move move config.1).getD config.1, config.2)
  | .answer choice =>
      match config.2 with
      | .done _ => config
      | .ask op next =>
          match machine.exec op choice config.1 with
          | some (value, after) => (after, next value)
          | none => config
      | .loop body start next => (config.1, (body start).bind (Program.turn body next))

/-- The inputs come one after the other. -/
def run (config : machine.Configuration A) (inputs : List machine.Input) :
    machine.Configuration A :=
  inputs.foldl (fun config input => advance input config) config

/-- The promise allows this input in this configuration. -/
def Allowed (promise : machine.Promise) (input : machine.Input)
    (config : machine.Configuration A) : Prop :=
  match input with
  | .move move => promise.moves move config.1
  | .answer choice =>
      match config.2 with
      | .ask op _ => promise.answers op choice config.1
      | _ => True

/-- Each input keeps the promise where it comes. -/
def AllAllowed (promise : machine.Promise) (config : machine.Configuration A) :
    List machine.Input → Prop
  | [] => True
  | input :: rest => Allowed promise input config ∧ AllAllowed promise (advance input config) rest

section
variable {promise : machine.Promise}
  [decAnswers : ∀ (B : Type) (op : Op B) choice state, Decidable (promise.answers op choice state)]
  [decMoves : ∀ move state, Decidable (promise.moves move state)]

instance decidableAllowed (input : machine.Input) (config : machine.Configuration A) :
    Decidable (Allowed promise input config) :=
  match input, config with
  | .move move, (state, _) => decMoves move state
  | .answer choice, (state, .ask op _) => decAnswers _ op choice state
  | .answer _, (_, .done _) => isTrue trivial
  | .answer _, (_, .loop ..) => isTrue trivial

instance decidableAllAllowed : (inputs : List machine.Input) → (config : machine.Configuration A) →
    Decidable (AllAllowed promise config inputs)
  | [], _ => isTrue trivial
  | input :: rest, config =>
      @instDecidableAnd _ _ (decidableAllowed input config) (decidableAllAllowed rest _)

end

theorem advance_reaches {promise : machine.Promise} {input : machine.Input}
    {config : machine.Configuration A} (allowed : Allowed promise input config) :
    Reaches promise config (advance input config) := by
  rcases config with ⟨state, program⟩
  cases input with
  | move move =>
      cases moved : machine.move move state with
      | none => simp only [advance, moved]; exact ReflTransGen.refl
      | some after =>
          simp only [advance, moved]
          exact ReflTransGen.single (Step.move move allowed moved)
  | answer choice =>
      cases program with
      | done value => exact ReflTransGen.refl
      | ask op next =>
          cases answered : machine.exec op choice state with
          | none => simp only [advance, answered]; exact ReflTransGen.refl
          | some result =>
              simp only [advance, answered]
              exact ReflTransGen.single (Step.answer choice allowed answered)
      | loop body start next => exact ReflTransGen.single Step.turn

/-- An executed run is a run of the machine. -/
theorem run_reaches {promise : machine.Promise} {inputs : List machine.Input}
    {config : machine.Configuration A} (allowed : AllAllowed promise config inputs) :
    Reaches promise config (run config inputs) := by
  induction inputs generalizing config with
  | nil => exact ReflTransGen.refl
  | cons input rest ih => exact ReflTransGen.trans (advance_reaches allowed.1) (ih allowed.2)

theorem allAllowed_any (inputs : List machine.Input) (config : machine.Configuration A) :
    AllAllowed (Promise.any machine) config inputs := by
  induction inputs generalizing config with
  | nil => trivial
  | cons input rest ih =>
      refine ⟨?_, ih _⟩
      unfold Allowed
      split
      · trivial
      · split <;> trivial

end Machine

end Interaction
