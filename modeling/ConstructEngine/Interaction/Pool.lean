import ConstructEngine.Interaction.Owned

namespace Interaction

open Relation (ReflTransGen)

universe u

/-- A pool runs the programs of its tasks on one shared state, one operation at a time. An answered
operation can start another task. -/
structure Pool (Op : Type → Type u) (Task : Type) where
  State : Type
  Choice : Type
  exec : {B : Type} → Task → Op B → Choice → State → Option (B × State)
  starts : {B : Type} → Op B → B → Option Task
  body : Task → Program Op Unit

variable {Op : Type → Type u} {Task : Type}

/-- A promise limits the tasks that are called and the answers that are given. -/
structure Pool.Promise (pool : Pool Op Task) where
  calls : Task → pool.State → Prop
  answers : {B : Type} → Task → Op B → pool.Choice → pool.State → Prop

namespace Pool

/-- Each task stays in the pool with what remains of its program. -/
structure Configuration (pool : Pool Op Task) where
  state : pool.State
  tasks : List (Task × Program Op Unit)

variable {pool : Pool Op Task}

/-- These are the tasks that an operation adds. -/
def started (pool : Pool Op Task) {B : Type} (op : Op B) (value : B) :
    List (Task × Program Op Unit) :=
  ((pool.starts op value).map fun task => (task, pool.body task)).toList

@[simp] theorem started_tasks {B : Type} (op : Op B) (value : B) :
    (pool.started op value).map Prod.fst = (pool.starts op value).toList := by
  unfold started
  cases pool.starts op value <;> rfl

/-- A task that is added starts with its own program. -/
theorem mem_started {B : Type} {op : Op B} {value : B} {entry : Task × Program Op Unit} :
    entry ∈ pool.started op value ↔ ∃ task ∈ pool.starts op value, entry = (task, pool.body task) := by
  unfold started
  cases pool.starts op value <;> simp

inductive Step (promise : pool.Promise) : pool.Configuration → pool.Configuration → Prop
  | call {state : pool.State} {tasks : List (Task × Program Op Unit)} (task : Task)
      (kept : promise.calls task state) :
      Step promise ⟨state, tasks⟩ ⟨state, tasks ++ [(task, pool.body task)]⟩
  | answer {B : Type} {state after : pool.State} {before later : List (Task × Program Op Unit)}
      {task : Task} {op : Op B} {next : B → Program Op Unit} {value : B} (choice : pool.Choice)
      (kept : promise.answers task op choice state)
      (answered : pool.exec task op choice state = some (value, after)) :
      Step promise ⟨state, before ++ (task, .ask op next) :: later⟩
        ⟨after, before ++ (task, next value) :: (later ++ pool.started op value)⟩
  | turn {B S : Type} {state : pool.State} {before later : List (Task × Program Op Unit)} {task : Task}
      {body : S → Program Op (S ⊕ B)} {start : S} {next : B → Program Op Unit} :
      Step promise ⟨state, before ++ (task, .loop body start next) :: later⟩
        ⟨state, before ++ (task, (body start).bind (Program.turn body next)) :: later⟩

/-- A run takes step after step. -/
abbrev Reaches (promise : pool.Promise) : pool.Configuration → pool.Configuration → Prop :=
  ReflTransGen (Step promise)

/-- The monitored pool writes a note about every answered operation next to the state and does not use
it. -/
abbrev monitored {Note : Type} (pool : Pool Op Task)
    (write : {B : Type} → Task → Op B → pool.State → B → Note → Note) : Pool Op Task where
  State := pool.State × Note
  Choice := pool.Choice
  exec task op choice state := (pool.exec task op choice state.1).map fun (value, after) =>
    (value, after, write task op state.1 value state.2)
  starts := pool.starts
  body := pool.body

theorem monitored_exec {Note B : Type} {write : {B : Type} → Task → Op B → pool.State → B → Note → Note}
    {task : Task} {op : Op B} {choice : pool.Choice} {state : pool.State} {note : Note} {value : B}
    {after : pool.State × Note}
    (answered : (pool.monitored write).exec task op choice (state, note) = some (value, after)) :
    pool.exec task op choice state = some (value, after.1) ∧ after.2 = write task op state value note := by
  obtain ⟨⟨answer, next⟩, done, same⟩ := Option.map_eq_some_iff.mp answered
  cases same
  exact ⟨done, rfl⟩

section
variable (rely : Task → pool.State → pool.State → Prop)

open Classical in
/-- For one task, the others are an environment that moves as the task relies on. -/
noncomputable abbrev view (task : Task) : Machine Op where
  State := pool.State
  Choice := pool.Choice
  Move := pool.State
  exec := pool.exec task
  move after before := if rely task before after then some after else none

theorem view_move {task : Task} {state other after : pool.State}
    (moved : (view rely task).move other state = some after) : rely task state after := by
  classical
  simp only at moved
  split at moved
  · cases moved
    assumption
  · cases moved

/-- The view of a task answers as the pool does. -/
abbrev Promise.view (promise : pool.Promise) (task : Task) : (view rely task).Promise where
  answers op choice state := promise.answers task op choice state
  moves _ _ := True

/-- The remaining program of a task is safe against everything that the task relies on. -/
abbrev Safe (promise : pool.Promise) (guard : Task → {B : Type} → Op B → pool.State → Prop)
    (result : Task → pool.State → Prop) (task : Task) (program : Program Op Unit) (state : pool.State) :
    Prop :=
  Machine.Holds (promise.view rely task) (guard task) program (fun _ => result task) state

end

variable {promise : pool.Promise} {rely : Task → pool.State → pool.State → Prop}
  {guard : Task → {B : Type} → Op B → pool.State → Prop} {result : Task → pool.State → Prop}

/-- A safe task stays safe when another one does what it relies on. -/
theorem Safe.moved {task : Task} {program : Program Op Unit} {state after : pool.State}
    (safe : Safe rely promise guard result task program state) (relied : rely task state after) :
    Safe rely promise guard result task program after := by
  classical
  exact safe.step (.move after trivial (if_pos relied))

/-- What the guards of all tasks keep holds in every run, when each step is as the other tasks rely on
and each task is safe when it starts. -/
theorem reaches_safe (invariant : pool.State → List Task → Prop)
    (called : ∀ task state tasks, promise.calls task state → invariant state tasks →
      invariant state (tasks ++ [task]) ∧ Safe rely promise guard result task (pool.body task) state)
    (stepped : ∀ {B : Type} (before later : List Task) task (op : Op B) choice state value after,
      invariant state (before ++ task :: later) → guard task op state →
      promise.answers task op choice state → pool.exec task op choice state = some (value, after) →
      invariant after (before ++ task :: later ++ (pool.starts op value).toList) ∧
        (∀ other ∈ before ++ later, rely other state after) ∧
        ∀ new ∈ pool.starts op value, Safe rely promise guard result new (pool.body new) after)
    {first last : pool.Configuration} (reached : Reaches promise first last)
    (start : invariant first.state (first.tasks.map Prod.fst) ∧ ∀ entry ∈ first.tasks,
      Safe rely promise guard result entry.1 entry.2 first.state) :
    invariant last.state (last.tasks.map Prod.fst) ∧ ∀ entry ∈ last.tasks,
      Safe rely promise guard result entry.1 entry.2 last.state := by
  induction reached with
  | refl => exact start
  | @tail middle last _ step ih =>
      obtain ⟨kept, safe⟩ := ih
      cases step with
      | @call state tasks task permitted =>
          obtain ⟨grown, new⟩ := called task state _ permitted kept
          refine ⟨by simpa using grown, fun entry member => ?_⟩
          rcases List.mem_append.mp member with old | last
          · exact safe entry old
          · cases List.mem_singleton.mp last
            exact new
      | @answer B state after before later task op next value choice permitted answered =>
          have own : Safe rely promise guard result task (.ask op next) state :=
            safe (task, .ask op next) (by simp)
          have guarded : guard task op state := (own _ _ ReflTransGen.refl).1 _ _ _ rfl
          simp only [List.map_append, List.map_cons] at kept
          obtain ⟨grown, relied, new⟩ :=
            stepped _ _ task op choice state value after kept guarded permitted answered
          refine ⟨by simpa using grown, fun entry member => ?_⟩
          have others (entry : Task × Program Op Unit) (other : entry ∈ before ++ later) :
              Safe rely promise guard result entry.1 entry.2 after := by
            refine Safe.moved (safe entry ?_) (relied entry.1 ?_)
            · simp only [List.mem_append, List.mem_cons] at other ⊢
              exact other.imp id .inr
            · rw [← List.map_append]
              exact List.mem_map_of_mem other
          simp only [List.mem_append, List.mem_cons] at member
          rcases member with earlier | rfl | sibling | fresh
          · exact others entry (by simp [earlier])
          · exact own.step (.answer choice permitted answered)
          · exact others entry (by simp [sibling])
          · obtain ⟨task, spawned, rfl⟩ := mem_started.mp fresh
            exact new task spawned
      | @turn B S state before later task body start next =>
          refine ⟨by simpa using kept, fun entry member => ?_⟩
          simp only [List.mem_append, List.mem_cons] at member
          have own : Safe rely promise guard result task (.loop body start next) state :=
            safe (task, .loop body start next) (by simp)
          rcases member with earlier | rfl | sibling
          · exact safe entry (by simp [earlier])
          · exact own.step .turn
          · exact safe entry (by simp [sibling])

/-- The environment calls a task or answers the next operation of the task at a position. -/
inductive Input (pool : Pool Op Task) where
  | call (task : Task)
  | step (position : Nat) (choice : pool.Choice)

/-- An input that is not possible leaves the configuration as it is. -/
def advance (input : pool.Input) (config : pool.Configuration) : pool.Configuration :=
  match input with
  | .call task => { config with tasks := config.tasks ++ [(task, pool.body task)] }
  | .step position choice =>
      match config.tasks.drop position with
      | [] => config
      | (task, program) :: later =>
          let before := config.tasks.take position
          match program with
          | .done _ => config
          | .ask op next =>
              match pool.exec task op choice config.state with
              | some (value, after) =>
                  ⟨after, before ++ (task, next value) :: (later ++ pool.started op value)⟩
              | none => config
          | .loop body start next =>
              { config with
                tasks := before ++ (task, (body start).bind (Program.turn body next)) :: later }

/-- The inputs come one after the other. -/
def run (config : pool.Configuration) (inputs : List pool.Input) : pool.Configuration :=
  inputs.foldl (fun config input => advance input config) config

/-- The promise allows this input in this configuration. -/
def Allowed (promise : pool.Promise) (input : pool.Input) (config : pool.Configuration) : Prop :=
  match input with
  | .call task => promise.calls task config.state
  | .step position choice =>
      match config.tasks.drop position with
      | (task, .ask op _) :: _ => promise.answers task op choice config.state
      | _ => True

/-- Each input keeps the promise where it comes. -/
def AllAllowed (promise : pool.Promise) (config : pool.Configuration) : List pool.Input → Prop
  | [] => True
  | input :: rest => Allowed promise input config ∧ AllAllowed promise (advance input config) rest

section
variable [decCalls : ∀ task state, Decidable (promise.calls task state)]
  [decAnswers : ∀ (B : Type) task (op : Op B) choice state, Decidable (promise.answers task op choice state)]

instance decidableAllowed (input : pool.Input) (config : pool.Configuration) :
    Decidable (Allowed promise input config) :=
  match input with
  | .call task => decCalls task config.state
  | .step position choice =>
      match (motive := (tasks : List (Task × Program Op Unit)) → Decidable (match tasks with
        | (task, .ask op _) :: _ => promise.answers task op choice config.state
        | _ => True)) config.tasks.drop position with
      | (task, .ask op _) :: _ => decAnswers _ task op choice config.state
      | (_, .done _) :: _ => isTrue trivial
      | (_, .loop ..) :: _ => isTrue trivial
      | [] => isTrue trivial

instance decidableAllAllowed : (inputs : List pool.Input) → (config : pool.Configuration) →
    Decidable (AllAllowed promise config inputs)
  | [], _ => isTrue trivial
  | input :: rest, config =>
      @instDecidableAnd _ _ (decidableAllowed input config) (decidableAllAllowed rest _)

end

theorem advance_reaches {input : pool.Input} {config : pool.Configuration}
    (allowed : Allowed promise input config) : Reaches promise config (advance input config) := by
  obtain ⟨state, tasks⟩ := config
  cases input with
  | call task => exact ReflTransGen.single (.call task allowed)
  | step position choice =>
      have whole : tasks.take position ++ tasks.drop position = tasks := List.take_append_drop position tasks
      unfold Allowed at allowed
      cases rest : tasks.drop position with
      | nil =>
          simp only [advance, rest]
          exact ReflTransGen.refl
      | cons entry later =>
          obtain ⟨task, program⟩ := entry
          rw [rest] at whole
          cases program with
          | done value =>
              simp only [advance, rest]
              exact ReflTransGen.refl
          | ask op next =>
              simp only [rest] at allowed
              cases answered : pool.exec task op choice state with
              | none =>
                  simp only [advance, rest, answered]
                  exact ReflTransGen.refl
              | some result =>
                  simp only [advance, rest, answered]
                  have step : Step promise ⟨state, tasks.take position ++ (task, .ask op next) :: later⟩ _ :=
                    .answer choice allowed answered
                  rw [whole] at step
                  exact ReflTransGen.single step
          | loop body start next =>
              simp only [advance, rest]
              have step : Step promise
                  ⟨state, tasks.take position ++ (task, .loop body start next) :: later⟩ _ := .turn
              rw [whole] at step
              exact ReflTransGen.single step

/-- An executed run is a run of the pool. -/
theorem run_reaches {inputs : List pool.Input} {config : pool.Configuration}
    (allowed : AllAllowed promise config inputs) : Reaches promise config (run config inputs) := by
  induction inputs generalizing config with
  | nil => exact ReflTransGen.refl
  | cons input rest ih => exact ReflTransGen.trans (advance_reaches allowed.1) (ih allowed.2)

end Pool

end Interaction
