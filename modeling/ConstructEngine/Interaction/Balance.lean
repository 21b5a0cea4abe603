import Mathlib.Algebra.BigOperators.Group.List.Basic
import Mathlib.Algebra.Group.Basic
import Mathlib.Tactic.Abel
import ConstructEngine.Interaction.Pool

namespace Interaction

open Relation (ReflTransGen)

universe u

variable {Op : Type → Type u} {Task G : Type} [AddCommGroup G]

namespace Program

variable {A B S : Type} {gain : {B : Type} → Op B → G}

/-- Whatever the answers are, what the program still asks adds up to this debt. -/
def Owes (gain : {B : Type} → Op B → G) {A : Type} : Program Op A → G → Prop
  | .done _, debt => debt = 0
  | .ask op next, debt => ∀ answer, (next answer).Owes gain (debt - gain op)
  | .loop body _ next, debt => (∀ state, (body state).Owes gain 0) ∧ ∀ result, (next result).Owes gain debt

/-- A program that is done owes nothing. -/
theorem owes_done (value : A) : (Program.done value : Program Op A).Owes gain 0 := rfl

/-- An operation owes what it gains. -/
theorem owes_perform (op : Op A) : (perform op).Owes gain (gain op) := fun _ => sub_self (gain op)

/-- The debts of both parts add up. -/
theorem owes_bind {program : Program Op A} {rest : A → Program Op B} {first later : G}
    (own : program.Owes gain first) (each : ∀ value, (rest value).Owes gain later) :
    (program >>= rest).Owes gain (first + later) := by
  change (program.bind rest).Owes gain (first + later)
  induction program generalizing first with
  | done value =>
      rw [show first = 0 from own, zero_add]
      exact each value
  | ask op next ih =>
      intro answer
      rw [add_sub_right_comm]
      exact ih answer (own answer) each
  | loop body start next _ ih => exact ⟨own.1, fun result => ih result (own.2 result) each⟩

/-- An operation that is not booked is free. -/
theorem owes_free {op : Op A} (free : gain op = 0) : (perform op).Owes gain 0 := by
  have owes : (perform op).Owes gain (gain op) := owes_perform op
  rw [free] at owes
  exact owes

/-- A free beginning leaves the debt to the rest. -/
theorem owes_after {program : Program Op A} {rest : A → Program Op B} {debt : G}
    (first : program.Owes gain 0) (later : ∀ value, (rest value).Owes gain debt) :
    (program >>= rest).Owes gain debt := by
  rw [← zero_add debt]
  exact owes_bind first later

/-- A program whose operations are not booked is free. -/
theorem owes_of_uses {program : Program Op A} (uses : program.Uses fun op => gain op = 0) :
    program.Owes gain 0 := by
  induction program with
  | done value => rfl
  | ask op next ih =>
      intro answer
      have free : gain op = 0 := uses.1
      change (next answer).Owes gain (0 - gain op)
      rw [free, sub_zero]
      exact ih answer (uses.2 answer)
  | loop body start next each ih =>
      exact ⟨fun state => each state (uses.1 state), fun result => ih result (uses.2 result)⟩

/-- Another turn of a loop leaves the debt as it is. -/
theorem owes_turn {body : S → Program Op (S ⊕ B)} {start : S} {next : B → Program Op A} {debt : G}
    (own : (Program.loop body start next).Owes gain debt) :
    ((body start).bind (turn body next)).Owes gain debt := by
  rw [← zero_add debt]
  refine owes_bind (own.1 start) fun outcome => ?_
  cases outcome with
  | inl state => exact own
  | inr result => exact own.2 result

end Program

open Program

namespace Pool

/-- An account says what a state holds, what an operation adds to it and what a task adds in all. -/
structure Account (pool : Pool Op Task) (G : Type) [AddCommGroup G] where
  holds : pool.State → G
  gain : {B : Type} → Op B → G
  debt : Task → G
  owed : ∀ task, (pool.body task).Owes gain (debt task)
  booked : ∀ {B : Type} task (op : Op B) choice state value after,
    pool.exec task op choice state = some (value, after) → holds after = holds state + gain op

variable {pool : Pool Op Task} {promise : pool.Promise}

/-- The programs of these tasks still owe this much together. -/
inductive Account.Owing (account : pool.Account G) : List (Task × Program Op Unit) → G → Prop
  | nil : Owing account [] 0
  | cons {task : Task} {program : Program Op Unit} {rest : List (Task × Program Op Unit)} {own others : G}
      (first : program.Owes account.gain own) (later : Owing account rest others) :
      Owing account ((task, program) :: rest) (own + others)

namespace Account

variable {account : pool.Account G} {tasks others : List (Task × Program Op Unit)} {debt : G}

theorem Owing.append {first second : G} (owing : account.Owing tasks first) (later : account.Owing others second) :
    account.Owing (tasks ++ others) (first + second) := by
  induction owing with
  | nil => simpa using later
  | cons own _ ih =>
      rw [add_assoc]
      exact .cons own ih

theorem Owing.split (owing : account.Owing (tasks ++ others) debt) :
    ∃ first second, account.Owing tasks first ∧ account.Owing others second ∧ debt = first + second := by
  induction tasks generalizing debt with
  | nil => exact ⟨0, debt, .nil, owing, (zero_add debt).symm⟩
  | cons entry rest ih =>
      cases owing with
      | cons own later =>
          obtain ⟨first, second, kept, last, rfl⟩ := ih later
          exact ⟨_, second, .cons own kept, last, (add_assoc _ _ _).symm⟩

/-- Tasks that are done owe nothing. -/
theorem Owing.finished (owing : account.Owing tasks debt)
    (done : ∀ entry ∈ tasks, entry.2 = .done ()) : debt = 0 := by
  induction owing with
  | nil => rfl
  | @cons task program rest own others first later ih =>
      have finished : program = .done () := done (task, program) (by simp)
      have free : own = 0 := by
        rw [finished] at first
        exact first
      rw [free, zero_add]
      exact ih fun entry member => done entry (List.mem_cons_of_mem _ member)

/-- This is what all tasks together add. -/
def total (account : pool.Account G) (tasks : List Task) : G := (tasks.map account.debt).sum

@[simp] theorem total_append (account : pool.Account G) (tasks others : List Task) :
    account.total (tasks ++ others) = account.total tasks + account.total others := by
  simp [total]

@[simp] theorem total_cons (account : pool.Account G) (task : Task) (tasks : List Task) :
    account.total (task :: tasks) = account.debt task + account.total tasks := rfl

@[simp] theorem total_nil (account : pool.Account G) : account.total [] = 0 := rfl

/-- A new task owes its whole debt. -/
theorem owing_started (account : pool.Account G) {B : Type} (op : Op B) (value : B) :
    account.Owing (pool.started op value) (account.total (pool.starts op value).toList) := by
  unfold started
  cases pool.starts op value with
  | none => exact .nil
  | some task => exact .cons (account.owed task) .nil

/-- What the state holds and what the programs still owe is what the tasks add in all. -/
def Balanced (account : pool.Account G) (opening : G) (config : pool.Configuration) : Prop :=
  ∃ debt, account.Owing config.tasks debt ∧
    account.holds config.state + debt = opening + account.total (config.tasks.map Prod.fst)

theorem Balanced.step {opening : G} {before after : pool.Configuration} (step : Step promise before after)
    (balanced : account.Balanced opening before) : account.Balanced opening after := by
  obtain ⟨debt, owing, even⟩ := balanced
  cases step with
  | @call state tasks task kept =>
      refine ⟨debt + (account.debt task + 0), owing.append (.cons (account.owed task) .nil), ?_⟩
      simp only [List.map_append, List.map_cons, List.map_nil, total_append, total_cons, total_nil] at even ⊢
      rw [← add_assoc, even, add_assoc]
  | @answer B state next earlier later task op rest value choice kept answered =>
      obtain ⟨first, second, before, others, rfl⟩ := owing.split
      cases others with
      | @cons _ _ _ own others asked following =>
          have added := account.booked task op choice state value next answered
          refine ⟨_, before.append (.cons (asked value) (following.append (account.owing_started op value))), ?_⟩
          simp only [List.map_append, List.map_cons, total_append, total_cons, started_tasks] at even ⊢
          rw [added]
          calc account.holds state + account.gain op + (first + (own - account.gain op +
                (others + account.total (pool.starts op value).toList)))
              = account.holds state + (first + (own + others)) +
                account.total (pool.starts op value).toList := by abel
            _ = _ := by rw [even]; abel
  | @turn B S state earlier later task body start next =>
      obtain ⟨first, second, before, others, rfl⟩ := owing.split
      cases others with
      | cons own following =>
          refine ⟨_, before.append (.cons (owes_turn own) following), ?_⟩
          simpa using even

/-- Every run of the pool keeps the balance. -/
theorem balanced_reached (account : pool.Account G) {state : pool.State} {last : pool.Configuration}
    (reached : Reaches promise ⟨state, []⟩ last) : account.Balanced (account.holds state) last := by
  induction reached with
  | refl => exact ⟨0, .nil, rfl⟩
  | tail _ step ih => exact ih.step step

/-- Once all tasks are done, the state holds what they were to add. -/
theorem settled (account : pool.Account G) {state : pool.State} {last : pool.Configuration}
    (reached : Reaches promise ⟨state, []⟩ last) (done : ∀ entry ∈ last.tasks, entry.2 = .done ()) :
    account.holds last.state = account.holds state + account.total (last.tasks.map Prod.fst) := by
  obtain ⟨debt, owing, even⟩ := account.balanced_reached reached
  rw [← even, owing.finished done, add_zero]

end Account

end Pool

end Interaction
