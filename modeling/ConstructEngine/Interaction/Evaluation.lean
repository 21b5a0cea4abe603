import ConstructEngine.Interaction.Owned

namespace Interaction

universe u

namespace Machine

variable {Op : Type → Type u} {machine : Machine Op} {A C M O : Type}

/-- The input answers the program. -/
def Input.isAnswer : machine.Input → Bool
  | .answer _ => true
  | .move _ => false

/-- The program comes to an end once the environment has answered often enough. -/
def Ends (machine : Machine Op) (program : Program Op A) (result : A → machine.State → Prop)
    (state : machine.State) : Prop :=
  ∃ count, ∀ inputs : List machine.Input, count ≤ inputs.countP Input.isAnswer →
    ∃ value after, run (state, program) inputs = (after, .done value) ∧ result value after

theorem Ends.weaken {program : Program Op A} {strong weak : A → machine.State → Prop}
    {state : machine.State} (ends : machine.Ends program strong state)
    (implies : ∀ value after, strong value after → weak value after) :
    machine.Ends program weak state := by
  obtain ⟨count, each⟩ := ends
  refine ⟨count, fun inputs enough => ?_⟩
  obtain ⟨value, after, ran, now⟩ := each inputs enough
  exact ⟨value, after, ran, implies value after now⟩

/-- Two results of one program describe a common end. -/
theorem Ends.meet (choice : machine.Choice) {program : Program Op A}
    {left right : A → machine.State → Prop} {state : machine.State}
    (first : machine.Ends program left state) (second : machine.Ends program right state) :
    ∃ value after, left value after ∧ right value after := by
  obtain ⟨few, firstEnds⟩ := first
  obtain ⟨many, secondEnds⟩ := second
  have answers : (List.replicate (few + many) (Input.answer choice : machine.Input)).countP
      Input.isAnswer = few + many := by
    simp only [List.countP_replicate, Input.isAnswer, if_true]
  obtain ⟨value, after, ran, leftNow⟩ := firstEnds _ (answers.symm ▸ Nat.le_add_right few many)
  obtain ⟨other, final, same, rightNow⟩ := secondEnds _ (answers.symm ▸ Nat.le_add_left many few)
  rw [ran] at same
  cases same
  exact ⟨value, after, leftNow, rightNow⟩

namespace Owned

variable (owned : machine.Owned O)

/-- The owned part alone decides every answer and what becomes of the owned part, so that the
program ends with this value and this owned part whatever the environment does. -/
inductive Evaluates {A : Type} : Program Op A → O → A → O → Prop
  | done (value : A) (before : O) : Evaluates (.done value) before value before
  | ask {B : Type} {op : Op B} {next : B → Program Op A} {before middle after : O} {answer : B}
      {value : A}
      (answered : ∀ choice state, owned.view state = before →
        ∃ later, machine.exec op choice state = some (answer, later) ∧ owned.view later = middle)
      (rest : Evaluates (next answer) middle value after) : Evaluates (.ask op next) before value after
  | turn {B S : Type} {body : S → Program Op (S ⊕ B)} {start : S} {next : B → Program Op A}
      {before after : O} {value : A}
      (rest : Evaluates ((body start).bind (Program.turn body next)) before value after) :
      Evaluates (.loop body start next) before value after

variable {owned}

theorem evaluates_perform {op : Op A} {before after : O} {answer : A}
    (answered : ∀ choice state, owned.view state = before →
      ∃ later, machine.exec op choice state = some (answer, later) ∧ owned.view later = after) :
    owned.Evaluates (Program.perform op) before answer after :=
  .ask answered (.done answer after)

theorem Evaluates.bind {program : Program Op A} {rest : A → Program Op C} {before middle after : O}
    {value : A} {result : C} (first : owned.Evaluates program before value middle)
    (second : owned.Evaluates (rest value) middle result after) :
    owned.Evaluates (program >>= rest) before result after := by
  change owned.Evaluates (program.bind rest) before result after
  induction first with
  | done value before => exact second
  | ask answered _ ih => exact .ask answered (ih second)
  | turn _ ih =>
      refine .turn ?_
      have unfolded := ih second
      simpa only [Program.bind_assoc, Program.turn_bind] using unfolded

/-- A list of programs moves a measure of the owned part by one step for each item. -/
theorem evaluates_forM (owned : machine.Owned O) {items : List C} {each : C → Program Op PUnit} (measure : O → M)
    (step : M → C → M)
    (moves : ∀ item ∈ items, ∀ before, ∃ after,
      owned.Evaluates (each item) before ⟨⟩ after ∧ measure after = step (measure before) item)
    (before : O) :
    ∃ after, owned.Evaluates (items.forM each) before ⟨⟩ after ∧
      measure after = items.foldl step (measure before) := by
  induction items generalizing before with
  | nil => exact ⟨before, .done _ _, rfl⟩
  | cons item rest ih =>
      obtain ⟨middle, first, moved⟩ := moves item (List.mem_cons_self ..) before
      obtain ⟨after, second, folded⟩ :=
        ih (fun later member => moves later (List.mem_cons_of_mem item member)) middle
      exact ⟨after, first.bind second, by rw [folded, moved, List.foldl_cons]⟩

/-- Before its first answer the program only waits while the environment moves. -/
theorem run_untilAnswer (program : Program Op A) {inputs : List machine.Input} {count : Nat}
    (enough : count + 1 ≤ inputs.countP Input.isAnswer) (state : machine.State) :
    ∃ middle choice rest, owned.view middle = owned.view state ∧
      count ≤ rest.countP Input.isAnswer ∧
      run (state, program) inputs = run (advance (.answer choice) (middle, program)) rest := by
  induction inputs generalizing state with
  | nil => simp only [List.countP_nil, Nat.le_zero, Nat.succ_ne_zero] at enough
  | cons input rest ih =>
      cases input with
      | answer choice =>
          have fewer : count ≤ rest.countP Input.isAnswer := by
            simpa only [List.countP_cons, Input.isAnswer, if_true, Nat.add_le_add_iff_right]
              using enough
          exact ⟨state, choice, rest, rfl, fewer, rfl⟩
      | move move =>
          have same : owned.view ((machine.move move state).getD state) = owned.view state := by
            cases moved : machine.move move state with
            | none => rfl
            | some after => exact owned.kept move state after moved
          have enough : count + 1 ≤ rest.countP Input.isAnswer := by
            simpa only [List.countP_cons, Input.isAnswer, Bool.false_eq_true, if_false,
              Nat.add_zero] using enough
          obtain ⟨middle, choice, later, viewed, fewer, ran⟩ :=
            ih enough ((machine.move move state).getD state)
          exact ⟨middle, choice, later, viewed.trans same, fewer, ran⟩

/-- A program that is done stays done, and its owned part stays as it is. -/
theorem run_done (owned : machine.Owned O) (value : A) (inputs : List machine.Input) (state : machine.State) :
    ∃ after, run (state, (.done value : Program Op A)) inputs = (after, .done value) ∧
      owned.view after = owned.view state := by
  induction inputs generalizing state with
  | nil => exact ⟨state, rfl, rfl⟩
  | cons input rest ih =>
      cases input with
      | answer choice => exact ih state
      | move move =>
          obtain ⟨after, ran, same⟩ := ih ((machine.move move state).getD state)
          refine ⟨after, ran, same.trans ?_⟩
          cases moved : machine.move move state with
          | none => rfl
          | some later => exact owned.kept move state later moved

/-- An evaluation is what every run does, in whatever way the environment interleaves its moves. -/
theorem Evaluates.ends {program : Program Op A} {before after : O} {value : A}
    (evaluates : owned.Evaluates program before value after) (state : machine.State)
    (same : owned.view state = before) :
    machine.Ends program (fun answer final => answer = value ∧ owned.view final = after) state := by
  have uniform : ∃ count, ∀ state, owned.view state = before → ∀ inputs : List machine.Input,
      count ≤ inputs.countP Input.isAnswer →
        ∃ final, run (state, program) inputs = (final, .done value) ∧ owned.view final = after := by
    clear same state
    induction evaluates with
    | done value before =>
        refine ⟨0, fun state same inputs _ => ?_⟩
        obtain ⟨final, ran, kept⟩ := owned.run_done value inputs state
        exact ⟨final, ran, kept.trans same⟩
    | ask answered _ ih =>
        obtain ⟨count, later⟩ := ih
        refine ⟨count + 1, fun state same inputs enough => ?_⟩
        obtain ⟨middle, choice, rest, viewed, fewer, ran⟩ := run_untilAnswer _ enough state
        obtain ⟨next, done, moved⟩ := answered choice middle (viewed.trans same)
        obtain ⟨final, finished, kept⟩ := later next moved rest fewer
        refine ⟨final, ?_, kept⟩
        rw [ran]
        simpa only [advance, done] using finished
    | turn _ ih =>
        obtain ⟨count, later⟩ := ih
        refine ⟨count + 1, fun state same inputs enough => ?_⟩
        obtain ⟨middle, choice, rest, viewed, fewer, ran⟩ := run_untilAnswer _ enough state
        obtain ⟨final, finished, kept⟩ := later middle (viewed.trans same) rest fewer
        exact ⟨final, ran.trans finished, kept⟩
  obtain ⟨count, each⟩ := uniform
  refine ⟨count, fun inputs enough => ?_⟩
  obtain ⟨final, ran, kept⟩ := each state same inputs enough
  exact ⟨value, final, ran, rfl, kept⟩

end Owned

end Machine

end Interaction
