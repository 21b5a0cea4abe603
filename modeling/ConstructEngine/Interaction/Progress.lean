import ConstructEngine.Interaction.Safety

namespace Interaction

open Relation (ReflTransGen)

universe u

variable {Op : Type → Type u} {machine : Machine Op} {A B S : Type}

namespace Machine

variable {promise past future : machine.Promise}

/-- A step of the first program is a step of the sequence. -/
theorem Step.bind {state after : machine.State} {program later : Program Op A} (rest : A → Program Op B)
    (step : Step promise (state, program) (after, later)) :
    Step promise (state, program.bind rest) (after, later.bind rest) := by
  cases step with
  | move move kept moved => exact .move move kept moved
  | answer choice kept answered => exact .answer choice kept answered
  | @turn B S state body start next =>
      rw [Program.bind_assoc]
      simp only [Program.turn_bind]
      exact .turn

theorem Reaches.bind {state after : machine.State} {program later : Program Op A}
    (rest : A → Program Op B) (reached : Reaches promise (state, program) (after, later)) :
    Reaches promise (state, program >>= rest) (after, later >>= rest) := by
  generalize target : (after, later) = final at reached
  induction reached generalizing after later with
  | refl => cases target; exact ReflTransGen.refl
  | @tail middle final _ step inductionHypothesis =>
      rcases middle with ⟨middleState, middleProgram⟩
      subst target
      exact (inductionHypothesis rfl).tail (step.bind rest)

/-- A finished program stays finished. -/
theorem reaches_done_inv {state after : machine.State} {value : A} {later : Program Op A}
    (reached : Reaches promise (state, .done value) (after, later)) : later = .done value := by
  generalize target : (after, later) = final at reached
  induction reached generalizing after later with
  | refl => cases target; rfl
  | @tail middle final _ step inductionHypothesis =>
      rcases middle with ⟨middleState, middleProgram⟩
      subst target
      cases inductionHypothesis rfl
      exact step.done_inv.1

/-- Only moves follow the end of a program. -/
theorem reaches_done_calm {calm : machine.State → Prop} (stable : Stable promise calm)
    {state after : machine.State} {value : A} {later : Program Op A} (now : calm state)
    (reached : Reaches promise (state, .done value) (after, later)) : calm after := by
  have ends : Holds promise (fun _ _ => True) (.done value : Program Op A) (fun _ => calm) state :=
    holds_done stable now
  exact (ends after later reached).2 value (reaches_done_inv reached)

/-- An operation still waits in a calm state, or it was answered in one. -/
theorem reaches_ask_calm {calm : machine.State → Prop} (stable : Stable promise calm)
    {state after : machine.State} {op : Op B} {next : B → Program Op A} {later : Program Op A}
    (now : calm state) (reached : Reaches promise (state, .ask op next) (after, later)) :
    later = .ask op next ∧ calm after ∨ ∃ choice before value middle, calm before ∧
      promise.answers op choice before ∧ machine.exec op choice before = some (value, middle) ∧
      Reaches promise (middle, next value) (after, later) := by
  generalize target : (after, later) = final at reached
  induction reached generalizing after later with
  | refl => cases target; exact .inl ⟨rfl, now⟩
  | @tail middle final _ step inductionHypothesis =>
      rcases middle with ⟨middleState, middleProgram⟩
      subst target
      obtain ⟨rfl, waits⟩ | ⟨choice, before, value, answered, calmly, kept, done, path⟩ :=
        inductionHypothesis rfl
      · cases step with
        | move move permitted moved => exact .inl ⟨rfl, stable _ _ _ waits permitted moved⟩
        | answer choice kept answered => exact .inr ⟨choice, _, _, _, waits, kept, answered, ReflTransGen.refl⟩
      · exact .inr ⟨choice, before, value, answered, calmly, kept, done, path.tail step⟩

/-- A sequence is still in its first program, or the rest has begun. -/
theorem reaches_bind_inv {state after : machine.State} {program : Program Op A}
    {rest : A → Program Op B} {later : Program Op B}
    (reached : Reaches promise (state, program >>= rest) (after, later)) :
    (∃ part, later = part >>= rest ∧ Reaches promise (state, program) (after, part)) ∨
      ∃ value middle, Reaches promise (state, program) (middle, .done value) ∧
        Reaches promise (middle, rest value) (after, later) := by
  generalize target : (after, later) = final at reached
  induction reached generalizing after later with
  | refl => cases target; exact .inl ⟨program, rfl, ReflTransGen.refl⟩
  | @tail middle final _ step inductionHypothesis =>
      rcases middle with ⟨middleState, middleProgram⟩
      subst target
      obtain ⟨part, rfl, path⟩ | ⟨value, begun, first, path⟩ := inductionHypothesis rfl
      · obtain ⟨value, rfl⟩ | ⟨next, rfl, inner⟩ := step.bind_inv
        · exact .inr ⟨value, _, path, ReflTransGen.single step⟩
        · exact .inl ⟨next, rfl, path.tail inner⟩
      · exact .inr ⟨value, begun, first, path.tail step⟩

/-- A loop is about to turn, or in one of its turns, or a turn has left it. What its turns keep holds
wherever a turn begins. -/
theorem reaches_loop_inv {calm : machine.State → Prop} (stable : Stable promise calm)
    {body : S → Program Op (S ⊕ B)} {start : S} {next : B → Program Op A}
    (kept : ∀ start state outcome after, calm state →
      Reaches promise (state, body start) (after, .done outcome) → calm after)
    {state after : machine.State} {later : Program Op A} (now : calm state)
    (reached : Reaches promise (state, .loop body start next) (after, later)) :
    (∃ again, later = .loop body again next ∧ calm after) ∨
      (∃ again begun part, later = part >>= Program.turn body next ∧ calm begun ∧
        Reaches promise (begun, body again) (after, part)) ∨
      ∃ again begun result left, calm begun ∧
        Reaches promise (begun, body again) (left, .done (.inr result)) ∧
        Reaches promise (left, next result) (after, later) := by
  generalize target : (after, later) = final at reached
  induction reached generalizing after later with
  | refl => cases target; exact .inl ⟨start, rfl, now⟩
  | @tail middle final _ step inductionHypothesis =>
      rcases middle with ⟨middleState, middleProgram⟩
      subst target
      obtain ⟨again, rfl, before⟩ | ⟨again, begun, part, rfl, before, path⟩ |
        ⟨again, begun, result, left, before, first, path⟩ := inductionHypothesis rfl
      · cases step with
        | move move permitted moved => exact .inl ⟨again, rfl, stable _ _ _ before permitted moved⟩
        | turn => exact .inr (.inl ⟨again, _, body again, rfl, before, ReflTransGen.refl⟩)
      · obtain ⟨outcome, rfl⟩ | ⟨part', rfl, inner⟩ := step.bind_inv
        · cases outcome with
          | inl again' =>
              have ends : calm middleState := kept again begun (.inl again') middleState before path
              cases step with
              | move move permitted moved => exact .inl ⟨again', rfl, stable _ _ _ ends permitted moved⟩
              | turn => exact .inr (.inl ⟨again', _, body again', rfl, ends, ReflTransGen.refl⟩)
          | inr result =>
              exact .inr (.inr ⟨again, begun, result, _, before, path, ReflTransGen.single step⟩)
        · exact .inr (.inl ⟨again, begun, part', rfl, before, path.tail inner⟩)
      · exact .inr (.inr ⟨again, begun, result, left, before, first, path.tail step⟩)

/-- An environment that keeps the promise can bring the program to such an end. -/
def CanFinish (promise : machine.Promise) (program : Program Op A) (result : A → machine.State → Prop)
    (state : machine.State) : Prop :=
  ∃ value after, Reaches promise (state, program) (after, .done value) ∧ result value after

section
variable {program : Program Op A} {result weak : A → machine.State → Prop} {state : machine.State}

/-- A program that is done has finished. -/
theorem canFinish_done {value : A} (now : result value state) :
    CanFinish promise (.done value : Program Op A) result state :=
  ⟨value, state, ReflTransGen.refl, now⟩

/-- The environment first prepares the state and then finishes. -/
theorem CanFinish.after {middle : machine.State} {later : Program Op A}
    (reached : Reaches promise (state, program) (middle, later))
    (finishes : CanFinish promise later result middle) : CanFinish promise program result state := by
  obtain ⟨value, after, path, now⟩ := finishes
  exact ⟨value, after, reached.trans path, now⟩

/-- One answer brings the program on. -/
theorem canFinish_ask {op : Op B} {next : B → Program Op A} {value : B} {after : machine.State}
    (choice : machine.Choice) (kept : promise.answers op choice state)
    (answered : machine.exec op choice state = some (value, after))
    (finishes : CanFinish promise (next value) result after) :
    CanFinish promise (.ask op next) result state :=
  .after (ReflTransGen.single (.answer choice kept answered)) finishes

/-- It may finish with less. -/
theorem CanFinish.weaken (finishes : CanFinish promise program result state)
    (implies : ∀ value after, result value after → weak value after) :
    CanFinish promise program weak state := by
  obtain ⟨value, after, path, now⟩ := finishes
  exact ⟨value, after, path, implies value after now⟩

/-- The rest may begin where the program can finish. -/
theorem CanFinish.bind {middle : A → machine.State → Prop} {rest : A → Program Op B}
    {final : B → machine.State → Prop} (first : CanFinish promise program middle state)
    (later : ∀ value after, middle value after → CanFinish promise (rest value) final after) :
    CanFinish promise (program >>= rest) final state := by
  obtain ⟨value, after, path, now⟩ := first
  exact .after (path.bind rest) (later value after now)

/-- What every step keeps still holds at the end. -/
theorem CanFinish.keeping (finishes : CanFinish promise program result state)
    (invariant : machine.State → Prop) (stable : Stable promise invariant)
    (kept : ∀ {B : Type} (op : Op B) choice state value after, invariant state →
      promise.answers op choice state → machine.exec op choice state = some (value, after) →
      invariant after) (now : invariant state) :
    CanFinish promise program (fun value after => result value after ∧ invariant after) state := by
  obtain ⟨value, after, path, finished⟩ := finishes
  exact ⟨value, after, path, finished, reaches_invariant invariant stable kept now path⟩

end

/-- Whatever happened since the program began in a calm state, the environment can bring it to its end
in a calm state, and it ends in no other. -/
def Resumable (past future : machine.Promise) (calm : machine.State → Prop) (program : Program Op A) :
    Prop :=
  ∀ state after later, calm state → Reaches past (state, program) (after, later) →
    CanFinish future later (fun _ => calm) after ∧ ∀ value, later = .done value → calm after

section
variable {calm : machine.State → Prop}

theorem Resumable.finishes {program : Program Op A} (resumable : Resumable past future calm program)
    {state : machine.State} (now : calm state) : CanFinish future program (fun _ => calm) state :=
  (resumable state state program now ReflTransGen.refl).1

/-- A program that has ended left a calm state. -/
theorem Resumable.ends {program : Program Op A} (resumable : Resumable past future calm program)
    {state after : machine.State} {value : A} (now : calm state)
    (reached : Reaches past (state, program) (after, .done value)) : calm after :=
  (resumable state after _ now reached).2 value rfl

theorem resumable_done (stable : Stable past calm) (value : A) :
    Resumable past future calm (.done value : Program Op A) := by
  intro state after later now reached
  obtain rfl : later = .done value := reaches_done_inv reached
  have ends : calm after := reaches_done_calm stable now reached
  exact ⟨canFinish_done ends, fun _ _ => ends⟩

/-- An operation is resumable when it can be answered in every calm state and leaves a calm state. -/
theorem resumable_perform (stable : Stable past calm) {op : Op A}
    (answers : ∀ state, calm state → CanFinish future (Program.perform op) (fun _ => calm) state)
    (kept : ∀ choice state value after, calm state → past.answers op choice state →
      machine.exec op choice state = some (value, after) → calm after) :
    Resumable past future calm (Program.perform op) := by
  intro state after later now reached
  obtain ⟨rfl, waits⟩ | ⟨choice, before, value, middle, calmly, asked, answered, path⟩ :=
    reaches_ask_calm stable now reached
  · exact ⟨answers after waits, nofun⟩
  · have begins : calm middle := kept choice before value middle calmly asked answered
    exact resumable_done stable value middle after later begins path

theorem resumable_bind {program : Program Op A} {rest : A → Program Op B}
    (first : Resumable past future calm program)
    (later : ∀ value, Resumable past future calm (rest value)) :
    Resumable past future calm (program >>= rest) := by
  intro state after final now reached
  obtain ⟨part, rfl, path⟩ | ⟨value, middle, ended, path⟩ := reaches_bind_inv reached
  · have resumed := first state after part now path
    refine ⟨resumed.1.bind fun value after calmly => (later value).finishes calmly, fun value ends => ?_⟩
    obtain ⟨inner, rfl, same⟩ := Program.bind_done_inv ends
    exact ((later inner) after after _ (resumed.2 inner rfl) ReflTransGen.refl).2 value same
  · exact later value middle after final (first.ends now ended) path

/-- A loop is resumable when its turns are and the environment can leave it from its head. -/
theorem resumable_iterate (stable : Stable past calm) {body : S → Program Op (S ⊕ A)}
    (each : ∀ start, Resumable past future calm (body start))
    (leaves : ∀ start state, calm state →
      CanFinish future (Program.iterate body start) (fun _ => calm) state)
    (start : S) : Resumable past future calm (Program.iterate body start) := by
  intro state after later now reached
  have kept (start : S) (state : machine.State) (outcome : S ⊕ A) (after : machine.State)
      (begins : calm state) (ended : Reaches past (state, body start) (after, .done outcome)) : calm after :=
    (each start).ends begins ended
  obtain ⟨again, rfl, head⟩ | ⟨again, begun, part, rfl, begins, path⟩ |
    ⟨again, begun, value, left, begins, ended, path⟩ := reaches_loop_inv stable kept now reached
  · exact ⟨leaves again after head, nofun⟩
  · have resumed := each again begun after part begins path
    refine ⟨resumed.1.bind fun outcome after calmly => ?_, fun value ends => ?_⟩
    · cases outcome with
      | inl again => exact leaves again after calmly
      | inr value => exact canFinish_done calmly
    · obtain ⟨outcome, rfl, -⟩ := Program.bind_done_inv ends
      exact resumed.2 outcome rfl
  · exact resumable_done stable value left after later ((each again).ends begins ended) path

theorem resumable_foldlM (stable : Stable past calm) {each : A → B → Program Op A} {items : List B}
    (resumable : ∀ total item, Resumable past future calm (each total item)) (start : A) :
    Resumable past future calm (items.foldlM each start) := by
  induction items generalizing start with
  | nil => exact resumable_done stable start
  | cons item rest inductionHypothesis =>
      exact resumable_bind (resumable start item) fun total => inductionHypothesis total

theorem resumable_option (stable : Stable past calm) {each : B → Program Op PUnit} {value : Option B}
    (resumable : ∀ item, Resumable past future calm (each item)) :
    Resumable past future calm (value.forM each) := by
  cases value with
  | none => exact resumable_done stable _
  | some item => exact resumable item

theorem resumable_forM (stable : Stable past calm) {each : B → Program Op PUnit} {items : List B}
    (resumable : ∀ item, Resumable past future calm (each item)) :
    Resumable past future calm (items.forM each) := by
  induction items with
  | nil => exact resumable_done stable _
  | cons item rest inductionHypothesis => exact resumable_bind (resumable item) fun _ => inductionHypothesis

end

/-- A loop whose first turn can leave it can finish. -/
theorem canFinish_iterate {body : S → Program Op (S ⊕ A)} {start : S} {result : A → machine.State → Prop}
    {state : machine.State}
    (leaves : CanFinish promise (body start)
      (fun outcome after => ∃ value, outcome = .inr value ∧ result value after) state) :
    CanFinish promise (Program.iterate body start) result state := by
  obtain ⟨outcome, after, path, value, rfl, now⟩ := leaves
  refine ⟨value, after, .head .turn ?_, now⟩
  exact path.bind (Program.turn body .done)

end Machine

end Interaction
