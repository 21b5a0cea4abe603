import ConstructEngine.Interaction.Safety

namespace Interaction

universe u

variable {Op : Type → Type u} {A Note : Type}

/-- A journal notes every answered operation and every move, from the state before it. -/
structure Machine.Journal (machine : Machine Op) (Note : Type) where
  answered : {B : Type} → Op B → machine.State → B → Note → Note
  moved : machine.Move → machine.State → Note → Note

namespace Machine

variable {machine : Machine Op}

/-- The machine keeps its journal next to the state and does not read it. -/
abbrev journaled (machine : Machine Op) (journal : machine.Journal Note) : Machine Op where
  State := machine.State × Note
  Choice := machine.Choice
  Move := machine.Move
  exec op choice state := (machine.exec op choice state.1).map fun (value, after) =>
    (value, after, journal.answered op state.1 value state.2)
  move move state := (machine.move move state.1).map fun after =>
    (after, journal.moved move state.1 state.2)

/-- A promise about the states is one about the states with a journal. -/
abbrev Promise.journaled (promise : machine.Promise) (journal : machine.Journal Note) :
    (machine.journaled journal).Promise where
  answers op choice state := promise.answers op choice state.1
  moves move state := promise.moves move state.1

variable {journal : machine.Journal Note} {promise : machine.Promise}

theorem journaled_exec {op : Op A} {choice : machine.Choice} {state : machine.State} {note : Note}
    {value : A} {after : machine.State × Note}
    (answered : (machine.journaled journal).exec op choice (state, note) = some (value, after)) :
    machine.exec op choice state = some (value, after.1) ∧
      after.2 = journal.answered op state value note := by
  obtain ⟨⟨answer, next⟩, done, same⟩ := Option.map_eq_some_iff.mp answered
  cases same
  exact ⟨done, rfl⟩

theorem journaled_move {move : machine.Move} {state : machine.State} {note : Note}
    {after : machine.State × Note}
    (moved : (machine.journaled journal).move move (state, note) = some after) :
    machine.move move state = some after.1 ∧ after.2 = journal.moved move state note := by
  obtain ⟨next, done, same⟩ := Option.map_eq_some_iff.mp moved
  cases same
  exact ⟨done, rfl⟩

/-- A relation between the states and the journal holds along a run when every step keeps it. -/
theorem journaled_invariant (invariant : machine.State → Note → Prop)
    (moves : ∀ move state note after, promise.moves move state → invariant state note →
      machine.move move state = some after → invariant after (journal.moved move state note))
    (answers : ∀ {B : Type} (op : Op B) choice state note value after, promise.answers op choice state →
      invariant state note → machine.exec op choice state = some (value, after) →
      invariant after (journal.answered op state value note))
    {state after : machine.State} {note noted : Note} {program later : Program Op A}
    (now : invariant state note)
    (reached : Reaches (promise.journaled journal) ((state, note), program) ((after, noted), later)) :
    invariant after noted := by
  refine reaches_invariant (fun state : machine.State × Note => invariant state.1 state.2) ?_ ?_ now reached
  · rintro move ⟨state, note⟩ ⟨after, noted⟩ now permitted moved
    obtain ⟨done, same⟩ := journaled_move moved
    change noted = _ at same
    subst same
    exact moves move state note after permitted now done
  · rintro B op choice ⟨state, note⟩ value ⟨after, noted⟩ now permitted answered
    obtain ⟨done, same⟩ := journaled_exec answered
    change noted = _ at same
    subst same
    exact answers op choice state note value after permitted now done

end Machine

end Interaction
