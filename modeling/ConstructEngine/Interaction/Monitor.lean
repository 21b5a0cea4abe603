import ConstructEngine.Interaction.Owned

namespace Interaction

universe u

open Relation (ReflTransGen)

variable {Op : Type → Type u} {A O Note : Type}

/-- A ledger writes a note about every answered operation, from the state before it. -/
structure Machine.Ledger (machine : Machine Op) (Note : Type) where
  write : {B : Type} → Op B → machine.State → B → Note → Note

namespace Machine

variable {machine : Machine Op}

/-- The monitored machine keeps the note next to the state and does not use it. -/
abbrev monitored (machine : Machine Op) (ledger : machine.Ledger Note) : Machine Op where
  State := machine.State × Note
  Choice := machine.Choice
  Move := machine.Move
  exec op choice state := (machine.exec op choice state.1).map fun (value, after) =>
    (value, after, ledger.write op state.1 value state.2)
  move move state := (machine.move move state.1).map fun after => (after, state.2)

/-- A promise about the states is one about the monitored states. -/
abbrev Promise.monitored (promise : machine.Promise) (ledger : machine.Ledger Note) :
    (machine.monitored ledger).Promise where
  answers op choice state := promise.answers op choice state.1
  moves move state := promise.moves move state.1

variable {ledger : machine.Ledger Note}

theorem monitored_exec {op : Op A} {choice : machine.Choice} {state : machine.State} {note : Note}
    {value : A} {after : machine.State × Note}
    (answered : (machine.monitored ledger).exec op choice (state, note) = some (value, after)) :
    machine.exec op choice state = some (value, after.1) ∧
      after.2 = ledger.write op state value note := by
  obtain ⟨⟨answer, next⟩, done, same⟩ := Option.map_eq_some_iff.mp answered
  cases same
  exact ⟨done, rfl⟩

theorem monitored_move {move : machine.Move} {state : machine.State} {note : Note}
    {after : machine.State × Note}
    (moved : (machine.monitored ledger).move move (state, note) = some after) :
    machine.move move state = some after.1 ∧ after.2 = note := by
  obtain ⟨next, done, same⟩ := Option.map_eq_some_iff.mp moved
  cases same
  exact ⟨done, rfl⟩

/-- Every run has a ledger. -/
theorem Reaches.monitored {promise : machine.Promise} {state after : machine.State}
    {program later : Program Op A} (reached : Reaches promise (state, program) (after, later))
    (ledger : machine.Ledger Note) (note : Note) :
    ∃ written, Reaches (promise.monitored ledger) ((state, note), program) ((after, written), later) := by
  generalize target : (after, later) = final at reached
  induction reached generalizing after later with
  | refl => cases target; exact ⟨note, ReflTransGen.refl⟩
  | @tail middle final path step ih =>
      rcases middle with ⟨middleState, middleProgram⟩
      subst target
      obtain ⟨written, before⟩ := ih rfl
      cases step with
      | move move permitted moved =>
          refine ⟨written, before.tail (.move move permitted ?_)⟩
          exact Option.map_eq_some_iff.mpr ⟨after, moved, rfl⟩
      | @answer B _ _ op next value choice permitted answered =>
          refine ⟨ledger.write op middleState value written,
            before.tail (.answer choice permitted ?_)⟩
          exact Option.map_eq_some_iff.mpr ⟨(value, after), answered, rfl⟩
      | turn => exact ⟨written, before.tail .turn⟩

/-- A run whose note stays clean passed only operations that satisfy the guard. -/
theorem Reaches.of_monitored {promise : machine.Promise} {guard : machine.Guard} (clean : Note → Prop)
    (kept : ∀ {B : Type} (op : Op B) choice state note value after, promise.answers op choice state →
      machine.exec op choice state = some (value, after) → clean (ledger.write op state value note) →
      clean note ∧ guard op state)
    {start final : (machine.monitored ledger).State} {program later : Program Op A}
    (reached : Reaches (promise.monitored ledger) (start, program) (final, later))
    (last : clean final.2) :
    clean start.2 ∧ Reaches (promise.guarded guard) (start.1, program) (final.1, later) := by
  generalize target : (final, later) = ending at reached
  induction reached generalizing final later with
  | refl => cases target; exact ⟨last, ReflTransGen.refl⟩
  | @tail middle ending _ step inductionHypothesis =>
      rcases middle with ⟨middleState, middleProgram⟩
      subst target
      cases step with
      | move move permitted moved =>
          obtain ⟨done, same⟩ := monitored_move moved
          obtain ⟨begun, path⟩ := inductionHypothesis (same ▸ last) rfl
          exact ⟨begun, path.tail (.move move permitted done)⟩
      | answer choice permitted answered =>
          obtain ⟨done, same⟩ := monitored_exec answered
          obtain ⟨before, guarded⟩ := kept _ choice _ _ _ _ permitted done (same ▸ last)
          obtain ⟨begun, path⟩ := inductionHypothesis before rfl
          exact ⟨begun, path.tail (.answer choice ⟨permitted, guarded⟩ done)⟩
      | turn =>
          obtain ⟨begun, path⟩ := inductionHypothesis last rfl
          exact ⟨begun, path.tail .turn⟩

/-- Without its ledger, a monitored run is a run. -/
theorem Reaches.unmonitored {promise : machine.Promise} {start final : (machine.monitored ledger).State}
    {program later : Program Op A}
    (reached : Reaches (promise.monitored ledger) (start, program) (final, later)) :
    Reaches promise (start.1, program) (final.1, later) := by
  have guarded : Reaches (promise.guarded fun _ _ => True) (start.1, program) (final.1, later) :=
    (Reaches.of_monitored (fun _ => True) (fun _ _ _ _ _ _ _ _ _ => ⟨trivial, trivial⟩) reached trivial).2
  refine Reaches.mono ?_ ?_ guarded
  · exact fun _ _ _ kept => kept.1
  · exact fun _ _ kept => kept

/-- Without a promise, the run of the machine is read off the monitored one. -/
theorem reaches_unmonitored {start final : (machine.monitored ledger).State} {program later : Program Op A}
    (reached : Reaches (Promise.any (machine.monitored ledger)) (start, program) (final, later)) :
    Reaches (Promise.any machine) (start.1, program) (final.1, later) := by
  have monitored : Reaches ((Promise.any machine).monitored ledger) (start, program) (final, later) := reached
  exact monitored.unmonitored

/-- The program owns the note together with its part of the state. -/
abbrev Owned.monitored (owned : machine.Owned O) (ledger : machine.Ledger Note) :
    (machine.monitored ledger).Owned (O × Note) where
  view state := (owned.view state.1, state.2)
  kept move state after moved := by
    obtain ⟨done, same⟩ := monitored_move moved
    rw [owned.kept move state.1 after.1 done, same]

/-- The program owns the note alone. -/
abbrev Ledger.owned (ledger : machine.Ledger Note) : (machine.monitored ledger).Owned Note where
  view state := state.2
  kept _ _ _ moved := (monitored_move moved).2

end Machine

end Interaction
