import ConstructEngine.Interaction.Machine

namespace Interaction

open Relation (ReflTransGen)

universe u

variable {Op : Type → Type u} {machine : Machine Op}

/-- A guard is a condition on the state in which an operation is asked. -/
abbrev Machine.Guard (machine : Machine Op) := {B : Type} → Op B → machine.State → Prop

namespace Machine

/-- Every operation that a run is about to ask satisfies the guard, and every finished run
satisfies the result. -/
def Holds {A : Type} (promise : machine.Promise) (guard : machine.Guard) (program : Program Op A)
    (result : A → machine.State → Prop) (state : machine.State) : Prop :=
  ∀ after later, Reaches promise (state, program) (after, later) →
    (∀ (B : Type) (op : Op B) (next : B → Program Op A), later = .ask op next → guard op after) ∧
      ∀ value, later = .done value → result value after

/-- The environment cannot falsify a stable assertion between two operations. -/
def Stable (promise : machine.Promise) (assertion : machine.State → Prop) : Prop :=
  ∀ move state after, assertion state → promise.moves move state →
    machine.move move state = some after → assertion after

variable {A C : Type} {promise : machine.Promise} {guard : machine.Guard}

theorem stable_true : Stable promise fun _ => True := fun _ _ _ _ _ _ => trivial

theorem stable_const (fact : Prop) : Stable promise fun _ => fact := fun _ _ _ now _ _ => now

/-- Nothing is claimed about the program. -/
theorem holds_trivial (program : Program Op A) (state : machine.State) :
    Holds promise (fun _ _ => True) program (fun _ _ => True) state :=
  fun _ _ _ => ⟨fun _ _ _ _ => trivial, fun _ _ => trivial⟩

theorem Holds.step {program later : Program Op A} {result : A → machine.State → Prop}
    {state after : machine.State} (holds : Holds promise guard program result state)
    (step : Step promise (state, program) (after, later)) :
    Holds promise guard later result after :=
  fun _ _ reached => holds _ _ (ReflTransGen.head step reached)

/-- A set of configurations that is closed under steps establishes safety. -/
theorem Holds.coinduct {result : A → machine.State → Prop}
    (safe : machine.State → Program Op A → Prop)
    (closed : ∀ state program after later, safe state program →
      Step promise (state, program) (after, later) → safe after later)
    (guarded : ∀ (B : Type) state (op : Op B) next, safe state (.ask op next) → guard op state)
    (finished : ∀ state value, safe state (.done value) → result value state)
    {state : machine.State} {program : Program Op A} (start : safe state program) :
    Holds promise guard program result state := by
  intro after later reached
  have kept : safe after later := by
    generalize target : (after, later) = final at reached
    induction reached generalizing after later with
    | refl => cases target; exact start
    | @tail middle final _ step ih =>
        rcases middle with ⟨middleState, middleProgram⟩
        subst target
        exact closed _ _ _ _ (ih _ _ rfl) step
  constructor
  · rintro B op next rfl
    exact guarded B after op next kept
  · rintro value rfl
    exact finished after value kept

theorem Step.done_inv {state after : machine.State} {value : A} {later : Program Op A}
    (step : Step promise (state, .done value) (after, later)) :
    later = .done value ∧ ∃ move, promise.moves move state ∧ machine.move move state = some after := by
  cases step with
  | move move kept moved => exact ⟨rfl, move, kept, moved⟩

/-- A step of a sequence is a step of its first program until that program is done. -/
theorem Step.bind_inv {state after : machine.State} {program : Program Op A}
    {rest : A → Program Op C} {later : Program Op C}
    (step : Step promise (state, program.bind rest) (after, later)) :
    (∃ value, program = .done value) ∨
      ∃ first, later = first.bind rest ∧ Step promise (state, program) (after, first) := by
  cases program with
  | done value => exact .inl ⟨value, rfl⟩
  | ask op next =>
      right
      cases step with
      | move move kept moved => exact ⟨_, rfl, .move move kept moved⟩
      | answer choice kept answered => exact ⟨_, rfl, .answer choice kept answered⟩
  | loop body start next =>
      right
      cases step with
      | move move kept moved => exact ⟨_, rfl, .move move kept moved⟩
      | turn =>
          refine ⟨(body start).bind (Program.turn body next), ?_, .turn⟩
          rw [Program.bind_assoc]
          simp only [Program.turn_bind]

theorem Holds.result {program : Program Op A} {result : A → machine.State → Prop}
    {state : machine.State} {value : A} (holds : Holds promise guard program result state)
    (finished : program = .done value) : result value state :=
  (holds _ _ ReflTransGen.refl).2 value finished

theorem holds_done {result : A → machine.State → Prop} {value : A} {state : machine.State}
    (stable : Stable promise (result value)) (now : result value state) :
    Holds promise guard (.done value) result state := by
  refine Holds.coinduct (fun state program => program = .done value ∧ result value state)
    ?_ ?_ ?_ ⟨rfl, now⟩
  · rintro state _ after later ⟨rfl, now⟩ step
    obtain ⟨rfl, move, kept, moved⟩ := step.done_inv
    exact ⟨rfl, stable _ _ _ now kept moved⟩
  · rintro B state op next ⟨equal, _⟩
    cases equal
  · rintro state _ ⟨equal, now⟩
    cases equal
    exact now

/-- An operation needs its guard in every state that the environment can prepare. -/
theorem holds_ask {B : Type} {op : Op B} {next : B → Program Op A}
    {result : A → machine.State → Prop} (before : machine.State → Prop)
    (stable : Stable promise before) (guarded : ∀ state, before state → guard op state)
    (continued : ∀ state choice value after, before state → promise.answers op choice state →
      machine.exec op choice state = some (value, after) →
      Holds promise guard (next value) result after)
    {state : machine.State} (now : before state) :
    Holds promise guard (.ask op next) result state := by
  refine Holds.coinduct (fun state program => (program = .ask op next ∧ before state) ∨
    Holds promise guard program result state) ?_ ?_ ?_ (.inl ⟨rfl, now⟩)
  · rintro state program after later (⟨rfl, now⟩ | holds) step
    · cases step with
      | move move kept moved => exact .inl ⟨rfl, stable _ _ _ now kept moved⟩
      | answer choice kept answered => exact .inr (continued _ _ _ _ now kept answered)
    · exact .inr (holds.step step)
  · rintro B state op next (⟨equal, now⟩ | holds)
    · cases equal
      exact guarded _ now
    · exact (holds _ _ ReflTransGen.refl).1 B op next rfl
  · rintro state value (⟨equal, _⟩ | holds)
    · cases equal
    · exact holds.result rfl

/-- The rest of a sequence continues from the effect of its first operation. -/
theorem holds_perform {B : Type} {op : Op B} {rest : B → Program Op A}
    {result : A → machine.State → Prop} (before : machine.State → Prop)
    (stable : Stable promise before) (guarded : ∀ state, before state → guard op state)
    (continued : ∀ state choice value after, before state → promise.answers op choice state →
      machine.exec op choice state = some (value, after) →
      Holds promise guard (rest value) result after)
    {state : machine.State} (now : before state) :
    Holds promise guard (Program.perform op >>= rest) result state :=
  holds_ask before stable guarded continued now

/-- The result of the first program is the assumption of the rest. -/
theorem holds_bind {program : Program Op A} {rest : A → Program Op C}
    {middle : A → machine.State → Prop} {result : C → machine.State → Prop}
    {state : machine.State} (first : Holds promise guard program middle state)
    (later : ∀ value state, middle value state → Holds promise guard (rest value) result state) :
    Holds promise guard (program >>= rest) result state := by
  change Holds promise guard (program.bind rest) result state
  refine Holds.coinduct (fun state program => (∃ part : Program Op A, program = part.bind rest ∧
    Holds promise guard part middle state) ∨ Holds promise guard program result state)
    ?_ ?_ ?_ (.inl ⟨program, rfl, first⟩)
  · rintro state _ after final (⟨part, rfl, holds⟩ | holds) step
    · obtain ⟨value, rfl⟩ | ⟨part', rfl, inner⟩ := step.bind_inv
      · exact .inr ((later value state (holds.result rfl)).step step)
      · exact .inl ⟨part', rfl, holds.step inner⟩
    · exact .inr (holds.step step)
  · rintro B state op next (⟨part, equal, holds⟩ | holds)
    · cases part with
      | done value =>
          have continued := later value state (holds.result rfl)
          exact (continued _ _ (by rw [equal]; exact ReflTransGen.refl)).1 B op next rfl
      | ask op' next' =>
          cases equal
          exact (holds _ _ ReflTransGen.refl).1 _ _ _ rfl
      | loop body start next' => cases equal
    · exact (holds _ _ ReflTransGen.refl).1 B op next rfl
  · rintro state value (⟨part, equal, holds⟩ | holds)
    · cases part with
      | done first => exact (later first state (holds.result rfl)).result equal.symm
      | ask op' next' => cases equal
      | loop body start next' => cases equal
    · exact holds.result rfl

theorem Holds.weaken {program : Program Op A} {strong weak : A → machine.State → Prop}
    {state : machine.State} (holds : Holds promise guard program strong state)
    (implies : ∀ value state, strong value state → weak value state) :
    Holds promise guard program weak state := fun after later reached =>
  ⟨(holds after later reached).1,
    fun value finished => implies value after ((holds after later reached).2 value finished)⟩

/-- A run that satisfies a guard satisfies every weaker one. -/
theorem Holds.relax {weaker : machine.Guard} {program : Program Op A}
    {result : A → machine.State → Prop} {state : machine.State}
    (holds : Holds promise guard program result state)
    (implies : ∀ {B : Type} (op : Op B) state, guard op state → weaker op state) :
    Holds promise weaker program result state := fun after later reached =>
  ⟨fun B op next asked => implies op after ((holds after later reached).1 B op next asked),
    (holds after later reached).2⟩

/-- The loop invariant holds before each turn, and a turn that leaves the loop gives its exit. -/
theorem holds_iterate {S : Type} {body : S → Program Op (S ⊕ A)} {start : S}
    (invariant : S → machine.State → Prop) {result : A → machine.State → Prop}
    (stable : ∀ state, Stable promise (invariant state))
    (each : ∀ start state, invariant start state →
      Holds promise guard (body start)
        (fun outcome state => outcome.elim (fun again => invariant again state)
          (fun value => result value state)) state)
    (leaves : ∀ value, Stable promise (result value))
    {state : machine.State} (now : invariant start state) :
    Holds promise guard (Program.iterate body start) result state := by
  refine Holds.coinduct (fun state program =>
    (∃ start, program = .loop body start .done ∧ invariant start state) ∨
    (∃ part : Program Op (S ⊕ A), program = part.bind (Program.turn body .done) ∧
      Holds promise guard part (fun outcome state => outcome.elim
        (fun again => invariant again state) (fun value => result value state)) state) ∨
    (∃ value, program = .done value ∧ result value state))
    ?_ ?_ ?_ (.inl ⟨start, rfl, now⟩)
  · rintro state _ after final (⟨start, rfl, now⟩ | ⟨part, rfl, holds⟩ | ⟨value, rfl, now⟩) step
    · cases step with
      | move move kept moved => exact .inl ⟨start, rfl, stable _ _ _ _ now kept moved⟩
      | turn => exact .inr (.inl ⟨body start, rfl, each start _ now⟩)
    · obtain ⟨outcome, rfl⟩ | ⟨part', rfl, inner⟩ := step.bind_inv
      · have now := holds.result rfl
        cases outcome with
        | inl again =>
            cases step with
            | move move kept moved => exact .inl ⟨again, rfl, stable _ _ _ _ now kept moved⟩
            | turn => exact .inr (.inl ⟨body again, rfl, each again _ now⟩)
        | inr value =>
            obtain ⟨rfl, move, kept, moved⟩ := step.done_inv
            exact .inr (.inr ⟨value, rfl, leaves _ _ _ _ now kept moved⟩)
      · exact .inr (.inl ⟨part', rfl, holds.step inner⟩)
    · obtain ⟨rfl, move, kept, moved⟩ := step.done_inv
      exact .inr (.inr ⟨value, rfl, leaves _ _ _ _ now kept moved⟩)
  · rintro B state op next (⟨start, equal, _⟩ | ⟨part, equal, holds⟩ | ⟨value, equal, _⟩)
    · cases equal
    · cases part with
      | done outcome => cases outcome <;> cases equal
      | ask op' next' =>
          cases equal
          exact (holds _ _ ReflTransGen.refl).1 _ _ _ rfl
      | loop body' start' next' => cases equal
    · cases equal
  · rintro state value (⟨start, equal, _⟩ | ⟨part, equal, holds⟩ | ⟨other, equal, now⟩)
    · cases equal
    · cases part with
      | done outcome =>
          have now := holds.result rfl
          cases outcome with
          | inl again => cases equal
          | inr first => cases equal; exact now
      | ask op' next' => cases equal
      | loop body' start' next' => cases equal
    · cases equal
      exact now

/-- What is left of a program after a step asks only the operations of the program. -/
theorem Step.uses {allowed : {B : Type} → Op B → Prop} {state after : machine.State}
    {program later : Program Op A} (step : Step promise (state, program) (after, later))
    (uses : program.Uses allowed) : later.Uses allowed := by
  cases step with
  | move => exact uses
  | answer => exact uses.2 _
  | @turn B S state body start next =>
      refine Program.uses_bind (uses.1 start) fun outcome => ?_
      cases outcome with
      | inl again => exact uses
      | inr value => exact uses.2 value

/-- A safe program asks only its own operations. -/
theorem Holds.uses {allowed : {B : Type} → Op B → Prop} {program : Program Op A}
    {result : A → machine.State → Prop} {state : machine.State}
    (holds : Holds promise guard program result state) (uses : program.Uses allowed) :
    Holds promise (fun op state => allowed op ∧ guard op state) program result state := by
  refine Holds.coinduct (fun state program => program.Uses allowed ∧
    Holds promise guard program result state) ?_ ?_ ?_ ⟨uses, holds⟩
  · rintro state program after later ⟨uses, holds⟩ step
    exact ⟨step.uses uses, holds.step step⟩
  · rintro B state op next ⟨uses, holds⟩
    exact ⟨uses.1, (holds _ _ ReflTransGen.refl).1 B op next rfl⟩
  · rintro state value ⟨-, holds⟩
    exact holds.result rfl

/-- A program that asks only harmless operations keeps an invariant of those operations. -/
theorem holds_of_uses {allowed : {B : Type} → Op B → Prop} (invariant : machine.State → Prop)
    (stable : Stable promise invariant)
    (guarded : ∀ {B : Type} (op : Op B) state, allowed op → invariant state → guard op state)
    (kept : ∀ {B : Type} (op : Op B) choice state value after, allowed op → invariant state →
      promise.answers op choice state → machine.exec op choice state = some (value, after) →
      invariant after)
    {program : Program Op A} (uses : program.Uses allowed) {state : machine.State}
    (now : invariant state) : Holds promise guard program (fun _ => invariant) state := by
  refine Holds.coinduct (fun state program => program.Uses allowed ∧ invariant state)
    ?_ ?_ ?_ ⟨uses, now⟩
  · rintro state program after later ⟨uses, now⟩ step
    refine ⟨step.uses uses, ?_⟩
    cases step with
    | move move permitted moved => exact stable _ _ _ now permitted moved
    | answer choice permitted answered => exact kept _ _ _ _ _ uses.1 now permitted answered
    | turn => exact now
  · rintro B state op next ⟨uses, now⟩
    exact guarded op state uses.1 now
  · rintro state value ⟨_, now⟩
    exact now

/-- A state invariant that guarded operations and moves keep holds along the whole run. -/
theorem Holds.invariant {program : Program Op A} {result : A → machine.State → Prop}
    {state : machine.State} (holds : Holds promise guard program result state)
    (invariant : machine.State → Prop) (stable : Stable promise invariant)
    (kept : ∀ {B : Type} (op : Op B) choice state value after, guard op state → invariant state →
      promise.answers op choice state → machine.exec op choice state = some (value, after) →
      invariant after)
    (now : invariant state) {after : machine.State} {later : Program Op A}
    (reached : Reaches promise (state, program) (after, later)) : invariant after := by
  generalize target : (after, later) = final at reached
  induction reached generalizing after later with
  | refl => cases target; exact now
  | @tail middle final path step ih =>
      rcases middle with ⟨middleState, middleProgram⟩
      subst target
      have before := ih rfl
      cases step with
      | move move permitted moved => exact stable _ _ _ before permitted moved
      | answer choice permitted answered =>
          exact kept _ _ _ _ _ ((holds _ _ path).1 _ _ _ rfl) before permitted answered
      | turn => exact before

/-- An invariant of every single step needs no account of the program. -/
theorem reaches_invariant (invariant : machine.State → Prop) (stable : Stable promise invariant)
    (kept : ∀ {B : Type} (op : Op B) choice state value after, invariant state →
      promise.answers op choice state → machine.exec op choice state = some (value, after) →
      invariant after)
    {state after : machine.State} {program later : Program Op A} (now : invariant state)
    (reached : Reaches promise (state, program) (after, later)) : invariant after := by
  exact (holds_trivial program state).invariant invariant stable
    (fun op choice state value after _ before permitted answered =>
      kept op choice state value after before permitted answered) now reached

/-- In these runs every operation is answered in a state of the invariant. -/
def Promise.given (promise : machine.Promise) (invariant : machine.State → Prop) :
    machine.Promise where
  answers op choice state := promise.answers op choice state ∧ invariant state
  moves := promise.moves

/-- The steps of a run may use every invariant of the steps. -/
theorem Reaches.given (invariant : machine.State → Prop) (stable : Stable promise invariant)
    (kept : ∀ {B : Type} (op : Op B) choice state value after, invariant state →
      promise.answers op choice state → machine.exec op choice state = some (value, after) →
      invariant after)
    {state after : machine.State} {program later : Program Op A} (now : invariant state)
    (reached : Reaches promise (state, program) (after, later)) :
    Reaches (promise.given invariant) (state, program) (after, later) := by
  generalize target : (after, later) = last at reached
  induction reached generalizing after later with
  | refl => cases target; exact ReflTransGen.refl
  | @tail middle last path step ih =>
      rcases middle with ⟨middleState, middleProgram⟩
      subst target
      have before : invariant middleState := reaches_invariant invariant stable kept now path
      cases step with
      | move move permitted moved => exact (ih rfl).tail (.move move permitted moved)
      | answer choice permitted answered =>
          exact (ih rfl).tail (.answer choice ⟨permitted, before⟩ answered)
      | turn => exact (ih rfl).tail .turn

/-- In these runs every step leads to a state of the property. -/
def Promise.within (promise : machine.Promise) (property : machine.State → Prop) :
    machine.Promise where
  answers op choice state := promise.answers op choice state ∧
    ∀ value after, machine.exec op choice state = some (value, after) → property after
  moves move state := promise.moves move state ∧
    ∀ after, machine.move move state = some after → property after

/-- A run of a promise is a run of every weaker one. -/
theorem Reaches.mono {weaker : machine.Promise}
    (answers : ∀ {B : Type} (op : Op B) choice state, promise.answers op choice state →
      weaker.answers op choice state)
    (moves : ∀ move state, promise.moves move state → weaker.moves move state)
    {config last : machine.Configuration A} (reached : Reaches promise config last) :
    Reaches weaker config last := by
  induction reached with
  | refl => exact ReflTransGen.refl
  | tail _ step ih =>
      cases step with
      | move move kept moved => exact ih.tail (.move move (moves _ _ kept) moved)
      | answer choice kept answered => exact ih.tail (.answer choice (answers _ _ _ kept) answered)
      | turn => exact ih.tail .turn

/-- Every run is one of the environment without a promise. -/
theorem Reaches.any {config last : machine.Configuration A} (reached : Reaches promise config last) :
    Reaches (Promise.any machine) config last :=
  reached.mono (fun _ _ _ _ => trivial) (fun _ _ _ => trivial)

/-- In these runs every operation is answered in a state that its guard allows. -/
def Promise.guarded (promise : machine.Promise) (guard : machine.Guard) : machine.Promise where
  answers op choice state := promise.answers op choice state ∧ guard op state
  moves := promise.moves

/-- The runs of a safe program may use its guards. -/
theorem Holds.guarded {program later : Program Op A} {result : A → machine.State → Prop}
    {state after : machine.State} {stronger : machine.Promise}
    (holds : Holds promise guard program result state)
    (weaker : ∀ {last : machine.Configuration A}, Reaches stronger (state, program) last →
      Reaches promise (state, program) last)
    (reached : Reaches stronger (state, program) (after, later)) :
    Reaches (stronger.guarded guard) (state, program) (after, later) := by
  generalize target : (after, later) = last at reached
  induction reached generalizing after later with
  | refl => exact ReflTransGen.refl
  | @tail middle last path step ih =>
      rcases middle with ⟨middleState, middleProgram⟩
      have allowed := (holds _ _ (weaker path)).1
      cases step with
      | move move permitted moved => exact (ih rfl).tail (.move move permitted moved)
      | answer choice permitted answered =>
          exact (ih rfl).tail (.answer choice ⟨permitted, allowed _ _ _ rfl⟩ answered)
      | turn => exact (ih rfl).tail .turn

/-- A property that no step can restore holds all along a run that ends with it. -/
theorem Reaches.within {property : machine.State → Prop}
    (answers : ∀ {B : Type} (op : Op B) choice state value after,
      machine.exec op choice state = some (value, after) → property after → property state)
    (moves : ∀ move state after, machine.move move state = some after → property after → property state)
    {state after : machine.State} {program later : Program Op A}
    (reached : Reaches promise (state, program) (after, later)) (final : property after) :
    property state ∧ Reaches (promise.within property) (state, program) (after, later) := by
  generalize target : (after, later) = last at reached
  induction reached generalizing after later with
  | refl => cases target; exact ⟨final, ReflTransGen.refl⟩
  | @tail middle last path step ih =>
      rcases middle with ⟨middleState, middleProgram⟩
      subst target
      cases step with
      | move move kept moved =>
          obtain ⟨start, before⟩ := ih (moves _ _ _ moved final) rfl
          refine ⟨start, before.tail (.move move ⟨kept, fun other done => ?_⟩ moved)⟩
          rw [moved] at done
          cases done
          exact final
      | answer choice kept answered =>
          obtain ⟨start, before⟩ := ih (answers _ _ _ _ _ answered final) rfl
          refine ⟨start, before.tail (.answer choice ⟨kept, fun value other done => ?_⟩ answered)⟩
          rw [answered] at done
          cases done
          exact final
      | turn =>
          obtain ⟨start, before⟩ := ih final rfl
          exact ⟨start, before.tail .turn⟩

/-- A safe program may use at its end what every step of its runs establishes. -/
theorem Holds.within {property : machine.State → Prop} {program : Program Op A}
    {result : A → machine.State → Prop} {state : machine.State}
    (holds : Holds (promise.within property) guard program result state) (now : property state) :
    Holds (promise.within property) guard program
      (fun value after => result value after ∧ property after) state := by
  intro after later reached
  have stable : Stable (promise.within property) property :=
    fun _ _ after _ permitted moved => permitted.2 after moved
  have kept : property after := reaches_invariant property stable
    (fun _ _ _ value after _ permitted answered => permitted.2 value after answered) now reached
  exact ⟨(holds after later reached).1, fun value finished =>
    ⟨(holds after later reached).2 value finished, kept⟩⟩

end Machine

end Interaction
