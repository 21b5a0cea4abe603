import ConstructEngine.Interaction.Safety

namespace Interaction

universe u

/-- The program owns this part of the state: the environment never moves it. -/
structure Machine.Owned {Op : Type → Type u} (machine : Machine Op) (O : Type) where
  view : machine.State → O
  kept : ∀ move state after, machine.move move state = some after → view after = view state

namespace Machine.Owned

variable {Op : Type → Type u} {machine : Machine Op} {O A C : Type} (owned : machine.Owned O)
  (promise : machine.Promise) (guard : machine.Guard)

/-- The program is safe from every state with this owned part, and its result speaks about
the owned part at the end. -/
def Safe (program : Program Op A) (result : A → O → Prop) (before : O) : Prop :=
  ∀ state, owned.view state = before →
    Holds promise guard program (fun value after => result value (owned.view after)) state

variable {promise} {guard}

theorem stable (assertion : O → Prop) :
    Stable promise fun state => assertion (owned.view state) := by
  intro move state after now _ moved
  rw [owned.kept move state after moved]
  exact now

variable {owned}

/-- A program that is done needs its result. -/
theorem safe_done {result : A → O → Prop} {value : A} {before : O} (now : result value before) :
    owned.Safe promise guard (.done value) result before := by
  rintro state rfl
  exact holds_done (owned.stable (result value)) now

theorem safe_ask {B : Type} {op : Op B} {next : B → Program Op A} {result : A → O → Prop}
    {before : O} (guarded : ∀ state, owned.view state = before → guard op state)
    (continued : ∀ state choice value after, owned.view state = before →
      promise.answers op choice state → machine.exec op choice state = some (value, after) →
      owned.Safe promise guard (next value) result (owned.view after)) :
    owned.Safe promise guard (.ask op next) result before := by
  rintro state same
  refine holds_ask (fun state => owned.view state = before)
    (owned.stable (· = before)) guarded ?_ same
  intro state choice value after same kept answered
  exact continued state choice value after same kept answered after rfl

/-- One operation is safe when its guard holds and its effect on the owned part gives the result. -/
theorem safe_perform {op : Op A} {result : A → O → Prop} {before : O}
    (guarded : ∀ state, owned.view state = before → guard op state)
    (effect : ∀ state choice value after, owned.view state = before →
      promise.answers op choice state → machine.exec op choice state = some (value, after) →
      result value (owned.view after)) :
    owned.Safe promise guard (Program.perform op) result before :=
  safe_ask guarded fun state choice value after same kept answered =>
    safe_done (effect state choice value after same kept answered)

/-- The rest of a sequence continues from what its first operation does to the owned part. -/
theorem safe_step {B : Type} {op : Op B} {rest : B → Program Op A} {result : A → O → Prop}
    {before : O} (guarded : ∀ state, owned.view state = before → guard op state)
    (continued : ∀ state choice value after, owned.view state = before →
      promise.answers op choice state → machine.exec op choice state = some (value, after) →
      owned.Safe promise guard (rest value) result (owned.view after)) :
    owned.Safe promise guard (Program.perform op >>= rest) result before :=
  safe_ask guarded continued

theorem safe_bind {program : Program Op A} {rest : A → Program Op C} {result : C → O → Prop}
    {before : O}
    (first : owned.Safe promise guard program
      (fun value middle => owned.Safe promise guard (rest value) result middle) before) :
    owned.Safe promise guard (program >>= rest) result before := by
  rintro state same
  exact holds_bind (first state same) fun value middle later => later middle rfl

theorem Safe.weaken {program : Program Op A} {strong weak : A → O → Prop} {before : O}
    (safe : owned.Safe promise guard program strong before)
    (implies : ∀ value after, strong value after → weak value after) :
    owned.Safe promise guard program weak before := fun state same =>
  (safe state same).weaken fun value _ now => implies value _ now

/-- Safety under a guard is safety under every weaker one. -/
theorem Safe.relax {weaker : machine.Guard} {program : Program Op A} {result : A → O → Prop} {before : O}
    (safe : owned.Safe promise guard program result before)
    (implies : ∀ {B : Type} (op : Op B) state, guard op state → weaker op state) :
    owned.Safe promise weaker program result before := fun state same =>
  (safe state same).relax implies

/-- The rest of a sequence may use what the first program establishes. -/
theorem Safe.andThen {program : Program Op A} {rest : A → Program Op C}
    {middle : A → O → Prop} {result : C → O → Prop} {before : O}
    (first : owned.Safe promise guard program middle before)
    (later : ∀ value after, middle value after → owned.Safe promise guard (rest value) result after) :
    owned.Safe promise guard (program >>= rest) result before :=
  safe_bind (first.weaken later)

/-- A program of harmless operations keeps an invariant of the owned part. -/
theorem safe_of_uses {allowed : {B : Type} → Op B → Prop} (invariant : O → Prop)
    (guarded : ∀ {B : Type} (op : Op B) state, allowed op → invariant (owned.view state) →
      guard op state)
    (kept : ∀ {B : Type} (op : Op B) choice state value after, allowed op →
      invariant (owned.view state) → promise.answers op choice state →
      machine.exec op choice state = some (value, after) → invariant (owned.view after))
    {program : Program Op A} (uses : program.Uses allowed) {before : O} (now : invariant before) :
    owned.Safe promise guard program (fun _ => invariant) before := by
  rintro state rfl
  exact holds_of_uses (fun state => invariant (owned.view state)) (owned.stable invariant)
    guarded kept uses now

/-- A fold keeps an invariant about the items that it has passed. -/
theorem safe_foldlM {B : Type} {each : A → B → Program Op A} (invariant : List B → A → O → Prop)
    (items : List B)
    (step : ∀ passed item total view, passed ++ [item] <+: items → invariant passed total view →
      owned.Safe promise guard (each total item) (invariant (passed ++ [item])) view)
    {total : A} {view : O} (now : invariant [] total view) :
    owned.Safe promise guard (items.foldlM each total) (invariant items) view := by
  -- the induction is on the items that are left
  have later (rest : List B) : ∀ passed total view, passed ++ rest = items → invariant passed total view →
      owned.Safe promise guard (rest.foldlM each total) (invariant items) view := by
    induction rest with
    | nil =>
        rintro passed total view rfl now
        rw [List.append_nil]
        exact safe_done now
    | cons item rest ih =>
        intro passed total view whole now
        rw [List.append_cons] at whole
        exact (step passed item total view ⟨rest, whole⟩ now).andThen fun total after =>
          ih (passed ++ [item]) total after whole
  exact later items [] total view rfl now

/-- The loop invariant holds before each turn, and a turn that leaves the loop gives its exit. -/
theorem safe_iterate {S : Type} {body : S → Program Op (S ⊕ A)} {start : S}
    (invariant : S → O → Prop) {result : A → O → Prop}
    (each : ∀ start view, invariant start view → owned.Safe promise guard (body start)
      (fun outcome after => outcome.elim (fun again => invariant again after)
        (fun value => result value after)) view)
    {before : O} (now : invariant start before) :
    owned.Safe promise guard (Program.iterate body start) result before := by
  rintro state rfl
  exact holds_iterate (fun start state => invariant start (owned.view state))
    (fun start => owned.stable (invariant start)) (fun start state now => each start _ now state rfl)
    (fun value => owned.stable (result value)) now

end Machine.Owned

end Interaction
