import ConstructEngine.Interaction.Safety

namespace Interaction

universe u

variable {Op : Type → Type u}

/-- A program is composed of pieces that follow each other and repeat in loops. -/
inductive Program.Composed (piece : (A : Type) → Program Op A → Prop) :
    {A : Type} → Program Op A → Prop
  | done {A : Type} (value : A) : Composed piece (.done value)
  | piece {A : Type} {program : Program Op A} (single : piece A program) : Composed piece program
  | bind {A B : Type} {program : Program Op A} {rest : A → Program Op B}
      (first : Composed piece program) (later : ∀ value, Composed piece (rest value)) :
      Composed piece (program >>= rest)
  | iterate {B S : Type} {body : S → Program Op (S ⊕ B)} (start : S)
      (each : ∀ state, Composed piece (body state)) : Composed piece (Program.iterate body start)

/-- The program is one allowed operation. -/
def Program.Asks (allowed : {B : Type} → Op B → Prop) (A : Type) (program : Program Op A) : Prop :=
  ∃ op : Op A, allowed op ∧ program = perform op

namespace Program.Composed

variable {piece wider : (A : Type) → Program Op A → Prop} {A B C : Type}

/-- Pieces may be replaced by wider ones. -/
theorem mono {program : Program Op A} (composed : Composed piece program)
    (implies : ∀ {B : Type} (single : Program Op B), piece B single → wider B single) :
    Composed wider program := by
  induction composed with
  | done value => exact .done value
  | piece single => exact .piece (implies _ single)
  | bind _ _ first later => exact .bind first later
  | iterate start _ each => exact .iterate start each

/-- A program for each item is composed of its pieces. -/
theorem forM {items : List C} {each : C → Program Op PUnit}
    (composed : ∀ item, Composed piece (each item)) : Composed piece (items.forM each) := by
  induction items with
  | nil => exact .done _
  | cons item rest ih => exact .bind (composed item) fun _ => ih

theorem option {value : Option C} {each : C → Program Op PUnit}
    (composed : ∀ item, Composed piece (each item)) : Composed piece (value.forM each) := by
  cases value with
  | none => exact .done _
  | some item => exact composed item

/-- So is a fold over the items. -/
theorem foldlM {items : List C} {each : B → C → Program Op B}
    (composed : ∀ total item, Composed piece (each total item)) (start : B) :
    Composed piece (items.foldlM each start) := by
  induction items generalizing start with
  | nil => exact .done _
  | cons item rest ih => exact .bind (composed start item) fun total => ih total

/-- Pieces that ask only allowed operations compose to a program that asks only those. -/
theorem uses {allowed : {B : Type} → Op B → Prop} {program : Program Op A}
    (composed : Composed piece program)
    (pieces : ∀ {B : Type} (single : Program Op B), piece B single → single.Uses allowed) :
    program.Uses allowed := by
  induction composed with
  | done value => trivial
  | piece single => exact pieces _ single
  | bind _ _ first later => exact Program.uses_bind first later
  | iterate start _ each => exact Program.uses_iterate each start

/-- Every program is composed of the operations that it asks. -/
theorem of_uses {allowed : {B : Type} → Op B → Prop} {program : Program Op A}
    (uses : program.Uses allowed) : Composed (Asks allowed) program := by
  induction program with
  | done value => exact .done value
  | ask op next ih =>
      have single : Asks allowed _ (Program.perform op : Program Op _) := ⟨op, uses.1, rfl⟩
      exact bind (piece single) fun answer => ih answer (uses.2 answer)
  | loop body start next each ih =>
      have first : Composed (Asks allowed) (Program.iterate body start) :=
        .iterate start fun state => each state (uses.1 state)
      exact first.bind fun result => ih result (uses.2 result)

end Program.Composed

namespace Machine

variable {machine : Machine Op} {A B : Type}

/-- The program is safe from every state of the invariant and ends in such a state. -/
def Keeps (promise : machine.Promise) (guard : machine.Guard) (invariant : machine.State → Prop)
    (program : Program Op A) : Prop :=
  ∀ state, invariant state → Holds promise guard program (fun _ => invariant) state

variable {promise : machine.Promise} {guard : machine.Guard} {invariant : machine.State → Prop}

theorem keeps_done (stable : Stable promise invariant) (value : A) :
    Keeps promise guard invariant (.done value : Program Op A) :=
  fun _ now => holds_done stable now

/-- One operation keeps a stable invariant when its effect does. -/
theorem keeps_perform {op : Op A} (stable : Stable promise invariant)
    (guarded : ∀ state, invariant state → guard op state)
    (effect : ∀ state choice value after, invariant state → promise.answers op choice state →
      machine.exec op choice state = some (value, after) → invariant after) :
    Keeps promise guard invariant (Program.perform op) := fun _ now =>
  holds_ask invariant stable guarded
    (fun state choice value after now kept answered =>
      holds_done stable (effect state choice value after now kept answered)) now

theorem keeps_bind {program : Program Op A} {rest : A → Program Op B}
    (first : Keeps promise guard invariant program)
    (later : ∀ value, Keeps promise guard invariant (rest value)) :
    Keeps promise guard invariant (program >>= rest) := fun state now =>
  holds_bind (first state now) fun value middle kept => later value middle kept

theorem keeps_iterate {S : Type} {body : S → Program Op (S ⊕ B)}
    (stable : Stable promise invariant) (each : ∀ start, Keeps promise guard invariant (body start))
    (start : S) : Keeps promise guard invariant (Program.iterate body start) := fun _ now =>
  holds_iterate (fun _ => invariant) (fun _ => stable)
    (fun start state now => (each start state now).weaken fun outcome _ kept => by
      cases outcome <;> exact kept)
    (fun _ => stable) now

/-- A composed program keeps every invariant that its pieces keep. -/
theorem keeps_composed {piece : (A : Type) → Program Op A → Prop} {program : Program Op A}
    (composed : Program.Composed piece program) (stable : Stable promise invariant)
    (pieces : ∀ {B : Type} (single : Program Op B), piece B single →
      Keeps promise guard invariant single) :
    Keeps promise guard invariant program := by
  induction composed with
  | done value => exact keeps_done stable value
  | piece single => exact pieces _ single
  | bind _ _ first later => exact keeps_bind first later
  | iterate start _ each => exact keeps_iterate stable each start

/-- Keeping an invariant is a property of pieces that composition preserves. -/
theorem keeps_of_composed {program : Program Op A} (stable : Stable promise invariant)
    (composed : Program.Composed (fun _ single => Keeps promise guard invariant single) program) :
    Keeps promise guard invariant program :=
  keeps_composed composed stable fun _ kept => kept

/-- A program keeps every invariant that the operations it asks keep. -/
theorem keeps_of_uses {allowed : {B : Type} → Op B → Prop} {program : Program Op A}
    (stable : Stable promise invariant)
    (ops : ∀ {B : Type} (op : Op B), allowed op → Keeps promise guard invariant (Program.perform op))
    (uses : program.Uses allowed) : Keeps promise guard invariant program := by
  refine keeps_composed (Program.Composed.of_uses uses) stable fun single asked => ?_
  obtain ⟨op, permitted, rfl⟩ := asked
  exact ops op permitted

end Machine

end Interaction
