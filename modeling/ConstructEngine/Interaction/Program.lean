import Mathlib.Logic.Relation

namespace Interaction

universe u

/-- A program asks one operation at a time and continues with the answer. -/
inductive Program (Op : Type → Type u) : Type → Type (max 1 u) where
  | done {A : Type} (value : A) : Program Op A
  | ask {A B : Type} (op : Op B) (next : B → Program Op A) : Program Op A
  | loop {A B S : Type} (body : S → Program Op (S ⊕ B)) (start : S)
      (next : B → Program Op A) : Program Op A

namespace Program

variable {Op : Type → Type u} {A B C S : Type}

/-- The rest takes over where the program is done. -/
def bind {A C : Type} : Program Op A → (A → Program Op C) → Program Op C
  | .done value, rest => rest value
  | .ask op next, rest => .ask op fun answer => (next answer).bind rest
  | .loop body start next, rest => .loop body start fun result => (next result).bind rest

instance : Monad (Program Op) where
  pure := Program.done
  bind := Program.bind

/-- One operation is a program that returns its answer. -/
def perform (op : Op A) : Program Op A := .ask op .done

/-- The loop runs its body until the body returns a result. -/
def iterate (body : S → Program Op (S ⊕ B)) (start : S) : Program Op B :=
  .loop body start .done

/-- A value alone is a program that is done. -/
@[simp] theorem pure_eq_done (value : A) : (pure value : Program Op A) = .done value := rfl

/-- The rest begins with the value. -/
@[simp] theorem done_bind (value : A) (rest : A → Program Op B) :
    (Program.done value : Program Op A).bind rest = rest value := rfl

/-- The rest comes after the answer. -/
@[simp] theorem ask_bind (op : Op C) (next : C → Program Op A) (rest : A → Program Op B) :
    (Program.ask op next).bind rest = .ask op fun answer => (next answer).bind rest := rfl

/-- The rest comes after the loop. -/
@[simp] theorem loop_bind (body : S → Program Op (S ⊕ C)) (start : S)
    (next : C → Program Op A) (rest : A → Program Op B) :
    (Program.loop body start next).bind rest =
      .loop body start fun result => (next result).bind rest := rfl

/-- It does not matter which part is put together first. -/
theorem bind_assoc (program : Program Op A) (first : A → Program Op B)
    (second : B → Program Op C) :
    (program.bind first).bind second = program.bind fun value => (first value).bind second := by
  induction program with
  | done value => rfl
  | ask op next ih => simp only [ask_bind, ih]
  | loop body start next _ ih => simp only [loop_bind, ih]

/-- A sequence has ended when both of its parts have. -/
theorem bind_done_inv {program : Program Op A} {rest : A → Program Op B} {value : B}
    (ended : program >>= rest = .done value) : ∃ inner, program = .done inner ∧ rest inner = .done value := by
  cases program with
  | done inner => exact ⟨inner, rfl, ended⟩
  | ask op next => cases ended
  | loop body start next => cases ended

/-- One turn of a loop runs the body and then either repeats or leaves. -/
def turn (body : S → Program Op (S ⊕ B)) (next : B → Program Op A) : S ⊕ B → Program Op A
  | .inl state => .loop body state next
  | .inr result => next result

theorem turn_bind (body : S → Program Op (S ⊕ B)) (next : B → Program Op A)
    (rest : A → Program Op C) (outcome : S ⊕ B) :
    (turn body next outcome).bind rest = turn body (fun result => (next result).bind rest) outcome := by
  cases outcome <;> rfl

/-- The program asks only allowed operations, whatever the answers are. -/
def Uses (allowed : {B : Type} → Op B → Prop) {A : Type} : Program Op A → Prop
  | .done _ => True
  | .ask op next => allowed op ∧ ∀ answer, (next answer).Uses allowed
  | .loop body _ next => (∀ state, (body state).Uses allowed) ∧ ∀ result, (next result).Uses allowed

section
variable {allowed : {B : Type} → Op B → Prop}

/-- A program that is done uses nothing. -/
@[simp] theorem uses_done (value : A) : (Program.done value : Program Op A).Uses allowed :=
  trivial

@[simp] theorem uses_pure (value : A) : (pure value : Program Op A).Uses allowed := trivial

/-- Both parts use only what is allowed. -/
theorem uses_bind {program : Program Op A} {rest : A → Program Op B}
    (first : program.Uses allowed) (later : ∀ value, (rest value).Uses allowed) :
    (program >>= rest).Uses allowed := by
  change (program.bind rest).Uses allowed
  induction program with
  | done value => exact later value
  | ask op next ih => exact ⟨first.1, fun answer => ih answer (first.2 answer) later⟩
  | loop body start next _ ih =>
      exact ⟨first.1, fun result => ih result (first.2 result) later⟩

/-- More may be allowed. -/
theorem Uses.mono {wider : {B : Type} → Op B → Prop} {program : Program Op A}
    (uses : program.Uses allowed) (implies : ∀ {B : Type} (op : Op B), allowed op → wider op) :
    program.Uses wider := by
  induction program with
  | done value => trivial
  | ask op next ih => exact ⟨implies op uses.1, fun answer => ih answer (uses.2 answer)⟩
  | loop body start next each ih =>
      exact ⟨fun state => each state (uses.1 state), fun result => ih result (uses.2 result)⟩

theorem uses_perform {op : Op A} (permitted : allowed op) : (perform op).Uses allowed :=
  ⟨permitted, fun _ => trivial⟩

theorem uses_iterate {body : S → Program Op (S ⊕ B)} (each : ∀ state, (body state).Uses allowed)
    (start : S) : (iterate body start).Uses allowed :=
  ⟨each, fun _ => trivial⟩

end

end Program

end Interaction
