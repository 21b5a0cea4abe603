import Mathlib.Data.List.Induction

namespace Interaction

variable {E : Type}

/-- Every event of the trace satisfies the law on the events before it. -/
def AtEach (law : List E → E → Prop) (trace : List E) : Prop :=
  ∀ before event later, trace = before ++ event :: later → law before event

theorem atEach_nil (law : List E → E → Prop) : AtEach law [] := by
  intro before event later equal
  simp at equal

/-- A trace grows by one event under the law of that event. -/
theorem atEach_snoc {law : List E → E → Prop} {trace : List E} {event : E} :
    AtEach law (trace ++ [event]) ↔ AtEach law trace ∧ law trace event := by
  constructor
  · intro each
    constructor
    · rintro before earlier later rfl
      exact each before earlier (later ++ [event]) (by simp)
    · exact each trace event [] rfl
  · rintro ⟨each, last⟩ before current later equal
    rcases List.eq_nil_or_concat later with rfl | ⟨middle, final, rfl⟩
    · obtain ⟨rfl, same⟩ := List.append_inj' equal rfl
      cases same
      exact last
    · have shape : trace ++ [event] = (before ++ current :: middle) ++ [final] := by
        rw [equal]; simp
      obtain ⟨rfl, -⟩ := List.append_inj' shape rfl
      exact each before current middle rfl

/-- A law goes on with what is appended. -/
theorem atEach_append {law : List E → E → Prop} {trace more : List E} (each : AtEach law trace)
    (later : ∀ before event rest, more = before ++ event :: rest → law (trace ++ before) event) :
    AtEach law (trace ++ more) := by
  induction more using List.reverseRecOn with
  | nil => simpa using each
  | append_singleton front last ih =>
      rw [← List.append_assoc, atEach_snoc]
      refine ⟨ih fun before event rest equal => ?_, later front last [] rfl⟩
      exact later before event (rest ++ [last]) (by rw [equal]; simp)

theorem atEach_cons {law : List E → E → Prop} {first : E} {rest : List E} :
    AtEach law (first :: rest) ↔ law [] first ∧ AtEach (fun before => law (first :: before)) rest := by
  constructor
  · intro each
    refine ⟨each [] first rest rfl, ?_⟩
    rintro before event later rfl
    exact each (first :: before) event later rfl
  · rintro ⟨now, each⟩ before event later equal
    cases before with
    | nil => cases equal; exact now
    | cons head before => cases equal; exact each before event later rfl

/-- A law that can be decided at each event can be decided for a trace. -/
instance decidableAtEach : (law : List E → E → Prop) →
    [∀ before event, Decidable (law before event)] → (trace : List E) → Decidable (AtEach law trace)
  | law, _, [] => isTrue (atEach_nil law)
  | law, _, first :: rest =>
      have := decidableAtEach (fun before => law (first :: before)) rest
      decidable_of_iff (law [] first ∧ AtEach (fun before => law (first :: before)) rest)
        atEach_cons.symm

/-- The law holds in every prefix of a trace that satisfies it. -/
theorem AtEach.of_append {law : List E → E → Prop} {trace more : List E}
    (each : AtEach law (trace ++ more)) : AtEach law trace := by
  rintro before event later rfl
  exact each before event (later ++ more) (by simp)

end Interaction
