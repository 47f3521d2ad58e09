/-!
# Steps that succeed or refuse

A declaration is lowered by a chain of steps, each of which may refuse. These equations take a
chain apart into its steps, one that has succeeded or one that has refused, so that a proof about
lowering names the answers in between and never opens the chain again.
-/

namespace Interop.Outcome

variable {ε ε' α β : Type}

theorem bind_eq_ok_iff {first : Except ε α} {next : α → Except ε β} {answer : β} :
    (first >>= next) = .ok answer ↔ ∃ middle, first = .ok middle ∧ next middle = .ok answer := by
  cases first <;> simp [bind, Except.bind]

theorem map_eq_ok_iff {step : Except ε α} {change : α → β} {answer : β} :
    step.map change = .ok answer ↔ ∃ middle, step = .ok middle ∧ change middle = answer := by
  cases step <;> simp [Except.map]

theorem mapError_eq_ok_iff {step : Except ε α} {change : ε → ε'} {answer : α} :
    step.mapError change = .ok answer ↔ step = .ok answer := by
  cases step with
  | error error =>
      show (.error (change error) : Except ε' α) = .ok answer ↔ _
      simp only [reduceCtorEq]
  | ok value =>
      show (.ok value : Except ε' α) = .ok answer ↔ _
      simp only [Except.ok.injEq]

theorem bind_eq_error_iff {first : Except ε α} {next : α → Except ε β} {error : ε} :
    (first >>= next) = .error error ↔
      first = .error error ∨ ∃ middle, first = .ok middle ∧ next middle = .error error := by
  cases first <;> simp [bind, Except.bind]

theorem mapError_eq_error_iff {step : Except ε α} {change : ε → ε'} {error : ε'} :
    step.mapError change = .error error ↔ ∃ cause, step = .error cause ∧ change cause = error := by
  cases step with
  | error cause =>
      show (.error (change cause) : Except ε' α) = .error error ↔ _
      simp only [Except.error.injEq, exists_eq_left']
  | ok value =>
      show (.ok value : Except ε' α) = .error error ↔ _
      simp only [reduceCtorEq, false_and, exists_false]

/-- The error of a step that refuses. -/
def error? : Except ε α → Option ε
  | .error error => some error
  | .ok _ => none

theorem error?_eq_some_iff {step : Except ε α} {error : ε} :
    error? step = some error ↔ step = .error error := by
  cases step <;> simp [error?]

theorem exists_eq_ok_of_isOk {step : Except ε α} (h : step.isOk = true) :
    ∃ answer, step = .ok answer := by
  cases step with
  | error => cases h
  | ok value => exact ⟨value, rfl⟩

end Interop.Outcome
