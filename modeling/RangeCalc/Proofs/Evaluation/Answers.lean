import RangeCalc.Evaluation.Meanings
import RangeCalc.Proofs.Evaluation.Simulation

/-! What becomes of a provider's answer: one outside the range that was asked for is an error, and a
record of the requests leaves it as it is. -/

namespace RangeCalc

variable {σ : Type}

namespace Provider

variable {provider : Provider σ} {lower upper : Int64} {answer : Except EvalError Int64}

/-- The answer of a provider, unless it lies outside the range. -/
def accepted (lower upper : Int64) : Except EvalError Int64 → Except EvalError Int64
  | .ok value =>
      if lower ≤ value ∧ value ≤ upper then .ok value
      else .error (.outOfRange value lower upper)
  | .error problem => .error problem

theorem mem_of_accepted {value : Int64} (h : accepted lower upper answer = .ok value) :
    lower ≤ value ∧ value ≤ upper := by
  cases answer with
  | ok found =>
      rw [accepted] at h
      split at h
      · next hinside =>
        cases h
        exact hinside
      · cases h
  | error problem => cases h

theorem eq_overflow_of_accepted {operation : Arithmetic}
    (h : accepted lower upper answer = .error (.overflow operation)) :
    answer = .error (.overflow operation) := by
  cases answer with
  | ok found =>
      rw [accepted] at h
      split at h <;> cases h
  | error problem => exact h

theorem run_checkedInput {state final : σ}
    (hrun : (provider lower upper).run.run state = (answer, final)) :
    (Semantics.checkedInput provider lower upper).run.run state =
      (accepted lower upper answer, final) := by
  cases answer with
  | ok value =>
      rw [Semantics.checkedInput, Eval.run_bind_of_ok hrun, accepted]
      split <;> rfl
  | error problem => exact Eval.run_bind_of_error hrun

theorem run_recorded {recorded : Recorded σ} {final : σ}
    (hrun : (provider lower upper).run.run recorded.state = (answer, final)) :
    (provider.recorded lower upper).run.run recorded =
      (answer, ⟨final, (lower, upper) :: recorded.asked⟩) := by
  change Provider.recorded provider lower upper recorded = _
  rw [Provider.recorded, show provider lower upper recorded.state = _ from hrun]

end Provider

end RangeCalc
