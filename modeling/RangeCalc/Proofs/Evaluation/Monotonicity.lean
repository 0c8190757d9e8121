import RangeCalc.Evaluation.Meanings
import RangeCalc.Proofs.Evaluation.Agreement
import RangeCalc.Proofs.Interval.Inclusion

/-! The analysis of ranges is monotone: what is known more exactly of the inputs and of the
variables never makes the interval of an expression wider. -/

namespace RangeCalc

namespace Semantics

theorem intervals_corresponds_within :
    intervals.Corresponds Eval.agree intervals Interval.Within where
  literal value := Eval.agree_pure (.refl (Interval.valid_singleton value))
  combine op _ _ _ _ hleft hright := Eval.agree_pure (.combine op hleft hright)
  negate hoperand := Eval.agree_pure hoperand.negate
  input hordered := Eval.agree_pure (.refl hordered)

theorem agree_request_within {lower upper lower' upper' : Int64}
    (hranges : Interval.Within ⟨lower, upper⟩ ⟨lower', upper'⟩) :
    Eval.Agree Interval.Within (intervals.request lower upper)
      (intervals.request lower' upper') := by
  obtain ⟨hordered, hlower, hupper⟩ := Interval.within_iff.mp hranges
  have hordered' : lower' ≤ upper' := Int64.le_trans hlower (Int64.le_trans hordered hupper)
  rw [request, request, if_neg (Int64.not_lt.mpr hordered), if_neg (Int64.not_lt.mpr hordered')]
  exact Eval.agree_pure hranges

end Semantics

namespace Expr

/-- Where every range and every interval in scope lies within its counterpart, the interval of the
one expression lies within that of the other, or the same variable is unbound in both. -/
theorem rangeIn_within {e e' : Expr} {env env' : Env Interval} (halike : e.Alike Interval.Within e')
    (henv : Env.Related Interval.Within env env') :
    Result.Related Interval.Within (e.rangeIn env) (e'.rangeIn env') :=
  (Semantics.intervals_corresponds_within.evaluate_alike Semantics.agree_request_within halike
    henv).result

/-- `let x = ?[2, 3] in x * -(y + x)`, where the range of `x` can be another one. -/
private def scaled (lower upper : Int64) : Expr :=
  .letIn "x" (.input lower upper)
    (.binary .times (.var "x") (.negate (.binary .plus (.var "y") (.var "x"))))

/-- The least product is 3 * -7 at first. With wider operands it is -3 * 12, of the other ends. -/
theorem rangeIn_within_scaled :
    (scaled 2 3).rangeIn (Frame.empty.bind "y" ⟨1, 4⟩) = .ok ⟨-21, -6⟩ ∧
      (scaled (-3) 3).rangeIn (Frame.empty.bind "y" ⟨-9, 4⟩) = .ok ⟨-36, 36⟩ ∧
      Interval.Within ⟨-21, -6⟩ ⟨-36, 36⟩ := by
  have halike : (scaled 2 3).Alike Interval.Within (scaled (-3) 3) := by
    apply Alike.letIn "x"
    · exact .input (Interval.within_iff.mpr
        ⟨Interval.valid_iff.mpr (by decide), by decide, by decide⟩)
    · exact .binary .times (.var "x") (.negate (.binary .plus (.var "y") (.var "x")))
  have henv : Env.Related Interval.Within (Frame.empty.bind "y" ⟨1, 4⟩)
      (Frame.empty.bind "y" ⟨-9, 4⟩) :=
    Env.Related.empty.bind "y" (Interval.within_iff.mpr
      ⟨Interval.valid_iff.mpr (by decide), by decide, by decide⟩)
  have hnarrow : (scaled 2 3).rangeIn (Frame.empty.bind "y" ⟨1, 4⟩) = .ok ⟨-21, -6⟩ := by rfl
  have hwide : (scaled (-3) 3).rangeIn (Frame.empty.bind "y" ⟨-9, 4⟩) = .ok ⟨-36, 36⟩ := by rfl
  have hrelated := rangeIn_within halike henv
  rw [hnarrow, hwide] at hrelated
  cases hrelated with
  | ok hwithin => exact ⟨hnarrow, hwide, hwithin⟩

end Expr

end RangeCalc
