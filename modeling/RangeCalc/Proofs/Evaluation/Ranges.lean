import RangeCalc.Evaluation.Meanings
import RangeCalc.Proofs.Evaluation.Simulation
import RangeCalc.Proofs.Interval.Membership

/-! The interval of an expression holds every value that the expression comes to. -/

namespace RangeCalc

variable {σ : Type}

theorem Arithmetic.toInt_of_run_checked {operation : Arithmetic} {exact : Int} {state state' : σ}
    {value : Int64}
    (hrun : (operation.checked exact).run.run state = (.ok value, state')) :
    value.toInt = exact := by
  unfold Arithmetic.checked at hrun
  split at hrun
  · next found hfit =>
    cases hrun
    exact Integer.fit?_eq_some_iff.mp hfit
  · cases hrun

namespace Semantics

theorem mem_combine {op : Operator} {left right value : Int64} {i j : Interval} {state state' : σ}
    (hleft : left ∈ i) (hright : right ∈ j)
    (hrun : (Arithmetic.combine op left right).run.run state = (.ok value, state')) :
    value ∈ Interval.combine op i j := by
  cases op with
  | plus => exact Interval.mem_add hleft hright (Arithmetic.toInt_of_run_checked hrun)
  | times => exact Interval.mem_multiply hleft hright (Arithmetic.toInt_of_run_checked hrun)

theorem mem_of_run_checkedInput {provider : Provider σ} {lower upper value : Int64}
    {state state' : σ}
    (hrun : (checkedInput provider lower upper).run.run state = (.ok value, state')) :
    value ∈ Interval.mk lower upper := by
  obtain ⟨answer, middle, -, hchecked⟩ := Eval.run_bind_eq_ok_iff.mp hrun
  split at hchecked
  · next hinside =>
    cases hchecked
    exact hinside
  · cases hchecked

theorem concrete_leadsTo_intervals (provider : Provider σ) :
    (concrete provider).LeadsTo intervals fun value i => value ∈ i where
  literal value := Eval.leads_pure (Interval.mem_singleton value)
  combine op left right i j hleft hright := by
    intro state value state' hrun other
    exact ⟨_, other, rfl, mem_combine hleft hright hrun⟩
  negate hvalue := by
    intro state value state' hrun other
    exact ⟨_, other, rfl, Interval.mem_negate hvalue (Arithmetic.toInt_of_run_checked hrun)⟩
  input hordered := by
    intro state value state' hrun other
    exact ⟨_, other, rfl, mem_of_run_checkedInput hrun⟩

end Semantics

namespace Expr

/-- Where the environment's values lie in the intervals of the same names, the value of an
expression lies in its interval. -/
theorem mem_rangeIn_of_run_concrete {provider : Provider σ} {e : Expr} {env : Env Int64}
    {ranges : Env Interval} {state state' : σ} {value : Int64}
    (henv : Env.Related (fun value i => value ∈ i) env ranges)
    (hrun : ((Semantics.concrete provider).evaluate e env).run.run state = (.ok value, state')) :
    ∃ i, e.rangeIn ranges = .ok i ∧ i.lower ≤ value ∧ value ≤ i.upper := by
  obtain ⟨i, _, hrange, hvalue⟩ :=
    (Semantics.concrete_leadsTo_intervals provider).evaluate e henv hrun ()
  refine ⟨i, ?_, hvalue⟩
  simp only [rangeIn, Eval.result, hrange]

/-- `let x = y + ?[0, 10] in x * (let x = ?[1, 9223372036854775807] in x * y)`, where the product
that the inner `let` can have is cut off at the end of the 64-bit range. -/
private def shadowing : Expr :=
  .letIn "x" (.binary .plus (.var "y") (.input 0 10))
    (.binary .times (.var "x")
      (.letIn "x" (.input 1 Int64.maxValue) (.binary .times (.var "x") (.var "y"))))

theorem mem_rangeIn_shadowing :
    ∃ i, shadowing.rangeIn (Frame.empty.bind "y" ⟨3, 9⟩) = .ok i ∧ i.lower ≤ 480 ∧
      480 ≤ i.upper := by
  have henv : Env.Related (fun value i => value ∈ i) (Frame.empty.bind "y" (5 : Int64))
      (Frame.empty.bind "y" (Interval.mk 3 9)) :=
    Env.Related.bind (fun _ => .none) "y" ⟨by decide, by decide⟩
  have hrun : ((Semantics.concrete Provider.counting).evaluate shadowing
      (Frame.empty.bind "y" 5)).run.run 7 = (.ok 480, 9) := by
    rfl
  exact mem_rangeIn_of_run_concrete henv hrun

end Expr

end RangeCalc
