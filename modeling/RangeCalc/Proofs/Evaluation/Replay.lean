import Mathlib.Data.List.Forall2
import RangeCalc.Evaluation.Meanings
import RangeCalc.Proofs.Evaluation.Ranges

/-! Inlining loses no behaviour. The answers that a bound expression was given are given again
wherever its name is used, and the inlined expression comes to the same value. -/

namespace RangeCalc

variable {σ τ : Type}

/-- Each answer lies in the range that it is given for. -/
def Provider.Within (answers : List Int64) (requests : List (Int64 × Int64)) : Prop :=
  List.Forall₂ (fun answer range => range.1 ≤ answer ∧ answer ≤ range.2) answers requests

/-- Asked for the ranges in turn, a script that begins with the answers lets the expression come to
the value. -/
structure Expr.Replays (e : Expr) (value : Int64) (answers : List Int64)
    (requests : List (Int64 × Int64)) : Prop where
  inside : Provider.Within answers requests
  run : ∀ later asked,
    ((Semantics.concrete Provider.scripted.recorded).evaluateClosed e).run.run
        ⟨answers ++ later, asked⟩ =
      (.ok value, ⟨later, requests.reverse ++ asked⟩)

namespace Arithmetic

theorem run_checked_of_toInt_eq {operation : Arithmetic} {exact : Int} {value : Int64}
    (hvalue : value.toInt = exact) (state : σ) :
    (operation.checked exact).run.run state = (.ok value, state) := by
  rw [checked, Integer.fit?_eq_some_iff.mpr hvalue]
  rfl

theorem run_checked_of_ok {operation : Arithmetic} {exact : Int} {state final : σ} {value : Int64}
    (hrun : (operation.checked exact).run.run state = (.ok value, final)) (other : τ) :
    (operation.checked exact).run.run other = (.ok value, other) :=
  run_checked_of_toInt_eq (toInt_of_run_checked hrun) other

theorem run_combine_of_ok {op : Operator} {left right value : Int64} {state final : σ}
    (hrun : (combine op left right).run.run state = (.ok value, final)) (other : τ) :
    (combine op left right).run.run other = (.ok value, other) := by
  cases op with
  | plus => exact run_checked_of_ok hrun other
  | times => exact run_checked_of_ok hrun other

end Arithmetic

namespace Expr.Replays

variable {left right operand : Expr} {leftValue rightValue value : Int64}
  {leftAnswers rightAnswers answers : List Int64}
  {leftRequests rightRequests requests : List (Int64 × Int64)}

theorem literal (value : Int64) : Replays (.literal value) value [] [] where
  inside := .nil
  run _ _ := rfl

theorem input {lower upper : Int64} (hlower : lower ≤ value) (hupper : value ≤ upper) :
    Replays (.input lower upper) value [value] [(lower, upper)] where
  inside := .cons ⟨hlower, hupper⟩ .nil
  run later asked := by
    have hordered : ¬ upper < lower := Int64.not_lt.mpr (Int64.le_trans hlower hupper)
    have hanswer : (Provider.scripted.recorded lower upper).run.run ⟨value :: later, asked⟩ =
        (.ok value, ⟨later, (lower, upper) :: asked⟩) := rfl
    rw [Semantics.evaluateClosed, Semantics.evaluate_input, Semantics.request, if_neg hordered]
    refine (Eval.run_bind_of_ok hanswer).trans ?_
    rw [if_pos ⟨hlower, hupper⟩]
    rfl

theorem negate (hoperand : Replays operand leftValue answers requests) {state final : σ}
    (hnegate : (Arithmetic.negate leftValue).run.run state = (.ok value, final)) :
    Replays (.negate operand) value answers requests where
  inside := hoperand.inside
  run later asked := by
    rw [Semantics.evaluateClosed, Semantics.evaluate_negate]
    exact (Eval.run_bind_of_ok (hoperand.run later asked)).trans
      (Arithmetic.run_checked_of_ok hnegate _)

theorem binary {op : Operator} (hleft : Replays left leftValue leftAnswers leftRequests)
    (hright : Replays right rightValue rightAnswers rightRequests) {state final : σ}
    (hcombine : (Arithmetic.combine op leftValue rightValue).run.run state = (.ok value, final)) :
    Replays (.binary op left right) value (leftAnswers ++ rightAnswers)
      (leftRequests ++ rightRequests) where
  inside := List.rel_append hleft.inside hright.inside
  run later asked := by
    rw [Semantics.evaluateClosed, Semantics.evaluate_binary, List.append_assoc,
      List.reverse_append, List.append_assoc]
    refine (Eval.run_bind_of_ok (hleft.run _ asked)).trans ?_
    refine (Eval.run_bind_of_ok (hright.run later _)).trans ?_
    exact Arithmetic.run_combine_of_ok hcombine _

end Expr.Replays

namespace Semantics

theorem concrete_leadsTo_inlining (provider : Provider σ) :
    (concrete provider).LeadsTo inlining fun value tree =>
      ∃ answers requests, tree.Replays value answers requests where
  -- The state of the run is forgotten: the answers alone bring the value about again.
  literal value := Eval.leads_pure ⟨[], [], .literal value⟩
  combine op left right tree tree' hleft hright := by
    intro state value final hrun other
    obtain ⟨_, _, hleft⟩ := hleft
    obtain ⟨_, _, hright⟩ := hright
    exact ⟨_, other, rfl, _, _, hleft.binary hright hrun⟩
  negate hoperand := by
    intro state value final hrun other
    obtain ⟨_, _, hoperand⟩ := hoperand
    exact ⟨_, other, rfl, _, _, hoperand.negate hrun⟩
  input _ := by
    intro state value final hrun other
    obtain ⟨hlower, hupper⟩ := mem_of_run_checkedInput hrun
    exact ⟨_, other, rfl, _, _, .input hlower hupper⟩

end Semantics

namespace Expr

/-- Whatever a run comes to, the inlined expression comes to on a script of answers, each in the
range that it is asked for. -/
theorem exists_answers_of_run {provider : Provider σ} {e : Expr} {state final : σ} {value : Int64}
    (hrun : ((Semantics.concrete provider).evaluateClosed e).run.run state = (.ok value, final)) :
    ∃ inlined answers requests, e.inline = .ok inlined ∧
      Provider.Within answers requests ∧
      ((Semantics.concrete Provider.scripted.recorded).evaluateClosed inlined).run.run
          (.start answers) =
        (.ok value, ⟨[], requests.reverse⟩) := by
  obtain ⟨inlined, _, hinlined, answers, requests, hreplays⟩ :=
    (Semantics.concrete_leadsTo_inlining provider).evaluate e .empty hrun ()
  refine ⟨inlined, answers, requests, ?_, hreplays.inside, ?_⟩
  · simp only [inline, inlineIn, Eval.result, hinlined]
  · have hscript := hreplays.run [] []
    rwa [List.append_nil, List.append_nil] at hscript

/-- `let x = ?[0, 10] in x + (let x = x * ?[5, 9] in x + x)`, where the first input is used three
times and the second one twice. -/
private def sharing : Expr :=
  .letIn "x" (.input 0 10)
    (.binary .plus (.var "x")
      (.letIn "x" (.binary .times (.var "x") (.input 5 9)) (.binary .plus (.var "x") (.var "x"))))

theorem exists_answers_sharing : ∃ inlined answers requests, sharing.inline = .ok inlined ∧
    Provider.Within answers requests ∧
    ((Semantics.concrete Provider.scripted.recorded).evaluateClosed inlined).run.run
        (.start answers) =
      (.ok 33, ⟨[], requests.reverse⟩) := by
  have hrun : ((Semantics.concrete Provider.counting).evaluateClosed sharing).run.run 3 =
      (.ok 33, 5) := by
    rfl
  exact exists_answers_of_run hrun

end Expr

end RangeCalc
