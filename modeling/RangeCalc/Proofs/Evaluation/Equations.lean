import RangeCalc.Evaluation.Basic

/-! Evaluation by plain recursion. What is pending in a chain is evaluated behind its first operand,
so the evaluation of an expression follows from those of its parts. -/

namespace RangeCalc.Semantics

variable {σ ν : Type} (s : Semantics σ ν)

theorem evaluateChain_eq_bind (e : Expr) (env : Env ν) (pending : List (Operator × Eval σ ν)) :
    s.evaluateChain e env pending =
      s.evaluate e env >>= fun value => s.continueWith value pending := by
  induction e generalizing env pending with
  | literal value => simp [evaluate, evaluateChain, continueWith]
  | input lower upper => simp [evaluate, evaluateChain, continueWith]
  | var name => simp [evaluate, evaluateChain, continueWith]
  | negate operand _ => simp [evaluate, evaluateChain, continueWith]
  | binary op left right ihLeft _ =>
      simp only [evaluate, evaluateChain]
      rw [ihLeft env, ihLeft env]
      simp [continueWith]
  | letIn name bound body _ ihBody =>
      simp only [evaluate, evaluateChain, bind_assoc]
      apply bind_congr
      intro value
      rw [ihBody, ihBody]
      simp [continueWith]

section Equations

variable (env : Env ν)

theorem evaluate_literal (value : Int64) :
    s.evaluate (.literal value) env = s.literal value := by
  simp [evaluate, evaluateChain, continueWith]

theorem evaluate_input (lower upper : Int64) :
    s.evaluate (.input lower upper) env = s.request lower upper := by
  simp [evaluate, evaluateChain, continueWith]

theorem evaluate_var (name : String) : s.evaluate (.var name) env = resolve env name := by
  simp [evaluate, evaluateChain, continueWith]

theorem evaluate_negate (operand : Expr) :
    s.evaluate (.negate operand) env = s.evaluate operand env >>= s.negate := by
  simp [evaluate, evaluateChain, continueWith]

theorem evaluate_binary (op : Operator) (left right : Expr) :
    s.evaluate (.binary op left right) env =
      s.evaluate left env >>= fun leftValue =>
        s.evaluate right env >>= fun rightValue => s.combine op leftValue rightValue := by
  rw [evaluate, evaluateChain, evaluateChain_eq_bind]
  simp [evaluate, continueWith]

theorem evaluate_letIn (name : String) (bound body : Expr) :
    s.evaluate (.letIn name bound body) env =
      s.evaluate bound env >>= fun value => s.evaluate body (env.bind name value) := by
  rw [evaluate, evaluateChain]
  rfl

end Equations

end RangeCalc.Semantics
