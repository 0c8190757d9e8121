import RangeCalc.Proofs.Evaluation.Calls

/-! Evaluation is plain recursion: the operands of a chain are evaluated in a loop, but to the same
effect as the left one, then the right one, and then the operation on both. -/

namespace RangeCalc

variable {σ ν : Type}

/-- An expression that stops the evaluation without the call of an operation. -/
inductive Expr.Stuck : Expr → Env ν → EvalError → Prop where
  | unbound {name : String} {env : Env ν} (hname : env.lookup name = none) :
      Stuck (.var name) env (.unbound name)
  | emptyRange {lower upper : Int64} {env : Env ν} (hrange : upper < lower) :
      Stuck (.input lower upper) env (.emptyRange lower upper)

namespace Semantics

def recurse (s : Semantics σ ν) : Expr → Env ν → Eval σ ν
  | .literal value, _ => s.literal value
  | .input lower upper, _ =>
      if upper < lower then throw (.emptyRange lower upper) else s.input lower upper
  | .var name, env =>
      match env.lookup name with
      | some value => pure value
      | none => throw (.unbound name)
  | .negate operand, env => do
      let value ← s.recurse operand env
      s.negate value
  | .binary op left right, env => do
      let leftValue ← s.recurse left env
      let rightValue ← s.recurse right env
      s.combine op leftValue rightValue
  | .letIn name bound body, env => do
      let value ← s.recurse bound env
      s.recurse body (env.bind name value)

/-- The recursion on an expression, begun in a state, comes to a part of it, which is then
evaluated in `scope` from the state `reached`. -/
inductive ComesTo (s : Semantics σ ν) (part : Expr) (scope : Env ν) (reached : σ) :
    Expr → Env ν → σ → Prop where
  | here : ComesTo s part scope reached part scope reached
  | operand {operand : Expr} {env : Env ν} {state : σ}
      (hpart : ComesTo s part scope reached operand env state) :
      ComesTo s part scope reached (.negate operand) env state
  | left {op : Operator} {left right : Expr} {env : Env ν} {state : σ}
      (hpart : ComesTo s part scope reached left env state) :
      ComesTo s part scope reached (.binary op left right) env state
  | right {op : Operator} {left right : Expr} {env : Env ν} {state middle : σ} {value : ν}
      (hleft : (s.recurse left env).run.run state = (.ok value, middle))
      (hpart : ComesTo s part scope reached right env middle) :
      ComesTo s part scope reached (.binary op left right) env state
  | bound {name : String} {bound body : Expr} {env : Env ν} {state : σ}
      (hpart : ComesTo s part scope reached bound env state) :
      ComesTo s part scope reached (.letIn name bound body) env state
  | body {name : String} {bound body : Expr} {env : Env ν} {state middle : σ} {value : ν}
      (hbound : (s.recurse bound env).run.run state = (.ok value, middle))
      (hpart : ComesTo s part scope reached body (env.bind name value) middle) :
      ComesTo s part scope reached (.letIn name bound body) env state

variable (s : Semantics σ ν)

theorem evaluate_eq_recurse (e : Expr) (env : Env ν) : s.evaluate e env = s.recurse e env := by
  induction e generalizing env with
  | literal value => exact s.evaluate_literal env value
  | input lower upper => exact s.evaluate_input env lower upper
  | var name => exact s.evaluate_var env name
  | negate operand ih => rw [evaluate_negate, ih, recurse]
  | binary op left right ihLeft ihRight => rw [evaluate_binary, ihLeft, ihRight, recurse]
  | letIn name bound body ihBound ihBody =>
      rw [evaluate_letIn, ihBound, recurse]
      exact bind_congr fun value => ihBody (env.bind name value)

theorem run_recurse_of_stuck {e : Expr} {env : Env ν} {problem : EvalError}
    (hstuck : e.Stuck env problem) (state : σ) :
    (s.recurse e env).run.run state = (.error problem, state) := by
  cases hstuck with
  | unbound hname =>
      rw [recurse, hname]
      rfl
  | emptyRange hrange =>
      rw [recurse, if_pos hrange]
      rfl

variable {s}

/-- A failure ends the whole recursion in the state that it left. -/
theorem ComesTo.run_recurse_eq_error {part e : Expr} {scope env : Env ν}
    {state reached final : σ} {problem : EvalError}
    (hpart : s.ComesTo part scope reached e env state)
    (hfails : (s.recurse part scope).run.run reached = (.error problem, final)) :
    (s.recurse e env).run.run state = (.error problem, final) := by
  -- All that the way passes has succeeded before; what stands behind the part is never begun.
  induction hpart with
  | here => exact hfails
  | operand _ ih => exact Eval.run_bind_of_error ih
  | left _ ih => exact Eval.run_bind_of_error ih
  | right hleft _ ih =>
      rw [recurse, Eval.run_bind_of_ok hleft]
      exact Eval.run_bind_of_error ih
  | bound _ ih => exact Eval.run_bind_of_error ih
  | body hbound _ ih =>
      rw [recurse, Eval.run_bind_of_ok hbound]
      exact ih

/-- Evaluation has the result, the final state and the calls of the recursion. A call that fails is
the last one, and no call is made behind an unbound variable or an empty range. -/
theorem evaluate_recursion (s : Semantics σ ν) (e : Expr) (env : Env ν) :
    s.evaluate e env = s.recurse e env ∧ s.noting.evaluate e env = s.noting.recurse e env ∧
      ∀ state, ∃ result final calls,
        (s.evaluate e env).run.run state = (result, final) ∧
          (s.noting.evaluate e env).run.run (.start state) = (result, ⟨final, calls⟩) ∧
          calls.EndIn result ∧
          ∀ part scope reached problem,
            s.noting.ComesTo part scope reached e env (.start state) →
              part.Stuck scope problem → result = .error problem ∧ reached = ⟨final, calls⟩ := by
  refine ⟨s.evaluate_eq_recurse e env, s.noting.evaluate_eq_recurse e env, ?_⟩
  intro state
  obtain ⟨result, final, calls, hrun, hcalls, hends⟩ := s.run_noting_evaluate e env state
  refine ⟨result, final, calls, hrun, hcalls, hends, ?_⟩
  intro part scope reached problem hpart hstuck
  have herror := hpart.run_recurse_eq_error (s.noting.run_recurse_of_stuck hstuck reached)
  rw [← evaluate_eq_recurse, hcalls] at herror
  exact ⟨congrArg Prod.fst herror, (congrArg Prod.snd herror).symm⟩

end Semantics

end RangeCalc
