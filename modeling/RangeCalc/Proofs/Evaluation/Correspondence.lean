import RangeCalc.Interval
import RangeCalc.Proofs.Evaluation.Equations

/-! Comparing two meanings. A comparison of computations that is kept when both go on alike holds of
whole evaluations once it holds of the operations, also where the ranges of the inputs differ. -/

namespace RangeCalc

variable {σ τ α β ν μ : Type}

inductive Result.Related (R : α → β → Prop) : Except EvalError α → Except EvalError β → Prop where
  | ok {value : α} {found : β} (hvalue : R value found) : Related R (.ok value) (.ok found)
  | error (problem : EvalError) : Related R (.error problem) (.error problem)

theorem Result.Related.eq {result found : Except EvalError α} (h : Related Eq result found) :
    result = found := by
  cases h with
  | ok hvalue => rw [hvalue]
  | error problem => rfl

theorem Result.Related.refl (result : Except EvalError α) : Result.Related Eq result result := by
  cases result with
  | ok value => exact .ok rfl
  | error problem => exact .error problem

/-- A way to compare computations, given how their values compare, that can be followed from step
to step. -/
structure Eval.Comparison (σ τ : Type) where
  Holds {α β : Type} (R : α → β → Prop) : Eval σ α → Eval τ β → Prop
  of_pure {α β : Type} {R : α → β → Prop} {value : α} {found : β} (hvalue : R value found) :
    Holds R (pure value) (pure found)
  of_throw {α β : Type} (R : α → β → Prop) (problem : EvalError) :
    Holds R (throw problem) (throw problem)
  of_bind {α β γ δ : Type} {R : α → β → Prop} {S : γ → δ → Prop} {x : Eval σ α} {y : Eval τ β}
    {next : α → Eval σ γ} {next' : β → Eval τ δ} (hfirst : Holds R x y)
    (hnext : ∀ value found, R value found → Holds S (next value) (next' found)) :
    Holds S (x >>= next) (y >>= next')

def Env.Related (R : ν → μ → Prop) (env : Env ν) (env' : Env μ) : Prop :=
  ∀ name, Option.Rel R (env.lookup name) (env'.lookup name)

theorem Env.Related.empty {R : ν → μ → Prop} : Env.Related R .empty .empty :=
  fun _ => .none

theorem Env.Related.refl (env : Env ν) : Env.Related Eq env env := by
  intro name
  cases env.lookup name with
  | some value => exact .some rfl
  | none => exact .none

theorem Env.Related.bind {R : ν → μ → Prop} {env : Env ν} {env' : Env μ} {value : ν} {found : μ}
    (henv : Env.Related R env env') (name : String) (hvalue : R value found) :
    Env.Related R (env.bind name value) (env'.bind name found) := by
  intro other
  by_cases hsame : name = other
  · subst hsame
    rw [Frame.lookup_bind_self, Frame.lookup_bind_self]
    exact .some hvalue
  · rw [Frame.lookup_bind_of_ne _ _ hsame, Frame.lookup_bind_of_ne _ _ hsame]
    exact henv other

/-- The expressions differ in the ranges of their inputs only, and those are related. -/
inductive Expr.Alike (Ranges : Interval → Interval → Prop) : Expr → Expr → Prop where
  | literal (value : Int64) : Alike Ranges (.literal value) (.literal value)
  | input {lower upper lower' upper' : Int64} (hranges : Ranges ⟨lower, upper⟩ ⟨lower', upper'⟩) :
      Alike Ranges (.input lower upper) (.input lower' upper')
  | var (name : String) : Alike Ranges (.var name) (.var name)
  | negate {operand operand' : Expr} (hoperand : Alike Ranges operand operand') :
      Alike Ranges (.negate operand) (.negate operand')
  | binary {left right left' right' : Expr} (op : Operator) (hleft : Alike Ranges left left')
      (hright : Alike Ranges right right') :
      Alike Ranges (.binary op left right) (.binary op left' right')
  | letIn {bound body bound' body' : Expr} (name : String) (hbound : Alike Ranges bound bound')
      (hbody : Alike Ranges body body') :
      Alike Ranges (.letIn name bound body) (.letIn name bound' body')

theorem Expr.Alike.refl (e : Expr) : Expr.Alike Eq e e := by
  induction e with
  | literal value => exact .literal value
  | input lower upper => exact .input rfl
  | var name => exact .var name
  | negate operand ih => exact .negate ih
  | binary op left right ihLeft ihRight => exact .binary op ihLeft ihRight
  | letIn name bound body ihBound ihBody => exact .letIn name ihBound ihBody

/-- The operations of the two meanings compare on related values. Inputs with an empty range are
not asked for. -/
structure Semantics.Corresponds (c : Eval.Comparison σ τ) (s : Semantics σ ν) (t : Semantics τ μ)
    (R : ν → μ → Prop) : Prop where
  literal : ∀ value, c.Holds R (s.literal value) (t.literal value)
  combine : ∀ op {left right found found'}, R left found → R right found' →
    c.Holds R (s.combine op left right) (t.combine op found found')
  negate : ∀ {value found}, R value found → c.Holds R (s.negate value) (t.negate found)
  input : ∀ {lower upper}, lower ≤ upper → c.Holds R (s.input lower upper) (t.input lower upper)

namespace Semantics.Corresponds

variable {c : Eval.Comparison σ τ} {s : Semantics σ ν} {t : Semantics τ μ} {R : ν → μ → Prop}

theorem request (h : s.Corresponds c t R) (lower upper : Int64) :
    c.Holds R (s.request lower upper) (t.request lower upper) := by
  rw [Semantics.request, Semantics.request]
  split
  · exact c.of_throw R _
  · next hordered => exact h.input (Int64.not_lt.mp hordered)

theorem resolve {env : Env ν} {env' : Env μ} (henv : Env.Related R env env') (name : String) :
    c.Holds R (Semantics.resolve env name) (Semantics.resolve env' name) := by
  have hlookup := henv name
  rw [Semantics.resolve, Semantics.resolve]
  generalize env.lookup name = bound at hlookup ⊢
  generalize env'.lookup name = bound' at hlookup ⊢
  cases hlookup with
  | some hvalue => exact c.of_pure hvalue
  | none => exact c.of_throw R _

theorem evaluate_alike (h : s.Corresponds c t R) {Ranges : Interval → Interval → Prop}
    (hrequest : ∀ {lower upper lower' upper'}, Ranges ⟨lower, upper⟩ ⟨lower', upper'⟩ →
      c.Holds R (s.request lower upper) (t.request lower' upper'))
    {e e' : Expr} (halike : e.Alike Ranges e') {env : Env ν} {env' : Env μ}
    (henv : Env.Related R env env') : c.Holds R (s.evaluate e env) (t.evaluate e' env') := by
  -- Bodies are compared where both environments have grown by related values.
  induction halike generalizing env env' with
  | literal value =>
      rw [evaluate_literal, evaluate_literal]
      exact h.literal value
  | input hranges =>
      rw [evaluate_input, evaluate_input]
      exact hrequest hranges
  | var name =>
      rw [evaluate_var, evaluate_var]
      exact resolve henv name
  | negate _ ih =>
      rw [evaluate_negate, evaluate_negate]
      apply c.of_bind (ih henv)
      intro value found hvalue
      exact h.negate hvalue
  | binary op _ _ ihLeft ihRight =>
      rw [evaluate_binary, evaluate_binary]
      apply c.of_bind (ihLeft henv)
      intro leftValue leftFound hleft
      apply c.of_bind (ihRight henv)
      intro rightValue rightFound hright
      exact h.combine op hleft hright
  | letIn name _ _ ihBound ihBody =>
      rw [evaluate_letIn, evaluate_letIn]
      apply c.of_bind (ihBound henv)
      intro value found hvalue
      exact ihBody (henv.bind name hvalue)

theorem evaluate (h : s.Corresponds c t R) (e : Expr) {env : Env ν} {env' : Env μ}
    (henv : Env.Related R env env') : c.Holds R (s.evaluate e env) (t.evaluate e env') := by
  refine h.evaluate_alike ?_ (.refl e) henv
  rintro lower upper _ _ ⟨⟩
  exact h.request lower upper

end Semantics.Corresponds

end RangeCalc
