import RangeCalc.Evaluation.Meanings
import RangeCalc.Proofs.Evaluation.Agreement
import RangeCalc.Proofs.Interval.Membership

/-! Inlining puts expressions in the place of variables. Where the operations of a meaning are pure,
an inlined expression has the value that the expression itself has once its variables have the
values of what was put in their place. -/

namespace RangeCalc

variable {σ ν κ μ : Type}

/-- The frames bind the same names in the same order, to related values. -/
inductive Frame.Parallel (R : ν → μ → Prop) : Frame κ ν → Frame κ μ → Prop where
  | empty : Parallel R .empty .empty
  | bind {below : Frame κ ν} {below' : Frame κ μ} {name : κ} {value : ν} {found : μ}
      (hbelow : Parallel R below below') (hvalue : R value found) :
      Parallel R (below.bind name value) (below'.bind name found)

theorem Frame.Parallel.related {R : ν → μ → Prop} {env : Env ν} {env' : Env μ}
    (h : Frame.Parallel R env env') : Env.Related R env env' := by
  induction h with
  | empty => exact .empty
  | bind _ hvalue ih => exact ih.bind _ hvalue

theorem Frame.Parallel.mono {R S : ν → μ → Prop} {frame : Frame κ ν} {frame' : Frame κ μ}
    (h : Frame.Parallel R frame frame') (hmono : ∀ value found, R value found → S value found) :
    Frame.Parallel S frame frame' := by
  induction h with
  | empty => exact .empty
  | bind _ hvalue ih => exact .bind ih (hmono _ _ hvalue)

def Env.All (Kind : ν → Prop) (env : Env ν) : Prop :=
  ∀ name value, env.lookup name = some value → Kind value

theorem Env.All.bind {Kind : ν → Prop} {env : Env ν} (henv : env.All Kind) (name : String)
    {value : ν} (hvalue : Kind value) : Env.All Kind (env.bind name value) := by
  intro other found hlookup
  rw [Frame.lookup] at hlookup
  split at hlookup
  · cases hlookup
    exact hvalue
  · exact henv other found hlookup

theorem Env.All.related {Kind : ν → Prop} {env : Env ν} (henv : env.All Kind) :
    Env.Related (fun value found => value = found ∧ Kind value) env env := by
  intro name
  cases hlookup : env.lookup name with
  | some value => exact .some ⟨rfl, henv name value hlookup⟩
  | none => exact .none

namespace Semantics

/-- `env` gives the names of `trees`, in the same order, the values that their trees come to where
variables have the values of `values`. -/
def Gives (s : Semantics σ ν) (values : Env ν) (trees : Env Expr) (env : Env ν) : Prop :=
  Frame.Parallel (fun tree value =>
    ∃ state final, (s.evaluate tree values).run.run state = (.ok value, final)) trees env

/-- On the values of a kind the operations are pure: they come to a value of the kind and neither
fail nor change the state. -/
structure PureOn (s : Semantics σ ν) (Kind : ν → Prop) : Prop where
  literal : ∀ value, ∃ result, s.literal value = pure result ∧ Kind result
  combine : ∀ op {left right}, Kind left → Kind right →
    ∃ result, s.combine op left right = pure result ∧ Kind result
  negate : ∀ {operand}, Kind operand → ∃ result, s.negate operand = pure result ∧ Kind result
  input : ∀ {lower upper}, lower ≤ upper →
    ∃ result, s.input lower upper = pure result ∧ Kind result

theorem intervals_pureOn : intervals.PureOn Interval.Valid where
  literal value := ⟨_, rfl, Interval.valid_singleton value⟩
  combine op _ _ hleft hright := ⟨_, rfl, Interval.valid_combine op hleft hright⟩
  negate hoperand := ⟨_, rfl, Interval.valid_negate hoperand⟩
  input hordered := ⟨_, rfl, hordered⟩

namespace PureOn

variable {s : Semantics σ ν} {Kind : ν → Prop} {env : Env ν}

theorem corresponds_self (hpure : s.PureOn Kind) :
    s.Corresponds Eval.agree s fun value found => value = found ∧ Kind value where
  literal value := by
    obtain ⟨result, hresult, hkind⟩ := hpure.literal value
    exact .inl ⟨result, result, hresult, hresult, rfl, hkind⟩
  combine op left right _ _ hleft hright := by
    obtain ⟨rfl, hleft⟩ := hleft
    obtain ⟨rfl, hright⟩ := hright
    obtain ⟨result, hresult, hkind⟩ := hpure.combine op hleft hright
    exact .inl ⟨result, result, hresult, hresult, rfl, hkind⟩
  negate hoperand := by
    obtain ⟨rfl, hoperand⟩ := hoperand
    obtain ⟨result, hresult, hkind⟩ := hpure.negate hoperand
    exact .inl ⟨result, result, hresult, hresult, rfl, hkind⟩
  input hordered := by
    obtain ⟨result, hresult, hkind⟩ := hpure.input hordered
    exact .inl ⟨result, result, hresult, hresult, rfl, hkind⟩

theorem evaluate_eq_pure (hpure : s.PureOn Kind) (henv : env.All Kind) {e : Expr} {value : ν}
    {state final : σ} (hrun : (s.evaluate e env).run.run state = (.ok value, final)) :
    s.evaluate e env = pure value ∧ Kind value := by
  rcases hpure.corresponds_self.evaluate e henv.related with
    ⟨result, _, hresult, -, -, hkind⟩ | hthrow
  · rw [hresult] at hrun
    cases hrun
    exact ⟨hresult, hkind⟩
  · obtain ⟨problem, hproblem, -⟩ := hthrow
    rw [hproblem] at hrun
    cases hrun

/-- An expression stands for its value under the environment, and the operations on expressions for
those on values. -/
theorem inlining_corresponds (hpure : s.PureOn Kind) :
    inlining.Corresponds Eval.agree s fun tree value =>
      s.evaluate tree env = pure value ∧ Kind value where
  literal value := by
    obtain ⟨result, hresult, hkind⟩ := hpure.literal value
    exact .inl ⟨.literal value, result, rfl, hresult, (evaluate_literal ..).trans hresult, hkind⟩
  combine op left right leftValue rightValue hleft hright := by
    obtain ⟨result, hresult, hkind⟩ := hpure.combine op hleft.2 hright.2
    refine .inl ⟨.binary op left right, result, rfl, hresult, ?_, hkind⟩
    rw [evaluate_binary, hleft.1, hright.1, pure_bind, pure_bind, hresult]
  negate := by
    intro operand value hoperand
    obtain ⟨result, hresult, hkind⟩ := hpure.negate hoperand.2
    refine .inl ⟨.negate operand, result, rfl, hresult, ?_, hkind⟩
    rw [evaluate_negate, hoperand.1, pure_bind, hresult]
  input := by
    intro lower upper hordered
    obtain ⟨result, hresult, hkind⟩ := hpure.input hordered
    refine .inl ⟨.input lower upper, result, rfl, hresult, ?_, hkind⟩
    rw [evaluate_input, request, if_neg (Int64.not_lt.mpr hordered), hresult]

end PureOn

/-- Where trees are put in the place of names, the inlined expression has the value that the
expression has where the names have the values of the trees. Inlining fails only with an error that
evaluation has too. -/
theorem evaluate_inlined :
    intervals.PureOn Interval.Valid ∧
      ∀ {σ ν : Type} {s : Semantics σ ν} {Kind : ν → Prop}, s.PureOn Kind →
        ∀ (e : Expr) {trees : Env Expr} {values env : Env ν}, values.All Kind →
          s.Gives values trees env →
          (∀ inlined, e.inlineIn trees = .ok inlined →
            s.evaluate inlined values = s.evaluate e env ∧
              ∃ value, s.evaluate e env = pure value ∧ Kind value) ∧
          ∀ problem, e.inlineIn trees = .error problem → s.evaluate e env = throw problem := by
  refine ⟨intervals_pureOn, ?_⟩
  intro σ ν s Kind hpure e trees values env hvalues hgives
  -- The outer values stay fixed under the bindings of `e`, so that a tree keeps its value there.
  have htrees : Frame.Parallel (fun tree value => s.evaluate tree values = pure value ∧ Kind value)
      trees env := by
    apply hgives.mono
    rintro tree value ⟨state, final, hrun⟩
    exact hpure.evaluate_eq_pure hvalues hrun
  rcases hpure.inlining_corresponds.evaluate e htrees.related with
    ⟨tree, value, htree, hvalue, hmeaning, hkind⟩ | ⟨problem, hproblem, hthrow⟩
  · have hinline : e.inlineIn trees = .ok tree := by
      rw [Expr.inlineIn, htree, Eval.result_pure]
    rw [hinline]
    constructor
    · rintro _ ⟨⟩
      exact ⟨hmeaning.trans hvalue.symm, value, hvalue, hkind⟩
    · rintro _ ⟨⟩
  · have hinline : e.inlineIn trees = .error problem := by
      rw [Expr.inlineIn, hproblem, Eval.result_throw]
    rw [hinline]
    constructor
    · rintro _ ⟨⟩
    · rintro _ ⟨⟩
      exact hthrow

/-- In `let x = 2 in y * x` the tree `x + ?[0, 5]` is put in the place of `y`. The `x` in it remains
that of the values outside. -/
theorem evaluate_inlined_capturing :
    intervals.evaluate
        (.binary .times (.binary .plus (.var "x") (.input 0 5)) (.literal 2))
        (Frame.empty.bind "x" ⟨10, 20⟩) =
      intervals.evaluate
        (.letIn "x" (.literal 2) (.binary .times (.var "y") (.var "x")))
        (Frame.empty.bind "y" ⟨10, 25⟩) := by
  have hvalues : Env.All Interval.Valid (Frame.empty.bind "x" ⟨10, 20⟩) := by
    intro name value hlookup
    rw [Frame.lookup] at hlookup
    split at hlookup
    · cases hlookup
      exact Interval.valid_iff.mpr (by decide)
    · contradiction
  have hgives : intervals.Gives (Frame.empty.bind "x" ⟨10, 20⟩)
      (Frame.empty.bind "y" (.binary .plus (.var "x") (.input 0 5)))
      (Frame.empty.bind "y" ⟨10, 25⟩) :=
    .bind .empty ⟨(), (), rfl⟩
  exact ((evaluate_inlined.2 intervals_pureOn _ hvalues hgives).1 _ rfl).1

end Semantics

end RangeCalc
