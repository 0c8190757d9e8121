import RangeCalc.Proofs.Evaluation.Requests
import RangeCalc.Proofs.Evaluation.Substitution

/-! The faults that an expression has before any operation is called: unbound variables and empty
ranges. Which come first depends on the order of evaluation, which goes into bound expressions
whether they are used or not. -/

namespace RangeCalc

variable {σ ν α β : Type}

def Env.binds (env : Env ν) (name : String) : Bool :=
  (env.lookup name).isSome

theorem Env.binds_bind (env : Env ν) (name : String) (value : ν) :
    Env.binds (env.bind name value) = fun other => decide (name = other) || env.binds other := by
  funext other
  by_cases hsame : name = other
  · subst hsame
    rw [binds, Frame.lookup_bind_self]
    simp
  · rw [binds, Frame.lookup_bind_of_ne _ _ hsame]
    simp [binds, hsame]

namespace Expr

/-- The variables of an expression that none of its `let`s binds. -/
def free : Expr → List String
  | .literal _ => []
  | .input _ _ => []
  | .var name => [name]
  | .negate operand => operand.free
  | .binary _ left right => left.free ++ right.free
  | .letIn name bound body => bound.free ++ body.free.filter (name ≠ ·)

/-- Every range has an integer in it, and every free variable is in scope. -/
structure Defined (scope : String → Bool) (e : Expr) : Prop where
  nonempty : ∀ range ∈ e.inputs, range.1 ≤ range.2
  bound : ∀ name ∈ e.free, scope name = true

/-- The unbound variables and the empty ranges, in the order in which evaluation comes to them. -/
def faults (scope : String → Bool) : Expr → List EvalError
  | .literal _ => []
  | .input lower upper => if upper < lower then [.emptyRange lower upper] else []
  | .var name => if scope name then [] else [.unbound name]
  | .negate operand => operand.faults scope
  | .binary _ left right => left.faults scope ++ right.faults scope
  | .letIn name bound body =>
      bound.faults scope ++ body.faults fun other => decide (name = other) || scope other

theorem defined_iff {scope : String → Bool} {e : Expr} :
    e.Defined scope ↔
      (∀ range ∈ e.inputs, range.1 ≤ range.2) ∧ ∀ name ∈ e.free, scope name = true :=
  ⟨fun h => ⟨h.nonempty, h.bound⟩, fun h => ⟨h.1, h.2⟩⟩

theorem faults_eq_nil_iff {scope : String → Bool} {e : Expr} :
    e.faults scope = [] ↔ e.Defined scope := by
  rw [defined_iff]
  induction e generalizing scope with
  | literal value => simp [faults, inputs, free]
  | input lower upper => simp [faults, inputs, free]
  | var name => simp [faults, inputs, free]
  | negate operand ih => exact ih
  | binary op left right ihLeft ihRight =>
      simp only [faults, inputs, free, List.append_eq_nil_iff, ihLeft, ihRight,
        List.forall_mem_append]
      exact and_and_and_comm
  | letIn name bound body ihBound ihBody =>
      simp only [faults, inputs, free, List.append_eq_nil_iff, ihBound, ihBody,
        List.forall_mem_append, List.forall_mem_filter]
      rw [and_and_and_comm]
      -- The name of the `let` is in scope in the body, so it is asked of the others only.
      simp only [Bool.or_eq_true, decide_eq_true_eq, Decidable.or_iff_not_imp_left, ne_eq]

end Expr

namespace Eval

/-- The computation comes to a value of the kind, or else fails with the first of the faults. -/
def Settles (Kind : α → Prop) : List EvalError → Eval σ α → Prop
  | [], x => ∃ value, x = pure value ∧ Kind value
  | problem :: _, x => x = throw problem

theorem Settles.bind {Kind : α → Prop} {Kind' : β → Prop} {faults later : List EvalError}
    {x : Eval σ α} {next : α → Eval σ β} (hfirst : Settles Kind faults x)
    (hnext : ∀ value, Kind value → Settles Kind' later (next value)) :
    Settles Kind' (faults ++ later) (x >>= next) := by
  cases faults with
  | nil =>
      obtain ⟨value, rfl, hvalue⟩ := hfirst
      rw [pure_bind]
      exact hnext value hvalue
  | cons problem faults =>
      obtain rfl : x = throw problem := hfirst
      exact throw_bind problem next

section Result

variable {Kind : α → Prop} {faults : List EvalError} {x : Eval Unit α}

theorem Settles.exists_result_iff (h : Settles Kind faults x) :
    (∃ value, x.result = .ok value ∧ Kind value) ↔ faults = [] := by
  cases faults with
  | nil =>
      obtain ⟨value, rfl, hvalue⟩ := h
      simpa using hvalue
  | cons problem faults =>
      obtain rfl : x = throw problem := h
      simp

theorem Settles.result_eq_error_iff (h : Settles Kind faults x) {problem : EvalError} :
    x.result = .error problem ↔ faults.head? = some problem := by
  cases faults with
  | nil =>
      obtain ⟨value, rfl, -⟩ := h
      simp
  | cons first faults =>
      obtain rfl : x = throw first := h
      simp

end Result

/-- Every value that the computation comes to is of the kind, and every failure, with the state that
it leaves, is as told. -/
def Ends (Kind : α → Prop) (Failure : EvalError → σ → Prop) (x : Eval σ α) : Prop :=
  ∀ state, match x.run.run state with
    | (.ok value, _) => Kind value
    | (.error problem, final) => Failure problem final

section Ends

variable {Kind : α → Prop} {Kind' : β → Prop} {Failure : EvalError → σ → Prop} {x : Eval σ α}
  {state final : σ}

theorem Ends.of_ok {value : α} (h : Ends Kind Failure x)
    (hrun : x.run.run state = (.ok value, final)) : Kind value := by
  have hend := h state
  rwa [hrun] at hend

theorem Ends.of_error {problem : EvalError} (h : Ends Kind Failure x)
    (hrun : x.run.run state = (.error problem, final)) : Failure problem final := by
  have hend := h state
  rwa [hrun] at hend

theorem ends_pure {value : α} (hvalue : Kind value) :
    Ends Kind Failure (pure value : Eval σ α) :=
  fun _ => hvalue

theorem ends_throw {problem : EvalError} (hproblem : ∀ state, Failure problem state) :
    Ends Kind Failure (throw problem : Eval σ α) :=
  hproblem

theorem Ends.bind {next : α → Eval σ β} (hfirst : Ends Kind Failure x)
    (hnext : ∀ value, Kind value → Ends Kind' Failure (next value)) :
    Ends Kind' Failure (x >>= next) := by
  intro state
  cases hx : x.run.run state with
  | mk result middle =>
      cases result with
      | ok value =>
          rw [run_bind_of_ok hx]
          exact hnext value (hfirst.of_ok hx) middle
      | error problem =>
          rw [run_bind_of_error hx]
          exact hfirst.of_error hx

end Ends

end Eval

namespace Semantics

variable {s : Semantics σ ν} {Kind : ν → Prop}

theorem settles_resolve {env : Env ν} (henv : env.All Kind) (name : String) :
    Eval.Settles Kind ((Expr.var name).faults env.binds)
      (resolve env name : Eval σ ν) := by
  rw [Expr.faults, resolve, Env.binds]
  cases hlookup : env.lookup name with
  | some value => exact ⟨value, rfl, henv name value hlookup⟩
  | none => rfl

/-- Where the operations are pure, only the faults of an expression can stop its evaluation. -/
theorem PureOn.settles_evaluate (hpure : s.PureOn Kind) (e : Expr) {env : Env ν}
    (henv : env.All Kind) : Eval.Settles Kind (e.faults env.binds) (s.evaluate e env) := by
  induction e generalizing env with
  | literal value =>
      rw [evaluate_literal]
      exact hpure.literal value
  | input lower upper =>
      rw [evaluate_input, request, Expr.faults]
      split
      · rfl
      · next hordered => exact hpure.input (Int64.not_lt.mp hordered)
  | var name =>
      rw [evaluate_var]
      exact settles_resolve henv name
  | negate operand ih =>
      rw [evaluate_negate, Expr.faults, ← List.append_nil (operand.faults env.binds)]
      apply (ih henv).bind
      intro value hvalue
      exact hpure.negate hvalue
  | binary op left right ihLeft ihRight =>
      rw [evaluate_binary, Expr.faults]
      apply (ihLeft henv).bind
      intro leftValue hleft
      rw [← List.append_nil (right.faults env.binds)]
      apply (ihRight henv).bind
      intro rightValue hright
      exact hpure.combine op hleft hright
  | letIn name bound body ihBound ihBody =>
      rw [evaluate_letIn, Expr.faults]
      apply (ihBound henv).bind
      intro value hvalue
      rw [← Env.binds_bind]
      exact ihBody (henv.bind name hvalue)

theorem PureOn.result_evaluate {s : Semantics Unit ν} (hpure : s.PureOn Kind) (e : Expr)
    {env : Env ν} (henv : env.All Kind) :
    ((∃ value, (s.evaluate e env).result = .ok value ∧ Kind value) ↔ e.Defined env.binds) ∧
      ∀ problem, (s.evaluate e env).result = .error problem ↔
        (e.faults env.binds).head? = some problem := by
  have hsettles := hpure.settles_evaluate e henv
  rw [← Expr.faults_eq_nil_iff]
  exact ⟨hsettles.exists_result_iff, fun problem => hsettles.result_eq_error_iff⟩

theorem inlining_pureOn : inlining.PureOn fun _ => True where
  literal _ := ⟨_, rfl, trivial⟩
  combine _ _ _ _ _ := ⟨_, rfl, trivial⟩
  negate _ := ⟨_, rfl, trivial⟩
  input _ := ⟨_, rfl, trivial⟩

/-- The operations fail only in one of the ways told. Inputs with an empty range are not asked
for. -/
structure FailsOnly (s : Semantics σ ν) (Failure : EvalError → σ → Prop) : Prop where
  literal : ∀ value, (s.literal value).Ends (fun _ => True) Failure
  combine : ∀ op left right, (s.combine op left right).Ends (fun _ => True) Failure
  negate : ∀ operand, (s.negate operand).Ends (fun _ => True) Failure
  input : ∀ {lower upper}, lower ≤ upper → (s.input lower upper).Ends (fun _ => True) Failure

/-- Without faults, an evaluation fails as one of its operations does. -/
theorem FailsOnly.evaluate {Failure : EvalError → σ → Prop} (h : s.FailsOnly Failure) {e : Expr}
    {env : Env ν} (hfaults : e.faults env.binds = []) :
    (s.evaluate e env).Ends (fun _ => True) Failure := by
  induction e generalizing env with
  | literal value =>
      rw [evaluate_literal]
      exact h.literal value
  | input lower upper =>
      have hordered : lower ≤ upper :=
        (Expr.faults_eq_nil_iff.mp hfaults).nonempty (lower, upper) List.mem_cons_self
      rw [evaluate_input, request, if_neg (Int64.not_lt.mpr hordered)]
      exact h.input hordered
  | var name =>
      have hbound : env.binds name = true :=
        (Expr.faults_eq_nil_iff.mp hfaults).bound name List.mem_cons_self
      obtain ⟨value, hlookup⟩ := Option.isSome_iff_exists.mp hbound
      rw [evaluate_var, resolve, hlookup]
      exact Eval.ends_pure trivial
  | negate operand ih =>
      rw [evaluate_negate]
      exact (ih hfaults).bind fun value _ => h.negate value
  | binary op left right ihLeft ihRight =>
      obtain ⟨hleft, hright⟩ := List.append_eq_nil_iff.mp hfaults
      rw [evaluate_binary]
      apply (ihLeft hleft).bind
      intro leftValue _
      exact (ihRight hright).bind fun rightValue _ => h.combine op leftValue rightValue
  | letIn name bound body ihBound ihBody =>
      obtain ⟨hbound, hbody⟩ := List.append_eq_nil_iff.mp hfaults
      rw [evaluate_letIn]
      apply (ihBound hbound).bind
      intro value _
      apply ihBody
      rw [Env.binds_bind]
      exact hbody

end Semantics

end RangeCalc
