import RangeCalc.Proofs.Evaluation.Answers
import RangeCalc.Proofs.Evaluation.Calls

/-! Inputs are asked for in the order of the text. A run that stops early has asked for the first of
them; a run that comes to a value has asked for each exactly once. -/

namespace RangeCalc

variable {σ τ ν α β γ δ : Type}

/-- The ranges of the inputs of an expression, from left to right. -/
def Expr.inputs : Expr → List (Int64 × Int64)
  | .literal _ => []
  | .input lower upper => [(lower, upper)]
  | .var _ => []
  | .negate operand => operand.inputs
  | .binary _ left right => left.inputs ++ right.inputs
  | .letIn _ bound body => bound.inputs ++ body.inputs

def Call.range? : Call ν → Option (Int64 × Int64)
  | .input lower upper => some (lower, upper)
  | _ => none

namespace Calls

def ranges (calls : Calls ν) : List (Int64 × Int64) :=
  calls.filterMap fun call => call.1.range?

@[simp] theorem ranges_nil : ranges ([] : Calls ν) = [] := rfl

@[simp] theorem ranges_append (calls later : Calls ν) :
    ranges (calls ++ later) = calls.ranges ++ later.ranges :=
  List.filterMap_append

/-- Each value that an input came to lies in the range that was asked for. -/
def WithinRanges (calls : Calls Int64) : Prop :=
  ∀ lower upper value, (.input lower upper, .ok value) ∈ calls → lower ≤ value ∧ value ≤ upper

theorem withinRanges_nil : WithinRanges [] := by
  simp [WithinRanges]

theorem WithinRanges.append {calls later : Calls Int64} (hcalls : calls.WithinRanges)
    (hlater : later.WithinRanges) : WithinRanges (calls ++ later) := by
  intro lower upper value hmem
  rcases List.mem_append.mp hmem with hmem | hmem
  · exact hcalls lower upper value hmem
  · exact hlater lower upper value hmem

end Calls

namespace Eval

/-! Two computations of which the second keeps more in its state. -/

/-- The second computation does what the first does on the part of its state that `view` shows. -/
def Shows (view : τ → σ) (R : α → β → Prop) (x : Eval σ α) (y : Eval τ β) : Prop :=
  ∀ start, ∃ result found final, x.run.run (view start) = (result, view final) ∧
    y.run.run start = (found, final) ∧ Result.Related R result found

theorem shows_bind {view : τ → σ} {R : α → β → Prop} {S : γ → δ → Prop} {x : Eval σ α}
    {y : Eval τ β} {next : α → Eval σ γ} {next' : β → Eval τ δ} (hfirst : Shows view R x y)
    (hnext : ∀ value found, R value found → Shows view S (next value) (next' found)) :
    Shows view S (x >>= next) (y >>= next') := by
  intro start
  obtain ⟨result, found, middle, hx, hy, hrelated⟩ := hfirst start
  cases hrelated with
  | ok hvalue =>
      rw [run_bind_of_ok hx, run_bind_of_ok hy]
      exact hnext _ _ hvalue middle
  | error problem =>
      exact ⟨.error problem, .error problem, middle, run_bind_of_error hx, run_bind_of_error hy,
        .error problem⟩

def showing (view : τ → σ) : Comparison σ τ where
  Holds := Shows view
  of_pure hvalue start := ⟨_, _, start, rfl, rfl, .ok hvalue⟩
  of_throw _ problem start := ⟨_, _, start, rfl, rfl, .error problem⟩
  of_bind := shows_bind

end Eval

/-- A record of the requests to the provider and of the calls of operations. -/
abbrev Dialogue (σ : Type) := Journal (Recorded σ) Int64

namespace Dialogue

def state (dialogue : Dialogue σ) : σ :=
  (Journal.state dialogue).state

/-- The computation asks for the ranges in their order: for all of them if it comes to a value, and
otherwise for the first of them. -/
def Asks (ranges : List (Int64 × Int64)) (x : Eval (Dialogue σ) α) : Prop :=
  ∀ start, ∃ result final calls, x.run.run start = (result, final) ∧
    final.calls = start.calls ++ calls ∧
    (Journal.state final).requests = (Journal.state start).requests ++ calls.ranges ∧
    calls.WithinRanges ∧ calls.ranges <+: ranges ∧
    ∀ value, result = .ok value → calls.ranges = ranges

variable {x : Eval (Dialogue σ) α} {next : α → Eval (Dialogue σ) β}
  {ranges later : List (Int64 × Int64)}

theorem asks_pure (value : α) : Asks [] (pure value : Eval (Dialogue σ) α) := by
  intro start
  exact ⟨.ok value, start, [], rfl, by simp, by simp, Calls.withinRanges_nil, List.prefix_rfl,
    fun _ _ => rfl⟩

theorem asks_throw (problem : EvalError) (ranges : List (Int64 × Int64)) :
    Asks ranges (throw problem : Eval (Dialogue σ) α) := by
  intro start
  exact ⟨.error problem, start, [], rfl, by simp, by simp, Calls.withinRanges_nil,
    List.nil_prefix, by rintro _ ⟨⟩⟩

theorem Asks.bind (hfirst : Asks ranges x) (hnext : ∀ value, Asks later (next value)) :
    Asks (ranges ++ later) (x >>= next) := by
  intro start
  obtain ⟨result, middle, calls, hx, hcalls, hrequests, hwithin, hprefix, hall⟩ := hfirst start
  cases result with
  | ok value =>
      obtain ⟨last, final, calls', hlast, hcalls', hrequests', hwithin', hprefix', hall'⟩ :=
        hnext value middle
      have hranges := hall value rfl
      refine ⟨last, final, calls ++ calls', (Eval.run_bind_of_ok hx).trans hlast, ?_, ?_,
        hwithin.append hwithin', ?_, ?_⟩
      · rw [hcalls', hcalls, List.append_assoc]
      · rw [hrequests', hrequests, Calls.ranges_append, List.append_assoc]
      · rw [Calls.ranges_append, hranges]
        exact (List.prefix_append_right_inj ranges).mpr hprefix'
      · intro value' hvalue'
        rw [Calls.ranges_append, hranges, hall' value' hvalue']
  | error problem =>
      refine ⟨.error problem, middle, calls, Eval.run_bind_of_error hx, hcalls, hrequests, hwithin,
        hprefix.trans (List.prefix_append ranges later), ?_⟩
      rintro _ ⟨⟩

/-- Operations that are no inputs ask for nothing, and an input asks for its range. -/
theorem asks_note (call : Call Int64) {operation : Eval (Recorded σ) Int64}
    (hoperation : ∀ recorded, ∃ result final, operation.run.run recorded = (result, final) ∧
      final.requests = recorded.requests ++ call.range?.toList ∧
      Calls.WithinRanges [(call, result)]) :
    Asks call.range?.toList (Journal.note call operation) := by
  intro start
  obtain ⟨recorded, calls⟩ := start
  obtain ⟨result, final, hrun, hrequests, hwithin⟩ := hoperation recorded
  have hranges : Calls.ranges [(call, result)] = call.range?.toList := by
    cases hrange : call.range? <;> simp [Calls.ranges, hrange]
  refine ⟨result, _, [(call, result)], Journal.run_note hrun calls, rfl, ?_, hwithin, ?_,
    fun _ _ => hranges⟩
  · rw [hranges]
    exact hrequests
  · exact hranges ▸ List.prefix_rfl

end Dialogue

namespace Arithmetic

/-- Whether a result fits does not depend on the state, which is kept. -/
theorem exists_run_checked (operation : Arithmetic) (exact : Int) :
    ∃ result, ∀ (σ : Type) (state : σ),
      (operation.checked exact).run.run state = (result, state) := by
  unfold checked
  cases Integer.fit? exact with
  | some value => exact ⟨.ok value, fun _ _ => rfl⟩
  | none => exact ⟨.error (.overflow operation), fun _ _ => rfl⟩

theorem exists_run_combine (op : Operator) (left right : Int64) :
    ∃ result, ∀ (σ : Type) (state : σ),
      (combine op left right).run.run state = (result, state) := by
  cases op with
  | plus => exact exists_run_checked addition _
  | times => exact exists_run_checked multiplication _

end Arithmetic

namespace Semantics

variable (provider : Provider σ)

theorem asks_combine (op : Operator) (left right : Int64) :
    Dialogue.Asks [] ((concrete provider.recorded).noting.combine op left right) := by
  apply Dialogue.asks_note (.combine op left right)
  intro recorded
  obtain ⟨result, hrun⟩ := Arithmetic.exists_run_combine op left right
  exact ⟨result, recorded, hrun _ recorded, by simp [Call.range?], by simp [Calls.WithinRanges]⟩

theorem asks_negate (operand : Int64) :
    Dialogue.Asks [] ((concrete provider.recorded).noting.negate operand) := by
  apply Dialogue.asks_note (.negate operand)
  intro recorded
  obtain ⟨result, hrun⟩ := Arithmetic.exists_run_checked .negation (-operand.toInt)
  exact ⟨result, recorded, hrun _ recorded, by simp [Call.range?], by simp [Calls.WithinRanges]⟩

theorem asks_literal (value : Int64) :
    Dialogue.Asks [] ((concrete provider.recorded).noting.literal value) := by
  apply Dialogue.asks_note (.literal value)
  intro recorded
  exact ⟨.ok value, recorded, rfl, by simp [Call.range?], by simp [Calls.WithinRanges]⟩

theorem asks_request (lower upper : Int64) :
    Dialogue.Asks [(lower, upper)] ((concrete provider.recorded).noting.request lower upper) := by
  rw [request]
  split
  · exact Dialogue.asks_throw _ _
  · apply Dialogue.asks_note (.input lower upper)
    intro recorded
    obtain ⟨answer, final, hrun⟩ : ∃ answer final,
        (provider lower upper).run.run recorded.state = (answer, final) := ⟨_, _, rfl⟩
    refine ⟨_, _, Provider.run_checkedInput (Provider.run_recorded hrun), ?_, ?_⟩
    · simp [Recorded.requests, Call.range?]
    intro lower' upper' value hmem
    obtain ⟨hrange, hvalue⟩ := Prod.mk.inj (List.mem_singleton.mp hmem)
    cases hrange
    exact Provider.mem_of_accepted hvalue.symm

theorem asks_resolve (env : Env Int64) (name : String) :
    Dialogue.Asks [] (resolve env name : Eval (Dialogue σ) Int64) := by
  rw [resolve]
  cases env.lookup name with
  | some value => exact Dialogue.asks_pure value
  | none => exact Dialogue.asks_throw _ _

theorem asks_evaluate (e : Expr) (env : Env Int64) :
    Dialogue.Asks e.inputs ((concrete provider.recorded).noting.evaluate e env) := by
  induction e generalizing env with
  | literal value =>
      rw [evaluate_literal]
      exact asks_literal provider value
  | input lower upper =>
      rw [evaluate_input]
      exact asks_request provider lower upper
  | var name =>
      rw [evaluate_var]
      exact asks_resolve env name
  | negate operand ih =>
      rw [evaluate_negate, Expr.inputs, ← List.append_nil operand.inputs]
      exact (ih env).bind (asks_negate provider)
  | binary op left right ihLeft ihRight =>
      rw [evaluate_binary, Expr.inputs, ← List.append_nil right.inputs]
      apply (ihLeft env).bind
      intro leftValue
      exact (ihRight env).bind (asks_combine provider op leftValue)
  | letIn name bound body ihBound ihBody =>
      rw [evaluate_letIn, Expr.inputs]
      exact (ihBound env).bind fun value => ihBody (env.bind name value)

end Semantics

namespace Eval

theorem shows_note {x : Eval σ Int64} {y : Eval (Recorded σ) Int64} (call : Call Int64)
    (h : Shows Recorded.state Eq x y) :
    Shows Dialogue.state Eq x (Journal.note call y) := by
  intro start
  obtain ⟨recorded, calls⟩ := start
  obtain ⟨result, found, final, hx, hy, hrelated⟩ := h recorded
  exact ⟨result, found, ⟨final, calls ++ [(call, found)]⟩, hx, Journal.run_note hy calls,
    hrelated⟩

end Eval

namespace Semantics

variable (provider : Provider σ)

/-- A record of the requests does not change what is evaluated. -/
theorem concrete_corresponds_recording :
    (concrete provider).Corresponds (Eval.showing Recorded.state) (concrete provider.recorded)
      Eq where
  literal value start := ⟨_, _, start, rfl, rfl, .ok rfl⟩
  combine op left right _ _ hleft hright := by
    subst hleft hright
    obtain ⟨result, hrun⟩ := Arithmetic.exists_run_combine op left right
    exact fun start => ⟨result, result, start, hrun _ _, hrun _ start, .refl result⟩
  negate := by
    rintro value _ rfl
    obtain ⟨result, hrun⟩ := Arithmetic.exists_run_checked .negation (-value.toInt)
    exact fun start => ⟨result, result, start, hrun _ _, hrun _ start, .refl result⟩
  input := by
    intro lower upper _ recorded
    obtain ⟨answer, final, hrun⟩ : ∃ answer final,
        (provider lower upper).run.run recorded.state = (answer, final) := ⟨_, _, rfl⟩
    exact ⟨_, _, _, Provider.run_checkedInput hrun,
      Provider.run_checkedInput (Provider.run_recorded hrun), .refl _⟩

/-- Neither the record of the requests nor that of the calls changes what is evaluated. -/
theorem concrete_corresponds_recorded :
    (concrete provider).Corresponds (Eval.showing Dialogue.state)
      (concrete provider.recorded).noting Eq where
  literal value := Eval.shows_note _ ((concrete_corresponds_recording provider).literal value)
  combine op left right _ _ hleft hright := by
    subst hleft hright
    exact Eval.shows_note _ ((concrete_corresponds_recording provider).combine op rfl rfl)
  negate := by
    rintro value _ rfl
    exact Eval.shows_note _ ((concrete_corresponds_recording provider).negate rfl)
  input hordered := Eval.shows_note _ ((concrete_corresponds_recording provider).input hordered)

theorem run_concrete_of_recorded {e : Expr} {env : Env Int64} {state : σ} {final : Recorded σ}
    {result : Except EvalError Int64}
    (hrun : ((concrete provider.recorded).evaluate e env).run.run (.start state) =
      (result, final)) :
    ((concrete provider).evaluate e env).run.run state = (result, final.state) := by
  obtain ⟨result', found, final', hplain, hrecorded, hrelated⟩ :=
    (concrete_corresponds_recording provider).evaluate e (Env.Related.refl env) (.start state)
  obtain rfl := hrelated.eq
  rw [hrun] at hrecorded
  cases hrecorded
  exact hplain

/-- The requests of an evaluation are the first inputs of the expression, and all of them where it
comes to a value. Each value that an input comes to lies in the range that was asked for. -/
theorem requests_follow_inputs (e : Expr) (env : Env Int64) (state : σ) :
    ∃ result final recorded calls,
      ((concrete provider).evaluate e env).run.run state = (result, final) ∧
        ((concrete provider.recorded).noting.evaluate e env).run.run (.start (.start state)) =
          (result, ⟨recorded, calls⟩) ∧
        recorded.state = final ∧ recorded.requests = calls.ranges ∧
        recorded.requests <+: e.inputs ∧
        (∀ value, result = .ok value → recorded.requests = e.inputs) ∧
        calls.WithinRanges := by
  obtain ⟨result, found, last, hrun, hnoted, hresult⟩ :=
    (concrete_corresponds_recorded provider).evaluate e (Env.Related.refl env)
      (.start (.start state))
  obtain ⟨found', last', calls, hnoted', hcalls, hrequests, hwithin, hprefix, hall⟩ :=
    asks_evaluate provider e env (.start (.start state))
  obtain rfl := hresult.eq
  rw [hnoted] at hnoted'
  cases hnoted'
  obtain ⟨recorded, calls'⟩ := last
  obtain rfl : calls' = calls := hcalls
  have hrequests : recorded.requests = calls'.ranges := hrequests
  refine ⟨result, _, recorded, calls', hrun, hnoted, rfl, hrequests, ?_, ?_, hwithin⟩
  · rw [hrequests]
    exact hprefix
  · intro value hvalue
    rw [hrequests, hall value hvalue]

/-- A name stands for the one answer to the request that it is bound to. -/
example :
    (Expr.letIn "x" (.input 0 9) (.binary .plus (.var "x") (.var "x"))).inputs = [(0, 9)] :=
  rfl

end Semantics

end RangeCalc
