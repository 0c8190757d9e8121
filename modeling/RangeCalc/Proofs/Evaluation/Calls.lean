import RangeCalc.Proofs.Evaluation.Simulation

/-! The calls of operations that an evaluation makes, one after another. Noting them changes neither
the result nor the state, and a call that fails is the last one. -/

namespace RangeCalc

variable {σ ν α β γ δ : Type}

inductive Call (ν : Type) where
  | literal (value : Int64)
  | combine (op : Operator) (left right : ν)
  | negate (operand : ν)
  | input (lower upper : Int64)

/-- Calls with what they came to, the earliest first. -/
abbrev Calls (ν : Type) := List (Call ν × Except EvalError ν)

namespace Calls

def AllSucceed (calls : Calls ν) : Prop :=
  ∀ call ∈ calls, call.2.isOk = true

/-- Every call succeeded, or all but the last did and the result is the error of the last. -/
def EndIn (calls : Calls ν) (result : Except EvalError α) : Prop :=
  calls.AllSucceed ∨ ∃ earlier call problem, calls = earlier ++ [(call, .error problem)] ∧
    AllSucceed earlier ∧ result = .error problem

theorem endIn_nil (result : Except EvalError α) : EndIn ([] : Calls ν) result :=
  .inl (by simp [AllSucceed])

theorem endIn_singleton (call : Call ν) (outcome : Except EvalError ν) :
    EndIn [(call, outcome)] outcome := by
  cases outcome with
  | ok value => exact .inl (by simp [AllSucceed, Except.isOk, Except.toBool])
  | error problem => exact .inr ⟨[], call, problem, rfl, by simp [AllSucceed], rfl⟩

theorem EndIn.allSucceed {calls : Calls ν} {value : α} (h : calls.EndIn (.ok value)) :
    calls.AllSucceed := by
  rcases h with hall | ⟨_, _, _, _, _, hresult⟩
  · exact hall
  · contradiction

theorem EndIn.of_error {calls : Calls ν} {problem : EvalError}
    (h : calls.EndIn (.error problem : Except EvalError α)) :
    calls.EndIn (.error problem : Except EvalError β) := by
  rcases h with hall | ⟨earlier, call, _, hcalls, hearlier, ⟨⟩⟩
  · exact .inl hall
  · exact .inr ⟨earlier, call, problem, hcalls, hearlier, rfl⟩

theorem AllSucceed.append_endIn {calls later : Calls ν} {result : Except EvalError α}
    (hcalls : calls.AllSucceed) (hlater : later.EndIn result) : EndIn (calls ++ later) result := by
  rcases hlater with hall | ⟨earlier, call, problem, rfl, hearlier, hresult⟩
  · exact .inl (List.forall_mem_append.mpr ⟨hcalls, hall⟩)
  · refine .inr ⟨calls ++ earlier, call, problem, ?_, ?_, hresult⟩
    · rw [List.append_assoc]
    · exact List.forall_mem_append.mpr ⟨hcalls, hearlier⟩

end Calls

structure Journal (σ ν : Type) where
  state : σ
  calls : Calls ν

namespace Journal

def start (state : σ) : Journal σ ν :=
  ⟨state, []⟩

def note (call : Call ν) (operation : Eval σ ν) : Eval (Journal σ ν) ν := fun journal =>
  let (outcome, state) := operation.run.run journal.state
  (outcome, ⟨state, journal.calls ++ [(call, outcome)]⟩)

theorem run_note {call : Call ν} {operation : Eval σ ν} {state final : σ}
    {outcome : Except EvalError ν} (hrun : operation.run.run state = (outcome, final))
    (before : Calls ν) :
    (note call operation).run.run ⟨state, before⟩ =
      (outcome, ⟨final, before ++ [(call, outcome)]⟩) := by
  change note call operation ⟨state, before⟩ = _
  rw [note, hrun]

end Journal

/-- The same operations, each of which notes that it was called. -/
def Semantics.noting (s : Semantics σ ν) : Semantics (Journal σ ν) ν where
  literal value := Journal.note (.literal value) (s.literal value)
  combine op left right := Journal.note (.combine op left right) (s.combine op left right)
  negate operand := Journal.note (.negate operand) (s.negate operand)
  input lower upper := Journal.note (.input lower upper) (s.input lower upper)

namespace Eval

/-- The second computation does what the first does and notes calls, of which at most the last
failed. -/
def NotedBy (R : α → β → Prop) (x : Eval σ α) (y : Eval (Journal σ ν) β) : Prop :=
  ∀ ⦃state result final⦄, x.run.run state = (result, final) → ∀ before, ∃ found calls,
    y.run.run ⟨state, before⟩ = (found, ⟨final, before ++ calls⟩) ∧ Result.Related R result found ∧
      Calls.EndIn calls found

variable {R : α → β → Prop} {S : γ → δ → Prop}

theorem notedBy_pure {value : α} {found : β} (h : R value found) :
    NotedBy R (pure value : Eval σ α) (pure found : Eval (Journal σ ν) β) := by
  rintro state _ _ ⟨⟩ before
  exact ⟨.ok found, [], by rw [List.append_nil]; rfl, .ok h, Calls.endIn_nil _⟩

theorem notedBy_throw (R : α → β → Prop) (problem : EvalError) :
    NotedBy R (throw problem : Eval σ α) (throw problem : Eval (Journal σ ν) β) := by
  rintro state _ _ ⟨⟩ before
  exact ⟨.error problem, [], by rw [List.append_nil]; rfl, .error problem, Calls.endIn_nil _⟩

theorem notedBy_bind {x : Eval σ α} {y : Eval (Journal σ ν) β} {next : α → Eval σ γ}
    {next' : β → Eval (Journal σ ν) δ} (hfirst : NotedBy R x y)
    (hnext : ∀ value found, R value found → NotedBy S (next value) (next' found)) :
    NotedBy S (x >>= next) (y >>= next') := by
  intro state result final hrun before
  cases hx : x.run.run state with
  | mk outcome middle =>
      obtain ⟨found, calls, hy, hrelated, hcalls⟩ := hfirst hx before
      cases hrelated with
      | @ok value found hvalue =>
          rw [run_bind_of_ok hx] at hrun
          obtain ⟨last, later, hlast, hresult, hlater⟩ :=
            hnext value found hvalue hrun (before ++ calls)
          refine ⟨last, calls ++ later, ?_, hresult, hcalls.allSucceed.append_endIn hlater⟩
          rw [run_bind_of_ok hy, hlast, List.append_assoc]
      | error problem =>
          rw [run_bind_of_error hx] at hrun
          cases hrun
          exact ⟨.error problem, calls, run_bind_of_error hy, .error problem, hcalls.of_error⟩

def notedBy : Comparison σ (Journal σ ν) where
  Holds := NotedBy
  of_pure := notedBy_pure
  of_throw := notedBy_throw
  of_bind := notedBy_bind

theorem notedBy_note (call : Call ν) (operation : Eval σ ν) :
    NotedBy Eq operation (Journal.note call operation) := by
  intro state result final hrun before
  refine ⟨result, [(call, result)], Journal.run_note hrun before, ?_,
    Calls.endIn_singleton call result⟩
  cases result with
  | ok value => exact .ok rfl
  | error problem => exact .error problem

end Eval

namespace Semantics

variable (s : Semantics σ ν)

theorem corresponds_noting : s.Corresponds Eval.notedBy s.noting Eq where
  literal _ := Eval.notedBy_note _ _
  combine _ _ _ _ _ hleft hright := hleft ▸ hright ▸ Eval.notedBy_note _ _
  negate hvalue := hvalue ▸ Eval.notedBy_note _ _
  input _ := Eval.notedBy_note _ _

theorem run_noting_evaluate (e : Expr) (env : Env ν) (state : σ) : ∃ result final calls,
    (s.evaluate e env).run.run state = (result, final) ∧
      (s.noting.evaluate e env).run.run (.start state) = (result, ⟨final, calls⟩) ∧
      Calls.EndIn calls result := by
  cases hrun : (s.evaluate e env).run.run state with
  | mk result final =>
      obtain ⟨found, calls, hnoted, hresult, hcalls⟩ :=
        s.corresponds_noting.evaluate e (Env.Related.refl env) hrun []
      cases hresult.eq
      exact ⟨result, final, calls, rfl, hnoted, hcalls⟩

end Semantics

end RangeCalc
