import RangeCalc.Proofs.Evaluation.Scope
import RangeCalc.Proofs.Frame.Bindings

/-! What of an environment an evaluation sees: the bindings of the free variables that no later
binding hides. -/

namespace RangeCalc

variable {σ ν : Type}

/-- A binding below others is not seen where one of these hides it, or where its name is not looked
up. -/
theorem Env.along_extend_bind {names : List String} {name : String} {above : List (String × ν)}
    (hunseen : name ∈ names → name ∈ above.map Prod.fst) (env : Env ν) (value : ν) :
    Env.Along id names (env.extend above) ((env.bind name value).extend above) := by
  intro other hother
  refine ⟨?_, fun _ => rfl⟩
  rw [id, Frame.lookup_extend, Frame.lookup_extend]
  by_cases hsame : name = other
  · subst hsame
    cases hlookup : (Frame.ofList above).lookup name with
    | some found => rfl
    | none =>
        obtain ⟨binding, hbinding, hname⟩ := List.mem_map.mp (hunseen hother)
        cases Frame.lookup_ofList_eq_iff.mp hlookup with
        | absent hnone => exact absurd hname (hnone binding hbinding)
  · rw [Frame.lookup_bind_of_ne _ _ hsame]

namespace Semantics

/-- From every state both evaluations come to the same result or error and the same final state, by
the same calls. -/
def RunsAlike (s : Semantics σ ν) (e : Expr) (env env' : Env ν) : Prop :=
  ∀ state, ∃ result final calls,
    (s.evaluate e env).run.run state = (result, final) ∧
      (s.evaluate e env').run.run state = (result, final) ∧
      (s.noting.evaluate e env).run.run (.start state) = (result, ⟨final, calls⟩) ∧
      (s.noting.evaluate e env').run.run (.start state) = (result, ⟨final, calls⟩)

theorem runsAlike_of_along (s : Semantics σ ν) {e : Expr} {env env' : Env ν}
    (h : Env.Along id e.free env env') : s.RunsAlike e env env' := by
  intro state
  obtain ⟨result, final, calls, hrun, hcalls, -⟩ := s.run_noting_evaluate e env state
  refine ⟨result, final, calls, hrun, ?_, hcalls, ?_⟩
  · rw [s.evaluate_congr e h, hrun]
  · rw [s.noting.evaluate_congr e h, hcalls]

/-- An evaluation depends on the bindings of the free variables alone. A closed expression comes to
the same everywhere, and a binding that is hidden by later ones or not used is not seen. -/
theorem only_free_variables_matter (s : Semantics σ ν) (e : Expr) :
    (∀ env env' : Env ν, (∀ name ∈ e.free, env.lookup name = env'.lookup name) →
        s.RunsAlike e env env') ∧
      (e.free = [] → ∀ env env' : Env ν, s.RunsAlike e env env') ∧
      ∀ (env : Env ν) (name : String) (value : ν) (above : List (String × ν)),
        (name ∈ e.free → name ∈ above.map Prod.fst) →
          s.RunsAlike e (env.extend above) ((env.bind name value).extend above) := by
  refine ⟨?_, ?_, ?_⟩
  · intro env env' hagree
    exact s.runsAlike_of_along fun name hname => ⟨(hagree name hname).symm, fun _ => rfl⟩
  · intro hclosed env env'
    apply s.runsAlike_of_along
    rw [hclosed]
    exact List.forall_mem_nil _
  · intro env name value above hunseen
    exact s.runsAlike_of_along (Env.along_extend_bind hunseen env value)

/-- `let x = ?[0, 9] in x * y`. -/
private def scaledInput : Expr :=
  .letIn "x" (.input 0 9) (.binary .times (.var "x") (.var "y"))

/-- The second environment of the first run binds a `z` that is not used and hides its `x` and one
`y`. The second run binds `y` itself, and in the third a binding is hidden. -/
theorem only_free_variables_matter_hidden :
    ((concrete Provider.counting).evaluate scaledInput
        ((((Frame.empty.bind "x" 7).bind "y" 3).bind "y" 5).bind "z" 1)).run.run 4 =
      (.ok 20, 5) ∧
      ((concrete Provider.counting).evaluate (.letIn "y" (.literal 5) scaledInput)
        (Frame.empty.bind "y" 3)).run.run 4 = (.ok 20, 5) ∧
      (concrete Provider.counting).RunsAlike scaledInput (Frame.empty.extend [("y", 5)])
        ((Frame.empty.bind "y" 3).extend [("y", 5)]) := by
  have hagree : ∀ name ∈ scaledInput.free, (Frame.empty.bind "y" (5 : Int64)).lookup name =
      ((((Frame.empty.bind "x" 7).bind "y" 3).bind "y" 5).bind "z" 1).lookup name := by
    decide
  have hopen : ((concrete Provider.counting).evaluate scaledInput
      (Frame.empty.bind "y" 5)).run.run 4 = (.ok 20, 5) := by
    rfl
  have hclosed : ((concrete Provider.counting).evaluate (.letIn "y" (.literal 5) scaledInput)
      .empty).run.run 4 = (.ok 20, 5) := by
    rfl
  obtain ⟨hagreeing, -, hhidden⟩ :=
    only_free_variables_matter (concrete Provider.counting) scaledInput
  obtain ⟨-, hanywhere, -⟩ :=
    only_free_variables_matter (concrete Provider.counting) (.letIn "y" (.literal 5) scaledInput)
  obtain ⟨_, _, _, hrun, hrun', -⟩ := hagreeing _ _ hagree 4
  obtain ⟨_, _, _, hbound, hbound', -⟩ := hanywhere (by decide) .empty (Frame.empty.bind "y" 3) 4
  refine ⟨?_, ?_, hhidden .empty "y" 3 [("y", 5)] fun _ => List.mem_cons_self⟩
  · rw [hrun', ← hrun, hopen]
  · rw [hbound', ← hbound, hclosed]

end Semantics

end RangeCalc
