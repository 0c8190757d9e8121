import RangeCalc.Proofs.Evaluation.Faults
import RangeCalc.Proofs.Evaluation.Replay

/-! Inlining where no input is shared. A bound expression that asks for nothing comes to one value
wherever it stands, so the inlined expression makes the same requests and comes to the same value.
All that inlining can drop is an overflow in a bound expression that is not used. -/

namespace RangeCalc

variable {σ ν μ α β : Type}

theorem Env.Related.binds_eq {R : ν → μ → Prop} {env : Env ν} {env' : Env μ}
    (h : Env.Related R env env') : env.binds = env'.binds := by
  funext name
  have hlookup := h name
  rw [Env.binds, Env.binds]
  generalize env.lookup name = bound at hlookup ⊢
  generalize env'.lookup name = bound' at hlookup ⊢
  cases hlookup with
  | some _ => rfl
  | none => rfl

/-- No bound expression asks for an input. -/
def Expr.BindsNoInput : Expr → Prop
  | .literal _ => True
  | .input _ _ => True
  | .var _ => True
  | .negate operand => operand.BindsNoInput
  | .binary _ left right => left.BindsNoInput ∧ right.BindsNoInput
  | .letIn _ bound body => bound.inputs = [] ∧ body.BindsNoInput

theorem Expr.bindsNoInput_of_inputs {e : Expr} (hinputs : e.inputs = []) : e.BindsNoInput := by
  induction e with
  | literal value => trivial
  | input lower upper => trivial
  | var name => trivial
  | negate operand ih => exact ih hinputs
  | binary op left right ihLeft ihRight =>
      obtain ⟨hleft, hright⟩ := List.append_eq_nil_iff.mp hinputs
      exact ⟨ihLeft hleft, ihRight hright⟩
  | letIn name bound body _ ihBody =>
      obtain ⟨hbound, hbody⟩ := List.append_eq_nil_iff.mp hinputs
      exact ⟨hbound, ihBody hbody⟩

namespace Eval

/-- The computation comes to a value or overflows, the same in every state. -/
def Computes (x : Eval σ α) : Prop :=
  (∃ value, x = pure value) ∨ ∃ operation, x = throw (.overflow operation)

theorem computes_pure (value : α) : Computes (pure value : Eval σ α) :=
  .inl ⟨value, rfl⟩

theorem Computes.bind {x : Eval σ α} {next : α → Eval σ β} (hfirst : Computes x)
    (hnext : ∀ value, Computes (next value)) : Computes (x >>= next) := by
  rcases hfirst with ⟨value, rfl⟩ | ⟨operation, rfl⟩
  · rw [pure_bind]
    exact hnext value
  · exact .inr ⟨operation, throw_bind _ next⟩

/-- From each state the first computation does what the second does, unless it overflows. -/
def OrOverflows (x y : Eval σ α) : Prop :=
  ∀ state, x.run.run state = y.run.run state ∨
    ∃ operation final, x.run.run state = (.error (.overflow operation), final)

section OrOverflows

variable {x y : Eval σ α} {state final : σ} {value : α}

theorem OrOverflows.refl (x : Eval σ α) : OrOverflows x x :=
  fun _ => .inl rfl

theorem orOverflows_throw (operation : Arithmetic) (y : Eval σ α) :
    OrOverflows (throw (.overflow operation)) y :=
  fun state => .inr ⟨operation, state, rfl⟩

theorem OrOverflows.bind {next next' : α → Eval σ β} (hfirst : OrOverflows x y)
    (hnext : ∀ value, OrOverflows (next value) (next' value)) :
    OrOverflows (x >>= next) (y >>= next') := by
  intro state
  rcases hfirst state with hsame | ⟨operation, final, hx⟩
  · cases hy : y.run.run state with
    | mk result middle =>
        rw [hy] at hsame
        cases result with
        | ok value =>
            rw [run_bind_of_ok hsame, run_bind_of_ok hy]
            exact hnext value middle
        | error problem =>
            rw [run_bind_of_error hsame, run_bind_of_error hy]
            exact .inl rfl
  · exact .inr ⟨operation, final, run_bind_of_error hx⟩

theorem OrOverflows.eq_pure (h : OrOverflows (pure value) y) : y = pure value := by
  funext state
  rcases h state with hsame | ⟨operation, final, hrun⟩
  · exact hsame.symm
  · cases hrun

theorem OrOverflows.run_of_ok (h : OrOverflows x y)
    (hrun : x.run.run state = (.ok value, final)) : y.run.run state = (.ok value, final) := by
  rcases h state with hsame | ⟨operation, final', hoverflow⟩
  · rw [← hsame, hrun]
  · rw [hrun] at hoverflow
    cases hoverflow

end OrOverflows

end Eval

namespace Semantics

variable {provider : Provider σ}

theorem computes_checked (operation : Arithmetic) (exact : Int) :
    (operation.checked exact : Eval σ Int64).Computes := by
  unfold Arithmetic.checked
  split
  · exact Eval.computes_pure _
  · exact .inr ⟨operation, rfl⟩

theorem computes_combine (op : Operator) (left right : Int64) :
    (Arithmetic.combine op left right : Eval σ Int64).Computes := by
  cases op with
  | plus => exact computes_checked _ _
  | times => exact computes_checked _ _

/-- An expression that asks for nothing and has no faults is computed by arithmetic alone. -/
theorem computes_evaluate {e : Expr} {env : Env Int64} (hinputs : e.inputs = [])
    (hfaults : e.faults env.binds = []) : ((concrete provider).evaluate e env).Computes := by
  induction e generalizing env with
  | literal value =>
      rw [evaluate_literal]
      exact Eval.computes_pure value
  | input lower upper => contradiction
  | var name =>
      have hbound : env.binds name = true :=
        (Expr.faults_eq_nil_iff.mp hfaults).bound name List.mem_cons_self
      obtain ⟨value, hlookup⟩ := Option.isSome_iff_exists.mp hbound
      rw [evaluate_var, resolve, hlookup]
      exact Eval.computes_pure value
  | negate operand ih =>
      rw [evaluate_negate]
      exact (ih hinputs hfaults).bind fun value => computes_checked _ _
  | binary op left right ihLeft ihRight =>
      obtain ⟨hleft, hright⟩ := List.append_eq_nil_iff.mp hinputs
      obtain ⟨hleftFaults, hrightFaults⟩ := List.append_eq_nil_iff.mp hfaults
      rw [evaluate_binary]
      apply (ihLeft hleft hleftFaults).bind
      intro leftValue
      exact (ihRight hright hrightFaults).bind fun rightValue => computes_combine op _ _
  | letIn name bound body ihBound ihBody =>
      obtain ⟨hbound, hbody⟩ := List.append_eq_nil_iff.mp hinputs
      obtain ⟨hboundFaults, hbodyFaults⟩ := List.append_eq_nil_iff.mp hfaults
      rw [evaluate_letIn]
      apply (ihBound hbound hboundFaults).bind
      intro value
      apply ihBody hbody
      rw [Env.binds_bind]
      exact hbodyFaults

theorem exists_inlined_of_faults {e : Expr} {trees : Env Expr}
    (hfaults : e.faults trees.binds = []) :
    ∃ inlined, inlining.evaluate e trees = pure inlined := by
  have htrees : trees.All fun _ => True := fun _ _ _ => trivial
  have hsettles := inlining_pureOn.settles_evaluate e htrees
  rw [hfaults] at hsettles
  obtain ⟨inlined, hinlined, -⟩ := hsettles
  exact ⟨inlined, hinlined⟩

/-- Where names stand for trees that come to their values, an expression without shared inputs does
what its inlined form does, unless it overflows. -/
theorem exists_inlined_orOverflows {e : Expr} {env : Env Int64} {trees : Env Expr}
    (henv : Env.Related (fun value tree => (concrete provider).evaluateClosed tree = pure value)
      env trees)
    (hinputs : e.BindsNoInput) (hfaults : e.faults trees.binds = []) :
    ∃ inlined, inlining.evaluate e trees = pure inlined ∧
      ((concrete provider).evaluate e env).OrOverflows
        ((concrete provider).evaluateClosed inlined) := by
  -- A bound expression has its value in every state, so its tree can stand where its name does.
  induction e generalizing env trees with
  | literal value =>
      refine ⟨.literal value, evaluate_literal .., ?_⟩
      rw [evaluateClosed, evaluate_literal, evaluate_literal]
      exact .refl _
  | input lower upper =>
      have hordered : ¬ upper < lower := Int64.not_lt.mpr
        ((Expr.faults_eq_nil_iff.mp hfaults).nonempty (lower, upper) List.mem_cons_self)
      refine ⟨.input lower upper, ?_, ?_⟩
      · rw [evaluate_input, request, if_neg hordered]
        rfl
      · rw [evaluateClosed, evaluate_input, evaluate_input]
        exact .refl _
  | var name =>
      have hbound : trees.binds name = true :=
        (Expr.faults_eq_nil_iff.mp hfaults).bound name List.mem_cons_self
      obtain ⟨tree, hlookup⟩ := Option.isSome_iff_exists.mp hbound
      have hvalue := henv name
      rw [hlookup] at hvalue
      generalize henvLookup : env.lookup name = found at hvalue
      cases hvalue with
      | some htree =>
          refine ⟨tree, ?_, ?_⟩
          · rw [evaluate_var, resolve, hlookup]
          · rw [evaluate_var, resolve, henvLookup, htree]
            exact .refl _
  | negate operand ih =>
      obtain ⟨tree, htree, hoperand⟩ := ih henv hinputs hfaults
      refine ⟨.negate tree, ?_, ?_⟩
      · rw [evaluate_negate, htree, pure_bind]
        rfl
      · rw [evaluateClosed, evaluate_negate, evaluate_negate]
        exact hoperand.bind fun value => .refl _
  | binary op left right ihLeft ihRight =>
      obtain ⟨hleftFaults, hrightFaults⟩ := List.append_eq_nil_iff.mp hfaults
      obtain ⟨leftTree, hleftTree, hleft⟩ := ihLeft henv hinputs.1 hleftFaults
      obtain ⟨rightTree, hrightTree, hright⟩ := ihRight henv hinputs.2 hrightFaults
      refine ⟨.binary op leftTree rightTree, ?_, ?_⟩
      · rw [evaluate_binary, hleftTree, hrightTree, pure_bind, pure_bind]
        rfl
      · rw [evaluateClosed, evaluate_binary, evaluate_binary]
        apply hleft.bind
        intro leftValue
        exact hright.bind fun rightValue => .refl _
  | letIn name bound body ihBound ihBody =>
      obtain ⟨hboundFaults, hbodyFaults⟩ := List.append_eq_nil_iff.mp hfaults
      obtain ⟨tree, htree, hbound⟩ :=
        ihBound henv (Expr.bindsNoInput_of_inputs hinputs.1) hboundFaults
      rw [← Env.binds_bind trees name tree] at hbodyFaults
      have hcomputes : ((concrete provider).evaluate bound env).Computes := by
        rw [← henv.binds_eq] at hboundFaults
        exact computes_evaluate hinputs.1 hboundFaults
      rw [evaluate_letIn, evaluate_letIn, htree, pure_bind]
      -- An overflow in the bound expression ends the evaluation, whether the name is used or not.
      rcases hcomputes with ⟨value, hvalue⟩ | ⟨operation, hthrow⟩
      · rw [hvalue] at hbound ⊢
        rw [pure_bind]
        exact ihBody (henv.bind name hbound.eq_pure) hinputs.2 hbodyFaults
      · obtain ⟨inlined, hinlined⟩ := exists_inlined_of_faults hbodyFaults
        refine ⟨inlined, hinlined, ?_⟩
        rw [hthrow, Eval.throw_bind]
        exact Eval.orOverflows_throw operation _

end Semantics

namespace Expr

theorem faults_eq_nil_of_inline {e inlined : Expr} (hinline : e.inline = .ok inlined) :
    e.faults (Env.binds (.empty : Env Expr)) = [] := by
  have htrees : Env.All (fun _ => True) (.empty : Env Expr) := fun _ _ _ => trivial
  exact (Semantics.inlining_pureOn.settles_evaluate e htrees).exists_result_iff.mp
    ⟨inlined, hinline, trivial⟩

theorem orOverflows_inline {e inlined : Expr} (hinputs : e.BindsNoInput)
    (hinline : e.inline = .ok inlined) (provider : Provider σ) :
    ((Semantics.concrete provider).evaluateClosed e).OrOverflows
      ((Semantics.concrete provider).evaluateClosed inlined) := by
  obtain ⟨tree, htree, hsame⟩ :=
    Semantics.exists_inlined_orOverflows .empty hinputs (faults_eq_nil_of_inline hinline)
  have htree : e.inline = .ok tree := by
    rw [inline, inlineIn, htree, Eval.result_pure]
  obtain rfl : tree = inlined := Except.ok.inj (htree.symm.trans hinline)
  exact hsame

/-- Where no bound expression asks for an input, the inlined expression makes the requests of the
expression and comes to its value in its final state. An expression whose inlined form comes to a
value comes to it too, or else overflows. -/
theorem run_inline_of_bindsNoInput {provider : Provider σ} {e : Expr}
    (hinputs : e.BindsNoInput) (state : σ) :
    (∀ value final,
        ((Semantics.concrete provider).evaluateClosed e).run.run state = (.ok value, final) →
          ∃ inlined recorded, e.inline = .ok inlined ∧
            ((Semantics.concrete provider).evaluateClosed inlined).run.run state =
              (.ok value, final) ∧
            ((Semantics.concrete provider.recorded).evaluateClosed e).run.run (.start state) =
              (.ok value, recorded) ∧
            ((Semantics.concrete provider.recorded).evaluateClosed inlined).run.run
                (.start state) =
              (.ok value, recorded) ∧
            recorded.state = final) ∧
      ∀ inlined value final, e.inline = .ok inlined →
        ((Semantics.concrete provider).evaluateClosed inlined).run.run state =
            (.ok value, final) →
          ((Semantics.concrete provider).evaluateClosed e).run.run state = (.ok value, final) ∨
            ∃ operation final',
              ((Semantics.concrete provider).evaluateClosed e).run.run state =
                (.error (.overflow operation), final') := by
  constructor
  · intro value final hrun
    obtain ⟨inlined, _, hinlined, -⟩ :=
      (Semantics.concrete_leadsTo_inlining provider).evaluate e .empty hrun ()
    have hinline : e.inline = .ok inlined := by
      simp only [inline, inlineIn, Eval.result, hinlined]
    obtain ⟨_, _, recorded, hplain, hrecorded, hrelated⟩ :=
      (Semantics.concrete_corresponds_recording provider).evaluate e .empty (.start state)
    obtain rfl := hrelated.eq
    obtain ⟨rfl, rfl⟩ := Prod.mk.inj (hplain.symm.trans hrun)
    have hunshared := (orOverflows_inline hinputs hinline provider.recorded).run_of_ok hrecorded
    exact ⟨inlined, recorded, hinline,
      Semantics.run_concrete_of_recorded provider hunshared, hrecorded, hunshared, rfl⟩
  · intro inlined value final hinline hrun
    rcases orOverflows_inline hinputs hinline provider state with hsame | hoverflow
    · exact .inl (hsame.trans hrun)
    · exact .inr hoverflow

/-- `let x = 2 + 1 in ?[4, 9] * (let y = x * x in let x = -y in ?[0, 5] + (x + x))`. -/
private def rebinding : Expr :=
  .letIn "x" (.binary .plus (.literal 2) (.literal 1))
    (.binary .times (.input 4 9)
      (.letIn "y" (.binary .times (.var "x") (.var "x"))
        (.letIn "x" (.negate (.var "y"))
          (.binary .plus (.input 0 5) (.binary .plus (.var "x") (.var "x"))))))

/-- `let x = 9223372036854775807 + 1 in ?[3, 8]`, where the overflow is inlined away. -/
private def dropping : Expr :=
  .letIn "x" (.binary .plus (.literal Int64.maxValue) (.literal 1)) (.input 3 8)

theorem run_inline_rebinding_dropping :
    (∃ inlined recorded, rebinding.inline = .ok inlined ∧
      ((Semantics.concrete Provider.counting).evaluateClosed inlined).run.run 4 = (.ok (-52), 6) ∧
      ((Semantics.concrete Provider.counting.recorded).evaluateClosed rebinding).run.run
          (.start 4) =
        (.ok (-52), recorded) ∧
      ((Semantics.concrete Provider.counting.recorded).evaluateClosed inlined).run.run
          (.start 4) =
        (.ok (-52), recorded) ∧
      recorded.state = 6) ∧
    (((Semantics.concrete Provider.counting).evaluateClosed dropping).run.run 5 = (.ok 5, 6) ∨
      ∃ operation final,
        ((Semantics.concrete Provider.counting).evaluateClosed dropping).run.run 5 =
          (.error (.overflow operation), final)) := by
  have hrebinding : rebinding.BindsNoInput := ⟨rfl, trivial, rfl, rfl, trivial, trivial, trivial⟩
  have hdropping : dropping.BindsNoInput := ⟨rfl, trivial⟩
  have hrun : ((Semantics.concrete Provider.counting).evaluateClosed rebinding).run.run 4 =
      (.ok (-52), 6) := by
    rfl
  have hinlined : ((Semantics.concrete Provider.counting).evaluateClosed (.input 3 8)).run.run 5 =
      (.ok 5, 6) := by
    rfl
  exact ⟨(run_inline_of_bindsNoInput hrebinding 4).1 (-52) 6 hrun,
    (run_inline_of_bindsNoInput hdropping 5).2 (.input 3 8) 5 6 rfl hinlined⟩

end Expr

end RangeCalc
