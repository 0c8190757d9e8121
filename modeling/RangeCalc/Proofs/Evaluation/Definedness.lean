import RangeCalc.Proofs.Input.Providers

/-! Inlining and the analysis of ranges tell beforehand whether an expression can be evaluated. They
fail alike, with the first fault in order of evaluation. Where they succeed, only arithmetic and the
provider of inputs can fail. -/

namespace RangeCalc

variable {σ : Type}

namespace Semantics

/-- An evaluation on integers ends for an overflow, or as a request to the provider ends. -/
def Interrupted (provider : Provider σ) (problem : EvalError) (final : σ) : Prop :=
  (∃ operation, problem = .overflow operation) ∨ provider.Fails problem final

variable {provider : Provider σ}

theorem checked_ends (operation : Arithmetic) (exact : Int) :
    (operation.checked exact).Ends (fun _ => True) (Interrupted provider) := by
  unfold Arithmetic.checked
  split
  · exact Eval.ends_pure trivial
  · exact Eval.ends_throw fun _ => .inl ⟨operation, rfl⟩

theorem provider_ends (hprovider : provider.RespectsRanges) {lower upper : Int64}
    (hordered : lower ≤ upper) :
    (provider lower upper).Ends (fun value => lower ≤ value ∧ value ≤ upper)
      (Interrupted provider) := by
  intro state
  cases hrun : (provider lower upper).run.run state with
  | mk answer final =>
      cases answer with
      | ok value => exact hprovider hordered hrun
      | error problem => exact .inr ⟨lower, upper, state, hordered, hrun⟩

theorem concrete_failsOnly (hprovider : provider.RespectsRanges) :
    (concrete provider).FailsOnly (Interrupted provider) where
  literal _ := Eval.ends_pure trivial
  combine op left right := by
    cases op with
    | plus => exact checked_ends _ _
    | times => exact checked_ends _ _
  negate _ := checked_ends _ _
  input hordered := by
    apply (provider_ends hprovider hordered).bind
    intro value hinside
    rw [if_pos hinside]
    exact Eval.ends_pure trivial

end Semantics

namespace Expr

/-- Inlining and the analysis of ranges both succeed where every range has an integer in it and
every free variable is bound. Otherwise both fail with the first empty range or unbound variable.
Where they succeed, an evaluation with answers in range fails only for an overflow or as the
provider fails: the counter never does, and a dialogue only for want of input. -/
theorem definedness_decided (e : Expr) {trees : Env Expr} {ranges : Env Interval}
    {values : Env Int64} (hvalid : ranges.All Interval.Valid)
    (hranges : ranges.binds = trees.binds) (hvalues : values.binds = trees.binds) :
    ((∃ tree, e.inlineIn trees = .ok tree) ∧ (∃ i, e.rangeIn ranges = .ok i ∧ i.Valid) ↔
        e.Defined trees.binds) ∧
      (¬ e.Defined trees.binds → ∃ problem, (e.faults trees.binds).head? = some problem ∧
        e.inlineIn trees = .error problem ∧ e.rangeIn ranges = .error problem) ∧
      (e.Defined trees.binds → ∀ {σ : Type} {provider : Provider σ}, provider.RespectsRanges →
        ∀ {state problem final},
          ((Semantics.concrete provider).evaluate e values).run.run state =
              (.error problem, final) →
            (∃ operation, problem = .overflow operation) ∨ provider.Fails problem final) ∧
      (Provider.counting.RespectsRanges ∧
        ∀ problem final, ¬ Provider.counting.Fails problem final) ∧
      Provider.prompting.RespectsRanges ∧
        ∀ problem final, Provider.prompting.Fails problem final →
          ∃ reason, problem = .noInput reason := by
  have htrees : trees.All fun _ => True := fun _ _ _ => trivial
  obtain ⟨htree, htreeError⟩ := Semantics.inlining_pureOn.result_evaluate e htrees
  obtain ⟨hrange, hrangeError⟩ := Semantics.intervals_pureOn.result_evaluate e hvalid
  rw [hranges] at hrange hrangeError
  simp only [and_true] at htree
  refine ⟨?_, ?_, ?_, ⟨?_, ?_⟩, ?_, ?_⟩
  · rw [inlineIn, htree, rangeIn, hrange, and_self]
  · intro hundefined
    cases hfaults : e.faults trees.binds with
    | nil => exact absurd (faults_eq_nil_iff.mp hfaults) hundefined
    | cons problem later =>
        have hfirst : (e.faults trees.binds).head? = some problem := by rw [hfaults]; rfl
        exact ⟨problem, rfl, (htreeError problem).mpr hfirst, (hrangeError problem).mpr hfirst⟩
  · intro hdefined σ provider hprovider state problem final hrun
    have hfaults : e.faults values.binds = [] := hvalues ▸ faults_eq_nil_iff.mpr hdefined
    exact ((Semantics.concrete_failsOnly hprovider).evaluate hfaults).of_error hrun
  · exact Provider.respectsRanges_of_ends Provider.counting_ends
  · rintro problem final ⟨lower, upper, state, hordered, hrun⟩
    exact (Provider.counting_ends hordered).of_error hrun
  · exact Provider.respectsRanges_of_ends Provider.prompting_ends
  · rintro problem final ⟨lower, upper, state, hordered, hrun⟩
    exact (Provider.prompting_ends hordered).of_error hrun

/-- `let x = ?[9, 1] in z`: the name is not used, but its range comes before the unbound variable.
-/
private def unusedRange : Expr :=
  .letIn "x" (.input 9 1) (.var "z")

/-- `let y = -y in ? * y`, which has no faults where `y` is bound. -/
private def reboundName : Expr :=
  .letIn "y" (.negate (.var "y")) (.binary .times .unbounded (.var "y"))

private def outerTrees : Env Expr :=
  Frame.empty.bind "y" .unbounded

private def outerRanges : Env Interval :=
  Frame.empty.bind "y" ⟨Int64.minValue, 5⟩

private def outerValues : Env Int64 :=
  Frame.empty.bind "y" Int64.minValue

theorem definedness_decided_rebound :
    (∃ problem, (unusedRange.faults outerTrees.binds).head? = some problem ∧
        unusedRange.inlineIn outerTrees = .error problem ∧
        unusedRange.rangeIn outerRanges = .error problem) ∧
      ((∃ tree, reboundName.inlineIn outerTrees = .ok tree) ∧
        ∃ i, reboundName.rangeIn outerRanges = .ok i ∧ i.Valid) ∧
      ((Semantics.concrete Provider.counting).evaluate reboundName outerValues).run.run 0 =
        (.error (.overflow .negation), 0) ∧
      ((∃ operation, EvalError.overflow .negation = .overflow operation) ∨
        Provider.counting.Fails (.overflow .negation) 0) := by
  have hvalid : outerRanges.All Interval.Valid := by
    apply Env.All.bind
    · rintro name value ⟨⟩
    · exact Interval.valid_iff.mpr (by decide)
  have hranges : outerRanges.binds = outerTrees.binds := by
    rw [outerRanges, outerTrees, Env.binds_bind, Env.binds_bind]
    rfl
  have hvalues : outerValues.binds = outerTrees.binds := by
    rw [outerValues, outerTrees, Env.binds_bind, Env.binds_bind]
    rfl
  have hundefined : ¬ unusedRange.Defined outerTrees.binds := by
    rw [← faults_eq_nil_iff]
    decide
  have hdefined : reboundName.Defined outerTrees.binds := by
    rw [← faults_eq_nil_iff]
    decide
  have hrun : ((Semantics.concrete Provider.counting).evaluate reboundName outerValues).run.run 0 =
      (.error (.overflow .negation), 0) := by
    rfl
  obtain ⟨-, hfails, -⟩ := definedness_decided unusedRange hvalid hranges hvalues
  obtain ⟨hsucceeds, -, hconcrete, ⟨hcounting, -⟩, -⟩ :=
    definedness_decided reboundName hvalid hranges hvalues
  exact ⟨hfails hundefined, hsucceeds.mpr hdefined, hrun, hconcrete hdefined hcounting hrun⟩

end Expr

end RangeCalc
