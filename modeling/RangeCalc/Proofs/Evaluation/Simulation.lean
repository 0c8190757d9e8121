import RangeCalc.Proofs.Evaluation.Correspondence

/-! Comparing two meanings. Where the operations of one lead to related operations of the other,
evaluation does. -/

namespace RangeCalc

variable {σ τ α β γ δ ν μ : Type}

namespace Eval

theorem run_bind_eq_ok_iff {x : Eval σ α} {next : α → Eval σ β} {state state' : σ} {value : β} :
    (x >>= next).run.run state = (.ok value, state') ↔
      ∃ found middle, x.run.run state = (.ok found, middle) ∧
        (next found).run.run middle = (.ok value, state') := by
  rw [ExceptT.run_bind, StateT.run_bind]
  cases hx : x.run.run state with
  | mk result middle =>
      cases result with
      | ok found =>
          constructor
          · exact fun hnext => ⟨found, middle, rfl, hnext⟩
          · intro hparts
            obtain ⟨_, _, ⟨⟩, hnext⟩ := hparts
            exact hnext
      | error problem =>
          constructor
          · rintro ⟨⟩
          · intro hparts
            obtain ⟨_, _, ⟨⟩, _⟩ := hparts

theorem run_bind_of_ok {x : Eval σ α} {next : α → Eval σ β} {state middle : σ} {found : α}
    (hrun : x.run.run state = (.ok found, middle)) :
    (x >>= next).run.run state = (next found).run.run middle := by
  rw [ExceptT.run_bind, StateT.run_bind, hrun]
  rfl

theorem run_bind_of_error {x : Eval σ α} {next : α → Eval σ β} {state middle : σ}
    {problem : EvalError} (hrun : x.run.run state = (.error problem, middle)) :
    (x >>= next).run.run state = (.error problem, middle) := by
  rw [ExceptT.run_bind, StateT.run_bind, hrun]
  rfl

/-- Where the first computation comes to a value, the second comes to one that is related to it,
whatever its state. -/
def Leads (R : α → β → Prop) (x : Eval σ α) (y : Eval τ β) : Prop :=
  ∀ ⦃state value state'⦄, x.run.run state = (.ok value, state') →
    ∀ other, ∃ found other', y.run.run other = (.ok found, other') ∧ R value found

variable {R : α → β → Prop} {S : γ → δ → Prop}

theorem leads_pure {value : α} {found : β} (h : R value found) :
    Leads R (pure value : Eval σ α) (pure found : Eval τ β) := by
  rintro state _ _ ⟨⟩ other
  exact ⟨found, other, rfl, h⟩

theorem leads_throw (error : EvalError) (y : Eval τ β) :
    Leads R (throw error : Eval σ α) y := by
  rintro state _ _ ⟨⟩

theorem leads_bind {x : Eval σ α} {y : Eval τ β} {next : α → Eval σ γ} {next' : β → Eval τ δ}
    (hfirst : Leads R x y)
    (hnext : ∀ value found, R value found → Leads S (next value) (next' found)) :
    Leads S (x >>= next) (y >>= next') := by
  intro state value state' hrun other
  obtain ⟨first, middle, hx, hrest⟩ := run_bind_eq_ok_iff.mp hrun
  obtain ⟨found, other', hy, hrelated⟩ := hfirst hx other
  obtain ⟨last, other'', hlast, hvalue⟩ := hnext first found hrelated hrest other'
  exact ⟨last, other'', run_bind_eq_ok_iff.mpr ⟨found, other', hy, hlast⟩, hvalue⟩

def leads : Comparison σ τ where
  Holds := Leads
  of_pure := leads_pure
  of_throw _ problem := leads_throw problem _
  of_bind := leads_bind

end Eval

/-- The operations of the first meaning lead to those of the second on related values. Inputs with
an empty range are not asked for. -/
structure Semantics.LeadsTo (s : Semantics σ ν) (t : Semantics τ μ) (R : ν → μ → Prop) : Prop where
  literal : ∀ value, Eval.Leads R (s.literal value) (t.literal value)
  combine : ∀ op {left right found found'}, R left found → R right found' →
    Eval.Leads R (s.combine op left right) (t.combine op found found')
  negate : ∀ {value found}, R value found → Eval.Leads R (s.negate value) (t.negate found)
  input : ∀ {lower upper}, lower ≤ upper → Eval.Leads R (s.input lower upper) (t.input lower upper)

theorem Semantics.LeadsTo.evaluate {s : Semantics σ ν} {t : Semantics τ μ} {R : ν → μ → Prop}
    (h : s.LeadsTo t R) (e : Expr) {env : Env ν} {env' : Env μ} (henv : Env.Related R env env') :
    Eval.Leads R (s.evaluate e env) (t.evaluate e env') := by
  have hoperations : s.Corresponds Eval.leads t R := ⟨h.literal, h.combine, h.negate, h.input⟩
  exact hoperations.evaluate e henv

end RangeCalc
