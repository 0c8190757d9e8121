import RangeCalc.Proofs.Evaluation.Correspondence

/-! Meanings without effects agree where both come to related values or both fail with the same
error. -/

namespace RangeCalc

variable {σ τ α β γ δ : Type}

namespace Eval

theorem throw_bind (problem : EvalError) (next : α → Eval σ β) :
    (throw problem : Eval σ α) >>= next = throw problem := rfl

@[simp] theorem result_pure (value : α) : (pure value : Eval Unit α).result = .ok value := rfl

@[simp] theorem result_throw (problem : EvalError) :
    (throw problem : Eval Unit α).result = .error problem := rfl

/-- Both computations come to related values or both fail with the same error. Neither changes its
state. -/
def Agree (R : α → β → Prop) (x : Eval σ α) (y : Eval τ β) : Prop :=
  (∃ value found, x = pure value ∧ y = pure found ∧ R value found) ∨
    ∃ problem, x = throw problem ∧ y = throw problem

variable {R : α → β → Prop} {S : γ → δ → Prop}

theorem agree_pure {value : α} {found : β} (h : R value found) :
    Agree R (pure value : Eval σ α) (pure found : Eval τ β) :=
  .inl ⟨value, found, rfl, rfl, h⟩

theorem agree_throw (problem : EvalError) :
    Agree R (throw problem : Eval σ α) (throw problem : Eval τ β) :=
  .inr ⟨problem, rfl, rfl⟩

theorem agree_bind {x : Eval σ α} {y : Eval τ β} {next : α → Eval σ γ} {next' : β → Eval τ δ}
    (hfirst : Agree R x y)
    (hnext : ∀ value found, R value found → Agree S (next value) (next' found)) :
    Agree S (x >>= next) (y >>= next') := by
  rcases hfirst with ⟨value, found, rfl, rfl, hvalue⟩ | ⟨problem, rfl, rfl⟩
  · rw [pure_bind, pure_bind]
    exact hnext value found hvalue
  · rw [throw_bind, throw_bind]
    exact agree_throw problem

theorem Agree.result {x : Eval Unit α} {y : Eval Unit β} (h : Agree R x y) :
    Result.Related R x.result y.result := by
  rcases h with ⟨value, found, rfl, rfl, hvalue⟩ | ⟨problem, rfl, rfl⟩
  · exact .ok hvalue
  · exact .error problem

def agree : Comparison σ τ where
  Holds := Agree
  of_pure := agree_pure
  of_throw _ problem := agree_throw problem
  of_bind := agree_bind

end Eval

end RangeCalc
