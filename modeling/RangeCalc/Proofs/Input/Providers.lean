import RangeCalc.Input.Console
import RangeCalc.Proofs.Evaluation.Faults

/-! How providers answer. A number from the counter or from a dialogue lies in the range that was
asked for; the counter always has one, and a dialogue can only end for want of input. -/

namespace RangeCalc

variable {σ : Type} {lower upper : Int64}

namespace Provider

/-- A value for a range that is not empty lies in the range. -/
def RespectsRanges (provider : Provider σ) : Prop :=
  ∀ ⦃lower upper state value final⦄, lower ≤ upper →
    (provider lower upper).run.run state = (.ok value, final) → lower ≤ value ∧ value ≤ upper

/-- The provider itself can fail so, and leave this state, when it is asked for a range that is not
empty. -/
def Fails (provider : Provider σ) (problem : EvalError) (final : σ) : Prop :=
  ∃ lower upper state, lower ≤ upper ∧
    (provider lower upper).run.run state = (.error problem, final)

theorem respectsRanges_of_ends {provider : Provider σ} {Failure : EvalError → σ → Prop}
    (h : ∀ {lower upper}, lower ≤ upper →
      (provider lower upper).Ends (fun value => lower ≤ value ∧ value ≤ upper) Failure) :
    provider.RespectsRanges :=
  fun _ _ _ _ _ hordered hrun => (h hordered).of_ok hrun

theorem nearest_mem (hordered : lower ≤ upper) (value : Int64) :
    lower ≤ nearest lower upper value ∧ nearest lower upper value ≤ upper := by
  rw [nearest]
  split
  · exact ⟨Int64.le_refl lower, hordered⟩
  · next hlower =>
    split
    · exact ⟨hordered, Int64.le_refl upper⟩
    · next hupper => exact ⟨Int64.not_lt.mp hlower, Int64.not_lt.mp hupper⟩

theorem counting_ends (hordered : lower ≤ upper) :
    (counting lower upper).Ends (fun value => lower ≤ value ∧ value ≤ upper) fun _ _ => False := by
  rw [counting, if_neg (Int64.not_lt.mpr hordered)]
  exact fun number => nearest_mem hordered number

end Provider

namespace Console

/-- What is lacking is input, for whatever reason. -/
def WantsInput (problem : EvalError) (_ : Console) : Prop :=
  ∃ reason, problem = .noInput reason

theorem write_ends (text : String) : (write text).Ends (fun _ => True) WantsInput := by
  have hget : (get : Eval Console Console).Ends (fun _ => True) WantsInput := fun _ => trivial
  have hset : ∀ console : Console,
      (set console : Eval Console PUnit).Ends (fun _ => True) WantsInput :=
    fun _ _ => trivial
  apply hget.bind
  intro console _
  apply (hset _).bind
  intro _ _
  split
  · exact Eval.ends_pure trivial
  · exact Eval.ends_throw fun _ => ⟨_, rfl⟩

theorem mem_of_accept? {answer : List Char} {value : Int64}
    (haccept : accept? lower upper answer = some value) : lower ≤ value ∧ value ≤ upper := by
  obtain ⟨-, hinside⟩ := Option.filter_eq_some_iff.mp haccept
  simpa using hinside

theorem ask_ends (lower upper : Int64) (lines : List Line) :
    (ask lower upper lines).Ends (fun value => lower ≤ value ∧ value ≤ upper) WantsInput := by
  have hdrop : dropLine.Ends (fun _ => True) WantsInput := fun _ => trivial
  induction lines with
  | nil => exact (write_ends _).bind fun _ _ => Eval.ends_throw fun _ => ⟨_, rfl⟩
  | cons line later ih =>
      apply (write_ends _).bind
      intro _ _
      apply hdrop.bind
      intro _ _
      split
      · exact Eval.ends_throw fun _ => ⟨_, rfl⟩
      · dsimp only
        split
        · next haccept => exact Eval.ends_pure (mem_of_accept? haccept)
        · exact (write_ends _).bind fun _ _ => ih

end Console

namespace Provider

theorem prompting_ends (hordered : lower ≤ upper) :
    (prompting lower upper).Ends (fun value => lower ≤ value ∧ value ≤ upper)
      Console.WantsInput := by
  rw [prompting, if_neg (Int64.not_lt.mpr hordered)]
  exact fun console => Console.ask_ends lower upper console.lines console

end Provider

end RangeCalc
