import RangeCalc.Proofs.Evaluation.Calls
import RangeCalc.Proofs.Evaluation.Substitution
import RangeCalc.Proofs.Interval.Hull

/-! What every operation preserves, an evaluation preserves. The analysis of ranges makes no
interval on its way whose lower end is above its upper end. -/

namespace RangeCalc

variable {σ ν α β : Type}

namespace Eval

/-- If `Inv` holds of the state at first, it does at the end, and what the computation comes to is
of the kind. -/
def Keeps (Inv : σ → Prop) (Kind : α → Prop) (x : Eval σ α) : Prop :=
  ∀ ⦃state result final⦄, x.run.run state = (result, final) → Inv state →
    Inv final ∧ ∀ value, result = .ok value → Kind value

variable {Inv : σ → Prop} {Kind : α → Prop} {Kind' : β → Prop}

theorem keeps_pure {value : α} (hvalue : Kind value) : (pure value : Eval σ α).Keeps Inv Kind := by
  rintro state _ _ ⟨⟩ hstate
  refine ⟨hstate, ?_⟩
  rintro _ ⟨⟩
  exact hvalue

theorem keeps_throw (problem : EvalError) : (throw problem : Eval σ α).Keeps Inv Kind := by
  rintro state _ _ ⟨⟩ hstate
  refine ⟨hstate, ?_⟩
  rintro _ ⟨⟩

theorem Keeps.mono {Kind' : α → Prop} {x : Eval σ α} (h : x.Keeps Inv Kind)
    (hmono : ∀ value, Kind value → Kind' value) : x.Keeps Inv Kind' := by
  intro state result final hrun hstate
  obtain ⟨hfinal, hvalue⟩ := h hrun hstate
  exact ⟨hfinal, fun value hresult => hmono value (hvalue value hresult)⟩

theorem Keeps.bind {x : Eval σ α} {next : α → Eval σ β} (hfirst : x.Keeps Inv Kind)
    (hnext : ∀ value, Kind value → (next value).Keeps Inv Kind') :
    (x >>= next).Keeps Inv Kind' := by
  intro state result final hrun hstate
  cases hx : x.run.run state with
  | mk outcome middle =>
      obtain ⟨hmiddle, hvalue⟩ := hfirst hx hstate
      cases outcome with
      | ok value =>
          rw [run_bind_of_ok hx] at hrun
          exact hnext value (hvalue value rfl) hrun hmiddle
      | error problem =>
          rw [run_bind_of_error hx] at hrun
          cases hrun
          refine ⟨hmiddle, ?_⟩
          rintro _ ⟨⟩

/-- The comparison that looks at the first computation only. -/
def keeps (Inv : σ → Prop) : Comparison σ σ where
  Holds R x _ := x.Keeps Inv fun value => ∃ found, R value found
  of_pure hvalue := keeps_pure ⟨_, hvalue⟩
  of_throw _ problem := keeps_throw problem
  of_bind hfirst hnext := by
    apply hfirst.bind
    rintro value ⟨found, hvalue⟩
    exact hnext value found hvalue

end Eval

/-- What the calls came to, unless they failed, is of the kind. -/
def Calls.Yield (calls : Calls ν) (Kind : ν → Prop) : Prop :=
  ∀ call ∈ calls, ∀ value, call.2 = .ok value → Kind value

theorem Journal.keeps_note {Kind : ν → Prop} (call : Call ν) {operation : Eval σ ν}
    (hoperation : ∃ value, operation = pure value ∧ Kind value) :
    (note call operation).Keeps (·.calls.Yield Kind) Kind := by
  obtain ⟨value, rfl, hvalue⟩ := hoperation
  intro journal result final hrun hbefore
  have hpure : (pure value : Eval σ ν).run.run journal.state = (.ok value, journal.state) := rfl
  obtain ⟨rfl, rfl⟩ := Prod.mk.inj ((run_note hpure journal.calls).symm.trans hrun)
  refine ⟨?_, ?_⟩
  · intro noted hnoted found hfound
    rcases List.mem_append.mp hnoted with hearlier | hlast
    · exact hbefore noted hearlier found hfound
    · cases List.mem_singleton.mp hlast
      cases hfound
      exact hvalue
  · rintro _ ⟨⟩
    exact hvalue

namespace Semantics

variable {s : Semantics σ ν} {Kind : ν → Prop}

theorem PureOn.corresponds_noting (hpure : s.PureOn Kind) :
    s.noting.Corresponds (Eval.keeps (·.calls.Yield Kind)) s.noting
      fun value found => value = found ∧ Kind value := by
  have hnote : ∀ (call : Call ν) (operation : Eval σ ν),
      (∃ value, operation = pure value ∧ Kind value) →
        (Journal.note call operation).Keeps (·.calls.Yield Kind)
          fun value => ∃ found, value = found ∧ Kind value := by
    intro call operation hoperation
    exact (Journal.keeps_note call hoperation).mono fun value hvalue => ⟨value, rfl, hvalue⟩
  exact {
    literal value := hnote _ _ (hpure.literal value)
    combine op _ _ _ _ hleft hright := hnote _ _ (hpure.combine op hleft.2 hright.2)
    negate hoperand := hnote _ _ (hpure.negate hoperand.2)
    input hordered := hnote _ _ (hpure.input hordered) }

/-- Where operations are pure on the values of a kind, all values on the way are of the kind. -/
theorem PureOn.keeps_noting_evaluate (hpure : s.PureOn Kind) (e : Expr) {env : Env ν}
    (henv : env.All Kind) : (s.noting.evaluate e env).Keeps (·.calls.Yield Kind) Kind := by
  have hkeeps := hpure.corresponds_noting.evaluate e henv.related
  exact hkeeps.mono fun value ⟨_, _, hvalue⟩ => hvalue

end Semantics

namespace Interval

variable {i j : Interval}

/-- The operations are exact up to the move of the ends into the range. They make valid intervals of
valid ones, and so does every call in an evaluation from valid ones. -/
theorem operations_are_hulls (hi : i.Valid) (hj : j.Valid) :
    ((i.add j).IsHull {n | ∃ left ∈ i, ∃ right ∈ j, n = left.toInt + right.toInt} ∧
        (i.multiply j).IsHull {n | ∃ left ∈ i, ∃ right ∈ j, n = left.toInt * right.toInt} ∧
        i.negate.IsHull {n | ∃ value ∈ i, n = -value.toInt}) ∧
      ((i.add j).Valid ∧ (i.multiply j).Valid ∧ i.negate.Valid) ∧
      ∀ (e : Expr) (env : Env Interval), env.All Interval.Valid → ∃ calls,
        (Semantics.intervals.noting.evaluate e env).run.run (.start ()) =
            (e.rangeIn env, ⟨(), calls⟩) ∧
          calls.Yield Valid ∧ ∀ range, e.rangeIn env = .ok range → range.Valid := by
  have hadd := isHull_add hi hj
  have hmultiply := isHull_multiply hi hj
  have hnegate := isHull_negate hi
  refine ⟨⟨hadd, hmultiply, hnegate⟩, ⟨hadd.valid, hmultiply.valid, hnegate.valid⟩, ?_⟩
  intro e env henv
  obtain ⟨result, ⟨⟩, calls, hrun, hnoted, -⟩ := Semantics.intervals.run_noting_evaluate e env ()
  have hresult : e.rangeIn env = result := congrArg Prod.fst hrun
  have hstart : Calls.Yield [] Interval.Valid := by simp [Calls.Yield]
  rw [hresult]
  exact ⟨calls, hnoted, Semantics.intervals_pureOn.keeps_noting_evaluate e henv hnoted hstart⟩

/-- `-x * (x + ?[-2, 5])`, which calls every operation but literals. -/
private def productOfSum : Expr :=
  .binary .times (.negate (.var "x")) (.binary .plus (.var "x") (.input (-2) 5))

/-- Of the products with the least integer, one is beyond the greatest and one beyond the least. -/
theorem operations_are_hulls_saturating :
    (multiply ⟨Int64.minValue, 3⟩ ⟨-2, 5⟩ = ⟨Int64.minValue, Int64.maxValue⟩ ∧
        negate ⟨Int64.minValue, 3⟩ = ⟨-3, Int64.maxValue⟩) ∧
      IsHull ⟨Int64.minValue, Int64.maxValue⟩
        {n | ∃ left ∈ Interval.mk Int64.minValue 3, ∃ right ∈ Interval.mk (-2) 5,
          n = left.toInt * right.toInt} ∧
      IsHull ⟨-3, Int64.maxValue⟩ {n | ∃ value ∈ Interval.mk Int64.minValue 3, n = -value.toInt} ∧
      ∃ calls,
        (Semantics.intervals.noting.evaluate productOfSum
            (Frame.empty.bind "x" ⟨Int64.minValue, 3⟩)).run.run (.start ()) =
          (.ok ⟨Int64.minValue, Int64.maxValue⟩, ⟨(), calls⟩) ∧
        calls.length = 4 ∧ calls.Yield Valid := by
  have hmultiply :
      multiply ⟨Int64.minValue, 3⟩ ⟨-2, 5⟩ = ⟨Int64.minValue, Int64.maxValue⟩ := by
    decide
  have hnegate : negate ⟨Int64.minValue, 3⟩ = ⟨-3, Int64.maxValue⟩ := by
    decide
  have hwide : Valid ⟨Int64.minValue, 3⟩ := valid_iff.mpr (by decide)
  have hmixed : Valid ⟨-2, 5⟩ := valid_iff.mpr (by decide)
  have henv : Env.All Interval.Valid (Frame.empty.bind "x" ⟨Int64.minValue, 3⟩) := by
    refine Env.All.bind ?_ "x" hwide
    rintro name value ⟨⟩
  have hrange : productOfSum.rangeIn (Frame.empty.bind "x" ⟨Int64.minValue, 3⟩) =
      .ok ⟨Int64.minValue, Int64.maxValue⟩ := by
    rfl
  have hlength : ((Semantics.intervals.noting.evaluate productOfSum
      (Frame.empty.bind "x" ⟨Int64.minValue, 3⟩)).run.run (.start ())).2.calls.length = 4 := by
    rfl
  obtain ⟨⟨-, hproducts, hnegatives⟩, -, hruns⟩ := operations_are_hulls hwide hmixed
  obtain ⟨calls, hrun, hyield, -⟩ := hruns productOfSum _ henv
  rw [hrun] at hlength
  rw [hrange] at hrun
  refine ⟨⟨hmultiply, hnegate⟩, ?_, ?_, calls, hrun, hlength, hyield⟩
  · rwa [hmultiply] at hproducts
  · rwa [hnegate] at hnegatives

end Interval

end RangeCalc
