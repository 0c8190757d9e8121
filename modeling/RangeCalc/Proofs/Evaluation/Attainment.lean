import RangeCalc.Proofs.Evaluation.Exactness
import RangeCalc.Proofs.Evaluation.Faults
import RangeCalc.Proofs.Evaluation.Replay
import RangeCalc.Proofs.Interval.Span

/-! The analysis of ranges is as good as it can be where it moves no end into the 64-bit range:
without names every input is answered by itself, so that the answers for two operands can be chosen
apart, and both ends of the interval are values of the expression. -/

namespace RangeCalc

variable {σ ν : Type}

/-- The analysis of ranges with ends of any size. -/
def Semantics.spans : Semantics Unit Span where
  literal value := pure (.singleton value.toInt)
  combine op left right := pure (Span.combine op left right)
  negate operand := pure operand.negate
  input lower upper := pure ⟨lower.toInt, upper.toInt⟩

namespace Semantics

variable {s : Semantics σ ν} {left right operand : Expr} {value leftValue rightValue : ν}

theorem evaluateClosed_negate_of_pure (hoperand : s.evaluateClosed operand = pure value) :
    s.evaluateClosed (.negate operand) = s.negate value := by
  rw [evaluateClosed, evaluate_negate, ← evaluateClosed, hoperand, pure_bind]

theorem evaluateClosed_binary_of_pure {op : Operator}
    (hleft : s.evaluateClosed left = pure leftValue)
    (hright : s.evaluateClosed right = pure rightValue) :
    s.evaluateClosed (.binary op left right) = s.combine op leftValue rightValue := by
  rw [evaluateClosed, evaluate_binary, ← evaluateClosed, ← evaluateClosed, hleft, pure_bind,
    hright, pure_bind]

end Semantics

theorem Interval.exists_isEnd_of_isEnd_combine {op : Operator} {i j : Interval} {n : Int}
    (hend : (Span.combine op i.span j.span).IsEnd n) :
    ∃ first second, i.IsEnd first ∧ j.IsEnd second ∧ n = op.exact first.toInt second.toInt := by
  cases op with
  | plus =>
      rcases hend with hn | hn
      · exact ⟨i.lower, j.lower, .inl rfl, .inl rfl, hn⟩
      · exact ⟨i.upper, j.upper, .inr rfl, .inr rfl, hn⟩
  | times => exact exists_isEnd_of_isEnd_span_multiply hend

theorem Arithmetic.run_combine_of_toInt_eq {op : Operator} {left right value : Int64}
    (hvalue : value.toInt = op.exact left.toInt right.toInt) (state : σ) :
    (combine op left right).run.run state = (.ok value, state) := by
  cases op with
  | plus => exact run_checked_of_toInt_eq hvalue state
  | times => exact run_checked_of_toInt_eq hvalue state

namespace Expr

/-- There are neither `let`s nor variables in the expression. -/
def Nameless : Expr → Prop
  | .literal _ => True
  | .input _ _ => True
  | .var _ => False
  | .negate operand => operand.Nameless
  | .binary _ left right => left.Nameless ∧ right.Nameless
  | .letIn _ _ _ => False

def parts : Expr → List Expr
  | .negate operand => .negate operand :: operand.parts
  | .binary op left right => .binary op left right :: (left.parts ++ right.parts)
  | .letIn name bound body => .letIn name bound body :: (bound.parts ++ body.parts)
  | e => [e]

/-- The exact range, which the expression has if every name in it is bound and no range in it is
empty. -/
def exactRange (e : Expr) : Option Span :=
  (Semantics.spans.evaluateClosed e).result.toOption

/-- At no part of the expression does an end of the exact range leave the 64-bit range. -/
def StaysInRange (e : Expr) : Prop :=
  ∀ part ∈ e.parts, ∀ span ∈ part.exactRange, span.Fits

instance (e : Expr) : Decidable e.StaysInRange :=
  inferInstanceAs (Decidable (∀ part ∈ e.parts, ∀ span ∈ part.exactRange, span.Fits))

/-- There are answers, each in the range that it is asked for, on which the expression comes to the
value. -/
def Attains (e : Expr) (value : Int64) : Prop :=
  ∃ answers, Provider.Within answers e.inputs ∧
    ((Semantics.concrete Provider.scripted.recorded).evaluateClosed e).run.run (.start answers) =
      (.ok value, ⟨[], e.inputs.reverse⟩)

theorem Replays.attains {e : Expr} {value : Int64} {answers : List Int64}
    (h : e.Replays value answers e.inputs) : e.Attains value := by
  refine ⟨answers, h.inside, ?_⟩
  have hscript := h.run [] []
  rwa [List.append_nil, List.append_nil] at hscript

/-- The analysis gives the interval, it is exact, and answers can be chosen for each of its ends. -/
structure Spanned (e : Expr) (i : Interval) : Prop where
  range : Semantics.intervals.evaluateClosed e = pure i
  exact : Semantics.spans.evaluateClosed e = pure i.span
  ends : ∀ stop, i.IsEnd stop → ∃ answers, e.Replays stop answers e.inputs

namespace Spanned

variable {left right operand : Expr} {i j : Interval}

theorem literal (value : Int64) : Spanned (.literal value) (.singleton value) where
  range := Semantics.evaluate_literal ..
  exact := Semantics.evaluate_literal ..
  ends := by
    rintro stop (rfl | rfl)
    · exact ⟨[], .literal _⟩
    · exact ⟨[], .literal _⟩

theorem input {lower upper : Int64} (hordered : lower ≤ upper) :
    Spanned (.input lower upper) ⟨lower, upper⟩ := by
  have hnonempty : ¬ upper < lower := Int64.not_lt.mpr hordered
  constructor
  · rw [Semantics.evaluateClosed, Semantics.evaluate_input, Semantics.request, if_neg hnonempty]
    rfl
  · rw [Semantics.evaluateClosed, Semantics.evaluate_input, Semantics.request, if_neg hnonempty]
    rfl
  · rintro stop (rfl | rfl)
    · exact ⟨_, .input (Int64.le_refl _) hordered⟩
    · exact ⟨_, .input hordered (Int64.le_refl _)⟩

theorem negate (h : Spanned operand i) (hfits : i.span.negate.Fits) :
    Spanned (.negate operand) i.negate := by
  have hspan : i.negate.span = i.span.negate := by
    rw [Interval.negate_eq_clamp, Interval.span_clamp hfits]
  constructor
  · exact Semantics.evaluateClosed_negate_of_pure h.range
  · rw [hspan]
    exact Semantics.evaluateClosed_negate_of_pure h.exact
  · intro stop hend
    -- The negation turns the ends round.
    have hturned : ∃ value, i.IsEnd value ∧ stop.toInt = -value.toInt := by
      rcases hend with hstop | hstop
      · exact ⟨i.upper, .inr rfl, by rw [hstop]; exact congrArg Span.lower hspan⟩
      · exact ⟨i.lower, .inl rfl, by rw [hstop]; exact congrArg Span.upper hspan⟩
    obtain ⟨value, hvalue, hstop⟩ := hturned
    obtain ⟨answers, hreplays⟩ := h.ends value hvalue
    exact ⟨answers, hreplays.negate (Arithmetic.run_checked_of_toInt_eq hstop ())⟩

theorem binary {op : Operator} (hleft : Spanned left i) (hright : Spanned right j)
    (hfits : (Span.combine op i.span j.span).Fits) :
    Spanned (.binary op left right) (Interval.combine op i j) := by
  have hspan : (Interval.combine op i j).span = Span.combine op i.span j.span := by
    rw [Interval.combine_eq_clamp, Interval.span_clamp hfits]
  constructor
  · exact Semantics.evaluateClosed_binary_of_pure hleft.range hright.range
  · rw [hspan]
    exact Semantics.evaluateClosed_binary_of_pure hleft.exact hright.exact
  · intro stop hend
    have hexact : (Span.combine op i.span j.span).IsEnd stop.toInt := by
      rw [← hspan]
      exact hend.imp (congrArg _) (congrArg _)
    obtain ⟨first, second, hfirst, hsecond, hstop⟩ := Interval.exists_isEnd_of_isEnd_combine hexact
    -- The operands share no input, so the answers for the one leave those for the other free.
    obtain ⟨leftAnswers, hleft⟩ := hleft.ends first hfirst
    obtain ⟨rightAnswers, hright⟩ := hright.ends second hsecond
    exact ⟨_, hleft.binary hright (Arithmetic.run_combine_of_toInt_eq hstop ())⟩

end Spanned

theorem mem_parts (e : Expr) : e ∈ e.parts := by
  cases e <;> exact List.mem_cons_self

theorem StaysInRange.fits {e : Expr} (h : e.StaysInRange) {span : Span}
    (hspan : Semantics.spans.evaluateClosed e = pure span) : span.Fits := by
  have hrange : e.exactRange = some span := by
    rw [exactRange, hspan]
    rfl
  exact h e e.mem_parts span hrange

/-- Without names, the inputs of the operands stand in disjoint parts of the script. -/
theorem exists_spanned {e : Expr} (hnames : e.Nameless)
    (hinputs : ∀ range ∈ e.inputs, range.1 ≤ range.2) (hfits : e.StaysInRange) :
    ∃ i, e.Spanned i := by
  induction e with
  | literal value => exact ⟨_, .literal value⟩
  | input lower upper => exact ⟨_, .input (hinputs _ List.mem_cons_self)⟩
  | var name => exact hnames.elim
  | negate operand ih =>
      have hoperand : operand.StaysInRange := fun part hpart =>
        hfits part (List.mem_cons_of_mem _ hpart)
      obtain ⟨i, hi⟩ := ih hnames hinputs hoperand
      exact ⟨_, hi.negate (hfits.fits (Semantics.evaluateClosed_negate_of_pure hi.exact))⟩
  | binary op left right ihLeft ihRight =>
      have hleft : left.StaysInRange := fun part hpart =>
        hfits part (List.mem_cons_of_mem _ (List.mem_append_left _ hpart))
      have hright : right.StaysInRange := fun part hpart =>
        hfits part (List.mem_cons_of_mem _ (List.mem_append_right _ hpart))
      obtain ⟨i, hi⟩ := ihLeft hnames.1
        (fun range hrange => hinputs range (List.mem_append_left _ hrange)) hleft
      obtain ⟨j, hj⟩ := ihRight hnames.2
        (fun range hrange => hinputs range (List.mem_append_right _ hrange)) hright
      exact ⟨_, hi.binary hj
        (hfits.fits (Semantics.evaluateClosed_binary_of_pure hi.exact hj.exact))⟩
  | letIn name bound body _ _ => exact hnames.elim

/-- Where no end leaves the 64-bit range, both ends of the interval are values of the
expression. -/
theorem exists_range_attained {e : Expr} (hnames : e.Nameless)
    (hinputs : ∀ range ∈ e.inputs, range.1 ≤ range.2) (hfits : e.StaysInRange) :
    ∃ i, e.range = .ok i ∧ e.Attains i.lower ∧ e.Attains i.upper := by
  obtain ⟨i, hi⟩ := exists_spanned hnames hinputs hfits
  obtain ⟨_, hlower⟩ := hi.ends i.lower (.inl rfl)
  obtain ⟨_, hupper⟩ := hi.ends i.upper (.inr rfl)
  refine ⟨i, ?_, hlower.attains, hupper.attains⟩
  rw [range, rangeIn, ← Semantics.evaluateClosed, hi.range]
  rfl

/-- `?[-3, 5] * (-?[-2, 7] + 4)`, where the extreme products are those of `-3` and `5` with `6`. -/
private def crossing : Expr :=
  .binary .times (.input (-3) 5) (.binary .plus (.negate (.input (-2) 7)) (.literal 4))

theorem ends_of_crossing_attained : crossing.range = .ok ⟨-18, 30⟩ ∧
    crossing.Attains (-18) ∧ crossing.Attains 30 := by
  have hrange : crossing.range = .ok ⟨-18, 30⟩ := by rfl
  have hnames : crossing.Nameless := ⟨trivial, trivial, trivial⟩
  have hinputs : ∀ range ∈ crossing.inputs, range.1 ≤ range.2 :=
    List.forall_mem_cons.mpr ⟨by decide, List.forall_mem_singleton.mpr (by decide)⟩
  have hfits : crossing.StaysInRange := by decide +kernel
  obtain ⟨i, hi, hlower, hupper⟩ := exists_range_attained hnames hinputs hfits
  obtain rfl : ⟨-18, 30⟩ = i := Except.ok.inj (hrange.symm.trans hi)
  exact ⟨hrange, hlower, hupper⟩

end Expr
end RangeCalc
