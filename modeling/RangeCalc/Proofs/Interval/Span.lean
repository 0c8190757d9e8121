import Mathlib.Order.MinMax
import RangeCalc.Proofs.Interval.Membership

/-! Spans are intervals whose ends may have any size. The operations on intervals of 64 bits move
the ends of the exact span into the 64-bit range, and each end of the exact span comes from ends of
the operands. -/

namespace RangeCalc

/-- The integers from `lower` to `upper`. -/
structure Span where
  lower : Int
  upper : Int
deriving DecidableEq

namespace Span

def Fits (s : Span) : Prop :=
  Integer.Fits s.lower ∧ Integer.Fits s.upper

instance (s : Span) : Decidable s.Fits :=
  inferInstanceAs (Decidable (_ ∧ _))

def clamp (s : Span) : Interval :=
  ⟨Integer.clamp s.lower, Integer.clamp s.upper⟩

def singleton (n : Int) : Span :=
  ⟨n, n⟩

def add (s t : Span) : Span :=
  ⟨s.lower + t.lower, s.upper + t.upper⟩

def multiply (s t : Span) : Span where
  lower :=
    min (min (s.lower * t.lower) (s.lower * t.upper))
      (min (s.upper * t.lower) (s.upper * t.upper))
  upper :=
    max (max (s.lower * t.lower) (s.lower * t.upper))
      (max (s.upper * t.lower) (s.upper * t.upper))

def negate (s : Span) : Span :=
  ⟨-s.upper, -s.lower⟩

def combine : Operator → Span → Span → Span
  | .plus => add
  | .times => multiply

def IsEnd (s : Span) (n : Int) : Prop :=
  n = s.lower ∨ n = s.upper

variable {s t : Span} {m n : Int}

private theorem choose_of_four {choose : Int → Int → Int}
    (hchoose : ∀ m n, choose m n = m ∨ choose m n = n) (k l m n : Int) :
    choose (choose k l) (choose m n) = k ∨ choose (choose k l) (choose m n) = l ∨
      choose (choose k l) (choose m n) = m ∨ choose (choose k l) (choose m n) = n := by
  rcases hchoose (choose k l) (choose m n) with hfirst | hsecond
  · rw [hfirst]
    exact (hchoose k l).imp_right .inl
  · rw [hsecond]
    exact .inr (.inr (hchoose m n))

/-- The extreme products are products of ends, one for each factor. -/
theorem exists_isEnd_of_isEnd_multiply (hend : (s.multiply t).IsEnd n) :
    ∃ first second, s.IsEnd first ∧ t.IsEnd second ∧ n = first * second := by
  have hproduct : n = s.lower * t.lower ∨ n = s.lower * t.upper ∨ n = s.upper * t.lower ∨
      n = s.upper * t.upper := by
    rcases hend with rfl | rfl
    · exact choose_of_four min_choice ..
    · exact choose_of_four max_choice ..
  rcases hproduct with hn | hn | hn | hn
  · exact ⟨_, _, .inl rfl, .inl rfl, hn⟩
  · exact ⟨_, _, .inl rfl, .inr rfl, hn⟩
  · exact ⟨_, _, .inr rfl, .inl rfl, hn⟩
  · exact ⟨_, _, .inr rfl, .inr rfl, hn⟩

theorem lower_multiply_le (hm : s.IsEnd m) (hn : t.IsEnd n) : (s.multiply t).lower ≤ m * n := by
  rcases hm with rfl | rfl <;> rcases hn with rfl | rfl <;> simp [multiply]

theorem le_upper_multiply (hm : s.IsEnd m) (hn : t.IsEnd n) : m * n ≤ (s.multiply t).upper := by
  rcases hm with rfl | rfl <;> rcases hn with rfl | rfl <;> simp [multiply]

end Span

namespace Interval

variable {i j : Interval} {n : Int}

def span (i : Interval) : Span :=
  ⟨i.lower.toInt, i.upper.toInt⟩

theorem span_clamp {s : Span} (hfits : s.Fits) : s.clamp.span = s := by
  obtain ⟨hlower, hupper⟩ := hfits
  simp only [span, Span.clamp, Integer.clamp_of_fits hlower, Integer.clamp_of_fits hupper]

theorem IsEnd.span {stop : Int64} (hstop : i.IsEnd stop) : i.span.IsEnd stop.toInt :=
  hstop.imp (congrArg Int64.toInt) (congrArg Int64.toInt)

theorem exists_isEnd_of_isEnd_span (hend : i.span.IsEnd n) :
    ∃ value, i.IsEnd value ∧ n = value.toInt := by
  rcases hend with rfl | rfl
  · exact ⟨i.lower, .inl rfl, rfl⟩
  · exact ⟨i.upper, .inr rfl, rfl⟩

theorem exists_isEnd_of_isEnd_span_multiply (hend : (i.span.multiply j.span).IsEnd n) :
    ∃ first second, i.IsEnd first ∧ j.IsEnd second ∧ n = first.toInt * second.toInt := by
  obtain ⟨_, _, hm, hk, rfl⟩ := Span.exists_isEnd_of_isEnd_multiply hend
  obtain ⟨first, hfirst, rfl⟩ := exists_isEnd_of_isEnd_span hm
  obtain ⟨second, hsecond, rfl⟩ := exists_isEnd_of_isEnd_span hk
  exact ⟨first, second, hfirst, hsecond, rfl⟩

theorem negate_eq_clamp (i : Interval) : i.negate = i.span.negate.clamp := rfl

private theorem exists_isEnd_of_mem_corners {corner : Int64} (hcorner : corner ∈ corners i j) :
    ∃ m n, i.span.IsEnd m ∧ j.span.IsEnd n ∧ corner = Integer.clamp (m * n) := by
  simp only [corners, List.mem_cons, List.not_mem_nil, or_false] at hcorner
  rcases hcorner with rfl | rfl | rfl | rfl
  · exact ⟨_, _, .inl rfl, .inl rfl, rfl⟩
  · exact ⟨_, _, .inl rfl, .inr rfl, rfl⟩
  · exact ⟨_, _, .inr rfl, .inl rfl, rfl⟩
  · exact ⟨_, _, .inr rfl, .inr rfl, rfl⟩

private theorem clamp_mem_corners_of_isEnd (hend : (i.span.multiply j.span).IsEnd n) :
    Integer.clamp n ∈ corners i j := by
  obtain ⟨first, second, hfirst, hsecond, rfl⟩ := exists_isEnd_of_isEnd_span_multiply hend
  exact clamp_mem_corners hfirst hsecond

/-- To move the corners into the range and then compare them is to compare them and then move the
extreme ones. -/
theorem multiply_eq_clamp (i j : Interval) : i.multiply j = (i.span.multiply j.span).clamp := by
  have hlower : (i.multiply j).lower = Integer.clamp (i.span.multiply j.span).lower := by
    apply Int64.le_antisymm
    · exact (le_foldl_min_iff.mp (Int64.le_refl (i.multiply j).lower)).2 _
        (clamp_mem_corners_of_isEnd (.inl rfl))
    · refine le_foldl_min_iff.mpr ⟨Int64.le_maxValue _, ?_⟩
      intro corner hcorner
      obtain ⟨m, n, hm, hn, rfl⟩ := exists_isEnd_of_mem_corners hcorner
      exact Integer.clamp_le_clamp (Span.lower_multiply_le hm hn)
  have hupper : (i.multiply j).upper = Integer.clamp (i.span.multiply j.span).upper := by
    apply Int64.le_antisymm
    · refine foldl_max_le_iff.mpr ⟨Int64.minValue_le _, ?_⟩
      intro corner hcorner
      obtain ⟨m, n, hm, hn, rfl⟩ := exists_isEnd_of_mem_corners hcorner
      exact Integer.clamp_le_clamp (Span.le_upper_multiply hm hn)
    · exact (foldl_max_le_iff.mp (Int64.le_refl (i.multiply j).upper)).2 _
        (clamp_mem_corners_of_isEnd (.inr rfl))
  rw [Span.clamp, ← hlower, ← hupper]

theorem combine_eq_clamp (op : Operator) (i j : Interval) :
    combine op i j = (Span.combine op i.span j.span).clamp := by
  cases op with
  | plus => rfl
  | times => exact multiply_eq_clamp i j

end Interval

end RangeCalc
