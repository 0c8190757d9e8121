import Mathlib.Order.Bounds.Defs
import RangeCalc.Proofs.Interval.Inclusion

/-! Each operation gives the narrowest interval that an exact analysis could give and 64 bits can
hold: its ends are the least and the greatest exact result, moved into the range. -/

namespace RangeCalc.Interval

variable {i j : Interval} {results : Set Int}

/-- There are a least and a greatest of the results, and they are the ends of the interval, moved
into the range. -/
def IsHull (i : Interval) (results : Set Int) : Prop :=
  ∃ s : Span, IsLeast results s.lower ∧ IsGreatest results s.upper ∧ i = s.clamp

theorem IsHull.valid (h : i.IsHull results) : i.Valid := by
  obtain ⟨s, hleast, hgreatest, rfl⟩ := h
  exact Integer.clamp_le_clamp (hgreatest.2 hleast.1)

theorem lower_mem (hi : i.Valid) : i.lower ∈ i :=
  IsEnd.mem (.inl rfl) hi

theorem upper_mem (hi : i.Valid) : i.upper ∈ i :=
  IsEnd.mem (.inr rfl) hi

theorem isHull_negate (hi : i.Valid) :
    i.negate.IsHull {n | ∃ value ∈ i, n = -value.toInt} := by
  refine ⟨i.span.negate, ⟨⟨i.upper, upper_mem hi, rfl⟩, ?_⟩, ⟨⟨i.lower, lower_mem hi, rfl⟩, ?_⟩,
    negate_eq_clamp i⟩
  · rintro _ ⟨value, hvalue, rfl⟩
    exact Int.neg_le_neg (mem_iff.mp hvalue).2
  · rintro _ ⟨value, hvalue, rfl⟩
    exact Int.neg_le_neg (mem_iff.mp hvalue).1

theorem isHull_add (hi : i.Valid) (hj : j.Valid) :
    (i.add j).IsHull {n | ∃ left ∈ i, ∃ right ∈ j, n = left.toInt + right.toInt} := by
  refine ⟨i.span.add j.span, ⟨?_, ?_⟩, ⟨?_, ?_⟩, rfl⟩
  · exact ⟨i.lower, lower_mem hi, j.lower, lower_mem hj, rfl⟩
  · rintro _ ⟨left, hleft, right, hright, rfl⟩
    exact Int.add_le_add (mem_iff.mp hleft).1 (mem_iff.mp hright).1
  · exact ⟨i.upper, upper_mem hi, j.upper, upper_mem hj, rfl⟩
  · rintro _ ⟨left, hleft, right, hright, rfl⟩
    exact Int.add_le_add (mem_iff.mp hleft).2 (mem_iff.mp hright).2

theorem isHull_multiply (hi : i.Valid) (hj : j.Valid) :
    (i.multiply j).IsHull {n | ∃ left ∈ i, ∃ right ∈ j, n = left.toInt * right.toInt} := by
  have hends : ∀ n, (i.span.multiply j.span).IsEnd n →
      ∃ left ∈ i, ∃ right ∈ j, n = left.toInt * right.toInt := by
    intro n hend
    obtain ⟨first, second, hfirst, hsecond, hn⟩ := exists_isEnd_of_isEnd_span_multiply hend
    exact ⟨first, hfirst.mem hi, second, hsecond.mem hj, hn⟩
  refine ⟨i.span.multiply j.span, ⟨hends _ (.inl rfl), ?_⟩, ⟨hends _ (.inr rfl), ?_⟩,
    multiply_eq_clamp i j⟩
  · rintro _ ⟨left, hleft, right, hright, rfl⟩
    obtain ⟨first, second, hfirst, hsecond, hle⟩ := exists_isEnd_mul_isEnd_le hleft hright
    exact Int.le_trans (Span.lower_multiply_le hfirst.span hsecond.span) hle
  · rintro _ ⟨left, hleft, right, hright, rfl⟩
    obtain ⟨first, second, hfirst, hsecond, hle⟩ := exists_isEnd_mul_isEnd_ge hleft hright
    exact Int.le_trans hle (Span.le_upper_multiply hfirst.span hsecond.span)

end RangeCalc.Interval
