import RangeCalc.Proofs.Interval.Span

/-! Intervals within intervals. An end of a result comes from ends of the operands, and wider
operands still have those among their integers, so that their result is wider too. -/

namespace RangeCalc.Interval

variable {i j i' j' : Interval} {stop : Int64}

/-- There are integers in the first interval, and all of them are in the second. -/
structure Within (i j : Interval) : Prop where
  valid : i.Valid
  members : ∀ value : Int64, value ∈ i → value ∈ j

theorem IsEnd.mem (hstop : i.IsEnd stop) (hi : i.Valid) : stop ∈ i := by
  rcases hstop with rfl | rfl
  · exact ⟨Int64.le_refl _, hi⟩
  · exact ⟨hi, Int64.le_refl _⟩

theorem within_iff : i.Within j ↔ i.Valid ∧ j.lower ≤ i.lower ∧ i.upper ≤ j.upper := by
  constructor
  · intro h
    obtain ⟨hlower, -⟩ := h.members i.lower (IsEnd.mem (.inl rfl) h.valid)
    obtain ⟨-, hupper⟩ := h.members i.upper (IsEnd.mem (.inr rfl) h.valid)
    exact ⟨h.valid, hlower, hupper⟩
  · rintro ⟨hvalid, hlower, hupper⟩
    exact ⟨hvalid, fun value hvalue =>
      ⟨Int64.le_trans hlower hvalue.1, Int64.le_trans hvalue.2 hupper⟩⟩

theorem within_of_isEnd (hi : i.Valid) (hends : ∀ stop, i.IsEnd stop → stop ∈ j) :
    i.Within j :=
  within_iff.mpr ⟨hi, (hends i.lower (.inl rfl)).1, (hends i.upper (.inr rfl)).2⟩

theorem exists_isEnd_of_isEnd_multiply (hstop : (i.multiply j).IsEnd stop) :
    ∃ first second, i.IsEnd first ∧ j.IsEnd second ∧
      stop = Integer.clamp (first.toInt * second.toInt) := by
  have hexact : ∃ n, (i.span.multiply j.span).IsEnd n ∧ stop = Integer.clamp n := by
    rw [multiply_eq_clamp] at hstop
    rcases hstop with rfl | rfl
    · exact ⟨_, .inl rfl, rfl⟩
    · exact ⟨_, .inr rfl, rfl⟩
  obtain ⟨_, hn, rfl⟩ := hexact
  obtain ⟨first, second, hfirst, hsecond, rfl⟩ := exists_isEnd_of_isEnd_span_multiply hn
  exact ⟨first, second, hfirst, hsecond, rfl⟩

namespace Within

theorem refl (hi : i.Valid) : i.Within i where
  valid := hi
  members _ hvalue := hvalue

theorem mem_of_isEnd (h : i.Within j) (hstop : i.IsEnd stop) : stop ∈ j :=
  h.members stop (hstop.mem h.valid)

theorem negate (h : i.Within j) : i.negate.Within j.negate := by
  apply within_of_isEnd (valid_negate h.valid)
  rintro stop (rfl | rfl)
  · exact clamp_neg_mem_negate (h.mem_of_isEnd (.inr rfl))
  · exact clamp_neg_mem_negate (h.mem_of_isEnd (.inl rfl))

theorem add (hleft : i.Within i') (hright : j.Within j') : (i.add j).Within (i'.add j') := by
  apply within_of_isEnd (valid_add hleft.valid hright.valid)
  rintro stop (rfl | rfl)
  · exact clamp_add_mem_add (hleft.mem_of_isEnd (.inl rfl)) (hright.mem_of_isEnd (.inl rfl))
  · exact clamp_add_mem_add (hleft.mem_of_isEnd (.inr rfl)) (hright.mem_of_isEnd (.inr rfl))

/-- Which ends the extreme products come from may change with the width, but none of the old ones
is lost. -/
theorem multiply (hleft : i.Within i') (hright : j.Within j') :
    (i.multiply j).Within (i'.multiply j') := by
  apply within_of_isEnd (valid_multiply i j)
  intro stop hstop
  obtain ⟨first, second, hfirst, hsecond, rfl⟩ := exists_isEnd_of_isEnd_multiply hstop
  exact clamp_mul_mem_multiply (hleft.mem_of_isEnd hfirst) (hright.mem_of_isEnd hsecond)

theorem combine (op : Operator) (hleft : i.Within i') (hright : j.Within j') :
    (combine op i j).Within (combine op i' j') := by
  cases op with
  | plus => exact hleft.add hright
  | times => exact hleft.multiply hright

end Within

end RangeCalc.Interval
