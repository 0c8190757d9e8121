import RangeCalc.Interval

/-! Exact results of the operations lie in the intervals that the operations give. A result beyond
64 bits moves to the end of the range as the ends of the intervals do, and stays between them. -/

namespace RangeCalc

namespace Integer

variable {m n : Int} {value left right : Int64}

theorem max_le_iff : max left right ≤ value ↔ left ≤ value ∧ right ≤ value := by
  have hmax : max left right = if left ≤ right then right else left := rfl
  rw [hmax]
  split
  · next hordered => exact ⟨fun hright => ⟨Int64.le_trans hordered hright, hright⟩, And.right⟩
  · next hordered =>
    have hordered := Int64.le_of_lt (Int64.not_le.mp hordered)
    exact ⟨fun hleft => ⟨hleft, Int64.le_trans hordered hleft⟩, And.left⟩

theorem clamp_le_clamp (h : m ≤ n) : clamp m ≤ clamp n := by
  rw [Int64.le_iff_toInt_le, toInt_clamp, toInt_clamp]
  omega

theorem clamp_eq_of_toInt_eq (h : value.toInt = n) : clamp n = value := by
  rw [← h, clamp_toInt]

end Integer

namespace Interval

variable {i j : Interval} {left right value : Int64}

theorem mem_iff : value ∈ i ↔ i.lower.toInt ≤ value.toInt ∧ value.toInt ≤ i.upper.toInt := by
  rw [← Int64.le_iff_toInt_le, ← Int64.le_iff_toInt_le]
  exact Iff.rfl

theorem mem_singleton (value : Int64) : value ∈ singleton value :=
  ⟨Int64.le_refl value, Int64.le_refl value⟩

theorem clamp_neg_mem_negate (hleft : left ∈ i) : Integer.clamp (-left.toInt) ∈ i.negate := by
  obtain ⟨hlower, hupper⟩ := mem_iff.mp hleft
  exact ⟨Integer.clamp_le_clamp (by omega), Integer.clamp_le_clamp (by omega)⟩

theorem mem_negate (hleft : left ∈ i) (hvalue : value.toInt = -left.toInt) : value ∈ i.negate :=
  Integer.clamp_eq_of_toInt_eq hvalue ▸ clamp_neg_mem_negate hleft

theorem clamp_add_mem_add (hleft : left ∈ i) (hright : right ∈ j) :
    Integer.clamp (left.toInt + right.toInt) ∈ i.add j := by
  obtain ⟨hleftLower, hleftUpper⟩ := mem_iff.mp hleft
  obtain ⟨hrightLower, hrightUpper⟩ := mem_iff.mp hright
  exact ⟨Integer.clamp_le_clamp (by omega), Integer.clamp_le_clamp (by omega)⟩

theorem mem_add (hleft : left ∈ i) (hright : right ∈ j)
    (hvalue : value.toInt = left.toInt + right.toInt) : value ∈ i.add j :=
  Integer.clamp_eq_of_toInt_eq hvalue ▸ clamp_add_mem_add hleft hright

section Corners

def IsEnd (i : Interval) (value : Int64) : Prop :=
  value = i.lower ∨ value = i.upper

/-- A multiple is at least that of an end: of the lower end for a factor that is not negative, of
the upper end for one that is. -/
theorem exists_isEnd_mul_le (hleft : left ∈ i) (factor : Int) :
    ∃ stop, i.IsEnd stop ∧ stop.toInt * factor ≤ left.toInt * factor := by
  obtain ⟨hlower, hupper⟩ := mem_iff.mp hleft
  rcases Int.le_total 0 factor with hfactor | hfactor
  · exact ⟨i.lower, .inl rfl, Int.mul_le_mul_of_nonneg_right hlower hfactor⟩
  · exact ⟨i.upper, .inr rfl, Int.mul_le_mul_of_nonpos_right hupper hfactor⟩

theorem exists_isEnd_le_mul (hleft : left ∈ i) (factor : Int) :
    ∃ stop, i.IsEnd stop ∧ left.toInt * factor ≤ stop.toInt * factor := by
  obtain ⟨stop, hstop, hle⟩ := exists_isEnd_mul_le hleft (-factor)
  rw [Int.mul_neg, Int.mul_neg] at hle
  exact ⟨stop, hstop, Int.neg_le_neg_iff.mp hle⟩

/-- The left factor moves to an end with the right one fixed, then the right one does. -/
theorem exists_isEnd_mul_isEnd_le (hleft : left ∈ i) (hright : right ∈ j) :
    ∃ first second, i.IsEnd first ∧ j.IsEnd second ∧
      first.toInt * second.toInt ≤ left.toInt * right.toInt := by
  obtain ⟨first, hfirst, hfirstLe⟩ := exists_isEnd_mul_le hleft right.toInt
  obtain ⟨second, hsecond, hsecondLe⟩ := exists_isEnd_mul_le hright first.toInt
  refine ⟨first, second, hfirst, hsecond, ?_⟩
  calc
    first.toInt * second.toInt = second.toInt * first.toInt := Int.mul_comm ..
    _ ≤ right.toInt * first.toInt := hsecondLe
    _ = first.toInt * right.toInt := Int.mul_comm ..
    _ ≤ left.toInt * right.toInt := hfirstLe

theorem exists_isEnd_mul_isEnd_ge (hleft : left ∈ i) (hright : right ∈ j) :
    ∃ first second, i.IsEnd first ∧ j.IsEnd second ∧
      left.toInt * right.toInt ≤ first.toInt * second.toInt := by
  obtain ⟨first, hfirst, hfirstLe⟩ := exists_isEnd_le_mul hleft right.toInt
  obtain ⟨second, hsecond, hsecondLe⟩ := exists_isEnd_le_mul hright first.toInt
  refine ⟨first, second, hfirst, hsecond, ?_⟩
  calc
    left.toInt * right.toInt ≤ first.toInt * right.toInt := hfirstLe
    _ = right.toInt * first.toInt := Int.mul_comm ..
    _ ≤ second.toInt * first.toInt := hsecondLe
    _ = first.toInt * second.toInt := Int.mul_comm ..

theorem clamp_mem_corners {first second : Int64} (hfirst : i.IsEnd first)
    (hsecond : j.IsEnd second) :
    Integer.clamp (first.toInt * second.toInt) ∈ corners i j := by
  rcases hfirst with rfl | rfl <;> rcases hsecond with rfl | rfl <;> simp [corners]

theorem exists_corner_le (hleft : left ∈ i) (hright : right ∈ j) :
    ∃ corner ∈ corners i j, corner ≤ Integer.clamp (left.toInt * right.toInt) := by
  obtain ⟨first, second, hfirst, hsecond, hle⟩ := exists_isEnd_mul_isEnd_le hleft hright
  exact ⟨_, clamp_mem_corners hfirst hsecond, Integer.clamp_le_clamp hle⟩

theorem exists_le_corner (hleft : left ∈ i) (hright : right ∈ j) :
    ∃ corner ∈ corners i j, Integer.clamp (left.toInt * right.toInt) ≤ corner := by
  obtain ⟨first, second, hfirst, hsecond, hle⟩ := exists_isEnd_mul_isEnd_ge hleft hright
  exact ⟨_, clamp_mem_corners hfirst hsecond, Integer.clamp_le_clamp hle⟩

theorem le_foldl_min_iff {start n : Int64} {values : List Int64} :
    n ≤ values.foldl min start ↔ n ≤ start ∧ ∀ value ∈ values, n ≤ value := by
  induction values generalizing start with
  | nil => simp
  | cons first values ih =>
      rw [List.foldl_cons, ih, Std.le_min_iff, List.forall_mem_cons, and_assoc]

theorem foldl_max_le_iff {start n : Int64} {values : List Int64} :
    values.foldl max start ≤ n ↔ start ≤ n ∧ ∀ value ∈ values, value ≤ n := by
  induction values generalizing start with
  | nil => simp
  | cons first values ih =>
      rw [List.foldl_cons, ih, Integer.max_le_iff, List.forall_mem_cons, and_assoc]

end Corners

theorem clamp_mul_mem_multiply (hleft : left ∈ i) (hright : right ∈ j) :
    Integer.clamp (left.toInt * right.toInt) ∈ i.multiply j := by
  constructor
  · obtain ⟨corner, hcorner, hle⟩ := exists_corner_le hleft hright
    have hlower := (le_foldl_min_iff.mp (Int64.le_refl (i.multiply j).lower)).2 corner hcorner
    exact Int64.le_trans hlower hle
  · obtain ⟨corner, hcorner, hle⟩ := exists_le_corner hleft hright
    have hupper := (foldl_max_le_iff.mp (Int64.le_refl (i.multiply j).upper)).2 corner hcorner
    exact Int64.le_trans hle hupper

theorem mem_multiply (hleft : left ∈ i) (hright : right ∈ j)
    (hvalue : value.toInt = left.toInt * right.toInt) : value ∈ i.multiply j :=
  Integer.clamp_eq_of_toInt_eq hvalue ▸ clamp_mul_mem_multiply hleft hright

/-! The operations never give an interval whose lower end is above its upper end. -/

section Validity

theorem valid_iff : i.Valid ↔ i.lower.toInt ≤ i.upper.toInt :=
  Int64.le_iff_toInt_le

theorem valid_singleton (value : Int64) : (singleton value).Valid :=
  Int64.le_refl value

theorem valid_negate (hi : i.Valid) : i.negate.Valid :=
  Integer.clamp_le_clamp (Int.neg_le_neg (valid_iff.mp hi))

theorem valid_add (hi : i.Valid) (hj : j.Valid) : (i.add j).Valid :=
  Integer.clamp_le_clamp (Int.add_le_add (valid_iff.mp hi) (valid_iff.mp hj))

/-- The least and the greatest corner enclose any of the four. -/
theorem valid_multiply (i j : Interval) : (i.multiply j).Valid := by
  have hcorner := clamp_mem_corners (i := i) (j := j) (.inl rfl) (.inl rfl)
  have hlower := (le_foldl_min_iff.mp (Int64.le_refl (i.multiply j).lower)).2 _ hcorner
  have hupper := (foldl_max_le_iff.mp (Int64.le_refl (i.multiply j).upper)).2 _ hcorner
  exact Int64.le_trans hlower hupper

theorem valid_combine (op : Operator) (hi : i.Valid) (hj : j.Valid) :
    (combine op i j).Valid := by
  cases op with
  | plus => exact valid_add hi hj
  | times => exact valid_multiply i j

end Validity

end Interval

end RangeCalc
