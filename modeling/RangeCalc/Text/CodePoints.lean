/-! Sets of characters given by tables of code point ranges. -/

namespace RangeCalc.Text

/-- Inclusive ranges of code points in increasing order. -/
abbrev CodePoints := List (Nat × Nat)

namespace CodePoints

def contains : CodePoints → Nat → Bool
  | [], _ => false
  | (first, last) :: later, point =>
      if point < first then false
      else if point ≤ last then true
      else contains later point

@[simp] theorem contains_nil (point : Nat) : contains [] point = false := rfl

theorem contains_cons (first last : Nat) (later : CodePoints) (point : Nat) :
    contains ((first, last) :: later) point =
      (decide (first ≤ point) && (decide (point ≤ last) || contains later point)) := by
  by_cases hbefore : point < first
  · simp [contains, hbefore, Nat.not_le.mpr hbefore]
  · by_cases hinside : point ≤ last <;>
      simp [contains, hbefore, hinside, Nat.le_of_not_lt hbefore]

end CodePoints

end RangeCalc.Text
