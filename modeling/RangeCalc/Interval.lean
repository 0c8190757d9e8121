import RangeCalc.Expr.Basic

/-! Intervals of integers and the operations of the language on them. An end beyond 64 bits moves
to the end of the range. -/

namespace RangeCalc

/-- The integers from `lower` to `upper`, both included. -/
structure Interval where
  lower : Int64
  upper : Int64
deriving DecidableEq

namespace Interval

def Valid (i : Interval) : Prop :=
  i.lower ≤ i.upper

def contains (i : Interval) (value : Int64) : Bool :=
  i.lower ≤ value && value ≤ i.upper

instance : Membership Int64 Interval where
  mem i value := i.lower ≤ value ∧ value ≤ i.upper

theorem contains_iff {i : Interval} {value : Int64} : i.contains value = true ↔ value ∈ i := by
  simp [contains, Membership.mem]

def singleton (value : Int64) : Interval :=
  ⟨value, value⟩

def add (i j : Interval) : Interval where
  lower := Integer.clamp (i.lower.toInt + j.lower.toInt)
  upper := Integer.clamp (i.upper.toInt + j.upper.toInt)

/-- The products of the ends. Signs decide which of them is the least. -/
def corners (i j : Interval) : List Int64 :=
  [Integer.clamp (i.lower.toInt * j.lower.toInt),
    Integer.clamp (i.lower.toInt * j.upper.toInt),
    Integer.clamp (i.upper.toInt * j.lower.toInt),
    Integer.clamp (i.upper.toInt * j.upper.toInt)]

def multiply (i j : Interval) : Interval where
  lower := (corners i j).foldl min Int64.maxValue
  upper := (corners i j).foldl max Int64.minValue

def negate (i : Interval) : Interval where
  lower := Integer.clamp (-i.upper.toInt)
  upper := Integer.clamp (-i.lower.toInt)

def combine : Operator → Interval → Interval → Interval
  | .plus => add
  | .times => multiply

def write (i : Interval) : String :=
  "[" ++ Integer.digits i.lower ++ ", " ++ Integer.digits i.upper ++ "]"

end Interval

end RangeCalc
