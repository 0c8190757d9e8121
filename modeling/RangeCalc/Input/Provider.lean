import RangeCalc.Evaluation.Basic

/-! Providers: where the values of inputs come from. -/

namespace RangeCalc

/-- Answers a request for an integer from the first to the second. -/
abbrev Provider (σ : Type) := Int64 → Int64 → Eval σ Int64

namespace Provider

variable {σ : Type}

def nearest (lower upper value : Int64) : Int64 :=
  if value < lower then lower else if upper < value then upper else value

/-- Answers 0, 1, 2 and so on, each moved into the range. The state is the next number. A request
for an empty range does not use up a number. -/
def counting : Provider Int64 := fun lower upper => do
  if upper < lower then throw (.emptyRange lower upper)
  let number ← get
  set (Integer.clamp (number.toInt + 1))
  pure (nearest lower upper number)

/-- Answers the integers of a list in turn, whatever the range. -/
def scripted : Provider (List Int64) := fun _ _ => do
  match ← get with
  | [] => throw (.noInput "script exhausted")
  | value :: later =>
      set later
      pure value

end Provider

/-- A provider's state together with the ranges that it was asked for, the latest first. -/
structure Recorded (σ : Type) where
  state : σ
  asked : List (Int64 × Int64)

namespace Recorded

variable {σ α : Type}

def start (state : σ) : Recorded σ :=
  ⟨state, []⟩

def requests (recorded : Recorded σ) : List (Int64 × Int64) :=
  recorded.asked.reverse

end Recorded

def Provider.recorded {σ : Type} (provider : Provider σ) : Provider (Recorded σ) :=
  fun lower upper recorded =>
    let (answer, state) := provider lower upper recorded.state
    (answer, ⟨state, (lower, upper) :: recorded.asked⟩)

end RangeCalc
