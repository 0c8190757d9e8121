import RangeCalc.Integer

/-! Expressions of a calculator language with bounded inputs:
`let rate = ?[0, 100] in ? * (100 + rate)`. -/

namespace RangeCalc

inductive Operator where
  | plus
  | times
deriving DecidableEq

inductive Expr where
  | literal (value : Int64)
  /-- Asks for an integer from `lower` to `upper`, both included. -/
  | input (lower upper : Int64)
  | var (name : String)
  | negate (operand : Expr)
  | binary (op : Operator) (left right : Expr)
  | letIn (name : String) (bound body : Expr)
deriving DecidableEq

namespace Expr

/-- An input that any integer answers. -/
def unbounded : Expr :=
  .input Int64.minValue Int64.maxValue

end Expr

end RangeCalc
