import RangeCalc.Expr.Basic

/-! The written form of expressions, with parentheses only where the grammar needs them. -/

namespace RangeCalc

namespace Operator

def symbol : Operator → String
  | plus => "+"
  | times => "*"

/-- Binding power. That of a `let` is 1, and that of all without an operator between operands is
4. -/
def power : Operator → Nat
  | plus => 2
  | times => 3

@[simp] theorem power_plus : plus.power = 2 := rfl

@[simp] theorem power_times : times.power = 3 := rfl

theorem power_lt_four (op : Operator) : op.power < 4 := by
  cases op <;> decide

end Operator

namespace Expr

def writeInput (lower upper : Int64) : String :=
  if lower = Int64.minValue ∧ upper = Int64.maxValue then "?"
  else "?[" ++ Integer.digits lower ++ ", " ++ Integer.digits upper ++ "]"

def enclose (power level : Nat) (text : String) : String :=
  if level ≤ power then text else "(" ++ text ++ ")"

/-- The text of an expression that has to bind at least as tightly as `level`, followed by
`pending`: the texts of what stands to the right of it in the chain of operators that it begins.
Along a chain this is a loop, for only right operands are written apart. -/
def writeAt : Expr → Nat → List String → String
  | literal value, level, pending =>
      pending.foldl (· ++ ·) (enclose 4 level (Integer.digits value))
  | input lower upper, level, pending =>
      pending.foldl (· ++ ·) (enclose 4 level (writeInput lower upper))
  | var name, level, pending => pending.foldl (· ++ ·) (enclose 4 level name)
  | negate operand, level, pending =>
      pending.foldl (· ++ ·) (enclose 4 level ("-" ++ operand.writeAt 4 []))
  | binary op left right, level, pending =>
      let operand := " " ++ op.symbol ++ " " ++ right.writeAt (op.power + 1) []
      if level ≤ op.power then left.writeAt op.power (operand :: pending)
      else pending.foldl (· ++ ·) ("(" ++ left.writeAt op.power [operand] ++ ")")
  | letIn name bound body, level, pending =>
      let text := "let " ++ name ++ " = " ++ bound.writeAt 2 [] ++ " in " ++ body.writeAt 1 []
      pending.foldl (· ++ ·) (enclose 1 level text)

def write (e : Expr) : String :=
  e.writeAt 0 []

instance : ToString Expr where
  toString := write

end Expr

end RangeCalc
