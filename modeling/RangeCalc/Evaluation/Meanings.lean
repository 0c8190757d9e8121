import RangeCalc.Evaluation.Basic
import RangeCalc.Input.Provider
import RangeCalc.Interval

/-! Three meanings of the operations: integers, expressions and intervals. -/

namespace RangeCalc

/-! Arithmetic on integers, with inputs from a provider. A result that does not fit in 64 bits is
an error, and so is an input outside the range that was asked for. -/

namespace Arithmetic

variable {σ : Type}

def checked (operation : Arithmetic) (exact : Int) : Eval σ Int64 :=
  match Integer.fit? exact with
  | some value => pure value
  | none => throw (.overflow operation)

def combine : Operator → Int64 → Int64 → Eval σ Int64
  | .plus, left, right => addition.checked (left.toInt + right.toInt)
  | .times, left, right => multiplication.checked (left.toInt * right.toInt)

def negate (value : Int64) : Eval σ Int64 :=
  negation.checked (-value.toInt)

end Arithmetic

namespace Semantics

variable {σ : Type}

def checkedInput (provider : Provider σ) (lower upper : Int64) : Eval σ Int64 := do
  let value ← provider lower upper
  if lower ≤ value ∧ value ≤ upper then pure value
  else throw (.outOfRange value lower upper)

def concrete (provider : Provider σ) : Semantics σ Int64 where
  literal value := pure value
  combine := Arithmetic.combine
  negate := Arithmetic.negate
  input := checkedInput provider

/-- Expressions as their own meaning. Variables stand for the expressions that they are bound to,
so evaluation puts those in their place, and an input that is used twice becomes two inputs. -/
def inlining : Semantics Unit Expr where
  literal value := pure (.literal value)
  combine op left right := pure (.binary op left right)
  negate operand := pure (.negate operand)
  input lower upper := pure (.input lower upper)

/-- The meaning of an expression as an interval around the values that it can have. No input is
asked for: its range takes its place. -/
def intervals : Semantics Unit Interval where
  literal value := pure (.singleton value)
  combine op left right := pure (Interval.combine op left right)
  negate operand := pure operand.negate
  input lower upper := pure ⟨lower, upper⟩

end Semantics

namespace Expr

def inlineIn (e : Expr) (env : Env Expr) : Except EvalError Expr :=
  (Semantics.inlining.evaluate e env).result

def inline (e : Expr) : Except EvalError Expr :=
  e.inlineIn .empty

def rangeIn (e : Expr) (env : Env Interval) : Except EvalError Interval :=
  (Semantics.intervals.evaluate e env).result

def range (e : Expr) : Except EvalError Interval :=
  e.rangeIn .empty

end Expr

end RangeCalc
