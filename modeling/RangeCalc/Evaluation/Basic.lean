import RangeCalc.Expr.Basic
import RangeCalc.Frame
import RangeCalc.Integer

/-! Evaluation of expressions, for any meaning of the operations, and what can go wrong with it. The
operations may keep a state and may fail; operands are evaluated from left to right. -/

namespace RangeCalc

inductive Arithmetic where
  | addition
  | multiplication
  | negation
deriving DecidableEq

def Arithmetic.name : Arithmetic → String
  | addition => "addition"
  | multiplication => "multiplication"
  | negation => "negation"

inductive EvalError where
  | unbound (name : String)
  | overflow (operation : Arithmetic)
  /-- An input that does not lie in the range that was asked for. -/
  | outOfRange (value lower upper : Int64)
  | noInput (reason : String)
  | emptyRange (lower upper : Int64)
deriving DecidableEq

def EvalError.message : EvalError → String
  | unbound name => "unbound variable '" ++ name ++ "'"
  | overflow operation => "integer overflow in " ++ operation.name
  | outOfRange value lower upper =>
      "input " ++ Integer.digits value ++ " is outside the requested range [" ++
        Integer.digits lower ++ ", " ++ Integer.digits upper ++ "]"
  | noInput reason => "no input available: " ++ reason
  | emptyRange lower upper =>
      "input range [" ++ Integer.digits lower ++ ", " ++ Integer.digits upper ++ "] is empty"

/-- Computations over a state, which is kept when they fail. -/
abbrev Eval (σ : Type) := ExceptT EvalError (StateM σ)

structure Semantics (σ ν : Type) where
  literal : Int64 → Eval σ ν
  combine : Operator → ν → ν → Eval σ ν
  negate : ν → Eval σ ν
  /-- A value from the first integer to the second. -/
  input : Int64 → Int64 → Eval σ ν

abbrev Env (ν : Type) := Frame String ν

namespace Semantics

variable {σ ν : Type}

/-- Combines a value with the operands to its right, which are evaluated one after another. -/
def continueWith (s : Semantics σ ν) : ν → List (Operator × Eval σ ν) → Eval σ ν
  | value, [] => pure value
  | value, (op, operand) :: pending => do
      let right ← operand
      let combined ← s.combine op value right
      s.continueWith combined pending

/-- An input whose range is empty is refused before it is asked for. -/
def request (s : Semantics σ ν) (lower upper : Int64) : Eval σ ν :=
  if upper < lower then throw (.emptyRange lower upper) else s.input lower upper

def resolve (env : Env ν) (name : String) : Eval σ ν :=
  match env.lookup name with
  | some value => pure value
  | none => throw (.unbound name)

/-- Evaluates the leftmost operand of a chain and goes on with the operands that are `pending` to
the right of it. Along the left side of a chain this is a loop. -/
def evaluateChain (s : Semantics σ ν) : Expr → Env ν → List (Operator × Eval σ ν) → Eval σ ν
  | .literal value, _, pending => do
      s.continueWith (← s.literal value) pending
  | .input lower upper, _, pending => do
      s.continueWith (← s.request lower upper) pending
  | .var name, env, pending => do
      s.continueWith (← resolve env name) pending
  | .negate operand, env, pending => do
      let value ← s.evaluateChain operand env []
      s.continueWith (← s.negate value) pending
  | .binary op left right, env, pending =>
      s.evaluateChain left env ((op, s.evaluateChain right env []) :: pending)
  | .letIn name bound body, env, pending => do
      let value ← s.evaluateChain bound env []
      s.evaluateChain body (env.bind name value) pending

def evaluate (s : Semantics σ ν) (e : Expr) (env : Env ν) : Eval σ ν :=
  s.evaluateChain e env []

def evaluateClosed (s : Semantics σ ν) (e : Expr) : Eval σ ν :=
  s.evaluate e .empty

end Semantics

def Eval.result {α : Type} (computation : Eval Unit α) : Except EvalError α :=
  (computation.run.run ()).1

end RangeCalc
