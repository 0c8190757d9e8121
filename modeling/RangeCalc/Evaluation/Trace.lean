import RangeCalc.Evaluation.Basic

/-! A record of the operations that an evaluation asks for. The result of operation number `n` is
the name `%n`, by which later operations refer to it. -/

namespace RangeCalc

/-- The operations so far, the latest first. -/
structure Trace where
  calls : List String
deriving DecidableEq

namespace Trace

def empty : Trace :=
  ⟨[]⟩

def log (trace : Trace) : List String :=
  trace.calls.reverse

/-- Notes an operation. The one numbered `stopAt` fails. -/
def call (stopAt : Option Nat) (operation : String) : Eval Trace String := do
  let calls := operation :: (← get).calls
  set (Trace.mk calls)
  let number := calls.length
  if stopAt = some number then throw (.noInput ("trace stopped at " ++ toString number))
  else pure ("%" ++ toString number)

def operation : Operator → String
  | .plus => "add"
  | .times => "multiply"

end Trace

def Semantics.traced (stopAt : Option Nat) : Semantics Trace String where
  literal value := Trace.call stopAt ("literal " ++ Integer.digits value)
  combine op left right := Trace.call stopAt (Trace.operation op ++ " " ++ left ++ " " ++ right)
  negate operand := Trace.call stopAt ("negate " ++ operand)
  input lower upper :=
    Trace.call stopAt ("input " ++ Integer.digits lower ++ " " ++ Integer.digits upper)

end RangeCalc
