import RangeCalc.Integer

/-! Ranges as they are written, where a parenthesis excludes the end it stands at and a bracket
includes it, and the conditions on a program that go beyond the order of its tokens. -/

namespace RangeCalc.Grammar

/-- How deeply parentheses, negations and `let`s may nest. -/
def maxNesting : Nat := 100

inductive Violation where
  | literalTooLarge (numeral : String)
  | emptyRange (lower upper : Int64)
  /-- An excluded end of a range has no integer beyond it. -/
  | unboundedRange (lower upper : Int64)
  | nestedTooDeeply
deriving DecidableEq

def Violation.message : Violation → String
  | literalTooLarge numeral => "integer literal " ++ numeral ++ " does not fit in 64 bits"
  | emptyRange lower upper =>
      "empty input range: no integer lies between " ++ Integer.digits lower ++ " and " ++
        Integer.digits upper
  | unboundedRange lower upper =>
      "empty input range: open bounds " ++ Integer.digits lower ++ " and " ++
        Integer.digits upper ++ " leave the 64-bit range"
  | nestedTooDeeply =>
      "expression nested too deeply (more than " ++ toString maxNesting ++ " levels)"

inductive Delimiter where
  | excluding
  | including
deriving DecidableEq

structure Range where
  lowerDelimiter : Delimiter
  lower : Int64
  upper : Int64
  upperDelimiter : Delimiter
deriving DecidableEq

namespace Range

def first? (range : Range) : Option Int64 :=
  match range.lowerDelimiter with
  | .including => some range.lower
  | .excluding => Integer.fit? (range.lower.toInt + 1)

def last? (range : Range) : Option Int64 :=
  match range.upperDelimiter with
  | .including => some range.upper
  | .excluding => Integer.fit? (range.upper.toInt - 1)

/-- The least and the greatest integer of a range that has any. -/
def bounds (range : Range) : Except Violation (Int64 × Int64) :=
  match range.first?, range.last? with
  | some first, some last =>
      if first ≤ last then .ok (first, last)
      else .error (.emptyRange range.lower range.upper)
  | _, _ => .error (.unboundedRange range.lower range.upper)

end Range

end RangeCalc.Grammar
