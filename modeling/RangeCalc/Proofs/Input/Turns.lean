import RangeCalc.Proofs.Input.Dialogue
import RangeCalc.Proofs.Text.FullLines

/-! Requests to a dialogue, one after another. Each takes its turn behind the lines that were read
before it and reads up to the first line that is an answer; what it refuses on the way it says. -/

namespace RangeCalc

open RangeCalc.Text

namespace Integer

/-- Decimal digits, with a sign in front or without, and the integer that they write. -/
inductive Numeral : List Char → Int → Prop where
  | unsigned {digits : List Char} (hsome : digits ≠ []) (hdigits : ∀ c ∈ digits, isDigit c = true) :
      Numeral digits (Nat.ofDigitChars 10 digits 0)
  | plus {digits : List Char} (hsome : digits ≠ []) (hdigits : ∀ c ∈ digits, isDigit c = true) :
      Numeral ('+' :: digits) (Nat.ofDigitChars 10 digits 0)
  | minus {digits : List Char} (hsome : digits ≠ []) (hdigits : ∀ c ∈ digits, isDigit c = true) :
      Numeral ('-' :: digits) (-(Nat.ofDigitChars 10 digits 0 : Int))

end Integer

/-- The line, without the white space around it, is a numeral of the value, and that lies in the
range. -/
def IsAnswer (lower upper : Int64) (line : List Char) (value : Int64) : Prop :=
  Integer.Numeral (trim line) value.toInt ∧ lower ≤ value ∧ value ≤ upper

/-- A request in a dialogue and the lines that were read for it. -/
inductive Turn where
  | accepted (lower upper : Int64) (refused : List (List Char)) (line : List Char) (value : Int64)
  /-- None of the lines that were left was an answer. -/
  | ended (lower upper : Int64) (refused : List (List Char))
  /-- There is no integer in the range. -/
  | pointless (lower upper : Int64)

namespace Turn

def range : Turn → Int64 × Int64
  | accepted lower upper _ _ _ => (lower, upper)
  | ended lower upper _ => (lower, upper)
  | pointless lower upper => (lower, upper)

def result : Turn → Except EvalError Int64
  | accepted _ _ _ _ value => .ok value
  | ended _ _ _ => .error (.noInput "input ended")
  | pointless lower upper => .error (.emptyRange lower upper)

def lines : Turn → List (List Char)
  | accepted _ _ refused line _ => refused ++ [line]
  | ended _ _ refused => refused
  | pointless _ _ => []

/-- Prompts that were followed by a refusal. -/
def refusals (lower upper : Int64) (refused : List (List Char)) : List Exchange :=
  refused.map fun line => ⟨lower, upper, some (trim line)⟩

/-- The last prompt is followed by an answer or by the end of the input. -/
def exchanges : Turn → List Exchange
  | accepted lower upper refused _ _ => refusals lower upper refused ++ [⟨lower, upper, none⟩]
  | ended lower upper refused => refusals lower upper refused ++ [⟨lower, upper, none⟩]
  | pointless _ _ => []

/-- The turn that a request takes where the lines in front are ahead. Those behind are left. -/
inductive Reads : List (List Char) → Turn → List (List Char) → Prop where
  | accepted {lower upper : Int64} {refused left : List (List Char)} {line : List Char}
      {value : Int64} (hordered : lower ≤ upper)
      (hrefused : ∀ other ∈ refused, ¬ ∃ value, IsAnswer lower upper other value)
      (hanswer : IsAnswer lower upper line value) :
      Reads (refused ++ line :: left) (.accepted lower upper refused line value) left
  | ended {lower upper : Int64} {refused : List (List Char)} (hordered : lower ≤ upper)
      (hrefused : ∀ other ∈ refused, ¬ ∃ value, IsAnswer lower upper other value) :
      Reads refused (.ended lower upper refused) []
  | pointless {lower upper : Int64} {left : List (List Char)} (hempty : upper < lower) :
      Reads left (.pointless lower upper) left

end Turn

namespace Provider

variable {σ : Type}

/-- The results of requests that are made one after another, whatever comes of those before. -/
def session (provider : Provider σ) : List (Int64 × Int64) → σ → List (Except EvalError Int64) × σ
  | [], state => ([], state)
  | (lower, upper) :: requests, state =>
      let (result, middle) := (provider lower upper).run.run state
      let (results, final) := provider.session requests middle
      (result :: results, final)

end Provider

namespace Console

variable {lower upper : Int64} {line : List Char} {lines : List Line} {written : List UInt8}

/-- The last request finds no line, for the 7 was read before. -/
example : (Provider.prompting.session [(0, 5), (9, 0), (0, 9), (0, 9)]
    (.ofInput (encode "x\n3\n 7 ") none)).1 =
      [.ok 3, .error (.emptyRange 9 0), .ok 7, .error (.noInput "input ended")] := by
  rfl

end Console

end RangeCalc
