import RangeCalc.Expr.Printer
import RangeCalc.Grammar.Range
import RangeCalc.Parser.Choice
import RangeCalc.Parser.Element
import RangeCalc.Parser.Recursion
import RangeCalc.Token.Basic

/-! The rules of the grammar, as parsers of tokens. Those that need an expression inside them take
its rule from the level below, and there are `maxNesting` levels. -/

namespace RangeCalc.Grammar

open RangeCalc.Parser

abbrev Rule (α : Type) := Parser Token α

def describeNext (cursor : Cursor Token) : String :=
  match cursor.peek with
  | some token => "'" ++ token.text ++ "'"
  | none => "end of input"

def expecting (what : String) (cursor : Cursor Token) : String :=
  "expected " ++ what ++ ", got " ++ describeNext cursor

def tokenWhere (accepts : String → Bool) (what : String) : Rule Token :=
  (satisfy (fun token => accepts token.text) (fun _ => "")).label (expecting what)

def keyword (text : String) : Rule Token :=
  tokenWhere (· == text) ("'" ++ text ++ "'")

def identifier : Rule String :=
  (tokenWhere Token.isIdentifier "identifier").map Token.text

def numeral : Rule String :=
  (tokenWhere Token.isNumeral "integer").map Token.text

def reject {α : Type} (violation : Violation) : Rule α :=
  fail violation.message

def valueOf (numeral : String) : Rule Int64 :=
  match Integer.read? numeral.toList with
  | some value => succeed value
  | none => reject (.literalTooLarge numeral)

def natural : Rule Int64 :=
  numeral.bind valueOf

/-- A numeral behind an optional minus sign is read as a whole, so that the least integer can be
written. -/
def signed : Rule Int64 :=
  ((keyword "-").optional.pair numeral).bind fun (minus, digits) =>
    valueOf (if minus.isSome then "-" ++ digits else digits)

def lowerDelimiter : Rule Delimiter :=
  choice
    [(keyword "(").map fun _ => .excluding,
      (keyword "[").map fun _ => .including]

def upperDelimiter : Rule Delimiter :=
  choice
    [(keyword ")").map fun _ => .excluding,
      (keyword "]").map fun _ => .including]

def range : Rule Range :=
  (((lowerDelimiter.pair signed).keepLeft (keyword ",")).pair signed |>.pair upperDelimiter).map
    fun (((lowerDelimiter, lower), upper), upperDelimiter) =>
      ⟨lowerDelimiter, lower, upper, upperDelimiter⟩

def inputOf : Option Range → Rule Expr
  | none => succeed .unbounded
  | some range =>
      match range.bounds with
      | .ok (lower, upper) => succeed (.input lower upper)
      | .error violation => reject violation

def input : Rule Expr :=
  ((keyword "?").keepRight range.optional).bind inputOf

/-- `operand (op operand)*`, grouped to the left. -/
def chain (op : Operator) (operand : Rule Expr) : Rule Expr :=
  (operand.pair ((keyword op.symbol).keepRight operand).many).map
    fun (first, others) => others.foldl (Expr.binary op) first

def parenthesized (expression : Rule Expr) : Rule Expr :=
  ((keyword "(").keepRight expression).keepLeft (keyword ")")

def negation (operand : Rule Expr) : Rule Expr :=
  ((keyword "-").keepRight operand).map .negate

def binding (bound body : Rule Expr) : Rule Expr :=
  (((((keyword "let").keepRight identifier).keepLeft (keyword "=")).pair bound).keepLeft
      (keyword "in") |>.pair body).map
    fun ((name, bound), body) => .letIn name bound body

structure Level where
  expression : Rule Expr
  sum : Rule Expr
  atom : Rule Expr

namespace Level

def forbidden : Level where
  expression := reject .nestedTooDeeply
  sum := reject .nestedTooDeeply
  atom := reject .nestedTooDeeply

def atomOver (inner : Unit → Level) : Rule Expr :=
  (choice
    [parenthesized (defer fun _ => (inner ()).expression),
      input,
      negation (defer fun _ => (inner ()).atom),
      natural.map .literal,
      identifier.map .var]).label (expecting "an expression")

def sumOver (inner : Unit → Level) : Rule Expr :=
  chain .plus (chain .times (atomOver inner))

def bindingOver (inner : Unit → Level) : Rule Expr :=
  binding (defer fun _ => (inner ()).sum) (defer fun _ => (inner ()).expression)

def around (inner : Unit → Level) : Level where
  expression := (choice [bindingOver inner, sumOver inner]).label (expecting "an expression")
  sum := sumOver inner
  atom := atomOver inner

def allowing : Nat → Level
  | 0 => around fun _ => forbidden
  | depth + 1 => around fun _ => allowing depth

end Level

def expression : Rule Expr :=
  (Level.allowing maxNesting).expression

def program : Rule Expr :=
  expression.keepLeft (endOfInput.label (expecting "an operator or end of input"))

end RangeCalc.Grammar
