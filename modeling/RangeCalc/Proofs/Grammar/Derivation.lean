import RangeCalc.Expr.Printer
import RangeCalc.Grammar.Range
import RangeCalc.Proofs.Token.Shapes

/-! The language of programs: which texts of tokens derive which expression. Parentheses,
negations and the two parts of a `let` stand one level deeper than what they stand in, and no
phrase stands deeper than a limit. -/

namespace RangeCalc.Grammar

def decimal (numeral : String) : Nat :=
  Nat.ofDigitChars 10 numeral.toList 0

/-- The integers that an end of a range can be, as they are written. -/
inductive Signed : List String → Int64 → Prop where
  | plain {text : String} {value : Int64} (hnumeral : Token.isNumeral text = true)
      (hvalue : value.toInt = decimal text) : Signed [text] value
  | minus {text : String} {value : Int64} (hnumeral : Token.isNumeral text = true)
      (hvalue : value.toInt = -decimal text) : Signed ["-", text] value

def Delimiter.opening : Delimiter → String
  | excluding => "("
  | including => "["

def Delimiter.closing : Delimiter → String
  | excluding => ")"
  | including => "]"

def Delimiter.Allows : Delimiter → Int64 → Int64 → Prop
  | excluding, lower, upper => lower < upper
  | including, lower, upper => lower ≤ upper

instance : (delimiter : Delimiter) → (lower upper : Int64) →
    Decidable (delimiter.Allows lower upper)
  | .excluding, lower, upper => inferInstanceAs (Decidable (lower < upper))
  | .including, lower, upper => inferInstanceAs (Decidable (lower ≤ upper))

namespace Range

inductive Written : List String → Range → Prop where
  | intro {lowerTexts upperTexts : List String} {lower upper : Int64}
      (lowerDelimiter upperDelimiter : Delimiter)
      (hlower : Signed lowerTexts lower) (hupper : Signed upperTexts upper) :
      Written
        (lowerDelimiter.opening ::
          (lowerTexts ++ "," :: (upperTexts ++ [upperDelimiter.closing])))
        ⟨lowerDelimiter, lower, upper, upperDelimiter⟩

def Admits (range : Range) (n : Int64) : Prop :=
  range.lowerDelimiter.Allows range.lower n ∧ range.upperDelimiter.Allows n range.upper

instance (range : Range) (n : Int64) : Decidable (range.Admits n) :=
  inferInstanceAs (Decidable (_ ∧ _))

/-- The integers that a range admits are those from `first` to `last`, and there are some. -/
structure Content (range : Range) (first last : Int64) : Prop where
  nonempty : first ≤ last
  admits_iff : ∀ n, range.Admits n ↔ first ≤ n ∧ n ≤ last

end Range

inductive Nonterminal where
  | expression
  | chain (op : Operator)
  /-- What may follow operands of a chain whose value is `left`. -/
  | further (op : Operator) (left : Expr)
  | atom

def operand : Operator → Nonterminal
  | .plus => .chain .times
  | .times => .atom

/-- The texts derive the expression at a depth, where phrases stand no deeper than `limit`. -/
inductive Derives (limit : Nat) : Nonterminal → Nat → List String → Expr → Prop where
  | binding {depth : Nat} {name : String} {boundTexts bodyTexts : List String} {bound body : Expr}
      (hdepth : depth < limit) (hname : Token.isIdentifier name = true)
      (hbound : Derives limit (.chain .plus) (depth + 1) boundTexts bound)
      (hbody : Derives limit .expression (depth + 1) bodyTexts body) :
      Derives limit .expression depth
        ("let" :: name :: "=" :: (boundTexts ++ "in" :: bodyTexts)) (.letIn name bound body)
  | sum {depth : Nat} {texts : List String} {e : Expr}
      (hsum : Derives limit (.chain .plus) depth texts e) :
      Derives limit .expression depth texts e
  | chain {op : Operator} {depth : Nat} {texts later : List String} {first e : Expr}
      (hfirst : Derives limit (operand op) depth texts first)
      (hlater : Derives limit (.further op first) depth later e) :
      Derives limit (.chain op) depth (texts ++ later) e
  | last {op : Operator} {depth : Nat} {left : Expr} :
      Derives limit (.further op left) depth [] left
  | further {op : Operator} {depth : Nat} {texts later : List String} {left right e : Expr}
      (hright : Derives limit (operand op) depth texts right)
      (hlater : Derives limit (.further op (.binary op left right)) depth later e) :
      Derives limit (.further op left) depth (op.symbol :: (texts ++ later)) e
  | parenthesized {depth : Nat} {texts : List String} {e : Expr} (hdepth : depth < limit)
      (hinside : Derives limit .expression (depth + 1) texts e) :
      Derives limit .atom depth ("(" :: (texts ++ [")"])) e
  | unbounded {depth : Nat} : Derives limit .atom depth ["?"] .unbounded
  | input {depth : Nat} {texts : List String} {range : Range} {lower upper : Int64}
      (hrange : Range.Written texts range) (hcontent : range.Content lower upper) :
      Derives limit .atom depth ("?" :: texts) (.input lower upper)
  | negation {depth : Nat} {texts : List String} {operand : Expr} (hdepth : depth < limit)
      (hoperand : Derives limit .atom (depth + 1) texts operand) :
      Derives limit .atom depth ("-" :: texts) (.negate operand)
  | literal {depth : Nat} {text : String} {value : Int64}
      (hnumeral : Token.isNumeral text = true) (hvalue : value.toInt = decimal text) :
      Derives limit .atom depth [text] (.literal value)
  | var {depth : Nat} {name : String} (hname : Token.isIdentifier name = true) :
      Derives limit .atom depth [name] (.var name)

namespace Derives

variable {limit depth : Nat} {texts later : List String} {op : Operator} {e left right : Expr}

theorem mono {limit' : Nat} {nonterminal : Nonterminal} (hlimit : limit ≤ limit')
    (h : Derives limit nonterminal depth texts e) : Derives limit' nonterminal depth texts e := by
  induction h with
  | binding hdepth hname _ _ ihBound ihBody =>
      exact .binding (Nat.lt_of_lt_of_le hdepth hlimit) hname ihBound ihBody
  | sum _ ih => exact .sum ih
  | chain _ _ ihFirst ihLater => exact .chain ihFirst ihLater
  | last => exact .last
  | further _ _ ihRight ihLater => exact .further ihRight ihLater
  | parenthesized hdepth _ ih => exact .parenthesized (Nat.lt_of_lt_of_le hdepth hlimit) ih
  | unbounded => exact .unbounded
  | input hrange hcontent => exact .input hrange hcontent
  | negation hdepth _ ih => exact .negation (Nat.lt_of_lt_of_le hdepth hlimit) ih
  | literal hnumeral hvalue => exact .literal hnumeral hvalue
  | var hname => exact .var hname

theorem chain_of_operand (h : Derives limit (operand op) depth texts e) :
    Derives limit (.chain op) depth texts e := by
  simpa using Derives.chain h .last

theorem further_append (h : Derives limit (.further op left) depth texts e)
    (hright : Derives limit (operand op) depth later right) :
    Derives limit (.further op left) depth (texts ++ op.symbol :: later) (.binary op e right) := by
  generalize hnonterminal : Nonterminal.further op left = nonterminal at h
  induction h generalizing left with
  | last =>
      cases hnonterminal
      simpa using Derives.further hright .last
  | further hfirst _ _ ihLater =>
      cases hnonterminal
      have hextended := ihLater hright rfl
      simpa using Derives.further hfirst hextended
  | _ => cases hnonterminal

theorem chain_append (h : Derives limit (.chain op) depth texts left)
    (hright : Derives limit (operand op) depth later right) :
    Derives limit (.chain op) depth (texts ++ op.symbol :: later) (.binary op left right) := by
  cases h with
  | chain hfirst hlater => simpa using Derives.chain hfirst (hlater.further_append hright)

end Derives

end RangeCalc.Grammar
