import RangeCalc.Text.GraphemeExtend
import RangeCalc.Text.Unprintable

/-! The quoted form in which messages show an element of an input: a number in decimal, a
character between apostrophes with escapes for what would not be visible. -/

namespace RangeCalc.Text

/-- Characters that would combine with the apostrophe before them. The two halfwidth sound marks of
katakana extend what they follow but take a place of their own. -/
def combines (point : Nat) : Bool :=
  graphemeExtend.contains point && !(point == 0xFF9E || point == 0xFF9F)

/-- The Hangul fillers, which are letters but show nothing. All else that Unicode lets a reader
ignore is combining or unprintable. -/
def isFiller (point : Nat) : Bool :=
  point == 0x115F || point == 0x1160 || point == 0x3164 || point == 0xFFA0

def isHidden (c : Char) : Bool :=
  let point := c.toNat
  if point < 0x80 then
    point < 0x20 || point == 0x7F
  else
    combines point || isFiller point || unprintable.contains point

def hexadecimal (n : Nat) : String :=
  String.ofList (Nat.toDigits 16 n)

def escape (c : Char) : String :=
  match c with
  | '\x00' => "\\0"
  | '\t' => "\\t"
  | '\r' => "\\r"
  | '\n' => "\\n"
  | '\\' => "\\\\"
  | '\'' => "\\'"
  | _ => if isHidden c then "\\u\x7b" ++ hexadecimal c.toNat ++ "\x7d" else c.toString

end RangeCalc.Text

namespace RangeCalc

class Quoted (σ : Type) where
  quote : σ → String

export Quoted (quote)

instance : Quoted Char where
  quote c := "'" ++ Text.escape c ++ "'"

instance : Quoted Int64 where
  quote n := toString n.toInt

def quoteList [Quoted σ] (items : List σ) : String :=
  "[" ++ String.intercalate ", " (items.map quote) ++ "]"

end RangeCalc
