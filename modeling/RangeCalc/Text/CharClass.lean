import RangeCalc.Text.Alphabetic
import RangeCalc.Text.Numeric

/-! The classes of characters that lexical rules are made of. All but the digits are the full
Unicode classes. -/

namespace RangeCalc.Text

/-- The property White_Space, which 25 code points have. -/
def isWhitespace (c : Char) : Bool :=
  let point := c.toNat
  if point < 0x80 then
    point == 0x20 || (0x9 ≤ point && point ≤ 0xD)
  else
    point == 0x85 || point == 0xA0 || point == 0x1680 ||
      (0x2000 ≤ point && point ≤ 0x200A) ||
      point == 0x2028 || point == 0x2029 || point == 0x202F || point == 0x205F ||
      point == 0x3000

def isDigit (c : Char) : Bool :=
  '0' ≤ c && c ≤ '9'

def isAsciiLetter (c : Char) : Bool :=
  ('a' ≤ c && c ≤ 'z') || ('A' ≤ c && c ≤ 'Z')

def isAlphabetic (c : Char) : Bool :=
  if c.toNat < 0x80 then isAsciiLetter c else alphabetic.contains c.toNat

def isNumeric (c : Char) : Bool :=
  if c.toNat < 0x80 then isDigit c else numeric.contains c.toNat

def isAlphanumeric (c : Char) : Bool :=
  isAlphabetic c || isNumeric c

def trim (chars : List Char) : List Char :=
  ((chars.dropWhile isWhitespace).reverse.dropWhile isWhitespace).reverse

end RangeCalc.Text
