import RangeCalc.Text.CharClass

/-! Tokens of a source text, and the shapes that they take. -/

namespace RangeCalc

structure Token where
  text : String
  /-- The number of characters before the token in its source. -/
  offset : Nat
deriving DecidableEq

namespace Token

open RangeCalc.Text

def keywords : List String :=
  ["let", "in"]

def punctuation : List String :=
  [",", "?", "(", ")", "[", "]", "*", "+", "-", "="]

def startsIdentifier (c : Char) : Bool :=
  isAlphabetic c || c == '_'

def continuesIdentifier (c : Char) : Bool :=
  isAlphanumeric c || c == '_' || c == '\''

def isNumeral (text : String) : Bool :=
  !text.isEmpty && text.toList.all isDigit

def isIdentifier (text : String) : Bool :=
  match text.toList with
  | [] => false
  | first :: others =>
      startsIdentifier first && others.all continuesIdentifier && !keywords.contains text

end Token

end RangeCalc
