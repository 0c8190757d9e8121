import RangeCalc.Parser.Choice
import RangeCalc.Parser.Element
import RangeCalc.Parser.Recursion
import RangeCalc.Text.CharClass

/-! Parsers of text. Their messages show a refused character as it is. -/

namespace RangeCalc.Parser

open RangeCalc.Text

def expected (what : String) (got : Char) : String :=
  "expected " ++ what ++ ", got '" ++ got.toString ++ "'"

def oneOf (chars : String) : Parser Char Char :=
  satisfy chars.toList.contains (expected ("one of [" ++ chars ++ "]"))

def noneOf (chars : String) : Parser Char Char :=
  satisfy (fun c => !chars.toList.contains c) (expected ("none of [" ++ chars ++ "]"))

def letter : Parser Char Char :=
  satisfy isAlphabetic (expected "letter")

def digit : Parser Char Char :=
  satisfy isDigit (expected "digit")

def char (c : Char) : Parser Char Char :=
  satisfy (· == c) (expected ("'" ++ c.toString ++ "'"))

def chars (wanted : List Char) : Parser Char Unit :=
  wanted.foldl (fun matched c => matched.keepLeft (char c)) (succeed ())

/-- Exactly the text `wanted`, failing from the starting position. -/
def text (wanted : String) : Parser Char String :=
  ((chars wanted.toList).map fun _ => wanted).rewind

def whitespace : Parser Char Unit :=
  (satisfy isWhitespace (expected "whitespace")).many.map fun _ => ()

end RangeCalc.Parser
