import RangeCalc.Parser.Chars
import RangeCalc.Token.Basic

/-! Cutting a source text into tokens. White space parts tokens and is dropped; a character that
begins no other token is a token by itself, for the grammar to refuse. -/

namespace RangeCalc.Token

open RangeCalc.Parser

/-- A token of the text that `p` takes, with the white space around it. -/
def spaced (p : Parser Char String) : Parser Char Token :=
  ((whitespace.keepRight (position.pair p)).keepLeft whitespace).map
    fun (offset, text) => ⟨text, offset⟩

def word : Parser Char String :=
  ((satisfy startsIdentifier fun c =>
      "invalid first character for an identifier '" ++ c.toString ++ "'").pair
    (satisfy continuesIdentifier fun c =>
      "invalid character for an identifier '" ++ c.toString ++ "'").many).map
    fun (first, others) => String.ofList (first :: others)

/-- A keyword is a whole word: `letter` does not begin with `let`. -/
def keyword (wanted : String) : Parser Char String :=
  word.filter (· == wanted)
    (fun got => "expected keyword '" ++ wanted ++ "', got '" ++ got ++ "'")

def numeral : Parser Char String :=
  digit.many1.map String.ofList

def lexer : Parser Char Token :=
  choice
    (keywords.map (fun wanted => spaced (keyword wanted)) ++
      punctuation.map (fun symbol => spaced (Parser.text symbol)) ++
      [spaced numeral, spaced word, spaced (any.map Char.toString)])

end RangeCalc.Token

namespace RangeCalc

def tokenize (source : String) : List Token :=
  match Token.lexer.many.run (Cursor.ofString source) with
  | .done tokens _ => tokens
  | _ => []

end RangeCalc
