import RangeCalc.Grammar.Rules
import RangeCalc.Token.Lexer

/-! Reading programs. -/

namespace RangeCalc

/-- Why and where a source text is not a program. Lines and columns count from 1. -/
structure SyntaxError where
  message : String
  offset : Nat
  line : Nat
  column : Nat
deriving DecidableEq

namespace SyntaxError

def coordinates (before : List Char) : Nat × Nat :=
  before.foldl
    (fun (line, column) c => if c = '\n' then (line + 1, 1) else (line, column + 1)) (1, 1)

def located (source message : String) (offset : Nat) : SyntaxError :=
  let (line, column) := coordinates (source.toList.take offset)
  ⟨message, offset, line, column⟩

def describe (error : SyntaxError) : String :=
  toString error.line ++ ":" ++ toString error.column ++ ": " ++ error.message

end SyntaxError

namespace Program

/-- Where in `source` the token at the cursor starts. Behind the last token it is the end. -/
def offsetAt (source : String) (cursor : Cursor Token) : Nat :=
  match cursor.peek with
  | some token => token.offset
  | none => source.length

/-- Reads a whole program. Every rule of the grammar consumes a token or fails, so the last case
does not arise. -/
def parse (source : String) : Except SyntaxError Expr :=
  match Grammar.program.run (Cursor.ofList (tokenize source)) with
  | .done e _ => .ok e
  | .failed message rest => .error (.located source message (offsetAt source rest))
  | .diverges => .error (.located source "" 0)

end Program

end RangeCalc
