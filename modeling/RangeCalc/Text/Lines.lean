/-! Texts as bytes, and as lines. A line feed ends a line, and a carriage return before it goes with
it. -/

namespace RangeCalc.Text

def encode (text : String) : List UInt8 :=
  text.toUTF8.data.toList

def decode? (bytes : List UInt8) : Option String :=
  String.fromUTF8? ⟨bytes.toArray⟩

@[simp] theorem encode_empty : encode "" = [] := rfl

@[simp] theorem encode_append (text later : String) :
    encode (text ++ later) = encode text ++ encode later := by
  simp [encode]

theorem decode?_encode (text : String) : decode? (encode text) = some text := by
  simp only [decode?, encode, String.fromUTF8?, Array.toArray_toList]
  exact dif_pos text.isValidUTF8

def lines : List Char → List (List Char)
  | [] => []
  | '\n' :: later => [] :: lines later
  | '\r' :: '\n' :: later => [] :: lines later
  | c :: later =>
      match lines later with
      | [] => [[c]]
      | line :: others => (c :: line) :: others

/-- Puts a tab in front of every line. -/
def indent (text : String) : String :=
  String.intercalate "\n" ((lines text.toList).map fun line => "\t" ++ String.ofList line)

example : indent "first\r\n\nlast\n" = "\tfirst\n\t\n\tlast" := by decide +kernel

end RangeCalc.Text
