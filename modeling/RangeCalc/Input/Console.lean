import RangeCalc.Input.Provider
import RangeCalc.Text.CharClass
import RangeCalc.Text.Lines

/-! Inputs from a dialogue: a prompt is written, a line is read, and what is not a number in the
range is refused with another prompt. -/

namespace RangeCalc

/-- The bytes of a line, with the line feed that ends it. -/
abbrev Line := List UInt8

namespace Line

def lineFeed : UInt8 := 10

def split : List UInt8 → List Line
  | [] => []
  | byte :: later =>
      if byte = lineFeed then [byte] :: split later
      else
        match split later with
        | [] => [[byte]]
        | line :: lines => (byte :: line) :: lines

end Line

/-- Lines to be read, and bytes that were written, the latest first. -/
structure Console where
  lines : List Line
  written : List UInt8
  /-- How many bytes more can be written, where there is a limit. -/
  room : Option Nat
deriving DecidableEq

namespace Console

def ofInput (bytes : List UInt8) (room : Option Nat) : Console :=
  ⟨Line.split bytes, [], room⟩

def output (console : Console) : List UInt8 :=
  console.written.reverse

/-- Appends `bytes`, or as many of them as there is room for. -/
def append (console : Console) (bytes : List UInt8) : Console :=
  match console.room with
  | none => { console with written := bytes.reverse ++ console.written }
  | some room =>
      { console with
        written := (bytes.take room).reverse ++ console.written
        room := some (room - bytes.length) }

def hasRoom (console : Console) (bytes : List UInt8) : Bool :=
  match console.room with
  | none => true
  | some room => bytes.length ≤ room

def write (text : String) : Eval Console Unit := do
  let console ← get
  set (console.append (Text.encode text))
  if console.hasRoom (Text.encode text) then pure () else throw (.noInput "writer full")

def dropLine : Eval Console Unit :=
  modify fun console => { console with lines := console.lines.tail }

def between (lower upper : Int64) : String :=
  "a number between " ++ Integer.digits lower ++ " and " ++ Integer.digits upper

def prompt (lower upper : Int64) : String :=
  "> Enter " ++ between lower upper ++ "\n< "

def refusal (answer : List Char) (lower upper : Int64) : String :=
  "'" ++ String.ofList answer ++ "' is not " ++ between lower upper ++ "\n"

def accept? (lower upper : Int64) (answer : List Char) : Option Int64 :=
  (Integer.read? answer).filter fun value => lower ≤ value && value ≤ upper

def inputEnded : String := "input ended"

/-- Asks until one of the lines, which are those of the console, is a number in the range. -/
def ask (lower upper : Int64) : List Line → Eval Console Int64
  | [] => do
      write (prompt lower upper)
      throw (.noInput inputEnded)
  | line :: later => do
      write (prompt lower upper)
      dropLine
      match Text.decode? line with
      | none => throw (.noInput "stream did not contain valid UTF-8")
      | some text =>
          let answer := Text.trim text.toList
          match accept? lower upper answer with
          | some value => pure value
          | none =>
              write (refusal answer lower upper)
              ask lower upper later

end Console

def Provider.prompting : Provider Console := fun lower upper => do
  if upper < lower then throw (.emptyRange lower upper)
  Console.ask lower upper (← get).lines

end RangeCalc
