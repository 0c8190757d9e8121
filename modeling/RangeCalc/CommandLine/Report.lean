import RangeCalc.Evaluation.Meanings
import RangeCalc.Expr.Printer
import RangeCalc.Input.Console
import RangeCalc.Program
import RangeCalc.Text.Lines

/-! What the program does with a source text: it prints the expression without its `let`s, the
value that it has on the inputs of a console, and the range of the values that it could have. -/

namespace RangeCalc.CommandLine

/-- What is wanted: the source text to run, whether its range is to be printed too, and whether no
more than its inlined form is. -/
structure Options where
  target : String
  analyze : Bool
  parseOnly : Bool
deriving DecidableEq

inductive Ending where
  | printed (lines : List String)
  | invalid (error : SyntaxError)
  | stuck (error : EvalError)

namespace Ending

def exitCode : Ending → Nat
  | printed _ => 0
  | invalid _ => 1
  | stuck _ => 1

def lines : Ending → List String
  | printed lines => lines
  | invalid error => ["Invalid ApoML program:", Text.indent error.describe]
  | stuck error => ["Evaluation failed:", Text.indent error.message]

def text (ending : Ending) : String :=
  String.join (ending.lines.map (· ++ "\n"))

def wantsLine : Ending → Bool
  | stuck error => error = .noInput Console.inputEnded
  | _ => false

end Ending

def rule : String :=
  String.ofList (List.replicate 80 '-')

def rangeLine (range : Interval) : String :=
  "range: " ++ range.write

def analysis (options : Options) (e : Expr) : Except EvalError (List String) :=
  if options.analyze then e.range.map fun range => [rangeLine range] else .ok []

/-- Runs an expression on a console. Nothing is asked for before the expression is known to have
an inlined form and, if it is wanted, a range. -/
def evaluateOn (options : Options) (e : Expr) (console : Console) : Ending × Console :=
  match e.inline, analysis options e with
  | .error error, _ => (.stuck error, console)
  | .ok _, .error error => (.stuck error, console)
  | .ok inlined, .ok range =>
      if options.parseOnly then (.printed (inlined.write :: range), console)
      else
        match (Semantics.concrete .prompting).evaluateClosed e console with
        | (.error error, console) => (.stuck error, console)
        | (.ok value, console) =>
            (.printed (rule :: (inlined.write ++ " = " ++ Integer.digits value) :: range), console)

def runOn (options : Options) (source : String) (console : Console) : Ending × Console :=
  match Program.parse source with
  | .error error => (.invalid error, console)
  | .ok e => evaluateOn options e console

/-- All that a run shows: its exit code and the bytes that it writes. -/
structure Report where
  exitCode : Nat
  output : List UInt8
deriving DecidableEq

def report (ending : Ending) (console : Console) : Report :=
  ⟨ending.exitCode, console.output ++ Text.encode ending.text⟩

/-- The program as a function of its options, the files that there are and the bytes of its standard
input. -/
def perform (options : Options) (readFile : String → Option (List UInt8)) (input : List UInt8) :
    Report :=
  match (readFile options.target).bind Text.decode? with
  | none => ⟨1, []⟩
  | some source =>
      let (ending, console) := runOn options source (.ofInput input none)
      report ending console

end RangeCalc.CommandLine
