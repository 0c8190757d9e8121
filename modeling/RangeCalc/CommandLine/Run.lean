import RangeCalc.CommandLine.Report

/-! The outer layer: options are read from the arguments as option parsers do it, and the texts that
such a parser prints of itself are its own. -/

namespace RangeCalc.CommandLine

inductive Request where
  | run (options : Options)
  | version
  | help
deriving DecidableEq

inductive UsageError where
  | unknownOption (argument : String)
  | unexpectedArgument (argument : String)
  | unexpectedValue (argument : String)
  | missingValue
  | missingTarget
  | repeatedOption
deriving DecidableEq

def UsageError.message : UsageError → String
  | unknownOption argument => "unknown option '" ++ argument ++ "'"
  | unexpectedArgument argument => "unexpected argument '" ++ argument ++ "'"
  | unexpectedValue argument => "'" ++ argument ++ "' gives a value to an option that takes none"
  | missingValue => "option '--target' needs a value"
  | missingTarget => "option '--target' is required"
  | repeatedOption => "an option is given more than once"

/-- The options read so far. What is wrong with them as a whole shows only at the end. -/
structure Tally where
  targets : List String
  /-- A target was announced, but no value followed. -/
  targetMissing : Bool
  analyze : Nat
  parseOnly : Nat

namespace Tally

def empty : Tally :=
  ⟨[], false, 0, 0⟩

def addTarget (tally : Tally) (path : String) : Tally :=
  { tally with targets := path :: tally.targets }

def addAnalyze (tally : Tally) : Tally :=
  { tally with analyze := tally.analyze + 1 }

def addParseOnly (tally : Tally) : Tally :=
  { tally with parseOnly := tally.parseOnly + 1 }

def finish (tally : Tally) : Except UsageError Request :=
  if tally.targetMissing then .error .missingValue
  else if tally.analyze > 1 ∨ tally.parseOnly > 1 then .error .repeatedOption
  else
    match tally.targets with
    | [] => .error .missingTarget
    | [path] => .ok (.run ⟨path, tally.analyze > 0, tally.parseOnly > 0⟩)
    | _ => .error .repeatedOption

end Tally

inductive Reading where
  | options (tally : Tally)
  /-- The next argument is the path, if it is not an option. -/
  | awaitsTarget (tally : Tally)
  | answer (request : Request)

/-- The short options in `letters`, of which all but the last take no value. -/
def readShort (argument : String) : Tally → List Char → Except UsageError Reading
  | tally, [] => .ok (.options tally)
  | tally, 'a' :: letters => readShort argument tally.addAnalyze letters
  | tally, 'p' :: letters => readShort argument tally.addParseOnly letters
  | _, 'V' :: _ => .ok (.answer .version)
  | _, 'h' :: _ => .ok (.answer .help)
  | tally, ['t'] => .ok (.awaitsTarget tally)
  | tally, 't' :: '=' :: path => .ok (.options (tally.addTarget (String.ofList path)))
  | tally, 't' :: path => .ok (.options (tally.addTarget (String.ofList path)))
  | _, _ :: _ => .error (.unknownOption argument)

def splitValue (chars : List Char) : String × Option String :=
  (String.ofList (chars.takeWhile (· ≠ '=')),
    match chars.dropWhile (· ≠ '=') with
    | [] => none
    | _ :: value => some (String.ofList value))

def readLong (argument : String) (tally : Tally) (chars : List Char) :
    Except UsageError Reading :=
  match splitValue chars with
  | ("target", none) => .ok (.awaitsTarget tally)
  | ("target", some path) => .ok (.options (tally.addTarget path))
  | ("analyze", none) => .ok (.options tally.addAnalyze)
  | ("parse-only", none) => .ok (.options tally.addParseOnly)
  | ("version", none) => .ok (.answer .version)
  | ("help", none) => .ok (.answer .help)
  | ("analyze", some _) => .error (.unexpectedValue argument)
  | ("parse-only", some _) => .error (.unexpectedValue argument)
  | ("version", some _) => .error (.unexpectedValue argument)
  | ("help", some _) => .error (.unexpectedValue argument)
  | _ => .error (.unknownOption argument)

def readArgument (tally : Tally) (argument : String) : Except UsageError Reading :=
  match argument.toList with
  | '-' :: '-' :: chars => readLong argument tally chars
  | '-' :: letter :: letters => readShort argument tally (letter :: letters)
  | _ => .error (.unexpectedArgument argument)

def isOption (argument : String) : Bool :=
  match argument.toList with
  | '-' :: _ :: _ => true
  | _ => false

/-- Reads the arguments in order. Two hyphens end the options, and nothing may follow them. -/
def readAll : Tally → List String → Except UsageError Request
  | tally, [] => tally.finish
  | tally, "--" :: later =>
      match later with
      | [] => tally.finish
      | extra :: _ => .error (.unexpectedArgument extra)
  | tally, argument :: later =>
      match readArgument tally argument with
      | .error e => .error e
      | .ok (.options tally) => readAll tally later
      | .ok (.answer request) => .ok request
      | .ok (.awaitsTarget tally) =>
          match later with
          | [] => { tally with targetMissing := true }.finish
          | path :: others =>
              if isOption path then readAll { tally with targetMissing := true } (path :: others)
              else readAll (tally.addTarget path) others

def read (arguments : List String) : Except UsageError Request :=
  readAll .empty arguments

def versionText : String := "apoml 0.1.0\n"

def helpText : String :=
  "Usage: apoml [OPTIONS] --target <TARGET>\n\n" ++
  "  -a, --analyze          Also print the range of values the program can produce\n" ++
  "  -h, --help             Print this text\n" ++
  "  -p, --parse-only       Print the program with its lets inlined, without running it\n" ++
  "  -t, --target <TARGET>  The program to run\n" ++
  "  -V, --version          Print the version\n"

/-- The program as a function of its arguments. -/
def respond (arguments : List String) (readFile : String → Option (List UInt8))
    (input : List UInt8) : Report :=
  match read arguments with
  | .error _ => ⟨2, []⟩
  | .ok .version => ⟨0, Text.encode versionText⟩
  | .ok .help => ⟨0, Text.encode helpText⟩
  | .ok (.run options) => perform options readFile input

end RangeCalc.CommandLine
