import RangeCalc.CommandLine.Run

/-! The program on the console of the system. A run on the lines read so far is a pure function; it
is made again with one more line whenever it ends for want of a line. -/

namespace RangeCalc.CommandLine

partial def readLine (stream : IO.FS.Stream) (read : List UInt8) : IO Line := do
  match (← stream.read 1).toList with
  | [] => pure read.reverse
  | byte :: _ =>
      if byte = Line.lineFeed then pure (byte :: read).reverse
      else readLine stream (byte :: read)

def emit (bytes : List UInt8) : IO Unit := do
  let stream ← IO.getStdout
  stream.write ⟨bytes.toArray⟩
  stream.flush

/-- Goes on with a run on the bytes read so far, of whose output the first `shown` bytes have been
printed. -/
partial def converse (options : Options) (source : String) (input : List UInt8) (shown : Nat) :
    IO UInt32 := do
  let (ending, console) := runOn options source (.ofInput input none)
  emit (console.output.drop shown)
  let line ←
    if ending.wantsLine then readLine (← IO.getStdin) []
    else pure []
  if line.isEmpty then
    emit (Text.encode ending.text)
    pure ending.exitCode.toUInt32
  else
    converse options source (input ++ line) console.written.length

def runFile (options : Options) : IO UInt32 := do
  match Text.decode? (← IO.FS.readBinFile options.target).toList with
  | some source => converse options source [] 0
  | none =>
      IO.eprintln ("unable to read source file " ++ options.target)
      pure 1

end RangeCalc.CommandLine

open RangeCalc CommandLine in
def main (arguments : List String) : IO UInt32 := do
  match read arguments with
  | .error e =>
      IO.eprintln ("error: " ++ e.message)
      pure 2
  | .ok .version =>
      emit (Text.encode versionText)
      pure 0
  | .ok .help =>
      emit (Text.encode helpText)
      pure 0
  | .ok (.run options) =>
      try
        runFile options
      catch e =>
        IO.eprintln ("unable to open source file " ++ options.target ++ ": " ++ toString e)
        pure 1
