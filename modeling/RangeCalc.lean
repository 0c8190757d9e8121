import RangeCalc.Evaluation.Trace
import RangeCalc.Main
import RangeCalc.Proofs.CommandLine.Courses
import RangeCalc.Proofs.CommandLine.Perform
import RangeCalc.Proofs.Evaluation.Agreement
import RangeCalc.Proofs.Evaluation.Answers
import RangeCalc.Proofs.Evaluation.Attainment
import RangeCalc.Proofs.Evaluation.Calls
import RangeCalc.Proofs.Evaluation.Correspondence
import RangeCalc.Proofs.Evaluation.Definedness
import RangeCalc.Proofs.Evaluation.Equations
import RangeCalc.Proofs.Evaluation.Exactness
import RangeCalc.Proofs.Evaluation.Faults
import RangeCalc.Proofs.Evaluation.Monotonicity
import RangeCalc.Proofs.Evaluation.Preservation
import RangeCalc.Proofs.Evaluation.Ranges
import RangeCalc.Proofs.Evaluation.Recursion
import RangeCalc.Proofs.Evaluation.Replay
import RangeCalc.Proofs.Evaluation.Requests
import RangeCalc.Proofs.Evaluation.Scope
import RangeCalc.Proofs.Evaluation.Simulation
import RangeCalc.Proofs.Evaluation.Substitution
import RangeCalc.Proofs.Evaluation.Unshared
import RangeCalc.Proofs.Evaluation.Visibility
import RangeCalc.Proofs.Expr.Normal
import RangeCalc.Proofs.Expr.Plain
import RangeCalc.Proofs.Expr.Tokens
import RangeCalc.Proofs.Frame.History
import RangeCalc.Proofs.Grammar.Derivation
import RangeCalc.Proofs.Grammar.Explanations
import RangeCalc.Proofs.Grammar.Leaves
import RangeCalc.Proofs.Grammar.Misreadings
import RangeCalc.Proofs.Grammar.Offsets
import RangeCalc.Proofs.Grammar.Openings
import RangeCalc.Proofs.Grammar.Outline
import RangeCalc.Proofs.Grammar.Printing
import RangeCalc.Proofs.Grammar.Progress
import RangeCalc.Proofs.Grammar.Recognition
import RangeCalc.Proofs.Grammar.Viability
import RangeCalc.Proofs.Grammar.Violations
import RangeCalc.Proofs.Input.Dialogue
import RangeCalc.Proofs.Input.Providers
import RangeCalc.Proofs.Input.Truncation
import RangeCalc.Proofs.Input.Turns
import RangeCalc.Proofs.Interval.Hull
import RangeCalc.Proofs.Interval.Inclusion
import RangeCalc.Proofs.Interval.Membership
import RangeCalc.Proofs.Parser.Alternatives
import RangeCalc.Proofs.Parser.Chars
import RangeCalc.Proofs.Parser.Choice
import RangeCalc.Proofs.Parser.Construction
import RangeCalc.Proofs.Parser.Failures
import RangeCalc.Proofs.Parser.Grouping
import RangeCalc.Proofs.Parser.Literals
import RangeCalc.Proofs.Parser.Moves
import RangeCalc.Proofs.Parser.Remainders
import RangeCalc.Proofs.Parser.Repetition
import RangeCalc.Proofs.Parser.Runs
import RangeCalc.Proofs.Parser.Shifts
import RangeCalc.Proofs.Program.Coordinates
import RangeCalc.Proofs.Program.Language
import RangeCalc.Proofs.Program.Layout
import RangeCalc.Proofs.Program.Messages
import RangeCalc.Proofs.Program.NormalForms
import RangeCalc.Proofs.Program.Parentheses
import RangeCalc.Proofs.Program.Prefixes
import RangeCalc.Proofs.Program.Refusals
import RangeCalc.Proofs.Program.RoundTrip
import RangeCalc.Proofs.Program.Termination
import RangeCalc.Proofs.Program.WrittenRanges
import RangeCalc.Proofs.Text.FullLines
import RangeCalc.Proofs.Text.Words
import RangeCalc.Proofs.Token.Partition
import RangeCalc.Proofs.Token.Scan
import RangeCalc.Proofs.Token.Shapes
import RangeCalc.Proofs.Token.Shifts
import RangeCalc.Text.Lines
