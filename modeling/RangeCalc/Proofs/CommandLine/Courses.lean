import RangeCalc.CommandLine.Report
import RangeCalc.Proofs.Evaluation.Faults
import RangeCalc.Proofs.Input.Dialogue

/-! The courses that a run can take, and what each of them shows: the whole result, or else what
went wrong and nothing of the result. Before either stands what was written to ask for inputs. -/

namespace RangeCalc

open RangeCalc.Text

theorem Expr.exists_range_of_inline {e inlined : Expr} (hinline : e.inline = .ok inlined) :
    ∃ i, e.range = .ok i ∧ i.Valid := by
  have htrees : Env.All (fun _ : Expr => True) .empty := fun _ _ _ => trivial
  have hranges : Env.All Interval.Valid .empty := by
    rintro _ _ ⟨⟩
  obtain ⟨hinlines, -⟩ := Semantics.inlining_pureOn.result_evaluate e htrees
  obtain ⟨hhasRange, -⟩ := Semantics.intervals_pureOn.result_evaluate e hranges
  exact hhasRange.mpr (hinlines.mp ⟨inlined, hinline, trivial⟩)

namespace CommandLine

/-- How far a run comes, and with what. -/
inductive Course where
  | invalid (error : SyntaxError)
  | undefined (problem : EvalError)
  | inlined (tree : Expr) (range : Interval)
  | stuck (problem : EvalError) (exchanges : List Exchange)
  | evaluated (tree : Expr) (range : Interval) (value : Int64) (exchanges : List Exchange)

/-- The course that a run takes on a source and an input. -/
inductive Takes (parseOnly : Bool) (source : String) (input : List UInt8) : Course → Prop where
  | invalid {error : SyntaxError} (hparse : Program.parse source = .error error) :
      Takes parseOnly source input (.invalid error)
  | undefined {e : Expr} {problem : EvalError} (hparse : Program.parse source = .ok e)
      (hinline : e.inline = .error problem) :
      Takes parseOnly source input (.undefined problem)
  | inlined {e tree : Expr} {range : Interval} (hparse : Program.parse source = .ok e)
      (hinline : e.inline = .ok tree) (hrange : e.range = .ok range) (hvalid : range.Valid)
      (honly : parseOnly = true) :
      Takes parseOnly source input (.inlined tree range)
  | stuck {e tree : Expr} {problem : EvalError} {final : Console} {exchanges : List Exchange}
      (hparse : Program.parse source = .ok e) (hinline : e.inline = .ok tree)
      (honly : parseOnly = false) (hrun : e.dialogue input = (.error problem, final))
      (hwritten : final.output = Exchange.transcript exchanges) :
      Takes parseOnly source input (.stuck problem exchanges)
  | evaluated {e tree : Expr} {range : Interval} {value : Int64} {final : Console}
      {exchanges : List Exchange} (hparse : Program.parse source = .ok e)
      (hinline : e.inline = .ok tree) (hrange : e.range = .ok range) (hvalid : range.Valid)
      (honly : parseOnly = false) (hrun : e.dialogue input = (.ok value, final))
      (hwritten : final.output = Exchange.transcript exchanges) :
      Takes parseOnly source input (.evaluated tree range value exchanges)

/-- Nothing goes wrong: the source is a program, it has an inlined form and, unless no more than
that is wanted, a value on the input. -/
def Completes (parseOnly : Bool) (source : String) (input : List UInt8) : Prop :=
  ∃ e tree, Program.parse source = .ok e ∧ e.inline = .ok tree ∧
    (parseOnly = false → ∃ value final, e.dialogue input = (.ok value, final))

namespace Course

def exitCode : Course → Nat
  | invalid _ => 1
  | undefined _ => 1
  | inlined _ _ => 0
  | stuck _ _ => 1
  | evaluated _ _ _ _ => 0

def exchanges : Course → List Exchange
  | invalid _ => []
  | undefined _ => []
  | inlined _ _ => []
  | stuck _ exchanges => exchanges
  | evaluated _ _ _ exchanges => exchanges

def failureText (header message : String) : String :=
  header ++ "\n" ++ indent message ++ "\n"

def rangeText (range : Interval) : String :=
  "range: [" ++ Integer.digits range.lower ++ ", " ++ Integer.digits range.upper ++ "]\n"

def conclusion (analyze : Bool) : Course → String
  | invalid error => failureText "Invalid ApoML program:" error.describe
  | undefined problem => failureText "Evaluation failed:" problem.message
  | inlined tree range => tree.write ++ "\n" ++ if analyze then rangeText range else ""
  | stuck problem _ => failureText "Evaluation failed:" problem.message
  | evaluated tree range value _ =>
      rule ++ "\n" ++ tree.write ++ " = " ++ Integer.digits value ++ "\n" ++
        if analyze then rangeText range else ""

def report (analyze : Bool) (course : Course) : Report :=
  ⟨course.exitCode, Exchange.transcript course.exchanges ++ encode (course.conclusion analyze)⟩

end Course

namespace Takes

variable {parseOnly : Bool} {source : String} {input : List UInt8} {course : Course}

theorem exists_course (parseOnly : Bool) (source : String) (input : List UInt8) :
    ∃ course, Takes parseOnly source input course := by
  cases hparse : Program.parse source with
  | error error => exact ⟨_, .invalid hparse⟩
  | ok e =>
      cases hinline : e.inline with
      | error problem => exact ⟨_, .undefined hparse hinline⟩
      | ok tree =>
          obtain ⟨range, hrange, hvalid⟩ := Expr.exists_range_of_inline hinline
          cases parseOnly with
          | true => exact ⟨_, .inlined hparse hinline hrange hvalid rfl⟩
          | false =>
              cases hrun : e.dialogue input with
              | mk result final =>
                  obtain ⟨exchanges, hwritten⟩ := Console.exists_transcript hrun
                  cases result with
                  | error problem => exact ⟨_, .stuck hparse hinline rfl hrun hwritten⟩
                  | ok value =>
                      exact ⟨_, .evaluated hparse hinline hrange hvalid rfl hrun hwritten⟩

theorem exitCode_cases (h : Takes parseOnly source input course) :
    course.exitCode = 0 ∧ Completes parseOnly source input ∨
      course.exitCode = 1 ∧ ¬ Completes parseOnly source input := by
  cases h with
  | invalid hparse =>
      refine .inr ⟨rfl, ?_⟩
      rintro ⟨_, _, hok, -⟩
      rw [hparse] at hok
      cases hok
  | undefined hparse hinline =>
      refine .inr ⟨rfl, ?_⟩
      rintro ⟨_, _, hok, hinlined, -⟩
      obtain rfl := Except.ok.inj (hparse.symm.trans hok)
      rw [hinline] at hinlined
      cases hinlined
  | inlined hparse hinline hrange hvalid honly =>
      exact .inl ⟨rfl, _, _, hparse, hinline, by simp [honly]⟩
  | stuck hparse hinline honly hrun =>
      refine .inr ⟨rfl, ?_⟩
      rintro ⟨_, _, hok, -, hruns⟩
      obtain rfl := Except.ok.inj (hparse.symm.trans hok)
      obtain ⟨value, final, hvalue⟩ := hruns honly
      rw [hrun] at hvalue
      cases hvalue
  | evaluated hparse hinline hrange hvalid honly hrun =>
      exact .inl ⟨rfl, _, _, hparse, hinline, fun _ => ⟨_, _, hrun⟩⟩

end Takes

section Run

variable {options : Options} {source : String} {input : List UInt8} {course : Course}

theorem text_invalid (error : SyntaxError) :
    (Ending.invalid error).text = Course.failureText "Invalid ApoML program:" error.describe := by
  simp [Ending.text, Ending.lines, Course.failureText, String.append_assoc]

theorem text_stuck (problem : EvalError) :
    (Ending.stuck problem).text = Course.failureText "Evaluation failed:" problem.message := by
  simp [Ending.text, Ending.lines, Course.failureText, String.append_assoc]

theorem rangeLine_append (range : Interval) : rangeLine range ++ "\n" = Course.rangeText range := by
  have hopening : "range: [" = "range: " ++ "[" := rfl
  have hclosing : "]\n" = "]" ++ "\n" := rfl
  rw [rangeLine, Interval.write, Course.rangeText, hopening, hclosing]
  simp only [String.append_assoc]

theorem analysis_eq {e : Expr} {range : Interval} (hrange : e.range = .ok range) :
    analysis options e = .ok (if options.analyze then [rangeLine range] else []) := by
  rw [analysis, hrange]
  split <;> rfl

theorem text_printed (lines : List String) (range : Interval) (analyze : Bool) :
    (Ending.printed (lines ++ if analyze then [rangeLine range] else [])).text =
      String.join (lines.map (· ++ "\n")) ++ if analyze then Course.rangeText range else "" := by
  rw [Ending.text, Ending.lines, List.map_append, String.join_append]
  cases analyze with
  | true => simp [← rangeLine_append]
  | false => rfl

theorem report_fresh (ending : Ending) (input : List UInt8) :
    report ending (.ofInput input none) = ⟨ending.exitCode, encode ending.text⟩ := by
  rw [report, Console.output_ofInput, List.nil_append]

section Stages

variable {console final : Console} {e tree : Expr} {range : Interval} {value : Int64}
  {problem : EvalError} {error : SyntaxError}

theorem runOn_of_invalid (hparse : Program.parse source = .error error) :
    runOn options source console = (.invalid error, console) := by
  unfold runOn
  generalize Program.parse source = parsed at hparse ⊢
  subst hparse
  rfl

theorem runOn_of_parse (hparse : Program.parse source = .ok e) :
    runOn options source console = evaluateOn options e console := by
  unfold runOn
  generalize Program.parse source = parsed at hparse ⊢
  subst hparse
  rfl

theorem evaluateOn_of_undefined (hinline : e.inline = .error problem) :
    evaluateOn options e console = (.stuck problem, console) := by
  simp only [evaluateOn, hinline]

theorem evaluateOn_of_parseOnly (hinline : e.inline = .ok tree) (hrange : e.range = .ok range)
    (honly : options.parseOnly = true) :
    evaluateOn options e console =
      (.printed ([tree.write] ++ if options.analyze then [rangeLine range] else []), console) := by
  simp only [evaluateOn, hinline, analysis_eq hrange, honly, if_true]
  rfl

theorem evaluateOn_of_stuck (hinline : e.inline = .ok tree) (hrange : e.range = .ok range)
    (honly : options.parseOnly = false)
    (hrun : (Semantics.concrete .prompting).evaluateClosed e console = (.error problem, final)) :
    evaluateOn options e console = (.stuck problem, final) := by
  simp only [evaluateOn, hinline, analysis_eq hrange, honly, hrun]
  rfl

theorem evaluateOn_of_value (hinline : e.inline = .ok tree) (hrange : e.range = .ok range)
    (honly : options.parseOnly = false)
    (hrun : (Semantics.concrete .prompting).evaluateClosed e console = (.ok value, final)) :
    evaluateOn options e console =
      (.printed ([rule, tree.write ++ " = " ++ Integer.digits value] ++
        if options.analyze then [rangeLine range] else []), final) := by
  simp only [evaluateOn, hinline, analysis_eq hrange, honly, hrun]
  rfl

end Stages

theorem Takes.exists_ending (h : Takes options.parseOnly source input course) :
    ∃ ending console, runOn options source (.ofInput input none) = (ending, console) ∧
      report ending console = course.report options.analyze := by
  cases h with
  | invalid hparse =>
      refine ⟨_, _, runOn_of_invalid hparse, ?_⟩
      rw [report_fresh, text_invalid]
      rfl
  | undefined hparse hinline =>
      refine ⟨_, _, (runOn_of_parse hparse).trans (evaluateOn_of_undefined hinline), ?_⟩
      rw [report_fresh, text_stuck]
      rfl
  | inlined hparse hinline hrange hvalid honly =>
      refine ⟨_, _,
        (runOn_of_parse hparse).trans (evaluateOn_of_parseOnly hinline hrange honly), ?_⟩
      rw [report_fresh, text_printed]
      rfl
  | stuck hparse hinline honly hrun hwritten =>
      obtain ⟨range, hrange, -⟩ := Expr.exists_range_of_inline hinline
      refine ⟨_, _,
        (runOn_of_parse hparse).trans (evaluateOn_of_stuck hinline hrange honly hrun), ?_⟩
      rw [report, hwritten, text_stuck]
      rfl
  | evaluated hparse hinline hrange hvalid honly hrun hwritten =>
      refine ⟨_, _,
        (runOn_of_parse hparse).trans (evaluateOn_of_value hinline hrange honly hrun), ?_⟩
      rw [report, hwritten, text_printed]
      simp [Course.report, Course.exitCode, Course.exchanges, Course.conclusion, Ending.exitCode,
        String.append_assoc]

end Run

end CommandLine

end RangeCalc
