import RangeCalc.Proofs.CommandLine.Courses

/-! The program as a whole, once its options are known. It tells all of a result or none of it, and
the analysis adds a line to what is told without it. -/

namespace RangeCalc.CommandLine

open RangeCalc.Text

variable {options : Options} {readFile : String → Option (List UInt8)} {source : String}
  {input : List UInt8} {course : Course}

theorem perform_eq_report (hsource : (readFile options.target).bind decode? = some source)
    (hcourse : Takes options.parseOnly source input course) :
    perform options readFile input = course.report options.analyze := by
  obtain ⟨ending, console, hrun, hreport⟩ := hcourse.exists_ending
  rw [perform, hsource]
  simp only [hrun]
  exact hreport

section AllOrNothing

private def squareText : String :=
  "let x = ?[0, 5] in x * x"

private def squareFile (_ : String) : Option (List UInt8) :=
  some (encode squareText)

private theorem source_squareFile : (squareFile "square").bind decode? = some squareText :=
  decode?_encode squareText

end AllOrNothing

section Analysis

/-- The second report tells what the first does and, if that is a result, one line more, of a range
with its ends in order. -/
structure AddsRange (plain analyzed : Report) : Prop where
  exitCode : analyzed.exitCode = plain.exitCode
  exits : plain.exitCode = 0 ∨ plain.exitCode = 1
  failure : plain.exitCode = 1 → analyzed.output = plain.output
  result : plain.exitCode = 0 → ∃ lower upper : Int64, lower ≤ upper ∧
    analyzed.output = plain.output ++
      encode ("range: [" ++ Integer.digits lower ++ ", " ++ Integer.digits upper ++ "]\n")

variable {parseOnly : Bool} {target : String}

theorem Takes.addsRange (hcourse : Takes parseOnly source input course) :
    AddsRange (course.report false) (course.report true) where
  exitCode := rfl
  exits := by
    rcases hcourse.exitCode_cases with ⟨hzero, -⟩ | ⟨hone, -⟩
    · exact .inl hzero
    · exact .inr hone
  failure hone := by
    cases hcourse with
    | invalid _ => rfl
    | undefined _ _ => rfl
    | inlined _ _ _ _ _ => cases hone
    | stuck _ _ _ _ _ => rfl
    | evaluated _ _ _ _ _ _ _ => cases hone
  result hzero := by
    cases hcourse with
    | invalid _ => cases hzero
    | undefined _ _ => cases hzero
    | inlined _ _ _ hvalid _ =>
        refine ⟨_, _, hvalid, ?_⟩
        simp [Course.report, Course.conclusion, Course.rangeText]
    | stuck _ _ _ _ _ => cases hzero
    | evaluated _ _ _ hvalid _ _ _ =>
        refine ⟨_, _, hvalid, ?_⟩
        simp [Course.report, Course.conclusion, Course.rangeText]

/-- The analysis neither fails nor has a part in the dialogue: the courses with and without it are
the same. -/
theorem analyze_only_adds (hsource : (readFile target).bind decode? = some source)
    (parseOnly : Bool) (input : List UInt8) :
    AddsRange (perform ⟨target, false, parseOnly⟩ readFile input)
      (perform ⟨target, true, parseOnly⟩ readFile input) := by
  obtain ⟨course, hcourse⟩ := Takes.exists_course parseOnly source input
  have hplain : perform ⟨target, false, parseOnly⟩ readFile input = course.report false :=
    perform_eq_report hsource hcourse
  have hanalyzed : perform ⟨target, true, parseOnly⟩ readFile input = course.report true :=
    perform_eq_report hsource hcourse
  rw [hplain, hanalyzed]
  exact hcourse.addsRange

theorem analyze_only_adds_square :
    AddsRange (perform ⟨"square", false, false⟩ squareFile (encode "3\n"))
      (perform ⟨"square", true, false⟩ squareFile (encode "3\n")) :=
  analyze_only_adds source_squareFile false _

end Analysis

end RangeCalc.CommandLine
