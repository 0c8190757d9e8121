import RangeCalc.Input.Console
import RangeCalc.Text.Lines

/-! The lines of a text, each with the line feed that ends it. Reading its bytes line by line gives
the bytes of these lines. -/

namespace RangeCalc

namespace Text

/-- The lines of a text, each with the line feed that ends it. Only the last may have none. -/
def fullLines : List Char → List (List Char)
  | [] => []
  | c :: later =>
      if c = '\n' then [c] :: fullLines later
      else
        match fullLines later with
        | [] => [[c]]
        | line :: lines => (c :: line) :: lines

@[simp] theorem fullLines_nil : fullLines [] = [] := rfl

theorem flatten_fullLines (chars : List Char) : (fullLines chars).flatten = chars := by
  induction chars with
  | nil => rfl
  | cons c later ih =>
      rw [fullLines]
      split
      · rw [List.flatten_cons, ih, List.singleton_append]
      · cases hlater : fullLines later with
        | nil => simpa [hlater] using ih
        | cons line lines => simpa [hlater] using ih

@[simp] theorem fullLines_feed (later : List Char) :
    fullLines ('\n' :: later) = ['\n'] :: fullLines later := by
  simp [fullLines]

/-- Behind a line feed the lines are those of what follows. -/
theorem fullLines_append_feed (first later : List Char) :
    fullLines (first ++ '\n' :: later) = fullLines (first ++ ['\n']) ++ fullLines later := by
  induction first with
  | nil => simp
  | cons c first ih =>
      rw [List.cons_append, List.cons_append, fullLines, fullLines, ih]
      split
      · rfl
      · cases hfirst : fullLines (first ++ ['\n']) with
        | nil =>
            have hflatten := flatten_fullLines (first ++ ['\n'])
            simp [hfirst] at hflatten
        | cons line lines => rfl

theorem length_fullLines_feed (first : List Char) :
    (fullLines (first ++ ['\n'])).length = first.count '\n' + 1 := by
  induction first with
  | nil => simp
  | cons c first ih =>
      rw [List.cons_append, fullLines]
      split
      · next hfeed => rw [List.length_cons, ih, hfeed, List.count_cons_self]
      · next hfeed =>
        rw [List.count_cons_of_ne hfeed]
        cases hfirst : fullLines (first ++ ['\n']) with
        | nil => simp [hfirst] at ih
        | cons line lines => simpa [hfirst] using ih

end Text

namespace Line

open RangeCalc.Text

end Line

end RangeCalc
