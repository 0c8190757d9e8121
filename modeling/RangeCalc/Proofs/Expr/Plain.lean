import Mathlib.Data.List.Induction
import RangeCalc.Expr.Printer

/-! The written form by plain recursion. The texts that a chain of operators collects on the way
to its first operand follow that operand in their order. -/

namespace RangeCalc.Expr

/-- The text of an expression that has to bind at least as tightly as `level`. -/
def plainAt : Expr → Nat → String
  | literal value, level => enclose 4 level (Integer.digits value)
  | input lower upper, level => enclose 4 level (writeInput lower upper)
  | var name, level => enclose 4 level name
  | negate operand, level => enclose 4 level ("-" ++ operand.plainAt 4)
  | binary op left right, level =>
      enclose op.power level
        (left.plainAt op.power ++ (" " ++ op.symbol ++ " " ++ right.plainAt (op.power + 1)))
  | letIn name bound body, level =>
      enclose 1 level
        ("let " ++ name ++ " = " ++ bound.plainAt 2 ++ " in " ++ body.plainAt 1)

theorem writeAt_eq_foldl (e : Expr) (level : Nat) (pending : List String) :
    e.writeAt level pending = pending.foldl (· ++ ·) (e.plainAt level) := by
  induction e generalizing level pending with
  | literal value => rfl
  | input lower upper => rfl
  | var name => rfl
  | negate operand ih =>
      rw [writeAt, plainAt, ih]
      rfl
  | binary op left right ihLeft ihRight =>
      simp only [writeAt, plainAt, enclose, ihLeft, ihRight]
      by_cases hlevel : level ≤ op.power
      · simp only [if_pos hlevel, List.foldl_cons, List.foldl_nil]
      · simp only [if_neg hlevel, List.foldl_cons, List.foldl_nil]
  | letIn name bound body ihBound ihBody =>
      simp only [writeAt, plainAt, ihBound, ihBody, List.foldl_nil]

theorem write_eq_plainAt (e : Expr) : e.write = e.plainAt 0 :=
  writeAt_eq_foldl e 0 []

theorem enclose_of_le {power level : Nat} (hlevel : level ≤ power) (text : String) :
    enclose power level text = text :=
  if_pos hlevel

/-- A chain is enclosed as a whole, and each operand behind the first stands on its own. -/
theorem plainAt_foldl (op : Operator) (first second : Expr) (later : List Expr) (level : Nat) :
    (later.foldl (binary op) (binary op first second)).plainAt level =
      enclose op.power level
        ((second :: later).foldl
          (fun text operand => text ++ (" " ++ op.symbol ++ " " ++ operand.plainAt (op.power + 1)))
          (first.plainAt op.power)) := by
  -- The last operand is the right one of the whole chain.
  induction later using List.reverseRecOn generalizing level with
  | nil => rfl
  | append_singleton later last ih =>
      rw [← List.cons_append, List.foldl_append, List.foldl_append]
      simp only [List.foldl_cons, List.foldl_nil, plainAt, ih, enclose_of_le (Nat.le_refl _)]

/-- The printer writes what plain recursion does, and a chain of one operator as a loop over its
operands does, the first at the power of the operator and the others one above it. -/
theorem written_plainly :
    (∀ e level, writeAt e level [] = e.plainAt level) ∧
      ∀ op first second later level,
        (later.foldl (binary op) (binary op first second)).writeAt level [] =
          enclose op.power level
            ((second :: later).foldl
              (fun text operand =>
                text ++ (" " ++ op.symbol ++ " " ++ operand.writeAt (op.power + 1) []))
              (first.writeAt op.power [])) := by
  constructor
  · intro e level
    exact writeAt_eq_foldl e level []
  · intro op first second later level
    simp only [writeAt_eq_foldl, List.foldl_nil]
    exact plainAt_foldl op first second later level

end RangeCalc.Expr
