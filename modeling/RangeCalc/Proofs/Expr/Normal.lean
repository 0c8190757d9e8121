import RangeCalc.Proofs.Expr.Plain
import RangeCalc.Token.Basic

/-! Expressions that can be written, the expressions that their texts stand for, and how deeply
the texts nest. -/

namespace RangeCalc

namespace Integer

variable {n : Int64}

theorem digits_of_nonneg (hn : 0 ≤ n.toInt) : digits n = n.toInt.toNat.repr := by
  obtain ⟨m, hm⟩ := Int.eq_ofNat_of_zero_le hn
  simp only [digits, hm]
  rfl

theorem digits_of_neg (hn : n.toInt < 0) : digits n = "-" ++ (-n.toInt).toNat.repr := by
  obtain ⟨m, hm⟩ := Int.eq_negSucc_of_lt_zero hn
  simp only [digits, hm]
  rfl

theorem toInt_neg_of_lt (hn : Int64.minValue < n) : (-n).toInt = -n.toInt := by
  have hlower := Int64.lt_iff_toInt_lt.mp hn
  have hupper := n.toInt_le
  rw [Int64.toInt_minValue] at hlower
  rw [Int64.toInt_maxValue] at hupper
  rw [Int64.toInt_neg, Int.bmod_eq_of_le] <;> omega

end Integer

namespace Expr

/-- The literals are among `literals`, every input can be answered, and the names are
identifiers. -/
def WellFormed (literals : Int64 → Prop) : Expr → Prop
  | literal value => literals value
  | input lower upper => lower ≤ upper
  | var name => Token.isIdentifier name = true
  | negate operand => operand.WellFormed literals
  | binary _ left right => left.WellFormed literals ∧ right.WellFormed literals
  | letIn name bound body =>
      Token.isIdentifier name = true ∧ bound.WellFormed literals ∧ body.WellFormed literals

instance decidableWellFormed (literals : Int64 → Prop) [DecidablePred literals] :
    (e : Expr) → Decidable (e.WellFormed literals)
  | literal value => inferInstanceAs (Decidable (literals value))
  | input lower upper => inferInstanceAs (Decidable (lower ≤ upper))
  | var name => inferInstanceAs (Decidable (Token.isIdentifier name = true))
  | negate operand => decidableWellFormed literals operand
  | binary _ left right =>
      @instDecidableAnd _ _ (decidableWellFormed literals left)
        (decidableWellFormed literals right)
  | letIn name bound body =>
      @instDecidableAnd _ _ (inferInstanceAs (Decidable (Token.isIdentifier name = true)))
        (@instDecidableAnd _ _ (decidableWellFormed literals bound)
          (decidableWellFormed literals body))

/-- Expressions with a text. The least integer has none, for its digits are no literal. -/
def Writable : Expr → Prop :=
  WellFormed (Int64.minValue < ·)

def Canonical : Expr → Prop :=
  WellFormed (0 ≤ ·)

instance (e : Expr) : Decidable e.Writable :=
  decidableWellFormed _ e

instance (e : Expr) : Decidable e.Canonical :=
  decidableWellFormed _ e

/-- Negative literals as the negations that their texts are. -/
def normalize : Expr → Expr
  | literal value => if value < 0 then negate (literal (-value)) else literal value
  | input lower upper => input lower upper
  | var name => var name
  | negate operand => negate operand.normalize
  | binary op left right => binary op left.normalize right.normalize
  | letIn name bound body => letIn name bound.normalize body.normalize

/-- The levels of nesting in the text of an expression that has to bind at least as tightly as
`level`. Every negation, every `let` and every pair of parentheses counts. -/
def nestingAt : Expr → Nat → Nat
  | literal _, _ => 0
  | input _ _, _ => 0
  | var _, _ => 0
  | negate operand, _ => 1 + operand.nestingAt 4
  | binary op left right, level =>
      (if level ≤ op.power then 0 else 1) +
        max (left.nestingAt op.power) (right.nestingAt (op.power + 1))
  | letIn _ bound body, level =>
      (if level ≤ 1 then 0 else 1) + (1 + max (bound.nestingAt 2) (body.nestingAt 1))

variable {e : Expr} {level level' : Nat}

theorem canonical_normalize (h : e.Writable) : e.normalize.Canonical := by
  induction e with
  | literal value =>
      have hvalue : Int64.minValue < value := h
      rw [normalize]
      split
      · next hnegative =>
        have hinverse := Integer.toInt_neg_of_lt hvalue
        have hbelow := Int64.lt_iff_toInt_lt.mp hnegative
        apply Int64.le_iff_toInt_le.mpr
        rw [hinverse]
        rw [Int64.toInt_zero] at hbelow ⊢
        omega
      · next hnonnegative => exact Int64.not_lt.mp hnonnegative
  | input lower upper => exact h
  | var name => exact h
  | negate operand ih => exact ih h
  | binary op left right ihLeft ihRight => exact ⟨ihLeft h.1, ihRight h.2⟩
  | letIn name bound body ihBound ihBody => exact ⟨h.1, ihBound h.2.1, ihBody h.2.2⟩

theorem plainAt_normalize (h : e.Writable) (level : Nat) :
    e.normalize.plainAt level = e.plainAt level := by
  induction e generalizing level with
  | literal value =>
      have hvalue : Int64.minValue < value := h
      rw [normalize]
      split
      · next hnegative =>
        have hinverse := Integer.toInt_neg_of_lt hvalue
        have hbelow : value.toInt < 0 := Int64.lt_iff_toInt_lt.mp hnegative
        simp only [plainAt, enclose_of_le (Nat.le_refl 4)]
        rw [Integer.digits_of_nonneg (by omega), Integer.digits_of_neg hbelow, hinverse]
      · rfl
  | input lower upper => rfl
  | var name => rfl
  | negate operand ih => simp only [normalize, plainAt, ih h]
  | binary op left right ihLeft ihRight => simp only [normalize, plainAt, ihLeft h.1, ihRight h.2]
  | letIn name bound body ihBound ihBody =>
      simp only [normalize, plainAt, ihBound h.2.1, ihBody h.2.2]

theorem write_normalize (h : e.Writable) : e.normalize.write = e.write := by
  rw [write_eq_plainAt, write_eq_plainAt, plainAt_normalize h]

theorem nestingAt_le_of_le (hlevel : level ≤ level') : e.nestingAt level ≤ e.nestingAt level' := by
  cases e with
  | binary op left right =>
      simp only [nestingAt]
      split <;> split <;> omega
  | letIn name bound body =>
      simp only [nestingAt]
      split <;> split <;> omega
  | _ => exact Nat.le_refl _

/-- One pair of parentheses makes up for the difference between levels. -/
theorem nestingAt_le_succ (e : Expr) (level level' : Nat) :
    e.nestingAt level ≤ e.nestingAt level' + 1 := by
  cases e with
  | binary op left right =>
      simp only [nestingAt]
      split <;> split <;> omega
  | letIn name bound body =>
      simp only [nestingAt]
      split <;> split <;> omega
  | _ => exact Nat.le_succ _

end Expr

end RangeCalc
