import RangeCalc.Proofs.Expr.Tokens
import RangeCalc.Proofs.Grammar.Derivation

/-! Written expressions are phrases of the language. A text needs as many levels as its expression
nests, and a derivation never has fewer. -/

namespace RangeCalc.Grammar

open RangeCalc.Token

theorem decimal_repr (n : Nat) : decimal n.repr = n := by
  rw [decimal, Nat.toList_repr, Nat.ofDigitChars_ten_toDigits]

theorem signed_texts (n : Int64) : Signed (Integer.texts n) n := by
  by_cases hnegative : n.toInt < 0
  · rw [Integer.texts, if_pos hnegative]
    refine .minus (isNumeral_repr _) ?_
    rw [decimal_repr]
    omega
  · rw [Integer.texts, if_neg hnegative]
    refine .plain (isNumeral_repr _) ?_
    rw [decimal_repr]
    omega

namespace Nonterminal

/-- The phrases that bind at least as tightly as a level. -/
def atLevel : Nat → Nonterminal
  | 0 | 1 => expression
  | 2 => chain .plus
  | 3 => chain .times
  | _ => atom

def level : Nonterminal → Nat
  | expression => 1
  | chain op | further op _ => op.power
  | atom => 4

@[simp] theorem atLevel_power (op : Operator) : atLevel op.power = chain op := by
  cases op <;> rfl

@[simp] theorem atLevel_power_succ (op : Operator) : atLevel (op.power + 1) = operand op := by
  cases op <;> rfl

@[simp] theorem level_operand (op : Operator) : (operand op).level = op.power + 1 := by
  cases op <;> rfl

end Nonterminal

namespace Derives

open RangeCalc.Grammar.Nonterminal

variable {limit depth level level' : Nat} {texts : List String} {e : Expr}

private theorem loosen_succ (h : Derives limit (atLevel (level + 1)) depth texts e) :
    Derives limit (atLevel level) depth texts e :=
  match level, h with
  | 0, h => h
  | 1, h => .sum h
  | 2, h => chain_of_operand h
  | 3, h => chain_of_operand h
  | _ + 4, h => h

theorem loosen (hlevel : level ≤ level') (h : Derives limit (atLevel level') depth texts e) :
    Derives limit (atLevel level) depth texts e := by
  induction hlevel with
  | refl => exact h
  | step _ ih => exact ih (loosen_succ h)

theorem loosen_atom (level : Nat) (h : Derives limit .atom depth texts e) :
    Derives limit (atLevel level) depth texts e :=
  loosen (Nat.le_add_right level 4) h

private theorem enclose {power inside level : Nat}
    (hself : ∀ depth, depth + inside ≤ limit → Derives limit (atLevel power) depth texts e)
    (hroom : depth + ((if level ≤ power then 0 else 1) + inside) ≤ limit) :
    Derives limit (atLevel level) depth (Expr.encloseTexts power level texts) e := by
  rw [Expr.encloseTexts]
  split at hroom
  · next hlevel =>
    rw [if_pos hlevel]
    exact (hself depth (by omega)).loosen hlevel
  · next hlevel =>
    rw [if_neg hlevel]
    have hinside := (hself (depth + 1) (by omega)).loosen (Nat.zero_le power)
    exact (Derives.parenthesized (by omega) hinside).loosen_atom level

private theorem inputTexts {lower upper : Int64} (hanswers : lower ≤ upper) :
    Derives limit .atom depth (Expr.inputTexts lower upper) (.input lower upper) := by
  rw [Expr.inputTexts]
  split
  · next hends =>
    obtain ⟨rfl, rfl⟩ := hends
    exact .unbounded
  · refine .input (.intro .including .including (signed_texts lower) (signed_texts upper)) ?_
    exact { nonempty := hanswers, admits_iff := fun n => Iff.rfl }

/-- A written expression derives itself where there is room for its nesting. -/
theorem textsAt (level depth : Nat) (hcanonical : e.Canonical)
    (hroom : depth + e.nestingAt level ≤ limit) :
    Derives limit (atLevel level) depth (e.textsAt level) e := by
  induction e generalizing level depth with
  | literal value =>
      have hvalue : 0 ≤ value.toInt := Int64.le_iff_toInt_le.mp hcanonical
      rw [Expr.textsAt, Integer.texts, if_neg (Int.not_lt.mpr hvalue)]
      refine (Derives.literal (isNumeral_repr _) ?_).loosen_atom level
      rw [decimal_repr, Int.toNat_of_nonneg hvalue]
  | input lower upper => exact (inputTexts hcanonical).loosen_atom level
  | var name => exact (Derives.var hcanonical).loosen_atom level
  | negate operand ih =>
      rw [Expr.nestingAt] at hroom
      have hoperand := ih 4 (depth + 1) hcanonical (by omega)
      exact (Derives.negation (by omega) hoperand).loosen_atom level
  | binary op left right ihLeft ihRight =>
      refine enclose (fun depth hinside => ?_) hroom
      have hleft := ihLeft op.power depth hcanonical.1 (by omega)
      have hright := ihRight (op.power + 1) depth hcanonical.2 (by omega)
      rw [atLevel_power] at hleft ⊢
      rw [atLevel_power_succ] at hright
      exact hleft.chain_append hright
  | letIn name bound body ihBound ihBody =>
      refine enclose (fun depth hinside => ?_) hroom
      have hbound := ihBound 2 (depth + 1) hcanonical.2.1 (by omega)
      have hbody := ihBody 1 (depth + 1) hcanonical.2.2 (by omega)
      exact .binding (by omega) hcanonical.1 hbound hbody

end Derives

/-- The expression is one that the grammar builds, and its text at a depth stays within a limit. -/
def Fits (limit depth level : Nat) (e : Expr) : Prop :=
  e.Canonical ∧ depth + e.nestingAt level ≤ limit

namespace Fits

variable {limit depth level level' : Nat} {e left right bound body : Expr} {op : Operator}
  {name : String}

theorem leaf (hdepth : depth ≤ limit) (hcanonical : e.Canonical)
    (hnesting : e.nestingAt level = 0) : Fits limit depth level e :=
  ⟨hcanonical, by omega⟩

theorem loosen (hlevel : level ≤ level') (h : Fits limit depth level' e) :
    Fits limit depth level e := by
  obtain ⟨hcanonical, hnesting⟩ := h
  have hle : e.nestingAt level ≤ e.nestingAt level' := Expr.nestingAt_le_of_le hlevel
  exact ⟨hcanonical, by omega⟩

theorem parenthesized (h : Fits limit (depth + 1) level' e) : Fits limit depth level e := by
  obtain ⟨hcanonical, hnesting⟩ := h
  have hpair := e.nestingAt_le_succ level level'
  exact ⟨hcanonical, by omega⟩

theorem negate (h : Fits limit (depth + 1) 4 e) : Fits limit depth level (.negate e) := by
  obtain ⟨hcanonical, hnesting⟩ := h
  refine ⟨hcanonical, ?_⟩
  rw [Expr.nestingAt]
  omega

theorem binary (hleft : Fits limit depth op.power left)
    (hright : Fits limit depth (op.power + 1) right) :
    Fits limit depth op.power (.binary op left right) := by
  obtain ⟨hleft, hleftNesting⟩ := hleft
  obtain ⟨hright, hrightNesting⟩ := hright
  refine ⟨⟨hleft, hright⟩, ?_⟩
  rw [Expr.nestingAt, if_pos (Nat.le_refl _)]
  omega

theorem letIn (hname : isIdentifier name = true) (hbound : Fits limit (depth + 1) 2 bound)
    (hbody : Fits limit (depth + 1) 1 body) : Fits limit depth 1 (.letIn name bound body) := by
  obtain ⟨hbound, hboundNesting⟩ := hbound
  obtain ⟨hbody, hbodyNesting⟩ := hbody
  refine ⟨⟨hname, hbound, hbody⟩, ?_⟩
  rw [Expr.nestingAt, if_pos (Nat.le_refl _)]
  omega

end Fits

/-- What is derived fits. For what follows the operands of a chain it has to be known of them. -/
theorem Derives.fits {limit depth : Nat} {texts : List String} {e : Expr}
    {nonterminal : Nonterminal} (h : Derives limit nonterminal depth texts e)
    (hdepth : depth ≤ limit)
    (hleft : ∀ op left, nonterminal = .further op left → Fits limit depth op.power left) :
    Fits limit depth nonterminal.level e := by
  induction h with
  | binding hlimit hname _ _ ihBound ihBody =>
      have hbound := ihBound hlimit (by simp)
      have hbody := ihBody hlimit (by simp)
      exact Fits.letIn hname hbound hbody
  | sum _ ih =>
      have hsum := ih hdepth (by simp)
      exact hsum.loosen (Nat.le_succ 1)
  | @chain op _ _ _ first _ _ _ ihFirst ihLater =>
      have hfirst := ihFirst hdepth (by cases op <;> simp [operand])
      rw [Nonterminal.level_operand] at hfirst
      -- The first operand is what the further ones are combined with.
      apply ihLater hdepth
      intro _ _ hsame
      cases hsame
      exact hfirst.loosen (Nat.le_add_right op.power 1)
  | last => exact hleft _ _ rfl
  | @further op _ _ _ left right _ _ _ ihRight ihLater =>
      have hright := ihRight hdepth (by cases op <;> simp [operand])
      rw [Nonterminal.level_operand] at hright
      apply ihLater hdepth
      intro _ _ hsame
      cases hsame
      exact Fits.binary (hleft op left rfl) hright
  | parenthesized hlimit _ ih =>
      have hinside := ih hlimit (by simp)
      exact hinside.parenthesized
  | unbounded => exact Fits.leaf hdepth (Int64.minValue_le _) rfl
  | input _ hcontent => exact Fits.leaf hdepth hcontent.nonempty rfl
  | negation hlimit _ ih =>
      have hoperand := ih hlimit (by simp)
      exact hoperand.negate
  | literal _ hvalue =>
      refine Fits.leaf hdepth (Int64.le_iff_toInt_le.mpr ?_) rfl
      rw [hvalue, Int64.toInt_zero]
      omega
  | var hname => exact Fits.leaf hdepth hname rfl

end RangeCalc.Grammar
