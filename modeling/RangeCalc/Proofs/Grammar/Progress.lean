import RangeCalc.Proofs.Grammar.Openings
import RangeCalc.Proofs.Grammar.Recognition
import RangeCalc.Proofs.Parser.Progress

/-! Every rule of the grammar that succeeds has consumed a token, and the rules stand in each other
only as far as the nesting limit. -/

namespace RangeCalc.Grammar

open RangeCalc.Parser

namespace Level

/-- The rules at a depth of nesting. -/
def atDepth (depth : Nat) : Level :=
  allowing (maxNesting - depth)

/-- The rules for what stands inside parentheses, negations and `let`s at a depth. -/
def inside (depth : Nat) : Level :=
  if depth < maxNesting then atDepth (depth + 1) else forbidden

/-- Each level, as long as there may be one, stands around the next. -/
def Nested (levels : Nat → Level) : Prop :=
  ∀ depth ≤ maxNesting, levels depth =
    around fun _ => if depth < maxNesting then levels (depth + 1) else forbidden

variable {depth : Nat} {levels : Nat → Level}

theorem atDepth_eq_around (hdepth : depth ≤ maxNesting) :
    atDepth depth = around fun _ => inside depth := by
  by_cases hlimit : depth < maxNesting
  · have hroom : maxNesting - depth = maxNesting - (depth + 1) + 1 := by omega
    simp only [inside, if_pos hlimit, atDepth, hroom, allowing]
  · have hroom : maxNesting - depth = 0 := by omega
    simp only [inside, if_neg hlimit, atDepth, hroom, allowing]

/-- The levels refer each to the next one, and yet there is no choice in what they are: the last
one refers to none. -/
theorem nested_iff : Nested levels ↔ ∀ depth ≤ maxNesting, levels depth = atDepth depth := by
  constructor
  · intro hlevels
    have hroom : ∀ room depth, depth + room = maxNesting → levels depth = atDepth depth := by
      intro room
      induction room with
      | zero =>
          intro depth hdepth
          have hlimit : ¬ depth < maxNesting := by omega
          rw [hlevels depth (by omega), atDepth_eq_around (by omega), inside, if_neg hlimit,
            if_neg hlimit]
      | succ room ih =>
          intro depth hdepth
          have hlimit : depth < maxNesting := by omega
          rw [hlevels depth (by omega), atDepth_eq_around (by omega), inside, if_pos hlimit,
            if_pos hlimit, ih (depth + 1) (by omega)]
    intro depth hdepth
    exact hroom (maxNesting - depth) depth (by omega)
  · intro hlevels depth hdepth
    rw [hlevels depth hdepth, atDepth_eq_around hdepth, inside]
    split
    · next hlimit => rw [hlevels (depth + 1) hlimit]
    · rfl

theorem forward_inside (depth : Nat) : (inside depth).Forward := by
  unfold inside
  split
  · exact forward_allowing _
  · exact forward_forbidden

theorem recognizes_inside (hdepth : depth ≤ maxNesting) :
    (inside depth).Recognizes maxNesting (depth + 1) := by
  unfold inside
  split
  · exact recognizes_allowing _ (by omega)
  · exact recognizes_forbidden (by omega)

end Level

/-- What the grammar has a rule for at each depth. -/
inductive Phrase where
  | atom
  | product
  | sum
  | binding
  | expression
  /-- An operator and its operand. -/
  | further (op : Operator)
deriving DecidableEq

namespace Phrase

def operandOver (inner : Unit → Level) : Operator → Rule Expr
  | .plus => chain .times (Level.atomOver inner)
  | .times => Level.atomOver inner

def ruleOver (inner : Unit → Level) : Phrase → Rule Expr
  | atom => (Level.around inner).atom
  | product => operandOver inner .plus
  | sum => (Level.around inner).sum
  | binding => Level.bindingOver inner
  | expression => (Level.around inner).expression
  | further op => (keyword op.symbol).keepRight (operandOver inner op)

def rule (depth : Nat) (phrase : Phrase) : Rule Expr :=
  phrase.ruleOver fun _ => Level.inside depth

end Phrase

section Progress

theorem progresses_tokenWhere (accepts : String → Bool) (what : String) :
    (tokenWhere accepts what).Progresses :=
  (progresses_satisfy _ _).label _

theorem progresses_keyword (text : String) : (keyword text).Progresses :=
  progresses_tokenWhere _ _

theorem progresses_input : input.Progresses :=
  ((progresses_keyword _).keepRight forward_range.optional).bind forward_inputOf

theorem progresses_chain (op : Operator) {operand : Rule Expr} (hoperand : operand.Progresses)
    (hforward : operand.Forward) : (chain op operand).Progresses :=
  (hoperand.pair ((forward_keyword _).keepRight hforward).many).map _

variable {inner : Unit → Level}

theorem progresses_atomOver (hinner : (inner ()).Forward) : (Level.atomOver inner).Progresses := by
  have hparenthesized : (parenthesized (inner ()).expression).Progresses :=
    ((progresses_keyword _).keepRight hinner.expression).keepLeft (forward_keyword _)
  have hnegation : (negation (inner ()).atom).Progresses :=
    ((progresses_keyword _).keepRight hinner.atom).map _
  have hliteral : (natural.map Expr.literal).Progresses :=
    (((progresses_tokenWhere _ _).map _).bind forward_valueOf).map _
  have hvariable : (identifier.map Expr.var).Progresses :=
    ((progresses_tokenWhere _ _).map _).map _
  refine (progresses_choice ?_).label _
  simp only [List.forall_mem_cons]
  exact ⟨hparenthesized, progresses_input, hnegation, hliteral, hvariable, by simp⟩

theorem Phrase.forward_operandOver (hinner : (inner ()).Forward) (op : Operator) :
    (operandOver inner op).Forward := by
  have hatom := (Level.forward_around hinner).atom
  cases op with
  | plus => exact forward_chain .times hatom
  | times => exact hatom

/-- A rule begins with a token, so what stands further in need not progress: it is enough that it
does not go back. -/
theorem Phrase.progresses_ruleOver (phrase : Phrase) (hinner : (inner ()).Forward) :
    (phrase.ruleOver inner).Progresses := by
  have hatom := progresses_atomOver hinner
  have hproduct := progresses_chain .times hatom (forward_operandOver hinner .times)
  have hsum := progresses_chain .plus hproduct (forward_operandOver hinner .plus)
  have hhead : head.Progresses :=
    ((progresses_keyword _).keepRight forward_identifier).keepLeft (forward_keyword _)
  have hbinding : (Level.bindingOver inner).Progresses :=
    (((hhead.pair hinner.sum).keepLeft (forward_keyword _)).pair hinner.expression).map _
  cases phrase with
  | atom => exact hatom
  | product => exact hproduct
  | sum => exact hsum
  | binding => exact hbinding
  | expression =>
      refine (progresses_choice ?_).label _
      simpa using ⟨hbinding, hsum⟩
  | further op => exact (progresses_keyword _).keepRight (forward_operandOver hinner op)

theorem Phrase.returns_ruleOver (phrase : Phrase) {limit depth : Nat} (hdepth : depth ≤ limit)
    (hinner : (inner ()).Recognizes limit (depth + 1)) : (phrase.ruleOver inner).Returns := by
  have hlevel := Level.recognizes_around hdepth hinner
  have hproduct : Recognizes limit (.chain .times) depth (operandOver inner .plus) :=
    .chain hlevel.atom
  have hoperand : ∀ op, (operandOver inner op).Returns := by
    intro op
    cases op with
    | plus => exact hproduct.returns
    | times => exact hlevel.atom.returns
  cases phrase with
  | atom => exact hlevel.atom.returns
  | product => exact hoperand .plus
  | sum => exact hlevel.sum.returns
  | binding => exact Level.returns_bindingOver hinner
  | expression => exact hlevel.expression.returns
  | further op => exact (returns_keyword _).keepRight (hoperand op)

end Progress

end RangeCalc.Grammar
