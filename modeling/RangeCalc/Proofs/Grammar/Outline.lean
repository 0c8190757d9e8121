import RangeCalc.Proofs.Grammar.Derivation

/-! Texts in the outline of a program: they are in the order of the grammar, but numerals may be too
large, ranges empty and nesting deeper than the limit. -/

namespace RangeCalc.Grammar

inductive SignedOutline : List String → Prop where
  | plain {text : String} (hnumeral : Token.isNumeral text = true) : SignedOutline [text]
  | minus {text : String} (hnumeral : Token.isNumeral text = true) : SignedOutline ["-", text]

inductive RangeOutline : List String → Prop where
  | intro {lowerTexts upperTexts : List String} (lowerDelimiter upperDelimiter : Delimiter)
      (hlower : SignedOutline lowerTexts) (hupper : SignedOutline upperTexts) :
      RangeOutline
        (lowerDelimiter.opening ::
          (lowerTexts ++ "," :: (upperTexts ++ [upperDelimiter.closing])))

/-- Operands behind the first one, each with the operator before it. -/
def joined (op : Operator) (others : List (List String)) : List String :=
  others.flatMap (op.symbol :: ·)

@[simp] theorem joined_nil (op : Operator) : joined op [] = [] := rfl

@[simp] theorem joined_cons (op : Operator) (other : List String) (others : List (List String)) :
    joined op (other :: others) = op.symbol :: (other ++ joined op others) := rfl

/-- The texts are a phrase but for the conditions on literals, ranges and nesting. -/
inductive Outline : Nonterminal → List String → Prop where
  | binding {name : String} {boundTexts bodyTexts : List String}
      (hname : Token.isIdentifier name = true) (hbound : Outline (.chain .plus) boundTexts)
      (hbody : Outline .expression bodyTexts) :
      Outline .expression ("let" :: name :: "=" :: (boundTexts ++ "in" :: bodyTexts))
  | sum {texts : List String} (hsum : Outline (.chain .plus) texts) : Outline .expression texts
  | chain {op : Operator} {texts : List String} {others : List (List String)}
      (hfirst : Outline (operand op) texts)
      (hothers : ∀ other ∈ others, Outline (operand op) other) :
      Outline (.chain op) (texts ++ joined op others)
  | parenthesized {texts : List String} (hinside : Outline .expression texts) :
      Outline .atom ("(" :: (texts ++ [")"]))
  | unbounded : Outline .atom ["?"]
  | input {texts : List String} (hrange : RangeOutline texts) : Outline .atom ("?" :: texts)
  | negation {texts : List String} (hoperand : Outline .atom texts) : Outline .atom ("-" :: texts)
  | literal {text : String} (hnumeral : Token.isNumeral text = true) : Outline .atom [text]
  | var {name : String} (hname : Token.isIdentifier name = true) : Outline .atom [name]

/-- Read from the left, the phrase violates this condition first, and does so neither behind a `+`
or `*` nor in an end of a range. What follows the violation may be anything. -/
inductive Exposes (limit : Nat) : Nonterminal → Nat → List String → Violation → Prop where
  | beyond {nonterminal : Nonterminal} {depth : Nat} {texts : List String}
      (hdepth : limit < depth) : Exposes limit nonterminal depth texts .nestedTooDeeply
  | bound {depth : Nat} {name : String} {boundTexts later : List String} {violation : Violation}
      (hname : Token.isIdentifier name = true)
      (hbound : Exposes limit (.chain .plus) (depth + 1) boundTexts violation) :
      Exposes limit .expression depth ("let" :: name :: "=" :: (boundTexts ++ later)) violation
  | body {depth : Nat} {name : String} {boundTexts bodyTexts : List String} {bound : Expr}
      {violation : Violation} (hdepth : depth < limit) (hname : Token.isIdentifier name = true)
      (hbound : Derives limit (.chain .plus) (depth + 1) boundTexts bound)
      (hbody : Exposes limit .expression (depth + 1) bodyTexts violation) :
      Exposes limit .expression depth
        ("let" :: name :: "=" :: (boundTexts ++ "in" :: bodyTexts)) violation
  | sum {depth : Nat} {texts : List String} {violation : Violation}
      (hsum : Exposes limit (.chain .plus) depth texts violation) :
      Exposes limit .expression depth texts violation
  | first {op : Operator} {depth : Nat} {texts later : List String} {violation : Violation}
      (hfirst : Exposes limit (operand op) depth texts violation) :
      Exposes limit (.chain op) depth (texts ++ later) violation
  | parenthesized {depth : Nat} {texts later : List String} {violation : Violation}
      (hinside : Exposes limit .expression (depth + 1) texts violation) :
      Exposes limit .atom depth ("(" :: (texts ++ later)) violation
  | range {depth : Nat} {texts : List String} {range : Range} {violation : Violation}
      (hdepth : depth ≤ limit) (hrange : Range.Written texts range)
      (hbounds : range.bounds = .error violation) :
      Exposes limit .atom depth ("?" :: texts) violation
  | negation {depth : Nat} {texts : List String} {violation : Violation}
      (hoperand : Exposes limit .atom (depth + 1) texts violation) :
      Exposes limit .atom depth ("-" :: texts) violation
  | literal {depth : Nat} {text : String} (hdepth : depth ≤ limit)
      (hnumeral : Token.isNumeral text = true) (hlarge : ¬ Integer.Fits (decimal text)) :
      Exposes limit .atom depth [text] (.literalTooLarge text)

theorem Signed.outline {texts : List String} {value : Int64} (h : Signed texts value) :
    SignedOutline texts := by
  cases h with
  | plain hnumeral => exact .plain hnumeral
  | minus hnumeral => exact .minus hnumeral

theorem Range.Written.outline {texts : List String} {range : Range} (h : Written texts range) :
    RangeOutline texts := by
  cases h with
  | intro lowerDelimiter upperDelimiter hlower hupper =>
      exact .intro lowerDelimiter upperDelimiter hlower.outline hupper.outline

namespace Outline

theorem chain_of_operand (op : Operator) {texts : List String} (h : Outline (operand op) texts) :
    Outline (.chain op) texts := by
  have hnone : ∀ other ∈ ([] : List (List String)), Outline (operand op) other := by simp
  simpa using Outline.chain h hnone

/-- Operands that follow others have an outline of their own. -/
private def Traces : Nonterminal → List String → Prop
  | .further op _, texts => ∃ others, texts = joined op others ∧
      ∀ other ∈ others, Outline (operand op) other
  | nonterminal, texts => Outline nonterminal texts

private theorem traces_operand (op : Operator) (texts : List String) :
    Traces (operand op) texts ↔ Outline (operand op) texts := by
  cases op <;> rfl

private theorem traces_of_derives {limit depth : Nat} {nonterminal : Nonterminal}
    {texts : List String} {e : Expr} (h : Derives limit nonterminal depth texts e) :
    Traces nonterminal texts := by
  induction h with
  | binding _ hname _ _ ihBound ihBody => exact .binding hname ihBound ihBody
  | sum _ ih => exact .sum ih
  | chain _ _ ihFirst ihLater =>
      obtain ⟨others, rfl, hothers⟩ := ihLater
      exact .chain ((traces_operand ..).mp ihFirst) hothers
  | last => exact ⟨[], rfl, by simp⟩
  | further _ _ ihRight ihLater =>
      obtain ⟨others, rfl, hothers⟩ := ihLater
      exact ⟨_ :: others, rfl, List.forall_mem_cons.mpr ⟨(traces_operand ..).mp ihRight, hothers⟩⟩
  | parenthesized _ _ ih => exact .parenthesized ih
  | unbounded => exact .unbounded
  | input hrange => exact .input hrange.outline
  | negation _ _ ih => exact .negation ih
  | literal hnumeral => exact .literal hnumeral
  | var hname => exact .var hname

/-- What meets all conditions meets those of the outline. -/
theorem of_derives {limit depth : Nat} {op : Operator} {texts : List String} {e : Expr}
    (h : Derives limit (.chain op) depth texts e) : Outline (.chain op) texts :=
  traces_of_derives h

end Outline

/-- The texts that an atom can begin with. -/
def opensAtom (text : String) : Bool :=
  text == "(" || text == "?" || text == "-" || Token.isNumeral text || Token.isIdentifier text

theorem ne_let_of_opensAtom {text : String} (h : opensAtom text = true) : text ≠ "let" := by
  rintro rfl
  exact absurd h (by decide)

def Begins (texts : List String) : Prop :=
  ∃ text rest, texts = text :: rest ∧ opensAtom text = true

theorem Begins.append {texts : List String} (h : Begins texts) (later : List String) :
    Begins (texts ++ later) := by
  obtain ⟨text, rest, rfl, hopens⟩ := h
  exact ⟨text, rest ++ later, rfl, hopens⟩

/-- If the chains among some phrases begin with an operand each, sums begin as atoms do. -/
theorem begins_of_sum (phrases : Nonterminal → List String → Prop)
    (hatom : ∀ texts, phrases .atom texts → Begins texts)
    (hchain : ∀ op texts, phrases (.chain op) texts →
      ∃ first later, texts = first ++ later ∧ phrases (operand op) first)
    {texts : List String} (hsum : phrases (.chain .plus) texts) : Begins texts := by
  obtain ⟨product, addends, rfl, hproduct⟩ := hchain .plus _ hsum
  obtain ⟨atom, factors, rfl, hfirst⟩ := hchain .times _ hproduct
  exact ((hatom atom hfirst).append factors).append addends

theorem Outline.sum_begins {texts : List String} (h : Outline (.chain .plus) texts) :
    Begins texts := by
  refine begins_of_sum Outline ?_ ?_ h
  · intro texts h
    cases h with
    | parenthesized => exact ⟨_, _, rfl, rfl⟩
    | unbounded => exact ⟨_, _, rfl, rfl⟩
    | input => exact ⟨_, _, rfl, rfl⟩
    | negation => exact ⟨_, _, rfl, rfl⟩
    | literal hnumeral => exact ⟨_, _, rfl, by simp [opensAtom, hnumeral]⟩
    | var hname => exact ⟨_, _, rfl, by simp [opensAtom, hname]⟩
  · intro op texts h
    cases h with
    | chain hfirst => exact ⟨_, _, rfl, hfirst⟩

namespace Exposes

variable {limit depth : Nat} {nonterminal : Nonterminal} {texts : List String}
  {violation : Violation}

theorem eq_of_beyond (h : Exposes limit nonterminal depth texts violation)
    (hdepth : limit < depth) : violation = .nestedTooDeeply := by
  induction h with
  | beyond => rfl
  | bound _ _ ih => exact ih (by omega)
  | body hwithin => omega
  | sum _ ih => exact ih hdepth
  | first _ ih => exact ih hdepth
  | parenthesized _ ih => exact ih (by omega)
  | range hwithin => omega
  | negation _ ih => exact ih (by omega)
  | literal hwithin => omega

theorem sum_begins (hdepth : depth ≤ limit)
    (h : Exposes limit (.chain .plus) depth texts violation) : Begins texts := by
  refine begins_of_sum (fun nonterminal texts => Exposes limit nonterminal depth texts violation)
    ?_ ?_ h
  · intro texts h
    cases h with
    | beyond hbeyond => omega
    | parenthesized => exact ⟨_, _, rfl, rfl⟩
    | range => exact ⟨_, _, rfl, rfl⟩
    | negation => exact ⟨_, _, rfl, rfl⟩
    | literal _ hnumeral => exact ⟨_, _, rfl, by simp [opensAtom, hnumeral]⟩
  · intro op texts h
    cases h with
    | beyond hbeyond => omega
    | first hfirst => exact ⟨_, _, rfl, hfirst⟩

end Exposes

end RangeCalc.Grammar
