import RangeCalc.Proofs.Grammar.Openings
import RangeCalc.Proofs.Grammar.Outline
import RangeCalc.Proofs.Grammar.Recognition

/-! What becomes of a violation. A rule fails for one that it meets in a first operand. A later
operand with a violation is not taken, nor is a range with a numeral that does not fit: the phrase
ends before it, and then the token there is one too many. -/

namespace RangeCalc.Grammar

open RangeCalc.Parser

variable {limit depth : Nat} {nonterminal : Nonterminal} {rule : Rule Expr}
  {start stop : Cursor Token} {texts : List String} {violation : Violation}

/-! A rule fails as the part fails that it is at. -/

section Parts

variable {inside rest : Cursor Token} {message : String}

theorem run_chain_of_failed (op : Operator) (hrun : rule.run start = .failed message rest) :
    (chain op rule).run start = .failed message rest := by
  rw [chain, run_map_eq_failed_iff, run_pair_eq_failed_iff]
  exact .inl hrun

theorem run_parenthesized_of_failed (hopening : Reads start ["("] inside)
    (hrun : rule.run inside = .failed message rest) :
    (parenthesized rule).run start = .failed message rest := by
  rw [parenthesized, run_keepLeft_eq_failed_iff, run_keyword_keepRight_eq_failed_iff]
  exact .inl (.inr ⟨inside, hopening, hrun⟩)

theorem run_parenthesized_of_unclosed {e : Expr} {middle : Cursor Token}
    (hopening : Reads start ["("] inside) (hinside : rule.run inside = .done e middle)
    (hrun : (keyword ")").run middle = .failed message rest) :
    (parenthesized rule).run start = .failed message rest := by
  have hkeep := run_keyword_keepRight_eq_done_iff.mpr ⟨inside, hopening, hinside⟩
  rw [parenthesized, run_keepLeft_eq_failed_iff]
  exact .inr ⟨e, middle, hkeep, hrun⟩

theorem run_negation_of_failed (hminus : Reads start ["-"] inside)
    (hrun : rule.run inside = .failed message rest) :
    (negation rule).run start = .failed message rest := by
  rw [negation, run_map_eq_failed_iff, run_keyword_keepRight_eq_failed_iff]
  exact .inr ⟨inside, hminus, hrun⟩

theorem exists_head {name : String} (hname : Token.isIdentifier name = true)
    (hreads : Reads start ("let" :: name :: "=" :: texts) stop) :
    ∃ beforeBound, head.run start = .done name beforeBound ∧ Reads beforeBound texts stop := by
  have hparts : Reads start (["let", name, "="] ++ texts) stop := hreads
  obtain ⟨beforeBound, hhead, hbeyond⟩ := Reads.append_iff.mp hparts
  exact ⟨beforeBound, run_head_eq_done_iff.mpr ⟨hhead, hname⟩, hbeyond⟩

variable {boundRule : Rule Expr} {name : String} {bound : Expr}
  {beforeBound beforeIn beforeBody : Cursor Token}

theorem run_binding_of_bound_failed (bodyRule : Rule Expr)
    (hhead : head.run start = .done name beforeBound)
    (hrun : boundRule.run beforeBound = .failed message rest) :
    (binding boundRule bodyRule).run start = .failed message rest := by
  rw [binding_eq, run_map_eq_failed_iff, run_pair_eq_failed_iff, run_keepLeft_eq_failed_iff,
    run_pair_eq_failed_iff]
  exact .inl (.inl (.inr ⟨name, beforeBound, hhead, hrun⟩))

theorem run_binding_of_unclosed (bodyRule : Rule Expr)
    (hhead : head.run start = .done name beforeBound)
    (hbound : boundRule.run beforeBound = .done bound beforeIn)
    (hrun : (keyword "in").run beforeIn = .failed message rest) :
    (binding boundRule bodyRule).run start = .failed message rest := by
  have hpair : (head.pair boundRule).run start = .done (name, bound) beforeIn :=
    run_pair_eq_done_iff.mpr ⟨beforeBound, hhead, hbound⟩
  rw [binding_eq, run_map_eq_failed_iff, run_pair_eq_failed_iff, run_keepLeft_eq_failed_iff]
  exact .inl (.inr ⟨(name, bound), beforeIn, hpair, hrun⟩)

private theorem run_bound {boundRule : Rule Expr} (hhead : head.run start = .done name beforeBound)
    (hbound : boundRule.run beforeBound = .done bound beforeIn)
    (hin : Reads beforeIn ["in"] beforeBody) :
    ((head.pair boundRule).keepLeft (keyword "in")).run start = .done (name, bound) beforeBody := by
  have hpair : (head.pair boundRule).run start = .done (name, bound) beforeIn :=
    run_pair_eq_done_iff.mpr ⟨beforeBound, hhead, hbound⟩
  exact run_keepLeft_keyword_eq_done_iff.mpr ⟨beforeIn, hpair, hin⟩

theorem run_binding_of_body_failed {bodyRule : Rule Expr}
    (hhead : head.run start = .done name beforeBound)
    (hbound : boundRule.run beforeBound = .done bound beforeIn)
    (hin : Reads beforeIn ["in"] beforeBody)
    (hrun : bodyRule.run beforeBody = .failed message rest) :
    (binding boundRule bodyRule).run start = .failed message rest := by
  rw [binding_eq, run_map_eq_failed_iff, run_pair_eq_failed_iff]
  exact .inr ⟨(name, bound), beforeBody, run_bound hhead hbound hin, hrun⟩

theorem run_binding_of_done {bodyRule : Rule Expr} {body : Expr}
    (hhead : head.run start = .done name beforeBound)
    (hbound : boundRule.run beforeBound = .done bound beforeIn)
    (hin : Reads beforeIn ["in"] beforeBody) (hrun : bodyRule.run beforeBody = .done body rest) :
    (binding boundRule bodyRule).run start = .done (.letIn name bound body) rest := by
  rw [binding_eq, run_map_eq_done_iff]
  refine ⟨((name, bound), body), ?_, rfl⟩
  exact run_pair_eq_done_iff.mpr ⟨beforeBody, run_bound hhead hbound hin, hrun⟩

end Parts

/-! A violation that a phrase exposes is what the rule fails for. -/

def Blames (limit : Nat) (nonterminal : Nonterminal) (depth : Nat) (rule : Rule Expr) : Prop :=
  ∀ ⦃texts violation start stop⦄, Exposes limit nonterminal depth texts violation →
    Reads start texts stop → ∃ rest, rule.run start = .failed violation.message rest

theorem blames_beyond (hdepth : limit < depth) :
    Blames limit nonterminal depth (reject .nestedTooDeeply) := by
  intro texts violation start stop hexposes _
  obtain rfl := hexposes.eq_of_beyond hdepth
  exact ⟨start, rfl⟩

theorem Blames.chain {op : Operator} (hdepth : depth ≤ limit)
    (hrule : Blames limit (operand op) depth rule) :
    Blames limit (.chain op) depth (chain op rule) := by
  intro texts violation start stop hexposes hreads
  cases hexposes with
  | beyond hbeyond => omega
  | first hfirst =>
      obtain ⟨middle, hfirstReads, -⟩ := Reads.append_iff.mp hreads
      obtain ⟨rest, hrun⟩ := hrule hfirst hfirstReads
      exact ⟨rest, run_chain_of_failed op hrun⟩

theorem Blames.parenthesized (hrule : Blames limit .expression (depth + 1) rule)
    (hexposes : Exposes limit .expression (depth + 1) texts violation) {later : List String}
    (hreads : Reads start ("(" :: (texts ++ later)) stop) :
    ∃ rest, (parenthesized rule).run start = .failed violation.message rest := by
  obtain ⟨inside, hopening, hreads⟩ := Reads.cons_iff_exists_singleton.mp hreads
  obtain ⟨middle, hinside, -⟩ := Reads.append_iff.mp hreads
  obtain ⟨rest, hrun⟩ := hrule hexposes hinside
  exact ⟨rest, run_parenthesized_of_failed hopening hrun⟩

theorem Blames.negation (hrule : Blames limit .atom (depth + 1) rule)
    (hexposes : Exposes limit .atom (depth + 1) texts violation)
    (hreads : Reads start ("-" :: texts) stop) :
    ∃ rest, (negation rule).run start = .failed violation.message rest := by
  obtain ⟨inside, hminus, hreads⟩ := Reads.cons_iff_exists_singleton.mp hreads
  obtain ⟨rest, hrun⟩ := hrule hexposes hreads
  exact ⟨rest, run_negation_of_failed hminus hrun⟩

theorem run_input_of_bounds_error {range : Range} (hrange : Range.Written texts range)
    (hbounds : range.bounds = .error violation) (hreads : Reads start ("?" :: texts) stop) :
    input.run start = .failed violation.message stop := by
  obtain ⟨middle, hmark, hreads⟩ := Reads.cons_iff_exists_singleton.mp hreads
  have hrange := run_range_eq_done_iff.mpr ⟨texts, hreads, hrange⟩
  have hoptional := run_optional_eq_done_iff.mpr (.inl ⟨range, hrange, rfl⟩)
  have hkeep := run_keyword_keepRight_eq_done_iff.mpr ⟨middle, hmark, hoptional⟩
  refine run_bind_eq_failed_iff.mpr (.inr ⟨some range, stop, hkeep, ?_⟩)
  simp [inputOf, hbounds, reject]

theorem run_natural_of_not_fits {text : String} (hnumeral : Token.isNumeral text = true)
    (hlarge : ¬ Integer.Fits (decimal text)) (hreads : Reads start [text] stop) :
    natural.run start = .failed (Violation.literalTooLarge text).message stop := by
  have hrun := run_numeral_eq_done_iff.mpr ⟨hreads, hnumeral⟩
  refine run_bind_eq_failed_iff.mpr (.inr ⟨text, stop, hrun, ?_⟩)
  have hread : Integer.read? text.toList = none := by
    rw [read?_of_isNumeral hnumeral]
    exact Integer.fit?_eq_none_iff.mpr hlarge
  simp [valueOf, hread, reject]

theorem Blames.bound {boundRule : Rule Expr} (bodyRule : Rule Expr) {name : String}
    {later : List String} (hbound : Blames limit (.chain .plus) (depth + 1) boundRule)
    (hname : Token.isIdentifier name = true)
    (hexposes : Exposes limit (.chain .plus) (depth + 1) texts violation)
    (hreads : Reads start ("let" :: name :: "=" :: (texts ++ later)) stop) :
    ∃ rest, (binding boundRule bodyRule).run start = .failed violation.message rest := by
  obtain ⟨beforeBound, hhead, hreads⟩ := exists_head hname hreads
  obtain ⟨middle, hboundReads, -⟩ := Reads.append_iff.mp hreads
  obtain ⟨rest, hrun⟩ := hbound hexposes hboundReads
  exact ⟨rest, run_binding_of_bound_failed bodyRule hhead hrun⟩

theorem Blames.body {boundRule bodyRule : Rule Expr} {name : String} {boundTexts : List String}
    {bound : Expr} (hbody : Blames limit .expression (depth + 1) bodyRule)
    (hrecognizes : Recognizes limit (.chain .plus) (depth + 1) boundRule)
    (hdepth : depth < limit) (hname : Token.isIdentifier name = true)
    (hbound : Derives limit (.chain .plus) (depth + 1) boundTexts bound)
    (hexposes : Exposes limit .expression (depth + 1) texts violation)
    (hreads : Reads start ("let" :: name :: "=" :: (boundTexts ++ "in" :: texts)) stop) :
    ∃ rest, (binding boundRule bodyRule).run start = .failed violation.message rest := by
  obtain ⟨beforeBound, hhead, hreads⟩ := exists_head hname hreads
  obtain ⟨beforeIn, hboundReads, hreads⟩ := Reads.append_iff.mp hreads
  have hboundRun := hrecognizes.complete hdepth hbound hboundReads
    (Nonterminal.ends_of_reads hreads (by decide))
  obtain ⟨beforeBody, hin, hreads⟩ := Reads.cons_iff_exists_singleton.mp hreads
  obtain ⟨rest, hrun⟩ := hbody hexposes hreads
  exact ⟨rest, run_binding_of_body_failed hhead hboundRun hin hrun⟩

structure Level.Blames (limit depth : Nat) (level : Level) : Prop where
  expression : Grammar.Blames limit .expression depth level.expression
  sum : Grammar.Blames limit (.chain .plus) depth level.sum
  atom : Grammar.Blames limit .atom depth level.atom

namespace Level

variable {inner : Unit → Level}

theorem blames_forbidden (hdepth : limit < depth) : forbidden.Blames limit depth where
  expression := blames_beyond hdepth
  sum := blames_beyond hdepth
  atom := blames_beyond hdepth

private theorem blames_atomOver (hdepth : depth ≤ limit) (hforward : (inner ()).Forward)
    (hinner : (inner ()).Blames limit (depth + 1)) :
    Grammar.Blames limit .atom depth (atomOver inner) := by
  intro texts violation start stop hexposes hreads
  cases hexposes with
  | beyond hbeyond => omega
  | parenthesized hinside =>
      rw [run_atomOver_parenthesized hforward hreads]
      exact hinner.expression.parenthesized hinside hreads
  | range _ hrange hbounds =>
      rw [run_atomOver_input hforward hreads]
      exact ⟨stop, run_input_of_bounds_error hrange hbounds hreads⟩
  | negation hoperand =>
      rw [run_atomOver_negation hforward hreads]
      exact hinner.atom.negation hoperand hreads
  | literal _ hnumeral hlarge =>
      rw [run_atomOver_literal hforward hreads hnumeral]
      have hrun := run_natural_of_not_fits hnumeral hlarge hreads
      exact ⟨stop, run_map_eq_failed_iff.mpr hrun⟩

theorem blames_around (hdepth : depth ≤ limit) (hforward : (inner ()).Forward)
    (hrecognizes : (inner ()).Recognizes limit (depth + 1))
    (hinner : (inner ()).Blames limit (depth + 1)) : (around inner).Blames limit depth := by
  have hatom := blames_atomOver hdepth hforward hinner
  have hsum : Grammar.Blames limit (.chain .plus) depth (sumOver inner) :=
    .chain hdepth (.chain hdepth hatom)
  refine ⟨?_, hsum, hatom⟩
  intro texts violation start stop hexposes hreads
  cases hexposes with
  | beyond hbeyond => omega
  | bound hname hbound =>
      rw [run_expression_binding hforward hreads]
      exact hinner.sum.bound _ hname hbound hreads
  | body hwithin hname hbound hbody =>
      rw [run_expression_binding hforward hreads]
      exact hinner.expression.body hrecognizes.sum hwithin hname hbound hbody hreads
  | sum hexposes =>
      obtain ⟨text, rest, rfl, hopens⟩ := hexposes.sum_begins hdepth
      rw [run_expression_sum hforward hreads hopens]
      exact hsum hexposes hreads

theorem blames_allowing (room : Nat) (hlimit : depth + room = limit) :
    (allowing room).Blames limit depth := by
  induction room generalizing depth with
  | zero =>
      exact blames_around (by omega) forward_forbidden (recognizes_forbidden (by omega))
        (blames_forbidden (by omega))
  | succ room ih =>
      exact blames_around (by omega) (forward_allowing room) (recognizes_allowing room (by omega))
        (ih (by omega))

end Level

theorem run_program_of_exposes (hexposes : Exposes maxNesting .expression 0 texts violation)
    (hreads : Reads start texts stop) :
    ∃ rest, program.run start = .failed violation.message rest := by
  have hblames := (Level.blames_allowing maxNesting (Nat.zero_add _)).expression
  obtain ⟨rest, hrun⟩ := hblames hexposes hreads
  exact ⟨rest, run_keepLeft_eq_failed_iff.mpr (.inl hrun)⟩

end RangeCalc.Grammar
