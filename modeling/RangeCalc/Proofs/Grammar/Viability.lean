import RangeCalc.Proofs.Grammar.Openings
import RangeCalc.Proofs.Grammar.Recognition

/-! Where a rule misses a token. Something can follow the texts before that place, so that together
they derive an expression, if only it may nest deeply enough. -/

namespace RangeCalc.Grammar

open RangeCalc.Parser

/-- Some texts behind these complete a phrase, with as much nesting as it needs. -/
def Viable (nonterminal : Nonterminal) (depth : Nat) (texts : List String) : Prop :=
  ∃ limit later e, Derives limit nonterminal depth (texts ++ later) e

namespace Viable

variable {limit depth : Nat} {nonterminal : Nonterminal} {texts later : List String}
  {name : String} {e : Expr}

theorem of_derives (h : Derives limit nonterminal depth texts e) :
    Viable nonterminal depth texts :=
  ⟨limit, [], e, by rwa [List.append_nil]⟩

theorem of_append (h : Viable nonterminal depth (texts ++ later)) :
    Viable nonterminal depth texts := by
  obtain ⟨limit, further, e, hderives⟩ := h
  exact ⟨limit, later ++ further, e, by rwa [← List.append_assoc]⟩

theorem operand (op : Operator) (h : Viable (operand op) depth texts) :
    Viable (.chain op) depth texts := by
  obtain ⟨limit, later, e, hderives⟩ := h
  exact ⟨limit, later, e, hderives.chain_of_operand⟩

theorem sum (h : Viable (.chain .plus) depth texts) : Viable .expression depth texts := by
  obtain ⟨limit, later, e, hderives⟩ := h
  exact ⟨limit, later, e, .sum hderives⟩

/-- A question mark is a phrase of every kind. -/
theorem nil (nonterminal : Nonterminal) (depth : Nat) : Viable nonterminal depth [] := by
  have hatom : Viable .atom depth [] := ⟨depth, ["?"], .unbounded, .unbounded⟩
  have hproduct : Viable (.chain .times) depth [] := operand .times hatom
  have hsum : Viable (.chain .plus) depth [] := operand .plus hproduct
  match nonterminal with
  | .expression => exact hsum.sum
  | .chain .plus => exact hsum
  | .chain .times => exact hproduct
  | .further _ left => exact ⟨depth, [], left, .last⟩
  | .atom => exact hatom

theorem parenthesized (h : Viable .expression (depth + 1) texts) :
    Viable .atom depth ("(" :: texts) := by
  obtain ⟨limit, later, e, hderives⟩ := h
  have hdeeper := hderives.mono (Nat.le_max_left limit (depth + 1))
  have hatom := Derives.parenthesized (Nat.le_max_right limit (depth + 1)) hdeeper
  exact ⟨_, later ++ [")"], e, by simpa using hatom⟩

theorem negation (h : Viable .atom (depth + 1) texts) : Viable .atom depth ("-" :: texts) := by
  obtain ⟨limit, later, e, hderives⟩ := h
  have hdeeper := hderives.mono (Nat.le_max_left limit (depth + 1))
  exact ⟨_, later, _, .negation (Nat.le_max_right limit (depth + 1)) hdeeper⟩

theorem body {boundTexts : List String} (hname : Token.isIdentifier name = true)
    (hbound : Derives limit (.chain .plus) (depth + 1) boundTexts e)
    (h : Viable .expression (depth + 1) texts) :
    Viable .expression depth ("let" :: name :: "=" :: (boundTexts ++ "in" :: texts)) := by
  obtain ⟨limit', later, body, hbody⟩ := h
  have hlimits := Nat.le_max_left (max limit limit') (depth + 1)
  have hbound := hbound.mono (Nat.le_trans (Nat.le_max_left ..) hlimits)
  have hbody := hbody.mono (Nat.le_trans (Nat.le_max_right ..) hlimits)
  have hbinding := Derives.binding (Nat.le_max_right ..) hname hbound hbody
  exact ⟨_, later, _, by simpa using hbinding⟩

theorem bound (hname : Token.isIdentifier name = true)
    (h : Viable (.chain .plus) (depth + 1) texts) :
    Viable .expression depth ("let" :: name :: "=" :: texts) := by
  obtain ⟨limit, later, e, hbound⟩ := h
  have hbody := body hname hbound (nil .expression (depth + 1))
  rw [List.append_assoc] at hbody
  have hbeginning : Viable .expression depth
      (("let" :: name :: "=" :: texts) ++ (later ++ ["in"])) :=
    hbody
  exact hbeginning.of_append

end Viable

/-- A failure at `rest` is for a violation, or it misses some token there, and the texts from
`start` on can be part of a phrase. -/
def Reported (nonterminal : Nonterminal) (depth : Nat) (start : Cursor Token) (message : String)
    (rest : Cursor Token) : Prop :=
  (∃ violation : Violation, message = violation.message) ∨
    ∃ what texts, message = expecting what rest ∧ Reads start texts rest ∧
      Viable nonterminal depth texts

def Reports (nonterminal : Nonterminal) (depth : Nat) (rule : Rule Expr) : Prop :=
  ∀ ⦃start message rest⦄, rule.run start = .failed message rest →
    Reported nonterminal depth start message rest

section Reports

variable {limit depth depth' : Nat} {nonterminal nonterminal' : Nonterminal}
  {start middle rest : Cursor Token} {message what : String} {texts : List String}
  {accepts : String → Bool}

/-- What is reported on a part is reported on the whole, if that can go on wherever the part
can. -/
theorem Reported.behind (hpart : Reported nonterminal depth middle message rest)
    (hbefore : Reads start texts middle)
    (hwhole : ∀ later, Viable nonterminal depth later →
      Viable nonterminal' depth' (texts ++ later)) :
    Reported nonterminal' depth' start message rest := by
  rcases hpart with hviolation | ⟨what, later, hmessage, hlater, hviable⟩
  · exact .inl hviolation
  · exact .inr ⟨what, _, hmessage, hbefore.append hlater, hwhole later hviable⟩

theorem reported_of_violation (violation : Violation) :
    Reported nonterminal depth start violation.message rest :=
  .inl ⟨violation, rfl⟩

theorem reported_of_missing (hbefore : Reads start texts middle)
    (hviable : Viable nonterminal depth texts)
    (hmissing : (tokenWhere accepts what).run middle = .failed message rest) :
    Reported nonterminal depth start message rest := by
  obtain ⟨-, rfl, rfl⟩ := run_tokenWhere_eq_failed_iff.mp hmissing
  exact .inr ⟨what, texts, rfl, hbefore, hviable⟩

theorem reports_reject (violation : Violation) : Reports nonterminal depth (reject violation) := by
  intro start message rest hrun
  cases hrun
  exact reported_of_violation violation

theorem reports_natural : Reports .atom depth (natural.map .literal) := by
  intro start message rest hrun
  rw [run_map_eq_failed_iff, natural, run_bind_eq_failed_iff, numeral, run_map_eq_failed_iff]
    at hrun
  rcases hrun with hnumeral | ⟨text, middle, -, hvalue⟩
  · exact reported_of_missing (.refl start) (.nil ..) hnumeral
  · unfold valueOf at hvalue
    split at hvalue
    · cases hvalue
    · cases hvalue
      exact reported_of_violation _

theorem reports_identifier : Reports .atom depth (identifier.map .var) := by
  intro start message rest hrun
  rw [run_map_eq_failed_iff, identifier, run_map_eq_failed_iff] at hrun
  exact reported_of_missing (.refl start) (.nil ..) hrun

theorem reports_input : Reports .atom depth input := by
  intro start message rest hrun
  rw [input, run_bind_eq_failed_iff, run_keyword_keepRight_eq_failed_iff] at hrun
  rcases hrun with (hmark | ⟨middle, -, hrange⟩) | ⟨found, middle, -, hinput⟩
  · exact reported_of_missing (.refl start) (.nil ..) hmark
  · exact absurd hrange run_optional_ne_failed
  · unfold inputOf at hinput
    split at hinput
    · cases hinput
    · split at hinput
      · cases hinput
      · cases hinput
        exact reported_of_violation _

/-- Only the first operand can fail: the others end the chain instead. -/
theorem reports_chain (op : Operator) {rule : Rule Expr}
    (hrule : Reports (operand op) depth rule) : Reports (.chain op) depth (chain op rule) := by
  intro start message rest hrun
  rw [chain, run_map_eq_failed_iff, run_pair_eq_failed_iff] at hrun
  rcases hrun with hfirst | ⟨_, middle, -, hothers⟩
  · exact (hrule hfirst).behind (.refl start) fun _ => .operand op
  · exact absurd ⟨message, rest, hothers⟩ not_failsAt_many

theorem reports_parenthesized {rule : Rule Expr} (hrule : Reports .expression (depth + 1) rule)
    (hrecognizes : Recognizes limit .expression (depth + 1) rule) :
    Reports .atom depth (parenthesized rule) := by
  intro start message rest hrun
  rw [parenthesized, run_keepLeft_eq_failed_iff, run_keyword_keepRight_eq_failed_iff] at hrun
  rcases hrun with (hopening | ⟨inside, hopening, hinside⟩) | ⟨e, beyond, hinside, hclosing⟩
  · exact reported_of_missing (.refl start) (.nil ..) hopening
  · exact (hrule hinside).behind hopening fun _ => .parenthesized
  · obtain ⟨inside, hopening, hexpression⟩ := run_keyword_keepRight_eq_done_iff.mp hinside
    obtain ⟨-, texts, hreads, hderives⟩ := hrecognizes.sound hexpression
    have hviable := (Viable.of_derives hderives).parenthesized
    exact reported_of_missing (hopening.cons hreads) hviable hclosing

theorem reports_negation {rule : Rule Expr} (hrule : Reports .atom (depth + 1) rule) :
    Reports .atom depth (negation rule) := by
  intro start message rest hrun
  rw [negation, run_map_eq_failed_iff, run_keyword_keepRight_eq_failed_iff] at hrun
  rcases hrun with hminus | ⟨inside, hminus, hoperand⟩
  · exact reported_of_missing (.refl start) (.nil ..) hminus
  · exact (hrule hoperand).behind hminus fun _ => .negation

theorem reported_of_head (hrun : head.run start = .failed message rest) :
    Reported .expression depth start message rest := by
  rw [head, run_keepLeft_eq_failed_iff, run_keyword_keepRight_eq_failed_iff] at hrun
  rcases hrun with (hlet | ⟨beforeName, hlet, hname⟩) | ⟨name, beforeEquals, hname, hequals⟩
  · exact reported_of_missing (.refl start) (.nil ..) hlet
  · rw [identifier, run_map_eq_failed_iff] at hname
    have hviable : Viable .expression depth ["let", "x", "="] := .bound (by decide) (.nil ..)
    exact reported_of_missing hlet (.of_append hviable) hname
  · obtain ⟨beforeName, hlet, hname⟩ := run_keyword_keepRight_eq_done_iff.mp hname
    obtain ⟨hnameReads, hidentifier⟩ := run_identifier_eq_done_iff.mp hname
    have hviable : Viable .expression depth ["let", name, "="] := .bound hidentifier (.nil ..)
    exact reported_of_missing (hlet.cons hnameReads) (.of_append hviable) hequals

theorem reports_binding {boundRule bodyRule : Rule Expr}
    (hbound : Reports (.chain .plus) (depth + 1) boundRule)
    (hrecognizes : Recognizes limit (.chain .plus) (depth + 1) boundRule)
    (hbody : Reports .expression (depth + 1) bodyRule) :
    Reports .expression depth (binding boundRule bodyRule) := by
  intro start message rest hrun
  rw [binding_eq, run_map_eq_failed_iff, run_pair_eq_failed_iff, run_keepLeft_eq_failed_iff,
    run_pair_eq_failed_iff] at hrun
  rcases hrun with ((hhead | ⟨name, beforeBound, hhead, hboundRun⟩) | ⟨⟨name, e⟩, beforeIn, hpair,
    hin⟩) | ⟨⟨name, e⟩, beforeBody, hkeep, hbodyRun⟩
  · exact reported_of_head hhead
  · obtain ⟨hreads, hname⟩ := run_head_eq_done_iff.mp hhead
    exact (hbound hboundRun).behind hreads fun _ => .bound hname
  · obtain ⟨beforeBound, hhead, hboundRun⟩ := run_pair_eq_done_iff.mp hpair
    obtain ⟨hreads, hname⟩ := run_head_eq_done_iff.mp hhead
    obtain ⟨-, texts, hboundReads, hderives⟩ := hrecognizes.sound hboundRun
    have hviable := Viable.bound hname (.of_derives hderives)
    exact reported_of_missing (hreads.append hboundReads) hviable hin
  · obtain ⟨beforeIn, hpair, hin⟩ := run_keepLeft_keyword_eq_done_iff.mp hkeep
    obtain ⟨beforeBound, hhead, hboundRun⟩ := run_pair_eq_done_iff.mp hpair
    obtain ⟨hreads, hname⟩ := run_head_eq_done_iff.mp hhead
    obtain ⟨-, texts, hboundReads, hderives⟩ := hrecognizes.sound hboundRun
    refine (hbody hbodyRun).behind ((hreads.append hboundReads).append hin) ?_
    intro later hviable
    have hwhole := hviable.body hname hderives
    rwa [List.append_assoc, List.append_assoc]

theorem Forms.Apart.reports {forms : Forms Expr} (hforms : forms.Apart)
    (hreports : ∀ form ∈ forms, Reports nonterminal depth form.2) :
    Reports nonterminal depth ((choice forms.rules).label (expecting what)) := by
  intro start message rest hrun
  by_cases hoffers : Offers start forms.accepts
  · obtain ⟨form, hmem, hform⟩ := exists_of_offers hoffers
    rw [hforms.run_of_offers hmem hform] at hrun
    exact hreports form hmem hrun
  · rw [hforms.run_of_not_offers hoffers] at hrun
    cases hrun
    exact .inr ⟨what, [], rfl, .refl start, .nil ..⟩

end Reports

structure Level.Reports (depth : Nat) (level : Level) : Prop where
  expression : Grammar.Reports .expression depth level.expression
  sum : Grammar.Reports (.chain .plus) depth level.sum
  atom : Grammar.Reports .atom depth level.atom

namespace Level

variable {limit depth : Nat} {inner : Unit → Level}

theorem reports_forbidden : forbidden.Reports depth where
  expression := reports_reject _
  sum := reports_reject _
  atom := reports_reject _

theorem reports_around (hinner : (inner ()).Reports (depth + 1)) (hforward : (inner ()).Forward)
    (hrecognizes : (inner ()).Recognizes limit (depth + 1)) : (around inner).Reports depth := by
  have hatom : Grammar.Reports .atom depth (atomOver inner) := by
    apply (apart_atomForms hforward).reports
    simp only [atomForms, List.forall_mem_cons]
    exact ⟨reports_parenthesized hinner.expression hrecognizes.expression, reports_input,
      reports_negation hinner.atom, reports_natural, reports_identifier, by simp⟩
  have hsum : Grammar.Reports (.chain .plus) depth (sumOver inner) :=
    reports_chain .plus (reports_chain .times hatom)
  have hbinding : Grammar.Reports .expression depth (bindingOver inner) :=
    reports_binding hinner.sum hrecognizes.sum hinner.expression
  have hsumExpression : Grammar.Reports .expression depth (sumOver inner) :=
    fun start _ _ hrun => (hsum hrun).behind (.refl start) fun _ => .sum
  refine ⟨(apart_expressionForms hforward).reports ?_, hsum, hatom⟩
  simp only [expressionForms, List.forall_mem_cons]
  exact ⟨hbinding, hsumExpression, by simp⟩

theorem reports_allowing (room : Nat) : (allowing room).Reports depth := by
  induction room generalizing depth with
  | zero =>
      exact reports_around reports_forbidden forward_forbidden
        (recognizes_forbidden (Nat.lt_succ_self depth))
  | succ room ih =>
      exact reports_around ih (forward_allowing room) (recognizes_allowing room rfl)

end Level

theorem reports_program : Reports .expression 0 program := by
  intro start message rest hrun
  have hexpression : Reports .expression 0 expression :=
    (Level.reports_allowing maxNesting).expression
  rw [program, run_keepLeft_eq_failed_iff] at hrun
  rcases hrun with hrun | ⟨e, middle, hdone, hend⟩
  · exact hexpression hrun
  · obtain ⟨-, texts, hreads, hderives⟩ := recognizes_expression.sound hdone
    obtain ⟨-, rfl, rfl⟩ := run_endOfInput_label_eq_failed_iff.mp hend
    exact .inr ⟨_, texts, rfl, hreads, .of_derives hderives⟩

end RangeCalc.Grammar
