import RangeCalc.Proofs.Grammar.Openings

/-! What is said of a failure. Behind its first token every rule has a message of its own, made for
the token where it stops. What a rule says of its first token is replaced by the rule around it. -/

namespace RangeCalc.Grammar

open RangeCalc.Parser

/-- What a message can say is missing. -/
def missing : List String :=
  ["an expression", "identifier", "'='", "'in'", "')'", "an operator or end of input"]

/-- What is quoted as a literal consists of digits. -/
def Violation.Legible : Violation → Prop
  | literalTooLarge numeral => Token.isNumeral numeral = true
  | _ => True

/-- The message is for a violation, or it names what is missing at `rest`. -/
inductive Explained (rest : Cursor Token) : String → Prop where
  | violation {violation : Violation} (hlegible : violation.Legible) :
      Explained rest violation.message
  | missing {what : String} (hwhat : what ∈ missing) : Explained rest (expecting what rest)

def Explains {α : Type} (rule : Rule α) : Prop :=
  ∀ ⦃start message rest⦄, rule.run start = .failed message rest → Explained rest message

/-- Failures at the start aside, for which another rule speaks. -/
def ExplainsBeyond {α : Type} (rule : Rule α) : Prop :=
  ∀ ⦃start message rest⦄, rule.run start = .failed message rest →
    start.position < rest.position → Explained rest message

section Rules

variable {α : Type} {rule boundRule bodyRule : Rule Expr} {next : Rule α}
  {start rest : Cursor Token} {message what : String} {accepts : String → Bool}

theorem Explains.beyond (h : Explains next) : ExplainsBeyond next :=
  fun _ _ _ hrun _ => h hrun

theorem explainsBeyond_tokenWhere (accepts : String → Bool) (what : String) :
    ExplainsBeyond (tokenWhere accepts what) := by
  intro start message rest hrun hbeyond
  obtain ⟨-, -, rfl⟩ := run_tokenWhere_eq_failed_iff.mp hrun
  exact absurd hbeyond (Nat.lt_irrefl _)

theorem explains_tokenWhere (accepts : String → Bool) (hwhat : what ∈ missing) :
    Explains (tokenWhere accepts what) := by
  intro start message rest hrun
  obtain ⟨-, rfl, rfl⟩ := run_tokenWhere_eq_failed_iff.mp hrun
  exact .missing hwhat

theorem explains_identifier : Explains identifier := by
  intro start message rest hrun
  rw [identifier, run_map_eq_failed_iff] at hrun
  exact explains_tokenWhere _ (by decide) hrun

theorem explains_reject {violation : Violation} (hlegible : violation.Legible) :
    Explains (reject violation : Rule α) := by
  intro start message rest hrun
  cases hrun
  exact .violation hlegible

/-- Behind a keyword the message is that of the rule that follows. -/
theorem explainsBeyond_keyword_keepRight (text : String) (hnext : Explains next) :
    ExplainsBeyond ((keyword text).keepRight next) := by
  intro start message rest hrun hbeyond
  rcases run_keyword_keepRight_eq_failed_iff.mp hrun with hkeyword | ⟨middle, -, hrest⟩
  · exact explainsBeyond_tokenWhere _ _ hkeyword hbeyond
  · exact hnext hrest

theorem ExplainsBeyond.map {β : Type} {p : Rule α} (hp : ExplainsBeyond p) (f : α → β) :
    ExplainsBeyond (p.map f) :=
  fun _ _ _ hrun hbeyond => hp (run_map_eq_failed_iff.mp hrun) hbeyond

theorem ExplainsBeyond.pair {β : Type} {p : Rule α} {q : Rule β} (hp : ExplainsBeyond p)
    (hq : Explains q) : ExplainsBeyond (p.pair q) := by
  intro start message rest hrun hbeyond
  rcases run_pair_eq_failed_iff.mp hrun with hfirst | ⟨_, middle, -, hlater⟩
  · exact hp hfirst hbeyond
  · exact hq hlater

theorem ExplainsBeyond.keepLeft {β : Type} {p : Rule α} {q : Rule β} (hp : ExplainsBeyond p)
    (hq : Explains q) : ExplainsBeyond (p.keepLeft q) :=
  (hp.pair hq).map _

theorem explainsBeyond_natural : ExplainsBeyond natural := by
  intro start message rest hrun hbeyond
  rw [natural, run_bind_eq_failed_iff] at hrun
  rcases hrun with hnumeral | ⟨text, middle, hnumeral, hvalue⟩
  · exact (explainsBeyond_tokenWhere _ _).map _ hnumeral hbeyond
  · have hlegible : (Violation.literalTooLarge text).Legible :=
      (run_numeral_eq_done_iff.mp hnumeral).2
    unfold valueOf at hvalue
    split at hvalue
    · cases hvalue
    · exact explains_reject hlegible hvalue

theorem Range.legible_of_bounds_error {range : Range} {violation : Violation}
    (hbounds : range.bounds = .error violation) : violation.Legible := by
  unfold bounds at hbounds
  split at hbounds
  · split at hbounds
    · cases hbounds
    · cases hbounds
      trivial
  · cases hbounds
    trivial

/-- A range that cannot be read is none, so only its bounds can be at fault. -/
theorem explainsBeyond_input : ExplainsBeyond input := by
  have hoptional : Explains range.optional :=
    fun _ _ _ hrun => absurd hrun run_optional_ne_failed
  intro start message rest hrun hbeyond
  rw [input, run_bind_eq_failed_iff] at hrun
  rcases hrun with hmark | ⟨found, middle, -, hinput⟩
  · exact explainsBeyond_keyword_keepRight "?" hoptional hmark hbeyond
  · unfold inputOf at hinput
    split at hinput
    · cases hinput
    · split at hinput
      · cases hinput
      · next hbounds => exact explains_reject (Range.legible_of_bounds_error hbounds) hinput

/-- Only the first operand can fail: the others end the chain instead. -/
theorem explains_chain (op : Operator) (hrule : Explains rule) : Explains (chain op rule) := by
  intro start message rest hrun
  rw [chain, run_map_eq_failed_iff, run_pair_eq_failed_iff] at hrun
  rcases hrun with hfirst | ⟨_, middle, -, hothers⟩
  · exact hrule hfirst
  · exact absurd ⟨message, rest, hothers⟩ not_failsAt_many

theorem explainsBeyond_parenthesized (hrule : Explains rule) :
    ExplainsBeyond (parenthesized rule) :=
  (explainsBeyond_keyword_keepRight "(" hrule).keepLeft (explains_tokenWhere _ (by decide))

theorem explainsBeyond_negation (hrule : Explains rule) : ExplainsBeyond (negation rule) :=
  (explainsBeyond_keyword_keepRight "-" hrule).map _

theorem explainsBeyond_binding (hbound : Explains boundRule) (hbody : Explains bodyRule) :
    ExplainsBeyond (binding boundRule bodyRule) := by
  have hequals : Explains (keyword "=") := explains_tokenWhere _ (by decide)
  have hin : Explains (keyword "in") := explains_tokenWhere _ (by decide)
  have hhead : ExplainsBeyond head :=
    (explainsBeyond_keyword_keepRight "let" explains_identifier).keepLeft hequals
  exact (((hhead.pair hbound).keepLeft hin).pair hbody).map _

/-- Where no alternative begins, the label of the choice speaks. Otherwise the one that does speaks
alone, and not of its first token. -/
theorem Forms.Apart.explains {forms : Forms Expr} (hforms : forms.Apart) (hwhat : what ∈ missing)
    (hbeyond : ∀ form ∈ forms, ExplainsBeyond form.2) :
    Explains ((choice forms.rules).label (expecting what)) := by
  intro start message rest hrun
  by_cases hoffers : Offers start forms.accepts
  · obtain ⟨form, hmem, hform⟩ := exists_of_offers hoffers
    rw [hforms.run_of_offers hmem hform] at hrun
    exact hbeyond form hmem hrun ((hforms.opens form hmem).beyond hform (.inr ⟨message, hrun⟩))
  · rw [hforms.run_of_not_offers hoffers] at hrun
    cases hrun
    exact .missing hwhat

end Rules

structure Level.Explains (level : Level) : Prop where
  expression : Grammar.Explains level.expression
  sum : Grammar.Explains level.sum
  atom : Grammar.Explains level.atom

namespace Level

variable {inner : Unit → Level}

theorem explains_forbidden : forbidden.Explains where
  expression := explains_reject trivial
  sum := explains_reject trivial
  atom := explains_reject trivial

theorem explains_around (hinner : (inner ()).Explains) (hforward : (inner ()).Forward) :
    (around inner).Explains := by
  have hatom : Grammar.Explains (atomOver inner) := by
    apply (apart_atomForms hforward).explains (by decide)
    simp only [atomForms, List.forall_mem_cons]
    exact ⟨explainsBeyond_parenthesized hinner.expression, explainsBeyond_input,
      explainsBeyond_negation hinner.atom, explainsBeyond_natural.map _,
      explains_identifier.beyond.map _, by simp⟩
  have hsum : Grammar.Explains (sumOver inner) :=
    explains_chain .plus (explains_chain .times hatom)
  have hbinding : ExplainsBeyond (bindingOver inner) :=
    explainsBeyond_binding hinner.sum hinner.expression
  refine ⟨(apart_expressionForms hforward).explains (by decide) ?_, hsum, hatom⟩
  simp only [expressionForms, List.forall_mem_cons]
  exact ⟨hbinding, hsum.beyond, by simp⟩

theorem explains_allowing (room : Nat) : (allowing room).Explains := by
  induction room with
  | zero => exact explains_around explains_forbidden forward_forbidden
  | succ room ih => exact explains_around ih (forward_allowing room)

end Level

theorem explains_program : Explains program := by
  intro start message rest hrun
  rw [program, run_keepLeft_eq_failed_iff] at hrun
  rcases hrun with hexpression | ⟨e, middle, -, hend⟩
  · exact (Level.explains_allowing maxNesting).expression hexpression
  · obtain ⟨-, rfl, rfl⟩ := run_endOfInput_label_eq_failed_iff.mp hend
    exact .missing (by decide)

end RangeCalc.Grammar
