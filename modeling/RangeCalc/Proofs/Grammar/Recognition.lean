import RangeCalc.Program
import RangeCalc.Proofs.Grammar.Leaves
import RangeCalc.Proofs.Grammar.Outline

/-! The rules of the grammar succeed on exactly the derivable texts, with the derived expression. A
rule takes a phrase whole only where no text follows that could belong to it. -/

namespace RangeCalc.Grammar

open RangeCalc.Parser

namespace Nonterminal

/-- The texts that may continue a phrase behind its last token. -/
def extensions : Nonterminal → List String
  | expression | chain .plus | further .plus _ => ["+", "*", "(", "["]
  | chain .times | further .times _ => ["*", "(", "["]
  | atom => ["(", "["]

def Ends (nonterminal : Nonterminal) (cursor : Cursor Token) : Prop :=
  ∀ token, cursor.peek = some token → token.text ∉ nonterminal.extensions

variable {nonterminal : Nonterminal} {cursor stop : Cursor Token} {op : Operator} {text : String}
  {texts : List String}

theorem ends_of_remaining_nil (h : cursor.remaining = []) : nonterminal.Ends cursor := by
  intro token hpeek
  simp [Cursor.peek, h] at hpeek

theorem ends_of_reads (h : Reads cursor (text :: texts) stop)
    (htext : text ∉ nonterminal.extensions) : nonterminal.Ends cursor := by
  obtain ⟨token, hpeek, rfl⟩ := h.peek
  intro other hother
  rw [hpeek] at hother
  cases hother
  exact htext

theorem ends_operand (h : (chain op).Ends cursor) : (operand op).Ends cursor := by
  intro token hpeek hmem
  apply h token hpeek
  cases op <;> simp_all [operand, extensions]

theorem failsAt_keyword_of_ends (h : nonterminal.Ends cursor)
    (htext : text ∈ nonterminal.extensions) : (keyword text).FailsAt cursor :=
  failsAt_keyword_of_peek fun token hpeek heq => h token hpeek (heq ▸ htext)

theorem ends_operand_of_further {limit depth : Nat} {left e : Expr}
    (hderives : Derives limit (.further op left) depth texts e)
    (hreads : Reads cursor texts stop) (hends : (chain op).Ends stop) :
    (operand op).Ends cursor := by
  cases hderives with
  | last =>
      obtain rfl := Reads.nil_iff.mp hreads
      exact ends_operand hends
  | further => exact ends_of_reads hreads (by cases op <;> decide)

end Nonterminal

/-- A rule that takes the phrases of one kind at one depth. Beyond the limit it takes nothing. -/
structure Recognizes (limit : Nat) (nonterminal : Nonterminal) (depth : Nat) (rule : Rule Expr) :
    Prop where
  sound : ∀ ⦃start e stop⦄, rule.run start = .done e stop →
    depth ≤ limit ∧ ∃ texts, Reads start texts stop ∧ Derives limit nonterminal depth texts e
  complete : ∀ ⦃texts e start stop⦄, depth ≤ limit →
    Derives limit nonterminal depth texts e → Reads start texts stop → nonterminal.Ends stop →
      rule.run start = .done e stop
  returns : rule.Returns

namespace Recognizes

variable {limit depth : Nat}

theorem beyond {nonterminal : Nonterminal} {violation : Violation} (hdepth : limit < depth) :
    Recognizes limit nonterminal depth (reject violation) where
  sound start e stop hrun := by simp [reject] at hrun
  complete texts e start stop hwithin := absurd hwithin (Nat.not_le_of_lt hdepth)
  returns := returns_fail _

section Chain

variable {op : Operator} {rule : Rule Expr}

theorem operand_advances (hrule : Recognizes limit (operand op) depth rule) :
    ((keyword op.symbol).keepRight rule).Advances := by
  intro cursor e rest hrun
  obtain ⟨middle, hsymbol, hoperand⟩ := run_keyword_keepRight_eq_done_iff.mp hrun
  obtain ⟨-, texts, hreads, -⟩ := hrule.sound hoperand
  have hlength := (hsymbol.cons hreads).length_remaining
  rw [List.length_cons] at hlength
  omega

private theorem derives_of_repeats (hrule : Recognizes limit (operand op) depth rule)
    {start stop : Cursor Token} {others : List Expr}
    (hrepeats : Repeats ((keyword op.symbol).keepRight rule) start others stop) (left : Expr) :
    ∃ texts, Reads start texts stop ∧
      Derives limit (.further op left) depth texts (others.foldl (Expr.binary op) left) := by
  induction hrepeats generalizing left with
  | stop => exact ⟨[], rfl, .last⟩
  | step hrun _ ih =>
      obtain ⟨middle, hsymbol, hoperand⟩ := run_keyword_keepRight_eq_done_iff.mp hrun
      obtain ⟨-, texts, hreads, hderives⟩ := hrule.sound hoperand
      obtain ⟨later, hlaterReads, hlaterDerives⟩ := ih (.binary op left _)
      exact ⟨_, hsymbol.cons (hreads.append hlaterReads), .further hderives hlaterDerives⟩

private theorem repeats_of_derives (hrule : Recognizes limit (operand op) depth rule)
    (hdepth : depth ≤ limit) {left e : Expr} {texts : List String} {start stop : Cursor Token}
    (hderives : Derives limit (.further op left) depth texts e)
    (hreads : Reads start texts stop) (hends : (Nonterminal.chain op).Ends stop) :
    ∃ others, Repeats ((keyword op.symbol).keepRight rule) start others stop ∧
      others.foldl (Expr.binary op) left = e := by
  generalize hnonterminal : Nonterminal.further op left = nonterminal at hderives
  induction hderives generalizing left start with
  | last =>
      cases hnonterminal
      obtain rfl := Reads.nil_iff.mp hreads
      refine ⟨[], .stop ?_, rfl⟩
      have hfails : (keyword op.symbol).FailsAt start :=
        Nonterminal.failsAt_keyword_of_ends hends (by cases op <;> decide)
      exact hfails.keepRight rule
  | @further _ _ _ _ _ right _ hright hlater _ ihLater =>
      cases hnonterminal
      obtain ⟨rest, hsymbol, hreads⟩ := Reads.cons_iff_exists_singleton.mp hreads
      obtain ⟨middle, hoperandReads, hlaterReads⟩ := Reads.append_iff.mp hreads
      obtain ⟨others, hrepeats, hvalue⟩ := ihLater hrule hdepth hlaterReads rfl
      have hoperand := hrule.complete hdepth hright hoperandReads
        (Nonterminal.ends_operand_of_further hlater hlaterReads hends)
      have hrun := run_keyword_keepRight_eq_done_iff.mpr ⟨rest, hsymbol, hoperand⟩
      exact ⟨right :: others, .step hrun hrepeats, hvalue⟩
  | _ => cases hnonterminal

theorem chain (hrule : Recognizes limit (operand op) depth rule) :
    Recognizes limit (.chain op) depth (Grammar.chain op rule) where
  sound start e stop hrun := by
    obtain ⟨⟨first, others⟩, hpair, rfl⟩ := run_map_eq_done_iff.mp hrun
    obtain ⟨middle, hfirst, hothers⟩ := run_pair_eq_done_iff.mp hpair
    obtain ⟨hdepth, texts, hreads, hderives⟩ := hrule.sound hfirst
    have hrepeats := run_many_eq_done_iff.mp hothers
    obtain ⟨later, hlaterReads, hlaterDerives⟩ := hrule.derives_of_repeats hrepeats first
    exact ⟨hdepth, _, hreads.append hlaterReads, .chain hderives hlaterDerives⟩
  complete texts e start stop hdepth hderives hreads hends := by
    cases hderives with
    | @chain _ _ _ _ first _ hfirst hlater =>
        obtain ⟨middle, hfirstReads, hlaterReads⟩ := Reads.append_iff.mp hreads
        have hoperand := hrule.complete hdepth hfirst hfirstReads
          (Nonterminal.ends_operand_of_further hlater hlaterReads hends)
        obtain ⟨others, hrepeats, rfl⟩ :=
          hrule.repeats_of_derives hdepth hlater hlaterReads hends
        have hmany := run_many_eq_done_iff.mpr hrepeats
        exact run_map_eq_done_iff.mpr ⟨(first, others),
          run_pair_eq_done_iff.mpr ⟨middle, hoperand, hmany⟩, rfl⟩
  returns := by
    have hkeyword : (keyword op.symbol).Returns := (returns_satisfy _ _).label _
    have hmany := (hkeyword.keepRight hrule.returns).many hrule.operand_advances
    exact (hrule.returns.pair hmany).map _

end Chain

section Nested

variable {rule : Rule Expr} {e : Expr} {start stop : Cursor Token} {texts : List String}

private theorem derives_of_run_parenthesized
    (hrule : Recognizes limit .expression (depth + 1) rule)
    (hrun : (parenthesized rule).run start = .done e stop) :
    ∃ texts, Reads start texts stop ∧ Derives limit .atom depth texts e := by
  obtain ⟨beyond, hinside, hclosing⟩ := run_keepLeft_keyword_eq_done_iff.mp hrun
  obtain ⟨inside, hopening, hexpression⟩ := run_keyword_keepRight_eq_done_iff.mp hinside
  obtain ⟨hdepth, texts, hreads, hderives⟩ := hrule.sound hexpression
  exact ⟨_, hopening.cons (hreads.append hclosing), .parenthesized hdepth hderives⟩

private theorem run_parenthesized_of_derives
    (hrule : Recognizes limit .expression (depth + 1) rule) (hdepth : depth < limit)
    (hderives : Derives limit .expression (depth + 1) texts e)
    (hreads : Reads start ("(" :: (texts ++ [")"])) stop) :
    (parenthesized rule).run start = .done e stop := by
  obtain ⟨inside, hopening, hreads⟩ := Reads.cons_iff_exists_singleton.mp hreads
  obtain ⟨beyond, hinside, hclosing⟩ := Reads.append_iff.mp hreads
  have hends : Nonterminal.expression.Ends beyond :=
    Nonterminal.ends_of_reads hclosing (by decide)
  have hexpression := hrule.complete hdepth hderives hinside hends
  have hkeep := run_keyword_keepRight_eq_done_iff.mpr ⟨inside, hopening, hexpression⟩
  exact run_keepLeft_keyword_eq_done_iff.mpr ⟨beyond, hkeep, hclosing⟩

private theorem derives_of_run_negation (hrule : Recognizes limit .atom (depth + 1) rule)
    (hrun : (negation rule).run start = .done e stop) :
    ∃ texts, Reads start texts stop ∧ Derives limit .atom depth texts e := by
  obtain ⟨operand, hkeep, rfl⟩ := run_map_eq_done_iff.mp hrun
  obtain ⟨inside, hminus, hoperand⟩ := run_keyword_keepRight_eq_done_iff.mp hkeep
  obtain ⟨hdepth, texts, hreads, hderives⟩ := hrule.sound hoperand
  exact ⟨_, hminus.cons hreads, .negation hdepth hderives⟩

private theorem run_negation_of_derives (hrule : Recognizes limit .atom (depth + 1) rule)
    (hdepth : depth < limit) (hderives : Derives limit .atom (depth + 1) texts e)
    (hreads : Reads start ("-" :: texts) stop) (hends : Nonterminal.atom.Ends stop) :
    (negation rule).run start = .done (.negate e) stop := by
  obtain ⟨inside, hminus, hreads⟩ := Reads.cons_iff_exists_singleton.mp hreads
  have hoperand := hrule.complete hdepth hderives hreads hends
  have hkeep := run_keyword_keepRight_eq_done_iff.mpr ⟨inside, hminus, hoperand⟩
  exact run_map_eq_done_iff.mpr ⟨e, hkeep, rfl⟩

private theorem derives_of_run_binding {boundRule bodyRule : Rule Expr}
    (hbound : Recognizes limit (.chain .plus) (depth + 1) boundRule)
    (hbody : Recognizes limit .expression (depth + 1) bodyRule)
    (hrun : (binding boundRule bodyRule).run start = .done e stop) :
    depth ≤ limit ∧
      ∃ texts, Reads start texts stop ∧ Derives limit .expression depth texts e := by
  obtain ⟨⟨⟨name, bound⟩, body⟩, hpair, rfl⟩ := run_map_eq_done_iff.mp hrun
  obtain ⟨beforeBody, hkeep, hbodyRun⟩ := run_pair_eq_done_iff.mp hpair
  obtain ⟨beforeIn, hpair, hin⟩ := run_keepLeft_keyword_eq_done_iff.mp hkeep
  obtain ⟨beforeBound, hkeep, hboundRun⟩ := run_pair_eq_done_iff.mp hpair
  obtain ⟨beforeEquals, hkeep, hequals⟩ := run_keepLeft_keyword_eq_done_iff.mp hkeep
  obtain ⟨beforeName, hlet, hname⟩ := run_keyword_keepRight_eq_done_iff.mp hkeep
  obtain ⟨hnameReads, hidentifier⟩ := run_identifier_eq_done_iff.mp hname
  obtain ⟨hdepth, boundTexts, hboundReads, hboundDerives⟩ := hbound.sound hboundRun
  obtain ⟨-, bodyTexts, hbodyReads, hbodyDerives⟩ := hbody.sound hbodyRun
  have hbodyPart := hboundReads.append (hin.cons hbodyReads)
  exact ⟨Nat.le_of_succ_le hdepth, _,
    hlet.cons (hnameReads.cons (hequals.cons hbodyPart)),
    .binding hdepth hidentifier hboundDerives hbodyDerives⟩

private theorem run_binding_of_derives {boundRule bodyRule : Rule Expr} {name : String}
    {bound body : Expr} {boundTexts bodyTexts : List String}
    (hbound : Recognizes limit (.chain .plus) (depth + 1) boundRule)
    (hbody : Recognizes limit .expression (depth + 1) bodyRule) (hdepth : depth < limit)
    (hname : Token.isIdentifier name = true)
    (hboundDerives : Derives limit (.chain .plus) (depth + 1) boundTexts bound)
    (hbodyDerives : Derives limit .expression (depth + 1) bodyTexts body)
    (hreads : Reads start ("let" :: name :: "=" :: (boundTexts ++ "in" :: bodyTexts)) stop)
    (hends : Nonterminal.expression.Ends stop) :
    (binding boundRule bodyRule).run start = .done (.letIn name bound body) stop := by
  obtain ⟨beforeName, hlet, hreads⟩ := Reads.cons_iff_exists_singleton.mp hreads
  obtain ⟨beforeEquals, hnameReads, hreads⟩ := Reads.cons_iff_exists_singleton.mp hreads
  obtain ⟨beforeBound, hequals, hreads⟩ := Reads.cons_iff_exists_singleton.mp hreads
  obtain ⟨beforeIn, hboundReads, hreads⟩ := Reads.append_iff.mp hreads
  have hboundRun := hbound.complete hdepth hboundDerives hboundReads
    (Nonterminal.ends_of_reads hreads (by decide))
  obtain ⟨beforeBody, hin, hbodyReads⟩ := Reads.cons_iff_exists_singleton.mp hreads
  have hbodyRun := hbody.complete hdepth hbodyDerives hbodyReads hends
  have hnameRun := run_identifier_eq_done_iff.mpr ⟨hnameReads, hname⟩
  refine run_map_eq_done_iff.mpr ⟨((name, bound), body), ?_, rfl⟩
  refine run_pair_eq_done_iff.mpr ⟨beforeBody, ?_, hbodyRun⟩
  refine run_keepLeft_keyword_eq_done_iff.mpr ⟨beforeIn, ?_, hin⟩
  refine run_pair_eq_done_iff.mpr ⟨beforeBound, ?_, hboundRun⟩
  refine run_keepLeft_keyword_eq_done_iff.mpr ⟨beforeEquals, ?_, hequals⟩
  exact run_keyword_keepRight_eq_done_iff.mpr ⟨beforeName, hlet, hnameRun⟩

end Nested

end Recognizes

theorem failsAt_range {cursor : Cursor Token} (h : Nonterminal.atom.Ends cursor) :
    range.FailsAt cursor := by
  have hopening : lowerDelimiter.FailsAt cursor := by
    apply failsAt_choice_iff.mpr
    simp only [List.forall_mem_cons, failsAt_map_iff]
    exact ⟨Nonterminal.failsAt_keyword_of_ends h (by decide),
      Nonterminal.failsAt_keyword_of_ends h (by decide), by simp⟩
  exact ((((hopening.pair _).keepLeft _).pair _).pair _).map _

structure Level.Recognizes (limit depth : Nat) (level : Level) : Prop where
  expression : Grammar.Recognizes limit .expression depth level.expression
  sum : Grammar.Recognizes limit (.chain .plus) depth level.sum
  atom : Grammar.Recognizes limit .atom depth level.atom

namespace Level

variable {limit depth : Nat} {inner : Unit → Level}

theorem recognizes_forbidden (hdepth : limit < depth) : forbidden.Recognizes limit depth where
  expression := .beyond hdepth
  sum := .beyond hdepth
  atom := .beyond hdepth

theorem returns_bindingOver (hinner : (inner ()).Recognizes limit (depth + 1)) :
    (bindingOver inner).Returns := by
  have hname := (returns_keyword "let").keepRight returns_identifier
  have hbound := (hname.keepLeft (returns_keyword "=")).pair hinner.sum.returns
  exact ((hbound.keepLeft (returns_keyword "in")).pair hinner.expression.returns).map _

private theorem returns_atomOver (hinner : (inner ()).Recognizes limit (depth + 1)) :
    (atomOver inner).Returns := by
  have hparenthesized : (parenthesized (inner ()).expression).Returns :=
    ((returns_keyword _).keepRight hinner.expression.returns).keepLeft (returns_keyword _)
  have hnegation : (negation (inner ()).atom).Returns :=
    ((returns_keyword _).keepRight hinner.atom.returns).map _
  refine (returns_choice ?_).label _
  simp only [List.forall_mem_cons]
  exact ⟨hparenthesized, returns_input, hnegation, returns_natural.map _,
    returns_identifier.map _, by simp⟩

private theorem derives_of_run_atomOver (hinner : (inner ()).Recognizes limit (depth + 1))
    {start stop : Cursor Token} {e : Expr} (hrun : (atomOver inner).run start = .done e stop) :
    ∃ texts, Reads start texts stop ∧ Derives limit .atom depth texts e := by
  simp only [atomOver, run_label_eq_done_iff, run_choice_cons_eq_done_iff,
    run_choice_nil_ne_done, and_false, or_false] at hrun
  rcases hrun with hrun | ⟨-, hrun | ⟨-, hrun | ⟨-, hrun | ⟨-, hrun⟩⟩⟩⟩
  · exact hinner.expression.derives_of_run_parenthesized hrun
  · rcases run_input_eq_done_iff.mp hrun with
      ⟨texts, found, lower, upper, hreads, hwritten, hcontent, rfl⟩ | ⟨hreads, -, rfl⟩
    · exact ⟨_, hreads, .input hwritten hcontent⟩
    · exact ⟨_, hreads, .unbounded⟩
  · exact hinner.atom.derives_of_run_negation hrun
  · obtain ⟨value, hnatural, rfl⟩ := run_map_eq_done_iff.mp hrun
    obtain ⟨text, hreads, hnumeral, hvalue⟩ := run_natural_eq_done_iff.mp hnatural
    exact ⟨_, hreads, .literal hnumeral hvalue⟩
  · obtain ⟨name, hidentifier, rfl⟩ := run_map_eq_done_iff.mp hrun
    obtain ⟨hreads, hname⟩ := run_identifier_eq_done_iff.mp hidentifier
    exact ⟨_, hreads, .var hname⟩

private theorem run_atomOver_of_derives (hinner : (inner ()).Recognizes limit (depth + 1))
    {start stop : Cursor Token} {texts : List String} {e : Expr}
    (hderives : Derives limit .atom depth texts e) (hreads : Reads start texts stop)
    (hends : Nonterminal.atom.Ends stop) : (atomOver inner).run start = .done e stop := by
  simp only [atomOver, run_label_eq_done_iff, run_choice_cons_eq_done_iff,
    run_choice_nil_ne_done, and_false, or_false]
  have hparenthesized {text texts} (hreads : Reads start (text :: texts) stop)
      (hne : text ≠ "(") : (parenthesized (defer fun _ => (inner ()).expression)).FailsAt start :=
    ((failsAt_keyword hreads hne).keepRight _).keepLeft _
  have hinput {text texts} (hreads : Reads start (text :: texts) stop) (hne : text ≠ "?") :
      input.FailsAt start :=
    ((failsAt_keyword hreads hne).keepRight _).bind _
  have hnegation {text texts} (hreads : Reads start (text :: texts) stop) (hne : text ≠ "-") :
      (negation (defer fun _ => (inner ()).atom)).FailsAt start :=
    ((failsAt_keyword hreads hne).keepRight _).map _
  cases hderives with
  | parenthesized hdepth hinside =>
      exact .inl (hinner.expression.run_parenthesized_of_derives hdepth hinside hreads)
  | unbounded =>
      refine .inr ⟨hparenthesized hreads (by decide), .inl ?_⟩
      exact run_input_eq_done_iff.mpr (.inr ⟨hreads, failsAt_range hends, rfl⟩)
  | input hwritten hcontent =>
      refine .inr ⟨hparenthesized hreads (by decide), .inl ?_⟩
      exact run_input_eq_done_iff.mpr
        (.inl ⟨_, _, _, _, hreads, hwritten, hcontent, rfl⟩)
  | negation hdepth hoperand =>
      refine .inr ⟨hparenthesized hreads (by decide), .inr ⟨hinput hreads (by decide), .inl ?_⟩⟩
      exact hinner.atom.run_negation_of_derives hdepth hoperand hreads hends
  | literal hnumeral hvalue =>
      have hne := Token.ne_of_isNumeral hnumeral
      refine .inr ⟨hparenthesized hreads (hne _ (by decide)),
        .inr ⟨hinput hreads (hne _ (by decide)),
          .inr ⟨hnegation hreads (hne _ (by decide)), .inl ?_⟩⟩⟩
      exact run_map_eq_done_iff.mpr
        ⟨_, run_natural_eq_done_iff.mpr ⟨_, hreads, hnumeral, hvalue⟩, rfl⟩
  | var hname =>
      have hne := Token.ne_of_isIdentifier hname
      have hnumeral := Token.isNumeral_eq_false_of_isIdentifier hname
      have hnatural : (natural.map Expr.literal).FailsAt start :=
        (((failsAt_tokenWhere hreads hnumeral).map _).bind _).map _
      refine .inr ⟨hparenthesized hreads (hne _ (by decide)),
        .inr ⟨hinput hreads (hne _ (by decide)),
          .inr ⟨hnegation hreads (hne _ (by decide)), .inr ⟨hnatural, ?_⟩⟩⟩⟩
      exact run_map_eq_done_iff.mpr ⟨_, run_identifier_eq_done_iff.mpr ⟨hreads, hname⟩, rfl⟩

theorem recognizes_atomOver (hdepth : depth ≤ limit)
    (hinner : (inner ()).Recognizes limit (depth + 1)) :
    Grammar.Recognizes limit .atom depth (atomOver inner) where
  sound _ _ _ hrun := ⟨hdepth, derives_of_run_atomOver hinner hrun⟩
  complete _ _ _ _ _ hderives hreads hends := run_atomOver_of_derives hinner hderives hreads hends
  returns := returns_atomOver hinner

theorem recognizes_sumOver (hdepth : depth ≤ limit)
    (hinner : (inner ()).Recognizes limit (depth + 1)) :
    Grammar.Recognizes limit (.chain .plus) depth (sumOver inner) :=
  .chain (.chain (recognizes_atomOver hdepth hinner))

theorem recognizes_around (hdepth : depth ≤ limit)
    (hinner : (inner ()).Recognizes limit (depth + 1)) : (around inner).Recognizes limit depth where
  atom := recognizes_atomOver hdepth hinner
  sum := recognizes_sumOver hdepth hinner
  expression :=
    { sound := by
        intro start e stop hrun
        simp only [around, run_label_eq_done_iff, run_choice_cons_eq_done_iff,
          run_choice_nil_ne_done, and_false, or_false] at hrun
        rcases hrun with hrun | ⟨-, hrun⟩
        · exact hinner.sum.derives_of_run_binding hinner.expression hrun
        · obtain ⟨-, texts, hreads, hderives⟩ := (recognizes_sumOver hdepth hinner).sound hrun
          exact ⟨hdepth, texts, hreads, .sum hderives⟩
      complete := by
        intro texts e start stop _ hderives hreads hends
        simp only [around, run_label_eq_done_iff, run_choice_cons_eq_done_iff,
          run_choice_nil_ne_done, and_false, or_false]
        cases hderives with
        | binding hlimit hname hbound hbody =>
            exact .inl (hinner.sum.run_binding_of_derives hinner.expression hlimit hname hbound
              hbody hreads hends)
        | sum hsum =>
            obtain ⟨text, rest, rfl, hopens⟩ := (Outline.of_derives hsum).sum_begins
            have hlet :=
              (failsAt_keyword hreads (ne_let_of_opensAtom hopens)).keepRight identifier
            exact .inr ⟨(((((hlet.keepLeft _).pair _).keepLeft _).pair _).map _),
              (recognizes_sumOver hdepth hinner).complete hdepth hsum hreads hends⟩
      returns := by
        refine (returns_choice ?_).label _
        simpa using ⟨returns_bindingOver hinner, (recognizes_sumOver hdepth hinner).returns⟩ }

theorem recognizes_allowing (room : Nat) (hlimit : depth + room = limit) :
    (allowing room).Recognizes limit depth := by
  induction room generalizing depth with
  | zero => exact recognizes_around (by omega) (recognizes_forbidden (by omega))
  | succ room ih => exact recognizes_around (by omega) (ih (by omega))

end Level

theorem recognizes_expression : Recognizes maxNesting .expression 0 expression :=
  (Level.recognizes_allowing maxNesting (Nat.zero_add _)).expression

/-- Programs are what the language derives at depth 0, up to the last token. -/
theorem run_program_eq_done_iff {start stop : Cursor Token} {e : Expr} :
    program.run start = .done e stop ↔
      stop.remaining = [] ∧
        ∃ texts, Reads start texts stop ∧ Derives maxNesting .expression 0 texts e := by
  simp only [program, run_keepLeft_eq_done_iff, run_label_eq_done_iff,
    run_endOfInput_eq_done_iff]
  constructor
  · intro hrun
    obtain ⟨_, _, hrun, hend, rfl⟩ := hrun
    obtain ⟨-, texts, hreads, hderives⟩ := recognizes_expression.sound hrun
    exact ⟨hend, texts, hreads, hderives⟩
  · intro hparts
    obtain ⟨hend, texts, hreads, hderives⟩ := hparts
    have hends : Nonterminal.expression.Ends stop := Nonterminal.ends_of_remaining_nil hend
    have hrun := recognizes_expression.complete (Nat.zero_le _) hderives hreads hends
    exact ⟨(), stop, hrun, hend, rfl⟩

theorem returns_program : program.Returns :=
  recognizes_expression.returns.keepLeft (returns_endOfInput.label _)

end RangeCalc.Grammar
