import RangeCalc.Proofs.Grammar.Leaves
import RangeCalc.Proofs.Grammar.Outline
import RangeCalc.Proofs.Parser.Remainders

/-! The next token settles which alternative a rule takes: no two alternatives begin with the same
token, and the others fail without having got anywhere. -/

namespace RangeCalc.Grammar

open RangeCalc.Parser

variable {α β : Type}

/-! No rule goes back. -/

theorem forward_tokenWhere (accepts : String → Bool) (what : String) :
    (tokenWhere accepts what).Forward :=
  (forward_satisfy _ _).label _

theorem forward_keyword (text : String) : (keyword text).Forward :=
  forward_tokenWhere _ _

theorem forward_identifier : identifier.Forward :=
  (forward_tokenWhere _ _).map _

theorem forward_numeral : numeral.Forward :=
  (forward_tokenWhere _ _).map _

theorem forward_valueOf (text : String) : (valueOf text).Forward := by
  unfold valueOf
  split
  · exact forward_succeed _
  · exact forward_fail _

theorem forward_natural : natural.Forward :=
  forward_numeral.bind forward_valueOf

theorem forward_signed : signed.Forward :=
  ((forward_keyword _).optional.pair forward_numeral).bind fun _ => forward_valueOf _

theorem forward_lowerDelimiter : lowerDelimiter.Forward :=
  forward_choice (by simp [(forward_keyword _).map])

theorem forward_upperDelimiter : upperDelimiter.Forward :=
  forward_choice (by simp [(forward_keyword _).map])

theorem forward_range : range.Forward := by
  have hlower := (forward_lowerDelimiter.pair forward_signed).keepLeft (forward_keyword ",")
  exact ((hlower.pair forward_signed).pair forward_upperDelimiter).map _

theorem forward_inputOf (found : Option Range) : (inputOf found).Forward := by
  unfold inputOf
  split
  · exact forward_succeed _
  · split
    · exact forward_succeed _
    · exact forward_fail _

theorem forward_input : input.Forward :=
  ((forward_keyword _).keepRight forward_range.optional).bind forward_inputOf

theorem forward_chain (op : Operator) {operand : Rule Expr} (hoperand : operand.Forward) :
    (chain op operand).Forward :=
  (hoperand.pair ((forward_keyword _).keepRight hoperand).many).map _

theorem forward_parenthesized {expression : Rule Expr} (hexpression : expression.Forward) :
    (parenthesized expression).Forward :=
  ((forward_keyword _).keepRight hexpression).keepLeft (forward_keyword _)

theorem forward_negation {operand : Rule Expr} (hoperand : operand.Forward) :
    (negation operand).Forward :=
  ((forward_keyword _).keepRight hoperand).map _

/-- A `let` up to its bound expression. -/
def head : Rule String :=
  ((keyword "let").keepRight identifier).keepLeft (keyword "=")

theorem binding_eq (bound body : Rule Expr) :
    binding bound body = (((head.pair bound).keepLeft (keyword "in")).pair body).map
      fun ((name, bound), body) => .letIn name bound body :=
  rfl

theorem forward_head : head.Forward :=
  ((forward_keyword _).keepRight forward_identifier).keepLeft (forward_keyword _)

theorem forward_binding {bound body : Rule Expr} (hbound : bound.Forward) (hbody : body.Forward) :
    (binding bound body).Forward :=
  (((forward_head.pair hbound).keepLeft (forward_keyword _)).pair hbody).map _

structure Level.Forward (level : Level) : Prop where
  expression : level.expression.Forward
  sum : level.sum.Forward
  atom : level.atom.Forward

namespace Level

variable {inner : Unit → Level}

theorem forward_forbidden : forbidden.Forward where
  expression := forward_fail _
  sum := forward_fail _
  atom := forward_fail _

theorem forward_around (hinner : (inner ()).Forward) : (around inner).Forward := by
  have hatom : (atomOver inner).Forward := by
    refine (forward_choice ?_).label _
    simp only [List.forall_mem_cons]
    exact ⟨forward_parenthesized hinner.expression, forward_input, forward_negation hinner.atom,
      forward_natural.map _, forward_identifier.map _, by simp⟩
  have hsum : (sumOver inner).Forward := forward_chain _ (forward_chain _ hatom)
  have hbinding : (bindingOver inner).Forward := forward_binding hinner.sum hinner.expression
  refine ⟨(forward_choice ?_).label _, hsum, hatom⟩
  simpa using ⟨hbinding, hsum⟩

theorem forward_allowing (room : Nat) : (allowing room).Forward := by
  induction room with
  | zero => exact forward_around forward_forbidden
  | succ room ih => exact forward_around ih

end Level

theorem forward_program : program.Forward :=
  (Level.forward_allowing maxNesting).expression.keepLeft (forward_endOfInput.label _)

/-! Rules by their first token. -/

/-- The next text is one that is accepted. -/
def Offers (cursor : Cursor Token) (accepts : String → Bool) : Prop :=
  ∃ token, cursor.peek = some token ∧ accepts token.text = true

theorem offers_of_reads {start stop : Cursor Token} {text : String} {texts : List String}
    {accepts : String → Bool} (hreads : Reads start (text :: texts) stop)
    (haccepts : accepts text = true) : Offers start accepts := by
  obtain ⟨token, hpeek, rfl⟩ := hreads.peek
  exact ⟨token, hpeek, haccepts⟩

/-- Away from an accepted text the rule fails without having got anywhere. At one it ends behind
it, with a result or without. -/
structure Opens (accepts : String → Bool) (rule : Rule α) : Prop where
  elsewhere : ∀ ⦃cursor⦄, ¬ Offers cursor accepts → rule.FailsHere cursor
  beyond : ∀ ⦃cursor rest⦄, Offers cursor accepts → rule.EndsAt cursor rest →
    cursor.position < rest.position

section Opens

variable {accepts : String → Bool} {what : String} {rule : Rule α} {start : Cursor Token}

theorem run_tokenWhere_of_not_offers (hrefused : ¬ Offers start accepts) :
    (tokenWhere accepts what).run start = .failed (expecting what start) start := by
  apply run_label_of_failsHere
  apply failsHere_satisfy
  cases hpeek : start.peek with
  | none => rfl
  | some token => exact Bool.eq_false_iff.mpr fun haccepts => hrefused ⟨token, hpeek, haccepts⟩

theorem run_tokenWhere_eq_failed_iff {message : String} {rest : Cursor Token} :
    (tokenWhere accepts what).run start = .failed message rest ↔
      ¬ Offers start accepts ∧ message = expecting what start ∧ rest = start := by
  constructor
  · intro hrun
    have hrefused : ¬ Offers start accepts := by
      intro hoffers
      obtain ⟨token, hpeek, haccepts⟩ := hoffers
      have hpeekRefused := failsAt_satisfy_iff.mp (failsAt_label_iff.mp ⟨message, rest, hrun⟩)
      rw [hpeek, Option.any_some, haccepts] at hpeekRefused
      contradiction
    rw [run_tokenWhere_of_not_offers hrefused] at hrun
    cases hrun
    exact ⟨hrefused, rfl, rfl⟩
  · intro hparts
    obtain ⟨hrefused, rfl, rfl⟩ := hparts
    exact run_tokenWhere_of_not_offers hrefused

theorem opens_tokenWhere (accepts : String → Bool) (what : String) :
    Opens accepts (tokenWhere accepts what) where
  elsewhere _ hrefused := ⟨_, run_tokenWhere_of_not_offers hrefused⟩
  beyond start rest hoffers hends := by
    rcases hends with ⟨item, hdone⟩ | ⟨message, hfailed⟩
    · rw [Cursor.next_eq_some_advance (run_tokenWhere_eq_done_iff.mp hdone).1]
      exact Nat.lt_succ_self start.position
    · exact absurd hoffers (run_tokenWhere_eq_failed_iff.mp hfailed).1

theorem opens_keyword (text : String) : Opens (· == text) (keyword text) :=
  opens_tokenWhere _ _

theorem run_keyword_keepRight_eq_failed_iff {text message : String} {rest : Cursor Token} :
    ((keyword text).keepRight rule).run start = .failed message rest ↔
      (keyword text).run start = .failed message rest ∨
        ∃ middle, Reads start [text] middle ∧ rule.run middle = .failed message rest := by
  simp only [run_keepRight_eq_failed_iff, run_keyword_eq_done_iff, Reads.singleton_iff]
  apply or_congr_right
  constructor
  · intro hrun
    obtain ⟨token, middle, hkeyword, hrule⟩ := hrun
    exact ⟨middle, ⟨token, hkeyword⟩, hrule⟩
  · intro hparts
    obtain ⟨middle, ⟨token, hkeyword⟩, hrule⟩ := hparts
    exact ⟨token, middle, hkeyword, hrule⟩

theorem Opens.map (hrule : Opens accepts rule) (f : α → β) : Opens accepts (rule.map f) where
  elsewhere _ hrefused := (hrule.elsewhere hrefused).map f
  beyond _ _ hoffers hends := hrule.beyond hoffers (endsAt_map_iff.mp hends)

theorem Opens.bind {next : α → Rule β} (hrule : Opens accepts rule)
    (hnext : ∀ value, (next value).Forward) : Opens accepts (rule.bind next) where
  elsewhere _ hrefused := (hrule.elsewhere hrefused).bind next
  beyond cursor rest hoffers hends := by
    rcases endsAt_bind_iff.mp hends with hfailed | ⟨found, middle, hfound, hlater⟩
    · exact hrule.beyond hoffers (.inr hfailed)
    · have hfirst := hrule.beyond hoffers (.inl ⟨found, hfound⟩)
      exact Nat.lt_of_lt_of_le hfirst (hnext found hlater).position_le

theorem Opens.pair {next : Rule β} (hrule : Opens accepts rule) (hnext : next.Forward) :
    Opens accepts (rule.pair next) :=
  hrule.bind fun _ => hnext.map _

theorem Opens.keepRight {next : Rule β} (hrule : Opens accepts rule) (hnext : next.Forward) :
    Opens accepts (rule.keepRight next) :=
  (hrule.pair hnext).map _

theorem Opens.keepLeft {next : Rule β} (hrule : Opens accepts rule) (hnext : next.Forward) :
    Opens accepts (rule.keepLeft next) :=
  (hrule.pair hnext).map _

end Opens

theorem run_head_eq_done_iff {start stop : Cursor Token} {name : String} :
    head.run start = .done name stop ↔
      Reads start ["let", name, "="] stop ∧ Token.isIdentifier name = true := by
  simp only [head, run_keepLeft_keyword_eq_done_iff, run_keyword_keepRight_eq_done_iff,
    run_identifier_eq_done_iff]
  constructor
  · intro hrun
    obtain ⟨beforeEquals, ⟨beforeName, hlet, hname, hidentifier⟩, hequals⟩ := hrun
    exact ⟨hlet.cons (hname.cons hequals), hidentifier⟩
  · intro hparts
    obtain ⟨hreads, hidentifier⟩ := hparts
    obtain ⟨beforeName, hlet, hreads⟩ := Reads.cons_iff_exists_singleton.mp hreads
    obtain ⟨beforeEquals, hname, hequals⟩ := Reads.cons_iff_exists_singleton.mp hreads
    exact ⟨beforeEquals, ⟨beforeName, hlet, hname, hidentifier⟩, hequals⟩

theorem opens_head : Opens (· == "let") head :=
  ((opens_keyword _).keepRight forward_identifier).keepLeft (forward_keyword _)

/-- Alternatives, each with the texts it begins with. -/
abbrev Forms (α : Type) := List ((String → Bool) × Rule α)

namespace Forms

def rules (forms : Forms α) : List (Rule α) :=
  forms.map Prod.snd

def accepts (forms : Forms α) (text : String) : Bool :=
  forms.any fun form => form.1 text

/-- No text begins two of the alternatives. -/
structure Apart (forms : Forms α) : Prop where
  opens : ∀ form ∈ forms, Opens form.1 form.2
  disjoint : forms.Pairwise fun form later => ∀ text, form.1 text = true → later.1 text = false

variable {forms : Forms α} {form : (String → Bool) × Rule α} {start : Cursor Token}
  {text : Cursor Token → String}

private theorem not_offers_of_disjoint {first second : String → Bool}
    (hdisjoint : ∀ text, first text = true → second text = false) (hoffers : Offers start first) :
    ¬ Offers start second := by
  intro hother
  obtain ⟨token, hpeek, hfirst⟩ := hoffers
  obtain ⟨other, hpeek', hsecond⟩ := hother
  rw [hpeek] at hpeek'
  cases hpeek'
  rw [hdisjoint token.text hfirst] at hsecond
  contradiction

private theorem failsHere_of_not_offers {forms : Forms α}
    (hopens : ∀ form ∈ forms, Opens form.1 form.2)
    (hrefused : ∀ form ∈ forms, ¬ Offers start form.1) :
    ∀ rule ∈ forms.rules, rule.FailsHere start := by
  intro rule hmem
  obtain ⟨form, hform, rfl⟩ := List.mem_map.mp hmem
  exact (hopens form hform).elsewhere (hrefused form hform)

/-- Where a text begins one of the alternatives, the choice is that alternative. -/
theorem Apart.run_of_offers (hforms : forms.Apart) (hmem : form ∈ forms)
    (hoffers : Offers start form.1) :
    ((choice forms.rules).label text).run start = form.2.run start := by
  obtain ⟨before, after, rfl⟩ := List.append_of_mem hmem
  obtain ⟨-, hafterApart, hbeforeApart⟩ := List.pairwise_append.mp hforms.disjoint
  obtain ⟨hbeforeOpens, hafterOpens⟩ := List.forall_mem_append.mp hforms.opens
  obtain ⟨hopens, hafterOpens⟩ := List.forall_mem_cons.mp hafterOpens
  have hbefore : ∀ rule ∈ rules before, rule.FailsHere start := by
    apply failsHere_of_not_offers hbeforeOpens
    intro other hother hotherOffers
    have hdisjoint := hbeforeApart other hother form List.mem_cons_self
    exact not_offers_of_disjoint hdisjoint hotherOffers hoffers
  have hafter : ∀ rule ∈ rules after, rule.FailsHere start := by
    apply failsHere_of_not_offers hafterOpens
    intro other hother
    exact not_offers_of_disjoint ((List.pairwise_cons.mp hafterApart).1 other hother) hoffers
  have hbeyond : ∀ message rest, form.2.run start = .failed message rest →
      start.position < rest.position :=
    fun message rest hrun => hopens.beyond hoffers (.inr ⟨message, hrun⟩)
  have hrules : rules (before ++ form :: after) = rules before ++ form.2 :: rules after := by
    simp [rules]
  have hchoice := run_choice_of_others (rules before) (rules after) hbefore hafter hbeyond
  rw [hrules, ← hchoice]
  apply run_label_of_beyond
  rw [hchoice]
  exact hbeyond

theorem Apart.run_of_not_offers (hforms : forms.Apart)
    (hrefused : ¬ Offers start forms.accepts) :
    ((choice forms.rules).label text).run start = .failed (text start) start := by
  apply run_label_of_failsHere
  apply failsHere_choice
  apply failsHere_of_not_offers hforms.opens
  intro form hmem hoffers
  obtain ⟨token, hpeek, haccepts⟩ := hoffers
  exact hrefused ⟨token, hpeek, List.any_eq_true.mpr ⟨form, hmem, haccepts⟩⟩

theorem exists_of_offers (hoffers : Offers start forms.accepts) :
    ∃ form ∈ forms, Offers start form.1 := by
  obtain ⟨token, hpeek, haccepts⟩ := hoffers
  obtain ⟨form, hmem, hform⟩ := List.any_eq_true.mp haccepts
  exact ⟨form, hmem, token, hpeek, hform⟩

theorem Apart.opens_choice (hforms : forms.Apart) (text : Cursor Token → String) :
    Opens forms.accepts ((choice forms.rules).label text) where
  elsewhere _ hrefused := ⟨_, hforms.run_of_not_offers hrefused⟩
  beyond start rest hoffers hends := by
    obtain ⟨form, hmem, hform⟩ := exists_of_offers hoffers
    rw [EndsAt, hforms.run_of_offers hmem hform] at hends
    exact (hforms.opens form hmem).beyond hform hends

end Forms

/-! The alternatives of an expression and of an atom. -/

namespace Level

variable {inner : Unit → Level} {start : Cursor Token}

def atomForms (inner : Unit → Level) : Forms Expr :=
  [((· == "("), parenthesized (defer fun _ => (inner ()).expression)),
    ((· == "?"), input),
    ((· == "-"), negation (defer fun _ => (inner ()).atom)),
    (Token.isNumeral, natural.map .literal),
    (Token.isIdentifier, identifier.map .var)]

theorem accepts_atomForms (inner : Unit → Level) : (atomForms inner).accepts = opensAtom := by
  funext text
  simp [Forms.accepts, atomForms, opensAtom, Bool.or_assoc]

def expressionForms (inner : Unit → Level) : Forms Expr :=
  [((· == "let"), bindingOver inner), ((atomForms inner).accepts, sumOver inner)]

theorem apart_atomForms (hinner : (inner ()).Forward) : (atomForms inner).Apart where
  opens := by
    have hparenthesized : Opens (· == "(") (parenthesized (inner ()).expression) :=
      ((opens_keyword _).keepRight hinner.expression).keepLeft (forward_keyword _)
    have hinput : Opens (· == "?") input :=
      ((opens_keyword _).keepRight forward_range.optional).bind forward_inputOf
    have hnegation : Opens (· == "-") (negation (inner ()).atom) :=
      ((opens_keyword _).keepRight hinner.atom).map _
    have hnatural : Opens Token.isNumeral (natural.map Expr.literal) :=
      (((opens_tokenWhere _ _).map _).bind forward_valueOf).map _
    have hidentifier : Opens Token.isIdentifier (identifier.map Expr.var) :=
      ((opens_tokenWhere _ _).map _).map _
    simp only [atomForms, List.forall_mem_cons]
    exact ⟨hparenthesized, hinput, hnegation, hnatural, hidentifier, by simp⟩
  disjoint := by
    have hsymbols : ∀ symbol ∈ ["(", "?", "-"],
        Token.isNumeral symbol = false ∧ Token.isIdentifier symbol = false := by
      decide
    have hword : ∀ text, Token.isNumeral text = true → Token.isIdentifier text = false := by
      intro text hnumeral
      apply Bool.eq_false_iff.mpr
      intro hname
      rw [Token.isNumeral_eq_false_of_isIdentifier hname] at hnumeral
      contradiction
    simpa [atomForms, and_assoc] using And.intro hsymbols hword

theorem opens_sumOver (hinner : (inner ()).Forward) :
    Opens (atomForms inner).accepts (sumOver inner) := by
  have hatom : Opens (atomForms inner).accepts (atomOver inner) :=
    (apart_atomForms hinner).opens_choice _
  have hforward : (atomOver inner).Forward := (forward_around hinner).atom
  have hproduct : Opens (atomForms inner).accepts (chain .times (atomOver inner)) :=
    (hatom.pair ((forward_keyword _).keepRight hforward).many).map _
  exact (hproduct.pair ((forward_keyword _).keepRight (forward_chain _ hforward)).many).map _

theorem apart_expressionForms (hinner : (inner ()).Forward) : (expressionForms inner).Apart where
  opens := by
    have hbound := (opens_head.pair hinner.sum).keepLeft (forward_keyword "in")
    have hbinding : Opens (· == "let") (bindingOver inner) := (hbound.pair hinner.expression).map _
    simp only [expressionForms, List.forall_mem_cons]
    exact ⟨hbinding, opens_sumOver hinner, by simp⟩
  disjoint := by
    have hlet : (atomForms inner).accepts "let" = false := rfl
    simpa [expressionForms] using hlet

section Settled

variable {stop : Cursor Token} {text : String} {texts : List String}

private theorem run_atomOver_of_mem (hinner : (inner ()).Forward)
    {form : (String → Bool) × Rule Expr} (hmem : form ∈ atomForms inner)
    (hreads : Reads start (text :: texts) stop) (haccepts : form.1 text = true) :
    (atomOver inner).run start = form.2.run start :=
  (apart_atomForms hinner).run_of_offers hmem (offers_of_reads hreads haccepts)

theorem run_atomOver_parenthesized (hinner : (inner ()).Forward)
    (hreads : Reads start ("(" :: texts) stop) :
    (atomOver inner).run start = (parenthesized (inner ()).expression).run start :=
  run_atomOver_of_mem hinner (List.mem_cons_self) hreads rfl

theorem run_atomOver_input (hinner : (inner ()).Forward)
    (hreads : Reads start ("?" :: texts) stop) :
    (atomOver inner).run start = input.run start :=
  run_atomOver_of_mem hinner (List.mem_of_getElem? (i := 1) rfl) hreads rfl

theorem run_atomOver_negation (hinner : (inner ()).Forward)
    (hreads : Reads start ("-" :: texts) stop) :
    (atomOver inner).run start = (negation (inner ()).atom).run start :=
  run_atomOver_of_mem hinner (List.mem_of_getElem? (i := 2) rfl) hreads rfl

theorem run_atomOver_literal (hinner : (inner ()).Forward)
    (hreads : Reads start (text :: texts) stop) (hnumeral : Token.isNumeral text = true) :
    (atomOver inner).run start = (natural.map .literal).run start :=
  run_atomOver_of_mem hinner (List.mem_of_getElem? (i := 3) rfl) hreads hnumeral

theorem run_expression_binding (hinner : (inner ()).Forward)
    (hreads : Reads start ("let" :: texts) stop) :
    (around inner).expression.run start =
      (binding (inner ()).sum (inner ()).expression).run start :=
  (apart_expressionForms hinner).run_of_offers List.mem_cons_self
    (offers_of_reads hreads rfl)

theorem run_expression_sum (hinner : (inner ()).Forward)
    (hreads : Reads start (text :: texts) stop)
    (hopens : opensAtom text = true) :
    (around inner).expression.run start = (sumOver inner).run start :=
  (apart_expressionForms hinner).run_of_offers (List.mem_cons_of_mem _ List.mem_cons_self)
    (offers_of_reads hreads (accepts_atomForms inner ▸ hopens))

end Settled

end Level

end RangeCalc.Grammar
