import RangeCalc.Proofs.Grammar.Violations

/-! What becomes of the other violations. An operand of a chain is not taken if it violates a
condition, and neither is a range if one of its ends does: the phrase is over before it, and the
token there is one too many. -/

namespace RangeCalc.Grammar

open RangeCalc.Parser

variable {limit depth : Nat} {nonterminal : Nonterminal} {rule : Rule Expr}
  {start stop rest : Cursor Token} {text : String} {texts texts' : List String}

theorem Reads.eq_of_length {stop' : Cursor Token} (h : Reads start texts stop)
    (h' : Reads start texts' stop') (hlength : texts.length = texts'.length) : texts = texts' :=
  (List.append_inj (h.map_remaining.symm.trans h'.map_remaining) hlength).1

namespace Nonterminal

theorem not_ends_of_reads (h : Reads start (text :: texts) stop)
    (htext : text ∈ nonterminal.extensions) : ¬ nonterminal.Ends start := by
  obtain ⟨token, hpeek, rfl⟩ := h.peek
  intro hends
  exact hends token hpeek htext

theorem exists_of_not_ends (hends : ¬ nonterminal.Ends start) :
    ∃ token, start.peek = some token ∧ token.text ∈ nonterminal.extensions := by
  simpa [Ends] using hends

/-- A word that does not continue the phrase is missed where something does. -/
theorem run_keyword_of_not_ends (text : String) (hends : ¬ nonterminal.Ends start)
    (htext : text ∉ nonterminal.extensions) :
    (keyword text).run start = .failed (expecting ("'" ++ text ++ "'") start) start := by
  obtain ⟨token, hpeek, hmem⟩ := exists_of_not_ends hends
  apply run_tokenWhere_of_not_offers
  intro hoffers
  obtain ⟨other, hother, haccepts⟩ := hoffers
  rw [hpeek] at hother
  cases hother
  exact htext (beq_iff_eq.mp haccepts ▸ hmem)

end Nonterminal

/-! Ranges with an end that does not fit. -/

private theorem SignedOutline.eq_of_reads {stop' : Cursor Token} (h : SignedOutline texts)
    (h' : SignedOutline texts') (hreads : Reads start texts stop)
    (hreads' : Reads start texts' stop') : texts = texts' := by
  have hminus {numeral other : String} (hnumeral : Token.isNumeral numeral = true)
      {stop stop' : Cursor Token} (hreads : Reads start [numeral] stop)
      (hreads' : Reads start ["-", other] stop') : False := by
    obtain ⟨middle, hsign, -⟩ := Reads.cons_iff_exists_singleton.mp hreads'
    have heq := hreads.eq_of_length hsign rfl
    exact Token.ne_of_isNumeral hnumeral "-" (by decide) (List.cons.inj heq).1
  cases h with
  | plain hnumeral =>
      cases h' with
      | plain => exact hreads.eq_of_length hreads' rfl
      | minus => exact (hminus hnumeral hreads hreads').elim
  | minus =>
      cases h' with
      | plain hnumeral => exact (hminus hnumeral hreads' hreads).elim
      | minus => exact hreads.eq_of_length hreads' rfl

private theorem signed_or_failsAt (h : SignedOutline texts) (hreads : Reads start texts stop) :
    (∃ value, Signed texts value) ∨ signed.FailsAt start := by
  rcases returns_signed.done_or_failsAt start with ⟨value, rest, hrun⟩ | hfails
  · obtain ⟨texts', hreads', hsigned⟩ := run_signed_eq_done_iff.mp hrun
    obtain rfl := h.eq_of_reads hsigned.outline hreads hreads'
    exact .inl ⟨value, hsigned⟩
  · exact .inr hfails

theorem written_or_failsAt_range (h : RangeOutline texts) (hreads : Reads start texts stop) :
    (∃ found, Range.Written texts found) ∨ range.FailsAt start := by
  cases h with
  | @intro lowerTexts upperTexts lowerDelimiter upperDelimiter hlower hupper =>
      obtain ⟨afterOpening, hopening, hreads⟩ := Reads.cons_iff_exists_singleton.mp hreads
      obtain ⟨beforeComma, hlowerReads, hreads⟩ := Reads.append_iff.mp hreads
      obtain ⟨afterComma, hcomma, hreads⟩ := Reads.cons_iff_exists_singleton.mp hreads
      obtain ⟨beforeClosing, hupperReads, -⟩ := Reads.append_iff.mp hreads
      have hdelimiter := run_lowerDelimiter_eq_done_iff.mpr hopening
      rcases signed_or_failsAt hlower hlowerReads with ⟨lower, hlower⟩ | hlower
      · rcases signed_or_failsAt hupper hupperReads with ⟨upper, hupper⟩ | hupper
        · exact .inl ⟨_, .intro lowerDelimiter upperDelimiter hlower hupper⟩
        · have hlowerRun := run_signed_eq_done_iff.mpr ⟨lowerTexts, hlowerReads, hlower⟩
          have hpair : (Grammar.lowerDelimiter.pair signed).run start =
              .done (lowerDelimiter, lower) beforeComma :=
            run_pair_eq_done_iff.mpr ⟨afterOpening, hdelimiter, hlowerRun⟩
          have hkeep := run_keepLeft_keyword_eq_done_iff.mpr ⟨beforeComma, hpair, hcomma⟩
          have hpair := failsAt_pair_iff.mpr (.inr ⟨_, afterComma, hkeep, hupper⟩)
          exact .inr ((hpair.pair _).map _)
      · have hpair := failsAt_pair_iff.mpr (.inr ⟨lowerDelimiter, afterOpening, hdelimiter, hlower⟩)
        exact .inr ((((hpair.keepLeft _).pair _).pair _).map _)

/-- The phrase is over before a token that might belong to it, or that token stands where the
phrase should be closed. -/
inductive Misread (nonterminal : Nonterminal) (outcome : Outcome Token Expr) : Prop where
  | short {e : Expr} {rest : Cursor Token} (hrun : outcome = .done e rest)
      (hends : ¬ nonterminal.Ends rest)
  | unclosed {what : String} {rest : Cursor Token}
      (hrun : outcome = .failed (expecting what rest) rest) (hwhat : what ∈ ["')'", "'in'"])
      (hends : ¬ Nonterminal.expression.Ends rest)

/-- What can come of a phrase in outline. -/
inductive Settled (limit : Nat) (nonterminal : Nonterminal) (depth : Nat) (texts : List String)
    (outcome : Outcome Token Expr) : Prop where
  | derives {e : Expr} (h : Derives limit nonterminal depth texts e)
  | exposes {violation : Violation} (h : Exposes limit nonterminal depth texts violation)
  | misread (h : Misread nonterminal outcome)

def Settles (limit : Nat) (nonterminal : Nonterminal) (depth : Nat) (rule : Rule Expr) : Prop :=
  ∀ ⦃texts start stop⦄, Outline nonterminal texts → Reads start texts stop →
    nonterminal.Ends stop → Settled limit nonterminal depth texts (rule.run start)

theorem settles_beyond (hdepth : limit < depth) : Settles limit nonterminal depth rule :=
  fun _ _ _ _ _ _ => .exposes (.beyond hdepth)

theorem settled_input (hdepth : depth ≤ limit) (houtline : RangeOutline texts)
    (hreads : Reads start ("?" :: texts) stop) :
    Settled limit .atom depth ("?" :: texts) (input.run start) := by
  obtain ⟨middle, hmark, hrange⟩ := Reads.cons_iff_exists_singleton.mp hreads
  rcases written_or_failsAt_range houtline hrange with ⟨found, hwritten⟩ | hfails
  · cases hbounds : found.bounds with
    | ok bounds => exact .derives (.input hwritten (Range.bounds_eq_ok_iff.mp hbounds))
    | error violation => exact .exposes (.range hdepth hwritten hbounds)
  · refine .misread (.short (run_input_eq_done_iff.mpr (.inr ⟨hmark, hfails, rfl⟩)) ?_)
    cases houtline with
    | intro lowerDelimiter =>
        exact Nonterminal.not_ends_of_reads hrange (by cases lowerDelimiter <;> decide)

theorem settled_literal (hdepth : depth ≤ limit) (hnumeral : Token.isNumeral text = true)
    (outcome : Outcome Token Expr) : Settled limit .atom depth [text] outcome := by
  by_cases hfits : Integer.Fits (decimal text)
  · exact .derives (.literal hnumeral (Integer.toInt_ofInt_of_fits hfits))
  · exact .exposes (.literal hdepth hnumeral hfits)

theorem Settles.parenthesized (hrule : Settles limit .expression (depth + 1) rule)
    (houtline : Outline .expression texts)
    (hreads : Reads start ("(" :: (texts ++ [")"])) stop) :
    Settled limit .atom depth ("(" :: (texts ++ [")"])) ((parenthesized rule).run start) := by
  obtain ⟨inside, hopening, hreads⟩ := Reads.cons_iff_exists_singleton.mp hreads
  obtain ⟨beyond, hinside, hclosing⟩ := Reads.append_iff.mp hreads
  rcases Nat.lt_or_ge depth limit with hwithin | hdeep
  · cases hrule houtline hinside (Nonterminal.ends_of_reads hclosing (by decide)) with
    | derives hderives => exact .derives (.parenthesized hwithin hderives)
    | exposes hexposes => exact .exposes (.parenthesized hexposes)
    | misread hmisread =>
        cases hmisread with
        | short hrun hends =>
            have hmissing := Nonterminal.run_keyword_of_not_ends ")" hends (by decide)
            have hfailed := run_parenthesized_of_unclosed hopening hrun hmissing
            exact .misread (.unclosed hfailed (by decide) hends)
        | unclosed hrun hwhat hends =>
            exact .misread (.unclosed (run_parenthesized_of_failed hopening hrun) hwhat hends)
  · exact .exposes (.parenthesized (.beyond (Nat.lt_succ_of_le hdeep)))

theorem Settles.negation (hrule : Settles limit .atom (depth + 1) rule)
    (houtline : Outline .atom texts) (hreads : Reads start ("-" :: texts) stop)
    (hends : Nonterminal.atom.Ends stop) :
    Settled limit .atom depth ("-" :: texts) ((negation rule).run start) := by
  obtain ⟨inside, hminus, hreads⟩ := Reads.cons_iff_exists_singleton.mp hreads
  rcases Nat.lt_or_ge depth limit with hwithin | hdeep
  · cases hrule houtline hreads hends with
    | derives hderives => exact .derives (.negation hwithin hderives)
    | exposes hexposes => exact .exposes (.negation hexposes)
    | misread hmisread =>
        cases hmisread with
        | short hrun hends =>
            have hkeep := run_keyword_keepRight_eq_done_iff.mpr ⟨inside, hminus, hrun⟩
            exact .misread (.short (run_map_eq_done_iff.mpr ⟨_, hkeep, rfl⟩) hends)
        | unclosed hrun hwhat hends =>
            exact .misread (.unclosed (run_negation_of_failed hminus hrun) hwhat hends)
  · exact .exposes (.negation (.beyond (Nat.lt_succ_of_le hdeep)))

theorem Settles.binding {boundRule bodyRule : Rule Expr} {name : String}
    {boundTexts bodyTexts : List String}
    (hboundRule : Settles limit (.chain .plus) (depth + 1) boundRule)
    (hbodyRule : Settles limit .expression (depth + 1) bodyRule)
    (hrecognizes : Recognizes limit (.chain .plus) (depth + 1) boundRule)
    (hname : Token.isIdentifier name = true) (hbound : Outline (.chain .plus) boundTexts)
    (hbody : Outline .expression bodyTexts)
    (hreads : Reads start ("let" :: name :: "=" :: (boundTexts ++ "in" :: bodyTexts)) stop)
    (hends : Nonterminal.expression.Ends stop) :
    Settled limit .expression depth ("let" :: name :: "=" :: (boundTexts ++ "in" :: bodyTexts))
      ((binding boundRule bodyRule).run start) := by
  obtain ⟨beforeBound, hhead, hreads⟩ := exists_head hname hreads
  obtain ⟨beforeIn, hboundReads, hreads⟩ := Reads.append_iff.mp hreads
  have hin : (Nonterminal.chain .plus).Ends beforeIn := Nonterminal.ends_of_reads hreads (by decide)
  rcases Nat.lt_or_ge depth limit with hwithin | hdeep
  · cases hboundRule hbound hboundReads hin with
    | exposes hexposes => exact .exposes (.bound hname hexposes)
    | misread hmisread =>
        cases hmisread with
        | short hrun hends =>
            have hmissing := Nonterminal.run_keyword_of_not_ends "in" hends (by decide)
            have hfailed := run_binding_of_unclosed bodyRule hhead hrun hmissing
            exact .misread (.unclosed hfailed (by decide) hends)
        | unclosed hrun hwhat hends =>
            have hfailed := run_binding_of_bound_failed bodyRule hhead hrun
            exact .misread (.unclosed hfailed hwhat hends)
    | derives hderives =>
        have hboundRun := hrecognizes.complete hwithin hderives hboundReads hin
        obtain ⟨beforeBody, hinRun, hbodyReads⟩ := Reads.cons_iff_exists_singleton.mp hreads
        cases hbodyRule hbody hbodyReads hends with
        | derives hbodyDerives => exact .derives (.binding hwithin hname hderives hbodyDerives)
        | exposes hexposes => exact .exposes (.body hwithin hname hderives hexposes)
        | misread hmisread =>
            cases hmisread with
            | short hrun hends =>
                have hdone := run_binding_of_done hhead hboundRun hinRun hrun
                exact .misread (.short hdone hends)
            | unclosed hrun hwhat hends =>
                have hfailed := run_binding_of_body_failed hhead hboundRun hinRun hrun
                exact .misread (.unclosed hfailed hwhat hends)
  · exact .exposes (.bound hname (.beyond (Nat.lt_succ_of_le hdeep)))

section Chain

variable {op : Operator} {others : List (List String)}

theorem Nonterminal.symbol_mem_extensions (op : Operator) :
    op.symbol ∈ (Nonterminal.chain op).extensions := by
  cases op <;> decide

theorem Nonterminal.symbol_notMem_extensions (op : Operator) :
    op.symbol ∉ (operand op).extensions := by
  cases op <;> decide

/-- Behind an operand that is cut short, the chain is over. -/
private theorem failsAt_further (rule : Rule Expr) (hends : ¬ (operand op).Ends start) :
    ((keyword op.symbol).keepRight rule).FailsAt start := by
  have hmissing := Nonterminal.run_keyword_of_not_ends op.symbol hends
    (Nonterminal.symbol_notMem_extensions op)
  exact FailsAt.keepRight ⟨_, _, hmissing⟩ rule

private theorem ends_joined (hreads : Reads start (joined op others) stop)
    (hends : (Nonterminal.chain op).Ends stop) : (operand op).Ends start := by
  cases others with
  | nil =>
      obtain rfl := Reads.nil_iff.mp hreads
      exact Nonterminal.ends_operand hends
  | cons other others =>
      exact Nonterminal.ends_of_reads hreads (Nonterminal.symbol_notMem_extensions op)

/-- Further operands are taken up to the first that violates a condition. -/
private theorem derives_or_repeats (hdepth : depth ≤ limit)
    (hrule : Settles limit (operand op) depth rule) (hblames : Blames limit (operand op) depth rule)
    (hrecognizes : Recognizes limit (operand op) depth rule)
    (hothers : ∀ other ∈ others, Outline (operand op) other)
    (hreads : Reads start (joined op others) stop) (hends : (Nonterminal.chain op).Ends stop)
    (left : Expr) :
    (∃ e, Derives limit (.further op left) depth (joined op others) e) ∨
      ∃ values rest, Repeats ((keyword op.symbol).keepRight rule) start values rest ∧
        ¬ (Nonterminal.chain op).Ends rest := by
  induction others generalizing start left with
  | nil => exact .inl ⟨left, .last⟩
  | cons other others ih =>
      obtain ⟨houtline, hothers⟩ := List.forall_mem_cons.mp hothers
      have hhere : ¬ (Nonterminal.chain op).Ends start :=
        Nonterminal.not_ends_of_reads hreads (Nonterminal.symbol_mem_extensions op)
      obtain ⟨after, hsymbol, hreads⟩ := Reads.cons_iff_exists_singleton.mp hreads
      obtain ⟨next, hoperandReads, hlaterReads⟩ := Reads.append_iff.mp hreads
      -- The operator before an operand that fails is left where it is.
      have hstop {message : String} {rest : Cursor Token}
          (hrun : rule.run after = .failed message rest) :
          Repeats ((keyword op.symbol).keepRight rule) start [] start := by
        have hkeep := run_keyword_keepRight_eq_failed_iff.mpr (.inr ⟨after, hsymbol, hrun⟩)
        exact .stop ⟨message, rest, hkeep⟩
      have hnext := ends_joined hlaterReads hends
      cases hrule houtline hoperandReads hnext with
      | derives hderives =>
          have hrun := hrecognizes.complete hdepth hderives hoperandReads hnext
          have hkeep := run_keyword_keepRight_eq_done_iff.mpr ⟨after, hsymbol, hrun⟩
          rcases ih hothers hlaterReads (.binary op left _) with
            ⟨e, hlater⟩ | ⟨values, rest, hrepeats, hends⟩
          · exact .inl ⟨e, .further hderives hlater⟩
          · exact .inr ⟨_, rest, .step hkeep hrepeats, hends⟩
      | exposes hexposes =>
          obtain ⟨rest, hrun⟩ := hblames hexposes hoperandReads
          exact .inr ⟨[], start, hstop hrun, hhere⟩
      | misread hmisread =>
          cases hmisread with
          | short hrun hends =>
              have hkeep := run_keyword_keepRight_eq_done_iff.mpr ⟨after, hsymbol, hrun⟩
              have hover := Repeats.stop (failsAt_further rule hends)
              exact .inr ⟨_, _, .step hkeep hover, mt Nonterminal.ends_operand hends⟩
          | unclosed hrun => exact .inr ⟨[], start, hstop hrun, hhere⟩

private theorem run_chain_of_repeats {first : Expr} {middle : Cursor Token} {values : List Expr}
    (hfirst : rule.run start = .done first middle)
    (hrepeats : Repeats ((keyword op.symbol).keepRight rule) middle values rest) :
    (chain op rule).run start = .done (values.foldl (Expr.binary op) first) rest := by
  have hmany := run_many_eq_done_iff.mpr hrepeats
  have hpair : (rule.pair ((keyword op.symbol).keepRight rule).many).run start =
      .done (first, values) rest :=
    run_pair_eq_done_iff.mpr ⟨middle, hfirst, hmany⟩
  exact run_map_eq_done_iff.mpr ⟨_, hpair, rfl⟩

theorem Settles.chain (hdepth : depth ≤ limit) (hrule : Settles limit (operand op) depth rule)
    (hblames : Blames limit (operand op) depth rule)
    (hrecognizes : Recognizes limit (operand op) depth rule) :
    Settles limit (.chain op) depth (chain op rule) := by
  intro texts start stop houtline hreads hends
  cases houtline with
  | chain hfirst hothers =>
      obtain ⟨middle, hfirstReads, hlaterReads⟩ := Reads.append_iff.mp hreads
      have hmiddle := ends_joined hlaterReads hends
      cases hrule hfirst hfirstReads hmiddle with
      | exposes hexposes => exact .exposes (.first hexposes)
      | @derives first hderives =>
          have hrun := hrecognizes.complete hdepth hderives hfirstReads hmiddle
          have hlater :=
            derives_or_repeats hdepth hrule hblames hrecognizes hothers hlaterReads hends first
          rcases hlater with ⟨e, hlater⟩ | ⟨values, rest, hrepeats, hends⟩
          · exact .derives (.chain hderives hlater)
          · exact .misread (.short (run_chain_of_repeats hrun hrepeats) hends)
      | misread hmisread =>
          cases hmisread with
          | short hrun hends =>
              have hover := Repeats.stop (failsAt_further rule hends)
              have hchain := run_chain_of_repeats hrun hover
              exact .misread (.short hchain (mt Nonterminal.ends_operand hends))
          | unclosed hrun hwhat hends =>
              exact .misread (.unclosed (run_chain_of_failed op hrun) hwhat hends)

end Chain

structure Level.Settles (limit depth : Nat) (level : Level) : Prop where
  expression : Grammar.Settles limit .expression depth level.expression
  sum : Grammar.Settles limit (.chain .plus) depth level.sum
  atom : Grammar.Settles limit .atom depth level.atom

namespace Level

variable {inner : Unit → Level}

theorem settles_forbidden (hdepth : limit < depth) : forbidden.Settles limit depth where
  expression := settles_beyond hdepth
  sum := settles_beyond hdepth
  atom := settles_beyond hdepth

private theorem settles_atomOver (hdepth : depth ≤ limit) (hforward : (inner ()).Forward)
    (hinner : (inner ()).Settles limit (depth + 1)) :
    Grammar.Settles limit .atom depth (atomOver inner) := by
  intro texts start stop houtline hreads hends
  cases houtline with
  | parenthesized hinside =>
      rw [run_atomOver_parenthesized hforward hreads]
      exact hinner.expression.parenthesized hinside hreads
  | unbounded => exact .derives .unbounded
  | input hrange =>
      rw [run_atomOver_input hforward hreads]
      exact settled_input hdepth hrange hreads
  | negation hoperand =>
      rw [run_atomOver_negation hforward hreads]
      exact hinner.atom.negation hoperand hreads hends
  | literal hnumeral => exact settled_literal hdepth hnumeral _
  | var hname => exact .derives (.var hname)

theorem settles_around (hdepth : depth ≤ limit) (hforward : (inner ()).Forward)
    (hrecognizes : (inner ()).Recognizes limit (depth + 1))
    (hblames : (inner ()).Blames limit (depth + 1))
    (hinner : (inner ()).Settles limit (depth + 1)) : (around inner).Settles limit depth := by
  have hatom := settles_atomOver hdepth hforward hinner
  have hatomBlames := (blames_around hdepth hforward hrecognizes hblames).atom
  have hatomRecognizes := recognizes_atomOver hdepth hrecognizes
  have hsum : Grammar.Settles limit (.chain .plus) depth (sumOver inner) :=
    .chain hdepth (.chain hdepth hatom hatomBlames hatomRecognizes) (.chain hdepth hatomBlames)
      (.chain hatomRecognizes)
  refine ⟨?_, hsum, hatom⟩
  intro texts start stop houtline hreads hends
  cases houtline with
  | binding hname hbound hbody =>
      rw [run_expression_binding hforward hreads]
      exact hinner.sum.binding hinner.expression hrecognizes.sum hname hbound hbody hreads hends
  | sum houtline =>
      obtain ⟨text, rest, rfl, hopens⟩ := houtline.sum_begins
      rw [run_expression_sum hforward hreads hopens]
      cases hsum houtline hreads hends with
      | derives hderives => exact .derives (.sum hderives)
      | exposes hexposes => exact .exposes (.sum hexposes)
      | misread hmisread =>
          cases hmisread with
          | short hrun hends => exact .misread (.short hrun hends)
          | unclosed hrun hwhat hends => exact .misread (.unclosed hrun hwhat hends)

theorem settles_allowing (room : Nat) (hlimit : depth + room = limit) :
    (allowing room).Settles limit depth := by
  induction room generalizing depth with
  | zero =>
      exact settles_around (by omega) forward_forbidden (recognizes_forbidden (by omega))
        (blames_forbidden (by omega)) (settles_forbidden (by omega))
  | succ room ih =>
      exact settles_around (by omega) (forward_allowing room) (recognizes_allowing room (by omega))
        (blames_allowing room (by omega)) (ih (by omega))

end Level

/-- A program in outline that is refused is refused for a violation that it exposes, or some token
of it is one too many. -/
theorem exposes_or_misread_of_run_program {message : String}
    (houtline : Outline .expression texts) (hreads : Reads start texts stop)
    (hend : stop.remaining = []) (hrun : program.run start = .failed message rest) :
    (∃ violation, Exposes maxNesting .expression 0 texts violation) ∨
      ∃ what ∈ ["an operator or end of input", "')'", "'in'"],
        message = expecting what rest ∧ ¬ Nonterminal.expression.Ends rest := by
  have hsettles := (Level.settles_allowing maxNesting (Nat.zero_add _)).expression
  cases hsettles houtline hreads (Nonterminal.ends_of_remaining_nil hend) with
  | derives hderives =>
      have hdone := run_program_eq_done_iff.mpr ⟨hend, texts, hreads, hderives⟩
      exact absurd ⟨message, rest, hrun⟩ (not_failsAt_of_done hdone)
  | exposes hexposes => exact .inl ⟨_, hexposes⟩
  | misread hmisread =>
      refine .inr ?_
      cases hmisread with
      | @short e middle hexpression hends =>
          have hmore : middle.remaining ≠ [] := mt Nonterminal.ends_of_remaining_nil hends
          have hfailed : program.run start =
              .failed (expecting "an operator or end of input" middle) middle := by
            rw [program, run_keepLeft_eq_failed_iff]
            refine .inr ⟨e, middle, hexpression, ?_⟩
            exact run_endOfInput_label_eq_failed_iff.mpr ⟨hmore, rfl, rfl⟩
          rw [hrun] at hfailed
          cases hfailed
          exact ⟨_, List.mem_cons_self, rfl, hends⟩
      | unclosed hexpression hwhat hends =>
          have hfailed : program.run start = _ := run_keepLeft_eq_failed_iff.mpr (.inl hexpression)
          rw [hrun] at hfailed
          cases hfailed
          exact ⟨_, List.mem_cons_of_mem _ hwhat, rfl, hends⟩

end RangeCalc.Grammar
