import RangeCalc.Proofs.Grammar.Misreadings
import RangeCalc.Proofs.Grammar.Viability
import RangeCalc.Proofs.Program.Language
import RangeCalc.Proofs.Token.Partition

/-! What is said of a text that is refused, and of which token. A token is only missed behind tokens
that some program begins with. -/

namespace RangeCalc

open RangeCalc.Grammar

namespace Grammar.Violation

private theorem ne_expected {message beginning rest : String} (other : String)
    (hmessage : message = beginning ++ rest) (hlength : 4 ≤ beginning.toList.length)
    (hbeginning : beginning.toList.take 4 ≠ "expe".toList) : message ≠ "expected " ++ other := by
  intro heq
  rw [hmessage] at heq
  have hchars := congrArg (List.take 4) (congrArg String.toList heq)
  rw [String.toList_append, String.toList_append, List.take_append_of_le_length hlength] at hchars
  exact hbeginning hchars

theorem message_emptyRange_eq_append (lower upper : Int64) :
    (emptyRange lower upper).message = "empty input range: " ++
      ("no integer lies between " ++ Integer.digits lower ++ " and " ++ Integer.digits upper) := by
  rw [← String.append_assoc, ← String.append_assoc, ← String.append_assoc]
  rfl

theorem message_unboundedRange_eq_append (lower upper : Int64) :
    (unboundedRange lower upper).message = "empty input range: " ++
      ("open bounds " ++ Integer.digits lower ++ " and " ++ Integer.digits upper ++
        " leave the 64-bit range") := by
  rw [← String.append_assoc, ← String.append_assoc, ← String.append_assoc, ← String.append_assoc]
  rfl

theorem message_ne_expected (violation : Violation) (what got : String) :
    violation.message ≠ "expected " ++ what ++ ", got " ++ got := by
  rw [String.append_assoc, String.append_assoc]
  cases violation with
  | literalTooLarge numeral =>
      exact ne_expected _ String.append_assoc (by decide) (by decide)
  | emptyRange lower upper =>
      exact ne_expected _ (message_emptyRange_eq_append lower upper) (by decide) (by decide)
  | unboundedRange lower upper =>
      exact ne_expected _ (message_unboundedRange_eq_append lower upper) (by decide) (by decide)
  | nestedTooDeeply => exact ne_expected _ String.append_assoc (by decide) (by decide)

end Grammar.Violation

theorem Token.Scans.offset_lt_length {chars : List Char} {tokens : List Token} {token : Token}
    (h : Scans 0 chars tokens) (hmem : token ∈ tokens) : token.offset < chars.length := by
  obtain ⟨before, rest, hchars, hoffset, hlexeme⟩ := h.exists_lexeme hmem
  have hpositive := List.length_pos_iff.mpr hlexeme.ne_nil
  rw [hchars, List.length_append, List.length_append, hoffset]
  omega

namespace Program

variable {source : String} {error : SyntaxError}

theorem exists_run_of_parse_eq_error (hrefused : parse source = .error error) :
    ∃ message rest, program.run (.ofList (tokenize source)) = .failed message rest ∧
      error = .located source message (offsetAt source rest) := by
  have hnot : ∀ e, parse source ≠ .ok e := by
    intro e hparse
    rw [hrefused] at hparse
    cases hparse
  obtain ⟨message, rest, hrun, herror⟩ := parse_eq_error hnot
  rw [hrefused] at herror
  exact ⟨message, rest, hrun, Except.error.inj herror⟩

theorem exists_passed_of_parse_eq_error (hrefused : parse source = .error error) :
    ∃ message passed rest, program.run (.ofList (tokenize source)) = .failed message rest ∧
      tokenize source = passed ++ rest.remaining ∧
      error = .located source message (offsetAt source rest) := by
  obtain ⟨message, rest, hrun, herror⟩ := exists_run_of_parse_eq_error hrefused
  obtain ⟨passed, htokens, -⟩ := forward_program (.inr ⟨message, hrun⟩)
  exact ⟨message, passed, rest, hrun, htokens, herror⟩

/-- The place of a cursor behind some of the tokens is that of the next one, or the end. -/
theorem offsetAt_cases {passed : List Token} {rest : Cursor Token}
    (htokens : tokenize source = passed ++ rest.remaining) :
    (∃ token ∈ tokenize source, rest.peek = some token ∧ offsetAt source rest = token.offset) ∨
      rest.peek = none ∧ offsetAt source rest = source.length ∧
        ∀ token ∈ tokenize source, token.offset < source.length := by
  obtain ⟨position, items⟩ := rest
  cases items with
  | nil =>
      have hscans := Token.tokenize_eq_iff.mp (Eq.refl (tokenize source))
      exact .inr ⟨rfl, rfl, fun token hmem => hscans.offset_lt_length hmem⟩
  | cons next items =>
      have hmem : next ∈ tokenize source :=
        htokens ▸ List.mem_append_right passed List.mem_cons_self
      exact .inl ⟨next, hmem, rfl, rfl⟩

/-- The tokens that start before the place of a cursor are those in front of it. -/
theorem filter_offset_lt_offsetAt {passed : List Token} {rest : Cursor Token}
    (htokens : tokenize source = passed ++ rest.remaining) :
    (tokenize source).filter (·.offset < offsetAt source rest) = passed := by
  have hscans := Token.tokenize_eq_iff.mp htokens
  obtain ⟨-, hahead, hpassed⟩ := List.pairwise_append.mp hscans.partition.increasing
  have hplaces : (∀ token ∈ passed, token.offset < offsetAt source rest) ∧
      ∀ token ∈ rest.remaining, ¬ token.offset < offsetAt source rest := by
    obtain ⟨position, items⟩ := rest
    cases items with
    | nil =>
        have hbefore : ∀ token ∈ passed, token.offset < source.length :=
          fun token hmem => hscans.offset_lt_length (List.mem_append_left _ hmem)
        exact ⟨hbefore, by simp⟩
    | cons next items =>
        have hbefore : ∀ token ∈ passed, token.offset < next.offset :=
          fun token hmem => hpassed token hmem next List.mem_cons_self
        have hbehind : ∀ token ∈ items, ¬ token.offset < next.offset :=
          fun token hmem => Nat.lt_asymm ((List.pairwise_cons.mp hahead).1 token hmem)
        exact ⟨hbefore, List.forall_mem_cons.mpr ⟨Nat.lt_irrefl _, hbehind⟩⟩
  have hbefore := List.filter_eq_self.mpr fun token hmem => decide_eq_true (hplaces.1 token hmem)
  have hbehind : rest.remaining.filter (·.offset < offsetAt source rest) = [] :=
    List.filter_eq_nil_iff.mpr fun token hmem => by simpa using hplaces.2 token hmem
  rw [htokens, List.filter_append, hbefore, hbehind, List.append_nil]

/-- Where something else was expected, the tokens up to there begin a program: some texts behind
theirs would make one, if it may nest deeply enough. -/
theorem viable_of_unexpected {what got : String} (hrefused : parse source = .error error)
    (hmessage : error.message = "expected " ++ what ++ ", got " ++ got) :
    Viable .expression 0
      (((tokenize source).filter (·.offset < error.offset)).map Token.text) := by
  obtain ⟨message, rest, hrun, rfl⟩ := exists_run_of_parse_eq_error hrefused
  rcases reports_program hrun with ⟨violation, rfl⟩ | ⟨_, texts, -, hreads, hviable⟩
  · exact absurd hmessage (violation.message_ne_expected what got)
  · obtain ⟨passed, htokens, rfl⟩ := hreads.exists_passed
    have hoffset : (SyntaxError.located source message (offsetAt source rest)).offset =
        offsetAt source rest :=
      rfl
    rwa [hoffset, filter_offset_lt_offsetAt htokens]

theorem viable_of_unclosed :
    parse "let x = (1 + 2 in x" = .error ⟨"expected ')', got 'in'", 15, 1, 16⟩ ∧
      "expected ')', got 'in'" = "expected " ++ "')'" ++ ", got " ++ "'in'" ∧
      Viable .expression 0 ["let", "x", "=", "(", "1", "+", "2"] := by
  have hrefused : parse "let x = (1 + 2 in x" = .error ⟨"expected ')', got 'in'", 15, 1, 16⟩ := by
    decide +kernel
  have hmessage : "expected ')', got 'in'" = "expected " ++ "')'" ++ ", got " ++ "'in'" := by
    decide
  have hpassed : ((tokenize "let x = (1 + 2 in x").filter (·.offset < 15)).map Token.text =
      ["let", "x", "=", "(", "1", "+", "2"] := by
    decide +kernel
  exact ⟨hrefused, hmessage, hpassed ▸ viable_of_unexpected hrefused hmessage⟩

/-- The text exposes the violation of a condition on programs. -/
def Exposed (source : String) (violation : Violation) : Prop :=
  Exposes maxNesting .expression 0 ((tokenize source).map Token.text) violation

theorem parse_of_exposed {violation : Violation} (hexposed : Exposed source violation) :
    ∃ offset, parse source = .error (.located source violation.message offset) := by
  obtain ⟨stop, hreads, -⟩ := exists_reads_tokenize source
  obtain ⟨rest, hrun⟩ := run_program_of_exposes hexposed hreads
  refine ⟨offsetAt source rest, ?_⟩
  unfold parse
  simp only [hrun]

theorem message_of_exposed {violation : Violation} (hrefused : parse source = .error error)
    (hexposed : Exposed source violation) : error.message = violation.message := by
  obtain ⟨offset, hparse⟩ := parse_of_exposed hexposed
  rw [hrefused] at hparse
  rw [Except.error.inj hparse]
  rfl

theorem message_of_not_exposed
    (houtline : Outline .expression ((tokenize source).map Token.text))
    (hrefused : parse source = .error error) (hnone : ¬ ∃ violation, Exposed source violation) :
    ∃ what ∈ ["an operator or end of input", "')'", "'in'"], ∃ symbol ∈ ["+", "*", "(", "["],
      error.message = "expected " ++ what ++ ", got " ++ ("'" ++ symbol ++ "'") := by
  obtain ⟨message, rest, hrun, rfl⟩ := exists_run_of_parse_eq_error hrefused
  obtain ⟨stop, hreads, hend⟩ := exists_reads_tokenize source
  rcases exposes_or_misread_of_run_program houtline hreads hend hrun with
    hexposes | ⟨what, hwhat, rfl, hends⟩
  · exact absurd hexposes hnone
  · obtain ⟨token, hpeek, hmem⟩ := Nonterminal.exists_of_not_ends hends
    refine ⟨what, hwhat, token.text, hmem, ?_⟩
    have hnext : describeNext rest = "'" ++ token.text ++ "'" := by
      simp only [describeNext, hpeek]
    rw [← hnext]
    rfl

/-- A text that would be a program but for violations is refused with the message of one where it
exposes one, and only there. Otherwise it is refused for an operator or for the beginning of a
range, as if they could not stand where they do. -/
theorem violation_named_iff_exposed
    (houtline : Outline .expression ((tokenize source).map Token.text))
    (hrefused : parse source = .error error) :
    ((∃ violation : Violation, error.message = violation.message) ↔
        ∃ violation, Exposed source violation) ∧
      (∀ violation, Exposed source violation → error.message = violation.message) ∧
      ((¬ ∃ violation, Exposed source violation) →
        ∃ what ∈ ["an operator or end of input", "')'", "'in'"], ∃ symbol ∈ ["+", "*", "(", "["],
          error.message = "expected " ++ what ++ ", got " ++ ("'" ++ symbol ++ "'")) := by
  have hexposed : ∀ violation, Exposed source violation → error.message = violation.message :=
    fun violation => message_of_exposed hrefused
  refine ⟨⟨?_, ?_⟩, hexposed, message_of_not_exposed houtline hrefused⟩
  · intro hnamed
    obtain ⟨violation, hmessage⟩ := hnamed
    by_contra hnone
    obtain ⟨what, -, symbol, -, hexpected⟩ := message_of_not_exposed houtline hrefused hnone
    exact violation.message_ne_expected what _ (hmessage.symm.trans hexpected)
  · intro hsome
    obtain ⟨violation, hviolation⟩ := hsome
    exact ⟨violation, hexposed violation hviolation⟩

private theorem outline_one : Outline .atom ["1"] :=
  .literal (by decide)

private theorem outline_range : Outline .atom ["?", "(", "1", ",", "1", ")"] :=
  .input (.intro .excluding .excluding (.plain (by decide)) (.plain (by decide)))

private theorem outline_sum {first second : List String} (hfirst : Outline .atom first)
    (hsecond : Outline .atom second) : Outline .expression (first ++ "+" :: second) := by
  have hothers : ∀ other ∈ [second], Outline (operand .plus) other :=
    List.forall_mem_singleton.mpr (.chain_of_operand .times hsecond)
  have hsum : Outline .expression (first ++ joined .plus [second]) :=
    .sum (.chain (.chain_of_operand .times hfirst) hothers)
  rwa [joined_cons, joined_nil, List.append_nil] at hsum

theorem violation_named_of_first_operand :
    parse "?(1,1) + 1" =
        .error ⟨"empty input range: no integer lies between 1 and 1", 7, 1, 8⟩ ∧
      ∃ violation, Exposed "?(1,1) + 1" violation := by
  have htexts : (tokenize "?(1,1) + 1").map Token.text =
      ["?", "(", "1", ",", "1", ")"] ++ "+" :: ["1"] := by
    decide +kernel
  have houtline : Outline .expression ((tokenize "?(1,1) + 1").map Token.text) :=
    htexts ▸ outline_sum outline_range outline_one
  have hrefused : parse "?(1,1) + 1" =
      .error ⟨"empty input range: no integer lies between 1 and 1", 7, 1, 8⟩ := by
    decide +kernel
  have hmessage : "empty input range: no integer lies between 1 and 1" =
      (Violation.emptyRange 1 1).message := by
    decide
  exact ⟨hrefused, (violation_named_iff_exposed houtline hrefused).1.mp ⟨_, hmessage⟩⟩

/-- The same range behind the operator: the message does not tell of it. -/
theorem violation_unnamed_of_later_operand :
    Outline .expression ((tokenize "1 + ?(1,1)").map Token.text) ∧
      parse "1 + ?(1,1)" = .error ⟨"expected an operator or end of input, got '+'", 2, 1, 3⟩ ∧
      ∀ violation : Violation,
        "expected an operator or end of input, got '+'" ≠ violation.message := by
  have htexts : (tokenize "1 + ?(1,1)").map Token.text =
      ["1"] ++ "+" :: ["?", "(", "1", ",", "1", ")"] := by
    decide +kernel
  have hexpected : "expected an operator or end of input, got '+'" =
      "expected " ++ "an operator or end of input" ++ ", got " ++ "'+'" := by
    decide
  refine ⟨htexts ▸ outline_sum outline_one outline_range, by decide +kernel, ?_⟩
  intro violation hmessage
  exact violation.message_ne_expected _ _ (hmessage.symm.trans hexpected)

end Program

end RangeCalc
