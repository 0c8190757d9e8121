import RangeCalc.Proofs.Grammar.Recognition

/-! Which source texts are programs: those whose tokens derive an expression, and it is the only
one that they derive. -/

namespace RangeCalc

open RangeCalc.Grammar

/-- Texts derive one expression at most, whatever the limit of each derivation. -/
theorem Grammar.Derives.eq_of_derives {limit limit' : Nat} {texts : List String} {e e' : Expr}
    (h : Derives limit .expression 0 texts e) (h' : Derives limit' .expression 0 texts e') :
    e = e' := by
  -- One rule takes both expressions from tokens with these texts.
  have hexpression :=
    (Level.recognizes_allowing (max limit limit') (Nat.zero_add _)).expression
  have htokens : (Cursor.ofList (texts.map (Token.mk · 0))).remaining.map Token.text =
      texts ++ [] := by
    simp [Function.comp_def]
  obtain ⟨stop, hreads, hstop⟩ := exists_reads htokens
  have hends : Nonterminal.expression.Ends stop :=
    Nonterminal.ends_of_remaining_nil (List.map_eq_nil_iff.mp hstop)
  have hrun := hexpression.complete (Nat.zero_le _) (h.mono (Nat.le_max_left ..)) hreads hends
  have hrun' := hexpression.complete (Nat.zero_le _) (h'.mono (Nat.le_max_right ..)) hreads hends
  rw [hrun] at hrun'
  cases hrun'
  rfl

namespace Program

variable {source : String} {e : Expr}

instance : Decidable (parse source = .ok e) :=
  decidable_of_decidable_of_iff (p := (parse source).toOption = some e) (by
    generalize parse source = result
    cases result <;> simp [Except.toOption])

theorem exists_reads_tokenize (source : String) :
    ∃ stop, Reads (.ofList (tokenize source)) ((tokenize source).map Token.text) stop ∧
      stop.remaining = [] := by
  have htokens : (Cursor.ofList (tokenize source)).remaining.map Token.text =
      (tokenize source).map Token.text ++ [] :=
    (List.append_nil _).symm
  obtain ⟨stop, hreads, hstop⟩ := exists_reads htokens
  exact ⟨stop, hreads, List.map_eq_nil_iff.mp hstop⟩

theorem run_program_tokenize_iff :
    (∃ stop, program.run (.ofList (tokenize source)) = .done e stop) ↔
      Derives maxNesting .expression 0 ((tokenize source).map Token.text) e := by
  simp only [run_program_eq_done_iff]
  constructor
  · intro hrun
    obtain ⟨stop, hend, texts, hreads, hderives⟩ := hrun
    have hall : (tokenize source).map Token.text = texts := by
      simpa [hend] using hreads.map_remaining
    exact hall ▸ hderives
  · intro hderives
    obtain ⟨stop, hreads, hend⟩ := exists_reads_tokenize source
    exact ⟨stop, hend, _, hreads, hderives⟩

theorem parse_eq_ok_iff :
    parse source = .ok e ↔
      Derives maxNesting .expression 0 ((tokenize source).map Token.text) e := by
  rw [← run_program_tokenize_iff]
  unfold parse
  generalize program.run (.ofList (tokenize source)) = outcome
  cases outcome <;> simp

/-- A text that is refused is refused at a place, with a message of the grammar. -/
theorem parse_eq_error (hrefused : ∀ e, parse source ≠ .ok e) :
    ∃ message rest, program.run (.ofList (tokenize source)) = .failed message rest ∧
      parse source = .error (.located source message (offsetAt source rest)) := by
  rcases returns_program.done_or_failsAt (.ofList (tokenize source)) with
    ⟨e, stop, hrun⟩ | ⟨message, rest, hrun⟩
  · exact absurd (parse_eq_ok_iff.mpr (run_program_tokenize_iff.mp ⟨stop, hrun⟩)) (hrefused e)
  · refine ⟨message, rest, hrun, ?_⟩
    unfold parse
    simp only [hrun]

/-- The programs are the texts of the language, and each is the text of one expression only. -/
theorem parses_exactly_the_language :
    (∀ source e, parse source = .ok e ↔
      Derives maxNesting .expression 0 ((tokenize source).map Token.text) e) ∧
      ∀ texts e e', Derives maxNesting .expression 0 texts e →
        Derives maxNesting .expression 0 texts e' → e = e' := by
  constructor
  · intro source e
    exact parse_eq_ok_iff
  · intro texts e e' h h'
    exact h.eq_of_derives h'

end Program

end RangeCalc
