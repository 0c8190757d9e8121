import RangeCalc.Proofs.Grammar.Progress
import RangeCalc.Proofs.Program.Language
import RangeCalc.Proofs.Token.Scan
import RangeCalc.Proofs.Token.Shifts

/-! Reading a program ends, whatever the text. Each repetition runs out of elements and each rule
out of levels. -/

namespace RangeCalc

open RangeCalc.Grammar
open RangeCalc.Parser

theorem Token.progresses_lexer : lexer.Progresses :=
  built_lexer.forward.progresses lexer_advances

namespace Grammar

variable {depth : Nat}

/-- The rules that the grammar has for programs are those at depth 0. -/
theorem expression_eq_rule : expression = Phrase.expression.rule 0 := by
  have hlevel : Level.allowing maxNesting = Level.around fun _ => Level.inside 0 :=
    Level.atDepth_eq_around (Nat.zero_le maxNesting)
  rw [expression, hlevel]
  rfl

theorem Phrase.progresses_rule (phrase : Phrase) (depth : Nat) : (phrase.rule depth).Progresses :=
  phrase.progresses_ruleOver (Level.forward_inside depth)

theorem Phrase.returns_rule (phrase : Phrase) (hdepth : depth ≤ maxNesting) :
    (phrase.rule depth).Returns :=
  phrase.returns_ruleOver hdepth (Level.recognizes_inside hdepth)

end Grammar

/-- What is repeated while a program is read: the characters of white space, words and numerals,
the tokens of the text and the operands of the chains. -/
inductive Repeated : {σ α : Type} → Parser σ α → Prop where
  | chars (accepts : Char → Bool) (message : Char → String) : Repeated (satisfy accepts message)
  | tokens : Repeated Token.lexer
  | operands {depth : Nat} (hdepth : depth ≤ maxNesting) (op : Operator) :
      Repeated ((Phrase.further op).rule depth)

theorem Repeated.repeatsBriefly {σ α : Type} {p : Parser σ α} (h : Repeated p) :
    p.RepeatsBriefly := by
  cases h with
  | chars accepts message =>
      exact (progresses_satisfy _ _).repeatsBriefly (returns_satisfy accepts message)
  | tokens => exact Token.progresses_lexer.repeatsBriefly Token.returns_lexer
  | operands hdepth op =>
      exact ((Phrase.further op).progresses_rule _).repeatsBriefly
        ((Phrase.further op).returns_rule hdepth)

theorem run_many_lexer (source : String) :
    ∃ rest, Token.lexer.many.run (.ofString source) = .done (tokenize source) rest := by
  obtain ⟨tokens, rest, hrun, -⟩ := Repeated.tokens.repeatsBriefly (.ofString source)
  refine ⟨rest, ?_⟩
  rw [tokenize, hrun]

namespace Program

/-- The answer is that of a run of the grammar's rule for programs. -/
structure Settles (source : String) : Prop where
  tokens : ∃ rest, Token.lexer.many.run (.ofString source) = .done (tokenize source) rest
  answer : (∃ e rest, program.run (.ofList (tokenize source)) = .done e rest ∧
      parse source = .ok e) ∨
    ∃ message rest, program.run (.ofList (tokenize source)) = .failed message rest ∧
      parse source = .error (.located source message (offsetAt source rest))

theorem settles (source : String) : Settles source where
  tokens := run_many_lexer source
  answer := by
    by_cases hparse : ∃ e, parse source = .ok e
    · obtain ⟨e, hparse⟩ := hparse
      obtain ⟨rest, hrun⟩ := run_program_tokenize_iff.mpr (parse_eq_ok_iff.mp hparse)
      exact .inl ⟨e, rest, hrun, hparse⟩
    · exact .inr (parse_eq_error (not_exists.mp hparse))

/-- To read a program ends. A token, and a phrase at any depth, takes some of the input; so every
repetition makes at most one attempt more than there are elements ahead. The levels of nesting
depend on each other as far as the limit and no further: the innermost one refuses all. -/
theorem reading_ends :
    (Token.lexer.Progresses ∧
        ∀ depth ≤ maxNesting, ∀ phrase : Phrase,
          (phrase.rule depth).Progresses ∧ (phrase.rule depth).Returns) ∧
      (∀ {σ α : Type} {p : Parser σ α}, Repeated p → p.RepeatsBriefly) ∧
      (expression = Phrase.expression.rule 0 ∧
        ∀ levels, Level.Nested levels ↔
          ∀ depth ≤ maxNesting, levels depth = Level.atDepth depth) ∧
      ∀ source, Settles source := by
  refine ⟨⟨Token.progresses_lexer, ?_⟩, ?_, ⟨expression_eq_rule, ?_⟩, settles⟩
  · intro depth hdepth phrase
    exact ⟨phrase.progresses_rule depth, phrase.returns_rule hdepth⟩
  · intro σ α p hp
    exact hp.repeatsBriefly
  · intro levels
    exact Level.nested_iff

/-- At the limit operands may stand beside each other, with none inside them. -/
theorem reading_of_innermost_operands_ends :
    Repeated ((Phrase.further .plus).rule maxNesting) ∧
      ((Phrase.further .plus).rule maxNesting).Progresses ∧
      ((Phrase.further .plus).rule maxNesting).RepeatsBriefly := by
  have hrepeated := Repeated.operands (Nat.le_refl maxNesting) .plus
  obtain ⟨⟨-, hphrases⟩, hrepetitions, -⟩ := reading_ends
  exact ⟨hrepeated, (hphrases maxNesting (Nat.le_refl _) _).1, hrepetitions hrepeated⟩

end Program

end RangeCalc
