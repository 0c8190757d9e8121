import RangeCalc.Proofs.Grammar.Printing
import RangeCalc.Proofs.Program.Language

/-! Written expressions read back. What was read from a text is written as a text that reads as
the same, and an expression built by other means reads as its normal form or nests too deeply. -/

namespace RangeCalc.Program

open RangeCalc.Grammar

variable {source : String} {e : Expr}

theorem parse_write_of_canonical (hcanonical : e.Canonical)
    (hnesting : e.nestingAt 0 ≤ maxNesting) : parse e.write = .ok e := by
  rw [parse_eq_ok_iff, Expr.texts_tokenize_write hcanonical]
  exact Derives.textsAt 0 0 hcanonical (by omega)

theorem fits_of_parse (hparse : parse source = .ok e) :
    e.Canonical ∧ e.nestingAt 0 ≤ maxNesting := by
  obtain ⟨hcanonical, hnesting⟩ :=
    (parse_eq_ok_iff.mp hparse).fits (Nat.zero_le _) (by simp)
  have hlevel : e.nestingAt 0 ≤ e.nestingAt 1 := Expr.nestingAt_le_of_le (Nat.zero_le 1)
  rw [Nonterminal.level] at hnesting
  exact ⟨hcanonical, by omega⟩

theorem eq_of_parse_write {e' : Expr} (hcanonical : e.Canonical)
    (hparse : parse e.write = .ok e') : e' = e := by
  -- The text may nest too deeply to be read, but with enough room it derives its expression.
  have hderives := parse_eq_ok_iff.mp hparse
  rw [Expr.texts_tokenize_write hcanonical] at hderives
  have hwritten : Derives (e.nestingAt 0) .expression 0 (e.textsAt 0) e :=
    Derives.textsAt 0 0 hcanonical (by omega)
  exact hderives.eq_of_derives hwritten

theorem parse_write_of_parse (hparse : parse source = .ok e) : parse e.write = .ok e := by
  obtain ⟨hcanonical, hnesting⟩ := fits_of_parse hparse
  exact parse_write_of_canonical hcanonical hnesting

/-- `let x' = ?[-5, 7) in ((1 + x')) * -(-2)`, as it is read. -/
private def shifted : Expr :=
  .letIn "x'" (.input (-5) 6)
    (.binary .times (.binary .plus (.literal 1) (.var "x'")) (.negate (.negate (.literal 2))))

theorem parse_write_shifted :
    parse "let x' = ?[-5, 7) in ((1 + x')) * -(-2)" = .ok shifted ∧
      parse "let x' = ?[-5, 6] in (1 + x') * --2" = .ok shifted := by
  have hread : parse "let x' = ?[-5, 7) in ((1 + x')) * -(-2)" = .ok shifted := by
    decide +kernel
  have hwritten : shifted.write = "let x' = ?[-5, 6] in (1 + x') * --2" := by
    decide +kernel
  exact ⟨hread, hwritten ▸ parse_write_of_parse hread⟩

/-- An expression that has a text is read back from it with its negative literals as negations, or
it nests too deeply to be read at all. -/
theorem parse_write_of_writable (hwritable : e.Writable) :
    (e.normalize.nestingAt 0 ≤ maxNesting → parse e.write = .ok e.normalize) ∧
      (maxNesting < e.normalize.nestingAt 0 →
        ∃ message rest, program.run (.ofList (tokenize e.write)) = .failed message rest ∧
          parse e.write = .error (.located e.write message (offsetAt e.write rest))) := by
  have hcanonical := Expr.canonical_normalize hwritable
  rw [← Expr.write_normalize hwritable]
  constructor
  · exact parse_write_of_canonical hcanonical
  · intro hdeep
    apply parse_eq_error
    intro e' hparse
    obtain rfl := eq_of_parse_write hcanonical hparse
    exact Nat.not_le_of_lt hdeep (fits_of_parse hparse).2

/-- Of the negations of -1, the 99th is read back and the 100th is refused: the sign of the literal
is the last level. -/
theorem parse_write_negations :
    (Nat.repeat Expr.negate 99 (.literal (-1))).Writable ∧
      (Nat.repeat Expr.negate 100 (.literal (-1))).Writable ∧
      parse (Nat.repeat Expr.negate 99 (.literal (-1))).write =
        .ok (Nat.repeat Expr.negate 100 (.literal 1)) ∧
      ∃ error, parse (Nat.repeat Expr.negate 100 (.literal (-1))).write = .error error := by
  have hread : (Nat.repeat Expr.negate 99 (.literal (-1))).Writable := by decide +kernel
  have hrefused : (Nat.repeat Expr.negate 100 (.literal (-1))).Writable := by decide +kernel
  refine ⟨hread, hrefused, ?_, ?_⟩
  · have hparse := (parse_write_of_writable hread).1 (by decide +kernel)
    have hnormal : (Nat.repeat Expr.negate 99 (.literal (-1))).normalize =
        Nat.repeat Expr.negate 100 (.literal 1) := by
      decide +kernel
    exact hnormal ▸ hparse
  · obtain ⟨message, rest, -, herror⟩ := (parse_write_of_writable hrefused).2 (by decide +kernel)
    exact ⟨_, herror⟩

end RangeCalc.Program
