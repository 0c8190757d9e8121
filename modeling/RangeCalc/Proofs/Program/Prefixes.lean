import RangeCalc.Proofs.Program.Language

/-! What a rule consumes stands on its own. The rule may have looked further ahead, but without what
lies there it takes the same tokens to the same expression. -/

namespace RangeCalc.Grammar

variable {limit depth : Nat} {nonterminal : Nonterminal} {rule : Rule Expr} {e : Expr}
  {start stop : Cursor Token}

/-- The tokens that a rule consumed are a phrase. The rule takes it wherever it stands, unless the
token behind it may continue it. -/
theorem Recognizes.exists_consumed (hrule : Recognizes limit nonterminal depth rule)
    (hrun : rule.run start = .done e stop) :
    ∃ consumed, start.remaining = consumed ++ stop.remaining ∧
      stop.position = start.position + consumed.length ∧
      Derives limit nonterminal depth (consumed.map Token.text) e ∧
      ∀ position later, nonterminal.Ends ⟨position + consumed.length, later⟩ →
        rule.run ⟨position, consumed ++ later⟩ = .done e ⟨position + consumed.length, later⟩ := by
  obtain ⟨hdepth, texts, hreads, hderives⟩ := hrule.sound hrun
  obtain ⟨consumed, hremaining, rfl⟩ := hreads.exists_passed
  have hposition := hreads.position_eq
  rw [List.length_map] at hposition
  refine ⟨consumed, hremaining, hposition, hderives, ?_⟩
  intro position later hends
  exact hrule.complete hdepth hderives (reads_append consumed later position) hends

/-- The tokens that the rule of expressions consumed are a program, of the same expression. Whatever
follows them, the rule does not take them to another one, and it takes them unless the token behind
them may continue an expression. -/
theorem consumed_is_program (hrun : expression.run start = .done e stop) :
    ∃ consumed, start.remaining = consumed ++ stop.remaining ∧
      stop.position = start.position + consumed.length ∧
      (∀ position, program.run ⟨position, consumed⟩ =
        .done e ⟨position + consumed.length, []⟩) ∧
      (∀ position later, Nonterminal.expression.Ends ⟨position + consumed.length, later⟩ →
        expression.run ⟨position, consumed ++ later⟩ =
          .done e ⟨position + consumed.length, later⟩) ∧
      ∀ position later e',
        expression.run ⟨position, consumed ++ later⟩ =
          .done e' ⟨position + consumed.length, later⟩ → e' = e := by
  obtain ⟨consumed, hremaining, hposition, hderives, hagain⟩ :=
    recognizes_expression.exists_consumed hrun
  refine ⟨consumed, hremaining, hposition, ?_, hagain, ?_⟩
  · intro position
    have hreads := reads_append consumed [] position
    rw [List.append_nil] at hreads
    exact run_program_eq_done_iff.mpr ⟨rfl, _, hreads, hderives⟩
  · intro position later e' hother
    obtain ⟨consumed', hremaining', -, hderives', -⟩ :=
      recognizes_expression.exists_consumed hother
    obtain rfl : consumed = consumed' := List.append_cancel_right hremaining'
    exact hderives'.eq_of_derives hderives

private def tokensOf (texts : List String) : List Token :=
  texts.map (Token.mk · 0)

/-- `let n = 2 * ? in n + -?`. -/
private def begun : List Token :=
  tokensOf ["let", "n", "=", "2", "*", "?", "in", "n", "+", "-", "?"]

private def begunExpr : Expr :=
  .letIn "n" (.binary .times (.literal 2) .unbounded)
    (.binary .plus (.var "n") (.negate .unbounded))

private def unclosedRange : List Token :=
  tokensOf ["(", "1", ",", "5", "+", "(", "n"]

/-- As far as the `+` this could be the range of the last input, but then it is given back whole. -/
theorem consumed_is_program_before_range :
    expression.run (.ofList (begun ++ unclosedRange)) = .done begunExpr ⟨11, unclosedRange⟩ ∧
      program.run (.ofList begun) = .done begunExpr ⟨11, []⟩ := by
  have hrun : expression.run (.ofList (begun ++ unclosedRange)) =
      .done begunExpr ⟨11, unclosedRange⟩ := by
    rfl
  obtain ⟨consumed, hremaining, -, hprogram, -⟩ := consumed_is_program hrun
  obtain rfl : begun = consumed := List.append_cancel_right hremaining
  exact ⟨hrun, hprogram 0⟩

end RangeCalc.Grammar
