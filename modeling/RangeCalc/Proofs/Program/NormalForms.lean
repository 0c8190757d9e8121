import RangeCalc.Proofs.Evaluation.Attainment
import RangeCalc.Proofs.Evaluation.Faults
import RangeCalc.Proofs.Program.RoundTrip

/-! Inlined expressions are normal forms: they have no names left and can be answered, so inlining
leaves them as they are, and they are written as programs if what was inlined is one. -/

namespace RangeCalc

variable {allowed : Int64 → Prop}

namespace Expr

def literals : Expr → List Int64
  | .literal value => [value]
  | .input _ _ => []
  | .var _ => []
  | .negate operand => operand.literals
  | .binary _ left right => left.literals ++ right.literals
  | .letIn _ bound body => bound.literals ++ body.literals

/-- There are no names in the expression, every input can be answered, and the literals are among
those allowed. -/
structure Normal (allowed : Int64 → Prop) (e : Expr) : Prop where
  nameless : e.Nameless
  wellFormed : e.WellFormed allowed

theorem WellFormed.of_mem_literals {e : Expr} (h : e.WellFormed allowed) {value : Int64}
    (hmem : value ∈ e.literals) : allowed value := by
  induction e with
  | literal _ => exact List.mem_singleton.mp hmem ▸ h
  | input lower upper => cases hmem
  | var name => cases hmem
  | negate operand ih => exact ih h hmem
  | binary op left right ihLeft ihRight =>
      exact (List.mem_append.mp hmem).elim (ihLeft h.1) (ihRight h.2)
  | letIn name bound body ihBound ihBody =>
      exact (List.mem_append.mp hmem).elim (ihBound h.2.1) (ihBody h.2.2)

theorem WellFormed.le_of_mem_inputs {e : Expr} (h : e.WellFormed allowed) {range : Int64 × Int64}
    (hmem : range ∈ e.inputs) : range.1 ≤ range.2 := by
  induction e with
  | literal _ => cases hmem
  | input lower upper => exact List.mem_singleton.mp hmem ▸ h
  | var name => cases hmem
  | negate operand ih => exact ih h hmem
  | binary op left right ihLeft ihRight =>
      exact (List.mem_append.mp hmem).elim (ihLeft h.1) (ihRight h.2)
  | letIn name bound body ihBound ihBody =>
      exact (List.mem_append.mp hmem).elim (ihBound h.2.1) (ihBody h.2.2)

end Expr

namespace Semantics

/-- What is put in the place of a variable is a normal form, and so is what comes of it. -/
theorem inlining_ends_normal {e : Expr} {trees : Env Expr}
    (hliterals : ∀ value ∈ e.literals, allowed value)
    (htrees : trees.All (Expr.Normal allowed)) :
    (inlining.evaluate e trees).Ends (Expr.Normal allowed) fun _ _ => True := by
  induction e generalizing trees with
  | literal value =>
      rw [evaluate_literal]
      exact Eval.ends_pure ⟨trivial, hliterals value List.mem_cons_self⟩
  | input lower upper =>
      rw [evaluate_input, request]
      split
      · exact Eval.ends_throw fun _ => trivial
      · next hordered => exact Eval.ends_pure ⟨trivial, Int64.not_lt.mp hordered⟩
  | var name =>
      rw [evaluate_var, resolve]
      cases hlookup : trees.lookup name with
      | some tree => exact Eval.ends_pure (htrees name tree hlookup)
      | none => exact Eval.ends_throw fun _ => trivial
  | negate operand ih =>
      rw [evaluate_negate]
      apply (ih hliterals htrees).bind
      intro tree htree
      exact Eval.ends_pure ⟨htree.nameless, htree.wellFormed⟩
  | binary op left right ihLeft ihRight =>
      obtain ⟨hleft, hright⟩ := List.forall_mem_append.mp hliterals
      rw [evaluate_binary]
      apply (ihLeft hleft htrees).bind
      intro leftTree hleftTree
      apply (ihRight hright htrees).bind
      intro rightTree hrightTree
      exact Eval.ends_pure ⟨⟨hleftTree.nameless, hrightTree.nameless⟩,
        hleftTree.wellFormed, hrightTree.wellFormed⟩
  | letIn name bound body ihBound ihBody =>
      obtain ⟨hbound, hbody⟩ := List.forall_mem_append.mp hliterals
      rw [evaluate_letIn]
      apply (ihBound hbound htrees).bind
      intro tree htree
      exact ihBody hbody (htrees.bind name htree)

theorem evaluate_inlining_of_normal {e : Expr} (h : e.Normal allowed) (trees : Env Expr) :
    inlining.evaluate e trees = pure e := by
  induction e with
  | literal value => exact evaluate_literal inlining trees value
  | input lower upper =>
      rw [evaluate_input, request, if_neg (Int64.not_lt.mpr h.wellFormed)]
      rfl
  | var name => exact h.nameless.elim
  | negate operand ih =>
      rw [evaluate_negate, ih ⟨h.nameless, h.wellFormed⟩, pure_bind]
      rfl
  | binary op left right ihLeft ihRight =>
      rw [evaluate_binary, ihLeft ⟨h.nameless.1, h.wellFormed.1⟩,
        ihRight ⟨h.nameless.2, h.wellFormed.2⟩, pure_bind, pure_bind]
      rfl
  | letIn name bound body _ _ => exact h.nameless.elim

end Semantics

theorem Expr.normal_of_inline {e inlined : Expr} (hinline : e.inline = .ok inlined)
    (hliterals : ∀ value ∈ e.literals, allowed value) : inlined.Normal allowed := by
  have hempty : Env.All (Expr.Normal allowed) .empty := by
    intro name tree hlookup
    cases hlookup
  have hrun : (Semantics.inlining.evaluate e .empty).run.run () = (.ok inlined, ()) :=
    Prod.ext hinline rfl
  exact (Semantics.inlining_ends_normal hliterals hempty).of_ok hrun

namespace Program

open RangeCalc.Grammar

/-- What an expression is inlined to has no names left, and every input in it can be answered.
Inlining it again changes nothing, whatever names may stand for. If the expression is a program,
then so is what it is inlined to, unless it nests too deeply. -/
theorem inlined_is_normal_form {e inlined : Expr} (hinline : e.inline = .ok inlined) :
    inlined.Nameless ∧ (∀ range ∈ inlined.inputs, range.1 ≤ range.2) ∧
      (∀ trees, inlined.inlineIn trees = .ok inlined) ∧
      ∀ source, parse source = .ok e → inlined.nestingAt 0 ≤ maxNesting →
        parse inlined.write = .ok inlined := by
  have hnormal := Expr.normal_of_inline hinline (fun _ _ => trivial)
  refine ⟨hnormal.nameless, fun range => hnormal.wellFormed.le_of_mem_inputs, ?_, ?_⟩
  · intro trees
    rw [Expr.inlineIn, Semantics.evaluate_inlining_of_normal hnormal, Eval.result_pure]
  · intro source hparse hnesting
    -- The literals of a program have no signs, and inlining makes no others.
    have hsource := (fits_of_parse hparse).1
    have hcanonical := Expr.normal_of_inline hinline fun value => hsource.of_mem_literals
    exact parse_write_of_canonical hcanonical.wellFormed hnesting

/-- `let x = ?[0, 5) in let y = -x in let x = y + 2 in x * (x + y)`, as it is read. -/
private def rebinding : Expr :=
  .letIn "x" (.input 0 4) (.letIn "y" (.negate (.var "x"))
    (.letIn "x" (.binary .plus (.var "y") (.literal 2))
      (.binary .times (.var "x") (.binary .plus (.var "x") (.var "y")))))

private def rebindingInlined : Expr :=
  .binary .times (.binary .plus (.negate (.input 0 4)) (.literal 2))
    (.binary .plus (.binary .plus (.negate (.input 0 4)) (.literal 2)) (.negate (.input 0 4)))

theorem inlined_is_normal_form_rebinding :
    parse "let x = ?[0, 5) in let y = -x in let x = y + 2 in x * (x + y)" = .ok rebinding ∧
      rebinding.inline = .ok rebindingInlined ∧ rebindingInlined.inline = .ok rebindingInlined ∧
      parse "(-?[0, 4] + 2) * (-?[0, 4] + 2 + -?[0, 4])" = .ok rebindingInlined := by
  have hparse : parse "let x = ?[0, 5) in let y = -x in let x = y + 2 in x * (x + y)" =
      .ok rebinding := by
    decide +kernel
  have hinline : rebinding.inline = .ok rebindingInlined := by rfl
  have hwritten : rebindingInlined.write = "(-?[0, 4] + 2) * (-?[0, 4] + 2 + -?[0, 4])" := by
    decide +kernel
  obtain ⟨-, -, hfixed, hprogram⟩ := inlined_is_normal_form hinline
  exact ⟨hparse, hinline, hfixed .empty, hwritten ▸ hprogram _ hparse (by decide +kernel)⟩

end Program

end RangeCalc
