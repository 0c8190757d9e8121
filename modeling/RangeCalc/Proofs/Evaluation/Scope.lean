import RangeCalc.Evaluation.Meanings
import RangeCalc.Proofs.Evaluation.Calls
import RangeCalc.Proofs.Evaluation.Faults

/-! What names do. An evaluation depends on the bindings of the free variables alone, and under
which name a `let` binds its value is immaterial. -/

namespace RangeCalc

variable {σ ν : Type}

namespace Expr

/-- The names in an expression, those of variables and those that a `let` binds. -/
def names : Expr → List String
  | .literal _ => []
  | .input _ _ => []
  | .var name => [name]
  | .negate operand => operand.names
  | .binary _ left right => left.names ++ right.names
  | .letIn name bound body => name :: (bound.names ++ body.names)

def replaceName (old new name : String) : String :=
  if name = old then new else name

/-- Another name in place of a free variable. A `let` that binds the variable hides it from the
change. -/
def rename (old new : String) : Expr → Expr
  | .literal value => .literal value
  | .input lower upper => .input lower upper
  | .var name => .var (replaceName old new name)
  | .negate operand => .negate (operand.rename old new)
  | .binary op left right => .binary op (left.rename old new) (right.rename old new)
  | .letIn name bound body =>
      .letIn name (bound.rename old new) (if name = old then body else body.rename old new)

/-- The expressions differ in the name that one `let` in them binds, and in its body by that name.
The new name does not occur in the body. -/
inductive Rebinds : Expr → Expr → Prop where
  | here {old new : String} (bound : Expr) {body : Expr} (hfresh : new ∉ body.names) :
      Rebinds (.letIn old bound body) (.letIn new bound (body.rename old new))
  | operand {operand operand' : Expr} (hpart : Rebinds operand operand') :
      Rebinds (.negate operand) (.negate operand')
  | left (op : Operator) {left left' : Expr} (hpart : Rebinds left left') (right : Expr) :
      Rebinds (.binary op left right) (.binary op left' right)
  | right (op : Operator) (left : Expr) {right right' : Expr} (hpart : Rebinds right right') :
      Rebinds (.binary op left right) (.binary op left right')
  | bound (name : String) {bound bound' : Expr} (hpart : Rebinds bound bound') (body : Expr) :
      Rebinds (.letIn name bound body) (.letIn name bound' body)
  | body (name : String) (bound : Expr) {body body' : Expr} (hpart : Rebinds body body') :
      Rebinds (.letIn name bound body) (.letIn name bound body')

@[simp] theorem replaceName_self (old new : String) : replaceName old new old = new :=
  if_pos rfl

theorem replaceName_of_ne {old name : String} (new : String) (hname : name ≠ old) :
    replaceName old new name = name :=
  if_neg hname

theorem replaceName_ne {old new name other : String} (hnew : new ≠ other) (hname : name ≠ other) :
    replaceName old new name ≠ other := by
  unfold replaceName
  split
  · exact hnew
  · exact hname

theorem mem_names_of_mem_free {name : String} {e : Expr} (hname : name ∈ e.free) :
    name ∈ e.names := by
  induction e with
  | literal value => exact hname
  | input lower upper => exact hname
  | var other => exact hname
  | negate operand ih => exact ih hname
  | binary op left right ihLeft ihRight =>
      rcases List.mem_append.mp hname with hleft | hright
      · exact List.mem_append_left _ (ihLeft hleft)
      · exact List.mem_append_right _ (ihRight hright)
  | letIn other bound body ihBound ihBody =>
      apply List.mem_cons_of_mem
      rcases List.mem_append.mp hname with hbound | hbody
      · exact List.mem_append_left _ (ihBound hbound)
      · exact List.mem_append_right _ (ihBody (List.mem_filter.mp hbody).1)

end Expr

/-- The one environment has under the changed names what the other has under the names. A name
without a binding is not changed, for the error tells it. -/
def Env.Along (change : String → String) (names : List String) (env env' : Env ν) : Prop :=
  ∀ name ∈ names, env'.lookup (change name) = env.lookup name ∧
    (env.lookup name = none → change name = name)

namespace Env.Along

variable {change : String → String} {names later : List String} {env env' : Env ν}

theorem append_iff :
    Along change (names ++ later) env env' ↔
      Along change names env env' ∧ Along change later env env' :=
  List.forall_mem_append

/-- A binding is seen under the changed name where no other name is changed to that one. -/
theorem bind {old new : String} (hnew : change old = new)
    (hothers : ∀ name ∈ names, name ≠ old → change name ≠ new)
    (h : Along change (names.filter (old ≠ ·)) env env') (value : ν) :
    Along change names (env.bind old value) (env'.bind new value) := by
  intro name hname
  by_cases hsame : old = name
  · subst hsame
    rw [hnew, Frame.lookup_bind_self, Frame.lookup_bind_self]
    exact ⟨rfl, fun hnone => absurd hnone (Option.some_ne_none value)⟩
  · have hchanged := hothers name hname (Ne.symm hsame)
    rw [Frame.lookup_bind_of_ne _ _ hsame, Frame.lookup_bind_of_ne _ _ hchanged.symm]
    exact h name (List.mem_filter.mpr ⟨hname, decide_eq_true hsame⟩)

end Env.Along

namespace Semantics

variable (s : Semantics σ ν)

theorem evaluate_var_of_along {change : String → String} {env env' : Env ν} {name : String}
    (h : Env.Along change (Expr.var name).free env env') :
    s.evaluate (.var (change name)) env' = s.evaluate (.var name) env := by
  obtain ⟨hlookup, hunbound⟩ := h name List.mem_cons_self
  rw [evaluate_var, evaluate_var, resolve, resolve, hlookup]
  cases hvalue : env.lookup name with
  | some value => rfl
  | none => simp only [hunbound hvalue]

/-- Environments that agree on the free variables are alike to an evaluation. -/
theorem evaluate_congr (e : Expr) {env env' : Env ν} (h : Env.Along id e.free env env') :
    s.evaluate e env' = s.evaluate e env := by
  induction e generalizing env env' with
  | literal value => rw [evaluate_literal, evaluate_literal]
  | input lower upper => rw [evaluate_input, evaluate_input]
  | var name => exact s.evaluate_var_of_along h
  | negate operand ih => rw [evaluate_negate, evaluate_negate, ih h]
  | binary op left right ihLeft ihRight =>
      obtain ⟨hleft, hright⟩ := Env.Along.append_iff.mp h
      rw [evaluate_binary, evaluate_binary, ihLeft hleft, ihRight hright]
  | letIn name bound body ihBound ihBody =>
      obtain ⟨hbound, hbody⟩ := Env.Along.append_iff.mp h
      rw [evaluate_letIn, evaluate_letIn, ihBound hbound]
      apply bind_congr
      intro value
      exact ihBody (hbody.bind rfl (fun _ _ hother => hother) value)

/-- An expression has its value also where a variable has another name, in the expression as in the
environment. -/
theorem evaluate_rename {old new : String} {e : Expr} (hfresh : new ∉ e.names) {env env' : Env ν}
    (h : Env.Along (Expr.replaceName old new) e.free env env') :
    s.evaluate (e.rename old new) env' = s.evaluate e env := by
  induction e generalizing env env' with
  | literal value => rw [Expr.rename, evaluate_literal, evaluate_literal]
  | input lower upper => rw [Expr.rename, evaluate_input, evaluate_input]
  | var name => exact s.evaluate_var_of_along h
  | negate operand ih => rw [Expr.rename, evaluate_negate, evaluate_negate, ih hfresh h]
  | binary op left right ihLeft ihRight =>
      rw [Expr.names, List.mem_append, not_or] at hfresh
      obtain ⟨hleft, hright⟩ := Env.Along.append_iff.mp h
      rw [Expr.rename, evaluate_binary, evaluate_binary, ihLeft hfresh.1 hleft,
        ihRight hfresh.2 hright]
  | letIn name bound body ihBound ihBody =>
      rw [Expr.names, List.mem_cons, List.mem_append, not_or, not_or] at hfresh
      obtain ⟨hname, hfreshBound, hfreshBody⟩ := hfresh
      obtain ⟨hbound, hbody⟩ := Env.Along.append_iff.mp h
      rw [Expr.rename, evaluate_letIn, evaluate_letIn, ihBound hfreshBound hbound]
      apply bind_congr
      intro value
      split
      · next hhidden =>
        -- The body sees the inner binding alone, and all other names are as they were.
        subst hhidden
        apply s.evaluate_congr
        refine Env.Along.bind rfl (fun _ _ hother => hother) ?_ value
        intro other hother
        have hne : other ≠ name := (of_decide_eq_true (List.mem_filter.mp hother).2).symm
        obtain ⟨hlookup, -⟩ := hbody other hother
        rw [Expr.replaceName_of_ne new hne] at hlookup
        exact ⟨hlookup, fun _ => rfl⟩
      · next hseen =>
        apply ihBody hfreshBody
        refine hbody.bind (Expr.replaceName_of_ne new hseen) ?_ value
        intro other _ hother
        exact Expr.replaceName_ne hname hother

theorem evaluate_rebinds {e e' : Expr} (h : e.Rebinds e') (env : Env ν) :
    s.evaluate e env = s.evaluate e' env := by
  induction h generalizing env with
  | @here old new bound body hfresh =>
      rw [evaluate_letIn, evaluate_letIn]
      apply bind_congr
      intro value
      -- A binding of the new name further out is hidden, and the body does not ask for it.
      have hothers : ∀ name ∈ body.free, name ≠ old → Expr.replaceName old new name ≠ new := by
        intro name hname hother
        rw [Expr.replaceName_of_ne new hother]
        exact fun hsame => hfresh (hsame ▸ Expr.mem_names_of_mem_free hname)
      refine (s.evaluate_rename hfresh (Env.Along.bind (Expr.replaceName_self old new) hothers ?_
        value)).symm
      intro name hname
      have hne : name ≠ old := (of_decide_eq_true (List.mem_filter.mp hname).2).symm
      exact ⟨congrArg env.lookup (Expr.replaceName_of_ne new hne),
        fun _ => Expr.replaceName_of_ne new hne⟩
  | operand _ ih => rw [evaluate_negate, evaluate_negate, ih]
  | left op _ right ih => rw [evaluate_binary, evaluate_binary, ih]
  | right op left _ ih => rw [evaluate_binary, evaluate_binary, ih]
  | bound name _ body ih => rw [evaluate_letIn, evaluate_letIn, ih]
  | body name bound _ ih =>
      rw [evaluate_letIn, evaluate_letIn]
      exact bind_congr fun value => ih (env.bind name value)

/-- The name that a `let` binds is immaterial: under another one that is new to its body, evaluation
has the same result, final state and calls, and inlining leads to the same expression. -/
theorem bound_name_is_immaterial {e e' : Expr} (h : e.Rebinds e') :
    (∀ {σ ν : Type} (s : Semantics σ ν) (env : Env ν),
        s.evaluate e env = s.evaluate e' env ∧
          s.noting.evaluate e env = s.noting.evaluate e' env) ∧
      ∀ trees, e.inlineIn trees = e'.inlineIn trees := by
  constructor
  · intro σ ν s env
    exact ⟨s.evaluate_rebinds h env, s.noting.evaluate_rebinds h env⟩
  · intro trees
    rw [Expr.inlineIn, Expr.inlineIn, inlining.evaluate_rebinds h]

/-- `let y = 5 in y * (let x = y + 1 in ?[0, 9] + (x + (let x = x * 2 in x)))`. -/
private def twoNames : Expr :=
  .letIn "y" (.literal 5)
    (.binary .times (.var "y")
      (.letIn "x" (.binary .plus (.var "y") (.literal 1))
        (.binary .plus (.input 0 9)
          (.binary .plus (.var "x")
            (.letIn "x" (.binary .times (.var "x") (.literal 2)) (.var "x"))))))

/-- The same with `y` for the outer `x`, which hides the first `y` in its body. -/
private def hiddenName : Expr :=
  .letIn "y" (.literal 5)
    (.binary .times (.var "y")
      (.letIn "y" (.binary .plus (.var "y") (.literal 1))
        (.binary .plus (.input 0 9)
          (.binary .plus (.var "y")
            (.letIn "x" (.binary .times (.var "y") (.literal 2)) (.var "x"))))))

theorem bound_name_is_immaterial_hidden :
    twoNames.Rebinds hiddenName ∧
      ((concrete Provider.counting).evaluate hiddenName .empty).run.run 3 = (.ok 105, 4) ∧
      twoNames.inline = hiddenName.inline := by
  have hrebinds : twoNames.Rebinds hiddenName :=
    .body "y" _ (.right .times _ (.here _ (by decide)))
  have hrun : ((concrete Provider.counting).evaluate twoNames .empty).run.run 3 =
      (.ok 105, 4) := by
    rfl
  obtain ⟨hsame, hinline⟩ := bound_name_is_immaterial hrebinds
  rw [(hsame (concrete Provider.counting) .empty).1] at hrun
  exact ⟨hrebinds, hrun, hinline .empty⟩

end Semantics

end RangeCalc
