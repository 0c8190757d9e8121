import RangeCalc.Proofs.Evaluation.Answers
import RangeCalc.Proofs.Evaluation.Recursion

/-! Evaluation on 64-bit integers is plain recursion on unbounded integers, as long as all that the
latter computes fits. What fits no longer is reported, and it is the first such result that is
named. -/

namespace RangeCalc

variable {σ κ ν μ α β γ δ : Type}

namespace Frame

def map (f : ν → μ) : Frame κ ν → Frame κ μ
  | empty => empty
  | bind below name value => (below.map f).bind name (f value)

theorem lookup_map [DecidableEq κ] (f : ν → μ) (frame : Frame κ ν) (name : κ) :
    (frame.map f).lookup name = (frame.lookup name).map f := by
  induction frame with
  | empty => rfl
  | bind below bound value ih =>
      rw [map, lookup, lookup, ih]
      split <;> rfl

end Frame

namespace Operator

def arithmetic : Operator → Arithmetic
  | plus => .addition
  | times => .multiplication

def exact : Operator → Int → Int → Int
  | plus, left, right => left + right
  | times, left, right => left * right

end Operator

/-- Evaluation on unbounded integers, with the answers of the same provider. -/
def Semantics.exact (provider : Provider σ) : Semantics σ Int where
  literal value := pure value.toInt
  combine op left right := pure (op.exact left right)
  negate operand := pure (-operand)
  input lower upper := do
    let value ← provider lower upper
    if lower ≤ value ∧ value ≤ upper then pure value.toInt
    else throw (.outOfRange value lower upper)

/-- The sum, product or negation that the call of an operation stands for. -/
def Call.computation? : Call Int → Option (Arithmetic × Int)
  | .combine op left right => some (op.arithmetic, op.exact left right)
  | .negate operand => some (.negation, -operand)
  | _ => none

namespace Calls

/-- All that is computed fits in 64 bits. -/
def Fit (calls : Calls Int) : Prop :=
  ∀ call ∈ calls, ∀ operation n, call.1.computation? = some (operation, n) → Integer.Fits n

/-- The first result that does not fit is one of the operation, and no call before it failed. -/
def Overflow (calls : Calls Int) (operation : Arithmetic) : Prop :=
  ∃ earlier call n later, calls = earlier ++ (call, .ok n) :: later ∧
    call.computation? = some (operation, n) ∧ ¬ Integer.Fits n ∧ Fit earlier ∧ AllSucceed earlier

/-- The last call was a request, and the provider itself answered that the operation overflowed. -/
def Refused (provider : Provider σ) (calls : Calls Int) (operation : Arithmetic) (final : σ) :
    Prop :=
  ∃ earlier lower upper reached,
    calls = earlier ++ [(.input lower upper, .error (.overflow operation))] ∧
      (provider lower upper).run.run reached = (.error (.overflow operation), final)

variable {calls later : Calls Int} {operation : Arithmetic}

theorem fit_nil : Fit [] := by
  simp [Fit]

theorem fit_singleton {call : Call Int} (hcall : call.computation? = none)
    (outcome : Except EvalError Int) : Fit [(call, outcome)] := by
  simp [Fit, hcall]

theorem Fit.append (hcalls : calls.Fit) (hlater : later.Fit) : Fit (calls ++ later) :=
  List.forall_mem_append.mpr ⟨hcalls, hlater⟩

theorem Overflow.not_fit (h : calls.Overflow operation) : ¬ calls.Fit := by
  obtain ⟨earlier, call, n, later, rfl, hcomputation, hfits, -, -⟩ := h
  intro hall
  exact hfits (hall (call, .ok n) (by simp) operation n hcomputation)

theorem Overflow.append (h : calls.Overflow operation) (later : Calls Int) :
    Overflow (calls ++ later) operation := by
  obtain ⟨earlier, call, n, between, rfl, hcomputation, hfits, hearlier, hsucceed⟩ := h
  refine ⟨earlier, call, n, between ++ later, ?_, hcomputation, hfits, hearlier, hsucceed⟩
  rw [List.append_assoc, List.cons_append]

theorem Overflow.prepend (h : later.Overflow operation) (hfit : calls.Fit)
    (hsucceed : calls.AllSucceed) : Overflow (calls ++ later) operation := by
  obtain ⟨earlier, call, n, after, rfl, hcomputation, hfits, hearlier, hsucceed'⟩ := h
  refine ⟨calls ++ earlier, call, n, after, ?_, hcomputation, hfits, hfit.append hearlier,
    List.forall_mem_append.mpr ⟨hsucceed, hsucceed'⟩⟩
  rw [List.append_assoc]

theorem Refused.prepend {provider : Provider σ} {final : σ}
    (h : later.Refused provider operation final) (calls : Calls Int) :
    Refused provider (calls ++ later) operation final := by
  obtain ⟨earlier, lower, upper, reached, rfl, hanswer⟩ := h
  refine ⟨calls ++ earlier, lower, upper, reached, ?_, hanswer⟩
  rw [List.append_assoc]

end Calls

/-- Both runs come to the same: all that was computed fits, and an overflow is the provider's own
answer. -/
structure Matches (provider : Provider σ) (R : α → β → Prop) (result : Except EvalError α)
    (final : σ) (found : Except EvalError β) (calls : Calls Int) : Prop where
  related : Result.Related R result found
  fit : calls.Fit
  ends : calls.EndIn found
  refused : ∀ operation, result = .error (.overflow operation) →
    calls.Refused provider operation final

namespace Matches

variable {provider : Provider σ} {R : α → β → Prop} {S : γ → δ → Prop} {calls later : Calls Int}
  {middle final : σ}

theorem of_ok {value : α} {found : β} (hvalue : R value found) (hfit : calls.Fit)
    (hends : calls.EndIn (.ok found : Except EvalError β)) :
    Matches provider R (.ok value) final (.ok found) calls where
  related := .ok hvalue
  fit := hfit
  ends := hends
  refused _ hresult := by cases hresult

theorem of_error {problem : EvalError}
    (h : Matches provider R (.error problem) final (.error problem) calls) :
    Matches provider S (.error problem) final (.error problem) calls where
  related := .error problem
  fit := h.fit
  ends := h.ends.of_error
  refused operation hresult := h.refused operation (by cases hresult; rfl)

theorem append {value : α} {found : β} {result : Except EvalError γ} {found' : Except EvalError δ}
    (h : Matches provider R (.ok value) middle (.ok found) calls)
    (hlater : Matches provider S result final found' later) :
    Matches provider S result final found' (calls ++ later) where
  related := hlater.related
  fit := h.fit.append hlater.fit
  ends := h.ends.allSucceed.append_endIn hlater.ends
  refused operation hresult := (hlater.refused operation hresult).prepend calls

end Matches

namespace Eval

/-- The computation on unbounded integers notes its calls behind those before it, whatever it comes
to. -/
def Appends (y : Eval (Journal σ Int) β) : Prop :=
  ∀ state before, ∃ found last calls, y.run.run ⟨state, before⟩ = (found, ⟨last, before ++ calls⟩)

/-- The first computation comes to what the second one does on unbounded integers, unless a result
does not fit. -/
def Tracks (provider : Provider σ) (R : α → β → Prop) (x : Eval σ α) (y : Eval (Journal σ Int) β) :
    Prop :=
  ∀ state before, ∃ result final found last calls,
    x.run.run state = (result, final) ∧
      y.run.run ⟨state, before⟩ = (found, ⟨last, before ++ calls⟩) ∧
      ((Matches provider R result final found calls ∧ last = final) ∨
        ∃ operation, calls.Overflow operation ∧ result = .error (.overflow operation))

variable {provider : Provider σ} {R : α → β → Prop} {S : γ → δ → Prop} {x : Eval σ α}
  {y : Eval (Journal σ Int) β} {next : α → Eval σ γ} {next' : β → Eval (Journal σ Int) δ}

theorem appends_note (call : Call Int) (operation : Eval σ Int) :
    Appends (Journal.note call operation) :=
  fun _ before => ⟨_, _, [(call, _)], Journal.run_note rfl before⟩

theorem appends_noting_evaluate (s : Semantics σ Int) (e : Expr) (env : Env Int) :
    Appends (s.noting.evaluate e env) := by
  intro state before
  cases hrun : (s.evaluate e env).run.run state with
  | mk result last =>
      obtain ⟨found, calls, hnoted, -, -⟩ :=
        s.corresponds_noting.evaluate e (Env.Related.refl env) hrun before
      exact ⟨found, last, calls, hnoted⟩

theorem Appends.bind (hfirst : y.Appends) (hnext : ∀ found, (next' found).Appends) :
    (y >>= next').Appends := by
  intro state before
  obtain ⟨found, middle, calls, hy⟩ := hfirst state before
  cases found with
  | ok value =>
      obtain ⟨found, last, later, hlast⟩ := hnext value middle (before ++ calls)
      refine ⟨found, last, calls ++ later, ?_⟩
      rw [run_bind_of_ok hy, hlast, List.append_assoc]
  | error problem => exact ⟨.error problem, middle, calls, run_bind_of_error hy⟩

theorem tracks_pure {value : α} {found : β} (h : R value found) :
    Tracks provider R (pure value) (pure found) := by
  intro state before
  have hmatches : Matches provider R (.ok value) state (.ok found) [] :=
    .of_ok h Calls.fit_nil (Calls.endIn_nil _)
  exact ⟨.ok value, state, .ok found, state, [], rfl, by rw [List.append_nil]; rfl,
    .inl ⟨hmatches, rfl⟩⟩

theorem tracks_throw {problem : EvalError} (h : ∀ operation, problem ≠ .overflow operation) :
    Tracks provider R (throw problem) (throw problem) := by
  intro state before
  refine ⟨.error problem, state, .error problem, state, [], rfl, by rw [List.append_nil]; rfl,
    .inl ⟨⟨.error problem, Calls.fit_nil, Calls.endIn_nil _, ?_⟩, rfl⟩⟩
  intro operation hproblem
  exact absurd (Except.error.inj hproblem) (h operation)

/-- Where the first result that does not fit is behind, the second computation still goes on, and
all that is known of it is that it appends to its calls. -/
theorem tracks_bind (hfirst : Tracks provider R x y)
    (hnext : ∀ value found, R value found → Tracks provider S (next value) (next' found))
    (happends : ∀ found, (next' found).Appends) :
    Tracks provider S (x >>= next) (y >>= next') := by
  intro state before
  obtain ⟨result, final, found, last, calls, hx, hy, hcases⟩ := hfirst state before
  rcases hcases with ⟨hmatches, rfl⟩ | ⟨operation, hoverflow, rfl⟩
  · cases hmatches.related with
    | @ok value found hvalue =>
        obtain ⟨result, final, found', last', later, hresult, hfound, hcases⟩ :=
          hnext value found hvalue last (before ++ calls)
        refine ⟨result, final, found', last', calls ++ later,
          (run_bind_of_ok hx).trans hresult, ?_, ?_⟩
        · rw [run_bind_of_ok hy, hfound, List.append_assoc]
        · rcases hcases with ⟨hlater, hfinal⟩ | ⟨operation, hoverflow, hresult⟩
          · exact .inl ⟨hmatches.append hlater, hfinal⟩
          · exact .inr ⟨operation, hoverflow.prepend hmatches.fit hmatches.ends.allSucceed,
              hresult⟩
    | error problem =>
        exact ⟨.error problem, last, .error problem, last, calls, run_bind_of_error hx,
          run_bind_of_error hy, .inl ⟨hmatches.of_error, rfl⟩⟩
  · refine ⟨.error (.overflow operation), final, ?_⟩
    cases found with
    | ok value =>
        obtain ⟨found, last', later, hlast⟩ := happends value last (before ++ calls)
        refine ⟨found, last', calls ++ later, run_bind_of_error hx, ?_,
          .inr ⟨operation, hoverflow.append later, rfl⟩⟩
        rw [run_bind_of_ok hy, hlast, List.append_assoc]
    | error problem =>
        exact ⟨.error problem, last, calls, run_bind_of_error hx, run_bind_of_error hy,
          .inr ⟨operation, hoverflow, rfl⟩⟩

end Eval

namespace Semantics

def Denotes (value : Int64) (n : Int) : Prop :=
  value.toInt = n

variable (provider : Provider σ)

theorem tracks_literal (value : Int64) :
    Eval.Tracks provider Denotes ((concrete provider).literal value)
      ((exact provider).noting.literal value) := by
  intro state before
  exact ⟨.ok value, state, .ok value.toInt, state, _, rfl, Journal.run_note rfl before,
    .inl ⟨.of_ok rfl (Calls.fit_singleton rfl _) (Calls.endIn_singleton _ _), rfl⟩⟩

theorem tracks_checked {call : Call Int} {operation : Arithmetic} {n : Int}
    (hcomputation : call.computation? = some (operation, n)) :
    Eval.Tracks provider Denotes (operation.checked n) (Journal.note call (pure n)) := by
  intro state before
  have hnoted : (Journal.note call (pure n : Eval σ Int)).run.run ⟨state, before⟩ =
      (.ok n, ⟨state, before ++ [(call, .ok n)]⟩) :=
    Journal.run_note rfl before
  rw [Arithmetic.checked]
  cases hfit : Integer.fit? n with
  | some value =>
      have hvalue := Integer.fit?_eq_some_iff.mp hfit
      have hfits : Integer.Fits n := hvalue ▸ Integer.fits_toInt value
      have hfit : Calls.Fit [(call, .ok n)] := by simp [Calls.Fit, hcomputation, hfits]
      exact ⟨.ok value, state, .ok n, state, _, rfl, hnoted,
        .inl ⟨.of_ok hvalue hfit (Calls.endIn_singleton call _), rfl⟩⟩
  | none =>
      have hfits := Integer.fit?_eq_none_iff.mp hfit
      exact ⟨.error (.overflow operation), state, .ok n, state, _, rfl, hnoted,
        .inr ⟨operation, ⟨[], call, n, [], rfl, hcomputation, hfits, Calls.fit_nil,
          by simp [Calls.AllSucceed]⟩, rfl⟩⟩

theorem tracks_combine (op : Operator) {left right : Int64} {m n : Int} (hleft : Denotes left m)
    (hright : Denotes right n) :
    Eval.Tracks provider Denotes ((concrete provider).combine op left right)
      ((exact provider).noting.combine op m n) := by
  subst hleft hright
  cases op with
  | plus => exact tracks_checked provider rfl
  | times => exact tracks_checked provider rfl

theorem tracks_negate {operand : Int64} {n : Int} (hoperand : Denotes operand n) :
    Eval.Tracks provider Denotes ((concrete provider).negate operand)
      ((exact provider).noting.negate n) := by
  subst hoperand
  exact tracks_checked provider rfl

theorem run_input_exact {lower upper : Int64} {answer : Except EvalError Int64} {state final : σ}
    (hrun : (provider lower upper).run.run state = (answer, final)) :
    ((exact provider).input lower upper).run.run state =
      ((Provider.accepted lower upper answer).map Int64.toInt, final) := by
  cases answer with
  | ok value =>
      refine (Eval.run_bind_of_ok hrun).trans ?_
      rw [Provider.accepted]
      split <;> rfl
  | error problem => exact Eval.run_bind_of_error hrun

theorem tracks_request (lower upper : Int64) :
    Eval.Tracks provider Denotes ((concrete provider).request lower upper)
      ((exact provider).noting.request lower upper) := by
  rw [request, request]
  split
  · exact Eval.tracks_throw (by simp)
  · intro state before
    obtain ⟨answer, final, hrun⟩ : ∃ answer final,
        (provider lower upper).run.run state = (answer, final) := ⟨_, _, rfl⟩
    have hinput := Provider.run_checkedInput hrun
    have hexact := run_input_exact provider hrun
    cases haccepted : Provider.accepted lower upper answer with
    | ok value =>
        rw [haccepted] at hinput hexact
        exact ⟨.ok value, final, .ok value.toInt, final, [(.input lower upper, _)], hinput,
          Journal.run_note hexact before,
          .inl ⟨.of_ok rfl (Calls.fit_singleton rfl _) (Calls.endIn_singleton _ _), rfl⟩⟩
    | error problem =>
        rw [haccepted] at hinput hexact
        refine ⟨.error problem, final, .error problem, final, [(.input lower upper, _)], hinput,
          Journal.run_note hexact before,
          .inl ⟨⟨.error problem, Calls.fit_singleton rfl _, Calls.endIn_singleton _ _, ?_⟩, rfl⟩⟩
        rintro operation ⟨⟩
        obtain rfl := Provider.eq_overflow_of_accepted haccepted
        exact ⟨[], lower, upper, state, rfl, hrun⟩

theorem tracks_resolve {env : Env Int64} {env' : Env Int} (henv : Env.Related Denotes env env')
    (name : String) :
    Eval.Tracks provider Denotes (resolve env name) (resolve env' name) := by
  have hlookup := henv name
  rw [resolve, resolve]
  generalize env.lookup name = bound at hlookup ⊢
  generalize env'.lookup name = bound' at hlookup ⊢
  cases hlookup with
  | some hvalue => exact Eval.tracks_pure hvalue
  | none => exact Eval.tracks_throw (by simp)

theorem tracks_evaluate (e : Expr) {env : Env Int64} {env' : Env Int}
    (henv : Env.Related Denotes env env') :
    Eval.Tracks provider Denotes ((concrete provider).evaluate e env)
      ((exact provider).noting.evaluate e env') := by
  induction e generalizing env env' with
  | literal value =>
      rw [evaluate_literal, evaluate_literal]
      exact tracks_literal provider value
  | input lower upper =>
      rw [evaluate_input, evaluate_input]
      exact tracks_request provider lower upper
  | var name =>
      rw [evaluate_var, evaluate_var]
      exact tracks_resolve provider henv name
  | negate operand ih =>
      rw [evaluate_negate, evaluate_negate]
      apply Eval.tracks_bind (ih henv)
      · exact fun value found hvalue => tracks_negate provider hvalue
      · exact fun found => Eval.appends_note _ _
  | binary op left right ihLeft ihRight =>
      rw [evaluate_binary, evaluate_binary]
      apply Eval.tracks_bind (ihLeft henv)
      · intro leftValue leftFound hleft
        apply Eval.tracks_bind (ihRight henv)
        · exact fun value found hright => tracks_combine provider op hleft hright
        · exact fun found => Eval.appends_note _ _
      · intro leftFound
        exact (Eval.appends_noting_evaluate _ right env').bind fun found => Eval.appends_note _ _
  | letIn name bound body ihBound ihBody =>
      rw [evaluate_letIn, evaluate_letIn]
      apply Eval.tracks_bind (ihBound henv)
      · exact fun value found hvalue => ihBody (henv.bind name hvalue)
      · exact fun found => Eval.appends_noting_evaluate _ body _

theorem related_map_toInt (env : Env Int64) :
    Env.Related Denotes env (env.map Int64.toInt) := by
  intro name
  rw [Frame.lookup_map]
  cases env.lookup name with
  | some value => exact .some rfl
  | none => exact .none

/-- An evaluation comes to a value exactly where plain recursion on unbounded integers does and all
that the latter computes fits, and then the values are the same. An overflow names the first
operation whose result does not fit, and nothing failed before it; or it is the answer of the
provider itself. -/
theorem evaluate_exactly (e : Expr) (env : Env Int64) (state : σ) :
    ∃ result final found last calls,
      ((concrete provider).evaluate e env).run.run state = (result, final) ∧
        ((exact provider).noting.recurse e (env.map Int64.toInt)).run.run (.start state) =
          (found, ⟨last, calls⟩) ∧
        ((∃ value, result = .ok value) ↔ (∃ n, found = .ok n) ∧ calls.Fit) ∧
        (∀ value, result = .ok value → found = .ok value.toInt ∧ last = final) ∧
        ∀ operation, result = .error (.overflow operation) →
          calls.Overflow operation ∨ calls.Fit ∧ calls.Refused provider operation final := by
  obtain ⟨result, final, found, last, calls, hrun, hnoted, hcases⟩ :=
    tracks_evaluate provider e (related_map_toInt env) state []
  rw [evaluate_eq_recurse] at hnoted
  refine ⟨result, final, found, last, calls, hrun, hnoted, ?_⟩
  rcases hcases with ⟨⟨hrelated, hfit, -, hrefused⟩, rfl⟩ | ⟨operation, hoverflow, rfl⟩
  · cases hrelated with
    | @ok value n hvalue =>
        refine ⟨by simp [hfit], ?_, by rintro _ ⟨⟩⟩
        rintro _ ⟨⟩
        exact ⟨congrArg Except.ok hvalue.symm, rfl⟩
    | error problem =>
        refine ⟨by simp, by rintro _ ⟨⟩, ?_⟩
        intro operation hresult
        exact .inr ⟨hfit, hrefused operation hresult⟩
  · refine ⟨by simp [hoverflow.not_fit], by rintro _ ⟨⟩, ?_⟩
    rintro _ ⟨⟩
    exact .inl hoverflow

end Semantics

end RangeCalc
