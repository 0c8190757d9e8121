import RangeCalc.Parser.Basic

/-! Parsers that look at the next elements of the input. -/

namespace RangeCalc.Parser

variable {σ : Type}

def endOfInputMessage : String := "unexpected end of input"

def satisfy (accepts : σ → Bool) (message : σ → String) : Parser σ σ where
  run cursor :=
    match cursor.next with
    | none => .failed endOfInputMessage cursor
    | some (item, rest) =>
        if accepts item then .done item rest else .failed (message item) cursor

def any : Parser σ σ :=
  satisfy (fun _ => true) (fun _ => "")

def exactly [DecidableEq σ] [Quoted σ] (expected : σ) : Parser σ σ :=
  satisfy (fun item => item = expected)
    (fun item => "expected " ++ quote expected ++ ", got " ++ quote item)

/-- The next `count` elements. Too short an input fails where it started. -/
def take (count : Nat) : Parser σ (List σ) where
  run cursor :=
    if (cursor.remaining.take count).length < count then
      .failed (endOfInputMessage ++ ", wanted " ++ toString count ++ " element(s) but " ++
        toString cursor.remaining.length ++ " remain") cursor
    else
      .done (cursor.remaining.take count) (cursor.advance count)

def exactlyList [DecidableEq σ] [Quoted σ] (expected : List σ) : Parser σ (List σ) :=
  ((take expected.length).mapMessage fun _ =>
      "expected " ++ quoteList expected ++ ", but input ended prematurely").filter
    (fun items => items = expected)
    (fun items => "expected " ++ quoteList expected ++ ", got " ++ quoteList items)

def endOfInput : Parser σ Unit where
  run cursor :=
    if cursor.isEmpty then .done () cursor
    else
      .failed ("expected end of input, " ++ toString cursor.remaining.length ++
        " more element(s) remain") cursor

@[simp] theorem run_satisfy_nil (accepts : σ → Bool) (message : σ → String) (position : Nat) :
    (satisfy accepts message).run ⟨position, []⟩ = .failed endOfInputMessage ⟨position, []⟩ := rfl

theorem run_satisfy_cons (accepts : σ → Bool) (message : σ → String) (position : Nat)
    (item : σ) (rest : List σ) :
    (satisfy accepts message).run ⟨position, item :: rest⟩ =
      if accepts item then .done item ⟨position + 1, rest⟩
      else .failed (message item) ⟨position, item :: rest⟩ := rfl

@[simp] theorem run_endOfInput_nil (position : Nat) :
    (endOfInput : Parser σ Unit).run ⟨position, []⟩ = .done () ⟨position, []⟩ := rfl

end RangeCalc.Parser
