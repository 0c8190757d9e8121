import RangeCalc.Parser.Basic

/-! Alternatives. Each starts from the same cursor, so what one consumed before it failed is
forgotten. Where all fail, `choice` speaks for those that got furthest. -/

namespace RangeCalc

/-- A failed attempt: what it said, and where. -/
structure Failure (σ : Type) where
  message : String
  rest : Cursor σ

namespace Failure

variable {σ : Type}

def furthest (failures : List (Failure σ)) : Nat :=
  (failures.map (·.rest.position)).foldl max 0

def distinct : List String → List String
  | [] => []
  | message :: later => message :: (distinct later).filter (· ≠ message)

/-- The report on several failed attempts that began at `start`. -/
def merge (start : Cursor σ) (failures : List (Failure σ)) : Failure σ :=
  let reached := furthest failures
  match failures.filter (·.rest.position = reached) with
  | [] => ⟨"no alternatives to choose from", start⟩
  | first :: others =>
      ⟨String.intercalate " or " (distinct ((first :: others).map (·.message))), first.rest⟩

end Failure

namespace Parser

variable {σ α : Type}

def orElse (p q : Parser σ α) : Parser σ α where
  run cursor :=
    match p.run cursor with
    | .done value rest => .done value rest
    | .failed _ _ => q.run cursor
    | .diverges => .diverges

/-- `none` where `p` fails, and then nothing is consumed. -/
def optional (p : Parser σ α) : Parser σ (Option α) :=
  (p.map some).orElse (succeed none)

/-- The first success among `alternatives`, or else the failures in order behind `failures`,
which holds those of the alternatives before them, the latest first. -/
def choiceFrom (cursor : Cursor σ) (failures : List (Failure σ)) :
    List (Parser σ α) → Outcome σ α
  | [] =>
      let failure := Failure.merge cursor failures.reverse
      .failed failure.message failure.rest
  | p :: alternatives =>
      match p.run cursor with
      | .done value rest => .done value rest
      | .failed message rest => choiceFrom cursor (⟨message, rest⟩ :: failures) alternatives
      | .diverges => .diverges

def choice (alternatives : List (Parser σ α)) : Parser σ α where
  run cursor := choiceFrom cursor [] alternatives

end Parser

end RangeCalc
