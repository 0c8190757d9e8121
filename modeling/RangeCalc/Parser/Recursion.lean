import RangeCalc.Parser.Basic

/-! Parsers that run others again and again: repetition, which ends with an attempt that fails and
is taken back, and rules that refer to each other. -/

namespace RangeCalc.Parser

variable {σ α ρ : Type}

section Repetition

/-- The run from `cursor` ends, without success. -/
def FailsAt (p : Parser σ α) (cursor : Cursor σ) : Prop :=
  ∃ message rest, p.run cursor = .failed message rest

/-- Successes of `p` one after another, up to a place where `p` fails. -/
inductive Repeats (p : Parser σ α) : Cursor σ → List α → Cursor σ → Prop where
  | stop {cursor : Cursor σ} (hfails : p.FailsAt cursor) : Repeats p cursor [] cursor
  | step {cursor rest finish : Cursor σ} {value : α} {values : List α}
      (hrun : p.run cursor = .done value rest) (hlater : Repeats p rest values finish) :
      Repeats p cursor (value :: values) finish

/-- A repetition of `p` that has come to its end. -/
structure Repetition (p : Parser σ α) (start : Cursor σ) where
  values : List α
  finish : Cursor σ
  repeats : Repeats p start values finish

/-- A repetition of `p` on its way: what it has found, the latest first, and the place it is at.
With whatever is found from there it will be one from the start. -/
structure Repeating (p : Parser σ α) (start : Cursor σ) where
  found : List α
  place : Cursor σ
  repeats : ∀ later finish, Repeats p place later finish →
    Repeats p start (found.reverse ++ later) finish

namespace Repeating

variable {p : Parser σ α} {start : Cursor σ}

def begin (p : Parser σ α) (start : Cursor σ) : Repeating p start where
  found := []
  place := start
  repeats _ _ hlater := hlater

/-- One attempt more: the repetition goes on, or it has ended, or nothing ever comes of it. -/
def attempt (r : Repeating p start) : Repeating p start ⊕ Option (Repetition p start) :=
  match hrun : p.run r.place with
  | .failed message rest =>
      .inr (some ⟨r.found.reverse, r.place, by
        simpa using r.repeats [] r.place (.stop ⟨message, rest, hrun⟩)⟩)
  | .diverges => .inr none
  | .done value rest =>
      .inl ⟨value :: r.found, rest, fun later finish hlater => by
        simpa using r.repeats (value :: later) finish (.step hrun hlater)⟩

/-- One attempt after another until the repetition has ended. It is not said what a loop without end
stands for; the proof that comes with every result leaves it nothing but `none`. -/
def run (r : Repeating p start) : Option (Repetition p start) :=
  (repeatM (fun r => pure (attempt r)) r : Id _).run

end Repeating

/-- Repeats `p` from `start` for as long as it succeeds, behind the values found so far, the latest
first. -/
def repeatOn (p : Parser σ α) (start : Cursor σ) (found : List α) : Outcome σ (List α) :=
  match (Repeating.begin p start).run with
  | some r => .done (found.reverse ++ r.values) r.finish
  | none => .diverges

/-- Repeats `p` likewise, where every element of `budget` pays for one success. As many as there are
elements ahead are enough if each success consumes something; what is beyond them is not paid. -/
def repeatFrom (p : Parser σ α) : List σ → Cursor σ → List α → Outcome σ (List α)
  | budget, cursor, found =>
      match p.run cursor with
      | .failed _ _ => .done found.reverse cursor
      | .diverges => .diverges
      | .done value rest =>
          match budget with
          | [] => repeatOn p rest (value :: found)
          | _ :: budget => repeatFrom p budget rest (value :: found)

def many (p : Parser σ α) : Parser σ (List α) where
  run cursor := repeatFrom p cursor.remaining cursor []

def many1 (p : Parser σ α) : Parser σ (List α) :=
  (p.pair p.many).map fun (first, others) => first :: others

end Repetition

section Rules

def defer (build : Unit → Parser σ α) : Parser σ α where
  run cursor := (build ()).run cursor

@[simp] theorem run_defer (build : Unit → Parser σ α) (cursor : Cursor σ) :
    (defer build).run cursor = (build ()).run cursor := rfl

/-- The rules of `define` where calls nested deeper than `depth` diverge. -/
def unroll (define : (ρ → Parser σ α) → ρ → Parser σ α) : Nat → ρ → Parser σ α
  | 0, _ => diverge
  | depth + 1, rule => define (fun called => defer fun _ => unroll define depth called) rule

/-- `count` rules defined in terms of each other. Of the calls that are open at one time, two of
the same rule at the same place mean that the rule calls itself without end; so a run that ends
nests no deeper than there are pairs of a rule and a place. -/
def rules (count : Nat) (define : (ρ → Parser σ α) → ρ → Parser σ α) (rule : ρ) :
    Parser σ α where
  run cursor := (unroll define (count * (cursor.remaining.length + 1)) rule).run cursor

end Rules

end RangeCalc.Parser
