import RangeCalc.Cursor

/-! Parsers as functions on cursors, and the ways to run one after another. A parser that never
comes to an answer is a parser too: its outcome is `diverges`, and whatever waits for it diverges
with it. -/

namespace RangeCalc

/-- What running a parser leads to. A failure tells the place the parser had reached. -/
inductive Outcome (σ α : Type) where
  | done (value : α) (rest : Cursor σ)
  | failed (message : String) (rest : Cursor σ)
  | diverges

namespace Outcome

variable {σ α β : Type}

def map (f : α → β) : Outcome σ α → Outcome σ β
  | done value rest => done (f value) rest
  | failed message rest => failed message rest
  | diverges => diverges

@[simp] theorem map_done (f : α → β) (value : α) (rest : Cursor σ) :
    (done value rest).map f = done (f value) rest := rfl

@[simp] theorem map_failed (f : α → β) (message : String) (rest : Cursor σ) :
    (failed message rest).map f = failed message rest := rfl

@[simp] theorem map_diverges (f : α → β) : (diverges : Outcome σ α).map f = diverges := rfl

end Outcome

structure Parser (σ α : Type) where
  run : Cursor σ → Outcome σ α

namespace Parser

variable {σ α β : Type}

def succeed (value : α) : Parser σ α where
  run cursor := .done value cursor

def fail (message : String) : Parser σ α where
  run cursor := .failed message cursor

def diverge : Parser σ α where
  run _ := .diverges

def position : Parser σ Nat where
  run cursor := .done cursor.position cursor

def map (f : α → β) (p : Parser σ α) : Parser σ β where
  run cursor := (p.run cursor).map f

def mapMessage (f : String → String) (p : Parser σ α) : Parser σ α where
  run cursor :=
    match p.run cursor with
    | .failed message rest => .failed (f message) rest
    | outcome => outcome

/-- Replaces the message of a failure that did not get past the starting position. Failures deeper
in the input keep their own. -/
def label (text : Cursor σ → String) (p : Parser σ α) : Parser σ α where
  run cursor :=
    match p.run cursor with
    | .failed message rest =>
        if rest.position = cursor.position then .failed (text cursor) rest
        else .failed message rest
    | outcome => outcome

/-- Turns the success with a value that is not accepted into a failure where the value ended. -/
def filter (accepts : α → Bool) (message : α → String) (p : Parser σ α) : Parser σ α where
  run cursor :=
    match p.run cursor with
    | .done value rest =>
        if accepts value then .done value rest else .failed (message value) rest
    | outcome => outcome

def bind (p : Parser σ α) (next : α → Parser σ β) : Parser σ β where
  run cursor :=
    match p.run cursor with
    | .done value rest => (next value).run rest
    | .failed message rest => .failed message rest
    | .diverges => .diverges

def pair (p : Parser σ α) (q : Parser σ β) : Parser σ (α × β) where
  run cursor :=
    match p.run cursor with
    | .done value rest => (q.run rest).map fun other => (value, other)
    | .failed message rest => .failed message rest
    | .diverges => .diverges

def keepRight (p : Parser σ α) (q : Parser σ β) : Parser σ β :=
  (p.pair q).map Prod.snd

def keepLeft (p : Parser σ α) (q : Parser σ β) : Parser σ α :=
  (p.pair q).map Prod.fst

/-- Reports a failure from the starting position instead of the place that was reached. -/
def rewind (p : Parser σ α) : Parser σ α where
  run cursor :=
    match p.run cursor with
    | .failed message _ => .failed message cursor
    | outcome => outcome

@[simp] theorem run_succeed (value : α) (cursor : Cursor σ) :
    (succeed value).run cursor = .done value cursor := rfl

@[simp] theorem run_fail (message : String) (cursor : Cursor σ) :
    (fail message : Parser σ α).run cursor = .failed message cursor := rfl

@[simp] theorem run_diverge (cursor : Cursor σ) :
    (diverge : Parser σ α).run cursor = .diverges := rfl

@[simp] theorem run_position (cursor : Cursor σ) :
    position.run cursor = .done cursor.position cursor := rfl

@[simp] theorem run_map (f : α → β) (p : Parser σ α) (cursor : Cursor σ) :
    (p.map f).run cursor = (p.run cursor).map f := rfl

end Parser

end RangeCalc
