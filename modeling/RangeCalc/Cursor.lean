import RangeCalc.Text.Quoted

/-! A place in a sequence of elements. Moving on gives a new cursor and leaves the old one usable,
so going back is keeping an earlier cursor. A stream has the whole sequence at hand, a cursor what
is ahead in it, which is all that is ever read. -/

namespace RangeCalc

structure Cursor (σ : Type) where
  position : Nat
  remaining : List σ
deriving DecidableEq

namespace Cursor

variable {σ : Type}

def ofList (items : List σ) : Cursor σ :=
  ⟨0, items⟩

def ofString (text : String) : Cursor Char :=
  ofList text.toList

def isEmpty (cursor : Cursor σ) : Bool :=
  cursor.remaining.isEmpty

def peek (cursor : Cursor σ) : Option σ :=
  cursor.remaining.head?

def next (cursor : Cursor σ) : Option (σ × Cursor σ) :=
  match cursor.remaining with
  | [] => none
  | item :: rest => some (item, ⟨cursor.position + 1, rest⟩)

def advance (cursor : Cursor σ) (count : Nat) : Cursor σ :=
  ⟨cursor.position + count, cursor.remaining.drop count⟩

@[simp] theorem position_ofList (items : List σ) : (ofList items).position = 0 := rfl

@[simp] theorem remaining_ofList (items : List σ) : (ofList items).remaining = items := rfl

@[simp] theorem next_nil (position : Nat) : (Cursor.mk position ([] : List σ)).next = none := rfl

@[simp] theorem next_cons (position : Nat) (item : σ) (rest : List σ) :
    (Cursor.mk position (item :: rest)).next = some (item, ⟨position + 1, rest⟩) := rfl

@[simp] theorem position_advance (cursor : Cursor σ) (count : Nat) :
    (cursor.advance count).position = cursor.position + count := rfl

@[simp] theorem remaining_advance (cursor : Cursor σ) (count : Nat) :
    (cursor.advance count).remaining = cursor.remaining.drop count := rfl

@[simp] theorem advance_zero (cursor : Cursor σ) : cursor.advance 0 = cursor := rfl

@[simp] theorem advance_advance (cursor : Cursor σ) (first second : Nat) :
    (cursor.advance first).advance second = cursor.advance (first + second) := by
  simp [advance, Nat.add_assoc]

theorem next_eq_some_advance {cursor rest : Cursor σ} {item : σ}
    (h : cursor.next = some (item, rest)) : rest = cursor.advance 1 := by
  obtain ⟨position, remaining⟩ := cursor
  cases remaining with
  | nil => contradiction
  | cons _ _ => cases h; rfl

def describe [Quoted σ] (cursor : Cursor σ) : String :=
  "Stream \x7b pos: " ++ toString cursor.position ++ ", remaining: " ++
    quoteList cursor.remaining ++ " \x7d"

end Cursor

/-- A sequence of elements, and how many of them have been passed. -/
structure Stream (σ : Type) where
  items : List σ
  position : Nat
  within : position ≤ items.length

namespace Stream

variable {σ : Type} {first second : Stream σ}

def ofList (items : List σ) : Stream σ :=
  ⟨items, 0, Nat.zero_le _⟩

/-- The place between the elements passed and those ahead. -/
def between (passed ahead : List σ) : Stream σ :=
  ⟨passed ++ ahead, passed.length, by simp⟩

def isEmpty (stream : Stream σ) : Bool :=
  stream.items.length ≤ stream.position

def remaining (stream : Stream σ) : List σ :=
  stream.items.drop stream.position

def peek (stream : Stream σ) : Option σ :=
  stream.items[stream.position]?

def next (stream : Stream σ) : Option (σ × Stream σ) :=
  if hmore : stream.position < stream.items.length then
    some (stream.items[stream.position], ⟨stream.items, stream.position + 1, hmore⟩)
  else none

def cursor (stream : Stream σ) : Cursor σ :=
  ⟨stream.position, stream.remaining⟩

@[simp] theorem position_cursor (stream : Stream σ) :
    stream.cursor.position = stream.position := rfl

@[simp] theorem remaining_cursor (stream : Stream σ) :
    stream.cursor.remaining = stream.remaining := rfl

@[simp] theorem cursor_ofList (items : List σ) : (ofList items).cursor = .ofList items := rfl

@[simp] theorem cursor_between (passed ahead : List σ) :
    (between passed ahead).cursor = ⟨passed.length, ahead⟩ := by
  rw [cursor, remaining, between, List.drop_left]

@[simp] theorem isEmpty_cursor (stream : Stream σ) : stream.cursor.isEmpty = stream.isEmpty := by
  rw [Bool.eq_iff_iff, Cursor.isEmpty, isEmpty, List.isEmpty_iff, decide_eq_true_eq]
  exact List.drop_eq_nil_iff

@[simp] theorem peek_cursor (stream : Stream σ) : stream.cursor.peek = stream.peek :=
  List.head?_drop

@[simp] theorem next_cursor (stream : Stream σ) :
    stream.cursor.next = stream.next.map (Prod.map id cursor) := by
  rw [next, Cursor.next, remaining_cursor, remaining]
  by_cases hmore : stream.position < stream.items.length
  · rw [dif_pos hmore, List.drop_eq_getElem_cons hmore]
    rfl
  · rw [dif_neg hmore, List.drop_eq_nil_of_le (Nat.le_of_not_lt hmore)]
    rfl

theorem items_of_next {stream rest : Stream σ} {item : σ} (h : stream.next = some (item, rest)) :
    rest.items = stream.items ∧ rest.position = stream.position + 1 := by
  rw [next] at h
  split at h
  · cases h
    exact ⟨rfl, rfl⟩
  · cases h

/-- Nothing is read but what is ahead. -/
theorem reads_ahead (hahead : first.remaining = second.remaining) :
    first.isEmpty = second.isEmpty ∧ first.peek = second.peek ∧
      first.next.map (Prod.map id remaining) = second.next.map (Prod.map id remaining) := by
  have hnext : ∀ stream : Stream σ, stream.next.map (Prod.map id remaining) =
      stream.cursor.next.map (Prod.map id Cursor.remaining) := by
    intro stream
    rw [next_cursor, Option.map_map]
    rfl
  rw [← isEmpty_cursor, ← isEmpty_cursor, ← peek_cursor, ← peek_cursor, hnext, hnext]
  simp only [Cursor.isEmpty, Cursor.peek, Cursor.next, remaining_cursor, hahead, true_and]
  cases second.remaining with
  | nil => rfl
  | cons item rest => rfl

end Stream

end RangeCalc
