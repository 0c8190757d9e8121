import RangeCalc.Proofs.Parser.Runs

/-! Runs at places that correspond to each other. A parser follows a move of places if, run where a
place was carried, it does what it does at the place itself. -/

namespace RangeCalc

/-- Carries a place behind more elements, and sees others in place of those ahead of it. -/
structure Move (σ : Type) where
  distance : Nat
  relabel : σ → σ

namespace Move

variable {σ α : Type}

def cursor (move : Move σ) (start : Cursor σ) : Cursor σ :=
  ⟨start.position + move.distance, start.remaining.map move.relabel⟩

@[simp] theorem position_cursor (move : Move σ) (start : Cursor σ) :
    (move.cursor start).position = start.position + move.distance := rfl

@[simp] theorem remaining_cursor (move : Move σ) (start : Cursor σ) :
    (move.cursor start).remaining = start.remaining.map move.relabel := rfl

def failure (move : Move σ) (failed : Failure σ) : Failure σ :=
  ⟨failed.message, move.cursor failed.rest⟩

def outcome (move : Move σ) (image : α → α) : Outcome σ α → Outcome σ α
  | .done value rest => .done (image value) (move.cursor rest)
  | .failed message rest => .failed message (move.cursor rest)
  | .diverges => .diverges

section Outcome

variable {move : Move σ} {image : α → α}

@[simp] theorem outcome_done (value : α) (rest : Cursor σ) :
    move.outcome image (.done value rest) = .done (image value) (move.cursor rest) := rfl

@[simp] theorem outcome_failed (message : String) (rest : Cursor σ) :
    move.outcome image (.failed message rest) = .failed message (move.cursor rest) := rfl

@[simp] theorem outcome_diverges : move.outcome image .diverges = .diverges := rfl

@[simp] theorem outcome_eq_diverges_iff {result : Outcome σ α} :
    move.outcome image result = .diverges ↔ result = .diverges := by
  cases result <;> simp

/-- Outcomes that are carried to one differ in their places only. -/
theorem cases_of_outcome_eq {first second : Outcome σ α}
    (h : move.outcome id first = move.outcome id second) :
    (∃ value rest rest', first = .done value rest ∧ second = .done value rest') ∨
      (∃ message rest rest', first = .failed message rest ∧ second = .failed message rest' ∧
        rest.position = rest'.position) ∨
      first = .diverges := by
  cases first with
  | done value rest =>
      cases second with
      | done value' rest' =>
          obtain rfl : value = value' := (Outcome.done.inj h).1
          exact .inl ⟨value, rest, rest', rfl, rfl⟩
      | failed message' rest' => cases h
      | diverges => cases h
  | failed message rest =>
      cases second with
      | done value' rest' => cases h
      | failed message' rest' =>
          obtain ⟨rfl, hrest⟩ := Outcome.failed.inj h
          have hposition := congrArg Cursor.position hrest
          rw [position_cursor, position_cursor, Nat.add_right_cancel_iff] at hposition
          exact .inr (.inl ⟨message, rest, rest', rfl, rfl, hposition⟩)
      | diverges => cases h
  | diverges => exact .inr (.inr rfl)

end Outcome

private theorem furthest_map_failure (move : Move σ) {failures : List (Failure σ)}
    (hnonempty : failures ≠ []) :
    Failure.furthest (failures.map move.failure) = Failure.furthest failures + move.distance := by
  have hfold : ∀ (positions : List Nat) reached,
      (positions.map (· + move.distance)).foldl max (reached + move.distance) =
        positions.foldl max reached + move.distance := by
    intro positions
    induction positions with
    | nil => exact fun _ => rfl
    | cons place positions ih =>
        intro reached
        rw [List.map_cons, List.foldl_cons, List.foldl_cons, ← ih, ← Nat.add_max_add_right]
  cases failures with
  | nil => contradiction
  | cons first failures =>
      have hplaces : ((failures.map move.failure).map (·.rest.position)) =
          (failures.map (·.rest.position)).map (· + move.distance) := by
        simp [failure, cursor]
      simp only [Failure.furthest, List.map_cons, hplaces, List.foldl_cons, Nat.zero_max]
      exact hfold _ _

/-- Whichever failure is reported, it is reported wherever the failures are carried together. -/
theorem merge_map_failure (move : Move σ) (start : Cursor σ) (failures : List (Failure σ)) :
    Failure.merge (move.cursor start) (failures.map move.failure) =
      move.failure (Failure.merge start failures) := by
  by_cases hempty : failures = []
  · rw [hempty]
    rfl
  · have hreported : (failures.map move.failure).filter
        (fun failed => failed.rest.position = Failure.furthest failures + move.distance) =
        (failures.filter (·.rest.position = Failure.furthest failures)).map move.failure := by
      simp [List.filter_map, Function.comp_def, failure, cursor]
    simp only [Failure.merge, furthest_map_failure move hempty, hreported]
    cases failures.filter (·.rest.position = Failure.furthest failures) with
    | nil => rfl
    | cons first others => simp [failure, Function.comp_def]

end Move

namespace Parser

variable {σ α β ρ : Type} {move : Move σ} {p : Parser σ α} {image : α → α}

/-- Where a place is carried the parser does what it does there, with the image of the value. -/
def Follows (p : Parser σ α) (move : Move σ) (image : α → α) : Prop :=
  ∀ cursor, p.run (move.cursor cursor) = move.outcome image (p.run cursor)

theorem follows_succeed {value : α} (hvalue : image value = value) :
    (succeed value : Parser σ α).Follows move image := by
  intro cursor
  rw [run_succeed, run_succeed, Move.outcome_done, hvalue]

theorem follows_fail (message : String) : (fail message : Parser σ α).Follows move image :=
  fun _ => rfl

theorem follows_diverge : (diverge : Parser σ α).Follows move image :=
  fun _ => rfl

theorem follows_position : position.Follows move (· + move.distance) :=
  fun _ => rfl

theorem follows_satisfy {accepts : σ → Bool} {message : σ → String}
    (haccepts : ∀ item, accepts (move.relabel item) = accepts item)
    (hmessage : ∀ item, message (move.relabel item) = message item) :
    (satisfy accepts message).Follows move move.relabel := by
  intro cursor
  obtain ⟨position, items⟩ := cursor
  cases items with
  | nil => rfl
  | cons item items =>
      rw [Move.cursor, List.map_cons, run_satisfy_cons, run_satisfy_cons, haccepts, hmessage]
      split
      · simp [Move.cursor, Nat.add_right_comm]
      · rfl

theorem follows_take (count : Nat) :
    (take count : Parser σ (List σ)).Follows move (List.map move.relabel) := by
  intro cursor
  simp only [run_take, Move.cursor, List.length_map]
  split
  · rfl
  · simp [Move.cursor, Cursor.advance, List.map_take, List.map_drop, Nat.add_right_comm]

theorem follows_endOfInput : (endOfInput : Parser σ Unit).Follows move id := by
  intro cursor
  obtain ⟨position, items⟩ := cursor
  cases items with
  | nil => rfl
  | cons item items => simp [endOfInput, Cursor.isEmpty, Move.cursor]

namespace Follows

theorem map {f : α → β} {image' : β → β} (hp : p.Follows move image)
    (hf : ∀ value, f (image value) = image' (f value)) : (p.map f).Follows move image' := by
  intro cursor
  rw [run_map, run_map, hp]
  cases p.run cursor with
  | done value rest => simp [hf]
  | failed message rest => rfl
  | diverges => rfl

theorem mapMessage (hp : p.Follows move image) (f : String → String) :
    (p.mapMessage f).Follows move image := by
  intro cursor
  simp only [Parser.mapMessage, hp cursor]
  cases p.run cursor <;> rfl

theorem label {text : Cursor σ → String} (hp : p.Follows move image)
    (htext : ∀ cursor, text (move.cursor cursor) = text cursor) :
    (p.label text).Follows move image := by
  intro cursor
  simp only [Parser.label, hp cursor]
  cases p.run cursor with
  | done value rest => rfl
  | diverges => rfl
  | failed message rest =>
      simp only [Move.outcome_failed, htext, Move.position_cursor, Nat.add_right_cancel_iff]
      split <;> rfl

theorem filter {accepts : α → Bool} {message : α → String} (hp : p.Follows move image)
    (haccepts : ∀ value, accepts (image value) = accepts value)
    (hmessage : ∀ value, message (image value) = message value) :
    (p.filter accepts message).Follows move image := by
  intro cursor
  simp only [Parser.filter, hp cursor]
  cases p.run cursor with
  | done value rest =>
      simp only [Move.outcome_done, haccepts, hmessage]
      split <;> rfl
  | failed message rest => rfl
  | diverges => rfl

theorem bind {next : α → Parser σ β} {image' : β → β} (hp : p.Follows move image)
    (himage : ∀ value, next (image value) = next value)
    (hnext : ∀ value, (next value).Follows move image') : (p.bind next).Follows move image' := by
  intro cursor
  simp only [Parser.bind, hp cursor]
  cases p.run cursor with
  | done value rest => simp only [Move.outcome_done, himage, hnext value rest]
  | failed message rest => rfl
  | diverges => rfl

theorem pair {q : Parser σ β} {image' : β → β} (hp : p.Follows move image)
    (hq : q.Follows move image') : (p.pair q).Follows move (Prod.map image image') := by
  intro cursor
  simp only [Parser.pair, hp cursor]
  cases p.run cursor with
  | done value rest =>
      simp only [Move.outcome_done, hq rest]
      cases q.run rest <;> rfl
  | failed message rest => rfl
  | diverges => rfl

theorem keepRight {q : Parser σ β} {image' : β → β} (hp : p.Follows move image)
    (hq : q.Follows move image') : (p.keepRight q).Follows move image' :=
  (hp.pair hq).map fun _ => rfl

theorem keepLeft {q : Parser σ β} {image' : β → β} (hp : p.Follows move image)
    (hq : q.Follows move image') : (p.keepLeft q).Follows move image :=
  (hp.pair hq).map fun _ => rfl

theorem orElse {q : Parser σ α} (hp : p.Follows move image) (hq : q.Follows move image) :
    (p.orElse q).Follows move image := by
  intro cursor
  simp only [Parser.orElse, hp cursor]
  cases p.run cursor with
  | done value rest => rfl
  | failed message rest => exact hq cursor
  | diverges => rfl

theorem rewind (hp : p.Follows move image) : p.rewind.Follows move image := by
  intro cursor
  simp only [Parser.rewind, hp cursor]
  cases p.run cursor <;> rfl

theorem optional (hp : p.Follows move image) :
    p.optional.Follows move (Option.map image) := by
  have hsome : (p.map some).Follows move (Option.map image) := hp.map fun _ => rfl
  exact hsome.orElse (follows_succeed rfl)

theorem failsAt_iff (hp : p.Follows move image) {cursor : Cursor σ} :
    p.FailsAt (move.cursor cursor) ↔ p.FailsAt cursor := by
  rw [FailsAt, FailsAt, hp cursor]
  cases p.run cursor <;> simp

private theorem repeats (hp : p.Follows move image) {cursor finish : Cursor σ} {values : List α}
    (hrepeats : Repeats p cursor values finish) :
    Repeats p (move.cursor cursor) (values.map image) (move.cursor finish) := by
  induction hrepeats with
  | stop hfails => exact .stop (hp.failsAt_iff.mpr hfails)
  | step hrun _ ih => exact .step (by rw [hp, hrun, Move.outcome_done]) ih

private theorem exists_repeats (hp : p.Follows move image) {cursor place finish : Cursor σ}
    {values : List α} (hplace : place = move.cursor cursor)
    (hrepeats : Repeats p place values finish) :
    ∃ found stop, Repeats p cursor found stop := by
  induction hrepeats generalizing cursor with
  | stop hfails =>
      subst hplace
      exact ⟨[], cursor, .stop (hp.failsAt_iff.mp hfails)⟩
  | step hrun _ ih =>
      rw [hplace, hp] at hrun
      cases hfound : p.run cursor with
      | done value rest =>
          rw [hfound] at hrun
          obtain ⟨-, hrest⟩ := Outcome.done.inj hrun
          obtain ⟨found, stop, hlater⟩ := ih hrest.symm
          exact ⟨value :: found, stop, .step hfound hlater⟩
      | failed message rest => rw [hfound] at hrun; cases hrun
      | diverges => rw [hfound] at hrun; cases hrun

/-- Neither of two repetitions at places that correspond goes on where the other ends. -/
theorem many (hp : p.Follows move image) : p.many.Follows move (List.map image) := by
  intro cursor
  cases hrun : p.many.run cursor with
  | done values finish =>
      exact run_many_eq_done_iff.mpr (hp.repeats (run_many_eq_done_iff.mp hrun))
  | failed message rest => exact absurd ⟨message, rest, hrun⟩ not_failsAt_many
  | diverges =>
      cases hmoved : p.many.run (move.cursor cursor) with
      | done values finish =>
          obtain ⟨found, stop, hrepeats⟩ := hp.exists_repeats rfl (run_many_eq_done_iff.mp hmoved)
          rw [run_many_eq_done_iff.mpr hrepeats] at hrun
          cases hrun
      | failed message rest => exact absurd ⟨message, rest, hmoved⟩ not_failsAt_many
      | diverges => rfl

theorem many1 (hp : p.Follows move image) : p.many1.Follows move (List.map image) :=
  (hp.pair hp.many).map fun _ => rfl

end Follows

private theorem choiceFrom_follows {alternatives : List (Parser σ α)}
    (hall : ∀ p ∈ alternatives, p.Follows move image) (cursor : Cursor σ)
    (failures : List (Failure σ)) :
    choiceFrom (move.cursor cursor) (failures.map move.failure) alternatives =
      move.outcome image (choiceFrom cursor failures alternatives) := by
  induction alternatives generalizing failures with
  | nil =>
      simp only [choiceFrom, ← List.map_reverse, Move.merge_map_failure, Move.outcome_failed,
        Move.failure]
  | cons p alternatives ih =>
      obtain ⟨hp, hlater⟩ := List.forall_mem_cons.mp hall
      simp only [choiceFrom, hp cursor]
      cases p.run cursor with
      | done value rest => rfl
      | failed message rest => exact ih hlater (⟨message, rest⟩ :: failures)
      | diverges => rfl

theorem follows_choice {alternatives : List (Parser σ α)}
    (hall : ∀ p ∈ alternatives, p.Follows move image) :
    (choice alternatives).Follows move image :=
  fun cursor => choiceFrom_follows hall cursor []

theorem follows_rules {define : (ρ → Parser σ α) → ρ → Parser σ α}
    (hunroll : ∀ depth rule, (unroll define depth rule).Follows move image) (count : Nat)
    (rule : ρ) : (rules count define rule).Follows move image := by
  intro cursor
  simp only [rules, Move.cursor, List.length_map]
  exact hunroll _ rule cursor

end Parser

end RangeCalc
