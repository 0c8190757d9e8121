import Mathlib.Data.List.Forall2
import RangeCalc.Proofs.Parser.Choice

/-! What a combined parser says when it fails, and where, in terms of its parts. -/

namespace RangeCalc

namespace Failure

variable {σ : Type} {start : Cursor σ} {failures before after : List (Failure σ)}
  {failure : Failure σ}

/-- Of several failures the one that alone got past the start is reported. -/
theorem merge_of_others_at_start (hbefore : ∀ other ∈ before, other.rest = start)
    (hafter : ∀ other ∈ after, other.rest = start)
    (hbeyond : start.position < failure.rest.position) :
    merge start (before ++ failure :: after) = failure := by
  have hreached : furthest (before ++ failure :: after) = failure.rest.position := by
    apply Nat.le_antisymm
    · apply furthest_le_iff.mpr
      intro other hmem
      rcases List.mem_append.mp hmem with hmem | hmem
      · rw [hbefore other hmem]
        omega
      · rcases List.mem_cons.mp hmem with rfl | hmem
        · exact Nat.le_refl _
        · rw [hafter other hmem]
          omega
    · exact le_furthest (by simp)
  have hdropped : ∀ others : List (Failure σ), (∀ other ∈ others, other.rest = start) →
      others.filter (fun other => other.rest.position = failure.rest.position) = [] := by
    intro others hothers
    apply List.filter_eq_nil_iff.mpr
    intro other hmem
    simp only [hothers other hmem, decide_eq_true_eq]
    omega
  simp only [merge, hreached, List.filter_append, List.filter_cons, decide_true, if_true,
    hdropped before hbefore, hdropped after hafter]
  rfl

theorem rest_merge (start : Cursor σ) (failures : List (Failure σ)) :
    (merge start failures).rest = start ∨
      ∃ failure ∈ failures, (merge start failures).rest = failure.rest := by
  simp only [merge]
  split
  · exact .inl rfl
  · next first others hfilter =>
    have hmem : first ∈ failures.filter
        (fun failure => failure.rest.position = furthest failures) := by
      rw [hfilter]
      exact List.mem_cons_self
    exact .inr ⟨first, (List.mem_filter.mp hmem).1, rfl⟩

end Failure

namespace Parser

variable {σ α β : Type}

/-- The run from `cursor` fails without having got past it. -/
def FailsHere (p : Parser σ α) (cursor : Cursor σ) : Prop :=
  ∃ message, p.run cursor = .failed message cursor

section Sequence

variable {p : Parser σ α} {cursor rest : Cursor σ} {message : String}

theorem run_map_eq_failed_iff {f : α → β} :
    (p.map f).run cursor = .failed message rest ↔ p.run cursor = .failed message rest := by
  rw [run_map]
  cases p.run cursor <;> simp

theorem run_bind_eq_failed_iff {next : α → Parser σ β} :
    (p.bind next).run cursor = .failed message rest ↔
      p.run cursor = .failed message rest ∨
        ∃ found middle, p.run cursor = .done found middle ∧
          (next found).run middle = .failed message rest := by
  simp only [bind]
  cases p.run cursor with
  | done found middle =>
      simp only [reduceCtorEq, false_or, Outcome.done.injEq]
      constructor
      · exact fun hnext => ⟨found, middle, ⟨rfl, rfl⟩, hnext⟩
      · intro hparts
        obtain ⟨_, _, ⟨rfl, rfl⟩, hnext⟩ := hparts
        exact hnext
  | failed message stop => simp
  | diverges => simp

theorem run_pair_eq_failed_iff {q : Parser σ β} :
    (p.pair q).run cursor = .failed message rest ↔
      p.run cursor = .failed message rest ∨
        ∃ found middle, p.run cursor = .done found middle ∧
          q.run middle = .failed message rest := by
  have hbind : p.pair q = p.bind fun found => q.map fun other => (found, other) := rfl
  simp only [hbind, run_bind_eq_failed_iff, run_map_eq_failed_iff]

theorem run_keepRight_eq_failed_iff {q : Parser σ β} :
    (p.keepRight q).run cursor = .failed message rest ↔
      p.run cursor = .failed message rest ∨
        ∃ found middle, p.run cursor = .done found middle ∧
          q.run middle = .failed message rest := by
  rw [keepRight, run_map_eq_failed_iff, run_pair_eq_failed_iff]

theorem run_keepLeft_eq_failed_iff {q : Parser σ β} :
    (p.keepLeft q).run cursor = .failed message rest ↔
      p.run cursor = .failed message rest ∨
        ∃ found middle, p.run cursor = .done found middle ∧
          q.run middle = .failed message rest := by
  rw [keepLeft, run_map_eq_failed_iff, run_pair_eq_failed_iff]

theorem run_optional_ne_failed : p.optional.run cursor ≠ .failed message rest := by
  intro hrun
  simp only [optional, orElse, run_map] at hrun
  cases hp : p.run cursor <;> simp [hp] at hrun

theorem failsHere_satisfy {accepts : σ → Bool} {reason : σ → String}
    (hrefused : cursor.peek.any accepts = false) :
    (satisfy accepts reason).FailsHere cursor := by
  obtain ⟨position, items⟩ := cursor
  cases items with
  | nil => exact ⟨_, rfl⟩
  | cons item items =>
      have hitem : accepts item = false := hrefused
      exact ⟨reason item, by rw [run_satisfy_cons, hitem, if_neg Bool.false_ne_true]⟩

theorem FailsHere.map (hp : p.FailsHere cursor) (f : α → β) : (p.map f).FailsHere cursor := by
  obtain ⟨message, hrun⟩ := hp
  exact ⟨message, run_map_eq_failed_iff.mpr hrun⟩

theorem FailsHere.bind (hp : p.FailsHere cursor) (next : α → Parser σ β) :
    (p.bind next).FailsHere cursor := by
  obtain ⟨message, hrun⟩ := hp
  exact ⟨message, run_bind_eq_failed_iff.mpr (.inl hrun)⟩

end Sequence

section Label

variable {p : Parser σ α} {text : Cursor σ → String} {cursor rest : Cursor σ} {message : String}

theorem run_label_eq_failed_iff :
    (p.label text).run cursor = .failed message rest ↔
      ∃ reason, p.run cursor = .failed reason rest ∧
        message = if rest.position = cursor.position then text cursor else reason := by
  simp only [label]
  cases p.run cursor with
  | done found stop => simp
  | failed reason stop =>
      simp only [Outcome.failed.injEq]
      split <;> grind
  | diverges => simp

theorem run_label_of_failsHere (hp : p.FailsHere cursor) :
    (p.label text).run cursor = .failed (text cursor) cursor := by
  obtain ⟨reason, hrun⟩ := hp
  exact run_label_eq_failed_iff.mpr ⟨reason, hrun, by rw [if_pos rfl]⟩

theorem run_label_of_beyond
    (hbeyond : ∀ message rest, p.run cursor = .failed message rest →
      cursor.position < rest.position) :
    (p.label text).run cursor = p.run cursor := by
  simp only [label]
  cases hp : p.run cursor with
  | done value rest => rfl
  | diverges => rfl
  | failed message rest => exact if_neg (Nat.ne_of_gt (hbeyond message rest hp))

theorem run_endOfInput_label_eq_failed_iff :
    ((endOfInput : Parser σ Unit).label text).run cursor = .failed message rest ↔
      cursor.remaining ≠ [] ∧ message = text cursor ∧ rest = cursor := by
  by_cases hempty : cursor.remaining = []
  · simp [label, endOfInput, Cursor.isEmpty, hempty]
  · have hfails : (endOfInput : Parser σ Unit).FailsHere cursor := by
      simp [FailsHere, endOfInput, Cursor.isEmpty, hempty]
    rw [run_label_of_failsHere hfails, Outcome.failed.injEq]
    constructor
    · intro hrun
      exact ⟨hempty, hrun.1.symm, hrun.2.symm⟩
    · intro hparts
      exact ⟨hparts.2.1.symm, hparts.2.2.symm⟩

end Label

section Choice

variable {alternatives : List (Parser σ α)} {p : Parser σ α} {cursor : Cursor σ}

/-- The failures are those of the parsers from `cursor`, in order. -/
def FailWith (cursor : Cursor σ) (parsers : List (Parser σ α))
    (failures : List (Failure σ)) : Prop :=
  List.Forall₂ (fun p failure => p.run cursor = .failed failure.message failure.rest)
    parsers failures

private theorem choiceFrom_append {failures earlier : List (Failure σ)}
    {before : List (Parser σ α)} (hbefore : FailWith cursor before earlier) :
    choiceFrom cursor failures (before ++ alternatives) =
      choiceFrom cursor (earlier.reverse ++ failures) alternatives := by
  induction hbefore generalizing failures with
  | nil => rfl
  | cons hp _ ih => simp [choiceFrom, hp, ih]

theorem choiceFrom_eq_merge {failures later : List (Failure σ)}
    (hall : FailWith cursor alternatives later) :
    choiceFrom cursor failures alternatives =
      .failed (Failure.merge cursor (failures.reverse ++ later)).message
        (Failure.merge cursor (failures.reverse ++ later)).rest := by
  have hchoice : choiceFrom cursor failures (alternatives ++ []) = _ := choiceFrom_append hall
  rw [List.append_nil] at hchoice
  simp [hchoice, choiceFrom]

private theorem exists_failures (hall : ∀ p ∈ alternatives, p.FailsHere cursor) :
    ∃ failures : List (Failure σ), FailWith cursor alternatives failures ∧
      ∀ failure ∈ failures, failure.rest = cursor := by
  induction alternatives with
  | nil => exact ⟨[], .nil, by simp⟩
  | cons p alternatives ih =>
      obtain ⟨⟨message, hp⟩, hlater⟩ := List.forall_mem_cons.mp hall
      obtain ⟨failures, hfailures, hrest⟩ := ih hlater
      exact ⟨⟨message, cursor⟩ :: failures, .cons hp hfailures, by simpa using hrest⟩

theorem failsHere_choice (hall : ∀ p ∈ alternatives, p.FailsHere cursor) :
    (choice alternatives).FailsHere cursor := by
  obtain ⟨failures, hfailures, hrest⟩ := exists_failures hall
  refine ⟨(Failure.merge cursor failures).message, ?_⟩
  have hrun : (choice alternatives).run cursor = _ := choiceFrom_eq_merge hfailures
  have hmerge : (Failure.merge cursor failures).rest = cursor := by
    rcases Failure.rest_merge cursor failures with hstart | ⟨failure, hmem, hmerge⟩
    · exact hstart
    · rw [hmerge, hrest failure hmem]
  rw [hrun, List.reverse_nil, List.nil_append, hmerge]

/-- Where one alternative alone gets past the start, the choice does what that one does. -/
theorem run_choice_of_others (before after : List (Parser σ α))
    (hbefore : ∀ q ∈ before, q.FailsHere cursor) (hafter : ∀ q ∈ after, q.FailsHere cursor)
    (hbeyond : ∀ message rest, p.run cursor = .failed message rest →
      cursor.position < rest.position) :
    (choice (before ++ p :: after)).run cursor = p.run cursor := by
  obtain ⟨earlier, hearlier, hearlierRest⟩ := exists_failures hbefore
  obtain ⟨later, hlater, hlaterRest⟩ := exists_failures hafter
  have hchoice : (choice (before ++ p :: after)).run cursor = _ := choiceFrom_append hearlier
  rw [hchoice, List.append_nil]
  cases hp : p.run cursor with
  | done value rest => simp only [choiceFrom, hp]
  | diverges => simp only [choiceFrom, hp]
  | failed message rest =>
      have hmerge : Failure.merge cursor (earlier ++ ⟨message, rest⟩ :: later) =
          ⟨message, rest⟩ :=
        Failure.merge_of_others_at_start hearlierRest hlaterRest (hbeyond message rest hp)
      simp [choiceFrom, hp, choiceFrom_eq_merge hlater, hmerge]

end Choice

end Parser

end RangeCalc
