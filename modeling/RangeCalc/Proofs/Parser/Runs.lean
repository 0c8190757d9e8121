import RangeCalc.Parser.Choice
import RangeCalc.Parser.Element
import RangeCalc.Parser.Recursion

/-! When a combined parser succeeds, when it fails and that it returns, in terms of its parts. -/

namespace RangeCalc.Parser

variable {σ α β : Type}

/-- No run of `p` goes on without end. -/
def Returns (p : Parser σ α) : Prop :=
  ∀ cursor, p.run cursor ≠ .diverges

/-- Every success of `p` leaves less than there was. -/
def Advances (p : Parser σ α) : Prop :=
  ∀ ⦃cursor value rest⦄, p.run cursor = .done value rest →
    rest.remaining.length < cursor.remaining.length

theorem Returns.done_or_failsAt {p : Parser σ α} (hp : p.Returns) (cursor : Cursor σ) :
    (∃ value rest, p.run cursor = .done value rest) ∨ p.FailsAt cursor := by
  cases hrun : p.run cursor with
  | done value rest => exact .inl ⟨value, rest, rfl⟩
  | failed message rest => exact .inr ⟨message, rest, hrun⟩
  | diverges => exact absurd hrun (hp cursor)

theorem not_failsAt_of_done {p : Parser σ α} {cursor rest : Cursor σ} {value : α}
    (hrun : p.run cursor = .done value rest) : ¬ p.FailsAt cursor := by
  intro hparts
  obtain ⟨message, stop, hfailed⟩ := hparts
  rw [hrun] at hfailed
  cases hfailed

theorem run_take (count : Nat) (cursor : Cursor σ) :
    (take count).run cursor =
      if cursor.remaining.length < count then
        .failed (endOfInputMessage ++ ", wanted " ++ toString count ++ " element(s) but " ++
          toString cursor.remaining.length ++ " remain") cursor
      else .done (cursor.remaining.take count) (cursor.advance count) := by
  have hshort : (cursor.remaining.take count).length < count ↔
      cursor.remaining.length < count := by
    rw [List.length_take]
    omega
  simp only [take, hshort]

section Success

variable {p : Parser σ α} {cursor rest : Cursor σ}

theorem run_map_eq_done_iff {f : α → β} {value : β} :
    (p.map f).run cursor = .done value rest ↔
      ∃ found, p.run cursor = .done found rest ∧ f found = value := by
  rw [run_map]
  cases p.run cursor with
  | done found stop =>
      simp only [Outcome.map_done, Outcome.done.injEq]
      constructor
      · intro hrun
        obtain ⟨hvalue, hrest⟩ := hrun
        exact ⟨found, ⟨rfl, hrest⟩, hvalue⟩
      · intro hparts
        obtain ⟨_, ⟨rfl, hrest⟩, hvalue⟩ := hparts
        exact ⟨hvalue, hrest⟩
  | failed message stop => simp
  | diverges => simp

theorem run_bind_eq_done_iff {next : α → Parser σ β} {value : β} :
    (p.bind next).run cursor = .done value rest ↔
      ∃ found middle, p.run cursor = .done found middle ∧
        (next found).run middle = .done value rest := by
  simp only [bind]
  cases p.run cursor with
  | done found middle =>
      simp only [Outcome.done.injEq]
      constructor
      · exact fun hnext => ⟨found, middle, ⟨rfl, rfl⟩, hnext⟩
      · intro hparts
        obtain ⟨_, _, ⟨rfl, rfl⟩, hnext⟩ := hparts
        exact hnext
  | failed message stop => simp
  | diverges => simp

theorem run_pair_eq_done_iff {q : Parser σ β} {value : α × β} :
    (p.pair q).run cursor = .done value rest ↔
      ∃ middle, p.run cursor = .done value.1 middle ∧ q.run middle = .done value.2 rest := by
  have hbind : p.pair q = p.bind fun found => q.map fun other => (found, other) := rfl
  rw [hbind, run_bind_eq_done_iff]
  simp only [run_map_eq_done_iff]
  constructor
  · intro hrun
    obtain ⟨found, middle, hp, other, hq, rfl⟩ := hrun
    exact ⟨middle, hp, hq⟩
  · intro hparts
    obtain ⟨middle, hp, hq⟩ := hparts
    exact ⟨value.1, middle, hp, value.2, hq, rfl⟩

theorem run_keepRight_eq_done_iff {q : Parser σ β} {value : β} :
    (p.keepRight q).run cursor = .done value rest ↔
      ∃ found middle, p.run cursor = .done found middle ∧ q.run middle = .done value rest := by
  simp only [keepRight, run_map_eq_done_iff, run_pair_eq_done_iff]
  constructor
  · intro hrun
    obtain ⟨⟨found, _⟩, ⟨middle, hp, hq⟩, rfl⟩ := hrun
    exact ⟨found, middle, hp, hq⟩
  · intro hparts
    obtain ⟨found, middle, hp, hq⟩ := hparts
    exact ⟨(found, value), ⟨middle, hp, hq⟩, rfl⟩

theorem run_keepLeft_eq_done_iff {q : Parser σ β} {value : α} :
    (p.keepLeft q).run cursor = .done value rest ↔
      ∃ other middle, p.run cursor = .done value middle ∧ q.run middle = .done other rest := by
  simp only [keepLeft, run_map_eq_done_iff, run_pair_eq_done_iff]
  constructor
  · intro hrun
    obtain ⟨⟨_, other⟩, ⟨middle, hp, hq⟩, rfl⟩ := hrun
    exact ⟨other, middle, hp, hq⟩
  · intro hparts
    obtain ⟨other, middle, hp, hq⟩ := hparts
    exact ⟨(value, other), ⟨middle, hp, hq⟩, rfl⟩

theorem run_label_eq_done_iff {text : Cursor σ → String} {value : α} :
    (p.label text).run cursor = .done value rest ↔ p.run cursor = .done value rest := by
  simp only [label]
  cases p.run cursor with
  | done found stop => rfl
  | failed message stop => simp only; split <;> simp
  | diverges => rfl

theorem run_filter_eq_done_iff {accepts : α → Bool} {message : α → String} {value : α} :
    (p.filter accepts message).run cursor = .done value rest ↔
      p.run cursor = .done value rest ∧ accepts value = true := by
  simp only [filter]
  cases p.run cursor with
  | done found stop => simp only [Outcome.done.injEq]; grind
  | failed message stop => simp
  | diverges => simp

theorem run_satisfy_eq_done_iff {accepts : σ → Bool} {message : σ → String} {item : σ} :
    (satisfy accepts message).run cursor = .done item rest ↔
      cursor.next = some (item, rest) ∧ accepts item = true := by
  simp only [satisfy]
  cases cursor.next with
  | none => simp
  | some step => grind

theorem run_orElse_eq_done_iff {q : Parser σ α} {value : α} :
    (p.orElse q).run cursor = .done value rest ↔
      p.run cursor = .done value rest ∨ (p.FailsAt cursor ∧ q.run cursor = .done value rest) := by
  simp only [orElse, FailsAt]
  cases p.run cursor <;> simp

theorem run_optional_eq_done_iff {value : Option α} :
    p.optional.run cursor = .done value rest ↔
      (∃ found, p.run cursor = .done found rest ∧ some found = value) ∨
        (p.FailsAt cursor ∧ value = none ∧ rest = cursor) := by
  rw [optional, run_orElse_eq_done_iff, run_map_eq_done_iff, run_succeed]
  simp only [FailsAt, run_map]
  cases p.run cursor with
  | done found stop => simp
  | failed message stop => simp [eq_comm]
  | diverges => simp

theorem run_endOfInput_eq_done_iff {value : Unit} :
    (endOfInput : Parser σ Unit).run cursor = .done value rest ↔
      cursor.remaining = [] ∧ rest = cursor := by
  by_cases hempty : cursor.remaining = []
  · simp [endOfInput, Cursor.isEmpty, hempty, @eq_comm _ cursor]
  · simp [endOfInput, Cursor.isEmpty, hempty]

end Success

section Failure

variable {p : Parser σ α} {cursor : Cursor σ}

theorem failsAt_map_iff {f : α → β} : (p.map f).FailsAt cursor ↔ p.FailsAt cursor := by
  simp only [FailsAt, run_map]
  cases p.run cursor <;> simp

theorem failsAt_bind_iff {next : α → Parser σ β} :
    (p.bind next).FailsAt cursor ↔
      p.FailsAt cursor ∨
        ∃ found middle, p.run cursor = .done found middle ∧ (next found).FailsAt middle := by
  simp only [FailsAt, bind]
  cases p.run cursor with
  | done found middle =>
      simp only [reduceCtorEq, exists_false, false_or, Outcome.done.injEq]
      constructor
      · exact fun hnext => ⟨found, middle, ⟨rfl, rfl⟩, hnext⟩
      · intro hparts
        obtain ⟨_, _, ⟨rfl, rfl⟩, hnext⟩ := hparts
        exact hnext
  | failed message stop => simp
  | diverges => simp

theorem failsAt_pair_iff {q : Parser σ β} :
    (p.pair q).FailsAt cursor ↔
      p.FailsAt cursor ∨ ∃ found middle, p.run cursor = .done found middle ∧ q.FailsAt middle := by
  have hbind : p.pair q = p.bind fun found => q.map fun other => (found, other) := rfl
  simp only [hbind, failsAt_bind_iff, failsAt_map_iff]

theorem FailsAt.map (hp : p.FailsAt cursor) (f : α → β) : (p.map f).FailsAt cursor :=
  failsAt_map_iff.mpr hp

theorem FailsAt.bind (hp : p.FailsAt cursor) (next : α → Parser σ β) :
    (p.bind next).FailsAt cursor :=
  failsAt_bind_iff.mpr (.inl hp)

theorem FailsAt.pair (hp : p.FailsAt cursor) (q : Parser σ β) : (p.pair q).FailsAt cursor :=
  failsAt_pair_iff.mpr (.inl hp)

theorem FailsAt.keepRight (hp : p.FailsAt cursor) (q : Parser σ β) :
    (p.keepRight q).FailsAt cursor :=
  (hp.pair q).map _

theorem FailsAt.keepLeft (hp : p.FailsAt cursor) (q : Parser σ β) :
    (p.keepLeft q).FailsAt cursor :=
  (hp.pair q).map _

theorem failsAt_label_iff {text : Cursor σ → String} :
    (p.label text).FailsAt cursor ↔ p.FailsAt cursor := by
  simp only [FailsAt, label]
  cases p.run cursor with
  | done found stop => rfl
  | failed message stop => simp only; split <;> simp
  | diverges => rfl

theorem failsAt_satisfy_iff {accepts : σ → Bool} {message : σ → String} :
    (satisfy accepts message).FailsAt cursor ↔ cursor.peek.any accepts = false := by
  obtain ⟨position, items⟩ := cursor
  cases items with
  | nil => simp [FailsAt, Cursor.peek]
  | cons item items =>
      rw [FailsAt, run_satisfy_cons]
      by_cases haccepts : accepts item = true <;> simp [Cursor.peek, haccepts]

theorem FailsAt.filter (hp : p.FailsAt cursor) (accepts : α → Bool) (message : α → String) :
    (p.filter accepts message).FailsAt cursor := by
  obtain ⟨text, rest, hrun⟩ := hp
  exact ⟨text, rest, by simp [Parser.filter, hrun]⟩

theorem failsAt_orElse_iff {q : Parser σ α} :
    (p.orElse q).FailsAt cursor ↔ p.FailsAt cursor ∧ q.FailsAt cursor := by
  simp only [FailsAt, orElse]
  cases p.run cursor <;> simp

theorem failsAt_choice_iff {alternatives : List (Parser σ α)} :
    (choice alternatives).FailsAt cursor ↔ ∀ p ∈ alternatives, p.FailsAt cursor := by
  have hfrom : ∀ failures, (∃ message rest,
      choiceFrom cursor failures alternatives = .failed message rest) ↔
        ∀ p ∈ alternatives, p.FailsAt cursor := by
    induction alternatives with
    | nil => simp [choiceFrom]
    | cons p alternatives ih =>
        intro failures
        simp only [choiceFrom, List.forall_mem_cons, FailsAt]
        cases p.run cursor with
        | done value rest => simp
        | failed message rest => simpa [FailsAt] using ih _
        | diverges => simp
  exact hfrom []

end Failure

section Choice

variable {p : Parser σ α} {alternatives : List (Parser σ α)} {cursor rest : Cursor σ} {value : α}

private theorem choiceFrom_eq_done_iff (failures : List (Failure σ)) :
    choiceFrom cursor failures alternatives = .done value rest ↔
      choiceFrom cursor [] alternatives = .done value rest := by
  induction alternatives generalizing failures with
  | nil => simp [choiceFrom]
  | cons p alternatives ih =>
      simp only [choiceFrom]
      cases p.run cursor with
      | done found stop => rfl
      | failed message stop => exact (ih _).trans (ih _).symm
      | diverges => rfl

theorem run_choice_nil_ne_done :
    (choice ([] : List (Parser σ α))).run cursor ≠ .done value rest := by
  simp [choice, choiceFrom]

theorem run_choice_cons_eq_done_iff :
    (choice (p :: alternatives)).run cursor = .done value rest ↔
      p.run cursor = .done value rest ∨
        (p.FailsAt cursor ∧ (choice alternatives).run cursor = .done value rest) := by
  simp only [choice, choiceFrom, FailsAt]
  cases p.run cursor with
  | done found stop => simp
  | failed message stop => simp [choiceFrom_eq_done_iff [_]]
  | diverges => simp

theorem run_choice_append_eq_done_iff {before after : List (Parser σ α)} :
    (choice (before ++ after)).run cursor = .done value rest ↔
      (choice before).run cursor = .done value rest ∨
        (∀ q ∈ before, q.FailsAt cursor) ∧ (choice after).run cursor = .done value rest := by
  induction before with
  | nil => simp [run_choice_nil_ne_done]
  | cons q before ih =>
      rw [List.cons_append, run_choice_cons_eq_done_iff, run_choice_cons_eq_done_iff, ih,
        List.forall_mem_cons, and_or_left, or_assoc, and_assoc]

/-- The alternatives before `p` may take the same as `p`, but nothing else. -/
theorem run_choice_append_eq_done {before : List (Parser σ α)}
    (hbefore : ∀ q ∈ before, q.run cursor = .done value rest ∨ q.FailsAt cursor)
    (hp : p.run cursor = .done value rest) :
    (choice (before ++ p :: alternatives)).run cursor = .done value rest := by
  induction before with
  | nil => exact run_choice_cons_eq_done_iff.mpr (.inl hp)
  | cons q before ih =>
      obtain ⟨hq, hlater⟩ := List.forall_mem_cons.mp hbefore
      apply run_choice_cons_eq_done_iff.mpr
      rcases hq with hrun | hfails
      · exact .inl hrun
      · exact .inr ⟨hfails, ih hlater⟩

end Choice

/-! Repetition is a run of successes up to the first failure. -/

/-- Successes of `p` one after another lead to the second place, where `p` may succeed again. -/
inductive Reaches (p : Parser σ α) : Cursor σ → Cursor σ → Prop where
  | here {cursor : Cursor σ} : Reaches p cursor cursor
  | step {cursor rest place : Cursor σ} {value : α}
      (hrun : p.run cursor = .done value rest) (hlater : Reaches p rest place) :
      Reaches p cursor place

section Repetition

variable {p : Parser σ α} {cursor finish : Cursor σ} {values : List α}

theorem repeats_iff_of_done {rest : Cursor σ} {value : α} (hrun : p.run cursor = .done value rest) :
    Repeats p cursor values finish ↔ ∃ later, values = value :: later ∧
      Repeats p rest later finish := by
  constructor
  · intro hrepeats
    cases hrepeats with
    | stop hfails => exact absurd hfails (not_failsAt_of_done hrun)
    | step hfirst hlater =>
        cases hrun.symm.trans hfirst
        exact ⟨_, rfl, hlater⟩
  · rintro ⟨later, rfl, hlater⟩
    exact .step hrun hlater

theorem repeats_iff_of_failsAt (hfails : p.FailsAt cursor) :
    Repeats p cursor values finish ↔ values = [] ∧ finish = cursor := by
  constructor
  · intro hrepeats
    cases hrepeats with
    | stop => exact ⟨rfl, rfl⟩
    | step hrun _ => exact absurd hfails (not_failsAt_of_done hrun)
  · rintro ⟨rfl, rfl⟩
    exact .stop hfails

theorem not_repeats_of_diverges (hrun : p.run cursor = .diverges) :
    ¬ Repeats p cursor values finish := by
  intro hrepeats
  cases hrepeats with
  | stop hfails =>
      obtain ⟨_, _, hfailed⟩ := hfails
      cases hrun.symm.trans hfailed
  | step hdone _ => cases hrun.symm.trans hdone

theorem Repeats.eq {others : List α} {place : Cursor σ} (hrepeats : Repeats p cursor values finish)
    (hothers : Repeats p cursor others place) : others = values ∧ place = finish := by
  induction hrepeats generalizing others with
  | stop hfails => exact (repeats_iff_of_failsAt hfails).mp hothers
  | step hrun _ ih =>
      obtain ⟨later, rfl, hlater⟩ := (repeats_iff_of_done hrun).mp hothers
      obtain ⟨rfl, hplace⟩ := ih hlater
      exact ⟨rfl, hplace⟩

namespace Repeating

variable {start rest : Cursor σ} {value : α} {r further : Repeating p start}
  {ended : Option (Repetition p start)}

theorem run_of_inl (hattempt : r.attempt = .inl further) : r.run = further.run := by
  rw [run, repeatM_eq_of_monadTail]
  simp only [repeatM.body, pure_bind, hattempt]
  rfl

theorem run_of_inr (hattempt : r.attempt = .inr ended) : r.run = ended := by
  rw [run, repeatM_eq_of_monadTail]
  simp only [repeatM.body, pure_bind, hattempt]
  rfl

theorem exists_attempt_of_done (hrun : p.run r.place = .done value rest) :
    ∃ further : Repeating p start, r.attempt = .inl further ∧ further.place = rest := by
  unfold attempt
  split
  · next hfailed => cases hrun.symm.trans hfailed
  · next hdiverges => cases hrun.symm.trans hdiverges
  · next hdone =>
    cases hrun.symm.trans hdone
    exact ⟨_, rfl, rfl⟩

theorem exists_attempt_of_failsAt (hfails : p.FailsAt r.place) :
    ∃ ended, r.attempt = .inr (some ended) := by
  obtain ⟨message, rest, hrun⟩ := hfails
  unfold attempt
  split
  · exact ⟨_, rfl⟩
  · next hdiverges => cases hrun.symm.trans hdiverges
  · next hdone => cases hrun.symm.trans hdone

theorem exists_run_eq_some (hrepeats : Repeats p cursor values finish) (hplace : r.place = cursor) :
    ∃ ended, r.run = some ended := by
  induction hrepeats generalizing r with
  | stop hfails =>
      obtain ⟨ended, hattempt⟩ := exists_attempt_of_failsAt (hplace ▸ hfails)
      exact ⟨ended, run_of_inr hattempt⟩
  | step hrun _ ih =>
      obtain ⟨further, hattempt, hfurther⟩ := exists_attempt_of_done (hplace ▸ hrun)
      obtain ⟨ended, hended⟩ := ih hfurther
      exact ⟨ended, (run_of_inl hattempt).trans hended⟩

end Repeating

private theorem repeatOn_eq_done_iff {found : List α} :
    repeatOn p cursor found = .done values finish ↔
      ∃ later, Repeats p cursor later finish ∧ found.reverse ++ later = values := by
  unfold repeatOn
  constructor
  · intro hrun
    split at hrun
    · next ended _ =>
      cases hrun
      exact ⟨ended.values, ended.repeats, rfl⟩
    · cases hrun
  · rintro ⟨later, hlater, rfl⟩
    obtain ⟨ended, hended⟩ := Repeating.exists_run_eq_some (r := .begin p cursor) hlater rfl
    obtain ⟨hvalues, hfinish⟩ := hlater.eq ended.repeats
    rw [hended, ← hvalues, ← hfinish]

private theorem exists_repeats_iff_of_done {rest : Cursor σ} {value : α} {found : List α}
    (hrun : p.run cursor = .done value rest) :
    (∃ later, Repeats p rest later finish ∧ (value :: found).reverse ++ later = values) ↔
      ∃ later, Repeats p cursor later finish ∧ found.reverse ++ later = values := by
  constructor
  · rintro ⟨later, hlater, rfl⟩
    exact ⟨value :: later, .step hrun hlater, by simp⟩
  · rintro ⟨later, hlater, rfl⟩
    obtain ⟨further, rfl, hfurther⟩ := (repeats_iff_of_done hrun).mp hlater
    exact ⟨further, hfurther, by simp⟩

/-- What is not paid for comes to the same as what is. -/
private theorem repeatFrom_eq_done_iff {budget : List σ} {found : List α} :
    repeatFrom p budget cursor found = .done values finish ↔
      ∃ later, Repeats p cursor later finish ∧ found.reverse ++ later = values := by
  fun_induction repeatFrom p budget cursor found with
  | case1 _ cursor found message rest hrun =>
      have hfails : p.FailsAt cursor := ⟨message, rest, hrun⟩
      constructor
      · rintro ⟨⟩
        exact ⟨[], .stop hfails, List.append_nil _⟩
      · rintro ⟨later, hlater, rfl⟩
        obtain ⟨rfl, rfl⟩ := (repeats_iff_of_failsAt hfails).mp hlater
        rw [List.append_nil]
  | case2 _ cursor found hrun => simp [not_repeats_of_diverges hrun]
  | case3 cursor found value rest hrun =>
      rw [repeatOn_eq_done_iff]
      exact exists_repeats_iff_of_done hrun
  | case4 cursor found value rest hrun _ budget ih =>
      exact ih.trans (exists_repeats_iff_of_done hrun)

private theorem repeatFrom_ne_failed {budget : List σ} {found : List α} {rest : Cursor σ}
    {message : String} : repeatFrom p budget cursor found ≠ .failed message rest := by
  fun_induction repeatFrom p budget cursor found with
  | case1 => rintro ⟨⟩
  | case2 => rintro ⟨⟩
  | case3 => unfold repeatOn; split <;> rintro ⟨⟩
  | case4 _ _ _ _ _ _ _ ih => exact ih

/-- A repetition comes to the values of the successes before the first failure. -/
theorem run_many_eq_done_iff :
    p.many.run cursor = .done values finish ↔ Repeats p cursor values finish := by
  have hrun : p.many.run cursor = repeatFrom p cursor.remaining cursor [] := rfl
  rw [hrun, repeatFrom_eq_done_iff]
  simp

theorem not_failsAt_many : ¬ p.many.FailsAt cursor := by
  rintro ⟨message, rest, hrun⟩
  exact repeatFrom_ne_failed hrun

theorem Repeats.length_le (hp : p.Advances) (hrepeats : Repeats p cursor values finish) :
    values.length + finish.remaining.length ≤ cursor.remaining.length := by
  induction hrepeats with
  | stop => simp
  | step hrun _ ih =>
      have hless := hp hrun
      simp only [List.length_cons]
      omega

end Repetition

section Returning

variable {p : Parser σ α} {q : Parser σ β}

theorem returns_succeed (value : α) : (succeed value : Parser σ α).Returns := by
  simp [Returns]

theorem returns_fail (message : String) : (fail message : Parser σ α).Returns := by
  simp [Returns]

theorem returns_satisfy (accepts : σ → Bool) (message : σ → String) :
    (satisfy accepts message).Returns := by
  intro cursor hrun
  simp only [satisfy] at hrun
  split at hrun
  · contradiction
  · split at hrun <;> contradiction

theorem returns_endOfInput : (endOfInput : Parser σ Unit).Returns := by
  intro cursor
  by_cases hempty : cursor.remaining = [] <;> simp [endOfInput, Cursor.isEmpty, hempty]

theorem Returns.map (hp : p.Returns) (f : α → β) : (p.map f).Returns := by
  intro cursor hrun
  rcases hp.done_or_failsAt cursor with ⟨_, _, hp⟩ | ⟨_, _, hp⟩ <;> simp [hp] at hrun

theorem Returns.label (hp : p.Returns) (text : Cursor σ → String) : (p.label text).Returns := by
  intro cursor hrun
  simp only [Parser.label] at hrun
  split at hrun
  · split at hrun <;> contradiction
  · exact hp cursor hrun

theorem Returns.bind {next : α → Parser σ β} (hp : p.Returns)
    (hnext : ∀ value, (next value).Returns) : (p.bind next).Returns := by
  intro cursor hrun
  simp only [Parser.bind] at hrun
  split at hrun
  · exact hnext _ _ hrun
  · contradiction
  · next hdiverges => exact hp cursor hdiverges

theorem Returns.pair (hp : p.Returns) (hq : q.Returns) : (p.pair q).Returns := by
  have hbind : p.pair q = p.bind fun found => q.map fun other => (found, other) := rfl
  rw [hbind]
  exact hp.bind fun _ => hq.map _

theorem Returns.keepRight (hp : p.Returns) (hq : q.Returns) : (p.keepRight q).Returns :=
  (hp.pair hq).map _

theorem Returns.keepLeft (hp : p.Returns) (hq : q.Returns) : (p.keepLeft q).Returns :=
  (hp.pair hq).map _

theorem Returns.optional (hp : p.Returns) : p.optional.Returns := by
  intro cursor hrun
  rcases hp.done_or_failsAt cursor with ⟨_, _, hp⟩ | ⟨_, _, hp⟩ <;>
    simp [Parser.optional, orElse, hp] at hrun

theorem returns_choice {alternatives : List (Parser σ α)}
    (hreturns : ∀ p ∈ alternatives, p.Returns) : (choice alternatives).Returns := by
  intro cursor
  suffices hfrom : ∀ failures, choiceFrom cursor failures alternatives ≠ .diverges from hfrom []
  induction alternatives with
  | nil => simp [choiceFrom]
  | cons p alternatives ih =>
      obtain ⟨hp, halternatives⟩ := List.forall_mem_cons.mp hreturns
      intro failures
      simp only [choiceFrom]
      split
      · simp
      · exact ih halternatives _
      · next hdiverges => exact absurd hdiverges (hp cursor)

/-- Successes that advance come to an end, unless one of the attempts does not. -/
theorem Advances.exists_repeats (hadvances : p.Advances) {cursor : Cursor σ}
    (hreturns : ∀ place, p.Reaches cursor place → p.run place ≠ .diverges) :
    ∃ values finish, Repeats p cursor values finish := by
  induction hlength : cursor.remaining.length using Nat.strongRecOn generalizing cursor with
  | ind length ih =>
      cases hrun : p.run cursor with
      | done value rest =>
          have hless := hadvances hrun
          obtain ⟨values, finish, hlater⟩ := ih _ (hlength ▸ hless)
            (fun place hplace => hreturns place (.step hrun hplace)) rfl
          exact ⟨value :: values, finish, .step hrun hlater⟩
      | failed message rest => exact ⟨[], cursor, .stop ⟨message, rest, hrun⟩⟩
      | diverges => exact absurd hrun (hreturns cursor .here)

theorem Returns.many (hp : p.Returns) (hadvances : p.Advances) : p.many.Returns := by
  intro cursor hrun
  obtain ⟨values, finish, hrepeats⟩ := hadvances.exists_repeats fun place _ => hp place
  rw [run_many_eq_done_iff.mpr hrepeats] at hrun
  cases hrun

end Returning

end RangeCalc.Parser
