import RangeCalc.Proofs.Parser.Progress

/-! Repetition takes as many successes as there are. Behind it another attempt fails, and so does
another repetition that wants a success. -/

namespace RangeCalc.Parser

variable {σ α : Type} {p : Parser σ α} {cursor rest finish : Cursor σ} {values : List α}
  {message : String}

/-- Outcomes that are no failures agree if they agree in what is done. -/
private theorem outcome_eq_of_done_iff {first second : Outcome σ α}
    (hfirst : ∀ message rest, first ≠ .failed message rest)
    (hsecond : ∀ message rest, second ≠ .failed message rest)
    (hdone : ∀ value rest, first = .done value rest ↔ second = .done value rest) :
    first = second := by
  cases first with
  | done value rest => exact ((hdone value rest).mp rfl).symm
  | failed message rest => exact absurd rfl (hfirst message rest)
  | diverges =>
      cases second with
      | done value rest => exact (hdone value rest).mpr rfl
      | failed message rest => exact absurd rfl (hsecond message rest)
      | diverges => rfl

theorem Repeats.failsAt_finish (h : Repeats p cursor values finish) : p.FailsAt finish := by
  induction h with
  | stop hfails => exact hfails
  | step _ _ ih => exact ih

theorem run_many_ne_failed : p.many.run cursor ≠ .failed message rest :=
  fun hrun => not_failsAt_many ⟨message, rest, hrun⟩

section AtLeastOne

theorem run_many1_eq_failed_iff :
    p.many1.run cursor = .failed message rest ↔ p.run cursor = .failed message rest := by
  rw [many1, run_map_eq_failed_iff, run_pair_eq_failed_iff]
  exact or_iff_left fun ⟨_, _, _, hmany⟩ => run_many_ne_failed hmany

theorem failsAt_many1_iff : p.many1.FailsAt cursor ↔ p.FailsAt cursor :=
  exists_congr fun _ => exists_congr fun _ => run_many1_eq_failed_iff

theorem run_many1_eq_done_iff :
    p.many1.run cursor = .done values finish ↔
      ∃ value rest later, p.run cursor = .done value rest ∧ Repeats p rest later finish ∧
        values = value :: later := by
  rw [many1, run_map_eq_done_iff]
  simp only [run_pair_eq_done_iff, run_many_eq_done_iff]
  constructor
  · rintro ⟨⟨value, later⟩, ⟨rest, hrun, hlater⟩, rfl⟩
    exact ⟨value, rest, later, hrun, hlater, rfl⟩
  · rintro ⟨value, rest, later, hrun, hlater, rfl⟩
    exact ⟨(value, later), ⟨rest, hrun, hlater⟩, rfl⟩

theorem run_many1_eq_run_many (hp : ¬ p.FailsAt cursor) :
    p.many1.run cursor = p.many.run cursor := by
  apply outcome_eq_of_done_iff
  · exact fun message rest hrun => hp (failsAt_many1_iff.mp ⟨message, rest, hrun⟩)
  · exact fun _ _ => run_many_ne_failed
  · intro values finish
    rw [run_many1_eq_done_iff, run_many_eq_done_iff]
    constructor
    · rintro ⟨value, rest, later, hrun, hlater, rfl⟩
      exact .step hrun hlater
    · intro hrepeats
      cases hrepeats with
      | stop hfails => exact absurd hfails hp
      | step hrun hlater => exact ⟨_, _, _, hrun, hlater, rfl⟩

end AtLeastOne

/-- A repetition that returns has taken every success up to the first failure, at which nothing more
can be taken; if there is such a failure, it returns. To want one success at least is to fail as the
first attempt does, or else to take the same. If all successes advance, the repetition returns
wherever every attempt does. -/
theorem repetition_is_maximal (p : Parser σ α) (cursor : Cursor σ) :
    (p.many.run cursor ≠ .diverges → ∃ values finish, Repeats p cursor values finish ∧
      p.many.run cursor = .done values finish ∧ (p.many.pair p).FailsAt cursor ∧
        (p.many.pair p.many1).FailsAt cursor ∧
        (p.many.pair p.many).run cursor = .done (values, []) finish) ∧
      (∀ values finish, Repeats p cursor values finish →
        p.many.run cursor = .done values finish) ∧
      (∀ message rest, p.many1.run cursor = .failed message rest ↔
        p.run cursor = .failed message rest) ∧
      (¬ p.FailsAt cursor → p.many1.run cursor = p.many.run cursor) ∧
      (p.Advances → (∀ place, p.Reaches cursor place → p.run place ≠ .diverges) →
        ∃ values finish, p.many.run cursor = .done values finish ∧
          values.length ≤ cursor.remaining.length) := by
  refine ⟨?_, fun _ _ => run_many_eq_done_iff.mpr, fun _ _ => run_many1_eq_failed_iff,
    run_many1_eq_run_many, ?_⟩
  · intro hreturns
    cases hrun : p.many.run cursor with
    | done values finish =>
        have hrepeats := run_many_eq_done_iff.mp hrun
        have hfails := hrepeats.failsAt_finish
        have hagain : p.many.run finish = .done [] finish :=
          run_many_eq_done_iff.mpr (.stop hfails)
        refine ⟨values, finish, hrepeats, rfl, ?_, ?_, ?_⟩
        · exact failsAt_pair_iff.mpr (.inr ⟨values, finish, hrun, hfails⟩)
        · exact failsAt_pair_iff.mpr
            (.inr ⟨values, finish, hrun, failsAt_many1_iff.mpr hfails⟩)
        · exact run_pair_eq_done_iff.mpr ⟨finish, hrun, hagain⟩
    | failed message rest => exact absurd hrun run_many_ne_failed
    | diverges => exact absurd hrun hreturns
  · intro hadvances hreturns
    obtain ⟨values, finish, hrepeats⟩ := hadvances.exists_repeats hreturns
    have hlength := hrepeats.length_le hadvances
    exact ⟨values, finish, run_many_eq_done_iff.mpr hrepeats, by omega⟩

private def letterPair : Parser Char (Char × Char) :=
  (exactly 'a').pair (exactly 'b')

/-- The `a` that the last attempt took is given back. -/
theorem repetition_of_pairs_is_maximal :
    letterPair.many.run (Cursor.ofString "abac") = .done [('a', 'b')] ⟨2, ['a', 'c']⟩ ∧
      Repeats letterPair (Cursor.ofString "abac") [('a', 'b')] ⟨2, ['a', 'c']⟩ ∧
      (letterPair.many.pair letterPair.many1).FailsAt (Cursor.ofString "abac") ∧
      letterPair.many1.run (Cursor.ofString "abac") = .done [('a', 'b')] ⟨2, ['a', 'c']⟩ ∧
      [('a', 'b')].length ≤ (Cursor.ofString "abac").remaining.length := by
  have hrun : letterPair.many.run (Cursor.ofString "abac") =
      .done [('a', 'b')] ⟨2, ['a', 'c']⟩ := by
    rfl
  have hfirst : letterPair.run (Cursor.ofString "abac") = .done ('a', 'b') ⟨2, ['a', 'c']⟩ := by
    rfl
  have hadvances : letterPair.Advances :=
    ((progresses_satisfy _ _).pair (forward_satisfy _ _)).advances
  have hreturns : letterPair.Returns := (returns_satisfy _ _).pair (returns_satisfy _ _)
  obtain ⟨hmany, -, -, hsame, hends⟩ := repetition_is_maximal letterPair (Cursor.ofString "abac")
  obtain ⟨_, _, hrepeats, hdone, -, hfails, -⟩ := hmany (by rw [hrun]; rintro ⟨⟩)
  obtain ⟨_, _, hdone', hlength⟩ := hends hadvances fun place _ => hreturns place
  rw [hrun] at hdone hdone'
  cases hdone
  cases hdone'
  exact ⟨hrun, hrepeats, hfails, (hsame (not_failsAt_of_done hfirst)).trans hrun, hlength⟩

end RangeCalc.Parser
