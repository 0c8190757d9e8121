import Mathlib.Order.Bounds.Defs
import RangeCalc.Parser.Chars
import RangeCalc.Proofs.Parser.Failures

/-! What a choice comes to: the first success among its alternatives, or a report on those of their
failures that got furthest. -/

namespace RangeCalc

/-- `kept` has each of the texts once, in the order in which they first occur. -/
structure FirstOccurrences (texts kept : List String) : Prop where
  mem_iff : ∀ text, text ∈ kept ↔ text ∈ texts
  ordered : kept.Pairwise fun earlier later => texts.idxOf earlier < texts.idxOf later

namespace Failure

variable {σ : Type} {failures : List (Failure σ)}

/-- The report has the furthest place that a failure reached, and the messages of all failures that
reached it. -/
structure Reports (failures : List (Failure σ)) (report : Failure σ) : Prop where
  furthest : IsGreatest {place | ∃ failure ∈ failures, failure.rest.position = place}
    report.rest.position
  message : ∃ kept, report.message = String.intercalate " or " kept ∧
    FirstOccurrences
      ((failures.filter (·.rest.position = report.rest.position)).map (·.message)) kept

theorem firstOccurrences_distinct (texts : List String) :
    FirstOccurrences texts (distinct texts) := by
  induction texts with
  | nil => exact ⟨fun _ => Iff.rfl, .nil⟩
  | cons first later ih =>
      have hkept : ∀ text ∈ (distinct later).filter (· ≠ first), first ≠ text := by
        intro text htext
        exact (of_decide_eq_true (List.mem_filter.mp htext).2).symm
      constructor
      · intro text
        rw [distinct, List.mem_cons, List.mem_cons, List.mem_filter, ih.mem_iff]
        by_cases hsame : text = first <;> simp [hsame]
      · rw [distinct]
        refine .cons ?_ ((ih.ordered.filter _).imp_of_mem ?_)
        · intro text htext
          rw [List.idxOf_cons_self, List.idxOf_cons_ne _ (hkept text htext)]
          exact Nat.succ_pos _
        · intro earlier other hearlier hother hbefore
          rw [List.idxOf_cons_ne _ (hkept _ hearlier), List.idxOf_cons_ne _ (hkept _ hother)]
          exact Nat.succ_lt_succ hbefore

theorem exists_mem_furthest (hsome : failures ≠ []) :
    ∃ failure ∈ failures, failure.rest.position = furthest failures := by
  by_contra hnone
  have hless : ∀ failure ∈ failures, failure.rest.position < furthest failures := by
    intro failure hmem
    exact Nat.lt_of_le_of_ne (le_furthest hmem) fun hplace => hnone ⟨failure, hmem, hplace⟩
  have hfurthest : furthest failures ≤ furthest failures - 1 :=
    furthest_le_iff.mpr fun failure hmem => Nat.le_sub_one_of_lt (hless failure hmem)
  obtain ⟨failure, hmem⟩ := List.exists_mem_of_ne_nil failures hsome
  have hfirst := hless failure hmem
  omega

theorem reports_merge (start : Cursor σ) (hsome : failures ≠ []) :
    Reports failures (merge start failures) := by
  cases hfilter : failures.filter (·.rest.position = furthest failures) with
  | nil =>
      obtain ⟨failure, hmem, hplace⟩ := exists_mem_furthest hsome
      exact absurd (decide_eq_true hplace) (List.filter_eq_nil_iff.mp hfilter failure hmem)
  | cons first others =>
      have hmem : first ∈ failures.filter (·.rest.position = furthest failures) :=
        hfilter ▸ List.mem_cons_self
      have hfirst : first ∈ failures ∧ first.rest.position = furthest failures := by
        simpa using hmem
      have hmerge : merge start failures =
          ⟨String.intercalate " or " (distinct ((first :: others).map (·.message))),
            first.rest⟩ := by
        simp only [merge, hfilter]
      rw [hmerge]
      constructor
      · refine ⟨⟨first, hfirst.1, rfl⟩, ?_⟩
        rintro _ ⟨failure, hfailure, rfl⟩
        exact hfirst.2 ▸ le_furthest hfailure
      · refine ⟨distinct ((first :: others).map (·.message)), rfl, ?_⟩
        simp only [hfirst.2, hfilter]
        exact firstOccurrences_distinct _

end Failure

namespace Parser

variable {σ α : Type} {alternatives : List (Parser σ α)} {cursor : Cursor σ}

def SucceedsAt (p : Parser σ α) (cursor : Cursor σ) : Prop :=
  ∃ value rest, p.run cursor = .done value rest

theorem exists_first_success (hreturns : ∀ p ∈ alternatives, p.run cursor ≠ .diverges)
    (hsome : ∃ p ∈ alternatives, p.SucceedsAt cursor) :
    ∃ before p after, alternatives = before ++ p :: after ∧
      (∀ q ∈ before, q.FailsAt cursor) ∧ p.SucceedsAt cursor := by
  induction alternatives with
  | nil => simp at hsome
  | cons p alternatives ih =>
      obtain ⟨hp, hlater⟩ := List.forall_mem_cons.mp hreturns
      cases hrun : p.run cursor with
      | done value rest => exact ⟨[], p, alternatives, rfl, by simp, value, rest, hrun⟩
      | failed message rest =>
          have hfails : p.FailsAt cursor := ⟨message, rest, hrun⟩
          obtain ⟨q, hq, hsucceeds⟩ := hsome
          have hothers : ∃ q ∈ alternatives, q.SucceedsAt cursor := by
            rcases List.mem_cons.mp hq with rfl | hq
            · obtain ⟨_, _, hdone⟩ := hsucceeds
              exact absurd hfails (not_failsAt_of_done hdone)
            · exact ⟨q, hq, hsucceeds⟩
          obtain ⟨before, q, after, rfl, hbefore, hq⟩ := ih hlater hothers
          exact ⟨p :: before, q, after, rfl, List.forall_mem_cons.mpr ⟨hfails, hbefore⟩, hq⟩
      | diverges => exact absurd hrun hp

theorem exists_failWith (hfail : ∀ p ∈ alternatives, p.FailsAt cursor) :
    ∃ failures, FailWith cursor alternatives failures := by
  induction alternatives with
  | nil => exact ⟨[], .nil⟩
  | cons p alternatives ih =>
      obtain ⟨⟨message, rest, hrun⟩, hlater⟩ := List.forall_mem_cons.mp hfail
      obtain ⟨failures, hfailures⟩ := ih hlater
      exact ⟨⟨message, rest⟩ :: failures, .cons hrun hfailures⟩

/-- Where all alternatives return, the choice does what the first does that succeeds. If none does,
it reports on their failures. -/
theorem choice_is_first_or_furthest
    (hreturns : ∀ p ∈ alternatives, p.run cursor ≠ .diverges) :
    ((∃ p ∈ alternatives, p.SucceedsAt cursor) →
      ∃ before p after, alternatives = before ++ p :: after ∧
        (∀ q ∈ before, q.FailsAt cursor) ∧ p.SucceedsAt cursor ∧
        (choice alternatives).run cursor = p.run cursor) ∧
      ((¬ ∃ p ∈ alternatives, p.SucceedsAt cursor) →
        ∃ failures report, FailWith cursor alternatives failures ∧
          (choice alternatives).run cursor = .failed report.message report.rest ∧
          (alternatives ≠ [] → Failure.Reports failures report) ∧
          (alternatives = [] → report = ⟨"no alternatives to choose from", cursor⟩)) := by
  constructor
  · intro hsome
    obtain ⟨before, p, after, rfl, hbefore, hp⟩ := exists_first_success hreturns hsome
    obtain ⟨value, rest, hrun⟩ := hp
    refine ⟨before, p, after, rfl, hbefore, ⟨value, rest, hrun⟩, ?_⟩
    rw [hrun]
    exact run_choice_append_eq_done (fun q hq => .inr (hbefore q hq)) hrun
  · intro hnone
    have hfail : ∀ p ∈ alternatives, p.FailsAt cursor := by
      intro p hp
      cases hrun : p.run cursor with
      | done value rest => exact absurd ⟨p, hp, value, rest, hrun⟩ hnone
      | failed message rest => exact ⟨message, rest, hrun⟩
      | diverges => exact absurd hrun (hreturns p hp)
    obtain ⟨failures, hfailures⟩ := exists_failWith hfail
    have hrun : (choice alternatives).run cursor = _ := choiceFrom_eq_merge hfailures
    refine ⟨failures, Failure.merge cursor failures, hfailures, hrun, ?_, ?_⟩
    · intro hsome
      apply Failure.reports_merge
      rintro rfl
      cases hfailures
      exact hsome rfl
    · rintro rfl
      cases hfailures
      rfl

/-- A choice among nothing has a message of its own. No failure has given it. -/
theorem choice_of_nothing_reports_nothing :
    (choice ([] : List (Parser Char Char))).run (Cursor.ofString "x") =
        .failed "no alternatives to choose from" (Cursor.ofString "x") ∧
      ¬ ∃ failures kept,
        FailWith (Cursor.ofString "x") ([] : List (Parser Char Char)) failures ∧
        FirstOccurrences ((failures.filter (·.rest.position = 0)).map (·.message)) kept ∧
        "no alternatives to choose from" = String.intercalate " or " kept := by
  refine ⟨rfl, ?_⟩
  rintro ⟨failures, kept, hfailures, hkept, hmessage⟩
  cases hfailures
  obtain rfl : kept = [] := by
    apply List.eq_nil_iff_forall_not_mem.mpr
    intro text htext
    exact List.not_mem_nil ((hkept.mem_iff text).mp htext)
  revert hmessage
  decide

private def fourPairs : List (Parser Char Char) :=
  [char 'a', (char 'x').keepRight (char 'y'), (char 'x').keepLeft (char 'y'),
    (char 'x').keepRight (char 'w')]

/-- Of the failures before `z` two say the same. Before `w` only the last alternative succeeds. -/
theorem choice_of_pairs_is_first_or_furthest :
    (∃ failures, FailWith (Cursor.ofString "xz") fourPairs failures ∧
      (choice fourPairs).run (Cursor.ofString "xz") =
        .failed "expected 'y', got 'z' or expected 'w', got 'z'" ⟨1, ['z']⟩ ∧
      Failure.Reports failures
        ⟨"expected 'y', got 'z' or expected 'w', got 'z'", ⟨1, ['z']⟩⟩) ∧
    ∃ before p after, fourPairs = before ++ p :: after ∧
      (∀ q ∈ before, q.FailsAt (Cursor.ofString "xw")) ∧
      p.run (Cursor.ofString "xw") = .done 'w' ⟨2, []⟩ ∧
      (choice fourPairs).run (Cursor.ofString "xw") = .done 'w' ⟨2, []⟩ := by
  have hreturns : ∀ p ∈ fourPairs, p.Returns := by
    have hchar : ∀ c, (char c).Returns := fun c => returns_satisfy _ _
    simp [fourPairs, hchar, Returns.keepRight, Returns.keepLeft]
  have hfailed : (choice fourPairs).run (Cursor.ofString "xz") =
      .failed "expected 'y', got 'z' or expected 'w', got 'z'" ⟨1, ['z']⟩ := by
    rfl
  have hdone : (choice fourPairs).run (Cursor.ofString "xw") = .done 'w' ⟨2, []⟩ := by
    rfl
  constructor
  · obtain ⟨-, hreport⟩ := choice_is_first_or_furthest fun p hp => hreturns p hp (.ofString "xz")
    obtain ⟨failures, report, hfailures, hrun, hreports, -⟩ := hreport (by
      rintro ⟨p, hp, value, rest, hrun⟩
      have hall := failsAt_choice_iff.mp ⟨_, _, hfailed⟩
      exact not_failsAt_of_done hrun (hall p hp))
    obtain ⟨hmessage, hrest⟩ := Outcome.failed.inj (hfailed.symm.trans hrun)
    refine ⟨failures, hfailures, hfailed, ?_⟩
    rw [hmessage, hrest]
    exact hreports (List.cons_ne_nil _ _)
  · obtain ⟨hfirst, -⟩ := choice_is_first_or_furthest fun p hp => hreturns p hp (.ofString "xw")
    obtain ⟨before, p, after, hsplit, hbefore, -, hrun⟩ :=
      hfirst ⟨(char 'x').keepRight (char 'w'), by simp [fourPairs], 'w', ⟨2, []⟩, rfl⟩
    exact ⟨before, p, after, hsplit, hbefore, hrun.symm.trans hdone, hdone⟩

end Parser

end RangeCalc
