import RangeCalc.Proofs.Parser.Runs

/-! What alternatives report when all of them fail. -/

namespace RangeCalc

namespace Failure

variable {σ : Type}

theorem mem_of_mem_distinct {message : String} {messages : List String}
    (h : message ∈ distinct messages) : message ∈ messages := by
  induction messages with
  | nil => exact h
  | cons first later ih =>
      simp only [distinct, List.mem_cons, List.mem_filter] at h ⊢
      exact h.imp id fun hlater => ih hlater.1

theorem distinct_replicate (count : Nat) (message : String) :
    distinct (List.replicate (count + 1) message) = [message] := by
  rw [List.replicate_succ, distinct]
  congr 1
  apply List.filter_eq_nil_iff.mpr
  intro other hother
  simpa using List.eq_of_mem_replicate (mem_of_mem_distinct hother)

theorem furthest_le_iff {failures : List (Failure σ)} {place : Nat} :
    furthest failures ≤ place ↔ ∀ failure ∈ failures, failure.rest.position ≤ place := by
  have hfold : ∀ (positions : List Nat) reached,
      positions.foldl max reached ≤ place ↔
        reached ≤ place ∧ ∀ other ∈ positions, other ≤ place := by
    intro positions
    induction positions with
    | nil => simp
    | cons other positions ih =>
        intro reached
        rw [List.foldl_cons, ih, Nat.max_le, List.forall_mem_cons, and_assoc]
  rw [furthest, hfold, List.forall_mem_map]
  exact and_iff_right (Nat.zero_le place)

theorem le_furthest {failures : List (Failure σ)} {failure : Failure σ}
    (hmem : failure ∈ failures) : failure.rest.position ≤ furthest failures :=
  furthest_le_iff.mp (Nat.le_refl _) failure hmem

theorem furthest_replicate (count : Nat) (failure : Failure σ) :
    furthest (List.replicate (count + 1) failure) = failure.rest.position := by
  apply Nat.le_antisymm
  · apply furthest_le_iff.mpr
    intro other hother
    obtain rfl := List.eq_of_mem_replicate hother
    exact Nat.le_refl _
  · exact le_furthest (List.mem_replicate.mpr ⟨Nat.succ_ne_zero count, rfl⟩)

theorem merge_replicate (start : Cursor σ) (count : Nat) (failure : Failure σ) :
    merge start (List.replicate (count + 1) failure) = failure := by
  have hfilter : (List.replicate (count + 1) failure).filter
      (fun other => other.rest.position = failure.rest.position) =
        List.replicate (count + 1) failure := by
    simp
  simp only [merge, furthest_replicate, hfilter]
  rw [List.replicate_succ]
  simp only [← List.replicate_succ, List.map_replicate, distinct_replicate]
  rfl

end Failure

namespace Parser

variable {σ α : Type} {alternatives : List (Parser σ α)} {cursor rest : Cursor σ}
  {message : String}

private theorem choiceFrom_replicate
    (hall : ∀ p ∈ alternatives, p.run cursor = .failed message rest) {count : Nat}
    (hsome : count + alternatives.length ≠ 0) :
    choiceFrom cursor (List.replicate count ⟨message, rest⟩) alternatives =
      .failed message rest := by
  induction alternatives generalizing count with
  | nil =>
      obtain ⟨count, rfl⟩ := Nat.exists_eq_succ_of_ne_zero hsome
      simp only [choiceFrom, List.reverse_replicate, Failure.merge_replicate]
  | cons p alternatives ih =>
      obtain ⟨hp, hlater⟩ := List.forall_mem_cons.mp hall
      simp only [choiceFrom, hp]
      rw [← List.replicate_succ]
      exact ih hlater (by omega)

theorem run_choice_eq_failed (hsome : alternatives ≠ [])
    (hall : ∀ p ∈ alternatives, p.run cursor = .failed message rest) :
    (choice alternatives).run cursor = .failed message rest := by
  have hlength : 0 + alternatives.length ≠ 0 := by simpa using hsome
  exact choiceFrom_replicate hall hlength

end Parser

end RangeCalc
