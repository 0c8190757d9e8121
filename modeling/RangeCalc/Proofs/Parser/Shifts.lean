import RangeCalc.Proofs.Parser.Construction
import RangeCalc.Proofs.Parser.Moves

/-! What stands in front of a place has no part in a run from there: the same elements ahead are
read in the same way behind any others. -/

namespace RangeCalc

def Move.behind {σ : Type} (count : Nat) : Move σ :=
  ⟨count, id⟩

theorem Stream.cursor_between_eq {σ : Type} (passed ahead : List σ) :
    (between passed ahead).cursor =
      (Move.behind passed.length).cursor (ofList ahead).cursor := by
  simp [Cursor.ofList, Move.behind, Move.cursor]

namespace Parser

variable {σ α : Type} {p : Parser σ α}

theorem Approached.follows {approximations : Nat → Parser σ α} {move : Move σ} {image : α → α}
    (hp : p.Approached approximations)
    (hall : ∀ depth, (approximations depth).Follows move image) : p.Follows move image := by
  intro cursor
  by_cases hends : ∃ depth, (approximations depth).run cursor ≠ .diverges
  · obtain ⟨depth, hends⟩ := hends
    have hcarried : (approximations depth).run (move.cursor cursor) ≠ .diverges := by
      rw [hall depth cursor]
      exact mt Move.outcome_eq_diverges_iff.mp hends
    rw [hp.settled depth _ hcarried, hp.settled depth cursor hends, hall depth cursor]
  · have hendless : ∀ depth, (approximations depth).run cursor = .diverges := by
      simpa using hends
    have hcarried : ∀ depth, (approximations depth).run (move.cursor cursor) = .diverges := by
      intro depth
      rw [hall depth cursor, hendless depth, Move.outcome_diverges]
    rw [hp.endless _ hcarried, hp.endless cursor hendless, Move.outcome_diverges]

private theorem follows_take_behind (wanted count : Nat) :
    (take wanted : Parser σ (List σ)).Follows (.behind count) id := by
  have htake : (take wanted : Parser σ (List σ)).Follows (.behind count) (List.map id) :=
    follows_take wanted
  rwa [List.map_id_fun] at htake

theorem Built.follows (h : p.Built .ahead) (count : Nat) : p.Follows (.behind count) id := by
  induction h with
  | succeed value => exact follows_succeed rfl
  | fail message => exact follows_fail message
  | diverge => exact follows_diverge
  | position hview => cases hview
  | satisfy accepts message => exact follows_satisfy (fun _ => rfl) fun _ => rfl
  | any => exact follows_satisfy (fun _ => rfl) fun _ => rfl
  | exactly expected => exact follows_satisfy (fun _ => rfl) fun _ => rfl
  | take wanted => exact follows_take_behind wanted count
  | exactlyList expected =>
      refine Follows.filter ?_ (fun _ => rfl) fun _ => rfl
      exact (follows_take_behind expected.length count).mapMessage _
  | endOfInput => exact follows_endOfInput
  | map _ f ih => exact ih.map fun _ => rfl
  | mapMessage _ f ih => exact ih.mapMessage f
  | label _ text htext ih =>
      refine ih.label fun cursor => htext rfl _ _ ?_
      rw [Move.remaining_cursor, Move.behind, List.map_id]
  | filter _ accepts message ih => exact ih.filter (fun _ => rfl) fun _ => rfl
  | bind _ _ ih ihNext => exact ih.bind (fun _ => rfl) ihNext
  | pair _ _ ih ihOther => simpa using ih.pair ihOther
  | keepRight _ _ ih ihOther => exact ih.keepRight ihOther
  | keepLeft _ _ ih ihOther => exact ih.keepLeft ihOther
  | orElse _ _ ih ihOther => exact ih.orElse ihOther
  | rewind _ ih => exact ih.rewind
  | optional _ ih => simpa using ih.optional
  | many _ ih => simpa using ih.many
  | many1 _ ih => simpa using ih.many1
  | choice _ ih => exact follows_choice ih
  | defer _ ih => exact ih
  | unrolled _ count rule ih => exact follows_rules ih count rule
  | approached hp _ ih => exact hp.follows ih

end Parser

end RangeCalc
