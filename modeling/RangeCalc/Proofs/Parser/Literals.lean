import RangeCalc.Proofs.Parser.Chars
import RangeCalc.Proofs.Parser.Failures

/-! Two ways to ask for a text: one character after another, or as many elements as it has at once.
They take the same, but their failures are at different places. -/

namespace RangeCalc.Parser

variable {σ α : Type}

theorem FailsAt.failsHere_of_rewind {p : Parser σ α} {cursor : Cursor σ}
    (hfails : p.rewind.FailsAt cursor) : p.rewind.FailsHere cursor := by
  obtain ⟨message, rest, hrun⟩ := hfails
  simp only [rewind] at hrun
  cases hp : p.run cursor with
  | done value stop => simp [hp] at hrun
  | failed reason stop => exact ⟨reason, by simp [rewind, hp]⟩
  | diverges => simp [hp] at hrun

theorem run_exactlyList [DecidableEq σ] [Quoted σ] (expected : List σ) (cursor : Cursor σ) :
    (exactlyList expected).run cursor =
      if cursor.remaining.length < expected.length then
        .failed ("expected " ++ quoteList expected ++ ", but input ended prematurely") cursor
      else if expected <+: cursor.remaining then
        .done expected (cursor.advance expected.length)
      else
        .failed ("expected " ++ quoteList expected ++ ", got " ++
          quoteList (cursor.remaining.take expected.length)) (cursor.advance expected.length) := by
  simp only [exactlyList, filter, mapMessage, run_take, decide_eq_true_eq,
    List.prefix_iff_eq_take]
  by_cases hshort : cursor.remaining.length < expected.length
  · simp only [if_pos hshort]
  · simp only [if_neg hshort]
    by_cases hahead : expected = cursor.remaining.take expected.length
    · rw [if_pos hahead, if_pos hahead.symm, ← hahead]
    · rw [if_neg hahead, if_neg (Ne.symm hahead)]

/-- Both take the text where it is ahead, and nothing elsewhere. The one then fails where it began.
The other does so only where too few elements are left, and else behind the elements compared. -/
theorem literal_texts_agree (wanted : String) (start : Cursor Char) :
    (wanted.toList <+: start.remaining →
        (text wanted).run start = .done wanted (start.advance wanted.length) ∧
          (exactlyList wanted.toList).run start =
            .done wanted.toList (start.advance wanted.length)) ∧
      (¬ wanted.toList <+: start.remaining →
        (text wanted).FailsHere start ∧
          ∃ message, (exactlyList wanted.toList).run start = .failed message
            (if start.remaining.length < wanted.length then start
              else start.advance wanted.length)) := by
  rw [← String.length_toList]
  constructor
  · intro hahead
    refine ⟨run_text_eq_done_iff.mpr ⟨hahead, rfl, rfl⟩, ?_⟩
    rw [run_exactlyList, if_neg (Nat.not_lt.mpr hahead.length_le), if_pos hahead]
  · intro habsent
    refine ⟨(failsAt_text habsent).failsHere_of_rewind, ?_⟩
    rw [run_exactlyList, if_neg habsent]
    split
    · exact ⟨_, rfl⟩
    · exact ⟨_, rfl⟩

/-- `lets` begins with the text, `lex` is as long as it, and `le` is too short. -/
theorem literal_texts_agree_let :
    ((text "let").run (Cursor.ofString "lets") = .done "let" ⟨3, ['s']⟩ ∧
        (exactlyList ['l', 'e', 't']).run (Cursor.ofString "lets") =
          .done ['l', 'e', 't'] ⟨3, ['s']⟩) ∧
      ((text "let").FailsHere (Cursor.ofString "lex") ∧
        ∃ message, (exactlyList ['l', 'e', 't']).run (Cursor.ofString "lex") =
          .failed message ⟨3, []⟩) ∧
      (text "let").FailsHere (Cursor.ofString "le") ∧
        ∃ message, (exactlyList ['l', 'e', 't']).run (Cursor.ofString "le") =
          .failed message (Cursor.ofString "le") := by
  obtain ⟨hlets, -⟩ := literal_texts_agree "let" (Cursor.ofString "lets")
  obtain ⟨-, hlex⟩ := literal_texts_agree "let" (Cursor.ofString "lex")
  obtain ⟨-, hle⟩ := literal_texts_agree "let" (Cursor.ofString "le")
  exact ⟨hlets (by decide), hlex (by decide), hle (by decide)⟩

end RangeCalc.Parser
