import RangeCalc.Parser.Chars
import RangeCalc.Proofs.Parser.Runs

/-! What the parsers of text take: runs of characters of one class, and literal texts. -/

namespace RangeCalc

theorem Parser.any_head?_dropWhile {α : Type} {accepts : α → Bool} (items : List α) :
    (items.dropWhile accepts).head?.any accepts = false := by
  have hrefused := List.head?_dropWhile_not accepts items
  cases hhead : (items.dropWhile accepts).head? with
  | none => rfl
  | some item => simpa [hhead] using hrefused

namespace Cursor

variable {σ : Type}

def skipWhile (accepts : σ → Bool) (cursor : Cursor σ) : Cursor σ :=
  cursor.advance (cursor.remaining.takeWhile accepts).length

variable {accepts : σ → Bool} {item : σ} {items : List σ} {position : Nat}

@[simp] theorem remaining_skipWhile (cursor : Cursor σ) :
    (cursor.skipWhile accepts).remaining = cursor.remaining.dropWhile accepts := by
  rw [skipWhile, remaining_advance]
  conv => lhs; rw [← List.takeWhile_append_dropWhile (p := accepts) (l := cursor.remaining)]
  rw [List.drop_left' (by simp)]

theorem position_add_length_skipWhile (cursor : Cursor σ) (accepts : σ → Bool) :
    (cursor.skipWhile accepts).position + (cursor.skipWhile accepts).remaining.length =
      cursor.position + cursor.remaining.length := by
  have hlength := (List.takeWhile_prefix accepts (l := cursor.remaining)).length_le
  rw [skipWhile, position_advance, remaining_advance, List.length_drop]
  omega

theorem skipWhile_cons_of_pos (haccepts : accepts item = true) :
    (Cursor.mk position (item :: items)).skipWhile accepts =
      (Cursor.mk (position + 1) items).skipWhile accepts := by
  simp only [skipWhile, List.takeWhile_cons_of_pos haccepts, List.length_cons]
  rw [Nat.add_comm, ← advance_advance]
  rfl

theorem skipWhile_of_peek {cursor : Cursor σ} (hpeek : cursor.peek.any accepts = false) :
    cursor.skipWhile accepts = cursor := by
  obtain ⟨position, items⟩ := cursor
  cases items with
  | nil => rfl
  | cons item items =>
      have hrefused : accepts item = false := hpeek
      simp [skipWhile, hrefused]

theorem any_peek_skipWhile (cursor : Cursor σ) :
    (cursor.skipWhile accepts).peek.any accepts = false := by
  rw [peek, remaining_skipWhile]
  exact Parser.any_head?_dropWhile cursor.remaining

@[simp] theorem skipWhile_skipWhile (cursor : Cursor σ) :
    (cursor.skipWhile accepts).skipWhile accepts = cursor.skipWhile accepts :=
  skipWhile_of_peek (any_peek_skipWhile cursor)

end Cursor

namespace Parser

section Runs

variable {σ : Type} {accepts : σ → Bool} {message : σ → String}

private theorem repeats_satisfy (position : Nat) (items : List σ) :
    Repeats (satisfy accepts message) ⟨position, items⟩ (items.takeWhile accepts)
      ((Cursor.mk position items).skipWhile accepts) := by
  induction items generalizing position with
  | nil => exact .stop (failsAt_satisfy_iff.mpr rfl)
  | cons item items ih =>
      by_cases haccepts : accepts item = true
      · rw [Cursor.skipWhile_cons_of_pos haccepts, List.takeWhile_cons_of_pos haccepts]
        exact .step (run_satisfy_eq_done_iff.mpr ⟨rfl, haccepts⟩) (ih (position + 1))
      · have hrefused : (Cursor.mk position (item :: items)).peek.any accepts = false :=
          Bool.eq_false_iff.mpr haccepts
        rw [Cursor.skipWhile_of_peek hrefused, List.takeWhile_cons_of_neg haccepts]
        exact .stop (failsAt_satisfy_iff.mpr hrefused)

theorem run_many_satisfy (cursor : Cursor σ) :
    (satisfy accepts message).many.run cursor =
      .done (cursor.remaining.takeWhile accepts) (cursor.skipWhile accepts) :=
  run_many_eq_done_iff.mpr (repeats_satisfy _ _)

theorem run_many_satisfy_append {items rest : List σ} (position : Nat)
    (hitems : ∀ item ∈ items, accepts item = true)
    (hrest : rest.head?.any accepts = false) :
    (satisfy accepts message).many.run ⟨position, items ++ rest⟩ =
      .done items ⟨position + items.length, rest⟩ := by
  apply run_many_eq_done_iff.mpr
  induction items generalizing position with
  | nil => exact .stop (failsAt_satisfy_iff.mpr hrest)
  | cons item items ih =>
      obtain ⟨hitem, hlater⟩ := List.forall_mem_cons.mp hitems
      have hrepeats := ih (position + 1) hlater
      rw [Nat.add_right_comm, Nat.add_assoc] at hrepeats
      exact .step (run_satisfy_eq_done_iff.mpr ⟨rfl, hitem⟩) hrepeats

end Runs

section Texts

variable {start stop : Cursor Char}

theorem run_whitespace (start : Cursor Char) :
    whitespace.run start = .done () (start.skipWhile Text.isWhitespace) := by
  rw [whitespace, run_map, run_many_satisfy]
  rfl

theorem run_char_eq_done_iff {c found : Char} :
    (char c).run start = .done found stop ↔ start.next = some (found, stop) ∧ found = c := by
  rw [char, run_satisfy_eq_done_iff, beq_iff_eq]

private theorem run_foldl_char_eq_done_iff {matched : Parser Char Unit} {wanted : List Char} :
    (wanted.foldl (fun matched c => matched.keepLeft (char c)) matched).run start =
        .done () stop ↔
      ∃ middle, matched.run start = .done () middle ∧ wanted <+: middle.remaining ∧
        stop = middle.advance wanted.length := by
  induction wanted generalizing matched with
  | nil => simp
  | cons c wanted ih =>
      simp only [List.foldl_cons, ih, run_keepLeft_eq_done_iff, run_char_eq_done_iff]
      constructor
      · intro hrun
        obtain ⟨rest, ⟨found, middle, hmatched, hnext, rfl⟩, ⟨later, hlater⟩, rfl⟩ := hrun
        obtain ⟨position, items⟩ := middle
        cases items with
        | nil => contradiction
        | cons item items =>
            cases hnext
            refine ⟨_, hmatched, ⟨later, by simpa using hlater⟩, ?_⟩
            simp [Cursor.advance]
            omega
      · intro hparts
        obtain ⟨⟨position, items⟩, hmatched, ⟨later, rfl⟩, rfl⟩ := hparts
        refine ⟨⟨position + 1, wanted ++ later⟩, ⟨c, _, hmatched, rfl, rfl⟩, ⟨later, rfl⟩, ?_⟩
        simp [Cursor.advance]
        omega

theorem run_text_eq_done_iff {wanted value : String} :
    (text wanted).run start = .done value stop ↔
      wanted.toList <+: start.remaining ∧ value = wanted ∧
        stop = start.advance wanted.toList.length := by
  have hchars : (chars wanted.toList).run start = .done () stop ↔
      wanted.toList <+: start.remaining ∧ stop = start.advance wanted.toList.length := by
    rw [chars, run_foldl_char_eq_done_iff]
    simp
  simp only [text, rewind, run_map]
  cases hrun : (chars wanted.toList).run start with
  | done found rest => grind [Outcome.map_done]
  | failed message rest => grind [Outcome.map_failed]
  | diverges => grind [Outcome.map_diverges]

theorem returns_text (wanted : String) : (text wanted).Returns := by
  have hchars : (chars wanted.toList).Returns :=
    List.foldlRecOn _ _ (returns_succeed ()) fun _ hmatched _ _ =>
      hmatched.keepLeft (returns_satisfy _ _)
  intro start hrun
  simp only [text, rewind] at hrun
  split at hrun
  · contradiction
  · exact hchars.map _ start hrun

theorem failsAt_text {wanted : String} (habsent : ¬ wanted.toList <+: start.remaining) :
    (text wanted).FailsAt start := by
  rcases (returns_text wanted).done_or_failsAt start with ⟨value, stop, hrun⟩ | hfails
  · exact absurd (run_text_eq_done_iff.mp hrun).1 habsent
  · exact hfails

end Texts

end Parser

end RangeCalc
