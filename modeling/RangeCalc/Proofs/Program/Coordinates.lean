import Mathlib.Data.List.Induction
import RangeCalc.Proofs.Program.Refusals
import RangeCalc.Proofs.Text.FullLines

/-! Where a text is refused: at a token or at its end. Line and column are another way to say how
many characters come before. -/

namespace RangeCalc

open RangeCalc.Text

/-- Line feeds count the lines, and what is behind the last of them counts the columns. -/
theorem SyntaxError.coordinates_eq (before : List Char) :
    coordinates before =
      (before.count '\n' + 1, (before.reverse.takeWhile (· ≠ '\n')).length + 1) := by
  induction before using List.reverseRecOn with
  | nil => rfl
  | append_singleton before c ih =>
      rw [coordinates, List.foldl_append]
      change List.foldl _ (coordinates before) [c] = _
      rw [ih, List.foldl_cons, List.foldl_nil, List.count_append, List.reverse_append,
        List.reverse_singleton, List.singleton_append, List.takeWhile_cons]
      by_cases hfeed : c = '\n'
      · subst hfeed
        rfl
      · simp [hfeed]

/-- Before a place there are the whole lines up to the last line feed, and then what its own line
has so far. -/
theorem Text.length_lines_add_length_behind (before rest : List Char) :
    ((fullLines (before ++ rest)).take (before.count '\n')).flatten.length +
      (before.reverse.takeWhile (· ≠ '\n')).length = before.length := by
  by_cases hfeed : '\n' ∈ before
  -- The last line feed is the first one from behind.
  · obtain ⟨behind, first, hsplit, hnone⟩ := List.eq_append_cons_of_mem (List.mem_reverse.mpr hfeed)
    have hbehind : (behind ++ '\n' :: first).takeWhile (· ≠ '\n') = behind := by
      have hkept : ∀ c ∈ behind, decide (c ≠ '\n') = true :=
        fun c hmem => decide_eq_true fun hc => hnone (hc ▸ hmem)
      rw [List.takeWhile_append_of_pos hkept, List.takeWhile_cons_of_neg (by simp),
        List.append_nil]
    obtain rfl : before = first.reverse ++ '\n' :: behind.reverse := by
      rw [← List.reverse_reverse before, hsplit]
      simp
    have hcount : (first.reverse ++ '\n' :: behind.reverse).count '\n' =
        (fullLines (first.reverse ++ ['\n'])).length := by
      rw [length_fullLines_feed, List.count_append, List.count_cons_self, List.count_reverse,
        List.count_reverse, List.count_eq_zero.mpr hnone]
    rw [hsplit, hbehind, List.append_assoc, List.cons_append, fullLines_append_feed, hcount,
      List.take_left, flatten_fullLines]
    simp only [List.length_append, List.length_cons, List.length_reverse, List.length_nil]
    omega
  · have hkept : before.reverse.takeWhile (· ≠ '\n') = before.reverse := by
      apply List.takeWhile_eq_self_iff.mpr
      intro c hmem
      exact decide_eq_true fun hc => hfeed (hc ▸ List.mem_reverse.mp hmem)
    rw [hkept, List.count_eq_zero.mpr hfeed]
    simp

namespace Program

variable {source : String} {error : SyntaxError}

/-- Where a token starts there is a character, and it is not white space. -/
theorem exists_getElem?_offset {token : Token} (hmem : token ∈ tokenize source) :
    ∃ c, source.toList[token.offset]? = some c ∧ isWhitespace c = false := by
  have hscans := Token.tokenize_eq_iff.mp (Eq.refl (tokenize source))
  obtain ⟨before, rest, hsource, hoffset, hlexeme⟩ := hscans.exists_lexeme hmem
  obtain ⟨c, others, hchars⟩ := List.exists_cons_of_ne_nil hlexeme.ne_nil
  refine ⟨c, ?_, hlexeme.isWhitespace_eq_false c (hchars ▸ List.mem_cons_self)⟩
  rw [hsource, hoffset, hchars, Nat.zero_add]
  simp

/-- The offset of a refusal is that of a token or the end of the text. Its line is one more than the
line feeds before that place, its column one more than the characters behind the last of them, and
so the lines before, with what is before that place on its own line, make up the offset. -/
theorem coordinates_of_refused (hrefused : parse source = .error error) :
    (error.offset = source.length ∨
        ∃ token ∈ tokenize source, token.offset = error.offset ∧
          ∃ c, source.toList[error.offset]? = some c ∧ isWhitespace c = false) ∧
      error.line = (source.toList.take error.offset).count '\n' + 1 ∧
      error.column =
        ((source.toList.take error.offset).reverse.takeWhile (· ≠ '\n')).length + 1 ∧
      ((fullLines source.toList).take (error.line - 1)).flatten.length + (error.column - 1) =
        error.offset := by
  obtain ⟨message, passed, rest, -, htokens, rfl⟩ := exists_passed_of_parse_eq_error hrefused
  generalize hoffset : offsetAt source rest = offset
  have hplace : offset = source.length ∨ ∃ token ∈ tokenize source, token.offset = offset ∧
      ∃ c, source.toList[offset]? = some c ∧ isWhitespace c = false := by
    subst hoffset
    rcases offsetAt_cases htokens with ⟨token, hmem, -, hplace⟩ | ⟨-, hplace, -⟩
    · rw [hplace]
      exact .inr ⟨token, hmem, rfl, exists_getElem?_offset hmem⟩
    · exact .inl hplace
  have hwithin : offset ≤ source.toList.length := by
    rcases hplace with hend | ⟨_, -, -, _, hchar, -⟩
    · rw [hend, String.length_toList]
    · exact Nat.le_of_lt (List.getElem?_eq_some_iff.mp hchar).1
  have hlocated : SyntaxError.located source message offset =
      ⟨message, offset, (source.toList.take offset).count '\n' + 1,
        ((source.toList.take offset).reverse.takeWhile (· ≠ '\n')).length + 1⟩ := by
    rw [SyntaxError.located, SyntaxError.coordinates_eq]
  have hsum := length_lines_add_length_behind (source.toList.take offset)
    (source.toList.drop offset)
  rw [List.take_append_drop, List.length_take_of_le hwithin] at hsum
  rw [hlocated]
  exact ⟨hplace, rfl, rfl, hsum⟩

theorem coordinates_of_second_line :
    parse "(é\n  2)" = .error ⟨"expected ')', got '2'", 5, 2, 3⟩ ∧
      ((fullLines "(é\n  2)".toList).take (2 - 1)).flatten.length + (3 - 1) = 5 := by
  have hrefused : parse "(é\n  2)" = .error ⟨"expected ')', got '2'", 5, 2, 3⟩ := by
    decide +kernel
  exact ⟨hrefused, (coordinates_of_refused hrefused).2.2.2⟩

end Program

end RangeCalc
