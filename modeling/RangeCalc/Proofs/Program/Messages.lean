import RangeCalc.Proofs.Expr.Tokens
import RangeCalc.Proofs.Grammar.Explanations
import RangeCalc.Proofs.Program.Refusals
import RangeCalc.Proofs.Text.Words

/-! The message of a refusal is of one failure, and it is about the place of the refusal. -/

namespace RangeCalc

open RangeCalc.Grammar
open RangeCalc.Text

/-- What parsers say that know nothing of the grammar. -/
inductive InternalMessage : String → Prop where
  | silent : InternalMessage ""
  | ended (more : String) : InternalMessage (Parser.endOfInputMessage ++ more)
  | endedEarly (wanted : String) :
      InternalMessage ("expected " ++ wanted ++ ", but input ended prematurely")
  | further (count : Nat) :
      InternalMessage ("expected end of input, " ++ toString count ++ " more element(s) remain")
  | untried : InternalMessage "no alternatives to choose from"

/-- What a single alternative can say when it fails. -/
inductive Remark : String → Prop where
  | internal {message : String} (hinternal : InternalMessage message) : Remark message
  | missing (what got : String) : Remark ("expected " ++ what ++ ", got " ++ got)
  | violation (violation : Violation) : Remark violation.message

/-! Messages are told apart by their words. -/

def internalWords : List String :=
  ["", "unexpected", "prematurely", "element(s)", "alternatives"]

def violationWords : List String :=
  ["literal", "range:", "nested"]

theorem InternalMessage.exists_word {message : String} (h : InternalMessage message) :
    ∃ word ∈ internalWords, word ∈ words message := by
  cases h with
  | silent => exact ⟨"", by decide, by decide⟩
  | ended more =>
      have htext : Parser.endOfInputMessage ++ more =
          "unexpected" ++ " " ++ ("end of input" ++ more) := by
        apply String.toList_inj.mp
        simp [Parser.endOfInputMessage]
      rw [htext]
      exact ⟨"unexpected", by decide, mem_words_spaced.mpr (.inl (by decide))⟩
  | endedEarly wanted =>
      have htext : "expected " ++ wanted ++ ", but input ended prematurely" =
          "expected " ++ wanted ++ "," ++ " " ++ "but input ended prematurely" := by
        apply String.toList_inj.mp
        simp
      rw [htext]
      exact ⟨"prematurely", by decide, mem_words_spaced.mpr (.inr (by decide))⟩
  | further count =>
      have htext : "expected end of input, " ++ toString count ++ " more element(s) remain" =
          "expected end of input, " ++ toString count ++ " " ++ "more element(s) remain" := by
        apply String.toList_inj.mp
        simp
      rw [htext]
      exact ⟨"element(s)", by decide, mem_words_spaced.mpr (.inr (by decide))⟩
  | untried => exact ⟨"alternatives", by decide, by decide⟩

/-- Written with digits and minus signs. -/
def isFigures (text : String) : Bool :=
  !text.isEmpty && text.toList.all fun c => c == '-' || isDigit c

theorem isFigures_of_isNumeral {text : String} (hnumeral : Token.isNumeral text = true) :
    isFigures text = true := by
  simp only [Token.isNumeral, Bool.and_eq_true, List.all_eq_true] at hnumeral
  simp only [isFigures, Bool.and_eq_true, List.all_eq_true]
  exact ⟨hnumeral.1, fun c hmem => by simp [hnumeral.2 c hmem]⟩

theorem isFigures_digits (n : Int64) : isFigures (Integer.digits n) = true := by
  by_cases hnegative : n.toInt < 0
  · have hdigits := isFigures_of_isNumeral (Token.isNumeral_repr (-n.toInt).toNat)
    simp only [isFigures, Bool.and_eq_true, List.all_eq_true] at hdigits
    rw [Integer.digits_of_neg hnegative]
    simpa [isFigures] using hdigits.2
  · rw [Integer.digits_of_nonneg (Int.not_lt.mp hnegative)]
    exact isFigures_of_isNumeral (Token.isNumeral_repr _)

theorem lacks_of_isFigures {text : String} (hfigures : isFigures text = true) :
    Lacks ("or" :: internalWords) text := by
  have hwords : ∀ word ∈ "or" :: internalWords, isFigures word = false := by decide
  apply lacks_of_notMem
  · intro hblank
    simp only [isFigures, Bool.and_eq_true, List.all_eq_true] at hfigures
    exact absurd (hfigures.2 ' ' hblank) (by decide)
  · intro hmem
    rw [hwords text hmem] at hfigures
    contradiction

namespace Grammar.Violation

theorem message_literalTooLarge (numeral : String) :
    (literalTooLarge numeral).message =
      "integer literal" ++ " " ++ numeral ++ " " ++ "does not fit in 64 bits" := by
  have hmessage : (literalTooLarge numeral).message =
      "integer literal " ++ numeral ++ " does not fit in 64 bits" :=
    rfl
  apply String.toList_inj.mp
  simp [hmessage]

theorem message_emptyRange (lower upper : Int64) :
    (emptyRange lower upper).message =
      "empty input range: no integer lies between" ++ " " ++ Integer.digits lower ++ " " ++ "and" ++
        " " ++ Integer.digits upper := by
  have hmessage : (emptyRange lower upper).message =
      "empty input range: no integer lies between " ++ Integer.digits lower ++ " and " ++
        Integer.digits upper :=
    rfl
  apply String.toList_inj.mp
  simp [hmessage]

theorem message_unboundedRange (lower upper : Int64) :
    (unboundedRange lower upper).message =
      "empty input range: open bounds" ++ " " ++ Integer.digits lower ++ " " ++ "and" ++ " " ++
        Integer.digits upper ++ " " ++ "leave the 64-bit range" := by
  have hmessage : (unboundedRange lower upper).message =
      "empty input range: open bounds " ++ Integer.digits lower ++ " and " ++
        Integer.digits upper ++ " leave the 64-bit range" :=
    rfl
  apply String.toList_inj.mp
  simp [hmessage]

theorem exists_word (violation : Violation) :
    ∃ word ∈ violationWords, word ∈ words violation.message := by
  cases violation with
  | literalTooLarge numeral =>
      refine ⟨"literal", by decide, ?_⟩
      rw [message_literalTooLarge]
      simp only [mem_words_spaced]
      exact .inl (.inl (by decide))
  | emptyRange lower upper =>
      refine ⟨"range:", by decide, ?_⟩
      rw [message_emptyRange]
      simp only [mem_words_spaced]
      exact .inl (.inl (.inl (by decide)))
  | unboundedRange lower upper =>
      refine ⟨"range:", by decide, ?_⟩
      rw [message_unboundedRange]
      simp only [mem_words_spaced]
      exact .inl (.inl (.inl (.inl (by decide))))
  | nestedTooDeeply => exact ⟨"nested", by decide, by decide⟩

private theorem lacks_between {before : String} (hbefore : Lacks ("or" :: internalWords) before)
    (lower upper : Int64) :
    Lacks ("or" :: internalWords)
      (before ++ " " ++ Integer.digits lower ++ " " ++ "and" ++ " " ++ Integer.digits upper) := by
  have hand : Lacks ("or" :: internalWords) "and" := by decide
  have hlower := hbefore.spaced (lacks_of_isFigures (isFigures_digits lower))
  exact (hlower.spaced hand).spaced (lacks_of_isFigures (isFigures_digits upper))

theorem lacks_message {violation : Violation} (hlegible : violation.Legible) :
    Lacks ("or" :: internalWords) violation.message := by
  cases violation with
  | literalTooLarge numeral =>
      have hbefore : Lacks ("or" :: internalWords) "integer literal" := by decide
      have hnumeral := hbefore.spaced (lacks_of_isFigures (isFigures_of_isNumeral hlegible))
      rw [message_literalTooLarge]
      exact hnumeral.spaced (by decide +kernel)
  | emptyRange lower upper =>
      rw [message_emptyRange]
      exact lacks_between (by decide +kernel) lower upper
  | unboundedRange lower upper =>
      rw [message_unboundedRange]
      exact (lacks_between (by decide +kernel) lower upper).spaced (by decide +kernel)
  | nestedTooDeeply => decide +kernel

end Grammar.Violation

section Missing

variable {what got first later message : String} {rest : Cursor Token}

theorem words_expected (what got : String) :
    words ("expected " ++ what ++ ", got " ++ got) =
      words ("expected " ++ what ++ ",") ++ "got" :: words got := by
  have htext : "expected " ++ what ++ ", got " ++ got =
      "expected " ++ what ++ "," ++ " " ++ "got" ++ " " ++ got := by
    apply String.toList_inj.mp
    simp
  have hword : words "got" = ["got"] := by decide
  rw [htext, words_spaced, words_spaced, hword, List.append_assoc, List.singleton_append]

theorem words_or (first later : String) :
    words (first ++ " or " ++ later) = words first ++ "or" :: words later := by
  have htext : first ++ " or " ++ later = first ++ " " ++ "or" ++ " " ++ later := by
    apply String.toList_inj.mp
    simp
  have hword : words "or" = ["or"] := by decide
  rw [htext, words_spaced, words_spaced, hword, List.append_assoc, List.singleton_append]

theorem lacks_describeNext
    (hnext : ∀ token, rest.peek = some token → ' ' ∉ token.text.toList) :
    Lacks ("or" :: internalWords ++ violationWords) (describeNext rest) := by
  unfold describeNext
  split
  · next token hpeek =>
    have hquoted : ∀ word ∈ "or" :: internalWords ++ violationWords,
        word.toList.head? ≠ some '\'' := by
      decide +kernel
    apply lacks_of_notMem
    · simpa using hnext token hpeek
    · exact fun hmem => hquoted _ hmem (by simp)
  · decide +kernel

/-- What comes behind some occurrence of an element comes behind the first one. -/
private theorem mem_of_append_cons_eq {α : Type} {before before' after after' : List α}
    {item other : α} (h : before ++ item :: after = before' ++ item :: after')
    (hfirst : item ∉ before') (hmem : other ∈ after) : other ∈ after' := by
  induction before' generalizing before with
  | nil =>
      cases before with
      | nil => rwa [← List.tail_eq_of_cons_eq h]
      | cons next before =>
          rw [← List.tail_eq_of_cons_eq h]
          exact List.mem_append_right _ (List.mem_cons_of_mem _ hmem)
  | cons next before' ih =>
      obtain ⟨hnext, hbefore'⟩ := not_or.mp (mt List.mem_cons.mpr hfirst)
      cases before with
      | nil => exact absurd (List.head_eq_of_cons_eq h) hnext
      | cons _ before => exact ih (List.tail_eq_of_cons_eq h) hbefore'

/-- Up to what was found instead. -/
theorem lacks_missing :
    ∀ what ∈ missing,
      Lacks ("got" :: internalWords ++ violationWords) ("expected " ++ what ++ ",") := by
  decide +kernel

variable (hnext : ∀ token, rest.peek = some token → ' ' ∉ token.text.toList)

include hnext

theorem lacks_expecting (hwhat : what ∈ missing) :
    Lacks (internalWords ++ violationWords) (expecting what rest) := by
  intro word hmem hword
  have hwords : words (expecting what rest) = _ := words_expected what (describeNext rest)
  rw [hwords] at hword
  rcases List.mem_append.mp hword with hbefore | hbehind
  · exact lacks_missing what hwhat word (List.mem_cons_of_mem _ hmem) hbefore
  · rcases List.mem_cons.mp hbehind with rfl | hgot
    · exact absurd hmem (by decide)
    · exact lacks_describeNext hnext word (List.mem_cons_of_mem _ hmem) hgot

theorem Grammar.Explained.lacks_internalWords (h : Explained rest message) :
    Lacks internalWords message := by
  cases h with
  | violation hlegible =>
      exact (Violation.lacks_message hlegible).mono (List.subset_cons_self _ _)
  | missing hwhat => exact (lacks_expecting hnext hwhat).mono (List.subset_append_left _ _)

theorem Grammar.Explained.not_internalMessage (h : Explained rest message) :
    ¬ InternalMessage message := by
  intro hinternal
  obtain ⟨word, hmem, hword⟩ := hinternal.exists_word
  exact h.lacks_internalWords hnext word hmem hword

/-- What one alternative says is not followed by what another one says. -/
theorem Grammar.Explained.ne_joined (h : Explained rest message) (hremark : Remark first) :
    message ≠ first ++ " or " ++ later := by
  intro hjoined
  have hwords : words message = words first ++ "or" :: words later := hjoined ▸ words_or first later
  have hfirst : ∀ word ∈ words first, word ∈ words message :=
    fun word hmem => hwords ▸ List.mem_append_left _ hmem
  cases h with
  | @violation violation hlegible =>
      have hor : "or" ∈ words violation.message :=
        hwords ▸ List.mem_append_right _ List.mem_cons_self
      exact Violation.lacks_message hlegible "or" List.mem_cons_self hor
  | @missing what hwhat =>
      cases hremark with
      | internal hinternal =>
          obtain ⟨word, hmem, hword⟩ := hinternal.exists_word
          have hlacks := lacks_expecting hnext hwhat word (List.mem_append_left _ hmem)
          exact hlacks (hfirst word hword)
      | violation violation =>
          obtain ⟨word, hmem, hword⟩ := violation.exists_word
          have hlacks := lacks_expecting hnext hwhat word (List.mem_append_right _ hmem)
          exact hlacks (hfirst word hword)
      -- Both begin alike, but there is one "got" in the message, and no "or" behind it.
      | missing other got =>
          have hexpecting : words (expecting what rest) = _ :=
            words_expected what (describeNext rest)
          rw [words_expected, hexpecting, List.append_assoc, List.cons_append] at hwords
          have hbehind := mem_of_append_cons_eq hwords.symm
            (lacks_missing what hwhat "got" List.mem_cons_self)
            (List.mem_append_right _ List.mem_cons_self)
          exact lacks_describeNext hnext "or" List.mem_cons_self hbehind

end Missing

namespace Program

variable {source : String} {error : SyntaxError}

/-- What is said to be next is what is at the place: a token, or no more of them. -/
theorem describeNext_at {passed : List Token} {rest : Cursor Token}
    (htokens : tokenize source = passed ++ rest.remaining) :
    (describeNext rest = "end of input" ↔ offsetAt source rest = source.length ∧
        ∀ token ∈ tokenize source, token.offset < offsetAt source rest) ∧
      (describeNext rest ≠ "end of input" → ∃ token ∈ tokenize source,
        token.offset = offsetAt source rest ∧ describeNext rest = "'" ++ token.text ++ "'") := by
  rcases offsetAt_cases htokens with ⟨token, hmem, hpeek, hplace⟩ | ⟨hpeek, hplace, hbefore⟩
  · have hquoted : describeNext rest = "'" ++ token.text ++ "'" := by
      simp only [describeNext, hpeek]
    have hother : "'" ++ token.text ++ "'" ≠ "end of input" := by
      intro hsame
      have hchars := congrArg (List.head? ∘ String.toList) hsame
      simp at hchars
    rw [hquoted, hplace]
    refine ⟨⟨fun hend => absurd hend hother, fun hparts => ?_⟩, fun _ => ⟨token, hmem, rfl, rfl⟩⟩
    exact absurd (hparts.2 token hmem) (Nat.lt_irrefl _)
  · have hend : describeNext rest = "end of input" := by
      simp only [describeNext, hpeek]
    rw [hplace]
    exact ⟨⟨fun _ => ⟨rfl, hbefore⟩, fun _ => hend⟩, fun hother => absurd hend hother⟩

/-- A refusal is for a violation, or it says what was expected and what was found instead: the token
at its offset, or the end of the text where no token is left. It says one such thing, and nothing
that only the parsers know of. -/
theorem message_of_refused (hrefused : parse source = .error error) :
    ((∃ violation : Violation, violation.Legible ∧ error.message = violation.message) ∨
        ∃ what ∈ missing, ∃ got, error.message = "expected " ++ what ++ ", got " ++ got ∧
          (got = "end of input" ↔
            error.offset = source.length ∧ ∀ token ∈ tokenize source, token.offset < error.offset) ∧
          (got ≠ "end of input" →
            ∃ token ∈ tokenize source, token.offset = error.offset ∧
              got = "'" ++ token.text ++ "'")) ∧
      ¬ InternalMessage error.message ∧
      ∀ first others, Remark first → others ≠ [] →
        error.message ≠ String.intercalate " or " (first :: others) := by
  obtain ⟨message, passed, rest, hrun, htokens, rfl⟩ := exists_passed_of_parse_eq_error hrefused
  have hexplained := explains_program hrun
  have hnext : ∀ token, rest.peek = some token → ' ' ∉ token.text.toList := by
    intro token hpeek hblank
    have hmem : token ∈ tokenize source :=
      htokens ▸ List.mem_append_right _ (List.mem_of_head? hpeek)
    have hspace := (Token.tokenize_eq_iff.mp rfl).partition.no_whitespace token hmem ' ' hblank
    exact absurd hspace (by decide)
  refine ⟨?_, hexplained.not_internalMessage hnext, ?_⟩
  · cases hexplained with
    | @violation violation hlegible => exact .inl ⟨violation, hlegible, rfl⟩
    | @missing what hwhat =>
        exact .inr ⟨what, hwhat, describeNext rest, rfl, describeNext_at htokens⟩
  · intro first others hremark hothers
    rw [String.intercalate_cons_of_ne_nil hothers]
    exact hexplained.ne_joined hnext hremark

theorem message_of_unclosed :
    parse "(1 +\n" = .error ⟨"expected ')', got '+'", 3, 1, 4⟩ ∧
      ∀ first others, Remark first → others ≠ [] →
        "expected ')', got '+'" ≠ String.intercalate " or " (first :: others) := by
  have hrefused : parse "(1 +\n" = .error ⟨"expected ')', got '+'", 3, 1, 4⟩ := by
    decide +kernel
  exact ⟨hrefused, (message_of_refused hrefused).2.2⟩

end Program

end RangeCalc
