import RangeCalc.Proofs.Parser.Chars
import RangeCalc.Proofs.Parser.Choice
import RangeCalc.Proofs.Token.Shapes
import RangeCalc.Token.Lexer

/-! What the tokens of a text are. A token is as long a word or a numeral as can be read where it
starts, or else one character, and all characters outside the tokens are white space. -/

namespace RangeCalc.Token

open RangeCalc.Parser
open RangeCalc.Text

/-- The first characters are those of one token where the others follow them. -/
inductive Lexeme : List Char → List Char → Prop where
  | word {first : Char} {others rest : List Char} (hfirst : startsIdentifier first = true)
      (hothers : ∀ c ∈ others, continuesIdentifier c = true)
      (hrest : rest.head?.any continuesIdentifier = false) :
      Lexeme (first :: others) rest
  | numeral {first : Char} {others rest : List Char} (hfirst : isDigit first = true)
      (hothers : ∀ c ∈ others, isDigit c = true)
      (hrest : rest.head?.any isDigit = false) :
      Lexeme (first :: others) rest
  | single {c : Char} {rest : List Char} (hspace : isWhitespace c = false)
      (hword : startsIdentifier c = false) (hdigit : isDigit c = false) :
      Lexeme [c] rest

/-- The tokens of some characters, which stand behind `offset` others. -/
inductive Scans : Nat → List Char → List Token → Prop where
  | nothing {offset : Nat} : Scans offset [] []
  | space {offset : Nat} {c : Char} {chars : List Char} {tokens : List Token}
      (hspace : isWhitespace c = true) (hlater : Scans (offset + 1) chars tokens) :
      Scans offset (c :: chars) tokens
  | token {offset : Nat} {lexeme rest : List Char} {tokens : List Token}
      (hlexeme : Lexeme lexeme rest) (hlater : Scans (offset + lexeme.length) rest tokens) :
      Scans offset (lexeme ++ rest) (⟨String.ofList lexeme, offset⟩ :: tokens)

namespace Lexeme

variable {lexeme rest : List Char} {c : Char} {offset : Nat}

theorem ne_nil (h : Lexeme lexeme rest) : lexeme ≠ [] := by
  cases h <;> simp

theorem any_isWhitespace_head? (h : Lexeme lexeme rest) :
    (lexeme ++ rest).head?.any isWhitespace = false := by
  cases h with
  | word hfirst =>
      apply isWhitespace_eq_false_of_continuesIdentifier
      exact continuesIdentifier_of_startsIdentifier hfirst
  | numeral hfirst =>
      apply isWhitespace_eq_false_of_continuesIdentifier
      exact continuesIdentifier_of_isDigit hfirst
  | single hspace => exact hspace

theorem exists_of_cons (chars : List Char) (hspace : isWhitespace c = false) :
    ∃ lexeme rest, Lexeme lexeme rest ∧ c :: chars = lexeme ++ rest := by
  by_cases hword : startsIdentifier c = true
  · refine ⟨c :: chars.takeWhile continuesIdentifier, chars.dropWhile continuesIdentifier,
      .word hword ?_ (any_head?_dropWhile chars), ?_⟩
    · exact List.all_eq_true.mp List.all_takeWhile
    · rw [List.cons_append, List.takeWhile_append_dropWhile]
  · by_cases hdigit : isDigit c = true
    · refine ⟨c :: chars.takeWhile isDigit, chars.dropWhile isDigit,
        .numeral hdigit ?_ (any_head?_dropWhile chars), ?_⟩
      · exact List.all_eq_true.mp List.all_takeWhile
      · rw [List.cons_append, List.takeWhile_append_dropWhile]
    · have hlexeme : Lexeme [c] chars :=
        .single hspace (Bool.eq_false_iff.mpr hword) (Bool.eq_false_iff.mpr hdigit)
      exact ⟨[c], chars, hlexeme, rfl⟩

end Lexeme

section Kinds

variable {start stop : Cursor Char} {text : String} {c : Char} {chars rest : List Char}
  {offset : Nat}

theorem run_word (hfirst : startsIdentifier c = true)
    (hothers : ∀ c ∈ chars, continuesIdentifier c = true)
    (hrest : rest.head?.any continuesIdentifier = false) :
    word.run ⟨offset, c :: (chars ++ rest)⟩ =
      .done (String.ofList (c :: chars)) ⟨offset + 1 + chars.length, rest⟩ := by
  refine run_map_eq_done_iff.mpr ⟨(c, chars), run_pair_eq_done_iff.mpr ?_, rfl⟩
  exact ⟨_, run_satisfy_eq_done_iff.mpr ⟨rfl, hfirst⟩, run_many_satisfy_append _ hothers hrest⟩

theorem run_numeral (hfirst : isDigit c = true) (hothers : ∀ c ∈ chars, isDigit c = true)
    (hrest : rest.head?.any isDigit = false) :
    numeral.run ⟨offset, c :: (chars ++ rest)⟩ =
      .done (String.ofList (c :: chars)) ⟨offset + 1 + chars.length, rest⟩ := by
  refine run_map_eq_done_iff.mpr ⟨c :: chars, run_map_eq_done_iff.mpr ⟨(c, chars), ?_, rfl⟩, rfl⟩
  refine run_pair_eq_done_iff.mpr ⟨_, run_satisfy_eq_done_iff.mpr ⟨rfl, hfirst⟩, ?_⟩
  exact run_many_satisfy_append _ hothers hrest

theorem failsAt_word (hrefused : start.peek.any startsIdentifier = false) :
    word.FailsAt start :=
  ((failsAt_satisfy_iff.mpr hrefused).pair _).map _

theorem failsAt_numeral (hrefused : start.peek.any isDigit = false) :
    numeral.FailsAt start :=
  (((failsAt_satisfy_iff.mpr hrefused).pair _).map _).map _

theorem run_keyword_or_failsAt {wanted : String} (hword : word.run start = .done text stop) :
    (keyword wanted).run start = .done text stop ∨ (keyword wanted).FailsAt start := by
  by_cases hsame : text = wanted
  · exact .inl (run_filter_eq_done_iff.mpr ⟨hword, beq_iff_eq.mpr hsame⟩)
  · refine .inr ⟨"expected keyword '" ++ wanted ++ "', got '" ++ text ++ "'", stop, ?_⟩
    simp [keyword, filter, hword, hsame]

/-- The symbols are single characters, taken as any other character is, or not at all. -/
theorem run_symbol_or_failsAt {symbol : String} (hsymbol : symbol ∈ punctuation) :
    ((Parser.text symbol).run ⟨offset, c :: rest⟩ = .done c.toString ⟨offset + 1, rest⟩ ∧
        startsIdentifier c = false ∧ isDigit c = false) ∨
      (Parser.text symbol).FailsAt ⟨offset, c :: rest⟩ := by
  obtain ⟨d, rfl, -, hword, hdigit⟩ := eq_toString_of_mem_punctuation hsymbol
  by_cases hsame : c = d
  · subst hsame
    refine .inl ⟨run_text_eq_done_iff.mpr ?_, hword, hdigit⟩
    exact ⟨⟨rest, by simp⟩, rfl, by simp [Cursor.advance]⟩
  · refine .inr (failsAt_text ?_)
    simpa using Ne.symm hsame

end Kinds

section Lexer

variable {p : Parser Char String} {start cursor stop : Cursor Char} {c : Char} {text : String}
  {chars lexeme rest : List Char} {offset : Nat}

theorem run_spaced (hstart : start.skipWhile isWhitespace = cursor)
    (hrun : p.run cursor = .done text stop) :
    (spaced p).run start = .done ⟨text, cursor.position⟩ (stop.skipWhile isWhitespace) := by
  subst hstart
  refine run_map_eq_done_iff.mpr ⟨(_, text), run_keepLeft_eq_done_iff.mpr ?_, rfl⟩
  refine ⟨(), stop, run_keepRight_eq_done_iff.mpr ?_, run_whitespace stop⟩
  exact ⟨(), _, run_whitespace start, run_pair_eq_done_iff.mpr ⟨_, rfl, hrun⟩⟩

theorem run_spaced_eq_failed {message : String} (hstart : start.skipWhile isWhitespace = cursor)
    (hrun : p.run cursor = .failed message stop) : (spaced p).run start = .failed message stop := by
  subst hstart
  simp [spaced, keepLeft, keepRight, pair, run_whitespace, hrun]

theorem failsAt_spaced (hstart : start.skipWhile isWhitespace = cursor)
    (hfails : p.FailsAt cursor) : (spaced p).FailsAt start := by
  obtain ⟨message, stop, hrun⟩ := hfails
  exact ⟨message, stop, run_spaced_eq_failed hstart hrun⟩

private def kinds : List (Parser Char String) :=
  keywords.map keyword ++ punctuation.map Parser.text ++ [numeral, word, any.map Char.toString]

private theorem lexer_eq : lexer = choice (kinds.map spaced) := by
  simp [lexer, kinds, Function.comp_def]

private theorem run_lexer_of_kind (before after : List (Parser Char String))
    (hkinds : kinds = before ++ p :: after) (hstart : start.skipWhile isWhitespace = cursor)
    (hrun : p.run cursor = .done text stop)
    (hbefore : ∀ q ∈ before, q.run cursor = .done text stop ∨ q.FailsAt cursor) :
    lexer.run start = .done ⟨text, cursor.position⟩ (stop.skipWhile isWhitespace) := by
  rw [lexer_eq, hkinds, List.map_append, List.map_cons]
  refine run_choice_append_eq_done ?_ (run_spaced hstart hrun)
  intro q hq
  obtain ⟨kind, hkind, rfl⟩ := List.mem_map.mp hq
  exact (hbefore kind hkind).imp (run_spaced hstart) (failsAt_spaced hstart)

private theorem failsAt_symbol {symbol : String} (hsymbol : symbol ∈ punctuation)
    (hfirst : startsIdentifier c = true ∨ isDigit c = true) :
    (Parser.text symbol).FailsAt ⟨offset, c :: chars⟩ := by
  apply (run_symbol_or_failsAt hsymbol).resolve_left
  intro hparts
  obtain ⟨-, hword, hdigit⟩ := hparts
  simp [hword, hdigit] at hfirst

private theorem run_lexer_word (hstart : start.skipWhile isWhitespace = ⟨offset, c :: chars⟩)
    (hfirst : startsIdentifier c = true) (hrun : word.run ⟨offset, c :: chars⟩ = .done text stop) :
    lexer.run start = .done ⟨text, offset⟩ (stop.skipWhile isWhitespace) := by
  refine run_lexer_of_kind (keywords.map keyword ++ punctuation.map Parser.text ++ [numeral])
    [any.map Char.toString] (by simp [kinds]) hstart hrun ?_
  intro q hq
  simp only [List.mem_append, List.mem_map, List.mem_singleton] at hq
  rcases hq with (⟨wanted, -, rfl⟩ | ⟨symbol, hsymbol, rfl⟩) | rfl
  · exact run_keyword_or_failsAt hrun
  · exact .inr (failsAt_symbol hsymbol (.inl hfirst))
  · exact .inr (failsAt_numeral (isDigit_eq_false_of_startsIdentifier hfirst))

private theorem run_lexer_numeral (hstart : start.skipWhile isWhitespace = ⟨offset, c :: chars⟩)
    (hfirst : isDigit c = true) (hrun : numeral.run ⟨offset, c :: chars⟩ = .done text stop) :
    lexer.run start = .done ⟨text, offset⟩ (stop.skipWhile isWhitespace) := by
  refine run_lexer_of_kind (keywords.map keyword ++ punctuation.map Parser.text)
    [word, any.map Char.toString] (by simp [kinds]) hstart hrun ?_
  intro q hq
  simp only [List.mem_append, List.mem_map] at hq
  rcases hq with ⟨wanted, -, rfl⟩ | ⟨symbol, hsymbol, rfl⟩
  · have hword : word.FailsAt ⟨offset, c :: chars⟩ :=
      failsAt_word (startsIdentifier_eq_false_of_isDigit hfirst)
    exact .inr (hword.filter _ _)
  · exact .inr (failsAt_symbol hsymbol (.inr hfirst))

private theorem run_lexer_single (hstart : start.skipWhile isWhitespace = ⟨offset, c :: chars⟩)
    (hword : startsIdentifier c = false) (hdigit : isDigit c = false) :
    lexer.run start =
      .done ⟨c.toString, offset⟩ ((Cursor.mk (offset + 1) chars).skipWhile isWhitespace) := by
  have hwordFails : word.FailsAt ⟨offset, c :: chars⟩ := failsAt_word hword
  refine run_lexer_of_kind
    (keywords.map keyword ++ punctuation.map Parser.text ++ [numeral, word])
    [] (p := any.map Char.toString) (by simp [kinds]) hstart rfl ?_
  intro q hq
  simp only [List.mem_append, List.mem_map, List.mem_cons, List.not_mem_nil, or_false] at hq
  rcases hq with (⟨wanted, -, rfl⟩ | ⟨symbol, hsymbol, rfl⟩) | rfl | rfl
  · exact .inr (hwordFails.filter _ _)
  · exact (run_symbol_or_failsAt hsymbol).imp And.left id
  · exact .inr (failsAt_numeral hdigit)
  · exact .inr hwordFails

theorem run_lexer_of_lexeme (hlexeme : Lexeme lexeme rest)
    (hstart : start.skipWhile isWhitespace = ⟨offset, lexeme ++ rest⟩) :
    lexer.run start =
      .done ⟨String.ofList lexeme, offset⟩
        ((Cursor.mk (offset + lexeme.length) rest).skipWhile isWhitespace) := by
  cases hlexeme with
  | @word first others _ hfirst hothers hrest =>
      rw [run_lexer_word hstart hfirst (run_word hfirst hothers hrest), List.length_cons,
        Nat.add_right_comm, Nat.add_assoc]
  | @numeral first others _ hfirst hothers hrest =>
      rw [run_lexer_numeral hstart hfirst (run_numeral hfirst hothers hrest), List.length_cons,
        Nat.add_right_comm, Nat.add_assoc]
  | single hspace hword hdigit => exact run_lexer_single hstart hword hdigit

private theorem run_kind_nil {p : Parser Char String} (hp : p ∈ kinds) (offset : Nat) :
    p.run ⟨offset, []⟩ = .failed endOfInputMessage ⟨offset, []⟩ := by
  simp only [kinds, List.mem_append, List.mem_map, List.mem_cons, List.not_mem_nil, or_false]
    at hp
  rcases hp with (⟨wanted, -, rfl⟩ | ⟨symbol, hsymbol, rfl⟩) | rfl | rfl | rfl
  · rfl
  · obtain ⟨c, rfl, -⟩ := eq_toString_of_mem_punctuation hsymbol
    simp [Parser.text, Parser.chars, Parser.char, rewind, keepLeft, pair]
  · rfl
  · rfl
  · rfl

theorem run_lexer_eq_failed (hstart : start.skipWhile isWhitespace = ⟨offset, []⟩) :
    lexer.run start = .failed endOfInputMessage ⟨offset, []⟩ := by
  rw [lexer_eq]
  refine run_choice_eq_failed (by simp [kinds]) ?_
  intro q hq
  obtain ⟨kind, hkind, rfl⟩ := List.mem_map.mp hq
  exact run_spaced_eq_failed hstart (run_kind_nil hkind offset)

theorem failsAt_lexer (hstart : start.skipWhile isWhitespace = ⟨offset, []⟩) :
    lexer.FailsAt start :=
  ⟨_, _, run_lexer_eq_failed hstart⟩

theorem lexer_cases (start : Cursor Char) :
    ((start.skipWhile isWhitespace).remaining = [] ∧ lexer.FailsAt start) ∨
      ∃ offset lexeme rest, Lexeme lexeme rest ∧
        start.skipWhile isWhitespace = ⟨offset, lexeme ++ rest⟩ ∧
        lexer.run start =
          .done ⟨String.ofList lexeme, offset⟩
            ((Cursor.mk (offset + lexeme.length) rest).skipWhile isWhitespace) := by
  cases hskip : start.skipWhile isWhitespace with
  | mk offset chars =>
      cases chars with
      | nil => exact .inl ⟨rfl, failsAt_lexer hskip⟩
      | cons c chars =>
          have hspace : (start.skipWhile isWhitespace).peek.any isWhitespace = false :=
            Cursor.any_peek_skipWhile start
          rw [hskip] at hspace
          obtain ⟨lexeme, rest, hlexeme, hchars⟩ := Lexeme.exists_of_cons chars hspace
          rw [hchars] at hskip ⊢
          exact .inr ⟨offset, lexeme, rest, hlexeme, rfl, run_lexer_of_lexeme hlexeme hskip⟩

theorem returns_lexer : lexer.Returns := by
  intro start hdiverges
  rcases lexer_cases start with ⟨-, _, _, hrun⟩ | ⟨_, _, _, -, -, hrun⟩ <;>
    · rw [hrun] at hdiverges
      contradiction

theorem lexer_advances : lexer.Advances := by
  intro start token stop hrun
  rcases lexer_cases start with ⟨-, hfails⟩ | ⟨offset, lexeme, rest, hlexeme, hstart, hlexer⟩
  · exact absurd hfails (not_failsAt_of_done hrun)
  · rw [hlexer] at hrun
    cases hrun
    have hskipped : (start.remaining.dropWhile isWhitespace) = lexeme ++ rest := by
      rw [← Cursor.remaining_skipWhile, hstart]
    have hstart := (List.dropWhile_suffix isWhitespace (l := start.remaining)).length_le
    have hrest := (List.dropWhile_suffix isWhitespace (l := rest)).length_le
    have hlength := List.length_pos_iff.mpr hlexeme.ne_nil
    rw [hskipped, List.length_append] at hstart
    simp only [Cursor.remaining_skipWhile]
    omega

end Lexer

section Tokenization

variable {start start' stop : Cursor Char} {tokens : List Token} {source : String}

private theorem repeats_lexer_of_skipWhile_eq
    (hskip : start.skipWhile isWhitespace = start'.skipWhile isWhitespace)
    (hrepeats : Repeats lexer start tokens stop) :
    ∃ stop', Repeats lexer start' tokens stop' := by
  rcases lexer_cases start with ⟨hempty, hfails⟩ | ⟨offset, lexeme, rest, hlexeme, hstart, hlexer⟩
  · cases hrepeats with
    | stop => exact ⟨start', .stop (failsAt_lexer (hskip ▸ congrArg (Cursor.mk _) hempty))⟩
    | step hrun => exact absurd hfails (not_failsAt_of_done hrun)
  · cases hrepeats with
    | stop hfails => exact absurd hfails (not_failsAt_of_done hlexer)
    | step hrun hlater =>
        rw [hlexer] at hrun
        cases hrun
        exact ⟨stop, .step (run_lexer_of_lexeme hlexeme (hskip ▸ hstart)) hlater⟩

theorem repeats_lexer_of_scans {offset : Nat} {chars : List Char}
    (hscans : Scans offset chars tokens) : ∃ stop, Repeats lexer ⟨offset, chars⟩ tokens stop := by
  induction hscans with
  | nothing => exact ⟨_, .stop (failsAt_lexer rfl)⟩
  | space hspace _ ih =>
      obtain ⟨stop, hrepeats⟩ := ih
      exact repeats_lexer_of_skipWhile_eq (Cursor.skipWhile_cons_of_pos hspace).symm hrepeats
  | token hlexeme _ ih =>
      obtain ⟨stop, hrepeats⟩ := ih
      -- Behind the token the lexer has already taken the white space.
      obtain ⟨stop', hlater⟩ :=
        repeats_lexer_of_skipWhile_eq (Cursor.skipWhile_skipWhile _).symm hrepeats
      refine ⟨stop', .step (run_lexer_of_lexeme hlexeme ?_) hlater⟩
      exact Cursor.skipWhile_of_peek hlexeme.any_isWhitespace_head?

theorem exists_scans (offset : Nat) (chars : List Char) : ∃ tokens, Scans offset chars tokens := by
  suffices hbounded : ∀ length offset (chars : List Char), chars.length ≤ length →
      ∃ tokens, Scans offset chars tokens from
    hbounded chars.length offset chars (Nat.le_refl _)
  intro length
  induction length with
  | zero =>
      intro offset chars hlength
      obtain rfl := List.eq_nil_of_length_eq_zero (Nat.le_zero.mp hlength)
      exact ⟨[], .nothing⟩
  | succ length ih =>
      intro offset chars hlength
      cases chars with
      | nil => exact ⟨[], .nothing⟩
      | cons c chars =>
          by_cases hspace : isWhitespace c = true
          · obtain ⟨tokens, hlater⟩ := ih (offset + 1) chars (Nat.le_of_succ_le_succ hlength)
            exact ⟨tokens, .space hspace hlater⟩
          · obtain ⟨lexeme, rest, hlexeme, hchars⟩ :=
              Lexeme.exists_of_cons chars (Bool.eq_false_iff.mpr hspace)
            have hpositive := List.length_pos_iff.mpr hlexeme.ne_nil
            rw [hchars, List.length_append] at hlength
            obtain ⟨tokens, hlater⟩ := ih (offset + lexeme.length) rest (by omega)
            rw [hchars]
            exact ⟨_, .token hlexeme hlater⟩

theorem tokenize_eq_iff : tokenize source = tokens ↔ Scans 0 source.toList tokens := by
  have hscanned : ∀ tokens, Scans 0 source.toList tokens → tokenize source = tokens := by
    intro tokens hscans
    obtain ⟨stop, hrepeats⟩ := repeats_lexer_of_scans hscans
    have hrun := run_many_eq_done_iff.mpr hrepeats
    simp only [tokenize, Cursor.ofString, Cursor.ofList, hrun]
  constructor
  · rintro rfl
    obtain ⟨tokens, hscans⟩ := exists_scans 0 source.toList
    rwa [hscanned tokens hscans]
  · exact hscanned tokens

end Tokenization

end RangeCalc.Token
