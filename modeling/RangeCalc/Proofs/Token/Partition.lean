import Mathlib.Data.List.TakeWhile
import RangeCalc.Proofs.Token.Scan

/-! The tokens of a text are the text without its white space, cut where words, numerals and other
characters meet. The lexer gives them one after another and fails only behind the last. -/

namespace RangeCalc.Token

open RangeCalc.Parser
open RangeCalc.Text

/-- The kinds of tokens that can have more than one character. -/
inductive RunKind where
  | word
  | numeral

namespace RunKind

def starts : RunKind → Char → Bool
  | word => startsIdentifier
  | numeral => isDigit

def continues : RunKind → Char → Bool
  | word => continuesIdentifier
  | numeral => isDigit

def IsRun (kind : RunKind) : List Char → Prop
  | [] => False
  | first :: others => kind.starts first = true ∧ ∀ c ∈ others, kind.continues c = true

/-- The token is a run, and no other run in the source covers it. -/
def MaximalAt (kind : RunKind) (source : List Char) (token : Token) : Prop :=
  kind.IsRun token.text.toList ∧
    ∀ before run after, source = before ++ (run ++ after) → kind.IsRun run →
      before.length ≤ token.offset →
      token.offset + token.text.length ≤ before.length + run.length →
      before.length = token.offset ∧ run = token.text.toList

variable {kind : RunKind} {c : Char} {run : List Char}

theorem continues_of_starts (hstarts : kind.starts c = true) : kind.continues c = true := by
  cases kind with
  | word => exact continuesIdentifier_of_startsIdentifier hstarts
  | numeral => exact hstarts

theorem continuesIdentifier_of_continues (hcontinues : kind.continues c = true) :
    continuesIdentifier c = true := by
  cases kind with
  | word => exact hcontinues
  | numeral => exact continuesIdentifier_of_isDigit hcontinues

theorem IsRun.continues (hrun : kind.IsRun run) : ∀ c ∈ run, kind.continues c = true := by
  cases run with
  | nil => contradiction
  | cons first others =>
      obtain ⟨hfirst, hothers⟩ := hrun
      exact List.forall_mem_cons.mpr ⟨continues_of_starts hfirst, hothers⟩

theorem IsRun.isWhitespace_eq_false (hrun : kind.IsRun run) :
    ∀ c ∈ run, isWhitespace c = false := by
  intro c hc
  apply isWhitespace_eq_false_of_continuesIdentifier
  exact continuesIdentifier_of_continues (hrun.continues c hc)

end RunKind

namespace Lexeme

variable {kind : RunKind} {lexeme rest before run after : List Char}

theorem isRun_or_single (h : Lexeme lexeme rest) :
    (∃ kind : RunKind, kind.IsRun lexeme) ∨
      ∃ c, lexeme = [c] ∧ isWhitespace c = false ∧ ∀ kind : RunKind, kind.starts c = false := by
  cases h with
  | word hfirst hothers => exact .inl ⟨.word, hfirst, hothers⟩
  | numeral hfirst hothers => exact .inl ⟨.numeral, hfirst, hothers⟩
  | @single c _ hspace hword hdigit =>
      refine .inr ⟨c, rfl, hspace, fun kind => ?_⟩
      cases kind with
      | word => exact hword
      | numeral => exact hdigit

theorem isWhitespace_eq_false (h : Lexeme lexeme rest) : ∀ c ∈ lexeme, isWhitespace c = false := by
  rcases h.isRun_or_single with ⟨kind, hrun⟩ | ⟨c, rfl, hspace, -⟩
  · exact hrun.isWhitespace_eq_false
  · simpa using hspace

/-- What a run could go on with behind a lexeme that it begins in, the lexeme would have taken. -/
theorem any_head?_eq_false (h : Lexeme lexeme rest) {c : Char} (hmem : c ∈ lexeme)
    (hstarts : kind.starts c = true) : rest.head?.any kind.continues = false := by
  cases h with
  | word _ _ hrest =>
      cases kind with
      | word => exact hrest
      | numeral =>
          cases rest with
          | nil => rfl
          | cons d _ => exact isDigit_eq_false_of_continuesIdentifier hrest
  | @numeral first others _ hfirst hothers hrest =>
      cases kind with
      | word =>
          have hdigits : ∀ c ∈ first :: others, isDigit c = true :=
            List.forall_mem_cons.mpr ⟨hfirst, hothers⟩
          have hrefused := startsIdentifier_eq_false_of_isDigit (hdigits c hmem)
          exact absurd hstarts (Bool.eq_false_iff.mp hrefused)
      | numeral => exact hrest
  | single _ hword hdigit =>
      obtain rfl := List.mem_singleton.mp hmem
      cases kind with
      | word => exact absurd hstarts (Bool.eq_false_iff.mp hword)
      | numeral => exact absurd hstarts (Bool.eq_false_iff.mp hdigit)

/-- A run that begins inside a lexeme ends inside it. -/
theorem length_run_le (h : Lexeme lexeme rest) (hrun : kind.IsRun run)
    (hchars : lexeme ++ rest = before ++ (run ++ after))
    (hinside : before.length < lexeme.length) :
    before.length + run.length ≤ lexeme.length := by
  obtain ⟨inner, rfl⟩ : before <+: lexeme :=
    List.prefix_of_prefix_length_le ⟨run ++ after, hchars.symm⟩ ⟨rest, rfl⟩ (Nat.le_of_lt hinside)
  rw [List.append_assoc] at hchars
  have hinner := List.append_cancel_left hchars
  rcases List.append_eq_append_iff.mp hinner with ⟨beyond, rfl, hrest⟩ | ⟨inside, rfl, -⟩
  -- Either the run goes on behind the lexeme, or it ends inside.
  · cases inner with
    | nil => simp at hinside
    | cons first inner =>
        have hrefused := h.any_head?_eq_false (by simp) hrun.1
        cases beyond with
        | nil => simp
        | cons d beyond =>
            rw [hrest] at hrefused
            have hcontinues := hrun.2 d (by simp)
            simp [hcontinues] at hrefused
  · simp [← Nat.add_assoc]

end Lexeme

def Covers (token : Token) (place : Nat) : Prop :=
  token.offset ≤ place ∧ place < token.offset + token.text.length

namespace Scans

variable {offset : Nat} {chars : List Char} {tokens : List Token} {token : Token}

theorem exists_lexeme (h : Scans offset chars tokens) (hmem : token ∈ tokens) :
    ∃ before rest, chars = before ++ (token.text.toList ++ rest) ∧
      token.offset = offset + before.length ∧ Lexeme token.text.toList rest := by
  induction h with
  | nothing => contradiction
  | @space _ c _ _ _ _ ih =>
      obtain ⟨before, rest, rfl, hoffset, hlexeme⟩ := ih hmem
      refine ⟨c :: before, rest, rfl, ?_, hlexeme⟩
      rw [hoffset, List.length_cons]
      omega
  | @token offset lexeme rest _ hlexeme _ ih =>
      rcases List.mem_cons.mp hmem with rfl | hlater
      · exact ⟨[], rest, by simp, rfl, by simpa using hlexeme⟩
      · obtain ⟨before, last, rfl, hoffset, hlast⟩ := ih hlater
        refine ⟨lexeme ++ before, last, by rw [List.append_assoc], ?_, hlast⟩
        rw [hoffset, List.length_append, Nat.add_assoc]

theorem length_pos (h : Scans offset chars tokens) (hmem : token ∈ tokens) :
    0 < token.text.length := by
  obtain ⟨before, rest, -, -, hlexeme⟩ := h.exists_lexeme hmem
  rw [← String.length_toList]
  exact List.length_pos_iff.mpr hlexeme.ne_nil

theorem le_offset (h : Scans offset chars tokens) (hmem : token ∈ tokens) :
    offset ≤ token.offset := by
  obtain ⟨before, rest, -, hoffset, -⟩ := h.exists_lexeme hmem
  omega

theorem pairwise_apart (h : Scans offset chars tokens) :
    tokens.Pairwise fun token later => token.offset + token.text.length ≤ later.offset := by
  induction h with
  | nothing => exact .nil
  | space _ _ ih => exact ih
  | token _ hlater ih =>
      refine .cons ?_ ih
      intro later hmem
      simpa using hlater.le_offset hmem

theorem exists_covers (h : Scans offset chars tokens) {place : Nat} {c : Char}
    (hplace : chars[place]? = some c) (hspace : isWhitespace c = false) :
    ∃ token ∈ tokens, token.Covers (offset + place) := by
  induction h generalizing place with
  | nothing => simp at hplace
  | @space _ first chars _ hfirst _ ih =>
      cases place with
      | zero =>
          obtain rfl : first = c := by simpa using hplace
          rw [hfirst] at hspace
          contradiction
      | succ place =>
          obtain ⟨token, hmem, hcovers⟩ := ih (by simpa using hplace)
          refine ⟨token, hmem, ?_⟩
          rwa [← Nat.add_assoc, Nat.add_right_comm]
  | @token offset lexeme rest _ _ _ ih =>
      by_cases hinside : place < lexeme.length
      · refine ⟨_, List.mem_cons_self, Nat.le_add_right .., ?_⟩
        simpa using hinside
      · have hbeyond := Nat.le_of_not_lt hinside
        rw [List.getElem?_append_right hbeyond] at hplace
        obtain ⟨token, hmem, hcovers⟩ := ih hplace
        refine ⟨token, List.mem_cons_of_mem _ hmem, ?_⟩
        rwa [Nat.add_assoc, Nat.add_sub_cancel' hbeyond] at hcovers

theorem eq_of_isRun (h : Scans offset chars tokens) (hmem : token ∈ tokens) {kind : RunKind}
    {before run after : List Char} (hchars : chars = before ++ (run ++ after))
    (hrun : kind.IsRun run) (hstart : offset + before.length ≤ token.offset)
    (hstop : token.offset + token.text.length ≤ offset + before.length + run.length) :
    offset + before.length = token.offset ∧ run = token.text.toList := by
  induction h generalizing before with
  | nothing => contradiction
  | @space offset c chars _ hspace hlater ih =>
      cases before with
      | nil =>
          cases run with
          | nil => contradiction
          | cons first others =>
              cases hchars
              have hfirst := hrun.isWhitespace_eq_false c (by simp)
              rw [hspace] at hfirst
              contradiction
      | cons _ before =>
          cases hchars
          rw [List.length_cons, Nat.add_comm before.length, ← Nat.add_assoc] at hstart hstop ⊢
          exact ih hmem rfl hstart hstop
  | @token offset lexeme rest _ hlexeme hlater ih =>
      have hpositive := List.length_pos_iff.mpr hlexeme.ne_nil
      -- A run that begins in the first lexeme ends in it, so it cannot cover a later token.
      by_cases hinside : before.length < lexeme.length
      · have hlength := hlexeme.length_run_le hrun hchars hinside
        rcases List.mem_cons.mp hmem with rfl | hmem
        · simp only [String.length_ofList] at hstart hstop
          obtain rfl : before = [] := List.eq_nil_of_length_eq_zero (by omega)
          have hsame : run.length = lexeme.length := by
            simp only [List.length_nil] at hlength hstop
            omega
          rw [List.nil_append] at hchars
          rw [String.toList_ofList]
          exact ⟨rfl, (List.append_inj_left hchars hsame.symm).symm⟩
        · have hoffset := hlater.le_offset hmem
          have htext := hlater.length_pos hmem
          omega
      · rcases List.mem_cons.mp hmem with rfl | hmem
        · simp only at hstart
          omega
        · obtain ⟨between, rfl⟩ : lexeme <+: before :=
            List.prefix_of_prefix_length_le ⟨rest, rfl⟩ ⟨run ++ after, hchars.symm⟩
              (Nat.le_of_not_lt hinside)
          rw [List.append_assoc] at hchars
          have hrest := List.append_cancel_left hchars
          rw [List.length_append, ← Nat.add_assoc] at hstart hstop ⊢
          exact ih hmem hrest hstart hstop

end Scans

/-- The tokens are the source without its white space, in order: each stands where its offset says,
and all that is outside them is white space. -/
structure Partition (source : List Char) (tokens : List Token) : Prop where
  text_ne_empty : ∀ token ∈ tokens, token.text ≠ ""
  no_whitespace : ∀ token ∈ tokens, ∀ c ∈ token.text.toList, isWhitespace c = false
  occurs : ∀ token ∈ tokens, token.text.toList <+: source.drop token.offset
  increasing : tokens.Pairwise fun token later => token.offset < later.offset
  apart : tokens.Pairwise fun token later => token.offset + token.text.length ≤ later.offset
  whitespace_outside : ∀ place c, source[place]? = some c →
    (∀ token ∈ tokens, ¬ token.Covers place) → isWhitespace c = true
  maximal_or_single : ∀ token ∈ tokens, (∃ kind : RunKind, kind.MaximalAt source token) ∨
    ∃ c, token.text = c.toString ∧ ∀ kind : RunKind, kind.starts c = false

theorem Scans.partition {source : List Char} {tokens : List Token} (h : Scans 0 source tokens) :
    Partition source tokens where
  text_ne_empty token hmem := by
    have hpositive := h.length_pos hmem
    rintro hempty
    simp [hempty] at hpositive
  no_whitespace token hmem := by
    obtain ⟨_, _, -, -, hlexeme⟩ := h.exists_lexeme hmem
    exact hlexeme.isWhitespace_eq_false
  occurs token hmem := by
    obtain ⟨before, rest, hsource, hoffset, -⟩ := h.exists_lexeme hmem
    refine ⟨rest, ?_⟩
    rw [hsource, hoffset, Nat.zero_add, List.drop_left]
  increasing := by
    apply h.pairwise_apart.imp_of_mem
    intro token later hmem _ hapart
    have hpositive := h.length_pos hmem
    omega
  apart := h.pairwise_apart
  whitespace_outside place c hplace houtside := by
    by_contra hspace
    obtain ⟨token, hmem, hcovers⟩ := h.exists_covers hplace (Bool.eq_false_iff.mpr hspace)
    rw [Nat.zero_add] at hcovers
    exact houtside token hmem hcovers
  maximal_or_single token hmem := by
    obtain ⟨_, _, -, -, hlexeme⟩ := h.exists_lexeme hmem
    rcases hlexeme.isRun_or_single with ⟨kind, hrun⟩ | ⟨c, htext, -, hstarts⟩
    · refine .inl ⟨kind, hrun, ?_⟩
      intro before run after hsource hother hstart hstop
      rw [← Nat.zero_add before.length] at hstart hstop ⊢
      exact h.eq_of_isRun hmem hsource hother hstart hstop
    · exact .inr ⟨c, String.toList_inj.mp (by simpa using htext), hstarts⟩

section Repetition

variable {start stop rest : Cursor Char} {tokens : List Token} {token : Token}
  {source message : String}

theorem run_lexer_eq_failed_iff :
    lexer.run start = .failed message rest ↔
      (∀ c ∈ start.remaining, isWhitespace c = true) ∧ message = endOfInputMessage ∧
        rest = ⟨start.position + start.remaining.length, []⟩ := by
  have hlimit := start.position_add_length_skipWhile isWhitespace
  have hblank : (start.skipWhile isWhitespace).remaining = [] ↔
      ∀ c ∈ start.remaining, isWhitespace c = true := by
    rw [Cursor.remaining_skipWhile, List.dropWhile_eq_nil_iff]
  rw [← hblank, ← hlimit]
  rcases lexer_cases start with ⟨hempty, -⟩ | ⟨offset, lexeme, later, hlexeme, hstart, hrun⟩
  · cases hskip : start.skipWhile isWhitespace with
    | mk offset remaining =>
        rw [hskip] at hempty
        obtain rfl : remaining = [] := hempty
        rw [run_lexer_eq_failed hskip]
        simp [eq_comm]
  · simp [hrun, hstart, hlexeme.ne_nil]

theorem position_add_length_of_run_lexer (hrun : lexer.run start = .done token rest) :
    rest.position + rest.remaining.length = start.position + start.remaining.length := by
  rcases lexer_cases start with ⟨-, hfails⟩ | ⟨offset, lexeme, later, -, hstart, hlexer⟩
  · exact absurd hfails (not_failsAt_of_done hrun)
  · rw [hlexer] at hrun
    cases hrun
    have hlimit := start.position_add_length_skipWhile isWhitespace
    rw [hstart] at hlimit
    rw [Cursor.position_add_length_skipWhile, ← hlimit, List.length_append, Nat.add_assoc]

theorem run_lexer_of_repeats (h : Repeats lexer start tokens stop) :
    lexer.run stop =
      .failed endOfInputMessage ⟨start.position + start.remaining.length, []⟩ := by
  induction h with
  | stop hfails =>
      obtain ⟨message, rest, hrun⟩ := hfails
      obtain ⟨-, rfl, rfl⟩ := run_lexer_eq_failed_iff.mp hrun
      exact hrun
  | step hrun _ ih => rw [ih, position_add_length_of_run_lexer hrun]

theorem exists_repeats_lexer_iff :
    (∃ stop, Repeats lexer (Cursor.ofString source) tokens stop) ↔ tokens = tokenize source := by
  constructor
  · rintro ⟨stop, hrepeats⟩
    rw [tokenize, run_many_eq_done_iff.mpr hrepeats]
  · rintro rfl
    exact repeats_lexer_of_scans (tokenize_eq_iff.mp rfl)

end Repetition

/-- The tokens of a source are what it is made of. Running the lexer again and again gives them and
then fails at the end of the source; it fails only where nothing but white space is left. -/
theorem tokenize_partition (source : String) :
    Partition source.toList (tokenize source) ∧
      (∃ stop, Repeats lexer (Cursor.ofString source) (tokenize source) stop ∧
        lexer.run stop = .failed "unexpected end of input" ⟨source.length, []⟩) ∧
      (∀ tokens stop, Repeats lexer (Cursor.ofString source) tokens stop →
        tokens = tokenize source) ∧
      lexer.Returns ∧
      ∀ start message rest, lexer.run start = .failed message rest ↔
        (∀ c ∈ start.remaining, isWhitespace c = true) ∧ message = "unexpected end of input" ∧
          rest = ⟨start.position + start.remaining.length, []⟩ := by
  obtain ⟨stop, hrepeats⟩ := exists_repeats_lexer_iff.mpr (rfl : tokenize source = _)
  refine ⟨(tokenize_eq_iff.mp rfl).partition, ⟨stop, hrepeats, ?_⟩, ?_, returns_lexer, ?_⟩
  · simpa [Cursor.ofString, endOfInputMessage, String.length_toList] using
      run_lexer_of_repeats hrepeats
  · exact fun tokens stop hrepeats => exists_repeats_lexer_iff.mp ⟨stop, hrepeats⟩
  · exact fun start message rest => run_lexer_eq_failed_iff

end RangeCalc.Token
