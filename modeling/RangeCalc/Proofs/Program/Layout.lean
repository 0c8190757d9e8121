import RangeCalc.Proofs.Expr.Tokens
import RangeCalc.Proofs.Grammar.Offsets
import RangeCalc.Proofs.Grammar.Openings
import RangeCalc.Proofs.Program.Language
import RangeCalc.Proofs.Token.Partition

/-! White space between tokens has no meaning. It changes neither the tokens nor what they are read
to, and where they are refused, only the places of the tokens in the text. -/

namespace RangeCalc

open RangeCalc.Text

/-- Texts with white space behind each, and in front of the first. Only behind the last there may
be none. -/
structure Layout where
  lead : List Char
  parts : List (String × List Char)
  blank_lead : ∀ c ∈ lead, isWhitespace c = true
  blank_parts : ∀ part ∈ parts, ∀ c ∈ part.2, isWhitespace c = true
  apart : ∀ part ∈ parts.dropLast, part.2 ≠ []

namespace Layout

def texts (layout : Layout) : List String :=
  layout.parts.map Prod.fst

def chars (parts : List (String × List Char)) : List Char :=
  parts.flatMap fun (text, gap) => text.toList ++ gap

def source (layout : Layout) : String :=
  String.ofList (layout.lead ++ chars layout.parts)

end Layout

namespace Token

variable {gap rest lexeme : List Char} {texts : List String}

theorem parted_of_blank (hblank : ∀ c ∈ gap, isWhitespace c = true)
    (hend : gap = [] → rest = []) : Parted (gap ++ rest) := by
  cases gap with
  | nil =>
      rw [hend rfl]
      rfl
  | cons c gap =>
      apply parted_cons
      have hspace := hblank c List.mem_cons_self
      cases hcontinues : continuesIdentifier c with
      | false => rfl
      | true =>
          rw [isWhitespace_eq_false_of_continuesIdentifier hcontinues] at hspace
          contradiction

/-- A lexeme stays one before anything that parts it from what follows. -/
theorem Lexeme.of_parted {other : List Char} (h : Lexeme lexeme other) (hrest : Parted rest) :
    Lexeme lexeme rest := by
  cases h with
  | word hfirst hothers => exact .word hfirst hothers hrest
  | numeral hfirst hothers =>
      refine .numeral hfirst hothers ?_
      cases rest with
      | nil => rfl
      | cons c rest => exact isDigit_eq_false_of_continuesIdentifier hrest
  | single hspace hword hdigit => exact .single hspace hword hdigit

theorem Spells.blank (h : Spells rest texts) (hblank : ∀ c ∈ gap, isWhitespace c = true) :
    Spells (gap ++ rest) texts := by
  induction gap with
  | nil => exact h
  | cons c gap ih =>
      obtain ⟨hspace, hlater⟩ := List.forall_mem_cons.mp hblank
      exact (ih hlater).space c hspace

theorem spells_chars {parts : List (String × List Char)}
    (hlexemes : ∀ part ∈ parts, ∃ other, Lexeme part.1.toList other)
    (hblank : ∀ part ∈ parts, ∀ c ∈ part.2, isWhitespace c = true)
    (hapart : ∀ part ∈ parts.dropLast, part.2 ≠ []) :
    Spells (Layout.chars parts) (parts.map Prod.fst) := by
  induction parts with
  | nil => exact .nil
  | cons part parts ih =>
      obtain ⟨text, gap⟩ := part
      obtain ⟨⟨other, hlexeme⟩, hlexemes⟩ := List.forall_mem_cons.mp hlexemes
      obtain ⟨hgap, hblank⟩ := List.forall_mem_cons.mp hblank
      have hend : gap = [] → Layout.chars parts = [] := by
        intro hempty
        cases parts with
        | nil => rfl
        | cons next parts => exact absurd hempty (hapart (text, gap) (by simp))
      have hlater : ∀ part ∈ parts.dropLast, part.2 ≠ [] := by
        intro part hmem
        apply hapart
        cases parts with
        | nil => contradiction
        | cons next parts => exact List.mem_cons_of_mem _ hmem
      have hspells := (ih hlexemes hblank hlater).blank hgap
      have htext := hspells.lexeme (hlexeme.of_parted (parted_of_blank hgap hend))
      simpa [Layout.chars] using htext

end Token

/-- A text laid out anew has the tokens that it had. -/
theorem Layout.texts_tokenize_source {source : String} (layout : Layout)
    (htexts : layout.texts = (tokenize source).map Token.text) :
    (tokenize layout.source).map Token.text = layout.texts := by
  have hscans : Token.Scans 0 source.toList (tokenize source) := Token.tokenize_eq_iff.mp rfl
  have hlexemes : ∀ part ∈ layout.parts, ∃ other, Token.Lexeme part.1.toList other := by
    intro part hmem
    have htext : part.1 ∈ (tokenize source).map Token.text :=
      htexts ▸ List.mem_map_of_mem hmem
    obtain ⟨token, htoken, hsame⟩ := List.mem_map.mp htext
    obtain ⟨_, other, -, -, hlexeme⟩ := hscans.exists_lexeme htoken
    exact ⟨other, hsame ▸ hlexeme⟩
  apply Token.Spells.texts_tokenize
  rw [Layout.source, String.toList_ofList]
  exact (Token.spells_chars hlexemes layout.blank_parts layout.apart).blank layout.blank_lead

namespace Program

open RangeCalc.Grammar

variable {source other : String}

/-- Where the token with this number starts, or the end of the text behind the last token. -/
def startOf (source : String) (number : Nat) : Nat :=
  offsetAt source ((Cursor.ofList (tokenize source)).advance number)

theorem cursor_unplaced_eq (htexts : (tokenize source).map Token.text =
    (tokenize other).map Token.text) :
    Move.unplaced.cursor (.ofList (tokenize source)) =
      Move.unplaced.cursor (.ofList (tokenize other)) := by
  have hunplaced : Token.unplaced = (Token.mk · 0) ∘ Token.text := rfl
  simp only [Move.cursor, Move.unplaced, Cursor.position_ofList, Cursor.remaining_ofList,
    hunplaced, ← List.map_map, htexts]

/-- A refusal is of a token, by its number, or of the end. -/
theorem parse_eq_error_startOf {message : String} {rest : Cursor Token}
    (hrun : program.run (.ofList (tokenize source)) = .failed message rest) :
    rest.position ≤ (tokenize source).length ∧
      parse source = .error (.located source message (startOf source rest.position)) := by
  obtain ⟨count, hcount, hrest⟩ := (forward_program (.inr ⟨message, hrun⟩)).exists_advance
  obtain rfl : rest.position = count := by simp [hrest]
  refine ⟨hcount, ?_⟩
  unfold parse startOf
  simp only [hrun, ← hrest]

theorem parse_of_texts_eq
    (htexts : (tokenize source).map Token.text = (tokenize other).map Token.text) :
    (∃ e, parse source = .ok e ∧ parse other = .ok e) ∨
      ∃ message number, number ≤ (tokenize source).length ∧
        parse source = .error (.located source message (startOf source number)) ∧
        parse other = .error (.located other message (startOf other number)) := by
  have hsame : Move.unplaced.outcome id (program.run (.ofList (tokenize source))) =
      Move.unplaced.outcome id (program.run (.ofList (tokenize other))) := by
    rw [← follows_program, ← follows_program, cursor_unplaced_eq htexts]
  rcases Move.cases_of_outcome_eq hsame with
    ⟨e, rest, rest', hrun, hother⟩ | ⟨message, rest, rest', hrun, hother, hposition⟩ | hrun
  · refine .inl ⟨e, ?_, ?_⟩
    · unfold parse
      simp only [hrun]
    · unfold parse
      simp only [hother]
  · obtain ⟨hnumber, hrefused⟩ := parse_eq_error_startOf hrun
    obtain ⟨-, hotherRefused⟩ := parse_eq_error_startOf hother
    exact .inr ⟨message, rest.position, hnumber, hrefused, hposition ▸ hotherRefused⟩
  · exact absurd hrun (returns_program _)

/-- Only the texts of the tokens count, and they stay the same in every layout. -/
theorem layout_is_immaterial :
    (∀ (source : String) (layout : Layout),
      layout.texts = (tokenize source).map Token.text →
        (tokenize layout.source).map Token.text = (tokenize source).map Token.text) ∧
      ∀ source other : String,
        (tokenize source).map Token.text = (tokenize other).map Token.text →
          (∃ e, parse source = .ok e ∧ parse other = .ok e) ∨
            ∃ message number, number ≤ (tokenize source).length ∧
              parse source = .error (.located source message (startOf source number)) ∧
              parse other = .error (.located other message (startOf other number)) := by
  constructor
  · intro source layout htexts
    rw [layout.texts_tokenize_source htexts, htexts]
  · exact fun source other htexts => parse_of_texts_eq htexts

/-- A sum over two lines, and a parenthesis that was not opened. -/
def spread : Layout where
  lead := ['\n']
  parts := [("1", [' ']), ("+", ['\t', '\n']), ("x", [' ', ' ']), (")", [])]
  blank_lead := by
    rw [List.forall_mem_singleton]
    decide
  blank_parts := by
    simp only [List.forall_mem_cons, List.not_mem_nil, false_implies, implies_true, and_true]
    decide
  apart := by decide

theorem layout_is_immaterial_refused :
    spread.texts = (tokenize "1+x)").map Token.text ∧
      ∃ message number, number ≤ 4 ∧
        parse spread.source =
          .error (.located spread.source message (startOf spread.source number)) ∧
        parse "1+x)" = .error (.located "1+x)" message (startOf "1+x)" number)) := by
  have htexts : spread.texts = (tokenize "1+x)").map Token.text := by decide +kernel
  have hsame := layout_is_immaterial.1 "1+x)" spread htexts
  rcases layout_is_immaterial.2 spread.source "1+x)" hsame with
    ⟨e, -, hparse⟩ | ⟨message, number, hnumber, hrefused⟩
  · have hrefused : parse "1+x)" =
        .error ⟨"expected an operator or end of input, got ')'", 3, 1, 4⟩ := by
      decide +kernel
    rw [hrefused] at hparse
    contradiction
  · have hlength : (tokenize spread.source).length = 4 := by
      rw [← List.length_map Token.text, hsame, ← htexts]
      rfl
    exact ⟨htexts, message, number, hlength ▸ hnumber, hrefused⟩

end Program

end RangeCalc
