import RangeCalc.Proofs.Expr.Normal
import RangeCalc.Proofs.Token.Scan

/-! The tokens of written expressions. Texts of tokens run together only where one word or numeral
follows another, and there the printer writes a space. -/

namespace RangeCalc

namespace Token

open RangeCalc.Text

/-- The tokens of the characters have these texts, wherever the characters stand. -/
def Spells (chars : List Char) (texts : List String) : Prop :=
  ∀ offset, ∃ tokens, Scans offset chars tokens ∧ tokens.map Token.text = texts

/-- No word or numeral goes on into the characters. -/
def Parted (chars : List Char) : Prop :=
  chars.head?.any continuesIdentifier = false

theorem parted_cons {c : Char} (chars : List Char) (hc : continuesIdentifier c = false) :
    Parted (c :: chars) :=
  hc

theorem parted_space (chars : List Char) : Parted (' ' :: chars) :=
  parted_cons chars (by decide)

namespace Lexeme

variable {text : String} {rest : List Char}

theorem of_isNumeral (hnumeral : isNumeral text = true) (hrest : Parted rest) :
    Lexeme text.toList rest := by
  obtain ⟨hnonempty, hdigits⟩ := isNumeral_iff.mp hnumeral
  obtain ⟨first, others, hchars⟩ := List.exists_cons_of_ne_nil hnonempty
  rw [hchars] at hdigits ⊢
  obtain ⟨hfirst, hothers⟩ := List.forall_mem_cons.mp hdigits
  apply Lexeme.numeral hfirst hothers
  cases rest with
  | nil => rfl
  | cons c rest => exact isDigit_eq_false_of_continuesIdentifier hrest

theorem of_isIdentifier (hname : isIdentifier text = true) (hrest : Parted rest) :
    Lexeme text.toList rest := by
  obtain ⟨first, others, hchars, hfirst, hothers⟩ := exists_cons_of_isIdentifier hname
  rw [hchars]
  exact .word hfirst hothers hrest

private theorem keyword_cases : ∀ wanted ∈ keywords,
    wanted.toList.head?.any startsIdentifier = true ∧
      wanted.toList.all continuesIdentifier = true := by
  decide

theorem of_mem_keywords (hkeyword : text ∈ keywords) (hrest : Parted rest) :
    Lexeme text.toList rest := by
  obtain ⟨hfirst, hall⟩ := keyword_cases text hkeyword
  cases hchars : text.toList with
  | nil => simp [hchars] at hfirst
  | cons first others =>
      rw [hchars] at hfirst hall
      rw [List.all_cons, Bool.and_eq_true] at hall
      exact .word hfirst (List.all_eq_true.mp hall.2) hrest

theorem of_mem_punctuation (hsymbol : text ∈ punctuation) (rest : List Char) :
    Lexeme text.toList rest := by
  obtain ⟨c, rfl, hspace, hword, hdigit⟩ := eq_toString_of_mem_punctuation hsymbol
  rw [Char.toString_eq_singleton, String.toList_singleton]
  exact .single hspace hword hdigit

end Lexeme

namespace Spells

variable {text name : String} {rest : List Char} {texts : List String}

theorem nil : Spells [] [] :=
  fun _ => ⟨[], .nothing, rfl⟩

theorem space (h : Spells rest texts) (c : Char) (hspace : isWhitespace c = true) :
    Spells (c :: rest) texts := by
  intro offset
  obtain ⟨tokens, hscans, htexts⟩ := h (offset + 1)
  exact ⟨tokens, .space hspace hscans, htexts⟩

theorem lexeme (h : Spells rest texts) (hlexeme : Lexeme text.toList rest) :
    Spells (text.toList ++ rest) (text :: texts) := by
  intro offset
  obtain ⟨tokens, hscans, htexts⟩ := h (offset + text.toList.length)
  exact ⟨_, .token hlexeme hscans, by simp [htexts]⟩

theorem symbol (h : Spells rest texts) (text : String) (hsymbol : text ∈ punctuation) :
    Spells (text.toList ++ rest) (text :: texts) :=
  h.lexeme (.of_mem_punctuation hsymbol rest)

theorem keyword (h : Spells rest texts) (text : String) (hkeyword : text ∈ keywords) :
    Spells (text.toList ++ ' ' :: rest) (text :: texts) :=
  (h.space ' ' (by decide)).lexeme (.of_mem_keywords hkeyword (parted_space rest))

theorem texts_tokenize {source : String} (h : Spells source.toList texts) :
    (tokenize source).map Token.text = texts := by
  obtain ⟨tokens, hscans, htexts⟩ := h 0
  rw [tokenize_eq_iff.mpr hscans, htexts]

end Spells

theorem isNumeral_repr (n : Nat) : isNumeral n.repr = true := by
  refine isNumeral_iff.mpr ⟨?_, fun c hc => ?_⟩
  · rw [Nat.toList_repr]
    exact Nat.toDigits_ne_nil
  · rw [Nat.toList_repr] at hc
    have hdigit := Nat.isDigit_of_mem_toDigits (by decide) (by decide) hc
    exact isDigit_iff.mpr (by simpa [Char.isDigit, UInt32.le_iff_toNat_le] using hdigit)

end Token

def Integer.texts (n : Int64) : List String :=
  if n.toInt < 0 then ["-", (-n.toInt).toNat.repr] else [n.toInt.toNat.repr]

namespace Expr

def inputTexts (lower upper : Int64) : List String :=
  if lower = Int64.minValue ∧ upper = Int64.maxValue then ["?"]
  else "?" :: "[" :: (Integer.texts lower ++ "," :: (Integer.texts upper ++ ["]"]))

def encloseTexts (power level : Nat) (texts : List String) : List String :=
  if level ≤ power then texts else "(" :: (texts ++ [")"])

def textsAt : Expr → Nat → List String
  | literal value, _ => Integer.texts value
  | input lower upper, _ => inputTexts lower upper
  | var name, _ => [name]
  | negate operand, _ => "-" :: operand.textsAt 4
  | binary op left right, level =>
      encloseTexts op.power level
        (left.textsAt op.power ++ op.symbol :: right.textsAt (op.power + 1))
  | letIn name bound body, level =>
      encloseTexts 1 level
        ("let" :: name :: "=" :: (bound.textsAt 2 ++ "in" :: body.textsAt 1))

section Spelling

open RangeCalc.Token

/-- The texts of the tokens of a text, whatever parted characters follow. -/
private def Renders (text : String) (parts : List String) : Prop :=
  ∀ {rest texts}, Parted rest → Spells rest texts →
    Spells (text.toList ++ rest) (parts ++ texts)

private theorem renders_digits (n : Int64) : Renders (Integer.digits n) (Integer.texts n) := by
  intro rest texts hparted hspells
  have hnumeral : ∀ m : Nat, Spells (m.repr.toList ++ rest) (m.repr :: texts) :=
    fun m => hspells.lexeme (.of_isNumeral (isNumeral_repr m) hparted)
  by_cases hnegative : n.toInt < 0
  · rw [Integer.texts, if_pos hnegative, Integer.digits_of_neg hnegative, String.toList_append,
      List.append_assoc]
    exact (hnumeral _).symbol "-" (by decide)
  · rw [Integer.texts, if_neg hnegative, Integer.digits_of_nonneg (Int.not_lt.mp hnegative)]
    exact hnumeral _

private theorem renders_writeInput (lower upper : Int64) :
    Renders (writeInput lower upper) (inputTexts lower upper) := by
  intro rest texts hparted hspells
  rw [writeInput, inputTexts]
  split
  · exact hspells.symbol "?" (by decide)
  · have hclosing := hspells.symbol "]" (by decide)
    have hupper := renders_digits upper (parted_cons (c := ']') _ (by decide)) hclosing
    have hcomma := (hupper.space ' ' (by decide)).symbol "," (by decide)
    have hlower := renders_digits lower (parted_cons (c := ',') _ (by decide)) hcomma
    have hopening := (hlower.symbol "[" (by decide)).symbol "?" (by decide)
    simpa using hopening

private theorem renders_enclose {text : String} {parts : List String} (h : Renders text parts)
    (power level : Nat) : Renders (enclose power level text) (encloseTexts power level parts) := by
  intro rest texts hparted hspells
  rw [enclose, encloseTexts]
  split
  · exact h hparted hspells
  · have hclosing := hspells.symbol ")" (by decide)
    have hinside := h (parted_cons (c := ')') _ (by decide)) hclosing
    have hopening := hinside.symbol "(" (by decide)
    simpa using hopening

private theorem symbol_mem_punctuation (op : Operator) : op.symbol ∈ punctuation := by
  cases op <;> decide

private theorem renders_plainAt {literals : Int64 → Prop} {e : Expr} (h : e.WellFormed literals)
    {level : Nat} (hlevel : level ≤ 4) : Renders (e.plainAt level) (e.textsAt level) := by
  induction e generalizing level with
  | literal value =>
      rw [plainAt, enclose_of_le hlevel]
      exact renders_digits value
  | input lower upper =>
      rw [plainAt, enclose_of_le hlevel]
      exact renders_writeInput lower upper
  | var name =>
      rw [plainAt, enclose_of_le hlevel]
      exact fun hparted hspells => hspells.lexeme (.of_isIdentifier h hparted)
  | negate operand ih =>
      rw [plainAt, enclose_of_le hlevel]
      intro rest texts hparted hspells
      have hoperand := ih h (Nat.le_refl 4) hparted hspells
      simpa [textsAt] using hoperand.symbol "-" (by decide)
  | binary op left right ihLeft ihRight =>
      refine renders_enclose ?_ op.power level
      intro rest texts hparted hspells
      have hright := ihRight h.2 (op.power_lt_four) hparted hspells
      have hsymbol := (hright.space ' ' (by decide)).symbol op.symbol (symbol_mem_punctuation op)
      have hleft := ihLeft h.1 (Nat.le_of_lt op.power_lt_four) (parted_space _)
        (hsymbol.space ' ' (by decide))
      simpa using hleft
  | letIn name bound body ihBound ihBody =>
      refine renders_enclose ?_ 1 level
      intro rest texts hparted hspells
      have hbody := ihBody h.2.2 (show 1 ≤ 4 by decide) hparted hspells
      have hin := hbody.keyword "in" (by decide)
      have hbound :=
        ihBound h.2.1 (show 2 ≤ 4 by decide) (parted_space _) (hin.space ' ' (by decide))
      have hequals := (hbound.space ' ' (by decide)).symbol "=" (by decide)
      have hname := (hequals.space ' ' (by decide)).lexeme
        (.of_isIdentifier h.1 (parted_space _))
      have hlet := hname.keyword "let" (by decide)
      simpa using hlet

theorem texts_tokenize_write {literals : Int64 → Prop} {e : Expr} (h : e.WellFormed literals) :
    (tokenize e.write).map Token.text = e.textsAt 0 := by
  apply Spells.texts_tokenize
  have hparted : Parted [] := rfl
  rw [write_eq_plainAt]
  simpa using renders_plainAt h (Nat.zero_le 4) hparted .nil

end Spelling

end Expr

end RangeCalc
