import RangeCalc.Token.Basic

/-! The shapes of tokens exclude each other: white space, digits and the first characters of words
are different characters, and no numeral or identifier is a symbol or a keyword. -/

namespace RangeCalc

namespace Text

theorem isDigit_iff {c : Char} : isDigit c = true ↔ 48 ≤ c.toNat ∧ c.toNat ≤ 57 := by
  simp [isDigit, Char.le_def, UInt32.le_iff_toNat_le]

theorem isAsciiLetter_iff {c : Char} : isAsciiLetter c = true ↔
    (97 ≤ c.toNat ∧ c.toNat ≤ 122) ∨ (65 ≤ c.toNat ∧ c.toNat ≤ 90) := by
  simp [isAsciiLetter, Char.le_def, UInt32.le_iff_toNat_le]

theorem isAlphanumeric_of_isDigit {c : Char} (hdigit : isDigit c = true) :
    isAlphanumeric c = true := by
  have hrange := isDigit_iff.mp hdigit
  have hascii : c.toNat < 0x80 := by omega
  simp [isAlphanumeric, isNumeric, hascii, hdigit]

theorem isAlphabetic_eq_false_of_isDigit {c : Char} (hdigit : isDigit c = true) :
    isAlphabetic c = false := by
  have hrange := isDigit_iff.mp hdigit
  have hascii : c.toNat < 0x80 := by omega
  have hletter : ¬ isAsciiLetter c = true := by
    rw [isAsciiLetter_iff]
    omega
  simpa [isAlphabetic, hascii] using hletter

private def wideSpaces : List Nat :=
  [0x85, 0xA0, 0x1680, 0x2000, 0x2001, 0x2002, 0x2003, 0x2004, 0x2005, 0x2006, 0x2007, 0x2008,
    0x2009, 0x200A, 0x2028, 0x2029, 0x202F, 0x205F, 0x3000]

private theorem contains_wideSpaces : ∀ point ∈ wideSpaces,
    alphabetic.contains point = false ∧ numeric.contains point = false := by
  decide +kernel

private theorem mem_wideSpaces {c : Char} (hspace : isWhitespace c = true)
    (hwide : ¬ c.toNat < 0x80) : c.toNat ∈ wideSpaces := by
  simp [isWhitespace, hwide] at hspace
  simp only [wideSpaces, List.mem_cons]
  omega

theorem isAlphanumeric_eq_false_of_isWhitespace {c : Char} (hspace : isWhitespace c = true) :
    isAlphanumeric c = false := by
  by_cases hascii : c.toNat < 0x80
  · have hletter : ¬ isAsciiLetter c = true := by
      simp [isWhitespace, hascii] at hspace
      rw [isAsciiLetter_iff]
      omega
    have hdigit : ¬ isDigit c = true := by
      simp [isWhitespace, hascii] at hspace
      rw [isDigit_iff]
      omega
    simpa [isAlphanumeric, isAlphabetic, isNumeric, hascii] using And.intro hletter hdigit
  · have hpoint := contains_wideSpaces c.toNat (mem_wideSpaces hspace hascii)
    simp [isAlphanumeric, isAlphabetic, isNumeric, hascii, hpoint]

end Text

namespace Token

open RangeCalc.Text

variable {c : Char} {text : String}

theorem startsIdentifier_eq_false_of_isDigit (hdigit : isDigit c = true) :
    startsIdentifier c = false := by
  have hletter := isAlphabetic_eq_false_of_isDigit hdigit
  have hline : c ≠ '_' := by
    rintro rfl
    exact absurd hdigit (by decide)
  simp [startsIdentifier, hletter, hline]

theorem isDigit_eq_false_of_startsIdentifier (hstarts : startsIdentifier c = true) :
    isDigit c = false := by
  apply Bool.eq_false_iff.mpr
  intro hdigit
  rw [startsIdentifier_eq_false_of_isDigit hdigit] at hstarts
  contradiction

theorem continuesIdentifier_of_startsIdentifier (hstarts : startsIdentifier c = true) :
    continuesIdentifier c = true := by
  simp only [startsIdentifier, Bool.or_eq_true] at hstarts
  rcases hstarts with hletter | hline
  · simp [continuesIdentifier, isAlphanumeric, hletter]
  · simp [continuesIdentifier, hline]

theorem continuesIdentifier_of_isDigit (hdigit : isDigit c = true) :
    continuesIdentifier c = true := by
  simp [continuesIdentifier, isAlphanumeric_of_isDigit hdigit]

theorem isDigit_eq_false_of_continuesIdentifier (hcontinues : continuesIdentifier c = false) :
    isDigit c = false := by
  apply Bool.eq_false_iff.mpr
  intro hdigit
  rw [continuesIdentifier_of_isDigit hdigit] at hcontinues
  contradiction

theorem isWhitespace_eq_false_of_continuesIdentifier (hcontinues : continuesIdentifier c = true) :
    isWhitespace c = false := by
  apply Bool.eq_false_iff.mpr
  intro hspace
  have hletter := isAlphanumeric_eq_false_of_isWhitespace hspace
  simp only [continuesIdentifier, hletter, Bool.false_or, Bool.or_eq_true, beq_iff_eq] at hcontinues
  rcases hcontinues with hline | hprime
  · rw [hline] at hspace
    exact absurd hspace (by decide)
  · rw [hprime] at hspace
    exact absurd hspace (by decide)

theorem isNumeral_iff :
    isNumeral text = true ↔ text.toList ≠ [] ∧ ∀ c ∈ text.toList, isDigit c = true := by
  simp [isNumeral]

private theorem punctuation_cases : ∀ symbol ∈ punctuation,
    symbol.toList.length = 1 ∧
      symbol.toList.all fun c => !isWhitespace c && !startsIdentifier c && !isDigit c := by
  decide

theorem eq_toString_of_mem_punctuation {symbol : String} (hsymbol : symbol ∈ punctuation) :
    ∃ c : Char, symbol = c.toString ∧
      isWhitespace c = false ∧ startsIdentifier c = false ∧ isDigit c = false := by
  obtain ⟨hlength, hchars⟩ := punctuation_cases symbol hsymbol
  obtain ⟨c, hc⟩ := List.length_eq_one_iff.mp hlength
  refine ⟨c, String.toList_inj.mp (by simpa using hc), ?_⟩
  simpa [hc, and_assoc] using hchars

private theorem not_word_of_mem : ∀ text ∈ keywords ++ punctuation,
    isNumeral text = false ∧ isIdentifier text = false := by
  decide

theorem ne_of_isNumeral (hnumeral : isNumeral text = true) :
    ∀ other ∈ keywords ++ punctuation, text ≠ other := by
  rintro other hmem rfl
  rw [(not_word_of_mem text hmem).1] at hnumeral
  contradiction

theorem ne_of_isIdentifier (hname : isIdentifier text = true) :
    ∀ other ∈ keywords ++ punctuation, text ≠ other := by
  rintro other hmem rfl
  rw [(not_word_of_mem text hmem).2] at hname
  contradiction

theorem exists_cons_of_isIdentifier (hname : isIdentifier text = true) :
    ∃ first others, text.toList = first :: others ∧ startsIdentifier first = true ∧
      ∀ c ∈ others, continuesIdentifier c = true := by
  unfold isIdentifier at hname
  split at hname
  · contradiction
  · next first others hchars =>
    simp only [Bool.and_eq_true, List.all_eq_true] at hname
    exact ⟨first, others, hchars, hname.1.1, hname.1.2⟩

theorem continuesIdentifier_of_mem (hname : isIdentifier text = true) :
    ∀ c ∈ text.toList, continuesIdentifier c = true := by
  obtain ⟨first, others, hchars, hfirst, hothers⟩ := exists_cons_of_isIdentifier hname
  rw [hchars, List.forall_mem_cons]
  exact ⟨continuesIdentifier_of_startsIdentifier hfirst, hothers⟩

theorem isNumeral_eq_false_of_isIdentifier (hname : isIdentifier text = true) :
    isNumeral text = false := by
  apply Bool.eq_false_iff.mpr
  intro hnumeral
  obtain ⟨-, hdigits⟩ := isNumeral_iff.mp hnumeral
  obtain ⟨first, others, hchars, hfirst, -⟩ := exists_cons_of_isIdentifier hname
  rw [startsIdentifier_eq_false_of_isDigit (hdigits first (by simp [hchars]))] at hfirst
  contradiction

end Token

end RangeCalc
