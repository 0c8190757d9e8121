import RangeCalc.Proofs.Program.RoundTrip

/-! The printer writes no parentheses that could be left out. Each pair that it writes stands where
the grammar has no other way to the expression, so that every text of the expression has a pair
there. -/

namespace RangeCalc

namespace Text

/-- The opening parentheses of a text, whatever they stand for. -/
def openings (text : String) : Nat :=
  text.toList.count '('

def charsOf (texts : List String) : List Char :=
  texts.flatMap String.toList

@[simp] theorem charsOf_cons (text : String) (texts : List String) :
    charsOf (text :: texts) = text.toList ++ charsOf texts :=
  List.flatMap_cons

@[simp] theorem charsOf_append (texts later : List String) :
    charsOf (texts ++ later) = charsOf texts ++ charsOf later :=
  List.flatMap_append

/-- The opening parentheses that group. One behind a question mark delimits a range, also where
white space parts the two; `marked` tells whether a question mark stands before the characters. -/
def groupings : Bool → List Char → Nat
  | _, [] => 0
  | marked, c :: chars =>
      if isWhitespace c then groupings marked chars
      else (if c = '(' ∧ marked = false then 1 else 0) + groupings (c == '?') chars

variable {c : Char} {chars later : List Char} {marked : Bool} {n : Nat}

theorem groupings_space (hspace : isWhitespace c = true) :
    groupings marked (c :: chars) = groupings marked chars :=
  if_pos hspace

theorem groupings_cons (hspace : isWhitespace c = false) :
    groupings marked (c :: chars) =
      (if c = '(' ∧ marked = false then 1 else 0) + groupings (c == '?') chars := by
  rw [groupings, if_neg (Bool.eq_false_iff.mp hspace)]

theorem groupings_paren (chars : List Char) :
    groupings false ('(' :: chars) = 1 + groupings false chars :=
  rfl

theorem groupings_le_count (marked : Bool) (chars : List Char) :
    groupings marked chars ≤ chars.count '(' := by
  induction chars generalizing marked with
  | nil => exact Nat.le_refl 0
  | cons c chars ih =>
      rw [List.count_cons]
      cases hspace : isWhitespace c with
      | true =>
          rw [groupings_space hspace]
          exact Nat.le_add_right_of_le (ih marked)
      | false =>
          rw [groupings_cons hspace]
          have hhead : (if c = '(' ∧ marked = false then 1 else 0) ≤
              if (c == '(') = true then 1 else 0 := by
            split <;> simp_all
          have hlater := ih (c == '?')
          omega

/-- Of the characters in front, only whether they end in a question mark matters to the later
ones. -/
theorem exists_groupings_append (marked : Bool) (chars later : List Char) :
    ∃ marked', groupings marked (chars ++ later) =
      groupings marked chars + groupings marked' later := by
  induction chars generalizing marked with
  | nil => exact ⟨marked, (Nat.zero_add _).symm⟩
  | cons c chars ih =>
      rw [List.cons_append]
      cases hspace : isWhitespace c with
      | true =>
          rw [groupings_space hspace, groupings_space hspace]
          exact ih marked
      | false =>
          obtain ⟨marked', hchars⟩ := ih (c == '?')
          rw [groupings_cons hspace, groupings_cons hspace, hchars]
          exact ⟨marked', (Nat.add_assoc ..).symm⟩

theorem le_groupings_append (hlater : ∀ marked, n ≤ groupings marked later) (chars : List Char)
    (marked : Bool) : n ≤ groupings marked (chars ++ later) := by
  obtain ⟨marked', happend⟩ := exists_groupings_append marked chars later
  rw [happend]
  exact Nat.le_add_left_of_le (hlater marked')

/-- Behind a text that ends in anything but a question mark, a parenthesis groups. -/
theorem le_groupings_text (text : String)
    (hlast : text.toList.getLast?.any (fun c => !isWhitespace c && c != '?') = true)
    (later : List Char) (marked : Bool) :
    groupings false later ≤ groupings marked (text.toList ++ later) := by
  obtain ⟨c, hc, hplain⟩ := (Option.any_eq_true _ _).mp hlast
  obtain ⟨first, htext⟩ := List.getLast?_eq_some_iff.mp hc
  simp only [Bool.and_eq_true, Bool.not_eq_true', bne] at hplain
  rw [htext, List.append_assoc]
  refine le_groupings_append (fun marked => ?_) first marked
  rw [List.cons_append, groupings_cons hplain.1, hplain.2]
  exact Nat.le_add_left _ _

theorem groupings_append_congr (lexeme : List Char)
    (hsame : ∀ marked, groupings marked chars = groupings marked later) :
    groupings marked (lexeme ++ chars) = groupings marked (lexeme ++ later) := by
  induction lexeme generalizing marked with
  | nil => exact hsame marked
  | cons c lexeme ih => simp only [List.cons_append, groupings, ih]

/-- The white space between tokens has no say in what groups. -/
theorem groupings_of_scans {offset : Nat} {tokens : List Token}
    (hscans : Token.Scans offset chars tokens) (marked : Bool) :
    groupings marked chars = groupings marked (charsOf (tokens.map Token.text)) := by
  induction hscans generalizing marked with
  | nothing => rfl
  | space hspace _ ih => exact (groupings_space hspace).trans (ih marked)
  | token _ _ ih =>
      rw [List.map_cons, charsOf_cons, String.toList_ofList]
      exact groupings_append_congr _ ih

section Phrases

theorem groupings_negation (texts : List String) :
    groupings false (charsOf texts) ≤ groupings false (charsOf ("-" :: texts)) :=
  le_groupings_text "-" (by decide) _ false

theorem groupings_parenthesized (texts : List String) :
    1 + groupings false (charsOf texts) ≤ groupings false (charsOf ("(" :: (texts ++ [")"]))) := by
  obtain ⟨marked, hparts⟩ := exists_groupings_append false (charsOf texts) (charsOf [")"])
  calc 1 + groupings false (charsOf texts)
    _ ≤ 1 + groupings false (charsOf (texts ++ [")"])) := by
        rw [charsOf_append, hparts]
        exact Nat.add_le_add_left (Nat.le_add_right _ _) 1
    _ = groupings false (charsOf ("(" :: (texts ++ [")"]))) := (groupings_paren _).symm

theorem exists_groupings_further (op : Operator) (texts later : List String) (marked : Bool) :
    ∃ marked', groupings false (charsOf texts) + groupings marked' (charsOf later) ≤
      groupings marked (charsOf (op.symbol :: (texts ++ later))) := by
  obtain ⟨marked', hparts⟩ := exists_groupings_append false (charsOf texts) (charsOf later)
  refine ⟨marked', ?_⟩
  rw [← hparts, ← charsOf_append]
  exact le_groupings_text op.symbol (by cases op <;> decide) _ marked

theorem groupings_binding (name : String) (boundTexts bodyTexts : List String) :
    groupings false (charsOf boundTexts) + groupings false (charsOf bodyTexts) ≤
      groupings false
        (charsOf ("let" :: name :: "=" :: (boundTexts ++ "in" :: bodyTexts))) := by
  obtain ⟨marked, hparts⟩ :=
    exists_groupings_append false (charsOf boundTexts) (charsOf ("in" :: bodyTexts))
  rw [← charsOf_append] at hparts
  have hequals := le_groupings_text "=" (by decide) (charsOf (boundTexts ++ "in" :: bodyTexts))
  calc groupings false (charsOf boundTexts) + groupings false (charsOf bodyTexts)
    _ ≤ groupings false (charsOf boundTexts) + groupings marked (charsOf ("in" :: bodyTexts)) :=
        Nat.add_le_add_left (le_groupings_text "in" (by decide) _ marked) _
    _ = groupings false (charsOf (boundTexts ++ "in" :: bodyTexts)) := hparts.symm
    _ ≤ groupings false
          (charsOf ("let" :: name :: "=" :: (boundTexts ++ "in" :: bodyTexts))) :=
        le_groupings_append (le_groupings_append hequals name.toList) "let".toList false

end Phrases

@[simp] theorem openings_append (text text' : String) :
    openings (text ++ text') = openings text + openings text' := by
  rw [openings, String.toList_append, List.count_append]
  rfl

theorem openings_of_continuesIdentifier {text : String}
    (h : ∀ c ∈ text.toList, Token.continuesIdentifier c = true) : openings text = 0 := by
  rw [openings, List.count_eq_zero]
  intro hparen
  exact absurd (h '(' hparen) (by decide)

theorem openings_name {name : String} (hname : Token.isIdentifier name = true) :
    openings name = 0 :=
  openings_of_continuesIdentifier (Token.continuesIdentifier_of_mem hname)

theorem openings_repr (n : Nat) : openings n.repr = 0 := by
  apply openings_of_continuesIdentifier
  intro c hc
  apply Token.continuesIdentifier_of_isDigit
  exact (Token.isNumeral_iff.mp (Token.isNumeral_repr n)).2 c hc

theorem openings_symbol (op : Operator) : openings op.symbol = 0 := by
  cases op <;> rfl

theorem openings_digits (n : Int64) : openings (Integer.digits n) = 0 := by
  by_cases hnegative : n.toInt < 0
  · rw [Integer.digits_of_neg hnegative, openings_append, openings_repr]
    rfl
  · rw [Integer.digits_of_nonneg (Int.not_lt.mp hnegative), openings_repr]

end Text

namespace Expr

open RangeCalc.Text

variable {level level' : Nat}

theorem openings_writeInput (lower upper : Int64) : openings (writeInput lower upper) = 0 := by
  rw [writeInput]
  split
  · rfl
  · simp only [openings_append, openings_digits]
    rfl

theorem openings_enclose (power level : Nat) (text : String) :
    openings (enclose power level text) = (if level ≤ power then 0 else 1) + openings text := by
  rw [enclose]
  split
  · exact (Nat.zero_add _).symm
  · simp only [openings_append]
    rfl

theorem exists_plainAt_eq_enclose (e : Expr) :
    ∃ power text, ∀ level, e.plainAt level = enclose power level text := by
  cases e <;> exact ⟨_, _, fun _ => rfl⟩

theorem openings_plainAt_le_of_le (e : Expr) (hlevel : level ≤ level') :
    openings (e.plainAt level) ≤ openings (e.plainAt level') := by
  obtain ⟨power, text, hplain⟩ := e.exists_plainAt_eq_enclose
  rw [hplain, hplain, openings_enclose, openings_enclose]
  split <;> split <;> omega

theorem openings_plainAt_le_succ (e : Expr) (level level' : Nat) :
    openings (e.plainAt level) ≤ 1 + openings (e.plainAt level') := by
  obtain ⟨power, text, hplain⟩ := e.exists_plainAt_eq_enclose
  rw [hplain, hplain, openings_enclose, openings_enclose]
  split <;> split <;> omega

theorem openings_plainAt_negate (operand : Expr) :
    openings ((negate operand).plainAt 4) = openings (operand.plainAt 4) := by
  rw [plainAt, enclose_of_le (Nat.le_refl 4), openings_append]
  exact Nat.zero_add _

theorem openings_plainAt_binary (op : Operator) (left right : Expr) :
    openings ((binary op left right).plainAt op.power) =
      openings (left.plainAt op.power) + openings (right.plainAt (op.power + 1)) := by
  have hspace : openings " " = 0 := rfl
  rw [plainAt, enclose_of_le (Nat.le_refl _)]
  simp only [openings_append, openings_symbol, hspace, Nat.zero_add]

theorem openings_plainAt_letIn {name : String} (hname : Token.isIdentifier name = true)
    (bound body : Expr) :
    openings ((letIn name bound body).plainAt 1) =
      openings (bound.plainAt 2) + openings (body.plainAt 1) := by
  have hlet : openings "let " = 0 := rfl
  have hequals : openings " = " = 0 := rfl
  have hin : openings " in " = 0 := rfl
  rw [plainAt, enclose_of_le (Nat.le_refl _)]
  simp only [openings_append, openings_name hname, hlet, hequals, hin, Nat.zero_add, Nat.add_zero]

end Expr

namespace Grammar

open RangeCalc.Text

/-- The characters group as often as parentheses are needed around the parts of the expression. The
operands that follow in a chain do not group for what stands left of them. -/
def Nonterminal.GroupsFor : Nonterminal → List Char → Expr → Prop
  | .further op left, chars, e => ∀ marked,
      openings (e.plainAt op.power) ≤ openings (left.plainAt op.power) + groupings marked chars
  | nonterminal, chars, e => openings (e.plainAt nonterminal.level) ≤ groupings false chars

theorem Nonterminal.groupsFor_operand {op : Operator} {chars : List Char} {e : Expr} :
    (operand op).GroupsFor chars e ↔
      openings (e.plainAt (op.power + 1)) ≤ groupings false chars := by
  cases op <;> rfl

theorem Nonterminal.groupsFor_leaf (e : Expr) (hleaf : openings (e.plainAt 4) = 0)
    (chars : List Char) : atom.GroupsFor chars e := by
  change openings (e.plainAt 4) ≤ groupings false chars
  omega

theorem Derives.groupsFor {limit depth : Nat} {nonterminal : Nonterminal} {texts : List String}
    {e : Expr} (h : Derives limit nonterminal depth texts e) :
    nonterminal.GroupsFor (charsOf texts) e := by
  induction h with
  | @binding _ name boundTexts bodyTexts bound body _ hname _ _ ihBound ihBody =>
      calc openings ((Expr.letIn name bound body).plainAt 1)
        _ = openings (bound.plainAt 2) + openings (body.plainAt 1) :=
            Expr.openings_plainAt_letIn hname bound body
        _ ≤ groupings false (charsOf boundTexts) + groupings false (charsOf bodyTexts) :=
            Nat.add_le_add ihBound ihBody
        _ ≤ _ := groupings_binding name boundTexts bodyTexts
  | @sum _ _ e _ ih => exact Nat.le_trans (e.openings_plainAt_le_of_le (Nat.le_succ 1)) ih
  | @chain op _ texts later first e _ _ ihFirst ihLater =>
      -- The operands to come group whatever the first one ends in.
      obtain ⟨marked, hparts⟩ := exists_groupings_append false (charsOf texts) (charsOf later)
      calc openings (e.plainAt op.power)
        _ ≤ openings (first.plainAt op.power) + groupings marked (charsOf later) := ihLater marked
        _ ≤ openings (first.plainAt (op.power + 1)) + groupings marked (charsOf later) :=
            Nat.add_le_add_right (first.openings_plainAt_le_of_le (Nat.le_add_right ..)) _
        _ ≤ groupings false (charsOf texts) + groupings marked (charsOf later) :=
            Nat.add_le_add_right (Nonterminal.groupsFor_operand.mp ihFirst) _
        _ = groupings false (charsOf (texts ++ later)) := by
            rw [charsOf_append, hparts]
  | last => exact fun _ => Nat.le_add_right _ _
  | @further op _ texts later left right _ _ _ ihRight ihLater =>
      intro marked
      obtain ⟨marked', hparts⟩ := exists_groupings_further op texts later marked
      have hright := Nonterminal.groupsFor_operand.mp ihRight
      have hlater := ihLater marked'
      -- The chain so far, with this operand, is the left operand of what comes next.
      rw [Expr.openings_plainAt_binary] at hlater
      omega
  | @parenthesized _ texts e _ _ ih =>
      calc openings (e.plainAt 4)
        _ ≤ 1 + openings (e.plainAt 1) := e.openings_plainAt_le_succ 4 1
        _ ≤ 1 + groupings false (charsOf texts) := Nat.add_le_add_left ih 1
        _ ≤ _ := groupings_parenthesized texts
  | unbounded => exact Nat.zero_le _
  | @input _ _ _ lower upper _ _ =>
      exact Nonterminal.groupsFor_leaf (.input lower upper) (Expr.openings_writeInput lower upper) _
  | @negation _ texts operand _ _ ih =>
      calc openings ((Expr.negate operand).plainAt 4)
        _ = openings (operand.plainAt 4) := Expr.openings_plainAt_negate operand
        _ ≤ groupings false (charsOf texts) := ih
        _ ≤ _ := groupings_negation texts
  | @literal _ _ value _ _ =>
      exact Nonterminal.groupsFor_leaf (.literal value) (openings_digits value) _
  | @var _ name hname => exact Nonterminal.groupsFor_leaf (.var name) (openings_name hname) _

end Grammar

namespace Program

open RangeCalc.Text

variable {source : String} {e : Expr}

theorem openings_write_le (hparse : parse source = .ok e) :
    openings e.write ≤ groupings false source.toList := by
  have hgroups := (parse_eq_ok_iff.mp hparse).groupsFor
  rw [Expr.write_eq_plainAt, groupings_of_scans (Token.tokenize_eq_iff.mp rfl)]
  exact Nat.le_trans (e.openings_plainAt_le_of_le (Nat.zero_le 1)) hgroups

/-- Of the texts that are read as an expression, the written one groups the least, and all its
opening parentheses group. -/
theorem fewest_groupings (hparse : parse source = .ok e) :
    e.write.toList.count '(' ≤ groupings false source.toList ∧ parse e.write = .ok e ∧
      groupings false e.write.toList = e.write.toList.count '(' := by
  obtain ⟨hcanonical, hnesting⟩ := fits_of_parse hparse
  have hwritten : parse e.write = .ok e := parse_write_of_canonical hcanonical hnesting
  refine ⟨openings_write_le hparse, hwritten, ?_⟩
  exact Nat.le_antisymm (groupings_le_count false _) (openings_write_le hwritten)

/-- `let x = ? (0, 9) in ((1 + x)) * -(-2)`, as it is read. Of the four opening parentheses one
delimits the range and one is needed. -/
private def delimited : Expr :=
  .letIn "x" (.input 1 8)
    (.binary .times (.binary .plus (.literal 1) (.var "x")) (.negate (.negate (.literal 2))))

theorem fewest_groupings_delimited :
    groupings false "let x = ? (0, 9) in ((1 + x)) * -(-2)".toList = 3 ∧
      delimited.write.toList.count '(' ≤
        groupings false "let x = ? (0, 9) in ((1 + x)) * -(-2)".toList ∧
      parse delimited.write = .ok delimited ∧
      groupings false delimited.write.toList = delimited.write.toList.count '(' := by
  have hcount : groupings false "let x = ? (0, 9) in ((1 + x)) * -(-2)".toList = 3 := by
    decide +kernel
  have hparse : parse "let x = ? (0, 9) in ((1 + x)) * -(-2)" = .ok delimited := by
    decide +kernel
  exact ⟨hcount, fewest_groupings hparse⟩

end Program

end RangeCalc
