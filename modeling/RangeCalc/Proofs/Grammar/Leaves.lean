import RangeCalc.Grammar.Rules
import RangeCalc.Proofs.Grammar.Derivation
import RangeCalc.Proofs.Parser.Runs
import RangeCalc.Proofs.Token.Shapes

/-! What the rules without expressions inside them take from the tokens: words, numerals and
ranges. Each succeeds on exactly the texts that the language has for it. -/

namespace RangeCalc.Grammar

open RangeCalc.Parser

/-- The tokens from one cursor to the other have these texts. -/
def Reads : Cursor Token → List String → Cursor Token → Prop
  | start, [], stop => start = stop
  | start, text :: texts, stop =>
      ∃ token rest, start.next = some (token, rest) ∧ token.text = text ∧ Reads rest texts stop

namespace Reads

variable {start middle stop : Cursor Token} {text : String} {texts later : List String}

@[simp] theorem nil_iff : Reads start [] stop ↔ start = stop := Iff.rfl

theorem refl (start : Cursor Token) : Reads start [] start := rfl

theorem cons_iff : Reads start (text :: texts) stop ↔
    ∃ token rest, start.next = some (token, rest) ∧ token.text = text ∧ Reads rest texts stop :=
  Iff.rfl

theorem singleton_iff : Reads start [text] stop ↔
    ∃ token, start.next = some (token, stop) ∧ token.text = text := by
  simp only [cons_iff, nil_iff]
  constructor
  · intro hparts
    obtain ⟨token, _, hnext, htext, rfl⟩ := hparts
    exact ⟨token, hnext, htext⟩
  · intro hparts
    obtain ⟨token, hnext, htext⟩ := hparts
    exact ⟨token, stop, hnext, htext, rfl⟩

theorem append_iff : Reads start (texts ++ later) stop ↔
    ∃ middle, Reads start texts middle ∧ Reads middle later stop := by
  induction texts generalizing start with
  | nil => simp
  | cons text texts ih =>
      simp only [List.cons_append, cons_iff, ih]
      constructor
      · intro hparts
        obtain ⟨token, rest, hnext, htext, middle, hfirst, hlater⟩ := hparts
        exact ⟨middle, ⟨token, rest, hnext, htext, hfirst⟩, hlater⟩
      · intro hparts
        obtain ⟨middle, ⟨token, rest, hnext, htext, hfirst⟩, hlater⟩ := hparts
        exact ⟨token, rest, hnext, htext, middle, hfirst, hlater⟩

theorem cons_iff_exists_singleton : Reads start (text :: texts) stop ↔
    ∃ middle, Reads start [text] middle ∧ Reads middle texts stop := by
  rw [← List.singleton_append, append_iff]

theorem cons (hfirst : Reads start [text] middle) (hlater : Reads middle texts stop) :
    Reads start (text :: texts) stop :=
  cons_iff_exists_singleton.mpr ⟨middle, hfirst, hlater⟩

theorem append (hfirst : Reads start texts middle) (hlater : Reads middle later stop) :
    Reads start (texts ++ later) stop :=
  append_iff.mpr ⟨middle, hfirst, hlater⟩

theorem exists_passed (h : Reads start texts stop) :
    ∃ passed, start.remaining = passed ++ stop.remaining ∧ passed.map Token.text = texts := by
  induction texts generalizing start with
  | nil => exact ⟨[], by rw [nil_iff.mp h]; rfl, rfl⟩
  | cons text texts ih =>
      obtain ⟨token, rest, hnext, rfl, hlater⟩ := h
      obtain ⟨position, items⟩ := start
      cases items with
      | nil => contradiction
      | cons item items =>
          cases hnext
          obtain ⟨passed, hremaining, rfl⟩ := ih hlater
          exact ⟨token :: passed, congrArg (token :: ·) hremaining, rfl⟩

theorem map_remaining (h : Reads start texts stop) :
    start.remaining.map Token.text = texts ++ stop.remaining.map Token.text := by
  obtain ⟨passed, hremaining, rfl⟩ := h.exists_passed
  rw [hremaining, List.map_append]

theorem peek (h : Reads start (text :: texts) stop) :
    ∃ token, start.peek = some token ∧ token.text = text := by
  obtain ⟨token, rest, hnext, htext, -⟩ := h
  obtain ⟨position, items⟩ := start
  cases items with
  | nil => contradiction
  | cons item items =>
      cases hnext
      exact ⟨token, rfl, htext⟩

theorem length_remaining (h : Reads start texts stop) :
    start.remaining.length = texts.length + stop.remaining.length := by
  simpa using congrArg List.length h.map_remaining

theorem position_eq (h : Reads start texts stop) :
    stop.position = start.position + texts.length := by
  induction texts generalizing start with
  | nil =>
      obtain rfl := nil_iff.mp h
      rfl
  | cons text texts ih =>
      obtain ⟨token, rest, hnext, -, hlater⟩ := h
      rw [ih hlater, Cursor.next_eq_some_advance hnext, Cursor.position_advance, List.length_cons,
        Nat.add_assoc, Nat.add_comm 1]

end Reads

theorem exists_reads {start : Cursor Token} {texts later : List String}
    (h : start.remaining.map Token.text = texts ++ later) :
    ∃ stop, Reads start texts stop ∧ stop.remaining.map Token.text = later := by
  induction texts generalizing start with
  | nil => exact ⟨start, rfl, h⟩
  | cons text texts ih =>
      obtain ⟨position, items⟩ := start
      cases items with
      | nil => simp at h
      | cons item items =>
          obtain ⟨htext, hitems⟩ := List.cons.inj h
          have hitems : (Cursor.mk (position + 1) items).remaining.map Token.text =
              texts ++ later :=
            hitems
          obtain ⟨stop, hreads, hlater⟩ := ih hitems
          exact ⟨stop, ⟨item, _, rfl, htext, hreads⟩, hlater⟩

theorem reads_append (consumed later : List Token) (position : Nat) :
    Reads ⟨position, consumed ++ later⟩ (consumed.map Token.text)
      ⟨position + consumed.length, later⟩ := by
  induction consumed generalizing position with
  | nil => rfl
  | cons token consumed ih =>
      have hlater := ih (position + 1)
      rw [Nat.add_right_comm] at hlater
      exact ⟨token, _, rfl, rfl, hlater⟩

section Words

variable {start stop : Cursor Token} {text what : String} {texts : List String}
  {accepts : String → Bool}

theorem run_tokenWhere_eq_done_iff {token : Token} :
    (tokenWhere accepts what).run start = .done token stop ↔
      start.next = some (token, stop) ∧ accepts token.text = true := by
  rw [tokenWhere, run_label_eq_done_iff, run_satisfy_eq_done_iff]

theorem failsAt_tokenWhere (h : Reads start (text :: texts) stop)
    (hrefused : accepts text = false) : (tokenWhere accepts what).FailsAt start := by
  obtain ⟨token, hpeek, rfl⟩ := h.peek
  rw [tokenWhere, failsAt_label_iff, failsAt_satisfy_iff, hpeek]
  exact hrefused

theorem run_keyword_eq_done_iff {token : Token} :
    (keyword text).run start = .done token stop ↔
      start.next = some (token, stop) ∧ token.text = text := by
  rw [keyword, run_tokenWhere_eq_done_iff, beq_iff_eq]

theorem run_keyword_keepRight_eq_done_iff {α : Type} {p : Rule α} {value : α} :
    ((keyword text).keepRight p).run start = .done value stop ↔
      ∃ middle, Reads start [text] middle ∧ p.run middle = .done value stop := by
  simp only [run_keepRight_eq_done_iff, run_keyword_eq_done_iff, Reads.singleton_iff]
  constructor
  · intro hrun
    obtain ⟨token, middle, hkeyword, hp⟩ := hrun
    exact ⟨middle, ⟨token, hkeyword⟩, hp⟩
  · intro hparts
    obtain ⟨middle, ⟨token, hkeyword⟩, hp⟩ := hparts
    exact ⟨token, middle, hkeyword, hp⟩

theorem run_keepLeft_keyword_eq_done_iff {α : Type} {p : Rule α} {value : α} :
    (p.keepLeft (keyword text)).run start = .done value stop ↔
      ∃ middle, p.run start = .done value middle ∧ Reads middle [text] stop := by
  simp only [run_keepLeft_eq_done_iff, run_keyword_eq_done_iff, Reads.singleton_iff]
  constructor
  · intro hrun
    obtain ⟨token, middle, hp, hkeyword⟩ := hrun
    exact ⟨middle, hp, token, hkeyword⟩
  · intro hparts
    obtain ⟨middle, hp, token, hkeyword⟩ := hparts
    exact ⟨token, middle, hp, hkeyword⟩

theorem failsAt_keyword {other : String} (h : Reads start (other :: texts) stop)
    (hne : other ≠ text) : (keyword text).FailsAt start :=
  failsAt_tokenWhere h (beq_eq_false_iff_ne.mpr hne)

theorem failsAt_keyword_of_peek
    (hpeek : ∀ token, start.peek = some token → token.text ≠ text) :
    (keyword text).FailsAt start := by
  rw [keyword, tokenWhere, failsAt_label_iff, failsAt_satisfy_iff]
  cases hitem : start.peek with
  | none => rfl
  | some token => exact beq_eq_false_iff_ne.mpr (hpeek token hitem)

theorem run_identifier_eq_done_iff {name : String} :
    identifier.run start = .done name stop ↔
      Reads start [name] stop ∧ Token.isIdentifier name = true := by
  simp only [identifier, run_map_eq_done_iff, run_tokenWhere_eq_done_iff, Reads.singleton_iff]
  constructor
  · intro hrun
    obtain ⟨token, ⟨hnext, hname⟩, rfl⟩ := hrun
    exact ⟨⟨token, hnext, rfl⟩, hname⟩
  · intro hparts
    obtain ⟨⟨token, hnext, rfl⟩, hname⟩ := hparts
    exact ⟨token, ⟨hnext, hname⟩, rfl⟩

theorem run_numeral_eq_done_iff :
    numeral.run start = .done text stop ↔
      Reads start [text] stop ∧ Token.isNumeral text = true := by
  simp only [numeral, run_map_eq_done_iff, run_tokenWhere_eq_done_iff, Reads.singleton_iff]
  constructor
  · intro hrun
    obtain ⟨token, ⟨hnext, hnumeral⟩, rfl⟩ := hrun
    exact ⟨⟨token, hnext, rfl⟩, hnumeral⟩
  · intro hparts
    obtain ⟨⟨token, hnext, rfl⟩, hnumeral⟩ := hparts
    exact ⟨token, ⟨hnext, hnumeral⟩, rfl⟩

end Words

section Numbers

variable {start stop : Cursor Token} {text : String} {value : Int64}

theorem magnitude?_of_isNumeral (hnumeral : Token.isNumeral text = true) :
    Integer.magnitude? text.toList = some (decimal text) := by
  obtain ⟨hnonempty, hdigits⟩ := Token.isNumeral_iff.mp hnumeral
  have hempty : text.toList.isEmpty = false := by simpa using hnonempty
  have hall : text.toList.all Text.isDigit = true := List.all_eq_true.mpr hdigits
  simp [Integer.magnitude?, hempty, hall, decimal]

theorem read?_of_isNumeral (hnumeral : Token.isNumeral text = true) :
    Integer.read? text.toList = Integer.fit? (decimal text) := by
  have hmagnitude := magnitude?_of_isNumeral hnumeral
  have hdigits := (Token.isNumeral_iff.mp hnumeral).2
  unfold Integer.read?
  split
  · next hchars => exact absurd (hdigits '-' (by simp [hchars])) (by decide)
  · next hchars => exact absurd (hdigits '+' (by simp [hchars])) (by decide)
  · rw [hmagnitude]
    rfl

theorem read?_minus_of_isNumeral (hnumeral : Token.isNumeral text = true) :
    Integer.read? ("-" ++ text).toList = Integer.fit? (-decimal text) := by
  have hchars : ("-" ++ text).toList = '-' :: text.toList := by simp
  rw [hchars, Integer.read?, magnitude?_of_isNumeral hnumeral]
  rfl

theorem run_valueOf_eq_done_iff :
    (valueOf text).run start = .done value stop ↔
      Integer.read? text.toList = some value ∧ start = stop := by
  unfold valueOf
  cases Integer.read? text.toList with
  | none => simp [reject]
  | some found => simp

theorem run_natural_eq_done_iff :
    natural.run start = .done value stop ↔
      ∃ text, Reads start [text] stop ∧ Token.isNumeral text = true ∧
        value.toInt = decimal text := by
  simp only [natural, run_bind_eq_done_iff, run_numeral_eq_done_iff, run_valueOf_eq_done_iff]
  constructor
  · intro hrun
    obtain ⟨text, _, ⟨hreads, hnumeral⟩, hvalue, rfl⟩ := hrun
    rw [read?_of_isNumeral hnumeral, Integer.fit?_eq_some_iff] at hvalue
    exact ⟨text, hreads, hnumeral, hvalue⟩
  · intro hparts
    obtain ⟨text, hreads, hnumeral, hvalue⟩ := hparts
    rw [← Integer.fit?_eq_some_iff, ← read?_of_isNumeral hnumeral] at hvalue
    exact ⟨text, stop, ⟨hreads, hnumeral⟩, hvalue, rfl⟩

theorem run_signed_eq_done_iff :
    signed.run start = .done value stop ↔
      ∃ texts, Reads start texts stop ∧ Signed texts value := by
  simp only [signed, run_bind_eq_done_iff, run_pair_eq_done_iff, run_optional_eq_done_iff,
    run_keyword_eq_done_iff, run_numeral_eq_done_iff, run_valueOf_eq_done_iff]
  constructor
  · intro hrun
    obtain ⟨⟨minus, text⟩, _, ⟨middle, hminus, hreads, hnumeral⟩, hvalue, rfl⟩ := hrun
    rcases hminus with ⟨token, ⟨hnext, hsign⟩, rfl⟩ | ⟨-, rfl, rfl⟩
    · have hread := read?_minus_of_isNumeral hnumeral
      simp only [Option.isSome_some, if_true] at hvalue
      rw [hread, Integer.fit?_eq_some_iff] at hvalue
      exact ⟨["-", text], ⟨token, middle, hnext, hsign, hreads⟩, .minus hnumeral hvalue⟩
    · have hread := read?_of_isNumeral hnumeral
      simp only [Option.isSome_none, Bool.false_eq_true, if_false] at hvalue
      rw [hread, Integer.fit?_eq_some_iff] at hvalue
      exact ⟨[text], hreads, .plain hnumeral hvalue⟩
  · intro hparts
    obtain ⟨texts, hreads, hsigned⟩ := hparts
    cases hsigned with
    | @plain text _ hnumeral hvalue =>
        have hplain : text ≠ "-" := by
          rintro rfl
          exact absurd hnumeral (by decide)
        rw [← Integer.fit?_eq_some_iff, ← read?_of_isNumeral hnumeral] at hvalue
        exact ⟨(none, text), stop,
          ⟨start, .inr ⟨failsAt_keyword hreads hplain, rfl, rfl⟩, hreads, hnumeral⟩, hvalue, rfl⟩
    | @minus text _ hnumeral hvalue =>
        obtain ⟨token, middle, hnext, hsign, hdigits⟩ := hreads
        rw [← Integer.fit?_eq_some_iff, ← read?_minus_of_isNumeral hnumeral] at hvalue
        exact ⟨(some token, text), stop,
          ⟨middle, .inl ⟨token, ⟨hnext, hsign⟩, rfl⟩, hdigits, hnumeral⟩, hvalue, rfl⟩

end Numbers

section Ranges

variable {start stop : Cursor Token}

private theorem run_delimiter_eq_done_iff (shown : Delimiter → String)
    (hshown : shown .including ≠ shown .excluding) {delimiter : Delimiter} :
    (choice [(keyword (shown .excluding)).map fun _ => .excluding,
      (keyword (shown .including)).map fun _ => .including]).run start = .done delimiter stop ↔
        Reads start [shown delimiter] stop := by
  simp only [run_choice_cons_eq_done_iff, run_choice_nil_ne_done, and_false, or_false,
    run_map_eq_done_iff, run_keyword_eq_done_iff, failsAt_map_iff]
  constructor
  · rintro (⟨token, ⟨hnext, htext⟩, rfl⟩ | ⟨-, token, ⟨hnext, htext⟩, rfl⟩)
    · exact Reads.singleton_iff.mpr ⟨token, hnext, htext⟩
    · exact Reads.singleton_iff.mpr ⟨token, hnext, htext⟩
  · intro hreads
    obtain ⟨token, hnext, htext⟩ := Reads.singleton_iff.mp hreads
    cases delimiter with
    | excluding => exact .inl ⟨token, ⟨hnext, htext⟩, rfl⟩
    | including => exact .inr ⟨failsAt_keyword hreads hshown, token, ⟨hnext, htext⟩, rfl⟩

theorem run_lowerDelimiter_eq_done_iff {delimiter : Delimiter} :
    lowerDelimiter.run start = .done delimiter stop ↔ Reads start [delimiter.opening] stop :=
  run_delimiter_eq_done_iff Delimiter.opening (by decide)

theorem run_upperDelimiter_eq_done_iff {delimiter : Delimiter} :
    upperDelimiter.run start = .done delimiter stop ↔ Reads start [delimiter.closing] stop :=
  run_delimiter_eq_done_iff Delimiter.closing (by decide)

theorem run_range_eq_done_iff {found : Range} :
    range.run start = .done found stop ↔
      ∃ texts, Reads start texts stop ∧ Range.Written texts found := by
  simp only [range, run_map_eq_done_iff, run_pair_eq_done_iff, run_keepLeft_keyword_eq_done_iff,
    run_lowerDelimiter_eq_done_iff, run_upperDelimiter_eq_done_iff, run_signed_eq_done_iff]
  constructor
  · intro hrun
    obtain ⟨⟨⟨⟨lowerDelimiter, lower⟩, upper⟩, upperDelimiter⟩,
      ⟨beforeClosing, ⟨afterComma, ⟨beforeComma, ⟨afterOpening, hopening,
        lowerTexts, hlowerReads, hlower⟩, hcomma⟩,
        upperTexts, hupperReads, hupper⟩, hclosing⟩, rfl⟩ := hrun
    have hend := hcomma.cons (hupperReads.append hclosing)
    exact ⟨_, hopening.cons (hlowerReads.append hend),
      .intro lowerDelimiter upperDelimiter hlower hupper⟩
  · intro hparts
    obtain ⟨_, hreads, hwritten⟩ := hparts
    cases hwritten with
    | @intro lowerTexts upperTexts lower upper lowerDelimiter upperDelimiter hlower hupper =>
        obtain ⟨afterOpening, hopening, hreads⟩ := Reads.cons_iff_exists_singleton.mp hreads
        obtain ⟨beforeComma, hlowerReads, hreads⟩ := Reads.append_iff.mp hreads
        obtain ⟨afterComma, hcomma, hreads⟩ := Reads.cons_iff_exists_singleton.mp hreads
        obtain ⟨beforeClosing, hupperReads, hclosing⟩ := Reads.append_iff.mp hreads
        exact ⟨(((lowerDelimiter, lower), upper), upperDelimiter),
          ⟨beforeClosing, ⟨afterComma, ⟨beforeComma, ⟨afterOpening, hopening,
            lowerTexts, hlowerReads, hlower⟩, hcomma⟩,
            upperTexts, hupperReads, hupper⟩, hclosing⟩, rfl⟩

namespace Range

variable {range : Range} {first last : Int64}

private theorem le_iff_of_first? (hfirst : range.first? = some first) (n : Int64) :
    first ≤ n ↔ range.lowerDelimiter.Allows range.lower n := by
  unfold first? at hfirst
  cases hdelimiter : range.lowerDelimiter with
  | including =>
      rw [hdelimiter] at hfirst
      cases hfirst
      rfl
  | excluding =>
      rw [hdelimiter] at hfirst
      have hvalue := Integer.fit?_eq_some_iff.mp hfirst
      simp only [Delimiter.Allows, Int64.le_iff_toInt_le, Int64.lt_iff_toInt_lt]
      omega

private theorem le_iff_of_last? (hlast : range.last? = some last) (n : Int64) :
    n ≤ last ↔ range.upperDelimiter.Allows n range.upper := by
  unfold last? at hlast
  cases hdelimiter : range.upperDelimiter with
  | including =>
      rw [hdelimiter] at hlast
      cases hlast
      rfl
  | excluding =>
      rw [hdelimiter] at hlast
      have hvalue := Integer.fit?_eq_some_iff.mp hlast
      simp only [Delimiter.Allows, Int64.le_iff_toInt_le, Int64.lt_iff_toInt_lt]
      omega

private theorem admits_iff_of_some (hfirst : range.first? = some first)
    (hlast : range.last? = some last) (n : Int64) :
    range.Admits n ↔ first ≤ n ∧ n ≤ last := by
  rw [Admits, ← le_iff_of_first? hfirst, ← le_iff_of_last? hlast]

private theorem first?_isSome_of_admits {n : Int64} (hadmits : range.Admits n) :
    ∃ first, range.first? = some first := by
  unfold first?
  cases hdelimiter : range.lowerDelimiter with
  | including => exact ⟨range.lower, rfl⟩
  | excluding =>
      have hlower : range.lower < n := by simpa [hdelimiter, Delimiter.Allows] using hadmits.1
      rw [Int64.lt_iff_toInt_lt] at hlower
      have hn := Integer.fits_toInt n
      have hrange := Integer.fits_toInt range.lower
      refine ⟨_, if_pos ⟨?_, ?_⟩⟩
      · exact Int.le_trans hrange.1 (by omega)
      · exact Int.le_trans (by omega) hn.2

private theorem last?_isSome_of_admits {n : Int64} (hadmits : range.Admits n) :
    ∃ last, range.last? = some last := by
  unfold last?
  cases hdelimiter : range.upperDelimiter with
  | including => exact ⟨range.upper, rfl⟩
  | excluding =>
      have hupper : n < range.upper := by simpa [hdelimiter, Delimiter.Allows] using hadmits.2
      rw [Int64.lt_iff_toInt_lt] at hupper
      have hn := Integer.fits_toInt n
      have hrange := Integer.fits_toInt range.upper
      refine ⟨_, if_pos ⟨?_, ?_⟩⟩
      · exact Int.le_trans hn.1 (by omega)
      · exact Int.le_trans (by omega) hrange.2

theorem bounds_eq_ok_iff :
    range.bounds = .ok (first, last) ↔ range.Content first last := by
  constructor
  · intro hbounds
    unfold bounds at hbounds
    split at hbounds
    · next first' last' hfirst hlast =>
      split at hbounds
      · next hle =>
        cases hbounds
        exact ⟨hle, admits_iff_of_some hfirst hlast⟩
      · contradiction
    · contradiction
  · intro hparts
    obtain ⟨hnonempty, hadmits⟩ := hparts
    have hmember : range.Admits first := (hadmits first).mpr ⟨Int64.le_refl first, hnonempty⟩
    obtain ⟨first', hfirst⟩ := first?_isSome_of_admits hmember
    obtain ⟨last', hlast⟩ := last?_isSome_of_admits hmember
    have hsame : ∀ n, first' ≤ n ∧ n ≤ last' ↔ first ≤ n ∧ n ≤ last := fun n =>
      (admits_iff_of_some hfirst hlast n).symm.trans (hadmits n)
    have hatFirst := (hsame first).mpr ⟨Int64.le_refl first, hnonempty⟩
    have hatLast := (hsame last).mpr ⟨hnonempty, Int64.le_refl last⟩
    have hle := Int64.le_trans hatFirst.1 hatFirst.2
    have hatFirst' := (hsame first').mp ⟨Int64.le_refl first', hle⟩
    have hatLast' := (hsame last').mp ⟨hle, Int64.le_refl last'⟩
    obtain rfl := Int64.le_antisymm hatFirst.1 hatFirst'.1
    obtain rfl := Int64.le_antisymm hatLast.2 hatLast'.2
    simp [bounds, hfirst, hlast, hle]

theorem exists_bounds_iff : (∃ found, range.bounds = .ok found) ↔ ∃ n, range.Admits n := by
  constructor
  · intro hbounds
    obtain ⟨⟨first, last⟩, hbounds⟩ := hbounds
    have hcontent := bounds_eq_ok_iff.mp hbounds
    exact ⟨first, (hcontent.admits_iff first).mpr ⟨Int64.le_refl first, hcontent.nonempty⟩⟩
  · intro hsome
    obtain ⟨n, hadmits⟩ := hsome
    obtain ⟨first, hfirst⟩ := first?_isSome_of_admits hadmits
    obtain ⟨last, hlast⟩ := last?_isSome_of_admits hadmits
    have hwithin := (admits_iff_of_some hfirst hlast n).mp hadmits
    have hle := Int64.le_trans hwithin.1 hwithin.2
    exact ⟨(first, last), by simp [bounds, hfirst, hlast, hle]⟩

end Range

theorem run_inputOf_some_eq_done_iff {found : Range} {e : Expr} :
    (inputOf (some found)).run start = .done e stop ↔
      ∃ lower upper, found.Content lower upper ∧ .input lower upper = e ∧ start = stop := by
  simp only [← Range.bounds_eq_ok_iff, inputOf]
  cases found.bounds with
  | ok bounds =>
      simp only [run_succeed, Outcome.done.injEq, Except.ok.injEq]
      constructor
      · intro hrun
        obtain ⟨he, hstop⟩ := hrun
        exact ⟨bounds.1, bounds.2, rfl, he, hstop⟩
      · intro hparts
        obtain ⟨lower, upper, rfl, he, hstop⟩ := hparts
        exact ⟨he, hstop⟩
  | error violation => simp [reject]

/-- A question mark is an input by itself where no range follows it. -/
theorem run_input_eq_done_iff {e : Expr} :
    input.run start = .done e stop ↔
      (∃ texts found lower upper, Reads start ("?" :: texts) stop ∧ Range.Written texts found ∧
        found.Content lower upper ∧ .input lower upper = e) ∨
      (Reads start ["?"] stop ∧ range.FailsAt stop ∧ .unbounded = e) := by
  simp only [input, run_bind_eq_done_iff, run_keyword_keepRight_eq_done_iff,
    run_optional_eq_done_iff, run_range_eq_done_iff]
  constructor
  · intro hrun
    obtain ⟨optional, middle, ⟨rest, hmark, hoptional⟩, hinput⟩ := hrun
    rcases hoptional with ⟨found, ⟨texts, hreads, hwritten⟩, rfl⟩ | ⟨hfails, rfl, rfl⟩
    · obtain ⟨lower, upper, hcontent, rfl, rfl⟩ := run_inputOf_some_eq_done_iff.mp hinput
      exact .inl ⟨texts, found, lower, upper, hmark.cons hreads, hwritten, hcontent, rfl⟩
    · cases hinput
      exact .inr ⟨hmark, hfails, rfl⟩
  · intro hparts
    rcases hparts with ⟨texts, found, lower, upper, hreads, hwritten, hcontent, rfl⟩ |
      ⟨hmark, hfails, rfl⟩
    · obtain ⟨rest, hmark, hreads⟩ := Reads.cons_iff_exists_singleton.mp hreads
      exact ⟨some found, stop, ⟨rest, hmark, .inl ⟨found, ⟨texts, hreads, hwritten⟩, rfl⟩⟩,
        run_inputOf_some_eq_done_iff.mpr ⟨lower, upper, hcontent, rfl, rfl⟩⟩
    · exact ⟨none, stop, ⟨stop, hmark, .inr ⟨hfails, rfl, rfl⟩⟩, rfl⟩

end Ranges

/-! None of these rules goes on without end. -/

theorem returns_tokenWhere (accepts : String → Bool) (what : String) :
    (tokenWhere accepts what).Returns :=
  (returns_satisfy _ _).label _

theorem returns_keyword (text : String) : (keyword text).Returns :=
  returns_tokenWhere _ _

theorem returns_identifier : identifier.Returns :=
  (returns_tokenWhere _ _).map _

theorem returns_numeral : numeral.Returns :=
  (returns_tokenWhere _ _).map _

theorem returns_valueOf (text : String) : (valueOf text).Returns := by
  unfold valueOf
  split
  · exact returns_succeed _
  · exact returns_fail _

theorem returns_natural : natural.Returns :=
  returns_numeral.bind returns_valueOf

theorem returns_signed : signed.Returns :=
  ((returns_keyword _).optional.pair returns_numeral).bind fun _ => returns_valueOf _

theorem returns_lowerDelimiter : lowerDelimiter.Returns :=
  returns_choice (by simp [(returns_keyword _).map])

theorem returns_upperDelimiter : upperDelimiter.Returns :=
  returns_choice (by simp [(returns_keyword _).map])

theorem returns_range : range.Returns := by
  have hlower := (returns_lowerDelimiter.pair returns_signed).keepLeft (returns_keyword ",")
  exact ((hlower.pair returns_signed).pair returns_upperDelimiter).map _

theorem returns_inputOf (found : Option Range) : (inputOf found).Returns := by
  unfold inputOf
  split
  · exact returns_succeed _
  · split
    · exact returns_succeed _
    · exact returns_fail _

theorem returns_input : input.Returns :=
  ((returns_keyword _).keepRight returns_range.optional).bind returns_inputOf

end RangeCalc.Grammar
