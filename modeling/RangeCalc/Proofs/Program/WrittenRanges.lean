import RangeCalc.Proofs.Program.Refusals

/-! A range is the input of the integers between its ends, where an end counts as its delimiter
says. A range that no 64-bit integer is in is not an input. -/

namespace RangeCalc

open RangeCalc.Grammar

namespace Grammar

/-- Whichever way a range is left without integers, the message says that it is empty. -/
theorem Range.message_of_bounds_error {range : Range} {violation : Violation}
    (hbounds : range.bounds = .error violation) :
    ∃ reason, violation.message = "empty input range: " ++ reason := by
  unfold bounds at hbounds
  split at hbounds
  · split at hbounds
    · contradiction
    · obtain rfl := Except.error.inj hbounds
      exact ⟨_, Violation.message_emptyRange_eq_append range.lower range.upper⟩
  · obtain rfl := Except.error.inj hbounds
    exact ⟨_, Violation.message_unboundedRange_eq_append range.lower range.upper⟩

end Grammar

namespace Program

variable {source : String} {texts : List String} {range : Range}

theorem parse_of_content {lower upper : Int64} (hwritten : Range.Written texts range)
    (hsource : (tokenize source).map Token.text = "?" :: texts)
    (hcontent : range.Content lower upper) : parse source = .ok (.input lower upper) := by
  have hatom : Derives maxNesting .atom 0 ("?" :: texts) (.input lower upper) :=
    .input hwritten hcontent
  have hfactor : Derives maxNesting (operand .plus) 0 ("?" :: texts) (.input lower upper) :=
    .chain_of_operand hatom
  rw [parse_eq_ok_iff, hsource]
  exact .sum (.chain_of_operand hfactor)

theorem parse_of_bounds_error {violation : Violation} (hwritten : Range.Written texts range)
    (hsource : (tokenize source).map Token.text = "?" :: texts)
    (hbounds : range.bounds = .error violation) :
    ∃ offset, parse source = .error (.located source violation.message offset) := by
  have hatom : Exposes maxNesting .atom 0 ("?" :: texts) violation :=
    .range (Nat.zero_le _) hwritten hbounds
  have hfactor : Exposes maxNesting (operand .plus) 0 (("?" :: texts) ++ []) violation :=
    .first hatom
  have hsum : Exposes maxNesting .expression 0 ((("?" :: texts) ++ []) ++ []) violation :=
    .sum (.first hfactor)
  rw [List.append_nil, List.append_nil, ← hsource] at hsum
  exact parse_of_exposed hsum

/-- A range is a program if and only if some integer is between its ends. The program then asks for
the integers between them, and for no others. -/
theorem range_is_what_it_admits (hwritten : Range.Written texts range)
    (hsource : (tokenize source).map Token.text = "?" :: texts) :
    ((∃ lower upper, parse source = .ok (.input lower upper)) ↔ ∃ n, range.Admits n) ∧
      (∀ e, parse source = .ok e →
        ∃ lower upper, e = .input lower upper ∧ ∀ n, lower ≤ n ∧ n ≤ upper ↔ range.Admits n) ∧
      ((¬ ∃ n, range.Admits n) → ∃ error reason, parse source = .error error ∧
        error.message = "empty input range: " ++ reason) := by
  rw [← Range.exists_bounds_iff]
  cases hbounds : range.bounds with
  | ok found =>
      obtain ⟨lower, upper⟩ := found
      have hcontent := Range.bounds_eq_ok_iff.mp hbounds
      have hparse := parse_of_content hwritten hsource hcontent
      refine ⟨iff_of_true ⟨lower, upper, hparse⟩ ⟨_, rfl⟩, ?_, fun hnone => absurd ⟨_, rfl⟩ hnone⟩
      intro e he
      rw [hparse] at he
      exact ⟨lower, upper, (Except.ok.inj he).symm, fun n => (hcontent.admits_iff n).symm⟩
  | error violation =>
      obtain ⟨offset, hparse⟩ := parse_of_bounds_error hwritten hsource hbounds
      obtain ⟨reason, hmessage⟩ := Range.message_of_bounds_error hbounds
      rw [hparse]
      exact ⟨by simp, by simp, fun _ => ⟨_, reason, rfl, hmessage⟩⟩

/-- An excluded end at the greatest integer leaves all the others below it, and none above it. -/
theorem range_is_what_it_admits_at_the_edges :
    (∃ lower upper, parse "?[-9223372036854775808, 9223372036854775807)" =
        .ok (.input lower upper)) ∧
      ∃ error reason, parse "?(9223372036854775807, 9223372036854775807]" = .error error ∧
        error.message = "empty input range: " ++ reason := by
  have hleast : Signed ["-", "9223372036854775808"] (-9223372036854775808) :=
    .minus (by decide) (by decide)
  have hgreatest : Signed ["9223372036854775807"] 9223372036854775807 :=
    .plain (by decide) (by decide)
  have hbelow := range_is_what_it_admits (.intro .including .excluding hleast hgreatest)
    (by decide +kernel :
      (tokenize "?[-9223372036854775808, 9223372036854775807)").map Token.text = _)
  have habove := range_is_what_it_admits (.intro .excluding .including hgreatest hgreatest)
    (by decide +kernel :
      (tokenize "?(9223372036854775807, 9223372036854775807]").map Token.text = _)
  refine ⟨hbelow.1.mpr ⟨0, by decide⟩, habove.2.2 ?_⟩
  intro hsome
  obtain ⟨n, hadmits⟩ := hsome
  exact absurd hadmits.1 (Int64.not_lt.mpr (Int64.le_maxValue n))

end Program

end RangeCalc
