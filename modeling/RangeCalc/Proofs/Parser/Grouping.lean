import Mathlib.Order.Bounds.Basic
import RangeCalc.Proofs.Parser.Alternatives
import RangeCalc.Proofs.Parser.Construction

/-! Alternatives in groups. What is parsed depends on the alternatives and their order alone. -/

namespace RangeCalc

/-- Parsers put together as alternatives: each group in a choice is itself an alternative. -/
inductive Grouping (σ α : Type) where
  | leaf (p : Parser σ α)
  | either (first second : Grouping σ α)
  | choice (groups : List (Grouping σ α))

namespace Grouping

variable {σ α : Type}

/-- Induction with a hypothesis for every group of a choice. -/
@[elab_as_elim, induction_eliminator]
theorem induction {motive : Grouping σ α → Prop}
    (leaf : ∀ p, motive (.leaf p))
    (either : ∀ first second, motive first → motive second → motive (.either first second))
    (choice : ∀ groups, (∀ group ∈ groups, motive group) → motive (.choice groups))
    (group : Grouping σ α) : motive group :=
  match group with
  | .leaf p => leaf p
  | .either first second =>
      either first second (induction leaf either choice first)
        (induction leaf either choice second)
  | .choice groups => choice groups fun group _ => induction leaf either choice group

/-- The parsers of all groups from left to right. -/
def leaves : Grouping σ α → List (Parser σ α)
  | leaf p => [p]
  | either first second => first.leaves ++ second.leaves
  | choice groups => groups.flatMap leaves

def parser : Grouping σ α → Parser σ α
  | leaf p => p
  | either first second => first.parser.orElse second.parser
  | choice groups => .choice (groups.map parser)

inductive OnlyChoices : Grouping σ α → Prop where
  | leaf (p : Parser σ α) : OnlyChoices (leaf p)
  | choice {groups : List (Grouping σ α)} (hall : ∀ group ∈ groups, group.OnlyChoices) :
      OnlyChoices (choice groups)

end Grouping

namespace Parser

section Places

variable {σ α : Type} {p q : Parser σ α} {alternatives : List (Parser σ α)}
  {failures : List (Failure σ)} {cursor rest : Cursor σ} {message : String} {place bound : Nat}

def FailsAtPlace (p : Parser σ α) (cursor : Cursor σ) (place : Nat) : Prop :=
  ∃ message rest, p.run cursor = .failed message rest ∧ rest.position = place

/-- The run from `cursor` fails, and not beyond `bound`. -/
def FailsUpTo (p : Parser σ α) (cursor : Cursor σ) (bound : Nat) : Prop :=
  ∃ place ≤ bound, p.FailsAtPlace cursor place

/-- If the run from `cursor` fails, then not before it. -/
def FailsAhead (p : Parser σ α) (cursor : Cursor σ) : Prop :=
  ∀ ⦃place⦄, p.FailsAtPlace cursor place → cursor.position ≤ place

theorem failsAtPlace_iff_of_failed (hrun : p.run cursor = .failed message rest) :
    p.FailsAtPlace cursor place ↔ rest.position = place := by
  simp [FailsAtPlace, hrun]

theorem failsUpTo_iff_of_failed (hrun : p.run cursor = .failed message rest) :
    p.FailsUpTo cursor bound ↔ rest.position ≤ bound := by
  simp [FailsUpTo, failsAtPlace_iff_of_failed hrun]

theorem FailsUpTo.failsAt (hp : p.FailsUpTo cursor bound) : p.FailsAt cursor := by
  obtain ⟨_, -, message, rest, hrun, -⟩ := hp
  exact ⟨message, rest, hrun⟩

theorem Built.failsAhead {view : View} (hp : p.Built view) (cursor : Cursor σ) :
    p.FailsAhead cursor := by
  intro place hplace
  obtain ⟨message, rest, hrun, rfl⟩ := hplace
  exact (hp.forward (.inr ⟨message, hrun⟩)).position_le

theorem FailsAtPlace.eq {other : Nat} (hplace : p.FailsAtPlace cursor place)
    (hother : p.FailsAtPlace cursor other) : place = other := by
  obtain ⟨message, rest, hrun, rfl⟩ := hplace
  exact (failsAtPlace_iff_of_failed hrun).mp hother

theorem FailsAtPlace.of_failsUpTo_iff (hp : p.FailsAhead cursor) (hq : q.FailsAhead cursor)
    (hbounds : ∀ bound, cursor.position ≤ bound →
      (p.FailsUpTo cursor bound ↔ q.FailsUpTo cursor bound))
    (hplace : p.FailsAtPlace cursor place) : q.FailsAtPlace cursor place := by
  obtain ⟨other, hother, hfails⟩ := (hbounds place (hp hplace)).mp ⟨place, le_rfl, hplace⟩
  obtain ⟨again, hagain, hfails'⟩ := (hbounds other (hq hfails)).mpr ⟨other, le_rfl, hfails⟩
  have hsame : other = place := Nat.le_antisymm hother (hplace.eq hfails' ▸ hagain)
  exact hsame ▸ hfails

theorem FailWith.failsUpTo_iff (hfail : FailWith cursor alternatives failures) :
    (∀ p ∈ alternatives, p.FailsUpTo cursor bound) ↔
      ∀ failure ∈ failures, failure.rest.position ≤ bound := by
  induction hfail with
  | nil => simp
  | cons hrun _ ih =>
      rw [List.forall_mem_cons, List.forall_mem_cons, ih, failsUpTo_iff_of_failed hrun]

theorem FailWith.position_le (hfail : FailWith cursor alternatives failures)
    (hahead : ∀ p ∈ alternatives, p.FailsAhead cursor) :
    ∀ failure ∈ failures, cursor.position ≤ failure.rest.position := by
  induction hfail with
  | nil => simp
  | cons hrun _ ih =>
      obtain ⟨hp, hlater⟩ := List.forall_mem_cons.mp hahead
      exact List.forall_mem_cons.mpr ⟨hp ⟨_, _, hrun, rfl⟩, ih hlater⟩

theorem position_merge_le_iff (hbound : cursor.position ≤ bound) :
    (Failure.merge cursor failures).rest.position ≤ bound ↔
      ∀ failure ∈ failures, failure.rest.position ≤ bound := by
  by_cases hnone : failures = []
  · subst hnone
    exact iff_of_true hbound (by simp)
  · rw [isLUB_le_iff (Failure.reports_merge cursor hnone).furthest.isLUB]
    simp [upperBounds]

theorem failsUpTo_choice_iff (hbound : cursor.position ≤ bound) :
    (choice alternatives).FailsUpTo cursor bound ↔
      ∀ p ∈ alternatives, p.FailsUpTo cursor bound := by
  by_cases hall : ∀ p ∈ alternatives, p.FailsAt cursor
  · obtain ⟨failures, hfailures⟩ := exists_failWith hall
    have hrun : (choice alternatives).run cursor = _ := choiceFrom_eq_merge hfailures
    rw [failsUpTo_iff_of_failed hrun, hfailures.failsUpTo_iff]
    exact position_merge_le_iff hbound
  · apply iff_of_false
    · exact fun hchoice => hall (failsAt_choice_iff.mp hchoice.failsAt)
    · exact fun hparts => hall fun p hp => (hparts p hp).failsAt

theorem failsAhead_choice (hall : ∀ p ∈ alternatives, p.FailsAhead cursor) :
    (choice alternatives).FailsAhead cursor := by
  intro place hplace
  obtain ⟨message, rest, hfailed, rfl⟩ := hplace
  obtain ⟨failures, hfailures⟩ := exists_failWith (failsAt_choice_iff.mp ⟨message, rest, hfailed⟩)
  have hrun : (choice alternatives).run cursor = _ := choiceFrom_eq_merge hfailures
  obtain ⟨-, rfl⟩ := Outcome.failed.inj (hrun.symm.trans hfailed)
  rcases Failure.rest_merge cursor failures with hstart | ⟨failure, hfailure, hmerge⟩
  · exact le_of_eq (congrArg Cursor.position hstart).symm
  · exact (hfailures.position_le hall failure hfailure).trans_eq (congrArg _ hmerge).symm

end Places

end Parser

namespace Grouping

open RangeCalc.Parser

variable {σ α : Type} {group : Grouping σ α} {cursor rest : Cursor σ} {value : α}
  {place bound : Nat}

theorem failsAt_parser_iff :
    group.parser.FailsAt cursor ↔ ∀ p ∈ group.leaves, p.FailsAt cursor := by
  induction group with
  | leaf p => simp [parser, leaves]
  | either first second ih ih' =>
      rw [parser, leaves, failsAt_orElse_iff, ih, ih', List.forall_mem_append]
  | choice groups ih =>
      rw [parser, leaves, failsAt_choice_iff, List.forall_mem_map, List.forall_mem_flatMap]
      exact forall₂_congr ih

theorem run_parser_eq_done_iff :
    group.parser.run cursor = .done value rest ↔
      (Parser.choice group.leaves).run cursor = .done value rest := by
  induction group with
  | leaf p => simp [parser, leaves, run_choice_cons_eq_done_iff, run_choice_nil_ne_done]
  | either first second ih ih' =>
      rw [parser, leaves, run_orElse_eq_done_iff, run_choice_append_eq_done_iff, ih, ih',
        failsAt_parser_iff]
  | choice groups ih =>
      rw [parser, leaves]
      induction groups with
      | nil => rfl
      | cons group groups ihGroups =>
          obtain ⟨ihGroup, ihLater⟩ := List.forall_mem_cons.mp ih
          rw [List.map_cons, List.flatMap_cons, run_choice_cons_eq_done_iff,
            run_choice_append_eq_done_iff, ihGroup, failsAt_parser_iff, ihGroups ihLater]

namespace OnlyChoices

theorem failsUpTo_parser_iff (honly : group.OnlyChoices) (hbound : cursor.position ≤ bound) :
    group.parser.FailsUpTo cursor bound ↔ ∀ p ∈ group.leaves, p.FailsUpTo cursor bound := by
  induction honly with
  | leaf p => simp [parser, leaves]
  | choice _ ih =>
      rw [parser, leaves, failsUpTo_choice_iff hbound, List.forall_mem_map,
        List.forall_mem_flatMap]
      exact forall₂_congr ih

theorem failsAhead (honly : group.OnlyChoices)
    (hahead : ∀ p ∈ group.leaves, p.FailsAhead cursor) : group.parser.FailsAhead cursor := by
  induction honly with
  | leaf p => simpa [parser, leaves] using hahead
  | choice _ ih =>
      rw [parser]
      rw [leaves, List.forall_mem_flatMap] at hahead
      apply failsAhead_choice
      exact List.forall_mem_map.mpr fun group hgroup => ih group hgroup (hahead group hgroup)

theorem failsAtPlace_parser_iff (honly : group.OnlyChoices)
    (hahead : ∀ p ∈ group.leaves, p.FailsAhead cursor) :
    group.parser.FailsAtPlace cursor place ↔
      (Parser.choice group.leaves).FailsAtPlace cursor place := by
  have hbounds : ∀ bound, cursor.position ≤ bound →
      (group.parser.FailsUpTo cursor bound ↔
        (Parser.choice group.leaves).FailsUpTo cursor bound) := by
    intro bound hbound
    rw [honly.failsUpTo_parser_iff hbound, failsUpTo_choice_iff hbound]
  have hgroup := honly.failsAhead hahead
  have hflat := failsAhead_choice hahead
  constructor
  · exact .of_failsUpTo_iff hgroup hflat hbounds
  · exact .of_failsUpTo_iff hflat hgroup fun bound hbound => (hbounds bound hbound).symm

end OnlyChoices

/-- Alternatives succeed and fail alike however they are grouped. Choices alone also fail at the
same place, unless an alternative fails before where it started; none that is built from the
primitives does. -/
theorem grouping_is_immaterial (group : Grouping σ α) (cursor : Cursor σ) :
    (∀ value rest, group.parser.run cursor = .done value rest ↔
        (Parser.choice group.leaves).run cursor = .done value rest) ∧
      (group.parser.FailsAt cursor ↔ (Parser.choice group.leaves).FailsAt cursor) ∧
      (group.OnlyChoices → (∀ p ∈ group.leaves, p.FailsAhead cursor) →
        ∀ place, group.parser.FailsAtPlace cursor place ↔
          (Parser.choice group.leaves).FailsAtPlace cursor place) ∧
      ∀ view (p : Parser σ α), p.Built view → p.FailsAhead cursor := by
  refine ⟨?_, ?_, ?_, ?_⟩
  · exact fun value rest => run_parser_eq_done_iff
  · rw [failsAt_parser_iff, failsAt_choice_iff]
  · exact fun honly hahead place => honly.failsAtPlace_parser_iff hahead
  · exact fun view p hp => hp.failsAhead cursor

/-- Two groups and an empty one between them. -/
private def pairGroups : List (Grouping Char Char) :=
  [.choice [.leaf (char 'a'), .leaf ((char 'x').keepRight (char 'y'))], .choice [],
    .choice [.leaf ((char 'x').keepLeft (char 'y')), .leaf ((char 'x').keepRight (char 'w'))]]

/-- The message of the grouped pairs repeats itself, but they fail where the flat ones do. -/
theorem grouping_of_pairs_is_immaterial :
    ((choice pairGroups).parser.run (.ofString "xz") =
        .failed "expected 'y', got 'z' or expected 'y', got 'z' or expected 'w', got 'z'"
          ⟨1, ['z']⟩ ∧
      (Parser.choice (choice pairGroups).leaves).FailsAtPlace (.ofString "xz") 1) ∧
    (either (.leaf (char 'a')) (choice pairGroups)).parser.run (.ofString "xw") =
        .done 'w' ⟨2, []⟩ ∧
      (Parser.choice (either (.leaf (char 'a')) (choice pairGroups)).leaves).run
        (.ofString "xw") = .done 'w' ⟨2, []⟩ := by
  have honly : (choice pairGroups).OnlyChoices := by
    refine .choice ?_
    simp only [pairGroups, List.forall_mem_cons]
    refine ⟨.choice ?_, .choice ?_, .choice ?_, by simp⟩
    all_goals simp [OnlyChoices.leaf]
  have hbuilt : ∀ p ∈ (choice pairGroups).leaves, p.Built .ahead := by
    have hchar : ∀ c, (char c).Built .ahead := fun c => .satisfy _ _
    simp [pairGroups, leaves, hchar, Built.keepRight, Built.keepLeft]
  have hfailed : (choice pairGroups).parser.run (.ofString "xz") =
      .failed "expected 'y', got 'z' or expected 'y', got 'z' or expected 'w', got 'z'"
        ⟨1, ['z']⟩ := by
    simp only [parser, pairGroups, List.map_cons, List.map_nil]
    rfl
  have hdone : (either (.leaf (char 'a')) (choice pairGroups)).parser.run (.ofString "xw") =
      .done 'w' ⟨2, []⟩ := by
    simp only [parser, pairGroups, List.map_cons, List.map_nil]
    rfl
  constructor
  · obtain ⟨-, -, hplace, hahead⟩ := grouping_is_immaterial (choice pairGroups) (.ofString "xz")
    refine ⟨hfailed, (hplace honly ?_ 1).mp ⟨_, _, hfailed, rfl⟩⟩
    exact fun p hp => hahead .ahead p (hbuilt p hp)
  · obtain ⟨hsuccess, -⟩ :=
      grouping_is_immaterial (either (.leaf (char 'a')) (choice pairGroups)) (.ofString "xw")
    exact ⟨hdone, (hsuccess 'w' ⟨2, []⟩).mp hdone⟩

end Grouping

end RangeCalc
