import RangeCalc.Proofs.Parser.Remainders

/-! Parsers that are put together from the library's own, with whatever functions, texts and
continuations. What every combinator preserves holds of all of them. -/

namespace RangeCalc.Parser

section Definitions

variable {σ α : Type}

/-- `p` comes to what its approximations come to, and to nothing where none of them does. So it is
with a rule that refers to itself: the approximations are the rule where calls nested too deeply
diverge. -/
structure Approached (p : Parser σ α) (approximations : Nat → Parser σ α) : Prop where
  settled : ∀ depth cursor, (approximations depth).run cursor ≠ .diverges →
    p.run cursor = (approximations depth).run cursor
  endless : ∀ cursor, (∀ depth, (approximations depth).run cursor = .diverges) →
    p.run cursor = .diverges

/-- What a parser may learn of the place it is run at: all of it, or only the elements ahead. -/
inductive View where
  | place
  | ahead
deriving DecidableEq

end Definitions

/-- Put together from the primitives by the combinators. Where only the elements ahead are in view,
the position is not asked for, and places with the same elements ahead have the same labels. -/
inductive Built {σ : Type} (view : View) : {α : Type} → Parser σ α → Prop where
  | succeed {α : Type} (value : α) : Built view (succeed value)
  | fail {α : Type} (message : String) : Built view (fail message : Parser σ α)
  | diverge {α : Type} : Built view (diverge : Parser σ α)
  | position (hview : view = .place) : Built view position
  | satisfy (accepts : σ → Bool) (message : σ → String) : Built view (satisfy accepts message)
  | any : Built view any
  | exactly [DecidableEq σ] [Quoted σ] (expected : σ) : Built view (exactly expected)
  | take (count : Nat) : Built view (take count)
  | exactlyList [DecidableEq σ] [Quoted σ] (expected : List σ) : Built view (exactlyList expected)
  | endOfInput : Built view endOfInput
  | map {α β : Type} {p : Parser σ α} (hp : Built view p) (f : α → β) : Built view (p.map f)
  | mapMessage {α : Type} {p : Parser σ α} (hp : Built view p) (f : String → String) :
      Built view (p.mapMessage f)
  | label {α : Type} {p : Parser σ α} (hp : Built view p) (text : Cursor σ → String)
      (htext : view = .ahead → ∀ cursor other, cursor.remaining = other.remaining →
        text cursor = text other) :
      Built view (p.label text)
  | filter {α : Type} {p : Parser σ α} (hp : Built view p) (accepts : α → Bool)
      (message : α → String) : Built view (p.filter accepts message)
  | bind {α β : Type} {p : Parser σ α} {next : α → Parser σ β} (hp : Built view p)
      (hnext : ∀ value, Built view (next value)) : Built view (p.bind next)
  | pair {α β : Type} {p : Parser σ α} {q : Parser σ β} (hp : Built view p)
      (hq : Built view q) : Built view (p.pair q)
  | keepRight {α β : Type} {p : Parser σ α} {q : Parser σ β} (hp : Built view p)
      (hq : Built view q) : Built view (p.keepRight q)
  | keepLeft {α β : Type} {p : Parser σ α} {q : Parser σ β} (hp : Built view p)
      (hq : Built view q) : Built view (p.keepLeft q)
  | orElse {α : Type} {p q : Parser σ α} (hp : Built view p) (hq : Built view q) :
      Built view (p.orElse q)
  | rewind {α : Type} {p : Parser σ α} (hp : Built view p) : Built view p.rewind
  | optional {α : Type} {p : Parser σ α} (hp : Built view p) : Built view p.optional
  | many {α : Type} {p : Parser σ α} (hp : Built view p) : Built view p.many
  | many1 {α : Type} {p : Parser σ α} (hp : Built view p) : Built view p.many1
  | choice {α : Type} {alternatives : List (Parser σ α)}
      (hall : ∀ p ∈ alternatives, Built view p) : Built view (choice alternatives)
  | defer {α : Type} {build : Unit → Parser σ α} (hbuild : Built view (build ())) :
      Built view (defer build)
  | unrolled {α ρ : Type} {define : (ρ → Parser σ α) → ρ → Parser σ α}
      (hunroll : ∀ depth rule, Built view (unroll define depth rule)) (count : Nat) (rule : ρ) :
      Built view (rules count define rule)
  | approached {α : Type} {p : Parser σ α} {approximations : Nat → Parser σ α}
      (hp : p.Approached approximations) (hall : ∀ depth, Built view (approximations depth)) :
      Built view p

variable {σ α ρ : Type} {view : View} {p : Parser σ α} {approximations : Nat → Parser σ α}

theorem Approached.run_eq (hp : p.Approached approximations) (cursor : Cursor σ) :
    ∃ depth, p.run cursor = (approximations depth).run cursor := by
  by_cases hends : ∃ depth, (approximations depth).run cursor ≠ .diverges
  · obtain ⟨depth, hends⟩ := hends
    exact ⟨depth, hp.settled depth cursor hends⟩
  · have hendless : ∀ depth, (approximations depth).run cursor = .diverges := by
      simpa using hends
    exact ⟨0, by rw [hp.endless cursor hendless, hendless 0]⟩

theorem Approached.forward (hp : p.Approached approximations)
    (hall : ∀ depth, (approximations depth).Forward) : p.Forward := by
  intro cursor rest hends
  obtain ⟨depth, hrun⟩ := hp.run_eq cursor
  apply hall depth
  simpa only [EndsAt, hrun] using hends

namespace Built

/-- Rules are built if they are with anything that is built in place of those they refer to. -/
theorem rules {define : (ρ → Parser σ α) → ρ → Parser σ α}
    (hdefine : ∀ called : ρ → Parser σ α, (∀ rule, (called rule).Built view) →
      ∀ rule, (define called rule).Built view)
    (count : Nat) (rule : ρ) : (Parser.rules count define rule).Built view := by
  refine .unrolled ?_ count rule
  intro depth
  induction depth with
  | zero => exact fun _ => .diverge
  | succ depth ih => exact hdefine _ fun called => .defer (ih called)

theorem forward (h : p.Built view) : p.Forward := by
  induction h with
  | succeed value => exact forward_succeed value
  | fail message => exact forward_fail message
  | diverge => exact forward_diverge
  | position _ => exact forward_position
  | satisfy accepts message => exact forward_satisfy accepts message
  | any => exact forward_satisfy _ _
  | exactly expected => exact forward_satisfy _ _
  | take count => exact forward_take count
  | exactlyList expected => exact forward_exactlyList expected
  | endOfInput => exact forward_endOfInput
  | map _ f ih => exact ih.map f
  | mapMessage _ f ih => exact ih.mapMessage f
  | label _ text _ ih => exact ih.label text
  | filter _ accepts message ih => exact ih.filter accepts message
  | bind _ _ ih ihNext => exact ih.bind ihNext
  | pair _ _ ih ihOther => exact ih.pair ihOther
  | keepRight _ _ ih ihOther => exact ih.keepRight ihOther
  | keepLeft _ _ ih ihOther => exact ih.keepLeft ihOther
  | orElse _ _ ih ihOther => exact ih.orElse ihOther
  | rewind _ ih => exact ih.rewind
  | optional _ ih => exact ih.optional
  | many _ ih => exact ih.many
  | many1 _ ih => exact ih.many1
  | choice _ ih => exact forward_choice ih
  | defer _ ih => exact ih
  | unrolled _ _ rule ih => exact fun cursor _ hends => ih _ rule hends
  | approached hp _ ih => exact hp.forward ih

end Built

/-- Wherever in its input a parser is run, what it leaves, failing or not, is a later part of the
same input. -/
theorem rest_within_input {stream : Stream σ} {rest : Cursor σ} (hp : p.Built view)
    (hends : p.EndsAt stream.cursor rest) :
    ∃ stop : Stream σ, rest = stop.cursor ∧ stop.items = stream.items ∧
      stream.position ≤ stop.position ∧ stop.position ≤ stream.items.length := by
  obtain ⟨count, hcount, rfl⟩ := (hp.forward hends).exists_advance
  have hposition := stream.within
  rw [Stream.remaining_cursor, Stream.remaining, List.length_drop] at hcount
  have hstop : stream.position + count ≤ stream.items.length := by omega
  refine ⟨⟨stream.items, stream.position + count, hstop⟩, ?_, rfl, Nat.le_add_right _ _, hstop⟩
  simp [Stream.cursor, Stream.remaining, Cursor.advance]

/-- An `x` in any number of parentheses. -/
def enclosed : Parser Char Char :=
  rules 1
    (fun called (_ : Unit) => choice
      [((exactly '(').keepRight (called ())).keepLeft (exactly ')'), exactly 'x'])
    ()

theorem built_enclosed (view : View) : enclosed.Built view := by
  refine .rules ?_ 1 ()
  intro called hcalled _
  apply Built.choice
  have hparentheses := ((Built.exactly '(').keepRight (hcalled ())).keepLeft (.exactly ')')
  simpa using ⟨hparentheses, .exactly 'x'⟩

theorem rest_of_unclosed_within_input :
    enclosed.run (Stream.between ['+'] "((x)".toList).cursor =
        .failed "unexpected end of input" ⟨5, []⟩ ∧
      ∃ stop : Stream Char, ⟨5, []⟩ = stop.cursor ∧ stop.items = "+((x)".toList ∧
        1 ≤ stop.position ∧ stop.position ≤ 5 := by
  have hrun : enclosed.run (Stream.between ['+'] "((x)".toList).cursor =
      .failed "unexpected end of input" ⟨5, []⟩ := by
    rfl
  exact ⟨hrun, rest_within_input (built_enclosed .place) (.inr ⟨_, hrun⟩)⟩

end RangeCalc.Parser
