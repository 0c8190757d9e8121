import RangeCalc.Grammar.Rules
import RangeCalc.Proofs.Parser.Moves

/-! The offsets of tokens have no part in reading them: tokens with the same texts are read to the
same values, or refused with the same message as far on. -/

namespace RangeCalc

def Token.unplaced (token : Token) : Token :=
  { token with offset := 0 }

/-- Keeps the place and forgets where the tokens ahead stood in their source. -/
def Move.unplaced : Move Token :=
  ⟨0, Token.unplaced⟩

namespace Grammar

open RangeCalc.Parser

theorem expecting_unplaced (what : String) (cursor : Cursor Token) :
    expecting what (Move.unplaced.cursor cursor) = expecting what cursor := by
  obtain ⟨position, tokens⟩ := cursor
  cases tokens <;> rfl

theorem follows_tokenWhere (accepts : String → Bool) (what : String) :
    (tokenWhere accepts what).Follows .unplaced Token.unplaced :=
  (follows_satisfy (fun _ => rfl) fun _ => rfl).label (expecting_unplaced what)

theorem follows_keyword (text : String) : (keyword text).Follows .unplaced Token.unplaced :=
  follows_tokenWhere _ _

theorem follows_identifier : identifier.Follows .unplaced id :=
  (follows_tokenWhere _ _).map fun _ => rfl

theorem follows_numeral : numeral.Follows .unplaced id :=
  (follows_tokenWhere _ _).map fun _ => rfl

theorem follows_valueOf (text : String) : (valueOf text).Follows .unplaced id := by
  unfold valueOf
  split
  · exact follows_succeed rfl
  · exact follows_fail _

theorem follows_natural : natural.Follows .unplaced id :=
  follows_numeral.bind (fun _ => rfl) follows_valueOf

theorem follows_signed : signed.Follows .unplaced id := by
  refine ((follows_keyword _).optional.pair follows_numeral).bind ?_ fun _ => follows_valueOf _
  intro found
  obtain ⟨minus, digits⟩ := found
  cases minus <;> rfl

theorem follows_delimiter (text : String) (delimiter : Delimiter) :
    ((keyword text).map fun _ => delimiter).Follows .unplaced id :=
  (follows_keyword text).map fun _ => rfl

theorem follows_lowerDelimiter : lowerDelimiter.Follows .unplaced id :=
  follows_choice (by simp [follows_delimiter])

theorem follows_upperDelimiter : upperDelimiter.Follows .unplaced id :=
  follows_choice (by simp [follows_delimiter])

theorem follows_range : range.Follows .unplaced id := by
  have hlower := (follows_lowerDelimiter.pair follows_signed).keepLeft (follows_keyword ",")
  exact ((hlower.pair follows_signed).pair follows_upperDelimiter).map fun _ => rfl

theorem follows_inputOf (found : Option Range) : (inputOf found).Follows .unplaced id := by
  unfold inputOf
  split
  · exact follows_succeed rfl
  · split
    · exact follows_succeed rfl
    · exact follows_fail _

theorem follows_input : input.Follows .unplaced id := by
  refine ((follows_keyword _).keepRight follows_range.optional).bind ?_ follows_inputOf
  intro found
  rw [Option.map_id, id]

theorem follows_chain (op : Operator) {operand : Rule Expr}
    (hoperand : operand.Follows .unplaced id) : (chain op operand).Follows .unplaced id := by
  refine (hoperand.pair ((follows_keyword _).keepRight hoperand).many).map ?_
  intro found
  rw [List.map_id_fun, Prod.map_id, id, id]

theorem follows_parenthesized {expression : Rule Expr}
    (hexpression : expression.Follows .unplaced id) :
    (parenthesized expression).Follows .unplaced id :=
  ((follows_keyword _).keepRight hexpression).keepLeft (follows_keyword _)

theorem follows_negation {operand : Rule Expr} (hoperand : operand.Follows .unplaced id) :
    (negation operand).Follows .unplaced id :=
  ((follows_keyword _).keepRight hoperand).map fun _ => rfl

theorem follows_binding {bound body : Rule Expr} (hbound : bound.Follows .unplaced id)
    (hbody : body.Follows .unplaced id) : (binding bound body).Follows .unplaced id := by
  have hname := ((follows_keyword "let").keepRight follows_identifier).keepLeft
    (follows_keyword "=")
  have hhead := (hname.pair hbound).keepLeft (follows_keyword "in")
  exact (hhead.pair hbody).map fun _ => rfl

namespace Level

structure Unplaced (level : Level) : Prop where
  expression : level.expression.Follows .unplaced id
  sum : level.sum.Follows .unplaced id
  atom : level.atom.Follows .unplaced id

theorem unplaced_forbidden : forbidden.Unplaced where
  expression := follows_fail _
  sum := follows_fail _
  atom := follows_fail _

theorem unplaced_around {inner : Unit → Level} (hinner : (inner ()).Unplaced) :
    (around inner).Unplaced := by
  have hatom : (atomOver inner).Follows .unplaced id := by
    refine (follows_choice ?_).label (expecting_unplaced _)
    simp only [List.forall_mem_cons]
    exact ⟨follows_parenthesized hinner.expression, follows_input, follows_negation hinner.atom,
      follows_natural.map fun _ => rfl, follows_identifier.map fun _ => rfl, by simp⟩
  have hsum : (sumOver inner).Follows .unplaced id := follows_chain _ (follows_chain _ hatom)
  have hbinding : (bindingOver inner).Follows .unplaced id :=
    follows_binding hinner.sum hinner.expression
  refine ⟨(follows_choice ?_).label (expecting_unplaced _), hsum, hatom⟩
  simpa using ⟨hbinding, hsum⟩

theorem unplaced_allowing (room : Nat) : (allowing room).Unplaced := by
  induction room with
  | zero => exact unplaced_around unplaced_forbidden
  | succ room ih => exact unplaced_around ih

end Level

theorem follows_program : program.Follows .unplaced id :=
  (Level.unplaced_allowing maxNesting).expression.keepLeft
    (follows_endOfInput.label (expecting_unplaced _))

end Grammar

end RangeCalc
