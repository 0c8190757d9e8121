import RangeCalc.Proofs.Parser.Shifts
import RangeCalc.Token.Lexer

/-! The lexer asks where it is, and only to tell where a token starts: behind other characters it
finds the same token, that much further on. -/

namespace RangeCalc

namespace Parser

variable {view : View}

theorem built_whitespace : whitespace.Built view :=
  (Built.satisfy _ _).many.map _

theorem built_text (wanted : String) : (text wanted).Built view := by
  have hchars : (chars wanted.toList).Built view :=
    List.foldlRecOn _ _ (.succeed ()) fun _ hmatched _ _ => hmatched.keepLeft (.satisfy _ _)
  exact (hchars.map _).rewind

end Parser

namespace Token

open RangeCalc.Parser

variable {view : View}

def behind (count : Nat) (token : Token) : Token :=
  { token with offset := token.offset + count }

theorem built_word : word.Built view :=
  ((Built.satisfy _ _).pair (Built.satisfy _ _).many).map _

theorem built_keyword (wanted : String) : (keyword wanted).Built view :=
  built_word.filter _ _

theorem built_numeral : numeral.Built view :=
  (Built.satisfy _ _).many1.map _

theorem built_spaced {p : Parser Char String} (hp : p.Built .place) :
    (spaced p).Built .place :=
  ((built_whitespace.keepRight ((Built.position rfl).pair hp)).keepLeft built_whitespace).map _

theorem built_lexer : lexer.Built .place := by
  apply Built.choice
  simp only [List.forall_mem_append, List.forall_mem_map, List.forall_mem_cons]
  refine ⟨⟨?_, ?_⟩, ?_⟩
  · exact fun wanted _ => built_spaced (built_keyword wanted)
  · exact fun symbol _ => built_spaced (built_text symbol)
  · exact ⟨built_spaced built_numeral, built_spaced built_word, built_spaced (.map .any _),
      by simp⟩

theorem follows_spaced {p : Parser Char String} (hp : p.Built .ahead) (count : Nat) :
    (spaced p).Follows (.behind count) (behind count) := by
  have hspace := built_whitespace.follows count
  have hplaced := follows_position.pair (hp.follows count)
  exact ((hspace.keepRight hplaced).keepLeft hspace).map fun _ => rfl

theorem follows_lexer (count : Nat) : lexer.Follows (.behind count) (behind count) := by
  apply follows_choice
  simp only [List.forall_mem_append, List.forall_mem_map, List.forall_mem_cons]
  refine ⟨⟨?_, ?_⟩, ?_⟩
  · exact fun wanted _ => follows_spaced (built_keyword wanted) count
  · exact fun symbol _ => follows_spaced (built_text symbol) count
  · exact ⟨follows_spaced built_numeral count, follows_spaced built_word count,
      follows_spaced (.map .any _) count, by simp⟩

end Token

namespace Parser

/-- What was passed does not matter: the run behind it is the run on what is ahead alone, and ends
that many elements further on. Of the lexer's tokens the offset moves along. -/
theorem run_behind_passed :
    (∀ {σ α : Type} {p : Parser σ α}, p.Built .ahead → ∀ passed ahead : List σ,
      p.run (Stream.between passed ahead).cursor =
        (Move.behind passed.length).outcome id (p.run (Stream.ofList ahead).cursor)) ∧
      ∀ passed ahead : List Char,
        Token.lexer.run (Stream.between passed ahead).cursor =
          (Move.behind passed.length).outcome (Token.behind passed.length)
            (Token.lexer.run (Stream.ofList ahead).cursor) := by
  constructor
  · intro σ α p hp passed ahead
    rw [Stream.cursor_between_eq]
    exact hp.follows passed.length _
  · intro passed ahead
    rw [Stream.cursor_between_eq]
    exact Token.follows_lexer passed.length _

theorem run_behind_parentheses :
    (enclosed.label fun cursor => if cursor.isEmpty then "nothing" else "something else").run
        (Stream.between "(()".toList [';']).cursor = .failed "something else" ⟨3, [';']⟩ := by
  have hbuilt : (enclosed.label fun cursor =>
      if cursor.isEmpty then "nothing" else "something else").Built .ahead := by
    refine (built_enclosed .ahead).label _ fun _ cursor other hahead => ?_
    rw [Cursor.isEmpty, Cursor.isEmpty, hahead]
  exact run_behind_passed.1 hbuilt "(()".toList [';']

end Parser

end RangeCalc
