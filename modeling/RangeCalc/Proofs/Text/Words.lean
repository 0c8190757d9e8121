/-! The words of a text, which are what stands between its blanks. -/

namespace RangeCalc.Text

def words (text : String) : List String :=
  (text.toList.splitOn ' ').map String.ofList

theorem words_spaced (first later : String) :
    words (first ++ " " ++ later) = words first ++ words later := by
  have hchars : (first ++ " " ++ later).toList = first.toList ++ ' ' :: later.toList := by
    simp
  rw [words, hchars, List.splitOn_append_cons_self, List.map_append, words, words]

theorem mem_words_spaced {word first later : String} :
    word ∈ words (first ++ " " ++ later) ↔ word ∈ words first ∨ word ∈ words later := by
  rw [words_spaced, List.mem_append]

theorem words_of_notMem {text : String} (hblank : ' ' ∉ text.toList) : words text = [text] := by
  rw [words, List.splitOn_eq_singleton hblank, List.map_singleton, String.ofList_toList]

/-- None of the words is in the text. -/
def Lacks (avoided : List String) (text : String) : Prop :=
  ∀ word ∈ avoided, word ∉ words text

instance (avoided : List String) (text : String) : Decidable (Lacks avoided text) :=
  inferInstanceAs (Decidable (∀ word ∈ avoided, word ∉ words text))

variable {avoided avoided' : List String} {first later text : String}

theorem Lacks.mono (h : Lacks avoided text) (hsubset : avoided' ⊆ avoided) : Lacks avoided' text :=
  fun word hmem => h word (hsubset hmem)

theorem Lacks.spaced (hfirst : Lacks avoided first) (hlater : Lacks avoided later) :
    Lacks avoided (first ++ " " ++ later) := by
  intro word hmem hword
  exact (mem_words_spaced.mp hword).elim (hfirst word hmem) (hlater word hmem)

theorem lacks_of_notMem (hblank : ' ' ∉ text.toList) (havoided : text ∉ avoided) :
    Lacks avoided text := by
  intro word hmem hword
  rw [words_of_notMem hblank] at hword
  exact havoided (List.mem_singleton.mp hword ▸ hmem)

end RangeCalc.Text
