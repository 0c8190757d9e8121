import RangeCalc.Proofs.Frame.Bindings

/-! Frames that share those below them form a tree, which grows at its leaves. Each frame answers
for the path that leads to it, whatever else is made later. -/

namespace RangeCalc.Frame

variable {κ ν : Type}

/-- Each step builds on a frame that was made before it. -/
def InOrder (steps : List (Step κ ν)) : Prop :=
  ∀ number (hnumber : number < steps.length), steps[number].below ≤ number

instance (steps : List (Step κ ν)) : Decidable (InOrder steps) :=
  inferInstanceAs
    (Decidable (∀ number (hnumber : number < steps.length), steps[number].below ≤ number))

/-- The bindings on the way from the empty frame, which is frame 0, to the frame with a number, the
earliest first. The first step makes frame 1. -/
inductive Path (steps : List (Step κ ν)) : Nat → List (κ × ν) → Prop where
  | empty : Path steps 0 []
  | bind {number : Nat} {step : Step κ ν} {bindings : List (κ × ν)}
      (hstep : steps[number]? = some step) (hbelow : Path steps step.below bindings) :
      Path steps (number + 1) (bindings ++ [(step.name, step.value)])

section Growth

variable {steps : List (Step κ ν)} {frames : Array (Frame κ ν)} {number : Nat}

@[simp] theorem size_grow (frames : Array (Frame κ ν)) (step : Step κ ν) :
    (grow frames step).size = frames.size + 1 := by
  simp [grow]

theorem getElem?_grow_of_lt (step : Step κ ν) (hmade : number < frames.size) :
    (grow frames step)[number]? = frames[number]? := by
  rw [grow, Array.getElem?_push_lt hmade, Array.getElem?_eq_getElem hmade]

theorem getElem?_foldl_grow_of_lt (later : List (Step κ ν)) (hmade : number < frames.size) :
    (later.foldl grow frames)[number]? = frames[number]? := by
  induction later generalizing frames with
  | nil => rfl
  | cons step later ih =>
      have hstill : number < (grow frames step).size := by
        rw [size_grow]
        omega
      rw [List.foldl_cons, ih hstill, getElem?_grow_of_lt step hmade]

theorem history_append (steps later : List (Step κ ν)) :
    history (steps ++ later) = later.foldl grow (history steps) :=
  List.foldl_append

theorem history_snoc (steps : List (Step κ ν)) (step : Step κ ν) :
    history (steps ++ [step]) = grow (history steps) step :=
  history_append steps [step]

@[simp] theorem size_history (steps : List (Step κ ν)) :
    (history steps).size = steps.length + 1 := by
  induction steps using List.reverseRecOn with
  | nil => rfl
  | append_singleton steps step ih => simp [history_snoc, ih]

theorem getElem?_history_append (later : List (Step κ ν)) (hmade : number ≤ steps.length) :
    (history (steps ++ later))[number]? = (history steps)[number]? := by
  rw [history_append]
  apply getElem?_foldl_grow_of_lt
  rw [size_history]
  omega

/-- The frame that a step made is the one below it, as it is in the end, with a binding more. -/
theorem getElem?_history_succ {step : Step κ ν} {below : Frame κ ν}
    (hstep : steps[number]? = some step) (hle : step.below ≤ number)
    (hbelow : (history steps)[step.below]? = some below) :
    (history steps)[number + 1]? = some (below.bind step.name step.value) := by
  obtain ⟨hnumber, hget⟩ := List.getElem?_eq_some_iff.mp hstep
  have hlength : (steps.take number).length = number :=
    List.length_take_of_le (Nat.le_of_lt hnumber)
  have hsteps : steps = steps.take number ++ step :: steps.drop (number + 1) := by
    rw [← hget, List.getElem_cons_drop, List.take_append_drop]
  generalize steps.take number = before at hlength hsteps
  generalize steps.drop (number + 1) = after at hsteps
  subst hlength hsteps
  rw [getElem?_history_append _ hle] at hbelow
  rw [List.append_cons, getElem?_history_append _ (by simp), history_snoc, grow,
    Array.getD_eq_getD_getElem?, hbelow, Option.getD_some, ← size_history before,
    Array.getElem?_push_size]

end Growth

section Paths

variable {steps : List (Step κ ν)} {number : Nat} {bindings : List (κ × ν)}

theorem Path.append (hpath : Path steps number bindings) (later : List (Step κ ν)) :
    Path (steps ++ later) number bindings := by
  induction hpath with
  | empty => exact .empty
  | bind hstep _ ih =>
      obtain ⟨hnumber, _⟩ := List.getElem?_eq_some_iff.mp hstep
      refine .bind ?_ ih
      rw [List.getElem?_append_left hnumber, hstep]

theorem Path.eq {others : List (κ × ν)} (hpath : Path steps number bindings)
    (hothers : Path steps number others) : others = bindings := by
  induction hpath generalizing others with
  | empty =>
      cases hothers
      rfl
  | bind hstep _ ih =>
      cases hothers with
      | bind hstep' hbelow' =>
          cases hstep.symm.trans hstep'
          rw [ih hbelow']

theorem InOrder.exists_path (horder : InOrder steps) (hmade : number ≤ steps.length) :
    ∃ bindings, Path steps number bindings := by
  -- The way down from a frame passes lower numbers only.
  induction number using Nat.strongRecOn with
  | ind number ih =>
      cases number with
      | zero => exact ⟨[], .empty⟩
      | succ number =>
          have hbelow := horder number hmade
          obtain ⟨bindings, hpath⟩ := ih steps[number].below (by omega) (by omega)
          exact ⟨_, .bind (List.getElem?_eq_getElem hmade) hpath⟩

theorem Path.getElem?_history (hpath : Path steps number bindings) (horder : InOrder steps) :
    (history steps)[number]? = some (ofList bindings) := by
  induction hpath with
  | empty =>
      have hfirst : (history ([] ++ steps))[0]? = some (ofList []) :=
        getElem?_history_append steps (Nat.zero_le _)
      exact hfirst
  | bind hstep _ ih =>
      obtain ⟨hnumber, hget⟩ := List.getElem?_eq_some_iff.mp hstep
      rw [ofList_snoc]
      exact getElem?_history_succ hstep (hget ▸ horder _ hnumber) ih

end Paths

/-- Of each name a frame tells what the last binding on its path says, and nothing else. Steps taken
later, on whatever frames, change neither the frame nor its path. -/
theorem history_persists [DecidableEq κ] {steps : List (Step κ ν)} (horder : InOrder steps)
    {number : Nat} (hmade : number ≤ steps.length) :
    ∃ frame bindings, (history steps)[number]? = some frame ∧ Path steps number bindings ∧
      (∀ name answer, frame.lookup name = answer ↔ Last name bindings answer) ∧
      ∀ later, (history (steps ++ later))[number]? = some frame ∧
        ∀ others, Path (steps ++ later) number others ↔ others = bindings := by
  obtain ⟨bindings, hpath⟩ := horder.exists_path hmade
  have hframe := hpath.getElem?_history horder
  refine ⟨ofList bindings, bindings, hframe, hpath, fun _ _ => lookup_ofList_eq_iff, ?_⟩
  intro later
  refine ⟨(getElem?_history_append later hmade).trans hframe, fun others => ⟨?_, ?_⟩⟩
  · exact (hpath.append later).eq
  · rintro rfl
    exact hpath.append later

/-- Frames 2 and 3 both hide the `x` of frame 1, which they share, and frame 4 is above frame 2. -/
private def siblings : List (Step String Nat) :=
  [⟨0, "x", 1⟩, ⟨1, "x", 41⟩, ⟨1, "x", 7⟩, ⟨2, "y", 5⟩]

theorem history_of_siblings_persists :
    InOrder siblings ∧ Path siblings 4 [("x", 1), ("x", 41), ("y", 5)] ∧
      ∃ frame, (history siblings)[4]? = some frame ∧
        (history (siblings ++ [⟨2, "x", 0⟩, ⟨4, "x", 9⟩]))[4]? = some frame ∧
        frame.lookup "x" = some 41 ∧ frame.lookup "z" = none := by
  have horder : InOrder siblings := by decide
  have hfirst : siblings[0]? = some ⟨0, "x", 1⟩ := rfl
  have hsecond : siblings[1]? = some ⟨1, "x", 41⟩ := rfl
  have hfourth : siblings[3]? = some ⟨2, "y", 5⟩ := rfl
  have hpath : Path siblings 4 [("x", 1), ("x", 41), ("y", 5)] :=
    .bind hfourth (.bind hsecond (.bind hfirst .empty))
  have hmade : 4 ≤ siblings.length := by decide
  obtain ⟨frame, bindings, hframe, hbindings, hlookup, hlater⟩ := history_persists horder hmade
  obtain rfl := hpath.eq hbindings
  refine ⟨horder, hpath, frame, hframe, (hlater _).1, ?_, ?_⟩
  · exact (hlookup "x" _).mpr (.found [("x", 1)] 41 (by decide))
  · exact (hlookup "z" _).mpr (.absent (by decide))

end RangeCalc.Frame
