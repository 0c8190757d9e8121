/-! Frames: immutable chains of bindings. Binding a name makes a new frame, which hides what the
frame below it says about that name and leaves that frame as it is. -/

namespace RangeCalc

inductive Frame (κ ν : Type) where
  | empty
  | bind (below : Frame κ ν) (name : κ) (value : ν)

namespace Frame

variable {κ ν : Type}

def lookup [DecidableEq κ] : Frame κ ν → κ → Option ν
  | empty, _ => none
  | bind below bound value, name => if bound = name then some value else below.lookup name

@[simp] theorem lookup_empty [DecidableEq κ] (name : κ) :
    (empty : Frame κ ν).lookup name = none := rfl

@[simp] theorem lookup_bind_self [DecidableEq κ] (below : Frame κ ν) (name : κ) (value : ν) :
    (below.bind name value).lookup name = some value := by
  simp [lookup]

theorem lookup_bind_of_ne [DecidableEq κ] (below : Frame κ ν) {bound name : κ} (value : ν)
    (h : bound ≠ name) : (below.bind bound value).lookup name = below.lookup name := by
  simp [lookup, h]

def ofList (bindings : List (κ × ν)) : Frame κ ν :=
  bindings.foldl (fun frame (name, value) => frame.bind name value) empty

/-- The making of a frame on top of an earlier one, which `below` counts. -/
structure Step (κ ν : Type) where
  below : Nat
  name : κ
  value : ν

/-- Adds the frame of `step` to the frames made so far. A frame that was not made counts as
empty. -/
def grow (frames : Array (Frame κ ν)) (step : Step κ ν) : Array (Frame κ ν) :=
  frames.push ((frames.getD step.below empty).bind step.name step.value)

/-- The frames that `steps` make, numbered from 0, which is the empty one. -/
def history (steps : List (Step κ ν)) : Array (Frame κ ν) :=
  steps.foldl grow #[empty]

end Frame

end RangeCalc
