import Mathlib.Data.List.Induction
import RangeCalc.Frame

/-! A frame as the bindings that made it, the earliest first. The last binding of a name is the one
that a lookup finds. -/

namespace RangeCalc.Frame

variable {κ ν : Type}

def extend (frame : Frame κ ν) (bindings : List (κ × ν)) : Frame κ ν :=
  bindings.foldl (fun frame (name, value) => frame.bind name value) frame

/-- The value of the last binding of a name, or none where there is no binding of it. -/
inductive Last (name : κ) : List (κ × ν) → Option ν → Prop where
  | found (earlier : List (κ × ν)) (value : ν) {later : List (κ × ν)}
      (hlater : ∀ binding ∈ later, binding.1 ≠ name) :
      Last name (earlier ++ (name, value) :: later) (some value)
  | absent {bindings : List (κ × ν)} (hnone : ∀ binding ∈ bindings, binding.1 ≠ name) :
      Last name bindings none

theorem extend_append (frame : Frame κ ν) (earlier later : List (κ × ν)) :
    frame.extend (earlier ++ later) = (frame.extend earlier).extend later :=
  List.foldl_append

theorem extend_empty (bindings : List (κ × ν)) : empty.extend bindings = ofList bindings := rfl

theorem ofList_snoc (bindings : List (κ × ν)) (name : κ) (value : ν) :
    ofList (bindings ++ [(name, value)]) = (ofList bindings).bind name value :=
  extend_append empty bindings [(name, value)]

theorem exists_last [DecidableEq κ] (name : κ) (bindings : List (κ × ν)) :
    ∃ answer, Last name bindings answer := by
  induction bindings with
  | nil => exact ⟨none, .absent (by simp)⟩
  | cons binding bindings ih =>
      obtain ⟨answer, hlast⟩ := ih
      cases hlast with
      | found earlier value hlater => exact ⟨_, .found (binding :: earlier) value hlater⟩
      | absent hnone =>
          by_cases hname : binding.1 = name
          · subst hname
            exact ⟨_, .found [] binding.2 hnone⟩
          · exact ⟨none, .absent (List.forall_mem_cons.mpr ⟨hname, hnone⟩)⟩

section Lookup

variable [DecidableEq κ] {bindings : List (κ × ν)} {name : κ}

theorem lookup_extend (frame : Frame κ ν) (bindings : List (κ × ν)) (name : κ) :
    (frame.extend bindings).lookup name =
      ((ofList bindings).lookup name).or (frame.lookup name) := by
  induction bindings using List.reverseRecOn with
  | nil => rfl
  | append_singleton bindings binding ih =>
      obtain ⟨bound, value⟩ := binding
      rw [extend_append, ofList_snoc]
      change ((frame.extend bindings).bind bound value).lookup name = _
      by_cases hsame : bound = name
      · subst hsame
        rw [lookup_bind_self, lookup_bind_self, Option.some_or]
      · rw [lookup_bind_of_ne _ _ hsame, lookup_bind_of_ne _ _ hsame, ih]

theorem lookup_ofList_append (earlier later : List (κ × ν)) (name : κ) :
    (ofList (earlier ++ later)).lookup name =
      ((ofList later).lookup name).or ((ofList earlier).lookup name) := by
  rw [← extend_empty, extend_append, lookup_extend, extend_empty]

theorem lookup_ofList_eq_none (hnone : ∀ binding ∈ bindings, binding.1 ≠ name) :
    (ofList bindings).lookup name = none := by
  induction bindings using List.reverseRecOn with
  | nil => rfl
  | append_singleton bindings binding ih =>
      obtain ⟨hothers, hbinding⟩ := List.forall_mem_append.mp hnone
      have hne : binding.1 ≠ name := hbinding binding List.mem_cons_self
      rw [ofList_snoc, lookup_bind_of_ne _ _ hne]
      exact ih hothers

theorem lookup_ofList_of_last {answer : Option ν} (hlast : Last name bindings answer) :
    (ofList bindings).lookup name = answer := by
  cases hlast with
  | found earlier value hlater =>
      rw [List.append_cons, lookup_ofList_append, lookup_ofList_eq_none hlater, ofList_snoc,
        lookup_bind_self, Option.none_or]
  | absent hnone => exact lookup_ofList_eq_none hnone

theorem lookup_ofList_eq_iff {answer : Option ν} :
    (ofList bindings).lookup name = answer ↔ Last name bindings answer := by
  constructor
  · intro hlookup
    obtain ⟨found, hlast⟩ := exists_last name bindings
    rwa [← hlookup, lookup_ofList_of_last hlast]
  · exact lookup_ofList_of_last

end Lookup

end RangeCalc.Frame
