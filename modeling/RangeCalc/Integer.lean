import RangeCalc.Text.CharClass

/-! The integers of the language are those of 64 bits. Arithmetic is done on unbounded integers
and its result either has to fit or is moved to the nearest end of the range. -/

namespace RangeCalc.Integer

open RangeCalc.Text

def Fits (n : Int) : Prop :=
  Int64.minValue.toInt ≤ n ∧ n ≤ Int64.maxValue.toInt

instance (n : Int) : Decidable (Fits n) :=
  inferInstanceAs (Decidable (_ ∧ _))

theorem fits_toInt (n : Int64) : Fits n.toInt :=
  ⟨n.minValue_le_toInt, n.toInt_le⟩

def fit? (n : Int) : Option Int64 :=
  if Fits n then some (Int64.ofInt n) else none

theorem toInt_ofInt_of_fits {n : Int} (h : Fits n) : (Int64.ofInt n).toInt = n :=
  Int64.toInt_ofInt_of_le h.1 (Int.lt_add_one_of_le h.2)

theorem fit?_eq_some_iff {n : Int} {value : Int64} :
    fit? n = some value ↔ value.toInt = n := by
  unfold fit?
  constructor
  · intro h
    split at h
    · rename_i hfits
      cases h
      exact toInt_ofInt_of_fits hfits
    · contradiction
  · rintro rfl
    simp [fits_toInt]

theorem fit?_eq_none_iff {n : Int} : fit? n = none ↔ ¬ Fits n := by
  unfold fit?
  split <;> simp_all

@[simp] theorem fit?_toInt (n : Int64) : fit? n.toInt = some n :=
  fit?_eq_some_iff.mpr rfl

def clamp (n : Int) : Int64 :=
  Int64.ofInt (max Int64.minValue.toInt (min n Int64.maxValue.toInt))

theorem toInt_clamp (n : Int) :
    (clamp n).toInt = max Int64.minValue.toInt (min n Int64.maxValue.toInt) := by
  have hends : Int64.minValue.toInt ≤ Int64.maxValue.toInt := by decide
  exact toInt_ofInt_of_fits ⟨Int.le_max_left .., by omega⟩

theorem clamp_of_fits {n : Int} (h : Fits n) : (clamp n).toInt = n := by
  obtain ⟨hlower, hupper⟩ := h
  rw [toInt_clamp, Int.min_eq_left hupper, Int.max_eq_right hlower]

@[simp] theorem clamp_toInt (n : Int64) : clamp n.toInt = n :=
  Int64.toInt_inj.mp (clamp_of_fits (fits_toInt n))

/-! The written form: decimal digits behind an optional sign. -/

def digits (n : Int64) : String :=
  toString n.toInt

def magnitude? (numeral : List Char) : Option Nat :=
  if numeral.isEmpty || !numeral.all isDigit then none
  else some (Nat.ofDigitChars 10 numeral 0)

def read? : List Char → Option Int64
  | '-' :: numeral => (magnitude? numeral).bind fun n => fit? (-(n : Int))
  | '+' :: numeral => (magnitude? numeral).bind fun n => fit? n
  | numeral => (magnitude? numeral).bind fun n => fit? n

end RangeCalc.Integer
