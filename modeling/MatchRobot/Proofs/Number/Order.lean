import MatchRobot.Proofs.Number.Nearest

/-!
# The order of all numbers

Finite singles are ordered by their values, and infinite ones stand before and behind them.
`Single.rank` gives every number its place among the whole numbers, so that a comparison of singles is a
comparison of ranks as soon as no `NaN` takes part (`Single.lt_iff_rank`, `Single.le_iff_rank`). Clamping is
the least and the greatest of ranks then (`Single.rank_clamp`), infinite numbers included. It is monotone and
stays in its interval.

The conversion to a word cuts off the fraction of a number, so it is monotone too (`Single.toUInt32_mono`).
-/

namespace MatchRobot

open Float.Model (Format UnpackedFloat)
open Float.Model.UnpackedFloat

namespace Single

/-! ### Ranks -/

/-- The place of a number: its value, or for an infinite one a place beyond all values. -/
def rank : UnpackedFloat → Int
  | .infinity s => s.apply overflow
  | u => value u

lemma abs_value_lt (x : Float32) : |value (unpacked x)| < overflow := by
  have positive : (0 : Int) < overflow := by decide
  by_cases finite : (unpacked x).isFinite = true
  · refine (repacked_of_value (canonical_unpacked x) finite).1.1 ?_
    rwa [repacked_unpacked]
  · have none : value (unpacked x) = 0 := by
      cases hx : unpacked x with
      | infinity | notANumber => rfl
      | zero | finite =>
        rw [hx] at finite
        exact absurd rfl finite
    rwa [none, abs_zero]

section

variable {x y : Float32} (number_x : x.isNaN = false) (number_y : y.isNaN = false)
include number_x number_y

/-- Numbers are compared by their ranks. -/
lemma compare_rank : (unpacked x).compare (unpacked y) =
    some (compare (rank (unpacked x)) (rank (unpacked y))) := by
  have canonical_x := canonical_unpacked x
  have canonical_y := canonical_unpacked y
  have small_x := abs_lt.1 (abs_value_lt x)
  have small_y := abs_lt.1 (abs_value_lt y)
  rw [isNaN_eq] at number_x number_y
  generalize unpacked x = u at *
  generalize unpacked y = v at *
  cases u with
  | notANumber => cases number_x
  | infinity s =>
    cases v with
    | notANumber => cases number_y
    | infinity t => cases s <;> cases t <;> decide
    | zero | finite =>
      cases s with
      | positive => exact congrArg some (compare_gt_iff_gt.2 small_y.2).symm
      | negative => exact congrArg some (compare_lt_iff_lt.2 small_y.1).symm
  | zero | finite =>
    cases v with
    | notANumber => cases number_y
    | infinity t =>
      cases t with
      | positive => exact congrArg some (compare_lt_iff_lt.2 small_x.2).symm
      | negative => exact congrArg some (compare_gt_iff_gt.2 small_x.1).symm
    | zero | finite => exact compare_value canonical_x canonical_y rfl rfl

lemma lt_iff_rank : x < y ↔ rank (unpacked x) < rank (unpacked y) := by
  rw [lt_iff, UnpackedFloat.lt, compare_rank number_x number_y]
  exact beq_iff_eq.trans ((Option.some_inj).trans compare_lt_iff_lt)

lemma le_iff_rank : x ≤ y ↔ rank (unpacked x) ≤ rank (unpacked y) := by
  rw [le_iff, UnpackedFloat.le, compare_rank number_x number_y]
  exact Ordering.isLE_iff_ne_gt.trans compare_le_iff_le

end

/-- Only a number is compared. -/
lemma isNaN_of_ge {x bound : Float32} (h : bound ≤ x) : x.isNaN = false := by
  rw [le_iff] at h
  rw [isNaN_eq]
  cases hx : unpacked x with
  | notANumber =>
    rw [hx] at h
    generalize unpacked bound = u at h
    cases u <;> cases h
  | infinity | zero | finite => rfl

lemma le_trans_of_le {x y z : Float32} (h : x ≤ y) (h' : y ≤ z) : x ≤ z := by
  have number_x := isNaN_of_le h
  have number_y := isNaN_of_ge h
  have number_z := isNaN_of_ge h'
  rw [le_iff_rank number_x number_y] at h
  rw [le_iff_rank number_y number_z] at h'
  rw [le_iff_rank number_x number_z]
  exact h.trans h'

/-! ### Clamping -/

section

variable {low high x y : Float32} (number_low : low.isNaN = false) (number_high : high.isNaN = false)
  (number_x : x.isNaN = false)
include number_low number_high number_x

/-- Clamping makes no `NaN` of numbers, and it is clamping of the ranks. -/
lemma rank_clamp : (clamp low high x).isNaN = false ∧ rank (unpacked (clamp low high x)) =
    min (max (rank (unpacked x)) (rank (unpacked low))) (rank (unpacked high)) := by
  have raise : (if x < low then low else x).isNaN = false ∧
      rank (unpacked (if x < low then low else x)) =
        max (rank (unpacked x)) (rank (unpacked low)) := by
    split
    · next below =>
      rw [lt_iff_rank number_x number_low] at below
      exact ⟨number_low, (max_eq_right below.le).symm⟩
    · next above =>
      rw [lt_iff_rank number_x number_low] at above
      exact ⟨number_x, (max_eq_left (not_lt.1 above)).symm⟩
  unfold clamp
  generalize (if x < low then low else x) = raised at *
  rw [← raise.2]
  simp only [gt_iff_lt]
  split
  · next above =>
    rw [lt_iff_rank number_high raise.1] at above
    exact ⟨number_high, (min_eq_right above.le).symm⟩
  · next below =>
    rw [lt_iff_rank number_high raise.1] at below
    exact ⟨raise.1, (min_eq_left (not_lt.1 below)).symm⟩

/-- What is clamped to an interval lies in it. -/
lemma clamp_between (h : low ≤ high) : low ≤ clamp low high x ∧ clamp low high x ≤ high := by
  obtain ⟨number, clamped⟩ := rank_clamp number_low number_high number_x
  rw [le_iff_rank number_low number_high] at h
  rw [le_iff_rank number_low number, le_iff_rank number number_high, clamped]
  omega

/-- Clamping is monotone. -/
lemma clamp_mono (number_y : y.isNaN = false) (h : x ≤ y) : clamp low high x ≤ clamp low high y := by
  obtain ⟨number, clamped⟩ := rank_clamp number_low number_high number_x
  obtain ⟨number', clamped'⟩ := rank_clamp number_low number_high number_y
  rw [le_iff_rank number_x number_y] at h
  rw [le_iff_rank number number', clamped, clamped']
  omega

end

/-! ### Words -/

lemma toNat_ofNatClamp32 (n : Nat) : (UInt32.ofNatClamp n).toNat = min n (2 ^ 32 - 1) := by
  have size : UInt32.size = 2 ^ 32 := rfl
  rcases Nat.lt_or_ge n UInt32.size with small | large
  · rw [UInt32.toNat_ofNatClamp_of_lt small]
    omega
  · rw [UInt32.toNat_ofNatClamp_of_le large]
    omega

/-- The word of a number that is not negative is its whole part, as far as words go. -/
lemma toNat_toUInt32 {x : Float32} (finite : x.isFinite = true) (h : 0 ≤ x) :
    x.toUInt32.toNat = min ((value (unpacked x)).toNat / 2 ^ 149) (2 ^ 32 - 1) := by
  have converted : x.toUInt32 =
      UInt32.ofNatClamp ((unpacked x).toInt 0 (UInt32.size - 1)).toNat := rfl
  have canonical := canonical_unpacked x
  rw [le_iff_value isFinite_zero finite, value_zero] at h
  rw [isFinite_eq] at finite
  rw [converted, toNat_ofNatClamp32]
  congr 1
  cases hx : unpacked x with
  | infinity | notANumber =>
    rw [hx] at finite
    cases finite
  | zero s => cases s <;> rfl
  | finite s m e pos =>
    rw [hx] at h canonical
    rcases value_finite_cases s m e pos with ⟨rfl, -⟩ | ⟨-, below⟩
    · have low : -149 ≤ e := canonical.2.1
      have whole : (value (.finite .positive m e pos)).toNat = m * 2 ^ (e + 149).toNat := rfl
      rw [toInt, roundToInt_positive, Int.toNat_natCast, whole]
      rcases Int.le_total 0 e with nonneg | nonpos
      · have units : (e + 149).toNat = e.toNat + 149 := by omega
        have none : (-e).toNat = 0 := by omega
        rw [units, none, Nat.pow_zero, Nat.div_one, Nat.pow_add, ← Nat.mul_assoc,
          Nat.mul_div_cancel _ (Nat.two_pow_pos 149)]
      · have units : 149 = (-e).toNat + (e + 149).toNat := by omega
        have none : e.toNat = 0 := by omega
        have split : 2 ^ 149 = 2 ^ (-e).toNat * 2 ^ (e + 149).toNat := by rw [← Nat.pow_add, ← units]
        rw [split, none, Nat.pow_zero, Nat.mul_one, Nat.mul_div_mul_right _ _ (Nat.two_pow_pos _)]
    · omega

/-- A larger number that is not negative has no smaller word. -/
lemma toUInt32_mono {x y : Float32} (finite_x : x.isFinite = true) (finite_y : y.isFinite = true)
    (sign : 0 ≤ x) (h : x ≤ y) : x.toUInt32.toNat ≤ y.toUInt32.toNat := by
  have sign' : 0 ≤ y := le_trans_of_le sign h
  rw [le_iff_value finite_x finite_y] at h
  rw [toNat_toUInt32 finite_x sign, toNat_toUInt32 finite_y sign']
  have whole : (value (unpacked x)).toNat / 2 ^ 149 ≤ (value (unpacked y)).toNat / 2 ^ 149 :=
    Nat.div_le_div_right (Int.toNat_le_toNat h)
  exact min_le_min_right _ whole

end Single

end MatchRobot
