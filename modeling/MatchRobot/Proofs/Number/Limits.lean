import MatchRobot.Proofs.Number.Arithmetic

/-!
# Limits on finite numbers

The smaller one of a number and a limit, `Single.least`, keeps below the limit, but on the other side it
goes as far as the number does: `Single.abs_least_le_iff` says when it stays within a bound in both
directions, and `Single.neg_least_le_iff` when its negative stays below one. Both come down to values.

A test that asks whether a number is beyond a bound lets everything pass that keeps within it, and `NaN` too
(`Single.within_iff`).
-/

namespace MatchRobot

open Float.Model (Format UnpackedFloat)
open Float.Model.UnpackedFloat

namespace Single

/-! ### The smaller one of a number and a limit -/

lemma value_zero : value (unpacked 0) = 0 := by
  rw [unpacked_zero]
  rfl

/-- What lies between zero and a finite number is finite. -/
lemma isFinite_of_le {x y : Float32} (low : 0 ≤ x) (high : x ≤ y) (finite_y : y.isFinite = true) :
    x.isFinite = true := by
  rw [isFinite_eq] at finite_y ⊢
  rw [le_iff] at low high
  rw [unpacked_zero] at low
  cases hx : unpacked x with
  | zero | finite => rfl
  | notANumber =>
    rw [hx] at low
    cases low
  | infinity s =>
    rw [hx] at low high
    cases s with
    | negative => cases low
    | positive =>
      cases hy : unpacked y with
      | infinity | notANumber =>
        rw [hy] at finite_y
        cases finite_y
      | zero | finite =>
        rw [hy] at high
        cases high

lemma abs_neg_eq (x : Float32) : (-x).abs = x.abs := by
  apply eq_of_unpacked
  rw [unpacked_abs, unpacked_abs, unpacked_neg]
  cases unpacked x <;> rfl

section

variable {x limit bound : Float32} (finite_x : x.isFinite = true)
  (finite_limit : limit.isFinite = true) (finite_bound : bound.isFinite = true)

section

include finite_x finite_limit

/-- Between two finite numbers, the smaller one is the one of the smaller value. -/
lemma value_least : (least x limit).isFinite = true ∧
    value (unpacked (least x limit)) = min (value (unpacked x)) (value (unpacked limit)) := by
  unfold least
  rw [isNaN_of_finite finite_limit, if_neg Bool.false_ne_true]
  split
  · next below =>
    rw [lt_iff_value finite_x finite_limit] at below
    exact ⟨finite_x, (min_eq_left below.le).symm⟩
  · next above =>
    rw [lt_iff_value finite_x finite_limit] at above
    exact ⟨finite_limit, (min_eq_right (not_lt.1 above)).symm⟩

end

include finite_x finite_bound

lemma abs_le_iff_value : x.abs ≤ bound ↔
    -value (unpacked bound) ≤ value (unpacked x) ∧ value (unpacked x) ≤ value (unpacked bound) := by
  rw [le_iff_value ((isFinite_abs x).trans finite_x) finite_bound, unpacked_abs, value_abs, abs_le]

lemma lt_neg_iff_value : x < -bound ↔ value (unpacked x) < -value (unpacked bound) := by
  rw [lt_iff_value finite_x ((isFinite_neg bound).trans finite_bound), unpacked_neg, value_neg]

lemma neg_le_iff_value : -x ≤ bound ↔ -value (unpacked bound) ≤ value (unpacked x) := by
  rw [le_iff_value ((isFinite_neg x).trans finite_x) finite_bound, unpacked_neg, value_neg]
  omega

include finite_limit

/-- A limit that is not beyond a bound keeps a number within the bound, unless the number is beyond it on
the other side. -/
lemma abs_least_le_iff (low : 0 ≤ limit) (high : limit ≤ bound) :
    (least x limit).abs ≤ bound ↔ ¬ x < -bound := by
  obtain ⟨finite, least⟩ := value_least finite_x finite_limit
  have zero : (0 : Float32).isFinite = true := by decide
  rw [le_iff_value zero finite_limit, value_zero] at low
  rw [le_iff_value finite_limit finite_bound] at high
  rw [abs_le_iff_value finite finite_bound, lt_neg_iff_value finite_x finite_bound, least]
  omega

/-- The smaller one of two numbers is no larger than a bound if one of them is not. -/
lemma least_le_iff : least x limit ≤ bound ↔ x ≤ bound ∨ limit ≤ bound := by
  obtain ⟨finite, least⟩ := value_least finite_x finite_limit
  rw [le_iff_value finite finite_bound, least, le_iff_value finite_x finite_bound,
    le_iff_value finite_limit finite_bound]
  exact min_le_iff

/-- The negative of what a limit leaves of a number is no larger than a bound, unless the number is beyond
the bound on that side. -/
lemma neg_least_le_iff (low : 0 ≤ limit) (above : 0 ≤ bound) :
    -least x limit ≤ bound ↔ ¬ x < -bound := by
  obtain ⟨finite, least⟩ := value_least finite_x finite_limit
  have zero : (0 : Float32).isFinite = true := by decide
  rw [le_iff_value zero finite_limit, value_zero] at low
  rw [le_iff_value zero finite_bound, value_zero] at above
  rw [neg_le_iff_value finite finite_bound, lt_neg_iff_value finite_x finite_bound, least]
  omega

end

/-! ### Numbers that are not beyond a bound -/

/-- Only a number compares with a bound. -/
lemma isNaN_of_le {x bound : Float32} (h : x ≤ bound) : x.isNaN = false := by
  rw [le_iff] at h
  rw [isNaN_eq]
  cases hx : unpacked x with
  | notANumber =>
    rw [hx] at h
    cases h
  | infinity | zero | finite => rfl

/-- An infinite number is beyond every finite bound. -/
lemma lt_abs_of_infinite {x bound : Float32} (finite_bound : bound.isFinite = true)
    (infinite : x.isFinite = false) (number : x.isNaN = false) : bound < x.abs := by
  rw [isFinite_eq] at finite_bound infinite
  rw [isNaN_eq] at number
  rw [lt_iff, unpacked_abs]
  cases hx : unpacked x with
  | notANumber =>
    rw [hx] at number
    cases number
  | zero | finite =>
    rw [hx] at infinite
    cases infinite
  | infinity s =>
    cases hb : unpacked bound with
    | infinity | notANumber =>
      rw [hb] at finite_bound
      cases finite_bound
    | zero | finite => rfl

/-- What is not beyond a bound in magnitude keeps within it, unless it is no number. -/
lemma within_iff {x bound : Float32} (finite_bound : bound.isFinite = true) (h : ¬ bound < x.abs) :
    -bound ≤ x ∧ x ≤ bound ↔ x.isNaN = false := by
  constructor
  · rintro ⟨-, high⟩
    exact isNaN_of_le high
  · intro number
    have finite_x : x.isFinite = true := by
      by_contra infinite
      exact h (lt_abs_of_infinite finite_bound (by simpa using infinite) number)
    rw [lt_iff_value finite_bound ((isFinite_abs x).trans finite_x), unpacked_abs, value_abs, not_lt,
      abs_le] at h
    rw [le_iff_value ((isFinite_neg bound).trans finite_bound) finite_x, unpacked_neg, value_neg,
      le_iff_value finite_x finite_bound]
    exact h

end Single

end MatchRobot
