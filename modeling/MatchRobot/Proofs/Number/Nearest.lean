import MatchRobot.Number.Decimal
import MatchRobot.Proofs.Number.Limits

/-!
# Sums and products to the nearest single

A sum or a product of finite singles is the exact one, rounded to the nearest single. The rounding is
described here on values, whole numbers of the smallest unit: `Single.nearest` keeps the 24 leading bits of
a value, by `Decimal.roundHalfEven`, and `Single.value_round` says that the shifts that an operation makes
come to the same. `Single.packs_add` and `Single.packs_mul` are what is known about the operations then.

Rounding to the nearest is monotone (`Single.nearest_mono`), keeps what a single can hold
(`Single.nearest_of_held`) and goes wrong by half a unit of the last place (`Single.nearest_error`). The
first two make bounds by intervals possible: a sum lies between the sums of the ends
(`Single.add_between`), a product with a factor that is not negative between the products of the ends
(`Single.mul_between`).
-/

namespace MatchRobot

open Float.Model (Format UnpackedFloat)
open Float.Model.UnpackedFloat

namespace Decimal

/-! ### The nearest whole number -/

/-- The nearest whole number is wrong by a half at most. -/
lemma roundHalfEven_error (num : Nat) {den : Nat} (pos : 0 < den) :
    2 * num ≤ 2 * (roundHalfEven num den * den) + den ∧
      2 * (roundHalfEven num den * den) ≤ 2 * num + den := by
  have parts := Nat.div_add_mod' num den
  have rest := Nat.mod_lt num pos
  unfold roundHalfEven
  generalize num / den = below at parts ⊢
  have next : (below + 1) * den = below * den + den := Nat.succ_mul below den
  simp only
  split
  · omega
  split
  · rw [next]
    omega
  · rcases Nat.mod_two_eq_zero_or_one below with even | odd
    · rw [even, Nat.add_zero]
      omega
    · rw [odd, next]
      omega

lemma roundHalfEven_bounds (num den : Nat) :
    num / den ≤ roundHalfEven num den ∧ roundHalfEven num den ≤ num / den + 1 := by
  unfold roundHalfEven
  generalize num / den = below
  have even := Nat.mod_two_eq_zero_or_one below
  simp only
  split
  · omega
  split
  · omega
  · omega

/-- A larger number has no smaller nearest whole number. -/
lemma roundHalfEven_mono {num num' : Nat} (h : num ≤ num') (den : Nat) :
    roundHalfEven num den ≤ roundHalfEven num' den := by
  have below : num / den ≤ num' / den := Nat.div_le_div_right h
  rcases Nat.lt_or_eq_of_le below with less | same
  · calc roundHalfEven num den ≤ num / den + 1 := (roundHalfEven_bounds num den).2
      _ ≤ num' / den := less
      _ ≤ roundHalfEven num' den := (roundHalfEven_bounds num' den).1
  · have rest : num % den ≤ num' % den := by
      have parts := Nat.div_add_mod' num den
      have parts' := Nat.div_add_mod' num' den
      rw [same] at parts
      omega
    unfold roundHalfEven
    rw [same]
    generalize num' / den = below
    have even := Nat.mod_two_eq_zero_or_one below
    simp only
    split_ifs <;> omega

/-- A whole number is its own nearest one. -/
lemma roundHalfEven_mul (n : Nat) {den : Nat} (pos : 0 < den) : roundHalfEven (n * den) den = n := by
  unfold roundHalfEven
  rw [Nat.mul_div_cancel n pos, Nat.mul_mod_left, if_pos (by omega)]

/-- A fraction has the same nearest whole number in other terms. -/
lemma roundHalfEven_scaled (num den : Nat) {scale : Nat} (pos : 0 < scale) :
    roundHalfEven (num * scale) (den * scale) = roundHalfEven num den := by
  have rest : 2 * (num * scale % (den * scale)) = 2 * (num % den) * scale := by
    rw [Nat.mul_mod_mul_right, Nat.mul_assoc]
  unfold roundHalfEven
  rw [Nat.mul_div_mul_right _ _ pos, rest]
  simp only [Nat.mul_lt_mul_right pos, gt_iff_lt]

end Decimal

namespace Single

open Decimal (roundHalfEven)

/-! ### What a shift leaves -/

/-- The two bits behind the mantissa of a fraction tell how what was cut off compares with a half, also
when the mantissa is shifted. -/
lemma fraction_rest (num : Nat) {den : Nat} (pos : 0 < den) (n : Nat) :
    let em := ExtendedMantissa.ofMantissaAndAccuracy (num / den)
      (accuracyOfFraction (num % den) den) >>> n
    em.roundBit = decide (den * 2 ^ n ≤ 2 * (num % (den * 2 ^ n))) ∧
      em.stickyBit = decide (2 * (num % (den * 2 ^ n)) ≠ 0 ∧
        2 * (num % (den * 2 ^ n)) ≠ den * 2 ^ n) := by
  induction n with
  | zero =>
    intro em
    have start : em = ExtendedMantissa.ofMantissaAndAccuracy (num / den)
        (accuracyOfFraction (num % den) den) := rfl
    rw [start, Nat.pow_zero, Nat.mul_one]
    generalize num % den = rest
    unfold accuracyOfFraction
    by_cases none : rest = 0
    · rw [if_pos none, none]
      exact ⟨(decide_eq_false (by omega)).symm, rfl⟩
    · rw [if_neg none]
      rcases lt_trichotomy (2 * rest) den with below | equal | above
      · rw [compare_lt_iff_lt.2 below]
        exact ⟨(decide_eq_false (by omega)).symm, (decide_eq_true (by omega)).symm⟩
      · rw [compare_eq_iff_eq.2 equal]
        exact ⟨(decide_eq_true (by omega)).symm, (decide_eq_false (by omega)).symm⟩
      · rw [compare_gt_iff_gt.2 above]
        exact ⟨(decide_eq_true (by omega)).symm, (decide_eq_true (by omega)).symm⟩
  | succ n ih =>
    obtain ⟨half, rest⟩ := ih
    let before := ExtendedMantissa.ofMantissaAndAccuracy (num / den)
      (accuracyOfFraction (num % den) den) >>> n
    have left : before.mantissa = num / (den * 2 ^ n) := by
      rw [mantissa_shiftRight, mantissa_ofMantissaAndAccuracy, Nat.div_div_eq_div_mul]
    have unit : 0 < den * 2 ^ n := Nat.mul_pos pos (Nat.two_pow_pos n)
    have next : den * 2 ^ (n + 1) = den * 2 ^ n * 2 := by rw [Nat.pow_succ, Nat.mul_assoc]
    have cut : num % (den * 2 ^ n * 2) =
        num % (den * 2 ^ n) + den * 2 ^ n * (num / (den * 2 ^ n) % 2) := Nat.mod_mul
    have small : num % (den * 2 ^ n) < den * 2 ^ n := Nat.mod_lt num unit
    intro em
    have half' : em.roundBit = (num / (den * 2 ^ n) % 2 != 0) := by rw [← left]; rfl
    have rest' : em.stickyBit = decide (num % (den * 2 ^ n) ≠ 0) := by
      have either : em.stickyBit = (before.roundBit || before.stickyBit) := rfl
      rw [either, half, rest, ← Bool.decide_or, decide_eq_decide]
      omega
    rw [half', rest', next, cut]
    generalize num / (den * 2 ^ n) = quotient at *
    rcases Nat.mod_two_eq_zero_or_one quotient with even | odd
    · rw [even]
      simp only [bne_self_eq_false, Nat.mul_zero, Nat.add_zero, false_eq_decide_iff, decide_eq_decide]
      omega
    · rw [odd]
      simp only [Nat.mul_one, decide_eq_decide]
      exact ⟨(decide_eq_true (by omega)).symm, by omega⟩

/-- The bits behind a mantissa say which way it is rounded. -/
lemma roundedMantissa_of_rest {em : ExtendedMantissa} {rest unit : Nat}
    (half : em.roundBit = decide (unit ≤ 2 * rest))
    (sticky : em.stickyBit = decide (2 * rest ≠ 0 ∧ 2 * rest ≠ unit)) :
    em.roundedMantissa =
      if 2 * rest < unit then em.mantissa
      else if 2 * rest > unit then em.mantissa + 1
      else em.mantissa + em.mantissa % 2 := by
  obtain ⟨m, roundBit, stickyBit⟩ := em
  simp only at half sticky
  subst half sticky
  rcases lt_trichotomy (2 * rest) unit with below | equal | above
  · have low : decide (unit ≤ 2 * rest) = false := decide_eq_false (by omega)
    rw [low, if_pos below]
    cases decide (2 * rest ≠ 0 ∧ 2 * rest ≠ unit) <;> rfl
  · have low : decide (unit ≤ 2 * rest) = true := decide_eq_true (by omega)
    have none : decide (2 * rest ≠ 0 ∧ 2 * rest ≠ unit) = false := decide_eq_false (by omega)
    rw [low, none, if_neg (by omega), if_neg (by omega)]
    rfl
  · have low : decide (unit ≤ 2 * rest) = true := decide_eq_true (by omega)
    have some_rest : decide (2 * rest ≠ 0 ∧ 2 * rest ≠ unit) = true := decide_eq_true (by omega)
    rw [low, some_rest, if_neg (by omega), if_pos above]
    rfl

/-- The mantissa of a fraction is rounded to the nearest one of those that are left. -/
lemma roundedMantissa_fraction (num : Nat) {den : Nat} (pos : 0 < den) (e : Int) :
    roundedMantissa (num / den) e (accuracyOfFraction (num % den) den) =
      roundHalfEven num (den * 2 ^ shiftOf (num / den) e) := by
  obtain ⟨half, sticky⟩ := fraction_rest num pos (shiftOf (num / den) e)
  have rounded := roundedMantissa_of_rest half sticky
  rw [mantissa_shiftRight, mantissa_ofMantissaAndAccuracy, Nat.div_div_eq_div_mul] at rounded
  exact rounded

lemma roundedMantissa_exact (m : Nat) (e : Int) :
    roundedMantissa m e .exact = roundHalfEven m (2 ^ shiftOf m e) := by
  have whole := roundedMantissa_fraction m Nat.one_pos e
  rwa [Nat.div_one, Nat.mod_one, Nat.one_mul] at whole

/-! ### The nearest value -/

/-- The power of two that the last place of a value counts, of those from `2 ^ t` on. -/
def place (t v : Nat) : Nat :=
  max (v.log2 - 23) t

/-- A value in units of `2 ^ (-149 - t)`, rounded to 24 bits and counted in units of the smallest single. -/
def nearest (t v : Nat) : Nat :=
  roundHalfEven v (2 ^ place t v) * 2 ^ (place t v - t)

/-- A value that has 24 bits and any number of zeros behind them. -/
def Held (v : Nat) : Prop :=
  ∃ m k, m < 2 ^ 24 ∧ v = m * 2 ^ k

lemma le_place (t v : Nat) : t ≤ place t v :=
  Nat.le_max_right _ _

lemma lt_of_place (t v : Nat) : v < 2 ^ 24 * 2 ^ place t v := by
  have bits : v.log2 + 1 ≤ 24 + place t v := by
    unfold place
    omega
  calc v < 2 ^ (v.log2 + 1) := Nat.lt_log2_self
    _ ≤ 2 ^ (24 + place t v) := Nat.pow_le_pow_right (by decide) bits
    _ = 2 ^ 24 * 2 ^ place t v := Nat.pow_add ..

lemma le_of_place {t v : Nat} (h : t < place t v) : 2 ^ 23 * 2 ^ place t v ≤ v := by
  have bits : 23 + place t v = v.log2 := by
    unfold place at *
    omega
  have some_bit : v ≠ 0 := by
    rintro rfl
    have none : Nat.log2 0 = 0 := rfl
    omega
  rw [← Nat.pow_add, bits]
  exact Nat.log2_self_le some_bit

lemma place_mono (t : Nat) {v w : Nat} (h : v ≤ w) : place t v ≤ place t w := by
  have bits : v.log2 ≤ w.log2 := by
    by_cases none : v = 0
    · rw [none]
      exact Nat.zero_le _
    · exact (Nat.le_log2 (by omega)).2 ((Nat.log2_self_le none).trans h)
  unfold place
  omega

lemma two_pow_place (t v : Nat) : 2 ^ place t v = 2 ^ (place t v - t) * 2 ^ t := by
  rw [← Nat.pow_add, Nat.sub_add_cancel (le_place t v)]

/-- A multiple of the smallest single is rounded the same way in finer units. -/
lemma nearest_scaled (t v : Nat) : nearest t (v * 2 ^ t) = nearest 0 v := by
  have finer : place t (v * 2 ^ t) = place 0 v + t := by
    rcases Nat.eq_zero_or_pos v with rfl | pos
    · have zero : Nat.log2 0 = 0 := rfl
      rw [Nat.zero_mul]
      unfold place
      omega
    · have bits : (v * 2 ^ t).log2 = v.log2 + t := log2_mul_two_pow pos t
      unfold place
      omega
  rw [nearest, finer, Nat.pow_add, Decimal.roundHalfEven_scaled _ _ (Nat.two_pow_pos t),
    Nat.add_sub_cancel]
  rfl

/-- What a single can hold has no bit behind its place. -/
lemma Held.dvd {v p : Nat} (h : Held v) (low : p ≤ place 0 v) : 2 ^ p ∣ v := by
  obtain ⟨m, k, short, rfl⟩ := h
  rcases Nat.eq_zero_or_pos m with rfl | pos
  · rw [Nat.zero_mul]
    exact Nat.dvd_zero _
  · have bits : (m * 2 ^ k).log2 = m.log2 + k := log2_mul_two_pow pos k
    have few : m.log2 < 24 := (Nat.log2_lt pos.ne').2 short
    have fine : p ≤ k := by
      unfold place at low
      omega
    exact (Nat.pow_dvd_pow 2 fine).trans (Nat.dvd_mul_left _ _)

/-- The nearest value of what a single can hold is the same. -/
lemma nearest_of_held {v : Nat} (h : Held v) : nearest 0 v = v := by
  have whole := Nat.div_mul_cancel (h.dvd le_rfl)
  have kept := Decimal.roundHalfEven_mul (v / 2 ^ place 0 v) (Nat.two_pow_pos (place 0 v))
  rw [whole] at kept
  rw [nearest, kept, Nat.sub_zero, whole]

/-- Rounding to the nearest single is wrong by half of the last place at most. -/
lemma nearest_error (t v : Nat) :
    2 * v ≤ 2 * (nearest t v * 2 ^ t) + 2 ^ place t v ∧
      2 * (nearest t v * 2 ^ t) ≤ 2 * v + 2 ^ place t v := by
  have error := Decimal.roundHalfEven_error v (Nat.two_pow_pos (place t v))
  have scaled : nearest t v * 2 ^ t = roundHalfEven v (2 ^ place t v) * 2 ^ place t v := by
    rw [nearest, Nat.mul_assoc, ← two_pow_place]
  rwa [scaled]

/-- Rounding to the nearest single is monotone. -/
lemma nearest_mono (t : Nat) {v w : Nat} (h : v ≤ w) : nearest t v ≤ nearest t w := by
  unfold nearest
  rcases Nat.lt_or_eq_of_le (place_mono t h) with finer | same
  · -- the smaller value has at most 24 bits of a finer place, the larger one 24 bits of its own
    have pos : 0 < 2 ^ place t v := Nat.two_pow_pos _
    have pos' : 0 < 2 ^ place t w := Nat.two_pow_pos _
    have few : roundHalfEven v (2 ^ place t v) ≤ 2 ^ 24 := by
      rw [← Decimal.roundHalfEven_mul (2 ^ 24) pos]
      exact Decimal.roundHalfEven_mono (lt_of_place t v).le _
    have many : 2 ^ 23 ≤ roundHalfEven w (2 ^ place t w) := by
      rw [← Decimal.roundHalfEven_mul (2 ^ 23) pos']
      exact Decimal.roundHalfEven_mono (le_of_place (Nat.lt_of_le_of_lt (le_place t v) finer)) _
    calc roundHalfEven v (2 ^ place t v) * 2 ^ (place t v - t)
      _ ≤ 2 ^ 24 * 2 ^ (place t v - t) := Nat.mul_le_mul_right _ few
      _ = 2 ^ (24 + (place t v - t)) := (Nat.pow_add ..).symm
      _ ≤ 2 ^ (23 + (place t w - t)) :=
        Nat.pow_le_pow_right (by decide) (by have := le_place t v; omega)
      _ = 2 ^ 23 * 2 ^ (place t w - t) := Nat.pow_add ..
      _ ≤ roundHalfEven w (2 ^ place t w) * 2 ^ (place t w - t) := Nat.mul_le_mul_right _ many
  · rw [same]
    exact Nat.mul_le_mul_right _ (Decimal.roundHalfEven_mono h _)

/-! ### Values with a sign -/

/-- The nearest value, on either side of zero. -/
def nearestInt (t : Nat) (v : Int) : Int :=
  v.sign * nearest t v.natAbs

lemma held_zero : Held 0 :=
  ⟨0, 0, by decide, rfl⟩

lemma nearestInt_natCast (t n : Nat) : nearestInt t n = nearest t n := by
  rcases Nat.eq_zero_or_pos n with rfl | pos
  · have none := nearest_scaled t 0
    rw [Nat.zero_mul, nearest_of_held held_zero] at none
    rw [none]
    exact Int.zero_mul _
  · rw [nearestInt, Int.sign_eq_one_of_pos (Int.natCast_pos.2 pos), Int.one_mul, Int.natAbs_natCast]

lemma nearestInt_neg (t : Nat) (v : Int) : nearestInt t (-v) = -nearestInt t v := by
  rw [nearestInt, Int.sign_neg, Int.natAbs_neg, Int.neg_mul]
  rfl

lemma nearestInt_apply (t : Nat) (s : Sign) (n : Nat) :
    nearestInt t (s.apply n) = s.apply (nearest t n) := by
  cases s with
  | positive => exact nearestInt_natCast t n
  | negative => exact (nearestInt_neg t n).trans (congrArg Neg.neg (nearestInt_natCast t n))

lemma nearestInt_mono (t : Nat) {v w : Int} (h : v ≤ w) : nearestInt t v ≤ nearestInt t w := by
  obtain ⟨m, rfl | rfl⟩ := v.eq_nat_or_neg
  · obtain ⟨n, rfl⟩ := Int.eq_ofNat_of_zero_le ((Int.natCast_nonneg m).trans h)
    rw [nearestInt_natCast, nearestInt_natCast]
    exact Int.ofNat_le.2 (nearest_mono t (Int.ofNat_le.1 h))
  · obtain ⟨n, rfl | rfl⟩ := w.eq_nat_or_neg
    · rw [nearestInt_neg, nearestInt_natCast, nearestInt_natCast]
      omega
    · rw [nearestInt_neg, nearestInt_natCast, nearestInt_neg, nearestInt_natCast]
      have order : n ≤ m := by omega
      exact Int.neg_le_neg (Int.ofNat_le.2 (nearest_mono t order))

lemma nearestInt_scaled (t : Nat) (v : Int) : nearestInt t (v * 2 ^ t) = nearestInt 0 v := by
  obtain ⟨n, rfl | rfl⟩ := v.eq_nat_or_neg
  · have scaled : (n : Int) * 2 ^ t = (n * 2 ^ t : Nat) := by push_cast; rfl
    rw [scaled, nearestInt_natCast, nearestInt_natCast, nearest_scaled]
  · have scaled : -(n : Int) * 2 ^ t = -(n * 2 ^ t : Nat) := by push_cast; ring
    rw [scaled, nearestInt_neg, nearestInt_neg, nearestInt_natCast, nearestInt_natCast,
      nearest_scaled]

lemma nearestInt_of_held {v : Int} (h : Held v.natAbs) : nearestInt 0 v = v := by
  obtain ⟨n, rfl | rfl⟩ := v.eq_nat_or_neg
  · rw [Int.natAbs_natCast] at h
    rw [nearestInt_natCast, nearest_of_held h]
  · rw [Int.natAbs_neg, Int.natAbs_natCast] at h
    rw [nearestInt_neg, nearestInt_natCast, nearest_of_held h]

/-- Rounding is wrong by half of the last place at most, on either side of zero. -/
lemma nearestInt_error (t : Nat) (v : Int) :
    2 * |nearestInt t v * 2 ^ t - v| ≤ 2 ^ place t v.natAbs := by
  have of_natCast : ∀ n : Nat, 2 * |nearestInt t n * 2 ^ t - n| ≤ 2 ^ place t n := by
    intro n
    obtain ⟨below, above⟩ := nearest_error t n
    zify at below above
    have close : |2 * (nearestInt t n * 2 ^ t - n)| ≤ 2 ^ place t n := by
      rw [nearestInt_natCast, abs_le]
      constructor <;> linarith
    rwa [abs_mul] at close
  obtain ⟨n, rfl | rfl⟩ := v.eq_nat_or_neg
  · rw [Int.natAbs_natCast]
    exact of_natCast n
  · have flipped : nearestInt t (-n) * 2 ^ t - -n = -(nearestInt t n * 2 ^ t - n) := by
      rw [nearestInt_neg]
      ring
    rw [Int.natAbs_neg, Int.natAbs_natCast, flipped, abs_neg]
    exact of_natCast n

/-! ### What operations round -/

/-- What rounding leaves is counted by the rounded mantissa. -/
lemma value_rounded (s : Sign) {m : Nat} {e : Int} (accuracy : Accuracy)
    (enough : 23 ≤ m.log2 ∨ e ≤ -149) :
    value (roundWithAccuracy Format.binary32 s m e accuracy) =
      s.apply (roundedMantissa m e accuracy * 2 ^ (roundedExponent m e + 149).toNat : Nat) := by
  obtain ⟨short, above, -⟩ := shifted_bounds enough
  have upper := (shifted_le_roundedMantissa m e accuracy).2
  rw [round_eq s accuracy enough]
  generalize roundedMantissa m e accuracy = r at *
  by_cases zero : r = 0
  · rw [dif_pos zero, zero, Nat.zero_mul]
    cases s <;> rfl
  · rw [dif_neg zero]
    split
    · rfl
    · -- a mantissa that rounding makes a bit longer has no other bit
      obtain rfl : r = 2 ^ 24 := by omega
      have longer : 2 ^ 24 * 2 ^ (roundedExponent m e + 149).toNat =
          2 ^ 23 * 2 ^ (roundedExponent m e + 1 + 149).toNat := by
        have next : (roundedExponent m e + 1 + 149).toNat = (roundedExponent m e + 149).toNat + 1 := by
          omega
        rw [next, Nat.pow_succ]
        omega
      rw [longer]
      rfl

/-- Rounding a mantissa gives the nearest value. -/
lemma value_round (s : Sign) {m : Nat} {e : Int} (t : Nat) (pos : 0 < m) (low : -149 - t ≤ e)
    (enough : 23 ≤ m.log2 ∨ e ≤ -149) :
    value (roundWithAccuracy Format.binary32 s m e .exact) =
      s.apply (nearest t (m * 2 ^ (e + 149 + t).toNat)) := by
  obtain ⟨-, above, -⟩ := shifted_bounds enough
  let k := (e + 149 + t).toNat
  have bits : (m * 2 ^ k).log2 = m.log2 + k := log2_mul_two_pow pos k
  have target : place t (m * 2 ^ k) = shiftOf m e + k := by
    unfold place shiftOf
    omega
  have units : shiftOf m e + k - t = (roundedExponent m e + 149).toNat := by
    unfold roundedExponent at *
    omega
  have known : nearest t (m * 2 ^ k) =
      roundedMantissa m e .exact * 2 ^ (roundedExponent m e + 149).toNat := by
    rw [nearest, target, Nat.pow_add, Decimal.roundHalfEven_scaled _ _ (Nat.two_pow_pos k), units,
      roundedMantissa_exact]
  change _ = s.apply (nearest t (m * 2 ^ k) : Nat)
  rw [known, value_rounded s .exact enough]

/-- A single can hold the value that it has. -/
lemma held_value (x : Float32) : Held (value (unpacked x)).natAbs := by
  have canonical := canonical_unpacked x
  cases hx : unpacked x with
  | notANumber | infinity | zero => exact held_zero
  | finite s m e pos =>
    rw [hx] at canonical
    refine ⟨m, (e + 149).toNat, canonical.1, ?_⟩
    cases s with
    | positive => exact Int.natAbs_natCast _
    | negative => exact (Int.natAbs_neg _).trans (Int.natAbs_natCast _)

/-- The values from here on are packed to infinity. -/
def overflow : Int :=
  2 ^ 24 * 2 ^ 253

/-- A finite number is packed to itself, unless its value is too large. -/
lemma repacked_of_value {u : UnpackedFloat} (canonical : Canonical u) (finite : u.isFinite = true) :
    ((repacked u).isFinite = true ↔ |value u| < overflow) ∧
      ((repacked u).isFinite = true → repacked u = u) := by
  cases u with
  | notANumber | infinity => cases finite
  | zero s =>
    rw [repacked_zero]
    exact ⟨iff_of_true rfl (abs_zero.trans_lt (by decide : (0 : Int) < overflow)), fun _ => rfl⟩
  | finite s m e pos =>
    obtain ⟨short, low, full⟩ := canonical
    have magnitude : |value (.finite s m e pos)| = (m * 2 ^ (e + 149).toNat : Nat) := by
      rw [← value_abs]
      rfl
    have top : overflow = (2 ^ 24 * 2 ^ 253 : Nat) := rfl
    rw [repacked_finite ⟨short, low, full⟩, magnitude, top, Int.ofNat_lt]
    split
    · next small =>
      refine ⟨iff_of_true rfl ?_, fun _ => rfl⟩
      calc m * 2 ^ (e + 149).toNat
        _ < 2 ^ 24 * 2 ^ (e + 149).toNat := Nat.mul_lt_mul_of_pos_right short (Nat.two_pow_pos _)
        _ ≤ 2 ^ 24 * 2 ^ 253 := Nat.mul_le_mul_left _ (Nat.pow_le_pow_right (by decide) (by omega))
    · next large =>
      refine ⟨iff_of_false Bool.false_ne_true ?_, fun h => absurd h Bool.false_ne_true⟩
      rw [Nat.not_lt]
      calc 2 ^ 24 * 2 ^ 253 = 2 ^ 23 * 2 ^ 254 := by rw [Nat.pow_succ 2 253]; omega
        _ ≤ 2 ^ 23 * 2 ^ (e + 149).toNat :=
          Nat.mul_le_mul_left _ (Nat.pow_le_pow_right (by decide) (by omega))
        _ ≤ m * 2 ^ (e + 149).toNat :=
          Nat.mul_le_mul_right _ (full.resolve_right (by omega))

/-- A single is a finite number of some value, packed. -/
def Packs (z : Float32) (v : Int) : Prop :=
  ∃ u, Canonical u ∧ u.isFinite = true ∧ value u = v ∧ unpacked z = repacked u

lemma Packs.isFinite_iff {z : Float32} {v : Int} (h : Packs z v) :
    z.isFinite = true ↔ |v| < overflow := by
  obtain ⟨u, canonical, finite, rfl, packed⟩ := h
  rw [isFinite_eq, packed]
  exact (repacked_of_value canonical finite).1

lemma Packs.value_eq {z : Float32} {v : Int} (h : Packs z v) (finite_z : z.isFinite = true) :
    value (unpacked z) = v := by
  obtain ⟨u, canonical, finite, rfl, packed⟩ := h
  rw [isFinite_eq, packed] at finite_z
  rw [packed, (repacked_of_value canonical finite).2 finite_z]

lemma Packs.isNaN {z : Float32} {v : Int} (h : Packs z v) : z.isNaN = false := by
  obtain ⟨u, -, finite, -, packed⟩ := h
  rw [isNaN_eq, packed]
  refine isNaN_repacked ?_
  cases u with
  | notANumber => cases finite
  | infinity | zero | finite => rfl

/-- A multiple of the smallest single is rounded to the nearest one. -/
lemma normalize_eq {n e : Int} (h : n ≠ 0) (low : -149 ≤ e) :
    ∃ u, UnpackedFloat.normalize Format.binary32 n e .positive = u ∧ Canonical u ∧
      u.isFinite = true ∧ value u = nearestInt 0 (n * 2 ^ (e + 149).toNat) := by
  have of_round : ∀ (s : Sign) {m : Nat}, 0 < m →
      value (UnpackedFloat.round Format.binary32 s m e) =
        nearestInt 0 (s.apply (m * 2 ^ (e + 149).toNat : Nat)) := by
    intro s m pos
    let k := (e - max (m.log2 + 1 + e - 24) (-149)).toNat
    have known : UnpackedFloat.round Format.binary32 s m e =
        roundWithAccuracy Format.binary32 s (m <<< k) (e - k) .exact := rfl
    have bits : (m * 2 ^ k).log2 = m.log2 + k := log2_mul_two_pow pos k
    have scaled : m * 2 ^ k * 2 ^ (e - k + 149 + (0 : Nat)).toNat = m * 2 ^ (e + 149).toNat := by
      rw [Nat.mul_assoc, ← Nat.pow_add]
      congr 2
      omega
    rw [known, Nat.shiftLeft_eq, value_round s 0 (Nat.mul_pos pos (Nat.two_pow_pos k)) (by omega)
      (by omega), scaled, nearestInt_apply]
  obtain ⟨t, m, e', pos, rounded, canonical, -⟩ := normalize_of_ne (e := e) .positive h low
  refine ⟨_, rfl, ?_, ?_, ?_⟩
  · rwa [rounded]
  · rw [rounded]
    rfl
  · unfold UnpackedFloat.normalize
    obtain ⟨m, rfl | rfl⟩ := n.eq_nat_or_neg
    · have above : 0 < m := by omega
      rw [compare_gt_iff_gt.2 (Int.natCast_pos.2 above)]
      refine (of_round .positive (m := m) above).trans ?_
      simp only [Sign.apply]
      push_cast
      rfl
    · have above : 0 < m := by omega
      rw [compare_lt_iff_lt.2 (by omega : -(m : Int) < 0), Int.neg_neg]
      refine (of_round .negative (m := m) above).trans ?_
      simp only [Sign.apply]
      push_cast
      rw [Int.neg_mul]

lemma apply_mul (s t : Sign) (a b : Int) : (s * t).apply (a * b) = s.apply a * t.apply b := by
  cases s with
  | positive =>
    cases t with
    | positive => rfl
    | negative => exact (Int.mul_neg a b).symm
  | negative =>
    cases t with
    | positive => exact (Int.neg_mul a b).symm
    | negative => exact (Int.neg_mul_neg a b).symm

section

variable {x y : Float32} (finite_x : x.isFinite = true) (finite_y : y.isFinite = true)

include finite_x finite_y

/-- A sum of finite numbers is the nearest one to the sum of their values. -/
theorem packs_add :
    Packs (x + y) (nearestInt 0 (value (unpacked x) + value (unpacked y))) := by
  have canonical_x := canonical_unpacked x
  have canonical_y := canonical_unpacked y
  have kept_x := nearestInt_of_held (held_value x)
  have kept_y := nearestInt_of_held (held_value y)
  rw [isFinite_eq] at finite_x finite_y
  refine ⟨add Format.binary32 (unpacked x) (unpacked y), ?_⟩
  rw [unpacked_add]
  generalize unpacked x = u at *
  generalize unpacked y = v at *
  cases u with
  | infinity | notANumber => cases finite_x
  | zero s =>
    cases v with
    | infinity | notANumber => cases finite_y
    | zero t =>
      cases s <;> cases t <;> exact ⟨trivial, rfl, rfl, rfl⟩
    | finite t m e pos =>
      have sum : value (.zero s) + value (.finite t m e pos) = value (.finite t m e pos) :=
        Int.zero_add _
      rw [sum, kept_y]
      exact ⟨canonical_y, rfl, rfl, rfl⟩
  | finite s m e pos =>
    cases v with
    | infinity | notANumber => cases finite_y
    | zero t =>
      have sum : value (.finite s m e pos) + value (.zero t) = value (.finite s m e pos) :=
        Int.add_zero _
      rw [sum, kept_x]
      exact ⟨canonical_x, rfl, rfl, rfl⟩
    | finite t m' e' pos' =>
      let k := min e e'
      have low : -149 ≤ k := le_min canonical_x.2.1 canonical_y.2.1
      let n := s.apply ((m <<< (e - k).toNat : Nat) : Int) +
        t.apply ((m' <<< (e' - k).toNat : Nat) : Int)
      have exact_sum : add Format.binary32 (.finite s m e pos) (.finite t m' e' pos') =
          UnpackedFloat.normalize Format.binary32 n k .positive := rfl
      have sum : value (.finite s m e pos) + value (.finite t m' e' pos') =
          n * 2 ^ (k + 149).toNat := by
        rw [value_eq_mul s pos low (min_le_left e e'), value_eq_mul t pos' low (min_le_right e e'),
          ← Int.add_mul]
      rw [exact_sum, sum]
      by_cases none : n = 0
      · rw [none, Int.zero_mul]
        exact ⟨trivial, rfl, rfl, rfl⟩
      · obtain ⟨u, rfl, canonical, finite, known⟩ := normalize_eq none low
        exact ⟨canonical, finite, known, rfl⟩

omit finite_x in
/-- A number and a finite one have a sum. -/
lemma isNaN_add (number_x : x.isNaN = false) : (x + y).isNaN = false := by
  by_cases finite_x : x.isFinite = true
  · exact (packs_add finite_x finite_y).isNaN
  · rw [isFinite_eq] at finite_x finite_y
    rw [isNaN_eq] at number_x ⊢
    rw [unpacked_add]
    generalize unpacked y = v at *
    cases hx : unpacked x with
    | notANumber =>
      rw [hx] at number_x
      cases number_x
    | zero | finite =>
      rw [hx] at finite_x
      exact absurd rfl finite_x
    | infinity s =>
      refine isNaN_repacked ?_
      cases v with
      | notANumber | infinity => cases finite_y
      | zero | finite => rfl

/-- A product of finite numbers is the nearest one to the product of their values. -/
theorem packs_mul :
    Packs (x * y) (nearestInt 149 (value (unpacked x) * value (unpacked y))) := by
  have canonical_x := canonical_unpacked x
  have canonical_y := canonical_unpacked y
  rw [isFinite_eq] at finite_x finite_y
  refine ⟨mul Format.binary32 (unpacked x) (unpacked y), ?_⟩
  rw [unpacked_mul]
  generalize unpacked x = u at *
  generalize unpacked y = v at *
  cases u with
  | infinity | notANumber => cases finite_x
  | zero s =>
    have none : value (.zero s) * value v = 0 := Int.zero_mul _
    rw [none]
    cases v with
    | infinity | notANumber => cases finite_y
    | zero | finite => exact ⟨trivial, rfl, rfl, rfl⟩
  | finite s m e pos =>
    cases v with
    | infinity | notANumber => cases finite_y
    | zero t =>
      have none : value (.finite s m e pos) * value (.zero t) = 0 := Int.mul_zero _
      rw [none]
      exact ⟨trivial, rfl, rfl, rfl⟩
    | finite t m' e' pos' =>
      obtain ⟨-, low, full⟩ := canonical_x
      obtain ⟨-, low', full'⟩ := canonical_y
      have known : mul Format.binary32 (.finite s m e pos) (.finite t m' e' pos') =
          roundWithAccuracy Format.binary32 (s * t) (m * m') (e + e') .exact := rfl
      have long : 23 ≤ (m * m').log2 ∨ e + e' ≤ -149 := by
        have some_bits : m * m' ≠ 0 := (Nat.mul_pos pos pos').ne'
        rcases full with full | rfl
        · exact .inl ((Nat.le_log2 some_bits).2 (full.trans (Nat.le_mul_of_pos_right m pos')))
        rcases full' with full' | rfl
        · exact .inl ((Nat.le_log2 some_bits).2 (full'.trans (Nat.le_mul_of_pos_left m' pos)))
        · exact .inr (by decide)
      have product : value (.finite s m e pos) * value (.finite t m' e' pos') =
          (s * t).apply (m * m' * 2 ^ (e + e' + 149 + (149 : Nat)).toNat : Nat) := by
        have exponents : (e + e' + 149 + (149 : Nat)).toNat = (e + 149).toNat + (e' + 149).toNat := by
          omega
        have magnitude : m * m' * (2 ^ (e + 149).toNat * 2 ^ (e' + 149).toNat) =
            m * 2 ^ (e + 149).toNat * (m' * 2 ^ (e' + 149).toNat) := Nat.mul_mul_mul_comm ..
        rw [exponents, Nat.pow_add, magnitude, Int.natCast_mul, apply_mul]
        rfl
      rw [known, product, nearestInt_apply,
        ← value_round (s * t) 149 (Nat.mul_pos pos pos') (by omega) long]
      rcases round_canonical (s * t) .exact long with ⟨zero, -⟩ | ⟨r, f, some_bit, rounded, canonical⟩
      · rw [zero]
        exact ⟨trivial, rfl, rfl, rfl⟩
      · rw [rounded]
        exact ⟨canonical, rfl, rfl, rfl⟩

end

lemma packs_sub {x y : Float32} (finite_x : x.isFinite = true) (finite_y : y.isFinite = true) :
    Packs (x - y) (nearestInt 0 (value (unpacked x) - value (unpacked y))) := by
  obtain ⟨u, canonical, finite, known, packed⟩ :=
    packs_add finite_x ((isFinite_neg y).trans finite_y)
  rw [unpacked_neg, value_neg] at known
  exact ⟨u, canonical, finite, known, (sub_eq x y).trans packed⟩

/-- A value that stays below 24 bits before a place is rounded by half of this place at most. -/
lemma Packs.close {z : Float32} {t k : Nat} {v : Int} (hz : Packs z (nearestInt t v))
    (small : |v| < 2 ^ (24 + k + t)) (low : k ≤ 252) :
    z.isFinite = true ∧ 2 * |value (unpacked z) * 2 ^ t - v| ≤ 2 ^ (k + t) := by
  have bits : v.natAbs < 2 ^ (24 + k + t) := by
    zify
    exact small
  have fine : place t v.natAbs ≤ k + t := by
    by_cases none : v.natAbs = 0
    · rw [none]
      have zero : Nat.log2 0 = 0 := rfl
      unfold place
      omega
    · have few := (Nat.log2_lt none).2 bits
      unfold place
      omega
  have error : 2 * |nearestInt t v * 2 ^ t - v| ≤ 2 ^ (k + t) :=
    (nearestInt_error t v).trans (pow_le_pow_right₀ (by decide) fine)
  have finite : z.isFinite = true := by
    rw [hz.isFinite_iff]
    have power : (0 : Int) < 2 ^ t := Int.pow_pos (by decide)
    have unit : (0 : Int) < 2 ^ (k + t) := Int.pow_pos (by decide)
    have split : (2 : Int) ^ (24 + k + t) = 2 ^ 24 * 2 ^ (k + t) := by rw [← pow_add, Nat.add_assoc]
    refine lt_of_mul_lt_mul_right ?_ power.le
    calc |nearestInt t v| * 2 ^ t = |nearestInt t v * 2 ^ t| := by rw [abs_mul, abs_of_pos power]
      _ ≤ |nearestInt t v * 2 ^ t - v| + |v| := by
        have sum := abs_add_le (nearestInt t v * 2 ^ t - v) v
        rwa [sub_add_cancel] at sum
      _ < 2 ^ 24 * 2 ^ (k + t) + 2 ^ (k + t) := by
        rw [split] at small
        omega
      _ ≤ 2 ^ 24 * (2 * 2 ^ (k + t)) := by omega
      _ = 2 ^ 24 * 2 ^ (k + 1) * 2 ^ t := by ring
      _ ≤ overflow * 2 ^ t := by
        refine mul_le_mul_of_nonneg_right (mul_le_mul_of_nonneg_left ?_ (by decide)) power.le
        exact pow_le_pow_right₀ (by decide) (by omega)
  exact ⟨finite, by rwa [hz.value_eq finite]⟩

/-- The same for sums, where the place is that of a half. -/
lemma Packs.close_sum {z : Float32} {v : Int} (hz : Packs z (nearestInt 0 v)) (k : Nat)
    (small : |v| < 2 ^ (25 + k)) (low : k ≤ 251) :
    z.isFinite = true ∧ |value (unpacked z) - v| ≤ 2 ^ k := by
  have places : 24 + (k + 1) + 0 = 25 + k := by omega
  obtain ⟨finite, error⟩ := hz.close (k := k + 1) (by rwa [places]) (by omega)
  rw [pow_zero, mul_one, add_zero, pow_succ] at error
  exact ⟨finite, by omega⟩

/-! ### Intervals -/

lemma isFinite_zero : (0 : Float32).isFinite = true := by
  decide

/-- What lies between two finite numbers is finite. -/
lemma isFinite_of_between {x low high : Float32} (above : low ≤ x) (below : x ≤ high)
    (finite_low : low.isFinite = true) (finite_high : high.isFinite = true) : x.isFinite = true := by
  rw [isFinite_eq] at finite_low finite_high ⊢
  rw [le_iff] at above below
  generalize unpacked low = u at *
  generalize unpacked high = v at *
  cases hx : unpacked x with
  | zero | finite => rfl
  | notANumber =>
    rw [hx] at below
    cases below
  | infinity s =>
    rw [hx] at above below
    cases s with
    | positive =>
      cases v with
      | infinity | notANumber => cases finite_high
      | zero | finite => exact (Bool.false_ne_true below).elim
    | negative =>
      cases u with
      | infinity | notANumber => cases finite_low
      | zero | finite => exact (Bool.false_ne_true above).elim

/-- A number that is packed lies between the ends of an interval if its value does. -/
lemma Packs.between {x low high : Float32} {a v b : Int} (hx : Packs x v) (hl : Packs low a)
    (hh : Packs high b) (above : a ≤ v) (below : v ≤ b) (finite_low : low.isFinite = true)
    (finite_high : high.isFinite = true) : low ≤ x ∧ x ≤ high := by
  have low_fits := hl.isFinite_iff.1 finite_low
  have high_fits := hh.isFinite_iff.1 finite_high
  have finite_x : x.isFinite = true := by
    rw [hx.isFinite_iff, abs_lt]
    rw [abs_lt] at low_fits high_fits
    omega
  rw [le_iff_value finite_low finite_x, le_iff_value finite_x finite_high, hx.value_eq finite_x,
    hl.value_eq finite_low, hh.value_eq finite_high]
  exact ⟨above, below⟩

section

variable {x low high : Float32} (above : low ≤ x) (below : x ≤ high)
  (finite_low : low.isFinite = true) (finite_high : high.isFinite = true)

include above below finite_low finite_high

/-- The negative of a number lies between the negatives of the ends. -/
lemma neg_between : -high ≤ -x ∧ -x ≤ -low := by
  have finite_x := isFinite_of_between above below finite_low finite_high
  rw [le_iff_value finite_low finite_x] at above
  rw [le_iff_value finite_x finite_high] at below
  have finite_neg : ∀ {z : Float32}, z.isFinite = true → (-z).isFinite = true :=
    fun h => (isFinite_neg _).trans h
  rw [le_iff_value (finite_neg finite_high) (finite_neg finite_x),
    le_iff_value (finite_neg finite_x) (finite_neg finite_low)]
  simp only [unpacked_neg, value_neg]
  omega

section

variable {c : Float32} (finite_c : c.isFinite = true) (sign : 0 ≤ c)

include finite_c sign

/-- A product with a factor that is not negative lies between the products of the ends. -/
theorem mul_between (finite : (low * c).isFinite = true) (finite' : (high * c).isFinite = true) :
    low * c ≤ x * c ∧ x * c ≤ high * c := by
  have finite_x := isFinite_of_between above below finite_low finite_high
  rw [le_iff_value finite_low finite_x] at above
  rw [le_iff_value finite_x finite_high] at below
  rw [le_iff_value isFinite_zero finite_c, value_zero] at sign
  exact (packs_mul finite_x finite_c).between (packs_mul finite_low finite_c)
    (packs_mul finite_high finite_c) (nearestInt_mono _ (Int.mul_le_mul_of_nonneg_right above sign))
    (nearestInt_mono _ (Int.mul_le_mul_of_nonneg_right below sign)) finite finite'

/-- The same with the factor in front. -/
theorem factor_between (finite : (c * low).isFinite = true) (finite' : (c * high).isFinite = true) :
    c * low ≤ c * x ∧ c * x ≤ c * high := by
  have finite_x := isFinite_of_between above below finite_low finite_high
  rw [le_iff_value finite_low finite_x] at above
  rw [le_iff_value finite_x finite_high] at below
  rw [le_iff_value isFinite_zero finite_c, value_zero] at sign
  exact (packs_mul finite_c finite_x).between (packs_mul finite_c finite_low)
    (packs_mul finite_c finite_high) (nearestInt_mono _ (Int.mul_le_mul_of_nonneg_left above sign))
    (nearestInt_mono _ (Int.mul_le_mul_of_nonneg_left below sign)) finite finite'

end

/-- A sum lies between the sums of the ends. -/
theorem add_between {y low' high' : Float32} (above' : low' ≤ y) (below' : y ≤ high')
    (finite_low' : low'.isFinite = true) (finite_high' : high'.isFinite = true)
    (finite : (low + low').isFinite = true) (finite' : (high + high').isFinite = true) :
    low + low' ≤ x + y ∧ x + y ≤ high + high' := by
  have finite_x := isFinite_of_between above below finite_low finite_high
  have finite_y := isFinite_of_between above' below' finite_low' finite_high'
  rw [le_iff_value finite_low finite_x] at above
  rw [le_iff_value finite_x finite_high] at below
  rw [le_iff_value finite_low' finite_y] at above'
  rw [le_iff_value finite_y finite_high'] at below'
  exact (packs_add finite_x finite_y).between (packs_add finite_low finite_low')
    (packs_add finite_high finite_high') (nearestInt_mono _ (by omega))
    (nearestInt_mono _ (by omega)) finite finite'

end

end Single

end MatchRobot
