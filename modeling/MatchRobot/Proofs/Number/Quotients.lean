import MatchRobot.Proofs.Number.Order

/-!
# Quotients to the nearest single

A quotient of finite singles is the exact one, rounded to the nearest single. The exact one is no whole number
of the smallest units, so `Single.nearestFraction` rounds a fraction: it keeps the 24 leading bits of its whole
part, and one of the places of the smallest unit if the whole part has fewer. `Single.packs_div` is what is
known about a division then.

Rounding keeps a fraction below every number that a single can hold (`Single.nearestFraction_le`), so a
division by one or more makes no number larger, and a third and a half are what one expects
(`Single.third_value`, `Single.half_value`). Two more things follow that the program relies on: only a quotient
below the smallest single is rounded to zero (`Single.tiny_of_div_eq_zero`), and a half that a single can hold
is exact (`Single.IsHalf.value_div_two`).
-/

namespace MatchRobot

open Float.Model (Format UnpackedFloat)
open Float.Model.UnpackedFloat

namespace Single

open Decimal (roundHalfEven)

/-! ### The nearest value of a fraction -/

/-- A fraction of the smallest unit, rounded to 24 bits or to a whole number of units. -/
def nearestFraction (num den : Nat) : Nat :=
  roundHalfEven num (den * 2 ^ place 0 (num / den)) * 2 ^ place 0 (num / den)

/-- The place of a value is the one before which it has 24 bits, or the smallest one. -/
lemma place_eq {v p : Nat} (short : v / 2 ^ p < 2 ^ 24) (full : 2 ^ 23 ≤ v / 2 ^ p ∨ p = 0) :
    place 0 v = p := by
  have power : 0 < 2 ^ p := Nat.two_pow_pos p
  have small : v < 2 ^ (24 + p) := by
    rw [Nat.pow_add]
    exact (Nat.div_lt_iff_lt_mul power).1 short
  unfold place
  rcases full with full | rfl
  · have large : 2 ^ (23 + p) ≤ v := by
      rw [Nat.pow_add]
      exact (Nat.le_div_iff_mul_le power).1 full
    have some_bit : v ≠ 0 := (Nat.lt_of_lt_of_le (Nat.two_pow_pos _) large).ne'
    have below := (Nat.log2_lt some_bit).2 small
    have above := (Nat.le_log2 some_bit).2 large
    omega
  · by_cases none : v = 0
    · rw [none]
      decide
    · have below := (Nat.log2_lt none).2 small
      omega

/-- Whatever two fractions are cut to the same places alike, has the same nearest value. -/
lemma nearestFraction_eq {num den n d p : Nat} (pos : 0 < d) (pos' : 0 < den)
    (same : num * d = n * (den * 2 ^ p)) (short : n / d < 2 ^ 24) (full : 2 ^ 23 ≤ n / d ∨ p = 0) :
    nearestFraction num den = roundHalfEven n d * 2 ^ p := by
  have unit : 0 < den * 2 ^ p := Nat.mul_pos pos' (Nat.two_pow_pos p)
  have quotient : num / den / 2 ^ p = n / d := by
    rw [Nat.div_div_eq_div_mul, ← Nat.mul_div_mul_right _ _ pos, same, Nat.mul_comm n,
      Nat.mul_div_mul_left _ _ unit]
  have target : place 0 (num / den) = p := place_eq (by rwa [quotient]) (by rwa [quotient])
  rw [nearestFraction, target, ← Decimal.roundHalfEven_scaled num _ pos, same, Nat.mul_comm n,
    Nat.mul_comm (den * 2 ^ p) d, Nat.mul_comm (den * 2 ^ p) n,
    Decimal.roundHalfEven_scaled _ _ unit]

/-- A fraction that is a whole number of units is rounded as such. -/
lemma nearestFraction_mul (v : Nat) {den : Nat} (pos : 0 < den) :
    nearestFraction (v * den) den = nearest 0 v := by
  rw [nearestFraction, Nat.mul_div_cancel v pos, Nat.mul_comm den,
    Decimal.roundHalfEven_scaled _ _ pos]
  rfl

/-- Only a fraction of one unit is rounded to none. -/
lemma tiny_of_nearestFraction_eq_zero {num den : Nat} (h : nearestFraction num den = 0) (pos : 0 < den) :
    num < den := by
  by_contra large
  have whole : 0 < num / den := Nat.div_pos (Nat.le_of_not_lt large) pos
  have bits : 2 ^ place 0 (num / den) ≤ num / den := by
    have low : place 0 (num / den) ≤ (num / den).log2 := by
      unfold place
      omega
    exact (Nat.pow_le_pow_right (by decide) low).trans (Nat.log2_self_le whole.ne')
  have kept : 0 < roundHalfEven num (den * 2 ^ place 0 (num / den)) := by
    refine Nat.lt_of_lt_of_le ?_ (Decimal.roundHalfEven_bounds _ _).1
    rw [← Nat.div_div_eq_div_mul]
    exact Nat.div_pos bits (Nat.two_pow_pos _)
  exact (Nat.mul_pos kept (Nat.two_pow_pos _)).ne' h

/-- A fraction that is no larger than what a single can hold is not rounded beyond it. -/
lemma nearestFraction_le {num den v : Nat} (held : Held v) (pos : 0 < den) (h : num ≤ v * den) :
    nearestFraction num den ≤ v := by
  have below : num / den ≤ v := Nat.div_le_of_le_mul (by rwa [Nat.mul_comm])
  have whole := Nat.div_mul_cancel (held.dvd (place_mono 0 below))
  unfold nearestFraction
  generalize place 0 (num / den) = p at *
  calc roundHalfEven num (den * 2 ^ p) * 2 ^ p
    _ ≤ roundHalfEven (v * den) (den * 2 ^ p) * 2 ^ p :=
      Nat.mul_le_mul_right _ (Decimal.roundHalfEven_mono h _)
    _ = roundHalfEven (v / 2 ^ p * 2 ^ p) (2 ^ p) * 2 ^ p := by
      rw [Nat.mul_comm den, Decimal.roundHalfEven_scaled _ _ pos, whole]
    _ = v := by rw [Decimal.roundHalfEven_mul _ (Nat.two_pow_pos p), whole]

/-! ### What a division rounds -/

/-- The nearest value of a quotient of values, with its sign. -/
def nearestQuotient (v w : Int) : Int :=
  v.sign * w.sign * nearestFraction (v.natAbs * 2 ^ 149) w.natAbs

lemma abs_nearestQuotient_le (v w : Int) :
    |nearestQuotient v w| ≤ nearestFraction (v.natAbs * 2 ^ 149) w.natAbs := by
  unfold nearestQuotient
  rw [← Int.sign_mul]
  generalize nearestFraction (v.natAbs * 2 ^ 149) w.natAbs = n
  rcases Int.sign_trichotomy (v * w) with sign | sign | sign <;> rw [sign]
  · rw [one_mul, abs_of_nonneg n.cast_nonneg]
  · rw [zero_mul, abs_zero]
    exact n.cast_nonneg
  · rw [neg_one_mul, abs_neg, abs_of_nonneg n.cast_nonneg]

/-- A division shifts its dividend far enough for a whole mantissa, or down to the smallest unit. -/
lemma quotient_long {m n k : Nat} {e f g : Int} (pos : 0 < m) (pos' : 0 < n)
    (target : g = min (e - f) (max (m.log2 + 1 + e - (n.log2 + 1 + f) - 24) (-149)))
    (shift : k = (e - f - g).toNat) : 23 ≤ (m * 2 ^ k / n).log2 ∨ g ≤ -149 := by
  by_cases low : g ≤ -149
  · exact .inr low
  · have bits : n.log2 + 24 ≤ m.log2 + k := by omega
    have quotient : 2 ^ 23 ≤ m * 2 ^ k / n := by
      refine (Nat.le_div_iff_mul_le pos').2 ?_
      calc 2 ^ 23 * n ≤ 2 ^ 23 * 2 ^ (n.log2 + 1) := Nat.mul_le_mul_left _ Nat.lt_log2_self.le
        _ = 2 ^ (n.log2 + 24) := by rw [← Nat.pow_add]; congr 1; omega
        _ ≤ 2 ^ (m.log2 + k) := Nat.pow_le_pow_right (by decide) bits
        _ = 2 ^ m.log2 * 2 ^ k := Nat.pow_add ..
        _ ≤ m * 2 ^ k := Nat.mul_le_mul_right _ (Nat.log2_self_le pos.ne')
    exact .inl ((Nat.le_log2 (Nat.lt_of_lt_of_le (by decide) quotient).ne').2 quotient)

lemma nearestQuotient_apply (s t : Sign) {a b : Nat} (pos : 0 < a) (pos' : 0 < b) :
    nearestQuotient (s.apply a) (t.apply b) = (s / t).apply (nearestFraction (a * 2 ^ 149) b : Nat) := by
  have size : ∀ (s : Sign) (n : Nat), (s.apply (n : Int)).natAbs = n := by
    intro s n
    cases s with
    | positive => exact Int.natAbs_natCast n
    | negative => exact (Int.natAbs_neg _).trans (Int.natAbs_natCast n)
  have sign : ∀ (s : Sign) {n : Nat}, 0 < n → (s.apply (n : Int)).sign = s.apply 1 := by
    intro s n pos
    have one : (n : Int).sign = 1 := Int.sign_eq_one_of_pos (Int.natCast_pos.2 pos)
    cases s with
    | positive => exact one
    | negative => exact (Int.sign_neg _).trans (congrArg Neg.neg one)
  have signs : ∀ (s t : Sign) (n : Int), s.apply 1 * t.apply 1 * n = (s / t).apply n := by
    intro s t n
    have same : s / t = s * t := by cases s <;> cases t <;> rfl
    have own : t.apply 1 * n = t.apply n := by
      cases t with
      | positive => exact Int.one_mul n
      | negative => exact Int.neg_one_mul n
    rw [same, Int.mul_assoc, own, ← apply_mul, Int.one_mul]
  rw [nearestQuotient, sign s pos, sign t pos', size, size, signs]

/-- The quotient of two mantissas, shifted and rounded, is the nearest one to the quotient of the values. -/
lemma value_quotient (s t : Sign) {m n k : Nat} {e f g : Int} (pos : 0 < m) (pos' : 0 < n)
    (low : -149 ≤ e) (low' : -149 ≤ f) (shift : (k : Int) = e - f - g)
    (enough : 23 ≤ (m * 2 ^ k / n).log2 ∨ g ≤ -149) :
    value (roundWithAccuracy Format.binary32 (s / t) (m * 2 ^ k / n) g
        (accuracyOfFraction (m * 2 ^ k % n) n)) =
      nearestQuotient (value (.finite s m e pos)) (value (.finite t n f pos')) := by
  obtain ⟨short, above, full⟩ := shifted_bounds enough
  rw [value_rounded _ _ enough, roundedMantissa_fraction _ pos']
  rw [Nat.div_div_eq_div_mul] at short full
  unfold roundedExponent at *
  generalize shiftOf (m * 2 ^ k / n) g = h at *
  let p := (g + h + 149).toNat
  let a := (e + 149).toNat
  let b := (f + 149).toNat
  have exponents : a + 149 + h = k + b + p := by omega
  have same : m * 2 ^ a * 2 ^ 149 * (n * 2 ^ h) = m * 2 ^ k * (n * 2 ^ b * 2 ^ p) := by
    calc m * 2 ^ a * 2 ^ 149 * (n * 2 ^ h) = m * n * 2 ^ (a + 149 + h) := by
          rw [Nat.pow_add, Nat.pow_add]
          ring
      _ = m * n * 2 ^ (k + b + p) := by rw [exponents]
      _ = m * 2 ^ k * (n * 2 ^ b * 2 ^ p) := by
          rw [Nat.pow_add, Nat.pow_add]
          ring
  have fraction : nearestFraction (m * 2 ^ a * 2 ^ 149) (n * 2 ^ b) =
      roundHalfEven (m * 2 ^ k) (n * 2 ^ h) * 2 ^ p :=
    nearestFraction_eq (Nat.mul_pos pos' (Nat.two_pow_pos h)) (Nat.mul_pos pos' (Nat.two_pow_pos b))
      same short (full.imp_right (by omega))
  have quotient := nearestQuotient_apply s t (Nat.mul_pos pos (Nat.two_pow_pos a))
    (Nat.mul_pos pos' (Nat.two_pow_pos b))
  rw [fraction] at quotient
  exact quotient.symm

/-- A quotient of finite numbers is the nearest one to the quotient of their values. -/
theorem packs_div {x y : Float32} (finite_x : x.isFinite = true) (finite_y : y.isFinite = true)
    (some_divisor : value (unpacked y) ≠ 0) :
    Packs (x / y) (nearestQuotient (value (unpacked x)) (value (unpacked y))) := by
  have canonical_x := canonical_unpacked x
  have canonical_y := canonical_unpacked y
  rw [isFinite_eq] at finite_x finite_y
  refine ⟨div Format.binary32 (unpacked x) (unpacked y), ?_⟩
  rw [unpacked_div]
  generalize unpacked x = u at *
  generalize unpacked y = v at *
  cases v with
  | infinity | notANumber => cases finite_y
  | zero t => exact absurd rfl some_divisor
  | finite t n f pos' =>
    cases u with
    | infinity | notANumber => cases finite_x
    | zero s =>
      have none : nearestQuotient (value (.zero s)) (value (.finite t n f pos')) = 0 := by
        have zero : (value (.zero s)).sign = 0 := rfl
        rw [nearestQuotient, zero, Int.zero_mul, Int.zero_mul]
      rw [none]
      exact ⟨trivial, rfl, rfl, rfl⟩
    | finite s m e pos =>
      obtain ⟨-, low, -⟩ := canonical_x
      obtain ⟨-, low', -⟩ := canonical_y
      let g := min (e - f) (max (m.log2 + 1 + e - (n.log2 + 1 + f) - 24) (-149))
      let k := (e - f - g).toNat
      have known : div Format.binary32 (.finite s m e pos) (.finite t n f pos') =
          roundWithAccuracy Format.binary32 (s / t) (m * 2 ^ k / n) g
            (accuracyOfFraction (m * 2 ^ k % n) n) := by
        rw [← Nat.shiftLeft_eq]
        rfl
      have enough := quotient_long pos pos' (rfl : g = _) (rfl : k = _)
      rw [known, ← value_quotient s t pos pos' low low' (by omega : (k : Int) = _) enough]
      rcases round_canonical (s / t) _ enough with ⟨zero, -⟩ | ⟨r, f, some_bit, rounded, canonical⟩
      · rw [zero]
        exact ⟨trivial, rfl, rfl, rfl⟩
      · rw [rounded]
        exact ⟨canonical, rfl, rfl, rfl⟩

/-! ### What quotients keep and lose -/

/-- A division by one or more makes no number larger. -/
lemma abs_nearestQuotient_le_abs (x : Float32) {y : Float32} (large : 2 ^ 149 ≤ |value (unpacked y)|) :
    |nearestQuotient (value (unpacked x)) (value (unpacked y))| ≤ |value (unpacked x)| := by
  have held := held_value x
  rw [Int.abs_eq_natAbs] at large
  generalize value (unpacked x) = v at *
  generalize value (unpacked y) = w at *
  have divisor : 2 ^ 149 ≤ w.natAbs := by exact_mod_cast large
  refine (abs_nearestQuotient_le v w).trans ?_
  rw [Int.abs_eq_natAbs v]
  exact Int.ofNat_le.2 (nearestFraction_le held (by omega) (Nat.mul_le_mul_left _ divisor))

/-- A quotient with a positive divisor has the sign of its dividend, or none. -/
lemma apply_nearestQuotient_nonneg {s : Sign} {v w : Int} (h : 0 ≤ s.apply v) (pos : 0 < w) :
    0 ≤ s.apply (nearestQuotient v w) := by
  rw [nearestQuotient, Int.sign_eq_one_of_pos pos, Int.mul_one]
  cases s with
  | positive => exact Int.mul_nonneg (Int.sign_nonneg_iff.2 h) (Int.natCast_nonneg _)
  | negative =>
    rw [Sign.apply, ← Int.neg_mul, ← Int.sign_neg]
    exact Int.mul_nonneg (Int.sign_nonneg_iff.2 h) (Int.natCast_nonneg _)

section

variable {x y : Float32} (finite_x : x.isFinite = true) (finite_y : y.isFinite = true)
include finite_x finite_y

/-- A quotient of zero comes of a dividend that has not one unit for each of the divisor. -/
lemma tiny_of_div_eq_zero (some_divisor : value (unpacked y) ≠ 0) (zero : (x / y == 0) = true) :
    |value (unpacked x)| * 2 ^ 149 < |value (unpacked y)| := by
  have packs := packs_div finite_x finite_y some_divisor
  obtain ⟨s, none⟩ := (beq_zero_iff _).1 zero
  have finite : (x / y).isFinite = true := by
    rw [isFinite_eq, none]
    rfl
  have rounded := packs.value_eq finite
  rw [none] at rounded
  generalize value (unpacked x) = v at *
  generalize value (unpacked y) = w at *
  have divisor : 0 < w.natAbs := Int.natAbs_pos.2 some_divisor
  have tiny : v.natAbs * 2 ^ 149 < w.natAbs := by
    by_cases nothing : v = 0
    · rw [nothing, Int.natAbs_zero, Nat.zero_mul]
      exact divisor
    · refine tiny_of_nearestFraction_eq_zero ?_ divisor
      have signs : v.sign * w.sign ≠ 0 :=
        mul_ne_zero (mt Int.sign_eq_zero_iff_zero.1 nothing) (mt Int.sign_eq_zero_iff_zero.1 some_divisor)
      exact Int.natCast_eq_zero.1 ((mul_eq_zero.1 rounded.symm).resolve_left signs)
  zify at tiny
  exact tiny

/-- A number that is divided by one or more does not become infinite. -/
lemma isFinite_div (large : 2 ^ 149 ≤ |value (unpacked y)|) : (x / y).isFinite = true := by
  have some_divisor : value (unpacked y) ≠ 0 := by
    rintro none
    rw [none, abs_zero] at large
    exact absurd large (by decide)
  rw [(packs_div finite_x finite_y some_divisor).isFinite_iff]
  exact (abs_nearestQuotient_le_abs x large).trans_lt (abs_value_lt x)

end

/-- A third of a number that is not negative is not negative either, and no larger. -/
lemma third_value {x : Float32} (finite_x : x.isFinite = true) (h : 0 ≤ x) :
    (x / 3).isFinite = true ∧ 0 ≤ value (unpacked (x / 3)) ∧
      value (unpacked (x / 3)) ≤ value (unpacked x) := by
  have finite_three : (3 : Float32).isFinite = true := by decide
  have three : 0 < value (unpacked 3) ∧ 2 ^ 149 ≤ |value (unpacked 3)| := by decide
  have finite := isFinite_div finite_x finite_three three.2
  have third := (packs_div finite_x finite_three three.1.ne').value_eq finite
  have shrinks := abs_nearestQuotient_le_abs x three.2
  rw [le_iff_value isFinite_zero finite_x, value_zero] at h
  have sign : 0 ≤ nearestQuotient (value (unpacked x)) (value (unpacked 3)) :=
    apply_nearestQuotient_nonneg (s := .positive) h three.1
  rw [← third] at shrinks sign
  rw [abs_of_nonneg h, abs_of_nonneg sign] at shrinks
  exact ⟨finite, sign, shrinks⟩

lemma Held.half {v : Nat} (h : Held v) : Held ((v + 1) / 2) := by
  obtain ⟨m, k, short, rfl⟩ := h
  cases k with
  | zero => exact ⟨(m + 1) / 2, 0, by omega, by rw [Nat.pow_zero, Nat.mul_one, Nat.mul_one]⟩
  | succ k => exact ⟨m, k, short, by rw [Nat.pow_succ, ← Nat.mul_assoc]; omega⟩

/-- Half of a positive number is smaller than it. -/
lemma half_value {x : Float32} (finite_x : x.isFinite = true) (h : 0 < x) :
    (x / 2).isFinite = true ∧ value (unpacked (x / 2)) < value (unpacked x) := by
  have finite_two : (2 : Float32).isFinite = true := by decide
  have two : value (unpacked 2) = 2 ^ 150 := by decide
  have finite := isFinite_div finite_x finite_two (by decide)
  have half := (packs_div finite_x finite_two (by decide)).value_eq finite
  have held := (held_value x).half
  rw [lt_iff_value isFinite_zero finite_x, value_zero] at h
  rw [half, two]
  generalize value (unpacked x) = v at *
  refine ⟨finite, ?_⟩
  obtain ⟨n, rfl⟩ := Int.eq_ofNat_of_zero_le h.le
  have whole : nearestQuotient n (2 ^ 150) = nearestFraction (n * 2 ^ 149) (2 ^ 150) := by
    have one : (n : Int).sign * (2 ^ 150 : Int).sign = 1 := by
      rw [Int.sign_eq_one_of_pos h]
      rfl
    rw [nearestQuotient, one, Int.one_mul]
    rfl
  rw [whole, Int.ofNat_lt]
  rcases Nat.lt_or_ge 1 n with large | small
  · have rounded : nearestFraction (n * 2 ^ 149) (2 ^ 150) ≤ (n + 1) / 2 :=
      nearestFraction_le held (by decide) (by omega)
    omega
  · obtain rfl : n = 1 := by omega
    decide

/-- A number that is exactly half of another one. -/
structure IsHalf (h x : Float32) : Prop where
  finite : h.isFinite = true
  double : 2 * value (unpacked h) = value (unpacked x)

lemma IsHalf.abs {h x : Float32} (half : IsHalf h x) : IsHalf h.abs x.abs := by
  refine ⟨(isFinite_abs h).trans half.finite, ?_⟩
  rw [unpacked_abs, unpacked_abs, value_abs, value_abs, ← half.double, abs_mul]
  rfl

/-- Half of a number is exact if a single can hold it. -/
lemma IsHalf.value_div_two {h x : Float32} (half : IsHalf h x) (finite_x : x.isFinite = true) :
    (x / 2).isFinite = true ∧ value (unpacked (x / 2)) = value (unpacked h) := by
  have finite_two : (2 : Float32).isFinite = true := by decide
  have two : value (unpacked 2) = 2 ^ 150 := by decide
  have packs := packs_div finite_x finite_two (by rw [two]; decide)
  have exact_half : nearestQuotient (value (unpacked x)) (value (unpacked 2)) = value (unpacked h) := by
    have double : (2 * value (unpacked h)).natAbs * 2 ^ 149 = (value (unpacked h)).natAbs * 2 ^ 150 := by
      have twice : (2 * value (unpacked h)).natAbs = 2 * (value (unpacked h)).natAbs := Int.natAbs_mul _ _
      rw [twice]
      omega
    have signs : (2 * value (unpacked h)).sign * (2 ^ 150 : Int).sign = (value (unpacked h)).sign := by
      rw [Int.sign_mul]
      exact (Int.mul_one _).trans (Int.one_mul _)
    have divisor : (2 ^ 150 : Int).natAbs = 2 ^ 150 := rfl
    rw [two, ← half.double, nearestQuotient, signs, double, divisor, nearestFraction_mul _ (by decide)]
    exact nearestInt_of_held (held_value h)
  rw [exact_half] at packs
  have finite := packs.isFinite_iff.2 (abs_value_lt h)
  exact ⟨finite, packs.value_eq finite⟩

/-! ### Spans of time -/

lemma packs_ofCount (n : Nat) : Packs (ofCount n) (nearestInt 0 ((n % 2 ^ 64 : Nat) * 2 ^ 149)) := by
  have known : unpacked (ofCount n) =
      repacked (UnpackedFloat.normalize Format.binary32 (n % 2 ^ 64 : Nat) 0 .positive) := rfl
  by_cases none : n % 2 ^ 64 = 0
  · rw [none] at known ⊢
    exact ⟨.zero .positive, trivial, rfl, rfl, known⟩
  · obtain ⟨u, rounded, canonical, finite, value⟩ :=
      normalize_eq (e := 0) (Int.natCast_ne_zero.2 none) (by decide)
    rw [rounded] at known
    exact ⟨u, canonical, finite, value, known⟩

lemma isFinite_ofCount (n : Nat) : (ofCount n).isFinite = true := by
  rw [(packs_ofCount n).isFinite_iff]
  have small := Nat.mod_lt n (Nat.two_pow_pos 64)
  generalize n % 2 ^ 64 = k at *
  have low : nearestInt 0 0 ≤ nearestInt 0 (k * 2 ^ 149) := nearestInt_mono 0 (by positivity)
  have high : nearestInt 0 (k * 2 ^ 149) ≤ nearestInt 0 (2 ^ 64 * 2 ^ 149) :=
    nearestInt_mono 0 (by omega)
  have none : nearestInt 0 0 = 0 := nearestInt_of_held held_zero
  have limit : nearestInt 0 (2 ^ 64 * 2 ^ 149) = 2 ^ 64 * 2 ^ 149 :=
    nearestInt_of_held ⟨1, 213, by decide, by decide⟩
  rw [none] at low
  rw [limit] at high
  rw [abs_of_nonneg low]
  exact high.trans_lt (by decide)

/-- The seconds of a number of microseconds are finite. -/
lemma isFinite_seconds (n : Nat) : (ofCount n / 1000000).isFinite = true :=
  isFinite_div (isFinite_ofCount n) (by decide) (by decide)

lemma bears_seconds (n : Nat) : Bears .positive (unpacked (ofCount n / 1000000)) := by
  have count : Bears .positive (UnpackedFloat.normalize Format.binary32 (n % 2 ^ 64 : Nat) 0 .positive) := by
    unfold UnpackedFloat.normalize
    split
    · next below => exact absurd (compare_lt_iff_lt.1 below) (by omega)
    · rfl
    · exact bears_round _ _ _ _
  exact bears_repacked (bears_div (bears_repacked count) (bears_of_pos (by decide)))

end Single

end MatchRobot
