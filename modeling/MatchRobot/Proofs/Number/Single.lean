import Mathlib
import MatchRobot.Clock

/-!
# Facts about single-precision numbers

A single is opened by `Single.unpacked`, which tells its sign, its mantissa and its exponent. Two
questions about the program come down to it: which bounds `Single.clamp` accepts when one is the
negative of the other (`Single.clampable_neg_iff`), and how far `Clock.seconds` can go.

The mantissa has 24 bits, so between `2 ^ 63` and `2 ^ 64` singles are `2 ^ 40` apart. A conversion to a
count therefore stops at the last count of 64 bits, or keeps a distance of `2 ^ 40` to the first one
beyond them. `Single.Saturates` tells the one from the other by the exponent alone. A time in seconds is
first multiplied by a million, and `Clock.seconds_cases` says which times that takes to the end of the
clock.
-/

namespace MatchRobot

open Float.Model (Format UnpackedFloat)
open Float.Model.UnpackedFloat

namespace Single

/-- What a single stands for. -/
def unpacked (x : Float32) : UnpackedFloat :=
  x.toModel.unpack

/-! ### Negation -/

/-- Packing what was unpacked loses nothing but the payload of a `NaN`. -/
lemma unpack_pack_unpack (b : BitVec Format.binary32.numBits) :
    unpack Format.binary32 (pack Format.binary32 (unpack Format.binary32 b)) =
      unpack Format.binary32 b := by
  rw [pack_unpack b]
  split
  · next nan =>
    simp only [isNaNBits, decide_eq_true_eq] at nan
    rw [unpack_packedNaN]
    simp only [unpack, nan.1, if_true, nan.2, if_false]
  · rfl

/-- The same bits under the other sign. -/
lemma unpack_packComponents_neg (s : Sign) (e : BitVec 8) (m : BitVec 23) :
    unpack Format.binary32 (packComponents Format.binary32 (-s) e m) =
      (unpack Format.binary32 (packComponents Format.binary32 s e m)).neg := by
  simp only [unpack, unpackExponent_packComponents, unpackMantissa_packComponents,
    unpackSign_packComponents, Sign.ofBitVec_toBitVec]
  split
  · split <;> rfl
  · split
    · split <;> rfl
    · rfl

/-- Some bits stand for the negative of what a single stands for. -/
lemma exists_unpack_eq_neg (x : Float32) :
    ∃ b, unpack Format.binary32 b = (unpacked x).neg := by
  let b : BitVec Format.binary32.numBits := x.toModel.toBits.toBitVec
  have negated := unpack_packComponents_neg (Sign.ofBitVec (unpackSign b)) (unpackExponent b)
    (unpackMantissa b)
  rw [packComponents_unpackSign_unpackExponent_unpackMantissa b] at negated
  exact ⟨_, negated⟩

lemma unpacked_neg (x : Float32) : unpacked (-x) = (unpacked x).neg := by
  obtain ⟨b, other⟩ := exists_unpack_eq_neg x
  calc unpacked (-x) = unpack Format.binary32 (pack Format.binary32 (unpacked x).neg) := rfl
    _ = (unpacked x).neg := by rw [← other, unpack_pack_unpack]

/-! ### Order -/

lemma isNaN_eq (x : Float32) : x.isNaN = (unpacked x).isNaN :=
  rfl

lemma lt_iff (x y : Float32) : x < y ↔ (unpacked x).lt (unpacked y) = true := by
  change x.lt y = true ↔ _
  simp only [Float32.lt, decide_eq_true_eq]
  rfl

lemma le_iff (x y : Float32) : x ≤ y ↔ (unpacked x).le (unpacked y) = true := by
  change x.le y = true ↔ _
  simp only [Float32.le, decide_eq_true_eq]
  rfl

/-- Comparing the other way round turns the result about. -/
lemma compare_swap (u v : UnpackedFloat) : (u.compare v).map Ordering.swap = v.compare u := by
  have exponents : ∀ e f : Int, (compare e f).swap = compare f e :=
    fun e f => Std.OrientedCmp.eq_swap.symm
  have mantissas : ∀ m n : Nat, (compare m n).swap = compare n m :=
    fun m n => Std.OrientedCmp.eq_swap.symm
  cases u with
  | notANumber => cases v <;> rfl
  | infinity s | zero s =>
    cases v with
    | notANumber => cases s <;> rfl
    | infinity s' | zero s' | finite s' => cases s <;> cases s' <;> rfl
  | finite s m e pos =>
    cases v with
    | notANumber => cases s <;> rfl
    | infinity s' | zero s' => cases s <;> cases s' <;> rfl
    | finite s' m' e' pos' =>
      cases s <;> cases s' <;>
        simp [UnpackedFloat.compare, Ordering.swap_then, exponents, mantissas]

/-- A number is not below one that it is at least as large as. -/
lemma not_lt_of_le {x y : Float32} (h : x ≤ y) : ¬ y < x := by
  rw [le_iff, UnpackedFloat.le] at h
  rw [lt_iff, UnpackedFloat.lt, ← compare_swap]
  cases compared : (unpacked x).compare (unpacked y) with
  | none => exact nofun
  | some order =>
    rw [compared] at h
    cases order with
    | lt | eq => exact nofun
    | gt => cases h

lemma unpacked_zero : unpacked 0 = .zero .positive := by
  have bits : (0 : Float32).toModel.toBits.toBitVec = packedZero Format.binary32 .positive := by
    decide
  rw [unpacked, Float32.Model.unpack, bits, unpack_packedZero]

/-- An interval between a number and its negative is one to clamp to, unless the number is negative or
`NaN`. -/
theorem clampable_neg_iff (x : Float32) :
    clampable (-x) x = true ↔ x.isNaN = false ∧ ¬ x < 0 := by
  unfold clampable
  rw [decide_eq_true_eq, le_iff, lt_iff, isNaN_eq, unpacked_neg, unpacked_zero]
  cases unpacked x with
  | notANumber => decide
  | infinity s | zero s => cases s <;> decide
  | finite s m e pos =>
    cases s with
    | positive => exact iff_of_true rfl ⟨rfl, nofun⟩
    | negative => exact iff_of_false nofun fun h => h.2 rfl

/-! ### Counts -/

/-- What reaches the last count of 64 bits: no single below `2 ^ 64` has such an exponent. -/
def Saturates : UnpackedFloat → Prop
  | .infinity .positive => True
  | .finite .positive _ e _ => 41 ≤ e
  | _ => False

/-- The implicit bit of a mantissa. -/
lemma toNat_implicit (m : BitVec 23) : (1#1 ++ m).toNat = 2 ^ 23 + m.toNat := by
  rw [BitVec.toNat_append]
  exact (Nat.two_pow_add_eq_or_of_lt m.isLt 1).symm

/-- The mantissa of a single has at most 24 bits, and all of them unless the exponent is the smallest
one. -/
lemma mantissa_of_unpack {b : BitVec Format.binary32.numBits} {s : Sign} {m : Nat} {e : Int}
    {pos : 0 < m} (h : unpack Format.binary32 b = .finite s m e pos) :
    m < 2 ^ 24 ∧ -149 ≤ e ∧ (2 ^ 23 ≤ m ∨ e = -149) := by
  have small : (unpackMantissa b).toNat < 2 ^ 23 := (unpackMantissa b).isLt
  have bias : (Format.binary32.exponentBias : Int) = 127 := rfl
  unfold unpack at h
  simp only [bias] at h
  split at h
  · split at h <;> cases h
  · split at h
    · split at h
      · cases h
      · next subnormal _ =>
        cases h
        rw [subnormal]
        exact ⟨by omega, by decide, .inr rfl⟩
    · next normal =>
      cases h
      have some_exponent : 0 < (unpackExponent b).toNat :=
        Nat.pos_of_ne_zero fun h => normal (BitVec.eq_of_toNat_eq h)
      rw [toNat_implicit]
      exact ⟨by omega, by omega, .inl (Nat.le_add_right _ _)⟩

/-- Shifting a mantissa to the right divides it. -/
lemma mantissa_shiftRight (em : ExtendedMantissa) (n : Nat) :
    (em >>> n).mantissa = em.mantissa / 2 ^ n := by
  change (n.repeat ExtendedMantissa.shiftRightOne em).mantissa = _
  induction n with
  | zero => exact (Nat.div_one _).symm
  | succ n ih =>
    rw [Nat.pow_succ, ← Nat.div_div_eq_div_mul, ← ih]
    rfl

/-- The whole part of a positive number. -/
lemma roundToInt_positive (m : Nat) (e : Int) :
    roundToInt .positive m e = (m * 2 ^ e.toNat / 2 ^ (-e).toNat : Nat) := by
  have shift : (0 - (e - (e.toNat : Int))).toNat = (-e).toNat := by omega
  simp only [roundToInt, decreaseExponent, shiftToExponent, shift, Sign.apply, mantissa_shiftRight,
    ExtendedMantissa.ofMantissaAndAccuracy, Nat.shiftLeft_eq, Int.sub_zero]

/-- The conversion to a count stops at the last one of 64 bits. -/
lemma toNat_ofNatClamp (n : Nat) : (UInt64.ofNatClamp n).toNat = min n (2 ^ 64 - 1) := by
  have size : UInt64.size = 2 ^ 64 := rfl
  rcases Nat.lt_or_ge n UInt64.size with small | large
  · rw [UInt64.toNat_ofNatClamp_of_lt small]
    omega
  · rw [UInt64.toNat_ofNatClamp_of_le large]
    omega

/-- A count is the last one of 64 bits, or well below it. -/
lemma toCount_saturates (x : Float32) :
    Saturates (unpacked x) ∧ toCount x = 2 ^ 64 - 1 ∨
      ¬ Saturates (unpacked x) ∧ toCount x ≤ 2 ^ 64 - 2 ^ 40 := by
  have clamped : toCount x = (UInt64.ofNatClamp ((unpacked x).toInt 0 (UInt64.size - 1)).toNat).toNat :=
    rfl
  rw [clamped]
  cases h : unpacked x with
  | notANumber => exact .inr ⟨id, by decide⟩
  | infinity s =>
    cases s with
    | positive => exact .inl ⟨trivial, by decide⟩
    | negative => exact .inr ⟨id, by decide⟩
  | zero s => cases s <;> exact .inr ⟨id, by decide⟩
  | finite s m e pos =>
    obtain ⟨short, -, full⟩ := mantissa_of_unpack h
    rw [toNat_ofNatClamp]
    cases s with
    | negative =>
      have none : (UnpackedFloat.toInt 0 (UInt64.size - 1) (.finite .negative m e pos)).toNat = 0 :=
        Int.toNat_neg_natCast _
      rw [none]
      exact .inr ⟨id, by decide⟩
    | positive =>
      rw [toInt, roundToInt_positive, Int.toNat_natCast]
      by_cases high : 41 ≤ e
      · refine .inl ⟨high, Nat.min_eq_right ?_⟩
        have whole : (-e).toNat = 0 := by omega
        have power : 2 ^ 41 ≤ 2 ^ e.toNat := Nat.pow_le_pow_right (by decide) (by omega)
        rw [whole, Nat.pow_zero, Nat.div_one]
        calc 2 ^ 64 - 1 ≤ 2 ^ 23 * 2 ^ 41 := by decide
          _ ≤ m * 2 ^ e.toNat := Nat.mul_le_mul (by omega) power
      · refine .inr ⟨high, Nat.le_trans (Nat.min_le_left _ _) ?_⟩
        have power : 2 ^ e.toNat ≤ 2 ^ 40 := Nat.pow_le_pow_right (by decide) (by omega)
        calc m * 2 ^ e.toNat / 2 ^ (-e).toNat ≤ m * 2 ^ e.toNat := Nat.div_le_self _ _
          _ ≤ (2 ^ 24 - 1) * 2 ^ 40 := Nat.mul_le_mul (by omega) power
          _ = 2 ^ 64 - 2 ^ 40 := by decide

/-! ### Rounding -/

/-- How far a mantissa is shifted to the right so that 24 bits are left of it. -/
def shiftOf (m : Nat) (e : Int) : Nat :=
  (max (m.log2 + 1 + e - 24) (-149) - e).toNat

lemma shiftToTargetExponent_eq (m : Nat) (e : Int) :
    shiftToTargetExponent Format.binary32 m e .exact =
      ((⟨m, false, false⟩ : ExtendedMantissa) >>> shiftOf m e, e + shiftOf m e) :=
  rfl

/-- Rounding adds one at most. -/
lemma roundedMantissa_bounds (em : ExtendedMantissa) :
    em.mantissa ≤ em.roundedMantissa ∧ em.roundedMantissa ≤ em.mantissa + 1 := by
  obtain ⟨m, half, rest⟩ := em
  cases half <;> cases rest <;>
    simp only [ExtendedMantissa.roundedMantissa, ExtendedMantissa.accuracy,
      Accuracy.roundToNearestEven] <;> omega

/-- A mantissa is shifted, rounded, and shifted once more if rounding has made it longer. -/
lemma exists_round (s : Sign) (m : Nat) (e : Int) : ∃ r : Nat,
    m / 2 ^ shiftOf m e ≤ r ∧ r ≤ m / 2 ^ shiftOf m e + 1 ∧
    let n := shiftOf r (e + shiftOf m e)
    roundWithAccuracy Format.binary32 s m e .exact =
      if h : r / 2 ^ n = 0 then .zero s
      else .finite s (r / 2 ^ n) (e + shiftOf m e + n) (Nat.pos_of_ne_zero h) := by
  have bounds := roundedMantissa_bounds ((⟨m, false, false⟩ : ExtendedMantissa) >>> shiftOf m e)
  rw [mantissa_shiftRight] at bounds
  refine ⟨_, bounds.1, bounds.2, ?_⟩
  simp only [roundWithAccuracy, shiftToTargetExponent_eq, mantissa_shiftRight]

/-- What components stand for, by their exponent. -/
lemma unpack_components (s : Sign) (e : BitVec 8) (m : BitVec 23) :
    (e = -1#8 → m = 0#23 → unpack Format.binary32 (packComponents Format.binary32 s e m) = .infinity s) ∧
    (e ≠ -1#8 → e ≠ 0#8 → ∃ n pos, unpack Format.binary32 (packComponents Format.binary32 s e m) =
      .finite s n (e.toNat - 150) pos) ∧
    (e = 0#8 → unpack Format.binary32 (packComponents Format.binary32 s e m) = .zero s ∨
      ∃ n pos, unpack Format.binary32 (packComponents Format.binary32 s e m) =
        .finite s n (-149) pos) := by
  simp only [unpack, unpackExponent_packComponents, unpackMantissa_packComponents,
    unpackSign_packComponents, Sign.ofBitVec_toBitVec]
  refine ⟨?_, ?_, ?_⟩
  · rintro rfl rfl
    rfl
  · intro infinite zero
    rw [if_neg infinite, if_neg zero]
    exact ⟨(1#1 ++ m).toNat, by rw [toNat_implicit]; omega, rfl⟩
  · rintro rfl
    rw [if_neg (by decide), if_pos rfl]
    split
    · exact .inl rfl
    · next some_bit =>
      have pos : 0 < m.toNat := Nat.pos_of_ne_zero fun h => some_bit (BitVec.eq_of_toNat_eq h)
      exact .inr ⟨m.toNat, pos, rfl⟩

/-- Packing keeps an exponent, or takes it to infinity. -/
lemma saturates_pack {m : Nat} {e : Int} {pos : 0 < m} (full : 41 ≤ e → m.log2 = 23) :
    Saturates (unpack Format.binary32 (pack Format.binary32 (.finite .positive m e pos))) ↔ 41 ≤ e := by
  have bias : (Format.binary32.exponentBias : Int) = 127 := rfl
  have bits : Format.binary32.mantissaBits = 24 := rfl
  unfold pack
  simp only [bias, bits]
  split
  · next large =>
    have infinite := (unpack_components .positive (-1#8) 0).1 rfl rfl
    rw [packedInfinity, infinite]
    refine iff_of_true trivial ?_
    change 2 ^ 8 ≤ (e + 127 + (23 : Nat)).toNat + 1 at large
    omega
  · next fits =>
    change ¬ 2 ^ 8 ≤ (e + 127 + (23 : Nat)).toNat + 1 at fits
    have value : (BitVec.ofNat 8 (e + 127 + (23 : Nat)).toNat).toNat = (e + 150).toNat := by
      rw [BitVec.toNat_ofNat]
      omega
    -- whatever has the smallest exponent stays far below
    have tiny : ∀ fraction : BitVec 23, ¬ Saturates (unpack Format.binary32
        (packComponents Format.binary32 .positive 0#8 fraction)) := by
      intro fraction
      rcases (unpack_components .positive 0#8 fraction).2.2 rfl with zero | ⟨n, pos, small⟩
      · rw [zero]
        exact id
      · rw [small]
        exact (by decide : ¬ (41 : Int) ≤ -149)
    split
    · by_cases zero : BitVec.ofNat 8 (e + 127 + (23 : Nat)).toNat = 0#8
      · rw [zero] at value
        have low : ¬ 41 ≤ e := by
          rw [BitVec.toNat_zero] at value
          omega
        exact iff_of_false (by rw [zero]; exact tiny _) low
      · have infinite : BitVec.ofNat 8 (e + 127 + (23 : Nat)).toNat ≠ -1#8 := by
          intro h
          have last : (-1#8).toNat = 255 := rfl
          rw [h, last] at value
          omega
        obtain ⟨n, pos, normal⟩ :=
          (unpack_components .positive _ (BitVec.ofNat 23 m)).2.1 infinite zero
        rw [normal]
        change 41 ≤ ((BitVec.ofNat 8 (e + 127 + (23 : Nat)).toNat).toNat : Int) - 150 ↔ 41 ≤ e
        rw [value]
        omega
    · next short =>
      exact iff_of_false (tiny _) fun high => short (by rw [full high])

/-- A mantissa of 24 bits after rounding; only rounding up to the next power of two raises the
exponent. -/
lemma saturates_rounded {r : Nat} {e : Int} (bound : -149 ≤ e) (low : 2 ^ 23 ≤ r) (high : r ≤ 2 ^ 24) :
    Saturates (unpack Format.binary32 (pack Format.binary32
      (if h : r / 2 ^ shiftOf r e = 0 then .zero .positive
        else .finite .positive (r / 2 ^ shiftOf r e) (e + shiftOf r e) (Nat.pos_of_ne_zero h)))) ↔
      41 ≤ e ∨ e = 40 ∧ r = 2 ^ 24 := by
  rcases Nat.lt_or_eq_of_le high with small | rfl
  · have bits : r.log2 = 23 := (Nat.log2_eq_iff (by omega)).2 ⟨low, small⟩
    have still : shiftOf r e = 0 := by
      unfold shiftOf
      omega
    rw [still, Nat.pow_zero, Nat.div_one, dif_neg (by omega), saturates_pack fun _ => bits]
    omega
  · have once : shiftOf (2 ^ 24) e = 1 := by
      have bits : (2 ^ 24).log2 = 24 := Nat.log2_two_pow
      unfold shiftOf
      rw [bits]
      omega
    rw [once, dif_neg (by decide), saturates_pack fun _ => by decide]
    omega

/-! ### Millions -/

/-- The mantissa of a million is 16000000, with the exponent -4. -/
lemma unpacked_million : unpacked 1000000 = .finite .positive 16000000 (-4) (by decide) :=
  rfl

/-- Which numbers of 24 bits are taken out of 64 bits by a million. -/
lemma saturates_normal {m : Nat} {e : Int} (short : m < 2 ^ 24) (bound : -149 ≤ e)
    (full : 2 ^ 23 ≤ m) :
    Saturates (unpack Format.binary32 (pack Format.binary32
      (roundWithAccuracy Format.binary32 .positive (m * 16000000) (e + -4) .exact))) ↔
      21 < e ∨ e = 21 ∧ 8796093 ≤ m := by
  -- the one product that rounding takes to the next power of two
  by_cases edge : m = 8796093 ∧ e = 21
  · obtain ⟨rfl, rfl⟩ := edge
    have rounded : roundWithAccuracy Format.binary32 .positive (8796093 * 16000000) (21 + -4) .exact =
        .finite .positive (2 ^ 23) 41 (by decide) := rfl
    rw [rounded, saturates_pack fun _ => by decide]
    decide
  obtain ⟨r, low, high, rounded⟩ := exists_round .positive (m * 16000000) (e + -4)
  have some_product : m * 16000000 ≠ 0 := by omega
  rw [rounded]
  by_cases large : 2 ^ 47 ≤ m * 16000000
  · have bits : (m * 16000000).log2 = 47 := (Nat.log2_eq_iff some_product).2 ⟨large, by omega⟩
    have shift : shiftOf (m * 16000000) (e + -4) = 24 := by
      unfold shiftOf
      omega
    rw [shift] at low high ⊢
    rw [saturates_rounded (by omega) (by omega) (by omega)]
    omega
  · have bits : (m * 16000000).log2 = 46 :=
      (Nat.log2_eq_iff some_product).2 ⟨by omega, by omega⟩
    have shift : shiftOf (m * 16000000) (e + -4) = 23 := by
      unfold shiftOf
      omega
    rw [shift] at low high ⊢
    rw [saturates_rounded (by omega) (by omega) (by omega)]
    omega

/-- A million times a subnormal number is small. -/
lemma saturates_subnormal {m : Nat} (pos : 0 < m) (short : m < 2 ^ 24) :
    ¬ Saturates (unpack Format.binary32 (pack Format.binary32
      (roundWithAccuracy Format.binary32 .positive (m * 16000000) (-149 + -4) .exact))) := by
  obtain ⟨r, -, high, rounded⟩ := exists_round .positive (m * 16000000) (-149 + -4)
  have product : (m * 16000000).log2 < 48 := (Nat.log2_lt (by omega)).2 (by omega)
  have shift : shiftOf (m * 16000000) (-149 + -4) ≤ 24 := by
    unfold shiftOf
    omega
  rw [rounded]
  split
  · have zero : unpack Format.binary32 (packedZero Format.binary32 .positive) = .zero .positive :=
      unpack_packedZero
    rw [pack, zero]
    exact id
  · next some_mantissa =>
    have some_r : r ≠ 0 := by
      rintro rfl
      exact some_mantissa (Nat.zero_div _)
    have r_small : r < 2 ^ 49 := by
      have divided : m * 16000000 / 2 ^ shiftOf (m * 16000000) (-149 + -4) ≤ m * 16000000 :=
        Nat.div_le_self _ _
      omega
    have bits : r.log2 < 49 := (Nat.log2_lt some_r).2 r_small
    have low : ¬ (41 : Int) ≤ -149 + -4 + shiftOf (m * 16000000) (-149 + -4) +
        shiftOf r (-149 + -4 + shiftOf (m * 16000000) (-149 + -4)) := by
      have again : shiftOf r (-149 + -4 + shiftOf (m * 16000000) (-149 + -4)) ≤ 49 := by
        unfold shiftOf at shift ⊢
        omega
      omega
    rw [saturates_pack fun high => absurd high low]
    exact low

end Single

namespace Clock

/-- The shortest time in seconds whose microseconds do not fit 64 bits. -/
def endless : Float32 :=
  Float32.ofBits 0x558637bd

/-- A time that is not positive, or no number, is no time at all. -/
lemma seconds_of_not_pos {x : Float32} (h : ¬ 0 < x) : seconds x = 0 := by
  have zero : Single.greatest x 0 = 0 := by
    unfold Single.greatest
    rw [if_neg (by decide), if_neg h]
  rw [seconds, zero]
  decide

lemma unpacked_endless : Single.unpacked endless = .finite .positive 8796093 21 (by decide) :=
  rfl

/-- Positive numbers are compared by their exponents first. -/
lemma endless_le_iff {x : Float32} {m : Nat} {e : Int} {pos : 0 < m}
    (h : Single.unpacked x = .finite .positive m e pos) :
    endless ≤ x ↔ 21 < e ∨ e = 21 ∧ 8796093 ≤ m := by
  rw [Single.le_iff, unpacked_endless, h]
  change ((compare 21 e).then (compare 8796093 m)).isLE = true ↔ _
  rcases lt_trichotomy 21 e with above | rfl | below
  · rw [compare_lt_iff_lt.2 above]
    exact iff_of_true rfl (.inl above)
  · rw [compare_eq_iff_eq.2 rfl, Ordering.eq_then, Nat.isLE_compare]
    simp
  · rw [compare_gt_iff_gt.2 below]
    exact iff_of_false nofun (by omega)

lemma pos_of_endless_le {x : Float32} (h : endless ≤ x) : 0 < x := by
  rw [Single.le_iff, unpacked_endless] at h
  rw [Single.lt_iff, Single.unpacked_zero]
  cases hx : Single.unpacked x with
  | notANumber =>
    rw [hx] at h
    cases h
  | infinity s | zero s | finite s =>
    rw [hx] at h
    cases s with
    | negative => cases h
    | positive => first | rfl | cases h

/-- The microseconds of a positive time. -/
lemma seconds_of_pos {x : Float32} (h : 0 < x) : seconds x = Single.toCount (x * 1000000) := by
  have same : Single.greatest x 0 = x := by
    unfold Single.greatest
    rw [if_neg (by decide), if_pos h]
  rw [seconds, same]

/-- A time takes the clock to its end exactly if it is at least `endless`. -/
lemma saturates_iff {x : Float32} (h : 0 < x) :
    Single.Saturates (Single.unpacked (x * 1000000)) ↔ endless ≤ x := by
  have product : Single.unpacked (x * 1000000) = unpack Format.binary32 (pack Format.binary32
      (mul Format.binary32 (Single.unpacked x) (Single.unpacked 1000000))) := rfl
  rw [Single.lt_iff, Single.unpacked_zero] at h
  rw [product, Single.unpacked_million]
  cases hx : Single.unpacked x with
  | notANumber =>
    rw [hx] at h
    cases h
  | zero s =>
    rw [hx] at h
    cases s <;> cases h
  | infinity s =>
    rw [hx] at h
    cases s with
    | negative => cases h
    | positive =>
      rw [Single.le_iff, unpacked_endless, hx]
      exact iff_of_true trivial rfl
  | finite s m e pos =>
    rw [hx] at h
    cases s with
    | negative => cases h
    | positive =>
      obtain ⟨short, bound, full⟩ := Single.mantissa_of_unpack hx
      rw [endless_le_iff hx]
      rcases full with full | rfl
      · exact Single.saturates_normal short bound full
      · exact iff_of_false (Single.saturates_subnormal pos short) (by omega)

/-- A time takes the clock to its end, or leaves `2 ^ 40` microseconds of it. -/
theorem seconds_cases (x : Float32) :
    endless ≤ x ∧ seconds x = limit - 1 ∨ ¬ endless ≤ x ∧ seconds x ≤ limit - 2 ^ 40 := by
  by_cases pos : 0 < x
  · rw [seconds_of_pos pos, ← saturates_iff pos]
    exact Single.toCount_saturates (x * 1000000)
  · have none := seconds_of_not_pos pos
    exact .inr ⟨fun h => pos (pos_of_endless_le h), by rw [none]; exact Nat.zero_le _⟩

end Clock

end MatchRobot
