import MatchRobot.Proofs.Number.Single

/-!
# Rounding to a single

An operation on singles works on signs, mantissas and exponents, rounds to 24 bits and packs the result.
`Single.Canonical` is what the result of rounding looks like and also what a single stands for, so packing
loses nothing of it that is not too large (`Single.repacked_finite`).

A mantissa is shifted until 24 bits are left of it, or until its exponent is the smallest one. Rounding then
keeps it or adds one to it, and the only number that grows a bit by this is a full one
(`Single.exists_rounded`). A multiple of the smallest single is therefore rounded to zero only if it is zero
(`Single.round_of_pos`).
-/

namespace MatchRobot

open Float.Model (Format UnpackedFloat)
open Float.Model.UnpackedFloat

namespace Single

/-! ### Packing -/

/-- What singles stand for. -/
def Canonical : UnpackedFloat → Prop
  | .finite _ m e _ => m < 2 ^ 24 ∧ -149 ≤ e ∧ (2 ^ 23 ≤ m ∨ e = -149)
  | _ => True

lemma canonical_unpacked (x : Float32) : Canonical (unpacked x) := by
  cases h : unpacked x with
  | finite s m e pos => exact mantissa_of_unpack h
  | _ => trivial

/-- What is left of a number that is packed. -/
def repacked (u : UnpackedFloat) : UnpackedFloat :=
  unpack Format.binary32 (pack Format.binary32 u)

lemma repacked_unpacked (x : Float32) : repacked (unpacked x) = unpacked x :=
  unpack_pack_unpack _

/-- What the components of a normal number stand for. -/
lemma unpack_normal (s : Sign) {m : Nat} {b : BitVec 8} (pos : 0 < m) (short : m < 2 ^ 24)
    (full : 2 ^ 23 ≤ m) (infinite : b ≠ -1#8) (zero : b ≠ 0#8) :
    unpack Format.binary32 (packComponents Format.binary32 s b (BitVec.ofNat 23 m)) =
      .finite s m (b.toNat - 150) pos := by
  have mantissa : (1#1 ++ BitVec.ofNat 23 m).toNat = m := by
    rw [toNat_implicit, BitVec.toNat_ofNat]
    omega
  simp only [unpack, unpackExponent_packComponents, unpackMantissa_packComponents,
    unpackSign_packComponents, Sign.ofBitVec_toBitVec]
  rw [if_neg infinite, if_neg zero]
  simp only [mantissa]
  rfl

/-- What the components of a subnormal number stand for. -/
lemma unpack_subnormal (s : Sign) {m : Nat} (pos : 0 < m) (short : m < 2 ^ 23) :
    unpack Format.binary32 (packComponents Format.binary32 s 0#8 (BitVec.ofNat 23 m)) =
      .finite s m (-149) pos := by
  have mantissa : (BitVec.ofNat 23 m).toNat = m := by
    rw [BitVec.toNat_ofNat, Nat.mod_eq_of_lt short]
  have some_bit : BitVec.ofNat 23 m ≠ 0#23 := by
    intro h
    rw [h] at mantissa
    exact absurd mantissa pos.ne
  simp only [unpack, unpackExponent_packComponents, unpackMantissa_packComponents,
    unpackSign_packComponents, Sign.ofBitVec_toBitVec]
  rw [if_neg (by decide), if_pos trivial, dif_neg some_bit]
  simp only [mantissa]
  rfl

/-- Packing keeps a canonical number, or takes it to infinity. -/
lemma repacked_finite {s : Sign} {m : Nat} {e : Int} {pos : 0 < m}
    (canonical : Canonical (.finite s m e pos)) :
    repacked (.finite s m e pos) = if e ≤ 104 then .finite s m e pos else .infinity s := by
  obtain ⟨short, low, full⟩ := canonical
  have known : pack Format.binary32 (.finite s m e pos) =
      if 2 ^ 8 ≤ (e + 127 + 23).toNat + 1 then packedInfinity Format.binary32 s
      else if m.log2 + 1 = 24 then
        packComponents Format.binary32 s (BitVec.ofNat 8 (e + 127 + 23).toNat) (BitVec.ofNat 23 m)
      else packComponents Format.binary32 s 0#8 (BitVec.ofNat 23 m) := rfl
  unfold repacked
  rw [known]
  split
  · rw [if_neg (by omega)]
    exact (unpack_components s (-1#8) 0).1 rfl rfl
  · rw [if_pos (by omega : e ≤ 104)]
    split
    · next bits =>
      have large : 2 ^ 23 ≤ m := ((Nat.log2_eq_iff pos.ne').1 (Nat.succ.inj bits)).1
      have exponent : (BitVec.ofNat 8 (e + 127 + 23).toNat).toNat = (e + 150).toNat := by
        rw [BitVec.toNat_ofNat]
        omega
      have infinite : BitVec.ofNat 8 (e + 127 + 23).toNat ≠ -1#8 := by
        intro h
        have last : (-1#8).toNat = 255 := rfl
        rw [h, last] at exponent
        omega
      have zero : BitVec.ofNat 8 (e + 127 + 23).toNat ≠ 0#8 := by
        intro h
        rw [h, BitVec.toNat_zero] at exponent
        omega
      rw [unpack_normal s pos short large infinite zero, exponent]
      congr 1
      omega
    · next bits =>
      have small : m < 2 ^ 23 := by
        by_contra large
        exact bits (congrArg (· + 1) ((Nat.log2_eq_iff pos.ne').2 ⟨Nat.le_of_not_lt large, short⟩))
      rw [unpack_subnormal s pos small, full.resolve_left (Nat.not_le_of_lt small)]

lemma repacked_zero (s : Sign) : repacked (.zero s) = .zero s :=
  unpack_packedZero

/-! ### Rounding -/

/-- The exponent that rounding brings a number to. -/
def roundedExponent (m : Nat) (e : Int) : Int :=
  e + shiftOf m e

lemma mantissa_ofMantissaAndAccuracy (m : Nat) (accuracy : Accuracy) :
    (ExtendedMantissa.ofMantissaAndAccuracy m accuracy).mantissa = m := by
  cases accuracy with
  | exact => rfl
  | inexact o => cases o <;> rfl

/-- A shifted mantissa has at most 24 bits, and all of them unless its exponent is the smallest one. -/
lemma shifted_bounds {m : Nat} {e : Int} (enough : 23 ≤ m.log2 ∨ e ≤ -149) :
    m / 2 ^ shiftOf m e < 2 ^ 24 ∧ -149 ≤ roundedExponent m e ∧
      (2 ^ 23 ≤ m / 2 ^ shiftOf m e ∨ roundedExponent m e = -149) := by
  have power : 0 < 2 ^ shiftOf m e := Nat.two_pow_pos _
  have exponent : roundedExponent m e = max (m.log2 + 1 + e - 24) (-149) := by
    unfold roundedExponent shiftOf
    omega
  have bits : m.log2 ≤ 23 + shiftOf m e := by
    unfold shiftOf
    omega
  refine ⟨(Nat.div_lt_iff_lt_mul power).2 ?_, by omega, ?_⟩
  · calc m < 2 ^ (m.log2 + 1) := Nat.lt_log2_self
      _ ≤ 2 ^ (24 + shiftOf m e) := Nat.pow_le_pow_right (by decide) (by omega)
      _ = 2 ^ 24 * 2 ^ shiftOf m e := Nat.pow_add ..
  · by_cases smallest : roundedExponent m e = -149
    · exact .inr smallest
    · have some_bit : m ≠ 0 := by
        rintro rfl
        have none : Nat.log2 0 = 0 := rfl
        omega
      have full : m.log2 = 23 + shiftOf m e := by
        unfold roundedExponent at *
        omega
      refine .inl ((Nat.le_div_iff_mul_le power).2 ?_)
      rw [← Nat.pow_add, ← full]
      exact Nat.log2_self_le some_bit

/-- The mantissa that is left of another one by shifting and rounding. -/
def roundedMantissa (m : Nat) (e : Int) (accuracy : Accuracy) : Nat :=
  (ExtendedMantissa.ofMantissaAndAccuracy m accuracy >>> shiftOf m e).roundedMantissa

/-- Rounding keeps a shifted mantissa or adds one to it. -/
lemma shifted_le_roundedMantissa (m : Nat) (e : Int) (accuracy : Accuracy) :
    m / 2 ^ shiftOf m e ≤ roundedMantissa m e accuracy ∧
      roundedMantissa m e accuracy ≤ m / 2 ^ shiftOf m e + 1 := by
  have bounds := roundedMantissa_bounds
    (ExtendedMantissa.ofMantissaAndAccuracy m accuracy >>> shiftOf m e)
  rwa [mantissa_shiftRight, mantissa_ofMantissaAndAccuracy] at bounds

/-- A rounded mantissa is shifted once more if rounding takes it to 25 bits. -/
lemma round_eq (s : Sign) {m : Nat} {e : Int} (accuracy : Accuracy)
    (enough : 23 ≤ m.log2 ∨ e ≤ -149) :
    roundWithAccuracy Format.binary32 s m e accuracy =
      if h : roundedMantissa m e accuracy = 0 then .zero s
      else if roundedMantissa m e accuracy < 2 ^ 24 then
        .finite s (roundedMantissa m e accuracy) (roundedExponent m e) (Nat.pos_of_ne_zero h)
      else .finite s (2 ^ 23) (roundedExponent m e + 1) (by decide) := by
  obtain ⟨short, low, -⟩ := shifted_bounds enough
  obtain ⟨-, upper⟩ := shifted_le_roundedMantissa m e accuracy
  have first : shiftToTargetExponent Format.binary32 m e accuracy =
      (ExtendedMantissa.ofMantissaAndAccuracy m accuracy >>> shiftOf m e, roundedExponent m e) :=
    rfl
  have again : roundWithAccuracy Format.binary32 s m e accuracy =
      let n := shiftOf (roundedMantissa m e accuracy) (roundedExponent m e)
      if h : roundedMantissa m e accuracy / 2 ^ n = 0 then .zero s
      else .finite s (roundedMantissa m e accuracy / 2 ^ n) (roundedExponent m e + n)
        (Nat.pos_of_ne_zero h) := by
    simp only [roundWithAccuracy, first, shiftToTargetExponent_eq, mantissa_shiftRight]
    rfl
  rw [again]
  generalize roundedMantissa m e accuracy = r at *
  rcases Nat.lt_or_ge r (2 ^ 24) with small | large
  · have bits : r.log2 ≤ 23 := by
      by_cases zero : r = 0
      · rw [zero]
        decide
      · exact Nat.le_of_lt_succ ((Nat.log2_lt zero).2 small)
    have still : shiftOf r (roundedExponent m e) = 0 := by
      unfold shiftOf
      omega
    simp only [still, Nat.pow_zero, Nat.div_one, if_pos small, Int.natCast_zero, Int.add_zero]
  · obtain rfl : r = 2 ^ 24 := by omega
    have bits : (2 ^ 24).log2 = 24 := Nat.log2_two_pow
    have once : shiftOf (2 ^ 24) (roundedExponent m e) = 1 := by
      unfold shiftOf
      omega
    rw [once]
    rfl

/-- Rounding keeps a shifted mantissa or adds one to it, and shifts it once more if that takes it to 25
bits. -/
lemma exists_rounded (s : Sign) {m : Nat} {e : Int} (accuracy : Accuracy)
    (enough : 23 ≤ m.log2 ∨ e ≤ -149) : ∃ r : Nat,
    m / 2 ^ shiftOf m e ≤ r ∧ r ≤ m / 2 ^ shiftOf m e + 1 ∧
    roundWithAccuracy Format.binary32 s m e accuracy =
      if h : r = 0 then .zero s
      else if r < 2 ^ 24 then .finite s r (roundedExponent m e) (Nat.pos_of_ne_zero h)
      else .finite s (2 ^ 23) (roundedExponent m e + 1) (by decide) :=
  have ⟨lower, upper⟩ := shifted_le_roundedMantissa m e accuracy
  ⟨_, lower, upper, round_eq s accuracy enough⟩

/-- Rounding makes a canonical number, and no zero of what has a bit left. -/
lemma round_canonical (s : Sign) {m : Nat} {e : Int} (accuracy : Accuracy)
    (enough : 23 ≤ m.log2 ∨ e ≤ -149) :
    roundWithAccuracy Format.binary32 s m e accuracy = .zero s ∧ m / 2 ^ shiftOf m e = 0 ∨
      ∃ r e' pos, roundWithAccuracy Format.binary32 s m e accuracy = .finite s r e' pos ∧
        Canonical (.finite s r e' pos) := by
  obtain ⟨r, lower, upper, rounded⟩ := exists_rounded s accuracy enough
  obtain ⟨short, low, full⟩ := shifted_bounds enough
  rw [rounded]
  by_cases zero : r = 0
  · exact .inl ⟨dif_pos zero, Nat.le_zero.1 (zero ▸ lower)⟩
  · rw [dif_neg zero]
    by_cases small : r < 2 ^ 24
    · rw [if_pos small]
      exact .inr ⟨r, _, _, rfl, small, low, full.imp_left fun bits => Nat.le_trans bits lower⟩
    · rw [if_neg small]
      exact .inr ⟨2 ^ 23, _, _, rfl, by decide, by omega, .inl (Nat.le_refl _)⟩

lemma log2_mul_two_pow {m : Nat} (pos : 0 < m) (k : Nat) : (m * 2 ^ k).log2 = m.log2 + k := by
  have power : 0 < 2 ^ k := Nat.two_pow_pos k
  refine (Nat.log2_eq_iff (Nat.mul_pos pos power).ne').2 ⟨?_, ?_⟩
  · rw [Nat.pow_add]
    exact Nat.mul_le_mul_right _ (Nat.log2_self_le pos.ne')
  · rw [Nat.add_right_comm, Nat.pow_add]
    exact Nat.mul_lt_mul_of_pos_right Nat.lt_log2_self power

/-- A multiple of the smallest single is not rounded to zero. -/
lemma round_of_pos (s : Sign) {m : Nat} {e : Int} (pos : 0 < m) (low : -149 ≤ e) :
    ∃ r e' pos', round Format.binary32 s m e = .finite s r e' pos' ∧
      Canonical (.finite s r e' pos') := by
  let k := (e - max (m.log2 + 1 + e - 24) (-149)).toNat
  have known : round Format.binary32 s m e =
      roundWithAccuracy Format.binary32 s (m <<< k) (e - k) .exact := rfl
  have bits : (m * 2 ^ k).log2 = m.log2 + k := log2_mul_two_pow pos k
  have enough : 23 ≤ (m * 2 ^ k).log2 ∨ e - k ≤ -149 := by omega
  have shift : shiftOf (m * 2 ^ k) (e - k) ≤ (m * 2 ^ k).log2 := by
    unfold shiftOf
    omega
  have some_bit : m * 2 ^ k / 2 ^ shiftOf (m * 2 ^ k) (e - k) ≠ 0 := by
    have product : m * 2 ^ k ≠ 0 := (Nat.mul_pos pos (Nat.two_pow_pos k)).ne'
    have power : 2 ^ shiftOf (m * 2 ^ k) (e - k) ≤ m * 2 ^ k :=
      Nat.le_trans (Nat.pow_le_pow_right (by decide) shift) (Nat.log2_self_le product)
    exact (Nat.div_pos power (Nat.two_pow_pos _)).ne'
  rw [known, Nat.shiftLeft_eq]
  exact (round_canonical s .exact enough).resolve_left fun zero => some_bit zero.2

end Single

end MatchRobot
