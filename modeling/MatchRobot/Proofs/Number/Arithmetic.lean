import MatchRobot.Proofs.Number.Rounding

/-!
# Signs and values of sums, products and quotients

What a formula on singles comes to is mostly a question of its sign. `Single.Bears` is the sign of a number
and `Single.Nought` says that it is no quantity at all, a zero or a `NaN`; products and quotients keep both.
In a sum, a zero adds nothing but to a negative zero (`Single.toInt32_zero_add`), and a `NaN` leaves
nothing of it. Other sums and differences need more: `Single.value` counts a finite number in units of the
smallest one, and the sign of a sum is the sign of the sum of the values, however it is rounded
(`Single.sum_cases`).
-/

namespace MatchRobot

open Float.Model (Format UnpackedFloat)
open Float.Model.UnpackedFloat

namespace Single

lemma unpacked_add (x y : Float32) :
    unpacked (x + y) = repacked (add Format.binary32 (unpacked x) (unpacked y)) :=
  rfl

lemma unpacked_sub (x y : Float32) :
    unpacked (x - y) = repacked (sub Format.binary32 (unpacked x) (unpacked y)) :=
  rfl

lemma unpacked_mul (x y : Float32) :
    unpacked (x * y) = repacked (mul Format.binary32 (unpacked x) (unpacked y)) :=
  rfl

lemma unpacked_div (x y : Float32) :
    unpacked (x / y) = repacked (div Format.binary32 (unpacked x) (unpacked y)) :=
  rfl

lemma unpacked_abs (x : Float32) : unpacked x.abs = (unpacked x).abs := by
  have known : unpacked x.abs = repacked (unpacked x).abs := rfl
  have either : (unpacked x).abs = unpacked x ∨ (unpacked x).abs = unpacked (-x) := by
    rw [unpacked_neg]
    cases unpacked x with
    | notANumber => exact .inl rfl
    | infinity s | zero s | finite s =>
      cases s with
      | positive => exact .inl rfl
      | negative => exact .inr rfl
  rw [known]
  rcases either with same | other
  · rw [same, repacked_unpacked]
  · rw [other, repacked_unpacked]

/-! ### Signs -/

/-- What has a sign. A `NaN` has both. -/
def Bears (s : Sign) : UnpackedFloat → Prop
  | .notANumber => True
  | .infinity t | .zero t | .finite t .. => t = s

lemma bears_repacked {s : Sign} {u : UnpackedFloat} (h : Bears s u) : Bears s (repacked u) := by
  have components : ∀ (e : BitVec 8) (m : BitVec 23),
      Bears s (unpack Format.binary32 (packComponents Format.binary32 s e m)) := by
    intro e m
    simp only [unpack, unpackExponent_packComponents, unpackMantissa_packComponents,
      unpackSign_packComponents, Sign.ofBitVec_toBitVec]
    split
    · split
      · rfl
      · trivial
    · split
      · split <;> rfl
      · rfl
  cases u with
  | notANumber =>
    rw [repacked, pack, unpack_packedNaN]
    trivial
  | infinity t | zero t =>
    obtain rfl := h
    exact components _ _
  | finite t m e pos =>
    obtain rfl := h
    unfold repacked pack
    simp only
    split
    · exact components _ _
    · split <;> exact components _ _

lemma isFinite_eq (x : Float32) : x.isFinite = (unpacked x).isFinite :=
  rfl

lemma isNaN_of_finite {x : Float32} (finite : x.isFinite = true) : x.isNaN = false := by
  rw [isFinite_eq] at finite
  rw [isNaN_eq]
  cases hx : unpacked x with
  | notANumber =>
    rw [hx] at finite
    cases finite
  | infinity | zero | finite => rfl

lemma bears_round (s : Sign) (m : Nat) (e : Int) (accuracy : Accuracy) :
    Bears s (roundWithAccuracy Format.binary32 s m e accuracy) := by
  unfold roundWithAccuracy
  simp only
  split <;> rfl

lemma bears_mul {s t : Sign} {u v : UnpackedFloat} (hu : Bears s u) (hv : Bears t v) :
    Bears (s * t) (mul Format.binary32 u v) := by
  cases u with
  | notANumber => trivial
  | infinity | zero | finite =>
    obtain rfl := hu
    cases v with
    | notANumber => trivial
    | infinity | zero | finite =>
      obtain rfl := hv
      first | exact bears_round _ _ _ _ | exact rfl | exact trivial

lemma bears_div {s t : Sign} {u v : UnpackedFloat} (hu : Bears s u) (hv : Bears t v) :
    Bears (s / t) (div Format.binary32 u v) := by
  cases u with
  | notANumber => trivial
  | infinity | zero | finite =>
    obtain rfl := hu
    cases v with
    | notANumber => trivial
    | infinity | zero | finite =>
      obtain rfl := hv
      first | exact bears_round _ _ _ _ | exact rfl | exact trivial

lemma bears_of_pos {x : Float32} (h : 0 < x) : Bears .positive (unpacked x) := by
  rw [lt_iff, unpacked_zero] at h
  cases hx : unpacked x with
  | notANumber => trivial
  | infinity s | zero s | finite s =>
    rw [hx] at h
    cases s with
    | positive => rfl
    | negative => cases h

lemma bears_of_neg {x : Float32} (h : x < 0) : Bears .negative (unpacked x) := by
  rw [lt_iff, unpacked_zero] at h
  cases hx : unpacked x with
  | notANumber => trivial
  | infinity s | zero s | finite s =>
    rw [hx] at h
    cases s with
    | negative => rfl
    | positive => cases h

lemma not_pos_of_bears {x : Float32} (h : Bears .negative (unpacked x)) : ¬ 0 < x := by
  rw [lt_iff, unpacked_zero]
  cases hx : unpacked x with
  | notANumber => exact nofun
  | infinity s | zero s | finite s =>
    rw [hx] at h
    obtain rfl := h
    exact nofun

lemma isFinite_of_lt {x y : Float32} (bears : Bears .positive (unpacked x))
    (finite_y : y.isFinite = true) (h : x < y) : x.isFinite = true := by
  rw [isFinite_eq] at finite_y ⊢
  rw [lt_iff] at h
  cases hx : unpacked x with
  | zero | finite => rfl
  | notANumber =>
    rw [hx] at h
    cases h
  | infinity s =>
    rw [hx] at bears h
    obtain rfl := bears
    cases hy : unpacked y with
    | infinity | notANumber =>
      rw [hy] at finite_y
      cases finite_y
    | zero | finite =>
      rw [hy] at h
      cases h

lemma neg_of_pos {x : Float32} (h : 0 < x) : -x < 0 := by
  rw [lt_iff, unpacked_zero] at h ⊢
  rw [unpacked_neg]
  cases hx : unpacked x with
  | notANumber =>
    rw [hx] at h
    cases h
  | infinity s | zero s | finite s =>
    rw [hx] at h
    cases s with
    | positive => first | rfl | cases h
    | negative => cases h

lemma bears_abs (x : Float32) : Bears .positive (unpacked x.abs) := by
  rw [unpacked_abs]
  cases unpacked x with
  | notANumber => trivial
  | infinity | zero | finite => rfl

lemma isFinite_neg (x : Float32) : (-x).isFinite = x.isFinite := by
  rw [isFinite_eq, isFinite_eq, unpacked_neg]
  cases unpacked x <;> rfl

lemma isFinite_abs (x : Float32) : x.abs.isFinite = x.isFinite := by
  rw [isFinite_eq, isFinite_eq, unpacked_abs]
  cases unpacked x <;> rfl

/-! ### Zeros -/

/-- What is no quantity: a zero, or no number. -/
def Nought : UnpackedFloat → Prop
  | .zero _ | .notANumber => True
  | _ => False

lemma nought_repacked {u : UnpackedFloat} (h : Nought u) : Nought (repacked u) := by
  cases u with
  | zero s =>
    rw [repacked, pack, unpack_packedZero]
    trivial
  | notANumber =>
    rw [repacked, pack, unpack_packedNaN]
    trivial
  | infinity | finite => cases h

lemma nought_mul {u : UnpackedFloat} (h : Nought u) (v : UnpackedFloat) :
    Nought (mul Format.binary32 u v) := by
  cases u with
  | infinity | finite => cases h
  | zero | notANumber => cases v <;> trivial

lemma nought_div {u : UnpackedFloat} (h : Nought u) (v : UnpackedFloat) :
    Nought (div Format.binary32 u v) := by
  cases u with
  | infinity | finite => cases h
  | zero | notANumber => cases v <;> trivial

lemma nought_iff (x : Float32) : Nought (unpacked x) ↔ ¬ 0 < x ∧ ¬ x < 0 := by
  rw [lt_iff, lt_iff, unpacked_zero]
  cases unpacked x with
  | notANumber | zero => exact iff_of_true trivial ⟨nofun, nofun⟩
  | infinity s | finite s =>
    cases s with
    | positive => exact iff_of_false nofun fun h => h.1 rfl
    | negative => exact iff_of_false nofun fun h => h.2 rfl

lemma beq_zero_iff (x : Float32) : (x == 0) = true ↔ ∃ s, unpacked x = .zero s := by
  change (unpacked x).beq (unpacked 0) = true ↔ _
  rw [unpacked_zero]
  cases unpacked x with
  | zero s => exact iff_of_true rfl ⟨s, rfl⟩
  | notANumber => exact iff_of_false nofun nofun
  | infinity s | finite s => cases s <;> exact iff_of_false nofun nofun

/-! ### Adding nothing -/

/-- A single is what it stands for. -/
lemma eq_of_unpacked {x y : Float32} (h : unpacked x = unpacked y) : x = y := by
  have packed : ∀ z : Float32, pack Format.binary32 (unpacked z) = z.toModel.toBits.toBitVec := by
    intro z
    have valid := z.toModel.valid
    rw [unpacked, Float32.Model.unpack, pack_unpack (show BitVec Format.binary32.numBits from z.toModel.toBits.toBitVec)]
    split
    · next nan =>
      simp only [isNaNBits, decide_eq_true_eq] at nan
      exact (valid.eq_packedNaN nan.1 nan.2).symm
    · rfl
  obtain ⟨⟨⟨b⟩, _⟩⟩ := x
  obtain ⟨⟨⟨c⟩, _⟩⟩ := y
  have same : b = c := (packed _).symm.trans ((congrArg _ h).trans (packed _))
  subst same
  rfl

/-- A step of no length adds nothing to nothing. -/
lemma zero_add_mul_zero {x : Float32} (finite : x.isFinite = true) : 0 + x * 0 = 0 := by
  have product : ∃ s, unpacked (x * 0) = .zero s := by
    rw [isFinite_eq] at finite
    rw [unpacked_mul, unpacked_zero]
    cases hx : unpacked x with
    | notANumber | infinity =>
      rw [hx] at finite
      cases finite
    | zero s | finite s => exact ⟨_, repacked_zero _⟩
  obtain ⟨s, product⟩ := product
  apply eq_of_unpacked
  rw [unpacked_add, product, unpacked_zero]
  cases s <;> exact repacked_zero _

lemma isNaN_mul_zero {x : Float32} (infinite : x.isFinite = false) : (x * 0).isNaN = true := by
  rw [isFinite_eq] at infinite
  rw [isNaN_eq, unpacked_mul, unpacked_zero]
  cases hx : unpacked x with
  | notANumber | infinity => exact congrArg UnpackedFloat.isNaN unpack_packedNaN
  | zero | finite =>
    rw [hx] at infinite
    cases infinite

lemma isNaN_add_left {x y : Float32} (h : x.isNaN = true) : (x + y).isNaN = true := by
  rw [isNaN_eq] at h ⊢
  rw [unpacked_add]
  cases hx : unpacked x with
  | notANumber => exact congrArg UnpackedFloat.isNaN unpack_packedNaN
  | zero | infinity | finite =>
    rw [hx] at h
    cases h

lemma isNaN_add_right {x y : Float32} (h : y.isNaN = true) : (x + y).isNaN = true := by
  rw [isNaN_eq] at h ⊢
  rw [unpacked_add]
  cases hy : unpacked y with
  | notANumber =>
    cases unpacked x <;> exact congrArg UnpackedFloat.isNaN unpack_packedNaN
  | zero | infinity | finite =>
    rw [hy] at h
    cases h

lemma nought_of_isNaN {x : Float32} (h : x.isNaN = true) : Nought (unpacked x) := by
  rw [isNaN_eq] at h
  cases hx : unpacked x with
  | notANumber => trivial
  | zero | infinity | finite =>
    rw [hx] at h
    cases h

/-- What is no quantity is cut off to no counts. -/
lemma toInt32_of_nought {x : Float32} (h : Nought (unpacked x)) : toInt32 x = 0 := by
  cases hx : unpacked x with
  | notANumber =>
    have known : unpacked (0 / 0) = .notANumber := by
      rw [unpacked_div, unpacked_zero]
      exact unpack_packedNaN
    rw [eq_of_unpacked (hx.trans known.symm)]
    decide
  | zero s =>
    have known : unpacked 0 = .zero .positive ∧ unpacked (-0) = .zero .negative := by
      rw [unpacked_neg, unpacked_zero]
      exact ⟨rfl, rfl⟩
    cases s with
    | positive =>
      rw [eq_of_unpacked (hx.trans known.1.symm)]
      decide
    | negative =>
      rw [eq_of_unpacked (hx.trans known.2.symm)]
      decide
  | infinity | finite =>
    rw [hx] at h
    cases h

/-- Zero adds nothing but to a negative zero, which is cut off to no counts too. -/
lemma toInt32_zero_add (x : Float32) : toInt32 (0 + x) = toInt32 x := by
  cases hx : unpacked x with
  | zero s =>
    have sum : Nought (unpacked (0 + x)) := by
      rw [unpacked_add, hx, unpacked_zero]
      apply nought_repacked
      cases s <;> trivial
    have nought : Nought (unpacked x) := by
      rw [hx]
      trivial
    rw [toInt32_of_nought sum, toInt32_of_nought nought]
  | notANumber | infinity | finite =>
    have sum : 0 + x = x := by
      apply eq_of_unpacked
      have same := repacked_unpacked x
      rw [hx] at same
      rw [unpacked_add, hx, unpacked_zero]
      exact same
    rw [sum]

/-! ### Numbers -/

/-- Packing makes no `NaN` of a number. -/
lemma isNaN_repacked {u : UnpackedFloat} (h : u.isNaN = false) : (repacked u).isNaN = false := by
  have components : ∀ (s : Sign) (e : BitVec 8) (m : BitVec 23), e ≠ -1#8 →
      (unpack Format.binary32 (packComponents Format.binary32 s e m)).isNaN = false := by
    intro s e m some_number
    simp only [unpack, unpackExponent_packComponents, if_neg some_number]
    split
    · split <;> rfl
    · rfl
  cases u with
  | notANumber => cases h
  | zero s => exact components s 0#8 0 (by decide)
  | infinity s =>
    rw [repacked, pack, packedInfinity, (unpack_components s (-1#8) 0).1 rfl rfl]
    rfl
  | finite s m e pos =>
    unfold repacked pack
    simp only
    split
    · rw [packedInfinity, (unpack_components s (-1#8) 0).1 rfl rfl]
      rfl
    · next fits =>
      split
      · refine components _ _ _ ?_
        intro infinite
        have exponent := congrArg BitVec.toNat infinite
        have last : (-1#8).toNat = 255 := rfl
        change ¬ 2 ^ 8 ≤ (e + 127 + 23).toNat + 1 at fits
        change (BitVec.ofNat 8 (e + 127 + 23).toNat).toNat = _ at exponent
        rw [BitVec.toNat_ofNat, last] at exponent
        omega
      · exact components _ _ _ (by decide)

lemma isNaN_round (s : Sign) (m : Nat) (e : Int) (accuracy : Accuracy) :
    (roundWithAccuracy Format.binary32 s m e accuracy).isNaN = false := by
  unfold roundWithAccuracy
  simp only
  split <;> rfl

lemma isNaN_mul_finite (s t : Sign) (m n : Nat) (e f : Int) (pos : 0 < m) (pos' : 0 < n) :
    (mul Format.binary32 (.finite s m e pos) (.finite t n f pos')).isNaN = false :=
  isNaN_round _ _ _ _

lemma isNaN_normalize (n e : Int) (s : Sign) :
    (UnpackedFloat.normalize Format.binary32 n e s).isNaN = false := by
  unfold UnpackedFloat.normalize UnpackedFloat.round
  split
  · exact isNaN_round _ _ _ _
  · rfl
  · exact isNaN_round _ _ _ _

/-- A whole number is a number. -/
lemma isNaN_ofNat (n : Nat) : (Float32.ofNat n).isNaN = false := by
  change (Float32.ofScientific n false 0).isNaN = false
  unfold Float32.ofScientific
  split
  · have one : unpacked (Float32.ofBits 0x3F800000) = .finite .positive (2 ^ 23) (-23) (by decide) :=
      rfl
    have whole : (unpacked n.toUInt64.toFloat32).isNaN = false :=
      isNaN_repacked (isNaN_normalize n.toUInt64.toNat 0 .positive)
    change (unpacked (n.toUInt64.toFloat32 * Float32.ofBits 0x3F800000)).isNaN = false
    rw [unpacked_mul, one]
    refine isNaN_repacked ?_
    cases hn : unpacked n.toUInt64.toFloat32 with
    | notANumber =>
      rw [hn] at whole
      cases whole
    | infinity | zero => rfl
    | finite => exact isNaN_mul_finite ..
  · change (repacked (ofScientific Format.binary32 n 0)).isNaN = false
    refine isNaN_repacked ?_
    unfold ofScientific
    split
    · rfl
    · split
      · rfl
      · split
        · rfl
        · rw [if_pos le_rfl]
          exact isNaN_mul_finite ..

lemma isNaN_ofInt32 (n : Int32) : (ofInt32 n).isNaN = false := by
  unfold ofInt32 Float32.ofInt
  split
  · exact isNaN_ofNat _
  · next m _ =>
    have opposite := isNaN_ofNat (m + 1)
    rw [isNaN_eq] at opposite ⊢
    change (unpacked (-Float32.ofNat (m + 1))).isNaN = false
    rw [unpacked_neg]
    cases hm : unpacked (Float32.ofNat (m + 1)) with
    | notANumber =>
      rw [hm] at opposite
      cases opposite
    | infinity | zero | finite => rfl

/-! ### Values -/

/-- A finite number in units of the smallest one, `2 ^ (-149)`. -/
def value : UnpackedFloat → Int
  | .finite s m e _ => s.apply (m * 2 ^ (e + 149).toNat : Nat)
  | _ => 0

lemma value_neg (u : UnpackedFloat) : value u.neg = -value u := by
  cases u with
  | finite s =>
    cases s with
    | positive => rfl
    | negative => exact (Int.neg_neg _).symm
  | infinity | notANumber | zero => rfl

lemma value_abs (u : UnpackedFloat) : value u.abs = |value u| := by
  cases u with
  | finite s m e pos =>
    have magnitude : (0 : Int) ≤ (m * 2 ^ (e + 149).toNat : Nat) := Int.natCast_nonneg _
    cases s with
    | positive => exact (abs_of_nonneg magnitude).symm
    | negative => exact ((abs_neg _).trans (abs_of_nonneg magnitude)).symm
  | infinity | notANumber | zero => exact abs_zero.symm

/-- The exponents of canonical numbers are compared before their mantissas. -/
lemma compare_magnitudes {m₁ m₂ : Nat} {e₁ e₂ : Int} {s₁ s₂ : Sign} {pos₁ : 0 < m₁} {pos₂ : 0 < m₂}
    (h₁ : Canonical (.finite s₁ m₁ e₁ pos₁)) (h₂ : Canonical (.finite s₂ m₂ e₂ pos₂)) :
    (compare e₁ e₂).then (compare m₁ m₂) =
      compare (m₁ * 2 ^ (e₁ + 149).toNat) (m₂ * 2 ^ (e₂ + 149).toNat) := by
  have apart : ∀ {m n : Nat} {e f : Int}, -149 ≤ e → e < f → m < 2 ^ 24 → 2 ^ 23 ≤ n →
      m * 2 ^ (e + 149).toNat < n * 2 ^ (f + 149).toNat := by
    intro m n e f low below short full
    calc m * 2 ^ (e + 149).toNat
      _ < 2 ^ 24 * 2 ^ (e + 149).toNat := Nat.mul_lt_mul_of_pos_right short (Nat.two_pow_pos _)
      _ = 2 ^ 23 * 2 ^ ((e + 149).toNat + 1) := by rw [Nat.pow_succ]; omega
      _ ≤ n * 2 ^ (f + 149).toNat :=
        Nat.mul_le_mul full (Nat.pow_le_pow_right (by decide) (by omega))
  obtain ⟨short₁, low₁, full₁⟩ := h₁
  obtain ⟨short₂, low₂, full₂⟩ := h₂
  rcases lt_trichotomy e₁ e₂ with below | rfl | above
  · have less := apart low₁ below short₁ (full₂.resolve_right (by omega))
    rw [compare_lt_iff_lt.2 below, compare_lt_iff_lt.2 less]
    rfl
  · have power : 0 < 2 ^ (e₁ + 149).toNat := Nat.two_pow_pos _
    rw [compare_eq_iff_eq.2 rfl, Ordering.eq_then]
    rcases lt_trichotomy m₁ m₂ with below | rfl | above
    · rw [compare_lt_iff_lt.2 below, compare_lt_iff_lt.2 (Nat.mul_lt_mul_of_pos_right below power)]
    · rw [compare_eq_iff_eq.2 rfl, compare_eq_iff_eq.2 rfl]
    · rw [compare_gt_iff_gt.2 above, compare_gt_iff_gt.2 (Nat.mul_lt_mul_of_pos_right above power)]
  · have less := apart low₂ above short₂ (full₁.resolve_right (by omega))
    rw [compare_gt_iff_gt.2 above, compare_gt_iff_gt.2 less]
    rfl

lemma compare_natCast (a b : Nat) : compare (a : Int) b = compare a b := by
  rcases lt_trichotomy a b with below | rfl | above
  · rw [compare_lt_iff_lt.2 below, compare_lt_iff_lt.2 (Int.ofNat_lt.2 below)]
  · rw [compare_eq_iff_eq.2 rfl, compare_eq_iff_eq.2 rfl]
  · rw [compare_gt_iff_gt.2 above, compare_gt_iff_gt.2 (Int.ofNat_lt.2 above)]

lemma compare_neg_neg (a b : Int) : compare (-a) (-b) = (compare a b).swap := by
  rcases lt_trichotomy a b with below | rfl | above
  · rw [compare_lt_iff_lt.2 below, compare_gt_iff_gt.2 (Int.neg_lt_neg below)]
    rfl
  · rw [compare_eq_iff_eq.2 rfl, compare_eq_iff_eq.2 rfl]
    rfl
  · rw [compare_gt_iff_gt.2 above, compare_lt_iff_lt.2 (Int.neg_lt_neg above)]
    rfl

/-- The value of a number that is not zero has its sign. -/
lemma value_finite_cases (s : Sign) (m : Nat) (e : Int) (pos : 0 < m) :
    s = .positive ∧ 0 < value (.finite s m e pos) ∨
      s = .negative ∧ value (.finite s m e pos) < 0 := by
  have some_bit : 0 < m * 2 ^ (e + 149).toNat := Nat.mul_pos pos (Nat.two_pow_pos _)
  cases s with
  | positive => exact .inl ⟨rfl, Int.natCast_pos.2 some_bit⟩
  | negative => exact .inr ⟨rfl, Int.neg_neg_of_pos (Int.natCast_pos.2 some_bit)⟩

lemma value_nonneg {u : UnpackedFloat} (h : Bears .positive u) : 0 ≤ value u := by
  cases u with
  | finite s m e pos =>
    obtain rfl := h
    exact Int.natCast_nonneg _
  | infinity | notANumber | zero => exact le_rfl

/-- Finite numbers are compared by their values. -/
lemma compare_value {u v : UnpackedFloat} (hu : Canonical u) (hv : Canonical v)
    (finite_u : u.isFinite = true) (finite_v : v.isFinite = true) :
    UnpackedFloat.compare u v = some (compare (value u) (value v)) := by
  cases u with
  | infinity | notANumber => cases finite_u
  | zero =>
    cases v with
    | infinity | notANumber => cases finite_v
    | zero => rfl
    | finite t m e pos =>
      rcases value_finite_cases t m e pos with ⟨rfl, above⟩ | ⟨rfl, below⟩
      · exact congrArg some (compare_lt_iff_lt.2 above).symm
      · exact congrArg some (compare_gt_iff_gt.2 below).symm
  | finite s m e pos =>
    cases v with
    | infinity | notANumber => cases finite_v
    | zero =>
      rcases value_finite_cases s m e pos with ⟨rfl, above⟩ | ⟨rfl, below⟩
      · exact congrArg some (compare_gt_iff_gt.2 above).symm
      · exact congrArg some (compare_lt_iff_lt.2 below).symm
    | finite t m' e' pos' =>
      rcases value_finite_cases s m e pos with ⟨rfl, above⟩ | ⟨rfl, below⟩
      · rcases value_finite_cases t m' e' pos' with ⟨rfl, above'⟩ | ⟨rfl, below'⟩
        · calc UnpackedFloat.compare _ _
            _ = some ((compare e e').then (compare m m')) := rfl
            _ = _ := by rw [compare_magnitudes hu hv, ← compare_natCast]; rfl
        · exact congrArg some (compare_gt_iff_gt.2 (below'.trans above)).symm
      · rcases value_finite_cases t m' e' pos' with ⟨rfl, above'⟩ | ⟨rfl, below'⟩
        · exact congrArg some (compare_lt_iff_lt.2 (below.trans above')).symm
        · calc UnpackedFloat.compare _ _
            _ = some ((compare e e').then (compare m m')).swap := rfl
            _ = _ := by rw [compare_magnitudes hu hv, ← compare_natCast, ← compare_neg_neg]; rfl

section

variable {x y : Float32} (finite_x : x.isFinite = true) (finite_y : y.isFinite = true)
include finite_x finite_y

lemma lt_iff_value : x < y ↔ value (unpacked x) < value (unpacked y) := by
  rw [lt_iff, UnpackedFloat.lt,
    compare_value (canonical_unpacked x) (canonical_unpacked y) finite_x finite_y]
  exact beq_iff_eq.trans ((Option.some_inj).trans compare_lt_iff_lt)

lemma beq_iff_value : (x == y) = true ↔ value (unpacked x) = value (unpacked y) := by
  change (unpacked x).beq (unpacked y) = true ↔ _
  rw [UnpackedFloat.beq,
    compare_value (canonical_unpacked x) (canonical_unpacked y) finite_x finite_y]
  exact beq_iff_eq.trans ((Option.some_inj).trans compare_eq_iff_eq)

lemma le_iff_value : x ≤ y ↔ value (unpacked x) ≤ value (unpacked y) := by
  rw [le_iff, UnpackedFloat.le,
    compare_value (canonical_unpacked x) (canonical_unpacked y) finite_x finite_y]
  exact Ordering.isLE_iff_ne_gt.trans compare_le_iff_le

end

/-- What is above a positive number is positive. -/
lemma pos_of_lt {x y : Float32} (pos : 0 < x) (h : x < y) : 0 < y := by
  have bears := bears_of_pos pos
  rw [lt_iff, unpacked_zero] at pos ⊢
  rw [lt_iff] at h
  cases hx : unpacked x with
  | notANumber | zero s =>
    rw [hx] at pos
    cases pos
  | infinity s | finite s =>
    rw [hx] at bears h
    obtain rfl := bears
    cases hy : unpacked y with
    | notANumber =>
      rw [hy] at h
      cases h
    | infinity t | zero t | finite t =>
      rw [hy] at h
      cases t with
      | negative => cases h
      | positive => first | rfl | cases h

/-- Finite numbers that compare equal have the same sign, the same exponent and the same mantissa. -/
lemma finite_beq {s t : Sign} {m n : Nat} {e f : Int} {pos : 0 < m} {pos' : 0 < n}
    (h : (UnpackedFloat.finite s m e pos).beq (.finite t n f pos') = true) :
    s = t ∧ e = f ∧ m = n := by
  have same : s = t ∧ (compare e f).then (compare m n) = .eq := by
    cases s with
    | positive =>
      cases t with
      | positive => exact ⟨rfl, Option.some_inj.1 (beq_iff_eq.1 h)⟩
      | negative => cases h
    | negative =>
      cases t with
      | positive => cases h
      | negative => exact ⟨rfl, Ordering.swap_eq_eq.1 (Option.some_inj.1 (beq_iff_eq.1 h))⟩
  obtain ⟨exponents, mantissas⟩ := Ordering.then_eq_eq.1 same.2
  exact ⟨same.1, compare_eq_iff_eq.1 exponents, compare_eq_iff_eq.1 mantissas⟩

/-- Only two zeros are different numbers that compare equal. -/
lemma eq_or_zeros_of_beq {x y : Float32} (h : (x == y) = true) :
    x = y ∨ (∃ s, unpacked x = .zero s) ∧ ∃ s, unpacked y = .zero s := by
  rw [or_iff_not_imp_right]
  intro zeros
  apply eq_of_unpacked
  change (unpacked x).beq (unpacked y) = true at h
  cases hx : unpacked x with
  | notANumber =>
    rw [hx] at h
    cases h
  | zero s =>
    rw [hx] at h zeros
    cases hy : unpacked y with
    | zero t => exact absurd ⟨⟨s, rfl⟩, t, hy⟩ zeros
    | notANumber =>
      rw [hy] at h
      cases h
    | infinity t | finite t =>
      rw [hy] at h
      cases t <;> cases h
  | infinity s =>
    rw [hx] at h
    cases hy : unpacked y with
    | infinity t =>
      rw [hy] at h
      cases s <;> cases t <;> first | rfl | cases h
    | notANumber | zero | finite =>
      rw [hy] at h
      cases s <;> cases h
  | finite s m e some_bit =>
    rw [hx] at h
    cases hy : unpacked y with
    | infinity t =>
      rw [hy] at h
      cases s <;> cases t <;> cases h
    | notANumber | zero =>
      rw [hy] at h
      cases s <;> cases h
    | finite t n f some_bit' =>
      rw [hy] at h
      obtain ⟨rfl, rfl, rfl⟩ := finite_beq h
      rfl

/-- A positive number is equal to no other one. -/
lemma eq_of_beq {x y : Float32} (pos : 0 < x) (h : (x == y) = true) : x = y := by
  rcases eq_or_zeros_of_beq h with same | ⟨⟨s, zero⟩, -⟩
  · exact same
  · rw [lt_iff, unpacked_zero, zero] at pos
    cases pos

/-- A number that equals nothing is nothing, under either sign. -/
lemma eq_zero_or_eq_neg_zero {x : Float32} (h : ∃ s, unpacked x = .zero s) : x = 0 ∨ x = -0 := by
  obtain ⟨s, zero⟩ := h
  cases s with
  | positive => exact .inl (eq_of_unpacked (zero.trans unpacked_zero.symm))
  | negative =>
    refine .inr (eq_of_unpacked (zero.trans ?_))
    rw [unpacked_neg, unpacked_zero]
    rfl

/-! ### Sums and differences -/

/-- A multiple of the smallest single is rounded to a number of its sign. -/
lemma normalize_of_ne {n e : Int} (s : Sign) (h : n ≠ 0) (low : -149 ≤ e) :
    ∃ t m e' pos, UnpackedFloat.normalize Format.binary32 n e s = .finite t m e' pos ∧
      Canonical (.finite t m e' pos) ∧ 0 < t.apply n := by
  unfold UnpackedFloat.normalize
  rcases lt_or_gt_of_ne h with below | above
  · obtain ⟨m, e', pos, rounded, canonical⟩ :=
      round_of_pos .negative (m := (-n).toNat) (by omega) low
    rw [compare_lt_iff_lt.2 below]
    exact ⟨.negative, m, e', pos, rounded, canonical, Int.neg_pos_of_neg below⟩
  · obtain ⟨m, e', pos, rounded, canonical⟩ := round_of_pos .positive (m := n.toNat) (by omega) low
    rw [compare_gt_iff_gt.2 above]
    exact ⟨.positive, m, e', pos, rounded, canonical, above⟩

/-- A value in units of `2 ^ k`. -/
lemma value_eq_mul (s : Sign) {m : Nat} {e k : Int} (pos : 0 < m) (low : -149 ≤ k) (below : k ≤ e) :
    value (.finite s m e pos) =
      s.apply ((m <<< (e - k).toNat : Nat) : Int) * 2 ^ (k + 149).toNat := by
  have magnitude : m * 2 ^ (e + 149).toNat = m <<< (e - k).toNat * 2 ^ (k + 149).toNat := by
    have exponent : (e + 149).toNat = (e - k).toNat + (k + 149).toNat := by omega
    rw [Nat.shiftLeft_eq, Nat.mul_assoc, ← Nat.pow_add, exponent]
  have scaled : (m * 2 ^ (e + 149).toNat : Nat) =
      ((m <<< (e - k).toNat : Nat) : Int) * 2 ^ (k + 149).toNat := by
    rw [magnitude]
    push_cast
    rfl
  cases s with
  | positive => exact scaled
  | negative => exact (congrArg Neg.neg scaled).trans (Int.neg_mul ..).symm

/-- The sum of two finite numbers is zero, or has the sign of the sum of their values. -/
lemma add_cases {u v : UnpackedFloat} (hu : Canonical u) (hv : Canonical v)
    (finite_u : u.isFinite = true) (finite_v : v.isFinite = true) :
    (value u + value v = 0 ∧ ∃ s, add Format.binary32 u v = .zero s) ∨
    (∃ s m e pos, add Format.binary32 u v = .finite s m e pos ∧ Canonical (.finite s m e pos) ∧
      0 < s.apply (value u + value v)) := by
  have own_sign : ∀ (s : Sign) m e pos, 0 < s.apply (value (.finite s m e pos)) := by
    intro s m e pos
    rcases value_finite_cases s m e pos with ⟨rfl, above⟩ | ⟨rfl, below⟩
    · exact above
    · exact Int.neg_pos_of_neg below
  cases u with
  | infinity | notANumber => cases finite_u
  | zero s =>
    cases v with
    | infinity | notANumber => cases finite_v
    | zero t =>
      refine .inl ⟨rfl, ?_⟩
      cases s <;> cases t <;> exact ⟨_, rfl⟩
    | finite t m e pos =>
      have sum : value (.zero s) + value (.finite t m e pos) = value (.finite t m e pos) :=
        Int.zero_add _
      rw [sum]
      exact .inr ⟨t, m, e, pos, rfl, hv, own_sign t m e pos⟩
  | finite s m e pos =>
    cases v with
    | infinity | notANumber => cases finite_v
    | zero t =>
      have sum : value (.finite s m e pos) + value (.zero t) = value (.finite s m e pos) :=
        Int.add_zero _
      rw [sum]
      exact .inr ⟨s, m, e, pos, rfl, hu, own_sign s m e pos⟩
    | finite t m' e' pos' =>
      -- both are multiples of the smaller unit, and so is the exact sum
      let k := min e e'
      have low : -149 ≤ k := le_min hu.2.1 hv.2.1
      let n := s.apply ((m <<< (e - k).toNat : Nat) : Int) +
        t.apply ((m' <<< (e' - k).toNat : Nat) : Int)
      have exact_sum : add Format.binary32 (.finite s m e pos) (.finite t m' e' pos') =
          UnpackedFloat.normalize Format.binary32 n k .positive := rfl
      have sum : value (.finite s m e pos) + value (.finite t m' e' pos') =
          n * 2 ^ (k + 149).toNat := by
        rw [value_eq_mul s pos low (min_le_left e e'), value_eq_mul t pos' low (min_le_right e e'),
          ← Int.add_mul]
      have power : (0 : Int) < 2 ^ (k + 149).toNat := Int.pow_pos (by decide)
      rw [exact_sum, sum]
      by_cases none : n = 0
      · rw [none, Int.zero_mul]
        exact .inl ⟨rfl, .positive, rfl⟩
      · obtain ⟨r, a, f, some_bit, rounded, canonical, sign⟩ :=
          normalize_of_ne .positive none low
        refine .inr ⟨r, a, f, some_bit, rounded, canonical, ?_⟩
        have scaled : r.apply (n * 2 ^ (k + 149).toNat) = r.apply n * 2 ^ (k + 149).toNat := by
          cases r with
          | positive => rfl
          | negative => exact (Int.neg_mul ..).symm
        rw [scaled]
        exact Int.mul_pos sign power

lemma sub_eq_add_neg (u v : UnpackedFloat) :
    sub Format.binary32 u v = add Format.binary32 u v.neg := by
  have flipped : ∀ (s : Sign) (n : Int), (-s).apply n = -s.apply n := fun s n => by
    cases s with
    | negative => exact (Int.neg_neg n).symm
    | positive => rfl
  cases u <;> cases v <;> first
    | rfl
    | simp only [sub, add, neg, flipped, Int.sub_eq_add_neg]

lemma sub_eq (x y : Float32) : unpacked (x - y) = unpacked (x + -y) := by
  rw [unpacked_sub, unpacked_add, unpacked_neg, sub_eq_add_neg]

/-- The sum of two finite numbers is no quantity, or has the sign of the sum of their values. -/
lemma sum_cases {x y : Float32} (finite_x : x.isFinite = true) (finite_y : y.isFinite = true) :
    (value (unpacked x) + value (unpacked y) = 0 ∧ Nought (unpacked (x + y))) ∨
    (∃ s : Sign, 0 < s.apply (value (unpacked x) + value (unpacked y)) ∧
      Bears s (unpacked (x + y)) ∧ ¬ Nought (unpacked (x + y))) := by
  rcases add_cases (canonical_unpacked x) (canonical_unpacked y) finite_x finite_y with
    ⟨none, s, zero⟩ | ⟨s, m, e, pos, sum, canonical, sign⟩
  · refine .inl ⟨none, ?_⟩
    rw [unpacked_add, zero]
    exact nought_repacked trivial
  · refine .inr ⟨s, sign, ?_⟩
    rw [unpacked_add, sum, repacked_finite canonical]
    split
    · exact ⟨rfl, id⟩
    · exact ⟨rfl, id⟩

/-- The smaller of two finite numbers less the larger one is negative. -/
lemma bears_sub {x y : Float32} (finite_x : x.isFinite = true) (finite_y : y.isFinite = true)
    (h : x < y) : Bears .negative (unpacked (x - y)) := by
  have below := (lt_iff_value finite_x finite_y).1 h
  have opposite : value (unpacked (-y)) = -value (unpacked y) := by rw [unpacked_neg, value_neg]
  rw [sub_eq]
  rcases sum_cases finite_x ((isFinite_neg y).trans finite_y) with ⟨none, -⟩ | ⟨s, sign, bears, -⟩
  · omega
  · cases s with
    | negative => exact bears
    | positive =>
      simp only [Sign.apply] at sign
      omega

/-- A finite number less an equal one is no quantity. -/
lemma nought_sub {x y : Float32} (finite_x : x.isFinite = true) (finite_y : y.isFinite = true)
    (h : (x == y) = true) : Nought (unpacked (x - y)) := by
  have same := (beq_iff_value finite_x finite_y).1 h
  have opposite : value (unpacked (-y)) = -value (unpacked y) := by rw [unpacked_neg, value_neg]
  rw [sub_eq]
  rcases sum_cases finite_x ((isFinite_neg y).trans finite_y) with ⟨-, zero⟩ | ⟨s, sign, -⟩
  · exact zero
  · cases s <;> simp only [Sign.apply] at sign <;> omega

end Single

end MatchRobot
