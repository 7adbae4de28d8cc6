import MatchRobot.Proofs.Number.Quotients

/-!
# The side of a number

A control loop has to push to the right side, whatever its numbers are. `Single.Beyond` says that one number
lies beyond another one, above it or below it. Operations seldom keep that, since small numbers are rounded to
zero; what they keep is that a number is zero or lies on a side of it, `Single.Leans`. Each operation comes with
one lemma that says that it keeps the side and when it loses the number: a product or a quotient with a
positive factor only if it underflows (`Single.leans_mul`, `Single.leans_div`), a clamp to the interval of a
motor output never (`Single.leans_clamp`), and a sum of two numbers of one side never (`Single.leans_spin`).

A sum is monotone in each of its operands, also with infinite numbers and with `NaN`
(`Single.not_beyond_add`).
-/

namespace MatchRobot

open Float.Model (Format UnpackedFloat)
open Float.Model.UnpackedFloat

namespace Single

/-! ### Ranks of results -/

lemma rank_neg (u : UnpackedFloat) : rank u.neg = -rank u := by
  cases u with
  | infinity s =>
    cases s with
    | positive => rfl
    | negative => exact (Int.neg_neg _).symm
  | notANumber | zero => rfl
  | finite s m e pos => exact value_neg (.finite s m e pos)

lemma rank_abs (u : UnpackedFloat) : rank u.abs = |rank u| := by
  cases u with
  | infinity s => cases s <;> decide
  | notANumber | zero => rfl
  | finite s m e pos => exact value_abs (.finite s m e pos)

lemma rank_of_finite {x : Float32} (finite : x.isFinite = true) :
    rank (unpacked x) = value (unpacked x) := by
  rw [isFinite_eq] at finite
  cases hx : unpacked x with
  | infinity | notANumber =>
    rw [hx] at finite
    cases finite
  | zero | finite => rfl

lemma repacked_infinity (s : Sign) : repacked (.infinity s) = .infinity s :=
  (unpack_components s (-1#8) 0).1 rfl rfl

/-- A number that is not finite is infinite. -/
lemma exists_infinity {x : Float32} (number : x.isNaN = false) (infinite : ¬ x.isFinite = true) :
    ∃ s, unpacked x = .infinity s := by
  rw [isNaN_eq] at number
  rw [isFinite_eq] at infinite
  cases hx : unpacked x with
  | infinity s => exact ⟨s, rfl⟩
  | notANumber =>
    rw [hx] at number
    cases number
  | zero | finite =>
    rw [hx] at infinite
    exact absurd rfl infinite

lemma abs_rank_le (x : Float32) : |rank (unpacked x)| ≤ overflow := by
  by_cases finite : x.isFinite = true
  · rw [rank_of_finite finite]
    exact (abs_value_lt x).le
  · cases number : x.isNaN with
    | true =>
      have none : rank (unpacked x) = 0 := by
        rw [isNaN_eq] at number
        cases hx : unpacked x with
        | notANumber => rfl
        | infinity | zero | finite =>
          rw [hx] at number
          cases number
      rw [none]
      decide
    | false =>
      obtain ⟨s, infinite⟩ := exists_infinity number finite
      rw [infinite]
      cases s <;> decide

/-- A number is finite if its rank is not the last one. -/
lemma isFinite_of_rank {x : Float32} (number : x.isNaN = false) (h : |rank (unpacked x)| < overflow) :
    x.isFinite = true := by
  by_contra infinite
  obtain ⟨s, infinite⟩ := exists_infinity number infinite
  rw [infinite] at h
  cases s <;> exact absurd h (by decide)

/-- What is packed has the rank of its value, as far as ranks go. -/
lemma Packs.rank_eq {z : Float32} {v : Int} (h : Packs z v) :
    rank (unpacked z) = max (-overflow) (min overflow v) := by
  by_cases finite : z.isFinite = true
  · have small := abs_lt.1 (h.isFinite_iff.1 finite)
    rw [rank_of_finite finite, h.value_eq finite]
    omega
  · have large := mt h.isFinite_iff.2 finite
    obtain ⟨t, infinite⟩ := exists_infinity h.isNaN finite
    obtain ⟨u, canonical, finite_u, rfl, packed⟩ := h
    have sign : ∃ m e pos, u = .finite t m e pos := by
      rw [infinite] at packed
      cases u with
      | infinity | notANumber => cases finite_u
      | zero s =>
        rw [repacked_zero] at packed
        cases packed
      | finite s m e pos =>
        rw [repacked_finite canonical] at packed
        split at packed <;> cases packed
        exact ⟨m, e, pos, rfl⟩
    obtain ⟨m, e, pos, rfl⟩ := sign
    have positive : 0 < overflow := by decide
    rw [infinite]
    rw [abs_lt] at large
    rcases value_finite_cases t m e pos with ⟨rfl, above⟩ | ⟨rfl, below⟩
    · simp only [rank, Sign.apply]
      omega
    · simp only [rank, Sign.apply]
      omega

lemma isNaN_neg (x : Float32) : (-x).isNaN = x.isNaN := by
  rw [isNaN_eq, isNaN_eq, unpacked_neg]
  cases unpacked x <;> rfl

lemma isNaN_abs (x : Float32) : x.abs.isNaN = x.isNaN := by
  rw [isNaN_eq, isNaN_eq, unpacked_abs]
  cases unpacked x <;> rfl

/-! ### Beyond a number -/

/-- One number has another one beyond it: above it, or below it on the negative side. -/
def Beyond (s : Sign) (x y : Float32) : Prop :=
  match s with
  | .positive => x < y
  | .negative => y < x

protected lemma le_of_lt {x y : Float32} (h : x < y) : x ≤ y := by
  rw [lt_iff, UnpackedFloat.lt] at h
  rw [le_iff, UnpackedFloat.le, beq_iff_eq.1 h]
  rfl

lemma apply_neg (s : Sign) (n : Int) : (-s).apply n = -s.apply n := by
  cases s with
  | negative => exact (Int.neg_neg n).symm
  | positive => rfl

lemma abs_eq_apply {s : Sign} {n : Int} (h : 0 ≤ s.apply n) : |n| = s.apply n := by
  cases s with
  | positive => exact abs_of_nonneg h
  | negative => exact abs_of_nonpos (Int.neg_nonneg.1 h)

lemma beyond_iff {s : Sign} {x y : Float32} : Beyond s x y ↔
    x.isNaN = false ∧ y.isNaN = false ∧ s.apply (rank (unpacked x)) < s.apply (rank (unpacked y)) := by
  have numbers : ∀ {x y : Float32}, x < y ↔
      x.isNaN = false ∧ y.isNaN = false ∧ rank (unpacked x) < rank (unpacked y) := by
    intro x y
    constructor
    · intro h
      have number_x := isNaN_of_le (Single.le_of_lt h)
      have number_y := isNaN_of_ge (Single.le_of_lt h)
      exact ⟨number_x, number_y, (lt_iff_rank number_x number_y).1 h⟩
    · rintro ⟨number_x, number_y, h⟩
      exact (lt_iff_rank number_x number_y).2 h
  cases s with
  | positive => exact numbers
  | negative =>
    refine numbers.trans ?_
    simp only [Sign.apply, Int.neg_lt_neg_iff]
    tauto

/-- The smaller one of anything and a number is a number, and no larger than this number. -/
lemma rank_least_le (x : Float32) {limit : Float32} (number : limit.isNaN = false) :
    (least x limit).isNaN = false ∧ rank (unpacked (least x limit)) ≤ rank (unpacked limit) := by
  unfold least
  rw [number, if_neg Bool.false_ne_true]
  split
  · next below =>
    have number_x := isNaN_of_le (Single.le_of_lt below)
    exact ⟨number_x, ((lt_iff_rank number_x number).1 below).le⟩
  · exact ⟨number, le_rfl⟩

/-! ### Monotone sums -/

protected lemma add_comm (x y : Float32) : x + y = y + x := by
  apply eq_of_unpacked
  rw [unpacked_add, unpacked_add]
  congr 1
  generalize unpacked x = u
  generalize unpacked y = v
  cases u with
  | notANumber => cases v <;> rfl
  | infinity s | zero s =>
    cases v with
    | infinity t | zero t => cases s <;> cases t <;> rfl
    | notANumber | finite => rfl
  | finite s m e pos =>
    cases v with
    | finite t n f pos' =>
      simp only [UnpackedFloat.add, Int.add_comm, min_comm]
    | notANumber | infinity | zero => rfl

lemma isNaN_finite_add {x y : Float32} (finite : x.isFinite = true) (number : y.isNaN = false) :
    (x + y).isNaN = false := by
  rw [Single.add_comm]
  exact isNaN_add finite number

/-- A sum that is a number has numbers as its operands. -/
lemma isNaN_of_add {x y : Float32} (number : (x + y).isNaN = false) :
    x.isNaN = false ∧ y.isNaN = false := by
  constructor
  · by_contra nan
    rw [isNaN_add_left (Bool.eq_true_of_not_eq_false nan)] at number
    cases number
  · by_contra nan
    rw [isNaN_add_right (Bool.eq_true_of_not_eq_false nan)] at number
    cases number

/-- A sum with an infinite number is this number, or none. -/
lemma add_infinity {x z : Float32} {s : Sign} (infinite : unpacked z = .infinity s)
    (number : (x + z).isNaN = false) : unpacked (x + z) = .infinity s := by
  have sum : ∀ u, UnpackedFloat.add Format.binary32 u (.infinity s) = .infinity s ∨
      UnpackedFloat.add Format.binary32 u (.infinity s) = .notANumber := by
    intro u
    cases u with
    | notANumber => exact .inr rfl
    | zero | finite => exact .inl rfl
    | infinity t =>
      cases s <;> cases t <;> first | exact .inl rfl | exact .inr rfl
  rw [isNaN_eq] at number
  rw [unpacked_add, infinite] at number ⊢
  rcases sum (unpacked x) with same | nan
  · rw [same, repacked_infinity]
  · have packed : repacked .notANumber = .notANumber := unpack_packedNaN
    rw [nan, packed] at number
    cases number

/-- A finite summand moves the rank of a finite number by its value, and an infinite one not at all. -/
lemma rank_add {x z : Float32} (number : x.isNaN = false) (finite : z.isFinite = true) :
    rank (unpacked (x + z)) =
      if |rank (unpacked x)| < overflow then
        max (-overflow) (min overflow (nearestInt 0 (rank (unpacked x) + value (unpacked z))))
      else rank (unpacked x) := by
  split
  · next small =>
    have finite_x := isFinite_of_rank number small
    rw [(packs_add finite_x finite).rank_eq, rank_of_finite finite_x]
  · next large =>
    have infinite : ¬ x.isFinite = true := by
      intro finite_x
      rw [rank_of_finite finite_x] at large
      exact large (abs_value_lt x)
    obtain ⟨s, infinite⟩ := exists_infinity number infinite
    rw [Single.add_comm, add_infinity infinite (isNaN_finite_add finite number), infinite]

/-- A sum is monotone in its first operand. -/
lemma not_beyond_add {s : Sign} {x y : Float32} (h : ¬ Beyond s x y) (z : Float32) :
    ¬ Beyond s (x + z) (y + z) := by
  intro beyond
  obtain ⟨sum_x, sum_y, order⟩ := beyond_iff.1 beyond
  obtain ⟨number_x, number_z⟩ := isNaN_of_add sum_x
  obtain ⟨number_y, -⟩ := isNaN_of_add sum_y
  have before : s.apply (rank (unpacked y)) ≤ s.apply (rank (unpacked x)) := by
    by_contra above
    exact h (beyond_iff.2 ⟨number_x, number_y, lt_of_not_ge above⟩)
  by_cases finite : z.isFinite = true
  · rw [rank_add number_x finite, rank_add number_y finite] at order
    have limit_x := abs_le.1 (abs_rank_le x)
    have limit_y := abs_le.1 (abs_rank_le y)
    generalize rank (unpacked x) = v at *
    generalize rank (unpacked y) = w at *
    have rounded : ∀ a b : Int, a ≤ b →
        nearestInt 0 (a + value (unpacked z)) ≤ nearestInt 0 (b + value (unpacked z)) :=
      fun a b le => nearestInt_mono 0 (Int.add_le_add_right le _)
    simp only [abs_lt] at order
    cases s with
    | positive =>
      have := rounded w v before
      simp only [Sign.apply] at before order
      split_ifs at order <;> omega
    | negative =>
      have := rounded v w (Int.neg_le_neg_iff.1 before)
      simp only [Sign.apply] at before order
      split_ifs at order <;> omega
  · obtain ⟨t, infinite⟩ := exists_infinity number_z finite
    rw [add_infinity infinite sum_x, add_infinity infinite sum_y] at order
    exact lt_irrefl _ order

/-- A sum with a number that is not on a side of zero does not go to that side. -/
lemma not_beyond_add_self {s : Sign} {d : Float32} (h : ¬ Beyond s 0 d) (x : Float32) :
    ¬ Beyond s x (x + d) := by
  intro beyond
  obtain ⟨number, sum, order⟩ := beyond_iff.1 beyond
  have none : (0 + x).isNaN = false ∧ rank (unpacked (0 + x)) = rank (unpacked x) := by
    have same : ∀ u, UnpackedFloat.add Format.binary32 (.zero .positive) u = u ∨
        UnpackedFloat.add Format.binary32 (.zero .positive) u = .zero .positive ∧ u = .zero .negative := by
      intro u
      cases u with
      | zero t =>
        cases t with
        | positive => exact .inl rfl
        | negative => exact .inr ⟨rfl, rfl⟩
      | notANumber | infinity | finite => exact .inl rfl
    rw [isNaN_eq] at number ⊢
    rw [unpacked_add, unpacked_zero]
    rcases same (unpacked x) with same | ⟨zero, nothing⟩
    · rw [same, repacked_unpacked]
      exact ⟨number, rfl⟩
    · rw [zero, nothing, repacked_zero]
      exact ⟨rfl, rfl⟩
  refine not_beyond_add h x (beyond_iff.2 ⟨none.1, ?_, ?_⟩)
  · rwa [Single.add_comm]
  · rwa [none.2, Single.add_comm d]

/-! ### Numbers on one side of zero -/

/-- A number that is zero or lies on a side of it. -/
def Leans (s : Sign) (x : Float32) : Prop :=
  x.isNaN = false ∧ 0 ≤ s.apply (rank (unpacked x))

lemma rank_zero : rank (unpacked 0) = 0 := by
  decide

lemma beq_zero_iff_rank {x : Float32} (number : x.isNaN = false) :
    (x == 0) = true ↔ rank (unpacked x) = 0 := by
  by_cases finite : x.isFinite = true
  · rw [beq_iff_value finite isFinite_zero, value_zero, rank_of_finite finite]
  · obtain ⟨s, infinite⟩ := exists_infinity number finite
    rw [beq_zero_iff, infinite]
    cases s with
    | positive => exact iff_of_false nofun (by decide)
    | negative => exact iff_of_false nofun (by decide)

lemma beyond_zero_iff_rank {s : Sign} {x : Float32} :
    Beyond s 0 x ↔ x.isNaN = false ∧ 0 < s.apply (rank (unpacked x)) := by
  have none : s.apply 0 = 0 := by cases s <;> rfl
  rw [beyond_iff, rank_zero, none]
  exact and_iff_right (by decide)

lemma beyond_zero_iff {s : Sign} {x : Float32} : Beyond s 0 x ↔ Leans s x ∧ (x == 0) = false := by
  have none : ∀ n : Int, s.apply n = 0 ↔ n = 0 := by
    intro n
    cases s with
    | positive => exact Iff.rfl
    | negative => exact Int.neg_eq_zero
  rw [beyond_zero_iff_rank, Leans, and_assoc]
  refine and_congr_right fun number => ?_
  rw [Bool.eq_false_iff, Ne, beq_zero_iff_rank number, ← none, lt_iff_le_and_ne, ne_comm]

/-- A number that is not zero lies on one side of it. -/
lemma exists_beyond_zero {x : Float32} (number : x.isNaN = false) (some_number : (x == 0) = false) :
    ∃ s, Beyond s 0 x := by
  have apart : rank (unpacked x) ≠ 0 := by
    rw [Ne, ← beq_zero_iff_rank number, some_number]
    exact Bool.false_ne_true
  rcases lt_or_gt_of_ne apart with below | above
  · exact ⟨.negative, beyond_zero_iff_rank.2 ⟨number, Int.neg_pos_of_neg below⟩⟩
  · exact ⟨.positive, beyond_zero_iff_rank.2 ⟨number, above⟩⟩

lemma Leans.beyond {s : Sign} {x : Float32} (h : Leans s x) : Beyond s 0 x ∨ (x == 0) = true := by
  cases zero : x == 0 with
  | true => exact .inr rfl
  | false => exact .inl (beyond_zero_iff.2 ⟨h, zero⟩)

lemma bears_of_beyond {s : Sign} {x : Float32} (h : Beyond s 0 x) : Bears s (unpacked x) := by
  cases s with
  | positive => exact bears_of_pos h
  | negative => exact bears_of_neg h

lemma not_beyond_of_bears {s : Sign} {x : Float32} (h : Bears (-s) (unpacked x)) : ¬ Beyond s 0 x := by
  intro beyond
  have own := bears_of_beyond beyond
  have number := (beyond_zero_iff_rank.1 beyond).1
  rw [isNaN_eq] at number
  cases hx : unpacked x with
  | notANumber =>
    rw [hx] at number
    cases number
  | infinity t | zero t | finite t =>
    rw [hx] at h own
    have both : s = -s := own.symm.trans h
    cases s <;> cases both

/-- A product with a factor that is not negative does not go to the other side, whatever overflows. -/
lemma not_beyond_mul {s : Sign} {x y : Float32} (side : Leans (-s) x) (bears : Bears .positive (unpacked y)) :
    ¬ Beyond s 0 (x * y) := by
  rcases side.beyond with beyond | zero
  · have product := bears_repacked (bears_mul (bears_of_beyond beyond) bears)
    have sign : -s * .positive = -s := by cases s <;> rfl
    rw [sign] at product
    exact not_beyond_of_bears product
  · obtain ⟨t, none⟩ := (beq_zero_iff x).1 zero
    have nothing : Nought (unpacked x) := by
      rw [none]
      trivial
    obtain ⟨not_above, not_below⟩ := (nought_iff (x * y)).1 (nought_repacked (nought_mul nothing _))
    cases s with
    | positive => exact not_above
    | negative => exact not_below

/-- An infinite number that leans to a side is the infinity of this side. -/
lemma Leans.infinity {s t : Sign} {x : Float32} (h : Leans s x) (infinite : unpacked x = .infinity t) :
    t = s := by
  have above := h.2
  rw [infinite] at above
  cases s <;> cases t <;> first | rfl | exact absurd above (by decide)

lemma leans_infinity {s : Sign} {x : Float32} (infinite : unpacked x = .infinity s) :
    Leans s x ∧ (x == 0) = false := by
  have number : x.isNaN = false := by
    rw [isNaN_eq, infinite]
    rfl
  have above : 0 ≤ s.apply (rank (.infinity s)) := by cases s <;> decide
  refine ⟨⟨number, by rwa [infinite]⟩, Bool.eq_false_iff.2 fun zero => ?_⟩
  obtain ⟨t, none⟩ := (beq_zero_iff x).1 zero
  rw [infinite] at none
  cases none

/-- A product that is not zero and yet smaller than the smallest single. Values count units of this single, so
that a product of values counts units of its square. -/
def UnderflowingProduct (x y : Float32) : Prop :=
  0 < |value (unpacked x) * value (unpacked y)| ∧
    |value (unpacked x) * value (unpacked y)| < 2 ^ 149

/-- A quotient that is not zero and yet smaller than the smallest single. -/
def UnderflowingQuotient (x y : Float32) : Prop :=
  0 < |value (unpacked x)| ∧ |value (unpacked x)| * 2 ^ 149 < |value (unpacked y)|

/-- Only what is below one unit is rounded to none. -/
lemma abs_lt_of_nearestInt_eq_zero {t : Nat} {v : Int} (h : nearestInt t v = 0) : |v| < 2 ^ t := by
  have one : nearestInt t (1 * 2 ^ t) = 1 := by
    rw [nearestInt_scaled]
    exact nearestInt_of_held ⟨1, 0, by decide, rfl⟩
  rw [one_mul] at one
  rw [abs_lt]
  constructor
  · by_contra below
    have kept := nearestInt_mono t (not_lt.1 below)
    rw [nearestInt_neg, one, h] at kept
    omega
  · by_contra above
    have kept := nearestInt_mono t (not_lt.1 above)
    rw [one, h] at kept
    omega

lemma nearestInt_zero (t : Nat) : nearestInt t 0 = 0 := by
  rw [nearestInt, Int.sign_zero, Int.zero_mul]

lemma apply_nearestInt (s : Sign) (t : Nat) (v : Int) :
    s.apply (nearestInt t v) = nearestInt t (s.apply v) := by
  cases s with
  | positive => rfl
  | negative => exact (nearestInt_neg t v).symm

/-- Rounding does not turn a value round. -/
lemma apply_nearestInt_nonneg {s : Sign} {v : Int} (t : Nat) (h : 0 ≤ s.apply v) :
    0 ≤ s.apply (nearestInt t v) := by
  have kept := nearestInt_mono t h
  rwa [nearestInt_zero, ← apply_nearestInt] at kept

/-- What lies between two values that singles hold is rounded to what lies between them. -/
lemma nearestInt_between {s : Sign} {x y : Float32} {v : Int}
    (above : s.apply (value (unpacked x)) ≤ s.apply v) (below : s.apply v ≤ s.apply (value (unpacked y))) :
    s.apply (value (unpacked x)) ≤ s.apply (nearestInt 0 v) ∧
      s.apply (nearestInt 0 v) ≤ s.apply (value (unpacked y)) := by
  have low := nearestInt_mono 0 above
  have high := nearestInt_mono 0 below
  rw [← apply_nearestInt, ← apply_nearestInt] at low high
  rw [nearestInt_of_held (held_value x)] at low
  rw [nearestInt_of_held (held_value y)] at high
  exact ⟨low, high⟩

/-- What is packed leans to the side of its value, and it is zero only if the value is. -/
lemma Packs.leans {s : Sign} {z : Float32} {v : Int} (h : Packs z v) (side : 0 ≤ s.apply v) :
    Leans s z ∧ ((z == 0) = true → v = 0) := by
  have positive : 0 < overflow := by decide
  rw [Leans, beq_zero_iff_rank h.isNaN, h.rank_eq]
  refine ⟨⟨h.isNaN, ?_⟩, fun zero => by omega⟩
  cases s <;> simp only [Sign.apply] at side ⊢ <;> omega

/-- A difference that is not zero lies on the side where the first number is of the second one. -/
lemma exists_beyond_sub {x y : Float32} (finite_x : x.isFinite = true) (finite_y : y.isFinite = true)
    (some_difference : (x - y == 0) = false) : ∃ s, Beyond s y x ∧ Beyond s 0 (x - y) := by
  have packs := packs_sub finite_x finite_y
  obtain ⟨s, side⟩ := exists_beyond_zero packs.isNaN some_difference
  refine ⟨s, ?_, side⟩
  rw [beyond_iff, rank_of_finite finite_x, rank_of_finite finite_y]
  refine ⟨isNaN_of_finite finite_y, isNaN_of_finite finite_x, ?_⟩
  have above := (beyond_zero_iff_rank.1 side).2
  rw [packs.rank_eq] at above
  by_contra level
  have rounded : s.apply (nearestInt 0 (value (unpacked x) - value (unpacked y))) ≤ 0 := by
    rw [apply_nearestInt, ← nearestInt_zero 0]
    exact nearestInt_mono 0 (by cases s <;> simp only [Sign.apply] at level ⊢ <;> omega)
  have positive : 0 < overflow := by decide
  cases s <;> simp only [Sign.apply] at above rounded <;> omega

lemma value_pos {y : Float32} (finite : y.isFinite = true) (pos : 0 < y) : 0 < value (unpacked y) := by
  have above := (lt_iff_value isFinite_zero finite).1 pos
  rwa [value_zero] at above

lemma value_ne_zero {x : Float32} (finite : x.isFinite = true) (some_number : (x == 0) = false) :
    value (unpacked x) ≠ 0 := by
  rw [Ne, ← value_zero, ← beq_iff_value finite isFinite_zero, some_number]
  exact Bool.false_ne_true

lemma exists_finite {y : Float32} (finite : y.isFinite = true) (pos : 0 < y) :
    ∃ m e some_bit, unpacked y = .finite .positive m e some_bit := by
  have bears := bears_of_pos pos
  rw [isFinite_eq] at finite
  rw [lt_iff, unpacked_zero] at pos
  cases hy : unpacked y with
  | infinity | notANumber =>
    rw [hy] at finite
    cases finite
  | zero t =>
    rw [hy] at pos
    cases pos
  | finite t m e some_bit =>
    rw [hy] at bears
    obtain rfl := bears
    exact ⟨m, e, some_bit, rfl⟩

section

variable {s : Sign} {x y : Float32} (side : Leans s x) (finite : y.isFinite = true) (pos : 0 < y)
include side finite pos

/-- A positive factor keeps the side of a number, and loses the number only if the product underflows. -/
lemma leans_mul : Leans s (x * y) ∧
    ((x * y == 0) = true → (x == 0) = true ∨ UnderflowingProduct x y) := by
  have factor := value_pos finite pos
  by_cases finite_x : x.isFinite = true
  · have packs := packs_mul finite_x finite
    have product : 0 ≤ s.apply (value (unpacked x) * value (unpacked y)) := by
      have above := side.2
      rw [rank_of_finite finite_x] at above
      cases s with
      | positive => exact Int.mul_nonneg above factor.le
      | negative =>
        rw [Sign.apply, ← Int.neg_mul]
        exact Int.mul_nonneg above factor.le
    obtain ⟨leans, none⟩ := packs.leans (apply_nearestInt_nonneg 149 product)
    refine ⟨leans, fun zero => ?_⟩
    cases nothing : x == 0 with
    | true => exact .inl rfl
    | false =>
      have some_number := value_ne_zero finite_x nothing
      exact .inr ⟨abs_pos.2 (mul_ne_zero some_number factor.ne'),
        abs_lt_of_nearestInt_eq_zero (none zero)⟩
  · obtain ⟨t, infinite⟩ := exists_infinity side.1 finite_x
    obtain rfl := side.infinity infinite
    obtain ⟨m, e, some_bit, factor⟩ := exists_finite finite pos
    have product : unpacked (x * y) = .infinity t := by
      have sign : t * .positive = t := by cases t <;> rfl
      have known : UnpackedFloat.mul Format.binary32 (.infinity t) (.finite .positive m e some_bit) =
          .infinity (t * .positive) := rfl
      rw [unpacked_mul, infinite, factor, known, sign, repacked_infinity]
    obtain ⟨leans, some_number⟩ := leans_infinity product
    exact ⟨leans, fun zero => absurd (some_number.symm.trans zero) Bool.false_ne_true⟩

/-- A positive divisor keeps the side of a number, and loses the number only if the quotient underflows. -/
lemma leans_div : Leans s (x / y) ∧
    ((x / y == 0) = true → (x == 0) = true ∨ UnderflowingQuotient x y) := by
  have divisor := value_pos finite pos
  by_cases finite_x : x.isFinite = true
  · have packs := packs_div finite_x finite divisor.ne'
    have above := side.2
    rw [rank_of_finite finite_x] at above
    have quotient := apply_nearestQuotient_nonneg above divisor
    refine ⟨(packs.leans quotient).1, fun zero => ?_⟩
    cases nothing : x == 0 with
    | true => exact .inl rfl
    | false =>
      have some_number := value_ne_zero finite_x nothing
      exact .inr ⟨abs_pos.2 some_number, tiny_of_div_eq_zero finite_x finite divisor.ne' zero⟩
  · obtain ⟨t, infinite⟩ := exists_infinity side.1 finite_x
    obtain rfl := side.infinity infinite
    obtain ⟨m, e, some_bit, known⟩ := exists_finite finite pos
    have quotient : unpacked (x / y) = .infinity t := by
      have sign : t / .positive = t := by cases t <;> rfl
      have same : UnpackedFloat.div Format.binary32 (.infinity t) (.finite .positive m e some_bit) =
          .infinity (t / .positive) := rfl
      rw [unpacked_div, infinite, known, same, sign, repacked_infinity]
    obtain ⟨leans, some_number⟩ := leans_infinity quotient
    exact ⟨leans, fun zero => absurd (some_number.symm.trans zero) Bool.false_ne_true⟩

end

/-- An interval around zero keeps the side of a number, and never loses the number. -/
lemma leans_clamp {s : Sign} {x : Float32} (side : Leans s x) :
    Leans s (clamp (-1) 1 x) ∧ (clamp (-1) 1 x).isFinite = true ∧
      ((clamp (-1) 1 x == 0) = true → (x == 0) = true) := by
  have low : rank (unpacked (-1)) = -2 ^ 149 := by decide
  have high : rank (unpacked 1) = 2 ^ 149 := by decide
  have known : overflow = 2 ^ 24 * 2 ^ 253 := rfl
  obtain ⟨number, clamped⟩ := rank_clamp (by decide : (-1 : Float32).isNaN = false)
    (by decide : (1 : Float32).isNaN = false) side.1
  rw [low, high] at clamped
  have above := side.2
  rw [Leans, beq_zero_iff_rank number, beq_zero_iff_rank side.1]
  refine ⟨⟨number, ?_⟩, isFinite_of_rank number ?_, fun zero => by omega⟩
  · rw [clamped]
    cases s <;> simp only [Sign.apply] at above ⊢ <;> omega
  · rw [abs_lt]
    omega

/-- Two numbers on one side, both taken away, come to the other side, and to zero only if both are zero. -/
lemma leans_spin {s : Sign} {x y : Float32} (side_x : Leans s x) (side_y : Leans s y)
    (finite_x : x.isFinite = true) (finite_y : y.isFinite = true) :
    Leans (-s) (-x - y) ∧ ((-x - y == 0) = true → (x == 0) = true ∧ (y == 0) = true) := by
  have packs := packs_sub ((isFinite_neg x).trans finite_x) finite_y
  rw [unpacked_neg, value_neg, ← rank_of_finite finite_x, ← rank_of_finite finite_y] at packs
  have above_x := side_x.2
  have above_y := side_y.2
  rw [beq_zero_iff_rank side_x.1, beq_zero_iff_rank side_y.1]
  have spin : 0 ≤ (-s).apply (-rank (unpacked x) - rank (unpacked y)) := by
    rw [apply_neg]
    cases s <;> simp only [Sign.apply] at above_x above_y ⊢ <;> omega
  obtain ⟨leans, none⟩ := packs.leans (apply_nearestInt_nonneg 0 spin)
  refine ⟨leans, fun zero => ?_⟩
  have total := abs_lt_of_nearestInt_eq_zero (none zero)
  rw [abs_lt, pow_zero] at total
  cases s <;> simp only [Sign.apply] at above_x above_y <;> omega

end Single

end MatchRobot
