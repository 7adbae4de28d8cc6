import MatchRobot.Drive.Steering
import MatchRobot.Proofs.Number.Order

/-!
# The accumulators of the steering filter

The filter has two accumulators that move one unit toward zero in an update. The quick stop is charged
towards full rotation and stays within five units by that. The other one takes in four times every change of
the steering. There is no end to these changes, so its bound cannot be seen from one update alone: what an
update keeps is that the accumulator is within four units of four times the steering (`Steering.Tame`). A
change takes in as much as the target moves, and the unit that is lost makes up for the rounding.

An accumulator that nothing is added to is empty after as many updates as it had units (`Steering.Bled`).
None of this depends on how the steering is remapped before it is mixed, as long as the remap makes no `NaN`.
-/

namespace MatchRobot

open Single

namespace Steering

/-! ## Units -/

/-- The value of one, which is what an accumulator loses in an update. -/
def unit : Int :=
  2 ^ 149

lemma value_one : value (unpacked 1) = unit := by
  decide

lemma nearest_units {n : Nat} (short : n < 2 ^ 24) : nearestInt 0 (n * unit) = n * unit := by
  refine nearestInt_of_held ⟨n, 149, short, ?_⟩
  rw [Int.natAbs_mul, Int.natAbs_natCast]
  rfl

lemma nearest_none : nearestInt 0 0 = 0 :=
  nearest_units (n := 0) (by decide)

/-- A number that has some units at most, on either side of zero. -/
structure Within (n : Nat) (x : Float32) : Prop where
  finite : x.isFinite = true
  units : |value (unpacked x)| ≤ n * unit

lemma within_zero (n : Nat) : Within n 0 := by
  refine ⟨isFinite_zero, ?_⟩
  rw [value_zero, abs_zero]
  exact Int.mul_nonneg (Int.natCast_nonneg n) (by decide)

lemma within_iff_between {n : Nat} {x bound : Float32} (finite : bound.isFinite = true)
    (known : value (unpacked bound) = n * unit) : Within n x ↔ -bound ≤ x ∧ x ≤ bound := by
  have finite' : (-bound).isFinite = true := (isFinite_neg bound).trans finite
  have known' : value (unpacked (-bound)) = -(n * unit) := by rw [unpacked_neg, value_neg, known]
  constructor
  · rintro ⟨finite_x, units⟩
    rw [le_iff_value finite' finite_x, le_iff_value finite_x finite, known, known']
    exact abs_le.1 units
  · rintro ⟨above, below⟩
    have finite_x := isFinite_of_between above below finite' finite
    rw [le_iff_value finite' finite_x, known'] at above
    rw [le_iff_value finite_x finite, known] at below
    exact ⟨finite_x, abs_le.2 ⟨above, below⟩⟩

lemma within_one_iff {x : Float32} : Within 1 x ↔ -1 ≤ x ∧ x ≤ 1 :=
  within_iff_between (by decide) (by decide)

lemma within_five_iff {x : Float32} : Within 5 x ↔ -5 ≤ x ∧ x ≤ 5 :=
  within_iff_between (by decide) (by decide)

/-- The magnitude of a number tells how many units it has. -/
lemma Within.magnitude_le {n : Nat} {x bound : Float32} (h : Within n x) (finite : bound.isFinite = true)
    (known : value (unpacked bound) = n * unit) : x.abs ≤ bound := by
  rw [abs_le_iff_value h.finite finite, known]
  exact abs_le.1 h.units

/-! ## Decay -/

section

variable {x : Float32} (finite : x.isFinite = true)
include finite

/-- A decay takes one unit off, on either side of zero, or all there is. -/
lemma decay_cases :
    (unit < value (unpacked x) ∧ Packs (decay x) (nearestInt 0 (value (unpacked x) - unit))) ∨
    (value (unpacked x) < -unit ∧ Packs (decay x) (nearestInt 0 (value (unpacked x) + unit))) ∨
    (|value (unpacked x)| ≤ unit ∧ decay x = 0) := by
  have one : (1 : Float32).isFinite = true := by decide
  have neg_one : (-1 : Float32).isFinite = true := by decide
  have value_neg_one : value (unpacked (-1)) = -unit := by decide
  have less := packs_sub finite one
  have more := packs_add finite one
  rw [value_one] at less more
  unfold decay
  split
  · next above =>
    rw [gt_iff_lt, lt_iff_value one finite, value_one] at above
    exact .inl ⟨above, less⟩
  · next low =>
    rw [gt_iff_lt, lt_iff_value one finite, value_one] at low
    split
    · next below =>
      rw [lt_iff_value finite neg_one, value_neg_one] at below
      exact .inr (.inl ⟨below, more⟩)
    · next high =>
      rw [lt_iff_value finite neg_one, value_neg_one] at high
      exact .inr (.inr ⟨abs_le.2 ⟨not_lt.1 high, not_lt.1 low⟩, rfl⟩)

/-- What is hardly more than four units away from a target within four units is no more than four units away
from it after a decay. -/
lemma decay_near {c : Int} (target : |c| ≤ 4 * unit)
    (near : |value (unpacked x) - c| ≤ 4 * unit + 2 ^ 130) :
    (decay x).isFinite = true ∧ |value (unpacked (decay x)) - c| ≤ 4 * unit := by
  have known : unit = 2 ^ 149 := rfl
  rw [abs_le] at target near
  rcases decay_cases finite with ⟨above, less⟩ | ⟨below, more⟩ | ⟨-, zero⟩
  · have low : nearestInt 0 0 ≤ nearestInt 0 (value (unpacked x) - unit) :=
      nearestInt_mono 0 (by omega)
    obtain ⟨finite', error⟩ := less.close_sum 130 (by rw [abs_lt]; omega) (by decide)
    rw [nearest_none, ← less.value_eq finite'] at low
    refine ⟨finite', ?_⟩
    rw [abs_le] at error ⊢
    omega
  · have high : nearestInt 0 (value (unpacked x) + unit) ≤ nearestInt 0 0 :=
      nearestInt_mono 0 (by omega)
    obtain ⟨finite', error⟩ := more.close_sum 130 (by rw [abs_lt]; omega) (by decide)
    rw [nearest_none, ← more.value_eq finite'] at high
    refine ⟨finite', ?_⟩
    rw [abs_le] at error ⊢
    omega
  · rw [zero, value_zero, zero_sub, abs_neg, abs_le]
    exact ⟨isFinite_zero, target⟩

end

/-- What has at most some units has one less after a decay, and nothing if it had no more than one. -/
lemma Within.decay {n : Nat} {x : Float32} (h : Within (n + 1) x) (short : n < 2 ^ 24) :
    Within n (decay x) ∧ (n = 0 → Steering.decay x = 0) := by
  have positive : 0 < unit := by decide
  have whole := nearest_units short
  have fits : n * unit < overflow := by
    calc n * unit < 2 ^ 24 * unit := by
          refine Int.mul_lt_mul_of_pos_right ?_ positive
          exact_mod_cast short
      _ ≤ overflow := by decide
  have units := abs_le.1 h.units
  rw [Nat.cast_succ, add_one_mul] at units
  rcases decay_cases h.finite with ⟨above, less⟩ | ⟨below, more⟩ | ⟨-, zero⟩
  · have low : nearestInt 0 0 ≤ nearestInt 0 (value (unpacked x) - unit) :=
      nearestInt_mono 0 (by omega)
    have high : nearestInt 0 (value (unpacked x) - unit) ≤ nearestInt 0 (n * unit) :=
      nearestInt_mono 0 (by omega)
    rw [nearest_none] at low
    rw [whole] at high
    have finite := less.isFinite_iff.2 ((abs_of_nonneg low).trans_lt (high.trans_lt fits))
    refine ⟨⟨finite, ?_⟩, ?_⟩
    · rwa [less.value_eq finite, abs_of_nonneg low]
    · rintro rfl
      omega
  · have high : nearestInt 0 (value (unpacked x) + unit) ≤ nearestInt 0 0 :=
      nearestInt_mono 0 (by omega)
    have low : nearestInt 0 (-(n * unit)) ≤ nearestInt 0 (value (unpacked x) + unit) :=
      nearestInt_mono 0 (by omega)
    rw [nearest_none] at high
    rw [nearestInt_neg, whole] at low
    have finite := more.isFinite_iff.2 ((abs_of_nonpos high).trans_lt (by omega))
    refine ⟨⟨finite, ?_⟩, ?_⟩
    · rw [more.value_eq finite, abs_of_nonpos high]
      omega
    · rintro rfl
      omega
  · rw [zero]
    exact ⟨within_zero n, fun _ => rfl⟩

/-! ## What a change of the steering takes in -/

/-- The accumulator after a change of the steering, before it decays. -/
def inertia (s : Steering) (steering : Float32) : Float32 :=
  s.negInertia + (steering - s.previous) * negInertiaScalar

lemma packs_mul_four {x : Float32} (finite : x.isFinite = true) :
    Packs (x * negInertiaScalar) (nearestInt 0 (4 * value (unpacked x))) := by
  have product := packs_mul finite (by decide : negInertiaScalar.isFinite = true)
  have scaled : value (unpacked x) * value (unpacked negInertiaScalar) =
      4 * value (unpacked x) * 2 ^ 149 := by
    have four : value (unpacked negInertiaScalar) = 4 * 2 ^ 149 := by decide
    rw [four]
    ring
  rwa [scaled, nearestInt_scaled] at product

/-- A change of the steering moves the accumulator by four times as much, but for rounding. -/
lemma inertia_near {s : Steering} {steering : Float32} (range : Within 1 steering)
    (previous : Within 1 s.previous) (finite : s.negInertia.isFinite = true)
    (near : |value (unpacked s.negInertia) - 4 * value (unpacked s.previous)| ≤ 4 * unit) :
    (s.inertia steering).isFinite = true ∧
      |value (unpacked (s.inertia steering)) - 4 * value (unpacked steering)| ≤
        4 * unit + 2 ^ 130 := by
  have known : unit = 2 ^ 149 := rfl
  have bounds := abs_le.1 range.units
  have bounds' := abs_le.1 previous.units
  rw [abs_le] at near
  obtain ⟨finite_change, change⟩ :=
    (packs_sub range.finite previous.finite).close_sum 126 (by rw [abs_lt]; omega) (by decide)
  rw [abs_le] at change
  obtain ⟨finite_product, product⟩ :=
    (packs_mul_four finite_change).close_sum 128 (by rw [abs_lt]; omega) (by decide)
  rw [abs_le] at product
  obtain ⟨finite_sum, sum⟩ :=
    (packs_add finite finite_product).close_sum 129 (by rw [abs_lt]; omega) (by decide)
  refine ⟨finite_sum, ?_⟩
  rw [abs_le] at sum ⊢
  unfold inertia
  omega

lemma value_of_packs_zero {z : Float32} (h : Packs z 0) :
    z.isFinite = true ∧ value (unpacked z) = 0 := by
  have finite : z.isFinite = true := h.isFinite_iff.2 (by decide)
  exact ⟨finite, h.value_eq finite⟩

/-- Steering that stays as it was adds nothing. -/
lemma inertia_of_same {s : Steering} {n : Nat} (steering : s.previous.isFinite = true)
    (h : Within n s.negInertia) : Within n (s.inertia s.previous) := by
  have change := packs_sub steering steering
  rw [sub_self, nearest_none] at change
  obtain ⟨finite_change, change⟩ := value_of_packs_zero change
  have product := packs_mul_four finite_change
  rw [change, mul_zero, nearest_none] at product
  obtain ⟨finite_product, product⟩ := value_of_packs_zero product
  have sum := packs_add h.finite finite_product
  rw [product, add_zero, nearestInt_of_held (held_value _)] at sum
  have finite_sum := sum.isFinite_iff.2 (abs_value_lt _)
  refine ⟨finite_sum, ?_⟩
  rw [inertia, sum.value_eq finite_sum]
  exact h.units

/-! ## What a quickturn charges -/

/-- A share of the quick stop and a share of full rotation come to no more than five units. -/
lemma Within.charge {quickStop throttle steer : Float32} (h : Within 5 quickStop)
    (number : steer.isNaN = false) : Within 5 (charge quickStop throttle steer) := by
  unfold Steering.charge
  split
  · obtain ⟨above, below⟩ := within_five_iff.1 h
    obtain ⟨left, right⟩ : -1 ≤ clamp (-1) 1 steer ∧ clamp (-1) 1 steer ≤ 1 :=
      clamp_between (by decide) (by decide) number (by decide)
    obtain ⟨old_above, old_below⟩ := factor_between (c := 1 - quickStopWeight) above below (by decide)
      (by decide) (by decide +kernel) (by decide +kernel) (by decide +kernel) (by decide +kernel)
    obtain ⟨share_above, share_below⟩ := factor_between (c := quickStopWeight) left right (by decide)
      (by decide) (by decide +kernel) (by decide +kernel) (by decide +kernel) (by decide +kernel)
    obtain ⟨new_above, new_below⟩ := mul_between (c := quickStopScalar) share_above share_below
      (by decide +kernel) (by decide +kernel) (by decide +kernel) (by decide +kernel)
      (by decide +kernel) (by decide +kernel)
    obtain ⟨sum_above, sum_below⟩ := add_between old_above old_below (by decide +kernel)
      (by decide +kernel) new_above new_below (by decide +kernel) (by decide +kernel)
      (by decide +kernel) (by decide +kernel)
    exact within_five_iff.2
      ⟨le_trans_of_le (by decide +kernel) sum_above, le_trans_of_le sum_below (by decide +kernel)⟩
  · exact h

/-! ## One update -/

/-- What is left of a stick: it is limited to its range, and nothing if it is hardly moved. -/
def stick (x : Float32) : Float32 :=
  quiet (clamp (-1) 1 x)

lemma within_stick {x : Float32} (number : x.isNaN = false) : Within 1 (stick x) := by
  unfold stick quiet
  split
  · exact within_zero 1
  · exact within_one_iff.2 (clamp_between (by decide) (by decide) number (by decide))

/-- Numbers that compare equal leave the same of a stick. -/
lemma stick_congr {x y : Float32} (h : (x == y) = true) : stick x = stick y := by
  have of_zero : ∀ z : Float32, (∃ s, unpacked z = .zero s) → stick z = stick 0 := by
    intro z zero
    rcases eq_zero_or_eq_neg_zero zero with rfl | rfl
    · rfl
    · decide +kernel
  rcases eq_or_zeros_of_beq h with rfl | ⟨zero, zero'⟩
  · rfl
  · rw [of_zero x zero, of_zero y zero']

/-- What one update is given. -/
structure Sample where
  goal : DriveGoal
  position : DrivePosition

/-- Sticks that stand somewhere, and a battery that has a voltage. -/
structure Sample.Sound (i : Sample) : Prop where
  steering : i.goal.steering.isNaN = false
  throttle : i.goal.throttle.isNaN = false
  battery : 0 ≤ i.position.battery

/-- What an update makes of the memory that it mixes from. -/
structure Moves (curve : Float32 → Float32) (s : Steering) (goal : DriveGoal) (s' : Steering) :
    Prop where
  previous : s'.previous = stick goal.steering
  negInertia : s'.negInertia = decay (s.inertia (stick goal.steering))
  quickStop : s'.quickStop =
    if goal.quickturn then
      charge s.quickStop (stick goal.throttle)
        (curve (stick goal.steering) + s.inertia (stick goal.steering))
    else decay s.quickStop

lemma moves_mix (curve : Float32 → Float32) (s : Steering) (goal : DriveGoal) :
    Moves curve s goal (s.mix curve goal).1 := by
  cases turns : goal.quickturn with
  | true =>
    refine ⟨?_, ?_, ?_⟩ <;> simp only [mix, turns] <;> rfl
  | false =>
    refine ⟨?_, ?_, ?_⟩ <;> simp only [mix, turns] <;> rfl

/-- Every update with a sound voltage comes to an end. -/
lemma exists_updateBy (curve : Float32 → Float32) (s : Steering) {i : Sample} (sound : i.Sound) :
    ∃ o s', s.updateBy curve i.goal i.position = .ok (o, s') ∧ Moves curve s i.goal s' := by
  have volts : clampable (-i.position.battery) i.position.battery = true :=
    (clampable_neg_iff _).2 ⟨isNaN_of_ge sound.battery, not_lt_of_le sound.battery⟩
  have moves := moves_mix curve s i.goal
  simp only [updateBy, volts, if_true]
  exact ⟨_, _, rfl, moves.previous, moves.negInertia, moves.quickStop⟩

/-! ## What every update keeps -/

/-- A memory within its bounds: the accumulator of the changes keeps close to four times the steering. -/
structure Tame (s : Steering) : Prop where
  previous : Within 1 s.previous
  finite : s.negInertia.isFinite = true
  near : |value (unpacked s.negInertia) - 4 * value (unpacked s.previous)| ≤ 4 * unit
  quickStop : Within 5 s.quickStop

lemma tame_fresh : Tame {} :=
  ⟨within_zero 1, isFinite_zero, by decide +kernel, within_zero 5⟩

/-- The accumulator of the changes has eight units at most. -/
lemma Tame.negInertia {s : Steering} (tame : Tame s) : Within 8 s.negInertia := by
  have near := abs_le.1 tame.near
  have bounds := abs_le.1 tame.previous.units
  refine ⟨tame.finite, ?_⟩
  rw [abs_le]
  omega

/-- The steering is remapped to numbers. -/
def Numeric (curve : Float32 → Float32) : Prop :=
  ∀ x, -1 ≤ x → x ≤ 1 → (curve x).isNaN = false

variable {curve : Float32 → Float32} {s s' : Steering} {goal : DriveGoal}

/-- One update keeps a memory within its bounds. -/
lemma Tame.of_moves (tame : Tame s) (numeric : Numeric curve)
    (steering : goal.steering.isNaN = false) (moves : Moves curve s goal s') : Tame s' := by
  have range := within_stick steering
  have bounds := abs_le.1 range.units
  obtain ⟨finite, near⟩ := inertia_near range tame.previous tame.finite tame.near
  obtain ⟨finite', near'⟩ := decay_near finite (by rw [abs_le]; omega) near
  refine ⟨?_, ?_, ?_, ?_⟩
  · rwa [moves.previous]
  · rwa [moves.negInertia]
  · rwa [moves.negInertia, moves.previous]
  · rw [moves.quickStop]
    split
    · obtain ⟨above, below⟩ := within_one_iff.1 range
      exact tame.quickStop.charge (isNaN_add finite (numeric _ above below))
    · obtain ⟨⟨finite_less, less⟩, -⟩ := Within.decay (n := 4) tame.quickStop (by decide)
      have positive : 0 < unit := by decide
      exact ⟨finite_less, less.trans (by omega)⟩

/-! ## What updates empty -/

/-- An accumulator that had some units and lost one of them in each of `n` updates. -/
structure Bled (units n : Nat) (x : Float32) : Prop where
  left : Within (units - n) x
  empty : 0 < n → units ≤ n → x = 0

lemma Within.bled {n : Nat} {x : Float32} (h : Within n x) : Bled n 0 x :=
  ⟨h, fun pos => absurd pos (Nat.lt_irrefl 0)⟩

lemma Bled.decay {units n : Nat} {x : Float32} (h : Within (units - n) x) (short : units < 2 ^ 24) :
    Bled units (n + 1) (decay x) := by
  have positive : 0 < unit := by decide
  have more : Within (units - (n + 1) + 1) x := by
    refine ⟨h.finite, h.units.trans (Int.mul_le_mul_of_nonneg_right ?_ positive.le)⟩
    omega
  obtain ⟨left, empty⟩ := more.decay (by omega)
  exact ⟨left, fun _ enough => empty (by omega)⟩

/-- Steering that stays as it was lets the accumulator of the changes bleed. -/
lemma Bled.negInertia {n : Nat} (h : Bled 8 n s.negInertia) (number : goal.steering.isNaN = false)
    (same : s.previous = stick goal.steering) (moves : Moves curve s goal s') :
    Bled 8 (n + 1) s'.negInertia := by
  have range := within_stick number
  rw [← same] at range
  rw [moves.negInertia, ← same]
  exact Bled.decay (inertia_of_same range.finite h.left) (by decide)

/-- Without a quickturn the quick stop bleeds. -/
lemma Bled.quickStop {n : Nat} (h : Bled 5 n s.quickStop) (turns : goal.quickturn = false)
    (moves : Moves curve s goal s') : Bled 5 (n + 1) s'.quickStop := by
  rw [moves.quickStop, turns]
  exact Bled.decay h.left (by decide)

/-! ## Any number of updates -/

/-- One update after the other. -/
def updates (curve : Float32 → Float32) : Steering → List Sample → Except Fault Steering
  | s, [] => .ok s
  | s, i :: more => do
    let (_, s) ← s.updateBy curve i.goal i.position
    updates curve s more

lemma updates_append (s : Steering) (first second : List Sample) :
    updates curve s (first ++ second) =
      (updates curve s first >>= fun s => updates curve s second) := by
  induction first generalizing s with
  | nil => rfl
  | cons i first ih =>
    rw [List.cons_append, updates, updates]
    cases s.updateBy curve i.goal i.position with
    | error => rfl
    | ok o => exact ih o.2

/-- What every update takes one step further is as many steps further after a number of updates. -/
lemma exists_updates {P : Nat → Steering → Prop} {samples : List Sample}
    (sound : ∀ i ∈ samples, i.Sound)
    (step : ∀ n s s', ∀ i ∈ samples, P n s → Moves curve s i.goal s' → P (n + 1) s')
    {n : Nat} (start : P n s) :
    ∃ s', updates curve s samples = .ok s' ∧ P (n + samples.length) s' := by
  induction samples generalizing s n with
  | nil => exact ⟨s, rfl, start⟩
  | cons i samples ih =>
    obtain ⟨o, s₁, updated, moves⟩ := exists_updateBy curve s (sound i List.mem_cons_self)
    obtain ⟨s₂, rest, last⟩ := ih (fun j among => sound j (List.mem_cons_of_mem i among))
      (fun n s s' j among => step n s s' j (List.mem_cons_of_mem i among))
      (step n s s₁ i List.mem_cons_self start moves)
    refine ⟨s₂, ?_, ?_⟩
    · rw [updates, updated]
      exact rest
    · rwa [List.length_cons, Nat.add_comm samples.length, ← Nat.add_assoc]

section

variable {samples : List Sample} (sound : ∀ i ∈ samples, i.Sound)
include sound

lemma Tame.updates (tame : Tame s) (numeric : Numeric curve) :
    ∃ s', updates curve s samples = .ok s' ∧ Tame s' :=
  exists_updates (P := fun _ => Tame) (n := 0) sound
    (fun _ _ _ i among tame => tame.of_moves numeric (sound i among).steering) tame

/-- As many updates without a quickturn as the quick stop had units empty it. -/
lemma Tame.quickStop_empty (tame : Tame s) (straight : ∀ i ∈ samples, i.goal.quickturn = false)
    (enough : 5 ≤ samples.length) :
    ∃ s', Steering.updates curve s samples = .ok s' ∧ s'.quickStop = 0 := by
  obtain ⟨s', updated, bled⟩ := exists_updates (P := fun n s => Bled 5 n s.quickStop) sound
    (fun _ _ _ i among bled => bled.quickStop (straight i among)) tame.quickStop.bled
  exact ⟨s', updated, bled.empty (by omega) (by omega)⟩

/-- The first update of those with the same steering may take in a change; as many more as there are units
empty the accumulator of the changes. -/
lemma Tame.negInertia_empty (tame : Tame s) (numeric : Numeric curve) {x : Float32}
    (same : ∀ i ∈ samples, (i.goal.steering == x) = true) (enough : 9 ≤ samples.length) :
    ∃ s', Steering.updates curve s samples = .ok s' ∧ s'.negInertia = 0 := by
  have steady : ∀ i ∈ samples, stick i.goal.steering = stick x :=
    fun i among => stick_congr (same i among)
  cases samples with
  | nil => cases enough
  | cons i samples =>
    obtain ⟨o, s₁, updated, moves⟩ := exists_updateBy curve s (sound i List.mem_cons_self)
    have tame₁ := tame.of_moves numeric (sound i List.mem_cons_self).steering moves
    have previous : s₁.previous = stick x := moves.previous.trans (steady i List.mem_cons_self)
    obtain ⟨s₂, rest, -, bled⟩ : ∃ s₂, Steering.updates curve s₁ samples = .ok s₂ ∧
        s₂.previous = stick x ∧ Bled 8 (0 + samples.length) s₂.negInertia := exists_updates
      (P := fun n s => s.previous = stick x ∧ Bled 8 n s.negInertia)
      (fun j among => sound j (List.mem_cons_of_mem i among))
      (fun n s s' j among kept moves => by
        have aimed := steady j (List.mem_cons_of_mem i among)
        have number := (sound j (List.mem_cons_of_mem i among)).steering
        exact ⟨moves.previous.trans aimed,
          kept.2.negInertia number (kept.1.trans aimed.symm) moves⟩)
      ⟨previous, tame₁.negInertia.bled⟩
    rw [List.length_cons] at enough
    refine ⟨s₂, ?_, bled.empty (by omega) (by omega)⟩
    rw [Steering.updates, updated]
    exact rest

end

/-- The accumulators of a filter that is used from its beginning, after any number of updates with sticks that
stand somewhere and voltages that are not negative. None of these updates faults. The accumulator of the
changes stays within eight units and the quick stop within five. After nine updates with the same steering the
one is empty, and after five without a quickturn the other one. The remap of the steering is any that makes no
`NaN`; the updates of the filter are those with its sine remap. -/
theorem accumulators_of_updates (numeric : Numeric curve) {samples : List Sample}
    (sound : ∀ i ∈ samples, i.Sound) :
    (∃ s, updates curve {} samples = .ok s ∧ s.negInertia.abs ≤ 8 ∧ s.quickStop.abs ≤ 5 ∧
      (∀ earlier last x, samples = earlier ++ last → 9 ≤ last.length →
        (∀ i ∈ last, (i.goal.steering == x) = true) → s.negInertia = 0) ∧
      (∀ earlier last, samples = earlier ++ last → 5 ≤ last.length →
        (∀ i ∈ last, i.goal.quickturn = false) → s.quickStop = 0)) ∧
    update = fun s => s.updateBy remap := by
  refine ⟨?_, rfl⟩
  obtain ⟨s, updated, tame⟩ := tame_fresh.updates sound numeric
  refine ⟨s, updated, tame.negInertia.magnitude_le (by decide) (by decide),
    tame.quickStop.magnitude_le (by decide) (by decide), ?_, ?_⟩
  · rintro earlier last x rfl enough same
    obtain ⟨s₁, updated₁, tame₁⟩ := tame_fresh.updates
      (fun i among => sound i (List.mem_append_left last among)) numeric
    obtain ⟨s₂, updated₂, empty⟩ := tame₁.negInertia_empty
      (fun i among => sound i (List.mem_append_right earlier among)) numeric same enough
    rw [updates_append, updated₁] at updated
    cases updated.symm.trans updated₂
    exact empty
  · rintro earlier last rfl enough straight
    obtain ⟨s₁, updated₁, tame₁⟩ := tame_fresh.updates
      (fun i among => sound i (List.mem_append_left last among)) numeric
    obtain ⟨s₂, updated₂, empty⟩ : ∃ s₂, updates curve s₁ last = .ok s₂ ∧ s₂.quickStop = 0 :=
      tame₁.quickStop_empty (fun i among => sound i (List.mem_append_right earlier among)) straight enough
    rw [updates_append, updated₁] at updated
    cases updated.symm.trans updated₂
    exact empty

/-- After a quickturn to the left, nine updates of steady steering to the right leave nothing. -/
theorem steady_updates_empty_both :
    let turn : Sample := ⟨{ steering := -1, quickturn := true }, {}⟩
    let straight : Sample := ⟨{ steering := 1, throttle := 0.5 }, {}⟩
    ∃ s, updates id {} (turn :: List.replicate 9 straight) = .ok s ∧
      s.negInertia = 0 ∧ s.quickStop = 0 := by
  intro turn straight
  have sound : ∀ i ∈ turn :: List.replicate 9 straight, i.Sound := by
    intro i among
    rcases List.mem_cons.1 among with rfl | among
    · exact ⟨by decide, by decide, by decide⟩
    · obtain rfl := List.eq_of_mem_replicate among
      exact ⟨by decide, by decide, by decide⟩
  have steady : ∀ i ∈ List.replicate 9 straight, i = straight :=
    fun i among => List.eq_of_mem_replicate among
  have numeric : Numeric id := fun x above _ => isNaN_of_ge above
  obtain ⟨⟨s, updated, -, -, slow, stop⟩, -⟩ := accumulators_of_updates numeric sound
  refine ⟨s, updated, slow [turn] (List.replicate 9 straight) 1 rfl (by decide) ?_,
    stop [turn] (List.replicate 9 straight) rfl (by decide) ?_⟩
  · intro i among
    rw [steady i among]
    decide
  · intro i among
    rw [steady i among]

end Steering

end MatchRobot
