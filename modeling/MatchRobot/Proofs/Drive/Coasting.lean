import MatchRobot.Proofs.Drive.StandOff
import MatchRobot.Proofs.Number.Sides

/-!
# What the coast takes off a target

A robot rolls on after its motors have stopped, so a target in counts is shortened by its coast, but never by
more than half of it. The coast is a product of tunables and of a speed that nobody bounds. It may be infinite
or no number at all, and the smaller one of it and the half is a number even then.

What is left of a target is the difference of the two, to the nearest single
(`Motion.packs_coastCompensated`). If the half is exact it lies between two numbers that singles hold, and
rounding does not take it out of there (`Motion.coastCompensated_between`). If it is not, there is at
least something left (`Motion.coastCompensated_ne_zero`), so a drive that has somewhere to go sets off
(`StraightDrive.coast_never_cancels`).
-/

namespace MatchRobot

open Float.Model.UnpackedFloat (Sign)

namespace Motion

open Single

/-- The counts that a robot rolls on after its motors have stopped, at most half of its target. -/
def coast (config : DriveConfig) (t speed : Float32) : Float32 :=
  least (inchesToCounts config (speed * config.coastPerSpeed).abs) (t.abs / 2)

section

variable {config : DriveConfig} {t : Float32} {s : Sign} (side : Beyond s 0 t) (speed : Float32)
include side

/-- The coast is taken off the magnitude of a target. -/
lemma coastCompensated_eq : coastCompensated config t speed =
    match s with
    | .positive => t - coast config t speed
    | .negative => t + coast config t speed := by
  unfold coastCompensated
  cases s with
  | positive => exact if_pos side
  | negative => exact (if_neg (not_pos_of_bears (bears_of_neg side))).trans (if_pos side)

variable (finite : t.isFinite = true)
include finite

lemma value_side : 0 < s.apply (value (unpacked t)) := by
  rw [← rank_of_finite finite]
  exact (beyond_zero_iff_rank.1 side).2

/-- The half of a target is finite, and smaller than the target. -/
lemma half_of_target : (t.abs / 2).isFinite = true ∧ 0 ≤ value (unpacked (t.abs / 2)) ∧
    value (unpacked (t.abs / 2)) < s.apply (value (unpacked t)) := by
  have above := value_side side finite
  have magnitude : value (unpacked t.abs) = s.apply (value (unpacked t)) := by
    rw [unpacked_abs, value_abs, abs_eq_apply above.le]
  have finite_abs : t.abs.isFinite = true := (isFinite_abs t).trans finite
  have ahead : 0 < t.abs := by rwa [lt_iff_value isFinite_zero finite_abs, value_zero, magnitude]
  obtain ⟨finite_half, smaller⟩ := half_value finite_abs ahead
  have bears := bears_repacked (bears_div (bears_abs t) (bears_of_pos (by decide : (0 : Float32) < 2)))
  exact ⟨finite_half, value_nonneg bears, magnitude ▸ smaller⟩

/-- A finite coast is taken off the magnitude of a target, to the nearest single. -/
lemma packs_coastCompensated (finite_coast : (coast config t speed).isFinite = true) :
    Packs (coastCompensated config t speed)
      (nearestInt 0 (value (unpacked t) - s.apply (value (unpacked (coast config t speed))))) := by
  rw [coastCompensated_eq side]
  cases s with
  | positive => exact packs_sub finite finite_coast
  | negative =>
    rw [Sign.apply, sub_neg_eq_add]
    exact packs_add finite finite_coast

/-- Whatever the coast is, there is something left of a target. -/
lemma coastCompensated_ne_zero : (coastCompensated config t speed == 0) = false := by
  have above := value_side side finite
  obtain ⟨finite_half, -, smaller⟩ := half_of_target side finite
  obtain ⟨number, short⟩ : (coast config t speed).isNaN = false ∧
      rank (unpacked (coast config t speed)) ≤ rank (unpacked (t.abs / 2)) :=
    rank_least_le _ (isNaN_of_finite finite_half)
  rw [rank_of_finite finite_half] at short
  by_cases finite_coast : (coast config t speed).isFinite = true
  · have packs := packs_coastCompensated side speed finite finite_coast
    rw [rank_of_finite finite_coast] at short
    generalize value (unpacked (coast config t speed)) = c at *
    have left : 0 < s.apply (value (unpacked t) - s.apply c) := by
      cases s <;> simp only [Sign.apply] at above smaller ⊢ <;> omega
    refine Bool.eq_false_iff.2 fun zero => ?_
    have none := (packs.leans (apply_nearestInt_nonneg 0 left.le)).2 zero
    have few := abs_lt.1 (abs_lt_of_nearestInt_eq_zero none)
    rw [pow_zero] at few
    cases s <;> simp only [Sign.apply] at left few <;> omega
  · -- a finite target is nothing beside an infinite coast
    obtain ⟨u, infinite⟩ := exists_infinity number finite_coast
    have left : ∃ u, unpacked (coastCompensated config t speed) = .infinity u := by
      rw [coastCompensated_eq side]
      cases s with
      | positive =>
        have opposite : unpacked (-coast config t speed) = .infinity (-u) := by
          rw [unpacked_neg, infinite]
          rfl
        refine ⟨-u, ?_⟩
        rw [sub_eq]
        exact add_infinity opposite (isNaN_finite_add finite ((isNaN_neg _).trans number))
      | negative => exact ⟨u, add_infinity infinite (isNaN_finite_add finite number)⟩
    obtain ⟨u, left⟩ := left
    exact (leans_infinity left).2

lemma half_side {h : Float32} (half : IsHalf h t) : 0 < s.apply (value (unpacked h)) := by
  have above := value_side side finite
  rw [← half.double] at above
  cases s <;> simp only [Sign.apply] at above ⊢ <;> omega

/-- The coast leaves at least the half of a target, and no more than the target. -/
lemma coastCompensated_between (wheel : 0 < config.wheelDiameter) (encoder : 0 < config.countsPerRev)
    {h : Float32} (half : IsHalf h t) :
    (coastCompensated config t speed).isFinite = true ∧
      s.apply (value (unpacked h)) ≤ s.apply (value (unpacked (coastCompensated config t speed))) ∧
      s.apply (value (unpacked (coastCompensated config t speed))) ≤ s.apply (value (unpacked t)) := by
  have above := value_side side finite
  have half_above := half_side side finite half
  have double := half.double
  obtain ⟨finite_half, exact_half⟩ := half.abs.value_div_two ((isFinite_abs t).trans finite)
  have magnitude : value (unpacked (t.abs / 2)) = s.apply (value (unpacked h)) := by
    rw [exact_half, unpacked_abs, value_abs, abs_eq_apply half_above.le]
  have bears := bears_counts wheel encoder (bears_abs (speed * config.coastPerSpeed))
  obtain ⟨finite_coast, not_negative, short⟩ : (coast config t speed).isFinite = true ∧
      0 ≤ value (unpacked (coast config t speed)) ∧
      value (unpacked (coast config t speed)) ≤ value (unpacked (t.abs / 2)) :=
    least_of_lt bears finite_half (half_of_target side finite).2.1
  rw [magnitude] at short
  have packs := packs_coastCompensated side speed finite finite_coast
  generalize value (unpacked (coast config t speed)) = c at *
  -- the exact difference lies between the half and the target, which singles hold
  obtain ⟨low, high⟩ := nearestInt_between (s := s) (x := h) (y := t) (v := value (unpacked t) - s.apply c)
    (by cases s <;> simp only [Sign.apply] at * <;> omega)
    (by cases s <;> simp only [Sign.apply] at * <;> omega)
  have finite_left : (coastCompensated config t speed).isFinite = true := by
    rw [packs.isFinite_iff, abs_eq_apply (half_above.trans_le low).le]
    refine high.trans_lt ?_
    rw [← abs_eq_apply above.le]
    exact abs_value_lt t
  rw [packs.value_eq finite_left]
  exact ⟨finite_left, low, high⟩

end

end Motion

namespace StraightDrive

open Single

/-- The coast shortens a target whose half a single can hold, but neither to less than the half nor past zero.
Whatever the target, if it is finite and not zero it is not reached where a drive starts. -/
theorem coast_never_cancels (config : DriveConfig) (speed : Float32) :
    (0 < config.wheelDiameter → 0 < config.countsPerRev →
      ∀ t h : Float32, t.isFinite = true → (t == 0) = false → IsHalf h t →
        let left := Motion.coastCompensated config t speed
        (0 < t ↔ 0 < left) ∧ (t < 0 ↔ left < 0) ∧
          h.abs ≤ left.abs ∧ t.abs / 2 ≤ left.abs ∧ left.abs ≤ t.abs) ∧
    ∀ (goal : StraightGoal) (timeout now : Micros) (s : StraightDrive) (t : Float32),
      start config speed goal timeout now = .ok s → goalCounts config goal = some t →
      t.isFinite = true → (t == 0) = false →
        s.isReached 0 = false ∧ ∀ time heading, time < s.deadline →
          ∃ w, s.step config time true 0 heading = .drive w := by
  constructor
  · intro wheel encoder t h finite some_target half left
    obtain ⟨s, side⟩ := exists_beyond_zero (isNaN_of_finite finite) some_target
    obtain ⟨finite_left, low, high⟩ :=
      Motion.coastCompensated_between side speed finite wheel encoder half
    have ahead := Motion.value_side side finite
    have half_ahead := Motion.half_side side finite half
    have left_ahead := half_ahead.trans_le low
    obtain ⟨finite_half, exact_half⟩ := half.abs.value_div_two ((isFinite_abs t).trans finite)
    have finite_abs : ∀ {x : Float32}, x.isFinite = true → x.abs.isFinite = true :=
      fun finite => (isFinite_abs _).trans finite
    rw [lt_iff_value isFinite_zero finite, lt_iff_value isFinite_zero finite_left,
      lt_iff_value finite isFinite_zero, lt_iff_value finite_left isFinite_zero, value_zero,
      le_iff_value (finite_abs half.finite) (finite_abs finite_left),
      le_iff_value finite_half (finite_abs finite_left), exact_half,
      le_iff_value (finite_abs finite_left) (finite_abs finite)]
    simp only [unpacked_abs, value_abs, abs_eq_apply left_ahead.le, abs_eq_apply half_ahead.le,
      abs_eq_apply ahead.le]
    refine ⟨?_, ?_, low, low, high⟩
    · cases s <;> simp only [Sign.apply] at ahead left_ahead <;> omega
    · cases s <;> simp only [Sign.apply] at ahead left_ahead <;> omega
  · intro goal timeout now s t started goal_counts finite some_target
    obtain ⟨-, -, target⟩ := start_eq_ok started
    rw [goal_counts] at target
    obtain ⟨u, side⟩ := exists_beyond_zero (isNaN_of_finite finite) some_target
    have under_way : s.isReached 0 = false := by
      rw [isReached_zero target]
      exact Motion.coastCompensated_ne_zero side speed finite
    refine ⟨under_way, fun time heading early => ?_⟩
    exact ⟨_, (step_eq_drive_iff s ..).2 ⟨rfl, early, under_way, rfl⟩⟩

/-- A drive two feet backwards at half speed, on a robot that coasts four inches at full speed. -/
theorem coast_of_two_feet :
    let config : DriveConfig := { coastPerSpeed := 4 }
    let t := Motion.inchesToCounts config (-24)
    let left := Motion.coastCompensated config t (-0.5)
    (0 < config.wheelDiameter ∧ 0 < config.countsPerRev ∧ t.isFinite = true ∧ (t == 0) = false ∧
      IsHalf (t / 2) t) ∧
    ((0 < t ↔ 0 < left) ∧ (t < 0 ↔ left < 0) ∧
      (t / 2).abs ≤ left.abs ∧ t.abs / 2 ≤ left.abs ∧ left.abs ≤ t.abs) ∧
    ∃ s, start config (-0.5) (.distance (-24)) (3 * Clock.second) 0 = .ok s ∧
      goalCounts config (.distance (-24)) = some t ∧
      s.isReached 0 = false ∧ ∀ time heading, time < s.deadline →
        ∃ w, s.step config time true 0 heading = .drive w := by
  intro config t left
  have wheel : 0 < config.wheelDiameter := by decide
  have encoder : 0 < config.countsPerRev := by decide
  have finite : t.isFinite = true := by decide +kernel
  have some_target : (t == 0) = false := by decide +kernel
  have half : IsHalf (t / 2) t := ⟨by decide +kernel, by decide +kernel⟩
  obtain ⟨shorter, sets_off⟩ := coast_never_cancels config (-0.5)
  obtain ⟨s, started⟩ : ∃ s, start config (-0.5) (.distance (-24)) (3 * Clock.second) 0 = .ok s := ⟨_, rfl⟩
  refine ⟨⟨wheel, encoder, finite, some_target, half⟩, ?_, s, started, rfl, ?_⟩
  · exact shorter wheel encoder t (t / 2) finite some_target half
  · exact sets_off (.distance (-24)) (3 * Clock.second) 0 s t started rfl finite some_target

end StraightDrive

end MatchRobot
