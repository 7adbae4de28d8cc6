import MatchRobot.Proofs.Device.PulseWrites
import MatchRobot.Proofs.Number.Order

/-!
# Duty cycles of pulses

An output becomes a pulse, and a pulse becomes ticks of its channel, its share of the period. The first
step is arithmetic on singles, with a word cut off at its end; the second is a product of words and two
divisions of them. Whatever number an output is, limited to full output it has a pulse between a
millisecond and two, and a larger output has no shorter one (`PulseMotor.pulse_mono`). The product with
the ticks of the channel then fits a word of 32 bits, and up to a million pulses per second the period is
some number of microseconds, so nothing overflows and no divisor is zero.

`PulseMotor.limit`, `PulseMotor.microseconds` and `PulseMotor.share` say what is to be written, with numbers
of their own. What a motor writes is that (`PulseMotor.duty_in_order`). It keeps the order of the outputs, or
reverses it for a motor that is turned around. Ends are reached: an output beyond full output has the pulse of
full output.
-/

namespace MatchRobot

open Single

namespace PulseMotor

/-! ## Pulses -/

/-- The width of the pulse for an output, in microseconds, before the fraction is cut off. -/
def width (x : Float32) : Float32 :=
  neutralPulse + x * pulseSpan

section

variable {x y low high : Float32} (above : low ≤ x) (below : x ≤ high)
  (finite_low : low.isFinite = true) (finite_high : high.isFinite = true)

include above below finite_low finite_high

/-- The width for an output lies between the widths for the ends of an interval. -/
lemma width_between (product_low : (low * pulseSpan).isFinite = true)
    (product_high : (high * pulseSpan).isFinite = true) (width_low : (width low).isFinite = true)
    (width_high : (width high).isFinite = true) :
    width low ≤ width x ∧ width x ≤ width high := by
  have span : pulseSpan.isFinite = true := by decide
  have sign : 0 ≤ pulseSpan := by decide
  have neutral : neutralPulse.isFinite = true := by decide
  have same : neutralPulse ≤ neutralPulse := by decide
  obtain ⟨product_above, product_below⟩ :=
    mul_between above below finite_low finite_high span sign product_low product_high
  exact add_between same same neutral neutral product_above product_below product_low product_high
    width_low width_high

end

/-- Up to full output either way, the width is a number that is not below a millisecond. -/
lemma width_of_output {x : Float32} (above : -1 ≤ x) (below : x ≤ 1) :
    x.isFinite = true ∧ (x * pulseSpan).isFinite = true ∧ (width x).isFinite = true ∧ 0 ≤ width x := by
  have one : (1 : Float32).isFinite = true := by decide
  have neg_one : (-1 : Float32).isFinite = true := by decide
  have span : pulseSpan.isFinite = true := by decide
  have sign : 0 ≤ pulseSpan := by decide
  have product_low : (-1 * pulseSpan).isFinite = true := by decide
  have product_high : (1 * pulseSpan).isFinite = true := by decide
  have width_low : (width (-1)).isFinite = true := by decide +kernel
  have width_high : (width 1).isFinite = true := by decide +kernel
  obtain ⟨product_above, product_below⟩ :=
    mul_between above below neg_one one span sign product_low product_high
  obtain ⟨width_above, width_below⟩ :=
    width_between above below neg_one one product_low product_high width_low width_high
  have finite := isFinite_of_between width_above width_below width_low width_high
  refine ⟨isFinite_of_between above below neg_one one,
    isFinite_of_between product_above product_below product_low product_high, finite, ?_⟩
  have positive : 0 ≤ width (-1) := by decide +kernel
  exact le_trans_of_le positive width_above

/-- A larger output has no shorter pulse. -/
lemma word_mono {x y : Float32} (above : -1 ≤ x) (h : x ≤ y) (below : y ≤ 1) :
    (width x).toUInt32.toNat ≤ (width y).toUInt32.toNat := by
  have one : (1 : Float32).isFinite = true := by decide
  have product_high : (1 * pulseSpan).isFinite = true := by decide
  have width_high : (width 1).isFinite = true := by decide +kernel
  obtain ⟨finite_x, product, finite_width, positive⟩ :=
    width_of_output above (le_trans_of_le h below)
  obtain ⟨-, -, finite_width', -⟩ := width_of_output (le_trans_of_le above h) below
  obtain ⟨order, -⟩ := width_between h below finite_x one product product_high finite_width width_high
  exact toUInt32_mono finite_width finite_width' positive order

/-- A larger output has no shorter pulse, and for a motor that is turned around no longer one. -/
lemma pulse_mono {x y : Float32} (above : -1 ≤ x) (h : x ≤ y) (below : y ≤ 1) :
    pulse false x ≤ pulse false y ∧ pulse true y ≤ pulse true x := by
  refine ⟨word_mono above h below, ?_⟩
  have one : (1 : Float32).isFinite = true := by decide
  have neg_one : (-1 : Float32).isFinite = true := by decide
  have above' := le_trans_of_le above h
  have finite_x := isFinite_of_between above (le_trans_of_le h below) neg_one one
  have finite_y := isFinite_of_between above' below neg_one one
  obtain ⟨low, -⟩ := neg_between above' below neg_one one
  obtain ⟨-, high⟩ := neg_between above (le_trans_of_le h below) neg_one one
  have opposite : - -1 = (1 : Float32) := by decide
  rw [opposite] at high
  exact word_mono low (neg_between h below finite_x one).2 high

lemma pulse_ends : pulse false (-1) = 1000 ∧ pulse false 1 = 2000 ∧
    pulse true 1 = 1000 ∧ pulse true (-1) = 2000 := by
  decide +kernel

/-- A pulse takes from one millisecond to two. -/
lemma pulse_between (inverted : Bool) {x : Float32} (above : -1 ≤ x) (below : x ≤ 1) :
    1000 ≤ pulse inverted x ∧ pulse inverted x ≤ 2000 := by
  obtain ⟨low, high, low', high'⟩ := pulse_ends
  obtain ⟨from_low, to_high'⟩ := pulse_mono (by decide) above below
  obtain ⟨to_high, from_low'⟩ := pulse_mono above below (by decide)
  cases inverted with
  | false => exact ⟨low.ge.trans from_low, to_high.trans high.le⟩
  | true => exact ⟨low'.ge.trans from_low', to_high'.trans high'.le⟩

/-! ## Ticks -/

/-- A number limited to full output. -/
def limit (x : Float32) : Float32 :=
  if x < -1 then -1 else if 1 < x then 1 else x

/-- The microseconds of the pulse that a number asks for: 500 more than 1500 for full output, and 500 less
for full output the other way. -/
def microseconds (m : PulseMotor) (x : Float32) : Nat :=
  (1500 + (if m.inverted then -limit x else limit x) * 500).toUInt32.toNat

/-- The ticks of a pulse of so many microseconds: its share of the period, and no more than there are. -/
def share (m : PulseMotor) (micros : Nat) : Nat :=
  min (micros * m.channel.maxDuty / (1000000 / m.frequency)) m.channel.maxDuty

lemma clamp_eq_limit (x : Float32) : clamp (-1) 1 x = limit x := by
  have in_order : ¬ (1 : Float32) < -1 := by decide
  unfold clamp limit
  by_cases low : x < -1
  · simp only [low, if_true, gt_iff_lt, if_neg in_order]
  · simp only [low, if_false, gt_iff_lt]

lemma limit_between {x : Float32} (number : x.isNaN = false) : -1 ≤ limit x ∧ limit x ≤ 1 :=
  clamp_eq_limit x ▸ clamp_between (by decide) (by decide) number (by decide)

/-- A larger number is limited to no smaller output. -/
lemma limit_mono {x y : Float32} (h : x ≤ y) : limit x ≤ limit y := by
  have number_x := isNaN_of_le h
  have number_y := isNaN_of_ge h
  rw [← clamp_eq_limit, ← clamp_eq_limit]
  exact clamp_mono (by decide) (by decide) number_x number_y h

/-- A wider pulse has no fewer ticks. -/
lemma share_mono (m : PulseMotor) {p q : Nat} (h : p ≤ q) : m.share p ≤ m.share q :=
  dutyOf_mono h _ _

/-- A larger number asks for no shorter pulse, and for a motor that is turned around for no longer one. -/
lemma microseconds_mono (m : PulseMotor) {x y : Float32} (h : x ≤ y) :
    if m.inverted then m.microseconds y ≤ m.microseconds x
    else m.microseconds x ≤ m.microseconds y := by
  have above := (limit_between (isNaN_of_le h)).1
  have below := (limit_between (isNaN_of_ge h)).2
  obtain ⟨straight, turned⟩ := pulse_mono above (limit_mono h) below
  unfold microseconds
  cases m.inverted with
  | false => exact straight
  | true => exact turned

/-- A pulse takes from one millisecond to two. -/
lemma microseconds_between (m : PulseMotor) {x : Float32} (number : x.isNaN = false) :
    1000 ≤ m.microseconds x ∧ m.microseconds x ≤ 2000 := by
  obtain ⟨above, below⟩ := limit_between number
  exact pulse_between m.inverted above below

/-- From full output on a pulse has one of these widths. -/
lemma microseconds_of_beyond (m : PulseMotor) {x : Float32} (number : x.isNaN = false) :
    (1 ≤ x → m.microseconds x = if m.inverted then 1000 else 2000) ∧
      (x ≤ -1 → m.microseconds x = if m.inverted then 2000 else 1000) := by
  obtain ⟨short, long⟩ := m.microseconds_between number
  have ends : (m.microseconds 1 = if m.inverted then 1000 else 2000) ∧
      m.microseconds (-1) = if m.inverted then 2000 else 1000 := by
    unfold microseconds
    cases m.inverted <;> decide +kernel
  constructor
  · intro beyond
    have order := m.microseconds_mono beyond
    rw [ends.1] at order
    cases turned : m.inverted with
    | false =>
      rw [turned] at order
      exact Nat.le_antisymm long order
    | true =>
      rw [turned] at order
      exact Nat.le_antisymm order short
  · intro beyond
    have order := m.microseconds_mono beyond
    rw [ends.2] at order
    cases turned : m.inverted with
    | false =>
      rw [turned] at order
      exact Nat.le_antisymm order short
    | true =>
      rw [turned] at order
      exact Nat.le_antisymm long order

/-- The duty cycles of a motor that makes up to a million pulses per second, on a channel that counts its
ticks in 16 bits. For every number the product of the pulse and the ticks fits a word of 32 bits, and the
period is not zero, so there is a duty cycle, which is the share of the pulse. It is the one that is written,
unless the output equals the last one. It is no more than the channel offers and lies between those of a
pulse of one and of two milliseconds, and from full output on it is one of these two. It grows with the
number, or falls for a motor that is turned around. -/
theorem duty_in_order {m : PulseMotor} (slow : 1 ≤ m.frequency) (fast : m.frequency ≤ 1000000)
    (few : m.channel.maxDuty < 2 ^ 16) :
    (∀ x : Float32, x.isNaN = false →
      m.microseconds x * m.channel.maxDuty < 2 ^ 32 ∧ 1000000 / m.frequency ≠ 0 ∧
      m.duty (limit x) = .ok (m.share (m.microseconds x)) ∧
      m.set x = .ok (if m.value == limit x then (m, none) else
        ({ m with
            value := limit x
            channel.writes := m.channel.writes + 1
            channel.duty := if m.channel.failing then m.channel.duty else m.share (m.microseconds x) },
          if m.channel.failing then some (limit x) else none)) ∧
      m.share (m.microseconds x) ≤ m.channel.maxDuty ∧
      m.share 1000 ≤ m.share (m.microseconds x) ∧ m.share (m.microseconds x) ≤ m.share 2000 ∧
      (1 ≤ x → m.microseconds x = if m.inverted then 1000 else 2000) ∧
      (x ≤ -1 → m.microseconds x = if m.inverted then 2000 else 1000)) ∧
    ∀ x y : Float32, x ≤ y →
      if m.inverted then m.share (m.microseconds y) ≤ m.share (m.microseconds x)
      else m.share (m.microseconds x) ≤ m.share (m.microseconds y) := by
  have runs : m.Runs := (Nat.div_pos fast slow).ne'
  constructor
  · intro x number
    obtain ⟨short, long⟩ := m.microseconds_between number
    obtain ⟨forward, backward⟩ := m.microseconds_of_beyond number
    have product : m.microseconds x * m.channel.maxDuty < 2 ^ 32 :=
      calc m.microseconds x * m.channel.maxDuty
        _ ≤ 2000 * 2 ^ 16 := Nat.mul_le_mul long few.le
        _ < 2 ^ 32 := by decide
    refine ⟨product, runs, duty_eq runs _, ?_, dutyOf_le _ _ _, m.share_mono short,
      m.share_mono long, forward, backward⟩
    cases same : m.value == limit x with
    | true =>
      rw [← clamp_eq_limit] at same
      exact set_of_same same
    | false =>
      rw [← clamp_eq_limit] at same
      have written := set_of_differs runs same
      rw [clamp_eq_limit] at written
      exact written
  · intro x y order
    have pulses := m.microseconds_mono order
    cases turned : m.inverted with
    | false =>
      rw [turned] at pulses
      exact m.share_mono pulses
    | true =>
      rw [turned] at pulses
      exact m.share_mono pulses

/-- A motor with fifty pulses per second, on a channel with a tick for each microsecond. Half output is a
quarter of a millisecond away from neutral, and a number beyond full output gets two milliseconds. -/
theorem half_speed_has_its_duty :
    let m : PulseMotor := { channel := { maxDuty := 20000 }, frequency := 50 }
    m.duty 0.5 = .ok 1750 ∧ m.reversed.duty 0.5 = .ok 1250 ∧
      ∃ after, m.set 7 = .ok (after, none) ∧ after.channel.duty = 2000 := by
  intro m
  obtain ⟨each, -⟩ := duty_in_order (m := m) (by decide) (by decide) (by decide)
  obtain ⟨turned, -⟩ := duty_in_order (m := m.reversed) (by decide) (by decide) (by decide)
  obtain ⟨-, -, half, -⟩ := each 0.5 (by decide)
  obtain ⟨-, -, back, -⟩ := turned 0.5 (by decide)
  obtain ⟨-, -, -, written, -, -, -, beyond, -⟩ := each 7 (by decide)
  have inside : limit 0.5 = 0.5 := by decide +kernel
  have unset : ¬ (m.value == limit 7) = true := by decide +kernel
  have ticks : m.share 2000 = 2000 := by decide
  rw [inside] at half back
  rw [if_neg unset, beyond (by decide)] at written
  refine ⟨half.trans (congrArg _ ?_), back.trans (congrArg _ ?_), _, written, ticks⟩
  · decide +kernel
  · decide +kernel

end PulseMotor

end MatchRobot
