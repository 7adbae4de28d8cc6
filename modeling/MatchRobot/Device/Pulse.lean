import MatchRobot.Clock
import MatchRobot.Device.Motor

/-!
# Motors driven by pulses

A hobby speed controller reads the width of a pulse: a millisecond is full reverse, two are full
forward and one and a half is neutral. `PulseMotor` turns an output from `-1` to `1` into the duty
cycle of a pulse channel, with as many ticks as the channel offers.

An output equal to the last one is not written again. A write can fail; the channel then keeps its
duty while the motor remembers the new value.
-/

namespace MatchRobot

/-- A pulse channel; it counts the writes that are tried. -/
structure PulseChannel where
  duty : Nat := 0
  maxDuty : Nat
  writes : Nat := 0
  failing : Bool := false

namespace PulseChannel

/-- Tries to write a duty cycle and tells whether that went well. -/
def write (c : PulseChannel) (duty : Nat) : PulseChannel × Bool :=
  if c.failing then ({ c with writes := c.writes + 1 }, false)
  else ({ c with writes := c.writes + 1, duty := duty }, true)

end PulseChannel

/-- A motor on a pulse channel. -/
structure PulseMotor where
  channel : PulseChannel
  /-- The last value that was written. -/
  value : Float32 := Float32.ofBits 0x7fc00000
  /-- Pulses per second. -/
  frequency : Nat
  inverted : Bool := false

namespace PulseMotor

/-- The width of a neutral pulse in microseconds. -/
def neutralPulse : Float32 := 1500

/-- What full output adds to the width of a neutral pulse. -/
def pulseSpan : Float32 := 500

/-- The microseconds of the pulse for an output. -/
def pulse (inverted : Bool) (x : Float32) : Nat :=
  (neutralPulse + (if inverted then -x else x) * pulseSpan).toUInt32.toNat

/-- The duty cycle of a pulse: its share of the period, in ticks of the channel. -/
def dutyOf (pulse maxDuty period : Nat) : Nat :=
  min (pulse * maxDuty / period) maxDuty

/-- The duty cycle for an output; a period that is no positive number of microseconds is a fault. -/
def duty (m : PulseMotor) (x : Float32) : Except Fault Nat :=
  let period := 1000000 / m.frequency
  if period = 0 then .error .noPeriod
  else .ok (dutyOf (pulse m.inverted x) m.channel.maxDuty period)

/-- Writes an output, limited to full output either way, unless it equals the last one. The second
component is the output of a write that failed. -/
def set (m : PulseMotor) (x : Float32) : Except Fault (PulseMotor × Option Float32) := do
  let x := Single.clamp (-1) 1 x
  if m.value == x then return (m, none)
  let d ← m.duty x
  let (channel, written) := m.channel.write d
  return ({ m with value := x, channel := channel }, if written then none else some x)

/-- Sets the motor to neutral. -/
def stop (m : PulseMotor) : Except Fault (PulseMotor × Option Float32) :=
  m.set 0

/-- A motor on a channel, which is set to neutral at once. -/
def start (channel : PulseChannel) (frequency : Nat) :
    Except Fault (PulseMotor × Option Float32) :=
  set { channel := channel, frequency := frequency } 0

/-- The motor turned around, which shows from the next write on. -/
def reversed (m : PulseMotor) : PulseMotor :=
  { m with inverted := true }

/-- The duty cycle never exceeds what the channel offers. -/
theorem dutyOf_le (pulse maxDuty period : Nat) : dutyOf pulse maxDuty period ≤ maxDuty :=
  Nat.min_le_right _ _

/-- A wider pulse has no smaller duty cycle. -/
theorem dutyOf_mono {p q : Nat} (h : p ≤ q) (maxDuty period : Nat) :
    dutyOf p maxDuty period ≤ dutyOf q maxDuty period := by
  have : p * maxDuty / period ≤ q * maxDuty / period :=
    Nat.div_le_div_right (Nat.mul_le_mul_right _ h)
  unfold dutyOf
  omega

end PulseMotor

end MatchRobot
