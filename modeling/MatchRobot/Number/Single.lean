/-!
# Single-precision numbers

Sensor readings, motor outputs and script parameters are single-precision floating-point numbers.
This file collects the operations on them that the core library leaves open: a choice between two
operands that ignores `NaN`, a clamp, and the conversions to and from whole numbers.

Every operation is built from comparisons, negation, the absolute value and the conversion to
unsigned words, so each of them computes inside the logic.
-/

namespace MatchRobot

namespace Single

/-- The single nearest to `π`. -/
def pi : Float32 := Float32.ofBits 0x40490fdb

/-- The larger operand; when one operand is `NaN` it is the other one. Of two zeros it is the second. -/
def greatest (a b : Float32) : Float32 :=
  if b.isNaN then a else if b < a then a else b

/-- The smaller operand; when one operand is `NaN` it is the other one. Of two zeros it is the
second. -/
def least (a b : Float32) : Float32 :=
  if b.isNaN then a else if a < b then a else b

/-- The number of the interval from `low` to `high` that is nearest to `x`; `NaN` stays `NaN`. -/
def clamp (low high x : Float32) : Float32 :=
  let raised := if x < low then low else x
  if raised > high then high else raised

/-- Whether `clamp low high` has a meaning, which fails for reversed and for `NaN` bounds. -/
def clampable (low high : Float32) : Bool :=
  low ≤ high

/-- The nearest single of a whole number of 32 bits. -/
def ofInt32 (n : Int32) : Float32 :=
  Float32.ofInt n.toInt

/-- Cuts off the fraction, stops at the ends of the 32-bit range and sends `NaN` to zero. -/
def toInt32 (x : Float32) : Int32 :=
  if x < 0 then Int32.ofInt (-(min x.abs.toUInt32.toNat (UInt32.size / 2) : Nat))
  else Int32.ofNat (min x.toUInt32.toNat (UInt32.size / 2 - 1))

/-- The nearest single of a count that fits 64 bits. -/
def ofCount (n : Nat) : Float32 :=
  n.toUInt64.toFloat32

/-- Cuts off the fraction, sends negative numbers and `NaN` to zero and stops at `2 ^ 64 - 1`. -/
def toCount (x : Float32) : Nat :=
  x.toUInt64.toNat

/-- Radians of an angle in degrees. -/
def radians (degrees : Float32) : Float32 :=
  degrees * (pi / 180)

end Single

end MatchRobot
