import MatchRobot.Number.Single

/-!
# Decimal text of single-precision numbers

A finite single is a whole mantissa times a power of two. Two decimal forms are built from that
view, both in exact arithmetic on natural numbers:

* `shortest` finds the fewest digits that read back as the same single, and among those the digits
  nearest to it;
* `fixed` rounds to a given number of places, a half going to the even neighbour.

The last section writes them as text: `plain` never uses an exponent, `general` keeps at least one
place and uses an exponent for very small and very large magnitudes, `places` has fixed places.
-/

namespace MatchRobot

namespace Decimal

/-! ### Singles as mantissa and exponent -/

/-- A non-negative finite single, `mantissa * 2 ^ exponent`. -/
structure Magnitude where
  mantissa : Nat
  exponent : Int
  deriving Repr, DecidableEq

/-- The leading bit of a mantissa, which a single does not store. -/
def hiddenBit : Nat :=
  Nat.pow 2 23

/-- The magnitude held in the lower 31 bits of a finite single. -/
def magnitude (x : Float32) : Magnitude :=
  let bits := x.toBits.toNat
  let field := bits / hiddenBit % 256
  let fraction := bits % hiddenBit
  if field = 0 then ⟨fraction, -149⟩ else ⟨fraction + hiddenBit, Int.ofNat field - 150⟩

/-- Whether the sign bit is set, which it is for a negative zero too. -/
def isNegative (x : Float32) : Bool :=
  x.toBits.toNat / Nat.pow 2 31 = 1

/-! ### Shortest digits -/

/-- A positive decimal, `digits * 10 ^ exponent`. -/
structure Scaled where
  digits : Nat
  exponent : Int
  deriving Repr, DecidableEq

/-- The interval of numbers that round to a magnitude, in quarters of its last place: the lower end,
the magnitude itself and the upper end. The gap below a power of two is half as wide. -/
def quarters (m : Magnitude) : Nat × Nat × Nat :=
  let low := if m.mantissa = hiddenBit ∧ -149 < m.exponent then 4 * m.mantissa - 1
    else 4 * m.mantissa - 2
  (low, 4 * m.mantissa, 4 * m.mantissa + 2)

/-- Numerator and denominator that turn quarters of the last place of a magnitude with binary
exponent `two` into units of `10 ^ ten`. -/
def gridRatio (two ten : Int) : Nat × Nat :=
  (Nat.pow 2 (two - 2).toNat * Nat.pow 10 (-ten).toNat,
    Nat.pow 2 (2 - two).toNat * Nat.pow 10 ten.toNat)

/-- The multiple of `10 ^ ten` nearest to a magnitude, if one lies among the numbers that round to
it; the grid has to be fine enough to have a positive point at or below the magnitude. -/
def onGrid? (m : Magnitude) (ten : Int) : Option Scaled :=
  let (low, middle, high) := quarters m
  let (num, den) := gridRatio m.exponent ten
  let below := middle * num / den
  let inside (d : Nat) : Bool :=
    if m.mantissa % 2 = 0 then low * num ≤ d * den && d * den ≤ high * num
    else low * num < d * den && d * den < high * num
  if below = 0 then none
  else match inside below, inside (below + 1) with
    | true, true =>
      let down := middle * num - below * den
      let up := (below + 1) * den - middle * num
      some ⟨if down < up then below else below + 1, ten⟩
    | true, false => some ⟨below, ten⟩
    | false, true => some ⟨below + 1, ten⟩
    | false, false => none

/-- The first grid, from coarse to fine, that has a point for the magnitude. -/
def firstGrid (m : Magnitude) : List Int → Option Scaled
  | [] => none
  | ten :: finer => match onGrid? m ten with
    | some s => some s
    | none => firstGrid m finer

/-- The decimal grids that can matter for singles, coarse ones first. -/
def grids : List Int :=
  (List.range 100).map fun k : Nat => 39 - Int.ofNat k

/-- Removes the zeros at the end of the digits. -/
def dropZeros : Nat → Scaled → Scaled
  | 0, s => s
  | fuel + 1, s =>
    if s.digits ≠ 0 ∧ s.digits % 10 = 0 then dropZeros fuel ⟨s.digits / 10, s.exponent + 1⟩ else s

/-- The fewest digits that read back as the magnitude. -/
def shortest (m : Magnitude) : Scaled :=
  match firstGrid m grids with
  | some s => dropZeros 12 s
  | none => ⟨0, 0⟩

/-! ### Fixed places -/

/-- The whole number nearest to `num / den`, a half going to the even neighbour. -/
def roundHalfEven (num den : Nat) : Nat :=
  let below := num / den
  let twice := 2 * (num % den)
  if twice < den then below
  else if twice > den then below + 1
  else below + below % 2

/-- The magnitude in units of `10 ^ (-count)`. -/
def fixed (m : Magnitude) (count : Nat) : Nat :=
  roundHalfEven (m.mantissa * Nat.pow 2 m.exponent.toNat * Nat.pow 10 count)
    (Nat.pow 2 (-m.exponent).toNat)

/-! ### Text -/

/-- The decimal digits of a natural number. -/
def digitsOf (n : Nat) : List Char :=
  Nat.toDigits 10 n

/-- Puts a sign in front of the text of a magnitude and spells the numbers that have none. -/
def signed (x : Float32) (text : Magnitude → List Char) : String :=
  if x.isNaN then "NaN"
  else
    let body := if x.isInf then "inf".toList else text (magnitude x)
    String.ofList (if isNegative x then '-' :: body else body)

/-- Positional notation, with at least `least` places. -/
def positional (least : Nat) (s : Scaled) : List Char :=
  let ds := digitsOf s.digits
  let whole := (ds.length : Int) + s.exponent
  let front := if whole ≤ 0 then ['0']
    else ds.take whole.toNat ++ List.replicate (whole.toNat - ds.length) '0'
  let back := List.replicate (-whole).toNat '0' ++ ds.drop whole.toNat
  let back := if s.digits = 0 then [] else back
  let back := back ++ List.replicate (least - back.length) '0'
  if back.isEmpty then front else front ++ '.' :: back

/-- One digit before the point, the rest after it, and the exponent of ten. -/
def scientific (s : Scaled) : List Char :=
  let ds := digitsOf s.digits
  let exponent := s.exponent + (ds.length : Int) - 1
  let back := if ds.length ≤ 1 then [] else '.' :: ds.drop 1
  ds.take 1 ++ back ++ 'e' :: (toString exponent).toList

/-- The shortest text that reads back, in positional notation: `1`, `0.1`, `458.3662`. -/
def plain (x : Float32) : String :=
  signed x fun m => positional 0 (shortest m)

/-- The magnitudes that `general` writes in positional notation. -/
def isModerate (x : Float32) : Bool :=
  x == 0 || (1e-4 ≤ x.abs && x.abs < 1e16)

/-- The shortest text that reads back, with at least one place: `1.0`, `1e16`, `1e-5`. -/
def general (x : Float32) : String :=
  signed x fun m => if isModerate x then positional 1 (shortest m) else scientific (shortest m)

/-- The number rounded to `count` places; a zero keeps its sign. -/
def places (count : Nat) (x : Float32) : String :=
  signed x fun m =>
    let ds := digitsOf (fixed m count)
    let ds := List.replicate (count + 1 - ds.length) '0' ++ ds
    let whole := ds.length - count
    if count = 0 then ds else ds.take whole ++ '.' :: ds.drop whole

end Decimal

end MatchRobot
