import MatchRobot.Number.Single

/-!
# Number literals

The parameters of a script are written as decimal literals: an optional sign, then `inf`,
`infinity` or `nan` in any case, or digits with at most one point and an optional exponent. At
least one digit has to stand before or after the point, and at least one after the exponent mark.

`Literal.read?` gives the single nearest to the number that is written. Exponents are unbounded, so
numbers far outside the range of singles are recognised by their size before any power is taken.
-/

namespace MatchRobot

/-- A finite decimal literal without its sign, `digits * 10 ^ exponent`. -/
structure Literal where
  digits : Nat
  exponent : Int
  deriving Repr, DecidableEq

namespace Literal

/-- The value of a list of decimal digits. -/
def valueOf (ds : List Char) : Nat :=
  ds.foldl (fun n d => 10 * n + (d.toNat - '0'.toNat)) 0

/-- The exponent part of a literal: nothing, or a mark, an optional sign and digits. -/
def exponent? : List Char → Option Int
  | [] => some 0
  | mark :: rest =>
    if mark ≠ 'e' ∧ mark ≠ 'E' then none
    else
      let (negative, ds) := match rest with
        | '-' :: ds => (true, ds)
        | '+' :: ds => (false, ds)
        | ds => (false, ds)
      if ds = [] ∨ ds.any (fun c => ! c.isDigit) then none
      else some (if negative then -(valueOf ds : Int) else valueOf ds)

/-- The digits of a literal around its point. -/
def unsigned? (cs : List Char) : Option Literal :=
  let whole := cs.takeWhile Char.isDigit
  let (places, rest) := match cs.dropWhile Char.isDigit with
    | '.' :: more => (more.takeWhile Char.isDigit, more.dropWhile Char.isDigit)
    | more => ([], more)
  if whole = [] ∧ places = [] then none
  else (exponent? rest).map fun e => ⟨valueOf (whole ++ places), e - places.length⟩

/-- How many digits a natural number has. -/
def size (n : Nat) : Nat :=
  (Nat.toDigits 10 n).length

/-- The single nearest to a literal: infinite from `10 ^ 40` on, zero below `10 ^ (-60)`. -/
def nearest (l : Literal) : Float32 :=
  let top := (size l.digits : Int) + l.exponent
  if l.digits = 0 ∨ top < -60 then 0
  else if 40 < top then Float32.ofBits 0x7f800000
  else Float32.ofScientific l.digits (l.exponent < 0) l.exponent.natAbs

/-- The value of a literal without its sign. -/
def magnitude? (cs : List Char) : Option Float32 :=
  let word := String.ofList (cs.map Char.toLower)
  if word = "inf" ∨ word = "infinity" then some (Float32.ofBits 0x7f800000)
  else if word = "nan" then some (Float32.ofBits 0x7fc00000)
  else (unsigned? cs).map nearest

/-- The single that a literal stands for, or nothing if the text is no literal. -/
def read? (cs : List Char) : Option Float32 :=
  match cs with
  | '-' :: rest => (magnitude? rest).map fun x => -x
  | '+' :: rest => magnitude? rest
  | rest => magnitude? rest

end Literal

end MatchRobot
