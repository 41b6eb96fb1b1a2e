/-!
Binary floating point numbers of 64 bits, read as exact numbers.

`Binary64.decode` splits a number into sign, significand and exponent, and `Binary64.ofRatio` finds
the number nearest to a quotient, a tie going to the even significand. Between them every operation
whose result the hardware does not give directly (remainders, integer parts, conversions of large
integers and of decimals) is a computation on natural numbers.
-/

namespace Wdl
namespace Binary64

/-- What a number stands for: `finite neg m e` is `m * 2 ^ e`, negated if `neg`. -/
inductive Reading
  | nan
  | infinite (neg : Bool)
  | finite (neg : Bool) (m : Nat) (e : Int)
  deriving Repr, DecidableEq

/-- Reads the bits of a number. -/
def decode (x : Float) : Reading :=
  let bits := x.toBits.toNat
  let neg := bits ≥ Nat.pow 2 63
  let exponent : Nat := bits / Nat.pow 2 52 % Nat.pow 2 11
  let fraction : Nat := bits % Nat.pow 2 52
  if exponent == 2047 then
    if fraction == 0 then .infinite neg else .nan
  else if exponent == 0 then .finite neg fraction (-1074)
  else .finite neg (Nat.pow 2 52 + fraction) ((exponent : Int) - 1075)

/-- The number with the given sign whose other bits are `magnitude`. -/
def ofMagnitude (neg : Bool) (magnitude : Nat) : Float :=
  Float.ofBits (UInt64.ofNat (if neg then Nat.pow 2 63 + magnitude else magnitude))

def nan : Float := ofMagnitude false (0x7FF8 * Nat.pow 2 48)

def infinity (neg : Bool) : Float := ofMagnitude neg (2047 * Nat.pow 2 52)

/-- The quotient rounded to the nearest integer, a tie going to the even one. -/
def roundDiv (num den : Nat) : Nat :=
  let q := num / den
  let r := num % den
  if den < 2 * r || (2 * r == den && q % 2 == 1) then q + 1 else q

/-- The integer part of the binary logarithm of `num / den`, for positive arguments. -/
def log2Ratio (num den : Nat) : Int :=
  let k : Int := (num.log2 : Int) - (den.log2 : Int)
  let below :=
    if 0 ≤ k then num < den * Nat.pow 2 k.toNat else num * Nat.pow 2 (-k).toNat < den
  if below then k - 1 else k

/-- The bits below the sign of the number nearest to `num / den`; past the largest finite number
they are those of infinity. -/
def nearestMagnitude (num den : Nat) : Nat :=
  if num == 0 || den == 0 then 0
  else
    let e : Int := max (log2Ratio num den - 52) (-1074)
    let q :=
      if 0 ≤ e then roundDiv num (den * Nat.pow 2 e.toNat) else roundDiv (num * Nat.pow 2 (-e).toNat) den
    min (q + (e + 1074).toNat * Nat.pow 2 52) (2047 * Nat.pow 2 52)

/-- The number nearest to `num / den`, negated if `neg`. -/
def ofRatio (neg : Bool) (num den : Nat) : Float :=
  ofMagnitude neg (nearestMagnitude num den)

/-- The number nearest to an integer, unless that lies beyond every finite number. -/
def ofInt? (n : Int) : Option Float :=
  let magnitude := nearestMagnitude n.natAbs 1
  if magnitude < 2047 * Nat.pow 2 52 then some (ofMagnitude (n < 0) magnitude) else none

/-- The number nearest to `digits * 10 ^ exponent`. Exponents far outside the range of finite
numbers are decided by the number of digits alone. -/
def ofDecimal (neg : Bool) (digits : Nat) (exponent : Int) : Float :=
  let size : Int := (toString digits).length
  if digits == 0 then ofMagnitude neg 0
  else if exponent + size > 400 then infinity neg
  else if exponent + size < -400 then ofMagnitude neg 0
  else if 0 ≤ exponent then ofRatio neg (digits * Nat.pow 10 exponent.toNat) 1
  else ofRatio neg digits (Nat.pow 10 (-exponent).toNat)

/-- Whether the sign bit is set. -/
def isNegative (x : Float) : Bool :=
  x.toBits.toNat ≥ Nat.pow 2 63

/-- The largest integer that is at most `m * 2 ^ e`, or `-(m * 2 ^ e)` if `neg`. -/
def floorOf (neg : Bool) (m : Nat) (e : Int) : Int :=
  if 0 ≤ e then
    let n : Int := (m * Nat.pow 2 e.toNat : Nat)
    if neg then -n else n
  else
    let n : Int := if neg then -(m : Int) else m
    Int.fdiv n ((Nat.pow 2 (-e).toNat : Nat) : Int)

/-- The remainder of `x` after taking away `y` as often as it fits, with the sign of `x`; not a
number where there is none. -/
def remainder (x y : Float) : Float :=
  match decode x, decode y with
  | .finite neg m e, .finite _ m' e' =>
    if m' == 0 then nan
    else
      let low := min e e'
      let r := (m * Nat.pow 2 (e - low).toNat) % (m' * Nat.pow 2 (e' - low).toNat)
      if 0 ≤ low then ofRatio neg (r * Nat.pow 2 low.toNat) 1 else ofRatio neg r (Nat.pow 2 (-low).toNat)
  | .finite _ _ _, .infinite _ => x
  | _, _ => nan

end Binary64
end Wdl
