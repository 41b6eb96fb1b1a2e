import Wdl.Binary64

/-!
The shortest decimal that names a binary number.

Every finite number is the nearest one to all the reals of an interval around it. `Decimal.shortest`
looks for the fewest significant digits of a decimal in that interval; of two such decimals it takes
the one nearer to the number.
-/

namespace Wdl

/-- A decimal `d₀.d₁d₂… * 10 ^ exponent` given by its significant digits, without trailing zeros;
zero is the single digit `0` with exponent `0`. -/
structure Decimal where
  digits : List Nat
  exponent : Int
  deriving Repr, DecidableEq

namespace Decimal

/-- The digits of a number in base ten, most significant first. -/
def digitsOf (n : Nat) : List Nat :=
  (Nat.toDigits 10 n).map fun c => c.toNat - 48

/-- The decimal `n * 10 ^ scale`. -/
def ofScaled (n : Nat) (scale : Int) : Decimal :=
  let ds := digitsOf n
  let kept := (ds.reverse.dropWhile (· == 0)).reverse
  if kept.isEmpty then ⟨[0], 0⟩ else ⟨kept, scale + ds.length - 1⟩

/-- The integer part of the decimal logarithm of `num / den`, for positive arguments: `guess` is
raised while a higher power of ten still fits. -/
def log10Ratio (num den : Nat) : Nat → Int → Int
  | 0, guess => guess
  | fuel + 1, guess =>
    let next := guess + 1
    let fits :=
      if 0 ≤ next then den * Nat.pow 10 next.toNat ≤ num else den ≤ num * Nat.pow 10 (-next).toNat
    if fits then log10Ratio num den fuel next else guess

/-- A quotient as a multiple of `10 ^ scale`, rounded down. -/
def gridFloor (num den : Nat) (scale : Int) : Nat :=
  if 0 ≤ scale then num / (den * Nat.pow 10 scale.toNat) else num * Nat.pow 10 (-scale).toNat / den

/-- An exact fraction with a positive denominator. -/
structure Ratio where
  num : Nat
  den : Nat

/-- The fraction `n * 10 ^ scale`. -/
def gridPoint (n : Nat) (scale : Int) : Ratio :=
  if 0 ≤ scale then ⟨n * Nat.pow 10 scale.toNat, 1⟩ else ⟨n, Nat.pow 10 (-scale).toNat⟩

def Ratio.le (a b : Ratio) : Bool := a.num * b.den ≤ b.num * a.den

def Ratio.lt (a b : Ratio) : Bool := a.num * b.den < b.num * a.den

/-- The reals that round to one number: from `low` to `high`, the ends included if `closed`. -/
structure Interval where
  low : Ratio
  value : Ratio
  high : Ratio
  closed : Bool

def Interval.holds (i : Interval) (r : Ratio) : Bool :=
  if i.closed then i.low.le r && r.le i.high else i.low.lt r && r.lt i.high

/-- The interval of `m * 2 ^ e`: half a step up, and half a step down, which is a quarter where the
numbers below lie closer together. -/
def intervalOf (m : Nat) (e : Int) : Interval :=
  let quarter (n : Nat) : Ratio :=
    if 2 ≤ e then ⟨n * Nat.pow 2 (e - 2).toNat, 1⟩ else ⟨n, Nat.pow 2 (2 - e).toNat⟩
  let down := if m == Nat.pow 2 52 && e > -1074 then 1 else 2
  ⟨quarter (4 * m - down), quarter (4 * m), quarter (4 * m + 2), m % 2 == 0⟩

/-- Of the two neighbours of the value on the grid of step `10 ^ scale`, the one in the interval;
if both are, the nearer one, and the even one of two equally near. -/
def gridHit? (i : Interval) (scale : Int) : Option Nat :=
  let below := gridFloor i.value.num i.value.den scale
  let a := gridPoint below scale
  let b := gridPoint (below + 1) scale
  match i.holds a && below != 0, i.holds b with
  | false, false => none
  | true, false => some below
  | false, true => some (below + 1)
  | true, true =>
    -- the value lies between the two: compare twice the value with their sum
    let sum := (2 * below + 1)
    let mid := gridPoint sum scale
    let twice : Ratio := ⟨2 * i.value.num, i.value.den⟩
    if twice.lt mid then some below
    else if mid.lt twice then some (below + 1)
    else if below % 2 == 0 then some below else some (below + 1)

/-- Tries 1, 2, … significant digits, at most `fuel` further ones. -/
def shortestFrom (i : Interval) (top : Int) : Nat → Nat → Decimal
  | 0, n => ofScaled (gridFloor i.value.num i.value.den (top - n)) (top - n)
  | fuel + 1, n =>
    match gridHit? i (top - n) with
    | some hit => ofScaled hit (top - n)
    | none => shortestFrom i top fuel (n + 1)

/-- The shortest decimal that reads back as `m * 2 ^ e`. -/
def shortest (m : Nat) (e : Int) : Decimal :=
  if m == 0 then ⟨[0], 0⟩
  else
    let i := intervalOf m e
    let guess : Int := (Binary64.log2Ratio i.value.num i.value.den - 3) * 30103 / 100000 - 1
    shortestFrom i (log10Ratio i.value.num i.value.den 6 guess) 20 0

end Decimal
end Wdl
