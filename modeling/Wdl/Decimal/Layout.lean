import Wdl.Decimal.Shortest

/-!
Written decimals.

A `Layout` says when a number is written positionally and how its exponent looks. The two layouts
in use are `plain`, for values shown as data, and `text`, for values that become part of a string.
-/

namespace Wdl
namespace Decimal

/-- How decimals and the numbers that are not finite are written. -/
structure Layout where
  /-- the least exponent that is written positionally -/
  lowest : Int
  /-- the least exponent, above `lowest`, that is written with a power of ten -/
  highest : Int
  /-- whether a positional integer ends in `.0` -/
  pointed : Bool
  /-- the letter before the exponent -/
  mark : String
  nan : String
  infinity : String
  negativeInfinity : String

/-- Values shown as data: `7.0`, `1e+22`, `nan`. -/
def plain : Layout := ⟨-4, 16, true, "e", "nan", "inf", "-inf"⟩

/-- Values inside JSON data. -/
def json : Layout :=
  { plain with nan := "NaN", infinity := "Infinity", negativeInfinity := "-Infinity" }

/-- Values that become part of a string: `7`, `1.5E+07`, `NaN`. -/
def text : Layout := ⟨-4, 6, false, "E", "NaN", "+Inf", "-Inf"⟩

/-- Digits as characters. -/
def digitChars (ds : List Nat) : String :=
  String.ofList (ds.map fun d => Char.ofNat (48 + d))

/-- An exponent with its sign and at least two digits. -/
def exponentText (e : Int) : String :=
  let ds := toString e.natAbs
  (if e < 0 then "-" else "+") ++ (if ds.length < 2 then "0" ++ ds else ds)

/-- The digits with a point in the place that the exponent gives, without an exponent. -/
def positional (d : Decimal) (pointed : Bool) : String :=
  if d.exponent < 0 then
    "0." ++ digitChars (List.replicate ((-d.exponent).toNat - 1) 0 ++ d.digits)
  else
    let whole := d.exponent.toNat + 1
    let before := d.digits.take whole ++ List.replicate (whole - d.digits.length) 0
    let after := d.digits.drop whole
    if after.isEmpty then digitChars before ++ (if pointed then ".0" else "")
    else digitChars before ++ "." ++ digitChars after

/-- One digit, the others after a point, and the exponent. -/
def scientific (d : Decimal) (mark : String) : String :=
  let rest := d.digits.drop 1
  digitChars (d.digits.take 1) ++ (if rest.isEmpty then "" else "." ++ digitChars rest) ++ mark ++
    exponentText d.exponent

/-- A decimal without its sign. -/
def Layout.magnitude (l : Layout) (d : Decimal) : String :=
  if d.exponent < l.lowest || l.highest ≤ d.exponent then scientific d l.mark
  else positional d l.pointed

/-- A decimal with its sign. -/
def Layout.signed (l : Layout) (neg : Bool) (d : Decimal) : String :=
  (if neg then "-" else "") ++ l.magnitude d

/-- A number by its shortest decimal. -/
def Layout.render (l : Layout) (x : Float) : String :=
  match Binary64.decode x with
  | .nan => l.nan
  | .infinite neg => if neg then l.negativeInfinity else l.infinity
  | .finite neg m e => l.signed neg (shortest m e)

end Decimal
end Wdl
