import Wdl.Binary64
import Wdl.Text.Digits
import Wdl.Text.Case

/-!
Reading decimals.

`Decimal.readNumeral?` takes a number off the front of a text: digits with an optional point and an
optional exponent. `Decimal.readFloat?` reads a whole text that may also be signed, surrounded by
blanks, or the name of a number that is not finite.
-/

namespace Wdl
namespace Decimal

/-- A numeral split into its parts. -/
structure Numeral where
  whole : List Nat
  fraction : List Nat
  exponent : Int

/-- The number nearest to a numeral. -/
def Numeral.toFloat (n : Numeral) (neg : Bool) : Float :=
  Binary64.ofDecimal neg (Text.ofDigits (n.whole ++ n.fraction))
    (n.exponent - (n.fraction.length : Int))

/-- The ASCII digits at the front of a text, and the rest. -/
def takeDigits : List Char → List Nat × List Char
  | [] => ([], [])
  | c :: cs =>
    match Text.asciiDigit? c with
    | some d => let (ds, rest) := takeDigits cs; (d :: ds, rest)
    | none => ([], c :: cs)

/-- An exponent after its letter, if there is one with at least one digit. -/
def takeExponent (cs : List Char) : Int × List Char :=
  match cs with
  | c :: rest =>
    if c == 'e' || c == 'E' then
      let (neg, digits) :=
        match rest with
        | '-' :: ds => (true, ds)
        | '+' :: ds => (false, ds)
        | ds => (false, ds)
      match takeDigits digits with
      | ([], _) => (0, cs)
      | (ds, rest) => (if neg then -(Text.ofDigits ds : Int) else Text.ofDigits ds, rest)
    else (0, cs)
  | [] => (0, [])

/-- An unsigned numeral at the front of a text. -/
def readNumeral? (cs : List Char) : Option (Numeral × List Char) :=
  let (whole, rest) := takeDigits cs
  let (fraction, rest) :=
    match rest with
    | '.' :: r => takeDigits r
    | r => ([], r)
  if whole.isEmpty && fraction.isEmpty then none
  else
    let (exponent, rest) := takeExponent rest
    some (⟨whole, fraction, exponent⟩, rest)

/-- Reads a number that fills the whole text. -/
def readFloat? (s : String) : Option Float :=
  let cs := Text.trimChars s.toList
  let (neg, cs) :=
    match cs with
    | '-' :: r => (true, r)
    | '+' :: r => (false, r)
    | r => (false, r)
  match Text.lower (String.ofList cs) with
  | "nan" => some Binary64.nan
  | "inf" => some (Binary64.infinity neg)
  | "infinity" => some (Binary64.infinity neg)
  | _ =>
    match readNumeral? cs with
    | some (n, []) => some (n.toFloat neg)
    | _ => none

/-- The number that a numeral of the language denotes; zero for a text that is none. -/
def floatOfNumeral (s : String) : Float :=
  (readFloat? s).getD (Binary64.ofMagnitude false 0)

end Decimal
end Wdl
