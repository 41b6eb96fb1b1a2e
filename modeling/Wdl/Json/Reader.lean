import Wdl.Json.Basic
import Wdl.Decimal.Reader

/-!
Reading JSON data.

A number with a point or an exponent is a floating point number, any other an integer of any size;
`NaN`, `Infinity` and `-Infinity` are numbers too. Of two members with one key the later value
counts.
-/

namespace Wdl
namespace Json

/-- Drops the blanks that may stand between the parts of JSON data. -/
def skipBlanks : List Char → List Char
  | [] => []
  | c :: cs => if c == ' ' || c == '\t' || c == '\n' || c == '\r' then skipBlanks cs else c :: cs

/-- What is left of a text after a word at its front. -/
def dropWord? : List Char → List Char → Option (List Char)
  | [], cs => some cs
  | w :: ws, c :: cs => if w == c then dropWord? ws cs else none
  | _ :: _, [] => none

/-- Four hexadecimal digits at the front of a text. -/
def hex4? : List Char → Option (Nat × List Char)
  | a :: b :: c :: d :: rest => do
    let a ← Text.hexValue? a
    let b ← Text.hexValue? b
    let c ← Text.hexValue? c
    let d ← Text.hexValue? d
    pure (((a * 16 + b) * 16 + c) * 16 + d, rest)
  | _ => none

/-- A character given by its code, after the letter of the escape; two surrogates make one. -/
def unitEscape? (cs : List Char) : Option (Char × List Char) := do
  let (high, rest) ← hex4? cs
  if 0xD800 ≤ high && high < 0xDC00 then
    match rest with
    | '\\' :: 'u' :: more =>
      match hex4? more with
      | some (low, after) =>
        if 0xDC00 ≤ low && low < 0xE000 then
          pure (Char.ofNat (0x10000 + (high - 0xD800) * 0x400 + (low - 0xDC00)), after)
        else pure (Char.ofNat 0xFFFD, rest)
      | none => pure (Char.ofNat 0xFFFD, rest)
    | _ => pure (Char.ofNat 0xFFFD, rest)
  else if 0xDC00 ≤ high && high < 0xE000 then pure (Char.ofNat 0xFFFD, rest)
  else pure (Char.ofNat high, rest)

/-- The rest of a string after its opening quote; `fuel` bounds the number of characters. -/
def stringBody? : Nat → List Char → Option (List Char × List Char)
  | 0, _ => none
  | _ + 1, [] => none
  | fuel + 1, c :: cs =>
    if c == Text.doubleQuote then some ([], cs)
    else if c == '\\' then
      match cs with
      | [] => none
      | e :: rest =>
        if e == 'u' then do
          let (d, rest) ← unitEscape? rest
          let (body, rest) ← stringBody? fuel rest
          pure (d :: body, rest)
        else do
          let d ←
            if e == Text.doubleQuote || e == '\\' || e == '/' then some e
            else if e == 'b' then some (Char.ofNat 8)
            else if e == 'f' then some (Char.ofNat 12)
            else if e == 'n' then some '\n'
            else if e == 'r' then some '\r'
            else if e == 't' then some '\t'
            else none
          let (body, rest) ← stringBody? fuel rest
          pure (d :: body, rest)
    else if c.toNat < 0x20 then none
    else do
      let (body, rest) ← stringBody? fuel cs
      pure (c :: body, rest)

/-- The fraction of a number: a point and at least one digit. -/
def fraction? : List Char → Option (List Nat × List Char)
  | '.' :: cs =>
    match Decimal.takeDigits cs with
    | ([], _) => none
    | found => some found
  | _ => none

/-- An unsigned number: no leading zeros, an optional fraction and an optional exponent. -/
def magnitude? (neg : Bool) (cs : List Char) : Option (Json × List Char) :=
  let wholeAndRest :=
    match cs with
    | '0' :: rest => ([0], rest)
    | _ => Decimal.takeDigits cs
  match wholeAndRest with
  | ([], _) => none
  | (whole, rest) =>
    let (fraction, pointed, rest) :=
      match fraction? rest with
      | some (ds, rest) => (ds, true, rest)
      | none => ([], false, rest)
    let (exponent, after) := Decimal.takeExponent rest
    if pointed || after.length != rest.length then
      let n : Decimal.Numeral := ⟨whole, fraction, exponent⟩
      some (.float (n.toFloat neg), after)
    else
      let n : Int := Text.ofDigits whole
      some (.int (if neg then -n else n), after)

/-- A scalar other than a string. -/
def scalar? (cs : List Char) : Option (Json × List Char) :=
  match dropWord? "null".toList cs with
  | some rest => some (.null, rest)
  | none =>
  match dropWord? "true".toList cs with
  | some rest => some (.bool true, rest)
  | none =>
  match dropWord? "false".toList cs with
  | some rest => some (.bool false, rest)
  | none =>
  match dropWord? "NaN".toList cs with
  | some rest => some (.float Binary64.nan, rest)
  | none =>
  match dropWord? "Infinity".toList cs with
  | some rest => some (.float (Binary64.infinity false), rest)
  | none =>
  match dropWord? "-Infinity".toList cs with
  | some rest => some (.float (Binary64.infinity true), rest)
  | none =>
  match cs with
  | '-' :: rest => magnitude? true rest
  | _ => magnitude? false cs

mutual

/-- A value at the front of a text, without blanks before it. -/
def value? : Nat → List Char → Option (Json × List Char)
  | 0, _ => none
  | fuel + 1, cs =>
    match cs with
    | '[' :: rest =>
      match skipBlanks rest with
      | ']' :: after => some (.arr [], after)
      | inner => do
        let (items, after) ← items? fuel inner
        pure (.arr items, after)
    | c :: rest =>
      if c == Char.ofNat 0x7B then
        match skipBlanks rest with
        | [] => none
        | d :: after =>
          if d == Char.ofNat 0x7D then some (.obj [], after)
          else do
            let (members, after) ← members? fuel [] (d :: after)
            pure (.obj members, after)
      else if c == Text.doubleQuote then do
        let (body, after) ← stringBody? (rest.length + 1) rest
        pure (.str (String.ofList body), after)
      else scalar? cs
    | [] => none

/-- One or more items and the closing bracket. -/
def items? : Nat → List Char → Option (List Json × List Char)
  | 0, _ => none
  | fuel + 1, cs => do
    let (v, rest) ← value? fuel cs
    match skipBlanks rest with
    | ',' :: more => do
      let (items, after) ← items? fuel (skipBlanks more)
      pure (v :: items, after)
    | ']' :: after => pure ([v], after)
    | _ => none

/-- One or more members and the closing brace; `seen` holds the members so far. -/
def members? : Nat → List (String × Json) → List Char → Option (List (String × Json) × List Char)
  | 0, _, _ => none
  | fuel + 1, seen, cs =>
    match cs with
    | [] => none
    | q :: rest =>
      if q == Text.doubleQuote then do
        let (body, rest) ← stringBody? (rest.length + 1) rest
        match skipBlanks rest with
        | ':' :: rest => do
          let (v, rest) ← value? fuel (skipBlanks rest)
          let seen := Assoc.insert (String.ofList body) v seen
          match skipBlanks rest with
          | ',' :: more => members? fuel seen (skipBlanks more)
          | d :: after => if d == Char.ofNat 0x7D then pure (seen, after) else none
          | [] => none
        | _ => none
      else none

end

/-- Reads JSON data that fills the whole text. -/
def parse? (s : String) : Option Json := do
  let cs := s.toList
  let (v, rest) ← value? (2 * cs.length + 2) (skipBlanks cs)
  if (skipBlanks rest).isEmpty then pure v else none

end Json
end Wdl
