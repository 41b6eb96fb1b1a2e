import Wdl.Text.Blank

/-!
Digits and written integers.

A written integer may use the decimal digits of any script, a sign, blanks around it, and single
underscores between its digits.  Code points are written with hexadecimal digits.
-/

namespace Wdl
namespace Text

/-- The code points of the digit zero of every script; the digits one to nine follow each. -/
def zeroDigits : List Nat :=
  [0x30, 0x660, 0x6F0, 0x7C0, 0x966, 0x9E6, 0xA66, 0xAE6, 0xB66, 0xBE6, 0xC66, 0xCE6, 0xD66,
   0xDE6, 0xE50, 0xED0, 0xF20, 0x1040, 0x1090, 0x17E0, 0x1810, 0x1946, 0x19D0, 0x1A80, 0x1A90,
   0x1B50, 0x1BB0, 0x1C40, 0x1C50, 0xA620, 0xA8D0, 0xA900, 0xA9D0, 0xA9F0, 0xAA50, 0xABF0,
   0xFF10, 0x104A0, 0x10D30, 0x11066, 0x110F0, 0x11136, 0x111D0, 0x112F0, 0x11450, 0x114D0,
   0x11650, 0x116C0, 0x11730, 0x118E0, 0x11950, 0x11C50, 0x11D50, 0x11DA0, 0x16A60, 0x16AC0,
   0x16B50, 0x1D7CE, 0x1D7D8, 0x1D7E2, 0x1D7EC, 0x1D7F6, 0x1E140, 0x1E2F0, 0x1E950, 0x1FBF0]

/-- The value of a decimal digit of any script. -/
def digitValue? (c : Char) : Option Nat :=
  (zeroDigits.find? fun z => z ≤ c.toNat && c.toNat < z + 10).map (c.toNat - ·)

/-- The value of an ASCII digit. -/
def asciiDigit? (c : Char) : Option Nat :=
  if '0' ≤ c && c ≤ '9' then some (c.toNat - '0'.toNat) else none

/-- The number that a list of digit values spells in base ten. -/
def ofDigits (ds : List Nat) : Nat :=
  ds.foldl (fun n d => 10 * n + d) 0

/-- Digits with single underscores between them; `after` says whether a digit came just before. -/
def underscoredDigits? : Bool → List Char → Option (List Nat)
  | after, [] => if after then some [] else none
  | after, c :: cs =>
    match digitValue? c with
    | some d => (underscoredDigits? true cs).map (d :: ·)
    | none => if c == '_' && after then underscoredDigits? false cs else none

/-- Reads a written integer. -/
def readInt? (s : String) : Option Int :=
  match trimChars s.toList with
  | '-' :: cs => (underscoredDigits? false cs).map fun ds => -(ofDigits ds : Int)
  | '+' :: cs => (underscoredDigits? false cs).map fun ds => (ofDigits ds : Int)
  | cs => (underscoredDigits? false cs).map fun ds => (ofDigits ds : Int)

/-- The number written by ASCII digits; other characters are skipped. -/
def natOfAscii (s : String) : Nat :=
  ofDigits (s.toList.filterMap asciiDigit?)

/-! ## Hexadecimal digits -/

/-- A hexadecimal digit in lower case. -/
def hexDigit (n : Nat) : Char :=
  if n < 10 then Char.ofNat (48 + n) else Char.ofNat (87 + n)

/-- The last `width` hexadecimal digits of a number. -/
def hex : Nat → Nat → List Char
  | 0, _ => []
  | width + 1, n => hex width (n / 16) ++ [hexDigit (n % 16)]

/-- The value of a hexadecimal digit in either case. -/
def hexValue? (c : Char) : Option Nat :=
  if '0' ≤ c && c ≤ '9' then some (c.toNat - 48)
  else if 'a' ≤ c && c ≤ 'f' then some (c.toNat - 87)
  else if 'A' ≤ c && c ≤ 'F' then some (c.toNat - 55)
  else none

/-- The number that hexadecimal digits spell; other characters are skipped. -/
def ofHex (cs : List Char) : Nat :=
  (cs.filterMap hexValue?).foldl (fun n d => 16 * n + d) 0

end Text
end Wdl
