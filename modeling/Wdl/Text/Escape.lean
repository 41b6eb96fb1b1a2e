import Wdl.Text.CharName
import Wdl.Text.Quoted

/-!
Escape sequences in string literals.

A backslash and the characters after it may stand for one character, which is given as a code point
because it need not be a character on its own. An escape consists of ASCII characters: a character
outside of U+0001 to U+007F ends every run in which escapes are looked for and stands for itself.
Escapes that are not known are kept as they are written.
-/

namespace Wdl
namespace Text

/-- Whether a character can be part of an escape. -/
def isEscapable (c : Char) : Bool :=
  0x01 ≤ c.toNat && c.toNat ≤ 0x7F

/-- The code point of a backslash. -/
def backslash : Nat := 0x5C

/-- The code points that an escape with one character stands for, if it is one that stands for less
than it says. -/
def simpleEscape? : Char → Option (List Nat)
  | '\n' => some []
  | '\\' => some [backslash]
  | '"' => some [0x22]
  | 'a' => some [7]
  | 'b' => some [8]
  | 'f' => some [12]
  | 'n' => some [10]
  | 'r' => some [13]
  | 't' => some [9]
  | 'v' => some [11]
  | c => if c == singleQuote then some [0x27] else none

/-- The number of hexadecimal digits that an escape with a letter has. -/
def hexWidth? : Char → Option Nat
  | 'x' => some 2
  | 'u' => some 4
  | 'U' => some 8
  | _ => none

/-- The code point that exactly `width` hexadecimal digits at the front give, if there is one. -/
def hexEscape? (width : Nat) (cs : List Char) : Option Nat :=
  let ds := (cs.take width).filter fun c => (hexValue? c).isSome
  if ds.length == width && ofHex ds ≤ 0x10FFFF then some (ofHex ds) else none

/-- The code point of the character whose name stands between braces at the front, and the length of
name and braces. -/
def nameEscape? : List Char → Option (Nat × Nat)
  | '\x7b' :: cs =>
    let name := cs.takeWhile (· != '\x7d')
    if name.length < cs.length && !name.isEmpty then
      (ofName? (String.ofList name)).map fun n => (n, name.length + 2)
    else none
  | _ => none

def isOctalDigit (c : Char) : Bool := '0' ≤ c && c ≤ '7'

/-- What an escape stands for, and its length after the backslash; none if it is malformed. -/
def escape? : List Char → Option (List Nat × Nat)
  | [] => none
  | c :: cs =>
    match simpleEscape? c with
    | some ns => some (ns, 1)
    | none =>
      match hexWidth? c with
      | some width => (hexEscape? width cs).map fun n => ([n], width + 1)
      | none =>
        if c == 'N' then (nameEscape? cs).map fun (n, length) => ([n], length + 1)
        else
          let digits := ((c :: cs).takeWhile isOctalDigit).take 3
          if digits.isEmpty then some ([backslash, c.toNat], 1)
          else some ([digits.foldl (fun m d => 8 * m + (d.toNat - 48)) 0], digits.length)

/-- Decodes a run of characters that can be part of escapes. Every step takes at least one
character, so the length of the run bounds their number. -/
def decodeRun? : Nat → List Char → Option (List Nat)
  | _, [] => some []
  | 0, _ :: _ => none
  | fuel + 1, '\\' :: cs =>
    match escape? cs with
    | none => none
    | some (ns, length) => (decodeRun? fuel (cs.drop length)).map (ns ++ ·)
  | fuel + 1, c :: cs => (decodeRun? fuel cs).map (c.toNat :: ·)

/-- Decodes the escapes in a text, where `run` are the characters read since the last one that
cannot be part of an escape, the last of them first. -/
def decodeFrom? (run : List Char) : List Char → Option (List Nat)
  | [] => decodeRun? run.length run.reverse
  | c :: cs =>
    if isEscapable c then decodeFrom? (c :: run) cs
    else do
      let before ← decodeRun? run.length run.reverse
      let after ← decodeFrom? [] cs
      some (before ++ c.toNat :: after)

/-- The code points of a text whose escapes are decoded; none if one is malformed. -/
def decodeEscapes? (s : String) : Option (List Nat) :=
  decodeFrom? [] s.toList

end Text
end Wdl
