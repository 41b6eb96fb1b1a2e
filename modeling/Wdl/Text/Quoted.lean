import Wdl.Text.Digits
import Wdl.Text.Printable

/-!
Two quoted forms of a text.

`Text.jsonQuoted` is the JSON string that uses ASCII characters only. `Text.quoted` is the form in
which messages show a name: in single quotes unless only double quotes avoid an escape, with
unprintable characters escaped.
-/

namespace Wdl
namespace Text

/-- The UTF-16 units of a code point, each written as a JSON escape. -/
def unitEscapes (n : Nat) : List Char :=
  if n < 0x10000 then '\\' :: 'u' :: hex 4 n
  else
    let m := n - 0x10000
    ('\\' :: 'u' :: hex 4 (0xD800 + m / 0x400)) ++ ('\\' :: 'u' :: hex 4 (0xDC00 + m % 0x400))

/-- A character inside a JSON string. -/
def jsonChar (c : Char) : List Char :=
  match c.toNat with
  | 0x22 => ['\\', c]
  | 0x5C => ['\\', c]
  | 0x0A => ['\\', 'n']
  | 0x0D => ['\\', 'r']
  | 0x09 => ['\\', 't']
  | 0x08 => ['\\', 'b']
  | 0x0C => ['\\', 'f']
  | n => if 0x20 ≤ n && n ≤ 0x7E then [c] else unitEscapes n

/-- A text as a JSON string of ASCII characters. -/
def jsonQuoted (s : String) : String :=
  "\"" ++ String.ofList (s.toList.flatMap jsonChar) ++ "\""

/-- The single quote, which delimits most quoted names. -/
def singleQuote : Char := Char.ofNat 0x27

/-- The double quote. -/
def doubleQuote : Char := Char.ofNat 0x22

/-- A character inside a quoted name that is delimited by `delimiter`. -/
def quotedChar (delimiter : Char) (c : Char) : List Char :=
  let n := c.toNat
  if c == delimiter || c == '\\' then ['\\', c]
  else if n == 0x0A then ['\\', 'n']
  else if n == 0x0D then ['\\', 'r']
  else if n == 0x09 then ['\\', 't']
  else if isPrintable c then [c]
  else if n < 0x100 then '\\' :: 'x' :: hex 2 n
  else if n < 0x10000 then '\\' :: 'u' :: hex 4 n
  else '\\' :: 'U' :: hex 8 n

/-- A text as messages show it. -/
def quoted (s : String) : String :=
  let cs := s.toList
  let delimiter :=
    if cs.contains singleQuote && !cs.contains doubleQuote then doubleQuote else singleQuote
  String.ofList (delimiter :: cs.flatMap (quotedChar delimiter) ++ [delimiter])

/-- A list of texts as messages show it. -/
def quotedList (ss : List String) : String :=
  "[" ++ ", ".intercalate (ss.map quoted) ++ "]"

end Text
end Wdl
