/-!
Blank characters.

`Text.isBlank` is the class that separates words and is trimmed at the ends of a text: the ASCII
controls and separators, and the space-like characters of Unicode.
-/

namespace Wdl
namespace Text

/-- The inclusive code point ranges of the blank characters, in increasing order. -/
def blankRanges : List (Nat × Nat) :=
  [(0x9, 0xD), (0x1C, 0x20), (0x85, 0x85), (0xA0, 0xA0), (0x1680, 0x1680), (0x2000, 0x200A),
   (0x2028, 0x2029), (0x202F, 0x202F), (0x205F, 0x205F), (0x3000, 0x3000)]

/-- Whether a character separates words. -/
def isBlank (c : Char) : Bool :=
  blankRanges.any fun r => r.1 ≤ c.toNat && c.toNat ≤ r.2

/-- A list of characters without the blanks at its right end. -/
def trimRightChars (cs : List Char) : List Char :=
  (cs.reverse.dropWhile isBlank).reverse

/-- A list of characters without the blanks at either end. -/
def trimChars (cs : List Char) : List Char :=
  trimRightChars (cs.dropWhile isBlank)

/-- A text without the blanks at either end. -/
def trim (s : String) : String :=
  String.ofList (trimChars s.toList)

/-- A text without the blanks at its right end. -/
def trimRight (s : String) : String :=
  String.ofList (trimRightChars s.toList)

/-- A text with every blank removed, so that only its words are left, joined. -/
def squeeze (s : String) : String :=
  String.ofList (s.toList.filter fun c => !isBlank c)

/-- The pieces of a list between the elements that satisfy `p`; there is always at least one. -/
def splitChars (p : Char → Bool) : List Char → List (List Char)
  | [] => [[]]
  | c :: cs =>
    match splitChars p cs with
    | [] => [[c]]
    | piece :: rest => if p c then [] :: piece :: rest else (c :: piece) :: rest

/-- The pieces of a text between the occurrences of a character. -/
def splitOn (sep : Char) (s : String) : List String :=
  (splitChars (· == sep) s.toList).map String.ofList

end Text
end Wdl
