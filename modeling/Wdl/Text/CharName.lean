import Wdl.Text.Blank
import Wdl.Text.CharName.Alphabets
import Wdl.Text.CharName.Ancient
import Wdl.Text.CharName.EastAsia
import Wdl.Text.CharName.Further
import Wdl.Text.CharName.Pictograms
import Wdl.Text.CharName.Pictures
import Wdl.Text.CharName.Signs
import Wdl.Text.CharName.Syllabaries
import Wdl.Text.CharName.Technical
import Wdl.Text.CharSet

/-!
Names of characters.

A character is found by its name in the tables, where case does not matter. The names of ideographs
end in their code points, and those of Korean syllables in the sounds that they are made of; in the
names of unified ideographs and of syllables, case matters. Some sequences of characters have names
too.
-/

namespace Wdl
namespace Text

/-- Names of consecutive code points: what they all begin with, and how each goes on, with
semicolons and perhaps a new line between them. -/
structure NameBlock where
  first : Nat
  stem : String
  endings : String

namespace NameBlock

/-- Reads a block: the first code point in hexadecimal, a blank, the common start of the names, a
slash and the endings. -/
def ofText? (s : String) : Option NameBlock :=
  match s.splitOn "/" with
  | [head, endings] =>
    let digits := head.toList.takeWhile (· != ' ')
    some ⟨ofHex digits, String.ofList (head.toList.drop (digits.length + 1)), endings⟩
  | _ => none

/-- The code point in a block of the character with a given name. -/
def find? (b : NameBlock) (name : List Char) : Option Nat :=
  if b.stem.toList.isPrefixOf name then
    let ending := String.ofList (name.drop b.stem.length)
    (((b.endings.splitOn ";").map trim).idxOf? ending).map (b.first + ·)
  else none

end NameBlock

/-- The tables of names, in each of which a sign marks the start of every block. -/
def nameTables : List String :=
  [CharName.alphabets, CharName.syllabaries, CharName.signs, CharName.eastAsia, CharName.ancient,
   CharName.pictograms, CharName.technical, CharName.pictures, CharName.further]

/-- The code point of a character whose name is in a table. -/
def inNameTable? (table : String) (name : List Char) : Option Nat :=
  ((table.splitOn "@").filterMap NameBlock.ofText?).findSome? (·.find? name)

/-- Reads a code point at the end of a name: four or five hexadecimal digits in upper case. -/
def codePointEnding? (digits : List Char) : Option Nat :=
  if (digits.length == 4 || digits.length == 5) &&
      digits.all fun c => (hexValue? c).isSome && !c.isLower then
    some (ofHex digits)
  else none

/-- The code point of a character whose name is a stem with the code point behind it. -/
def numbered? (stem : String) (ranges : Ranges) (name : List Char) : Option Nat := do
  guard (stem.toList.isPrefixOf name)
  let n ← codePointEnding? (name.drop stem.length)
  guard (ranges.contains n)
  return n

/-- The unified ideographs. -/
def ideographRanges : Ranges :=
  .ofText "3400-4DBF 4E00-9FFF 20000-2A6DF 2A700-2B738 2B740-2B81D 2B820-2CEA1 2CEB0-2EBE0
    30000-3134A"

/-- The code point of a unified ideograph, from its name. Unlike those of other characters, the code
point may be written with a leading zero. -/
def ideograph? (name : List Char) : Option Nat :=
  numbered? "CJK UNIFIED IDEOGRAPH-" ideographRanges name

/-- Further characters with code points in their names. -/
def numberedNames : List (String × Ranges) :=
  [("CJK COMPATIBILITY IDEOGRAPH-", .ofText "F900-FA6D FA70-FAD9 2F800-2FA1D"),
   ("KHITAN SMALL SCRIPT CHARACTER-", .ofText "18B00-18CD5"),
   ("NUSHU CHARACTER-", .ofText "1B170-1B2FB")]

/-- The code point of a character of the further kinds; no zero may lead. -/
def numberedName? (name : List Char) : Option Nat := do
  let n ← numberedNames.findSome? fun (stem, ranges) => numbered? stem ranges name
  guard (!"-0".toList.isPrefixOf (name.dropWhile (· != '-')))
  return n

/-- What the name of a syllable begins with. -/
def syllableStem : List Char := "HANGUL SYLLABLE ".toList

/-- The sounds that a syllable begins with, in order. -/
def leadSounds : List String :=
  ["G", "GG", "N", "D", "DD", "R", "M", "B", "BB", "S", "SS", "", "J", "JJ", "C", "K", "T", "P",
   "H"]

/-- The sounds in the middle of a syllable, in order. -/
def vowelSounds : List String :=
  ["A", "AE", "YA", "YAE", "EO", "E", "YEO", "YE", "O", "WA", "WAE", "OE", "YO", "U", "WEO", "WE",
   "WI", "YU", "EU", "YI", "I"]

/-- The sounds that a syllable ends in, in order. -/
def tailSounds : List String :=
  ["", "G", "GG", "GS", "N", "NJ", "NH", "D", "L", "LG", "LM", "LB", "LS", "LT", "LP", "LH", "M",
   "B", "BS", "S", "SS", "NG", "J", "C", "K", "T", "P", "H"]

/-- The number of the longest of some sounds that a text begins with, and the text after it. -/
def longestSound? (sounds : List String) (cs : List Char) : Option (Nat × List Char) :=
  let starts := sounds.zipIdx.filter fun s => s.1.toList.isPrefixOf cs
  let longest := starts.foldl (fun n s => max n s.1.length) 0
  (starts.find? fun s => s.1.length == longest).map fun s => (s.2, cs.drop longest)

/-- The code point of a syllable, from its name. -/
def syllable? (name : List Char) : Option Nat := do
  guard (syllableStem.isPrefixOf name)
  let (lead, cs) ← longestSound? leadSounds (name.drop syllableStem.length)
  let (vowel, cs) ← longestSound? vowelSounds cs
  let (tail, cs) ← longestSound? tailSounds cs
  guard cs.isEmpty
  return 0xAC00 + (lead * vowelSounds.length + vowel) * tailSounds.length + tail

/-- The code point of the character with a given name. -/
def ofName? (name : String) : Option Nat :=
  let upper := (name.map Char.toUpper).toList
  (nameTables.findSome? (inNameTable? · upper)).or
    ((numberedName? upper).or ((ideograph? name.toList).or (syllable? name.toList)))

/-- The number of characters in the sequence with a given name. -/
def sequenceLength? (name : String) : Option Nat :=
  let upper := (name.map Char.toUpper).toList
  (((CharName.sequences.splitOn "@").filterMap NameBlock.ofText?).find? fun b =>
    (b.find? upper).isSome).map (·.first)

end Text
end Wdl
