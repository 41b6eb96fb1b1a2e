/-!
Flags: the ways in which a pattern can be read.

A flag is written as a letter. Some flags hold for a whole pattern, wherever they are set; the
others hold from where they are set to the end of the group.
-/

namespace Wdl
namespace Pattern

/-- A way to read or to match a pattern. -/
inductive Flag
  /-- only ASCII counts for classes and case -/
  | ascii
  /-- of all matches, one with the fewest errors is wanted -/
  | best
  /-- a match is looked through for one with fewer errors -/
  | enhance
  /-- letters that stand for several letters count as these -/
  | fullCase
  | ignoreCase
  | locale
  | multiline
  | posix
  /-- the text is searched from its end -/
  | reverse
  | dotAll
  | unicode
  | plainSets
  /-- brackets may hold operations on classes -/
  | nestedSets
  | wordBreaks
  | verbose
  deriving DecidableEq, Repr

namespace Flag

/-- Whether a flag holds for the whole pattern. -/
def isGlobal : Flag → Bool
  | .best => true
  | .enhance => true
  | .posix => true
  | .reverse => true
  | .plainSets => true
  | .nestedSets => true
  | _ => false

/-- Whether a flag says which characters there are. -/
def isEncoding : Flag → Bool
  | .ascii => true
  | .locale => true
  | .unicode => true
  | _ => false

/-- The flag that is written by one letter. -/
def ofLetter? : Char → Option Flag
  | 'a' => some .ascii
  | 'b' => some .best
  | 'e' => some .enhance
  | 'f' => some .fullCase
  | 'i' => some .ignoreCase
  | 'L' => some .locale
  | 'm' => some .multiline
  | 'p' => some .posix
  | 'r' => some .reverse
  | 's' => some .dotAll
  | 'u' => some .unicode
  | 'w' => some .wordBreaks
  | 'x' => some .verbose
  | _ => none

/-- The flag that is written by a letter and a digit. -/
def ofDigit? : Char → Option Flag
  | '0' => some .plainSets
  | '1' => some .nestedSets
  | _ => none

/-- Flags with some added and others taken away. -/
def change (flags on off : List Flag) : List Flag :=
  (flags ++ on).filter fun f => !off.contains f

/-- The flags that a pattern is read with, given those that hold for the whole of it. -/
def initial (global : List Flag) : List Flag :=
  if global.contains .nestedSets then .fullCase :: global else global

end Flag
end Pattern
end Wdl
