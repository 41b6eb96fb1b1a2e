import Wdl.Pattern.Basic
import Wdl.Text.Grapheme
import Wdl.Text.WordBreak

/-!
Positions in a text.

An anchor holds at a position because of the characters around it.
-/

namespace Wdl
namespace Anchor

/-- The characters that end a line. -/
def isLineBreak (n : Nat) : Bool :=
  (0xA ≤ n && n ≤ 0xD) || n == 0x85 || n == 0x2028 || n == 0x2029

/-- The character before a position. -/
def before? (text : Array Nat) : Nat → Option Nat
  | 0 => none
  | i + 1 => text[i]?

/-- Whether a character is part of a word. -/
def isWord (ascii : Bool) (n : Nat) : Bool :=
  Text.Property.word.contains n && (!ascii || n < 0x80)

def wordBefore (ascii : Bool) (text : Array Nat) (i : Nat) : Bool :=
  (before? text i).any (isWord ascii)

def wordAfter (ascii : Bool) (text : Array Nat) (i : Nat) : Bool :=
  text[i]?.any (isWord ascii)

/-- Whether a boundary of a finer kind is at a position, by what stands before and after it. -/
def split (boundary : List Nat → List Nat → Bool) (text : Array Nat) (i : Nat) : Bool :=
  boundary (text.extract 0 i).toList.reverse (text.extract i text.size).toList

def pieceBoundaryAt (text : Array Nat) (i : Nat) : Bool :=
  split Text.WordBreak.isBoundary text i

def graphemeBoundaryAt (text : Array Nat) (i : Nat) : Bool :=
  split Text.Grapheme.isBoundary text i

/-- Where the separator begins that ends the last line, if one does. -/
def finalBreak? (text : Array Nat) : Option Nat :=
  let n := text.size
  if !(before? text n).any isLineBreak then none
  else if before? text n == some 0xA && before? text (n - 1) == some 0xD then some (n - 2)
  else some (n - 1)

/-- Whether a position lies inside the two characters of one line separator. -/
def insideBreak (text : Array Nat) (i : Nat) : Bool :=
  before? text i == some 0xD && text[i]? == some 0xA

/-- Whether an anchor holds at a position of a text that is searched from `origin`. -/
def holdsAt (text : Array Nat) (origin i : Nat) : Anchor → Bool
  | .textStart => i == 0
  | .textEnd => i == text.size
  | .lastLineEnd => i == text.size || (i + 1 == text.size && text[i]? == some 0xA)
  | .lineStart => i == 0 || before? text i == some 0xA
  | .lineEnd => i == text.size || text[i]? == some 0xA
  | .lastLineBreak => i == text.size || finalBreak? text == some i
  | .afterLineBreak => i == 0 || ((before? text i).any isLineBreak && !insideBreak text i)
  | .beforeLineBreak => i == text.size || (text[i]?.any isLineBreak && !insideBreak text i)
  | .wordBoundary ascii => wordBefore ascii text i != wordAfter ascii text i
  | .noWordBoundary ascii => wordBefore ascii text i == wordAfter ascii text i
  | .wordStart ascii => !wordBefore ascii text i && wordAfter ascii text i
  | .wordEnd ascii => wordBefore ascii text i && !wordAfter ascii text i
  | .pieceBoundary => pieceBoundaryAt text i
  | .noPieceBoundary => !pieceBoundaryAt text i
  | .pieceStart => pieceBoundaryAt text i && !wordBefore false text i && wordAfter false text i
  | .pieceEnd => pieceBoundaryAt text i && wordBefore false text i && !wordAfter false text i
  | .searchStart => i == origin

end Anchor
end Wdl
