import Wdl.Text.Fold
import Wdl.Text.Property
import Wdl.Text.Valued

/-!
Where words begin and end.

A word is what a reader would take for one: letters with the apostrophes and points inside them,
numbers with their marks, a run of blanks. `WordBreak.isBoundary` says between which characters of a
text words and other pieces end.
-/

namespace Wdl
namespace Text
namespace WordBreak

/-- The part of a character in a word. -/
inductive Kind
  | carriageReturn | lineFeed | newline | ignored | flag | katakana | hebrewLetter | letter
  | singleQuote | doubleQuote | midNumLetter | midLetter | midNumber | numeric | connector | space
  | other
  deriving DecidableEq, Repr

def katakanaLetters : CharSet :=
  .ofText "3031-3035 309B-309C 30A0-30FA 30FC-30FF 31F0-31FF 32D0-32FE 3300-3357 FF66-FF9D
    1AFF0-1AFF3 1AFF5-1AFFB 1AFFD-1AFFE 1B000 1B120-1B122 1B155 1B164-1B167"

def hebrewLetters : CharSet :=
  .ofText "5D0-5EA 5EF-5F2 FB1D FB1F-FB28 FB2A-FB36 FB38-FB3C FB3E FB40-FB41 FB43-FB44 FB46-FB4F"

/-- Letters of scripts that are written without blanks between the words. -/
def unspaced : CharSet :=
  .ofText "E01-E30 E32-E33 E40-E46 E81-E82 E84 E86-E8A E8C-EA3 EA5 EA7-EB0 EB2-EB3 EBD EC0-EC4 EC6
    EDC-EDF 1000-102A 103F 1050-1055 105A-105D 1061 1065-1066 106E-1070 1075-1081 108E 1780-17B3
    17D7 17DC 1950-196D 1970-1974 1980-19AB 19B0-19C9 1A20-1A54 1AA7 3041-3096 309D-309F A9E0-A9E4
    A9E6-A9EF A9FA-A9FE AA60-AA76 AA7A AA7E-AAAF AAB1 AAB5-AAB6 AAB9-AABD AAC0 AAC2 AADB-AADD
    11700-1171A 11740-11746 1B001-1B11F 1B132 1B150-1B152"

/-- Signs that stand among letters. -/
def letterSigns : CharSet :=
  .ofText "B8 2C2-2C5 2D2-2D7 2DE-2DF 2E5-2EB 2ED 2EF-2FF 55A-55C 55E 58A 5F3 70F A708-A716
    A720-A721 A789-A78A AB5B"

/-- Characters that belong to the one before them. -/
def extending : CharSet :=
  .union (.single 0x200D)
    (.union Property.graphemeExtend (.union Property.emojiModifier (Category.sets Category.marks)))

def formats : CharSet :=
  .diff (Category.sets [.format])
    (.union Property.prependedConcatenationMark (.ofText "200B-200D E0020-E007F"))

def letters : CharSet :=
  .union letterSigns
    (.diff (.diff Property.alphabetic Property.ideographic)
      (.unions [extending, katakanaLetters, hebrewLetters, unspaced]))

/-- Signs that may stand between letters. -/
def midLetters : CharSet := .ofText "3A B7 387 55F 5F4 2027 FE13 FE55 FF1A"

/-- Signs that may stand between digits. -/
def midNumbers : CharSet :=
  .ofText "2C 3B 37E 589 60C-60D 66C 7F8 2044 FE50 FE54 FF0C FF1B"

/-- Signs that may stand between letters or digits. -/
def midBoth : CharSet := .ofText "2E 2018-2019 2024 FE52 FF07 FF0E"

/-- Signs that hold letters and digits together. -/
def connectors : CharSet := .ofText "5F 202F 203F-2040 2054 FE33-FE34 FE4D-FE4F FF3F"

def newlines : CharSet := .ofText "B-C 85 2028-2029"

def spaces : CharSet := .ofText "20 1680 2000-2006 2008-200A 205F 3000"

/-- Digits, and the signs that stand before or between them. -/
def digits : CharSet :=
  .unions [.ofText "66B 19DA", .diff Property.prependedConcatenationMark (.single 0x70F),
    Category.set .decimalNumber]

/-- The code points of a kind, apart from those of no particular kind. -/
def Kind.set : Kind → CharSet
  | .carriageReturn => .single 0xD
  | .lineFeed => .single 0xA
  | .newline => newlines
  | .ignored => .union extending formats
  | .flag => Property.regionalIndicator
  | .katakana => katakanaLetters
  | .hebrewLetter => hebrewLetters
  | .letter => letters
  | .singleQuote => .single 0x27
  | .doubleQuote => .single 0x22
  | .midNumLetter => midBoth
  | .midLetter => midLetters
  | .midNumber => midNumbers
  | .numeric => digits
  | .connector => connectors
  | .space => spaces
  | .other => .none

/-- The kinds that have code points of their own. -/
def kinds : List Kind :=
  [.carriageReturn, .lineFeed, .newline, .ignored, .flag, .katakana, .hebrewLetter, .letter,
   .singleQuote, .doubleQuote, .midNumLetter, .midLetter, .midNumber, .numeric, .connector, .space]

/-- The kind of a code point. -/
def kind (n : Nat) : Kind :=
  (kinds.find? (·.set.contains n)).getD .other

/-- The part of a character in a word. -/
def breakProperty : Valued where
  names := ["WB", "Word_Break"]
  usual := ["XX", "Other"]
  values := .mk fun _ =>
    [(["CR"], .single 0xD), (["LF"], .single 0xA), (["NL", "Newline"], newlines),
     (["Extend"], .diff extending (.single 0x200D)), (["ZWJ"], .single 0x200D),
     (["FO", "Format"], formats), (["RI", "Regional_Indicator"], Property.regionalIndicator),
     (["KA", "Katakana"], katakanaLetters), (["HL", "Hebrew_Letter"], hebrewLetters),
     (["LE", "ALetter"], letters), (["SQ", "Single_Quote"], .single 0x27),
     (["DQ", "Double_Quote"], .single 0x22), (["MB", "MidNumLet"], midBoth),
     (["ML", "MidLetter"], midLetters), (["MN", "MidNum"], midNumbers),
     (["NU", "Numeric"], digits), (["EX", "ExtendNumLet"], connectors),
     (["WSegSpace"], spaces), (["EB", "E_Base"], .none), (["EBG", "E_Base_GAZ"], .none),
     (["EM", "E_Modifier"], .none), (["GAZ", "Glue_After_Zwj"], .none)]

def isNewline : Kind → Bool
  | .carriageReturn => true
  | .lineFeed => true
  | .newline => true
  | _ => false

def isLetter (k : Kind) : Bool := k == .letter || k == .hebrewLetter

def isMidBoth (k : Kind) : Bool := k == .midNumLetter || k == .singleQuote

/-- Whether a character is a vowel before which an apostrophe ends a word. -/
def isVowel (n : Nat) : Bool :=
  ("aàáâeèéêiìíîoòóôuùúû".toList.map Char.toNat).contains (Fold.simple n)

def isApostrophe (n : Nat) : Bool := n == 0x27 || n == 0x2019

/-- Whether a word goes on between two kinds of characters, given the kinds before and after
them. -/
def joins (beyond : Option Kind) (a b : Kind) (next : Option Kind) : Bool :=
  (isLetter a && isLetter b) ||
  (isLetter a && (b == .midLetter || isMidBoth b) && next.any isLetter) ||
  (beyond.any isLetter && (a == .midLetter || isMidBoth a) && isLetter b) ||
  (a == .hebrewLetter && b == .singleQuote) ||
  (a == .hebrewLetter && b == .doubleQuote && next == some .hebrewLetter) ||
  (beyond == some .hebrewLetter && a == .doubleQuote && b == .hebrewLetter) ||
  ((a == .numeric || isLetter a) && b == .numeric) || (a == .numeric && isLetter b) ||
  (beyond == some .numeric && (a == .midNumber || isMidBoth a) && b == .numeric) ||
  (a == .numeric && (b == .midNumber || isMidBoth b) && next == some .numeric) ||
  (a == .katakana && b == .katakana) ||
  ((isLetter a || a == .numeric || a == .katakana || a == .connector) && b == .connector) ||
  (a == .connector && (isLetter b || b == .numeric || b == .katakana))

def isIgnored (n : Nat) : Bool := kind n == .ignored

/-- The kind of the first character that is not ignored. -/
def nextKind? (ns : List Nat) : Option Kind :=
  (ns.dropWhile isIgnored).head?.map kind

/-- The number of flags that characters begin with. -/
def flagsBefore (ns : List Nat) : Nat :=
  ((ns.takeWhile fun n => isIgnored n || kind n == .flag).filter (!isIgnored ·)).length

/-- Whether a piece ends between the characters before a place, the last first, and those after it.
There is no piece in an empty text. -/
def isBoundary (before after : List Nat) : Bool :=
  match before, after with
  | [], [] => false
  | [], _ :: _ => true
  | _ :: _, [] => true
  | a :: _, b :: rest =>
    let (ka, kb) := (kind a, kind b)
    if ka == .carriageReturn && kb == .lineFeed then false
    else if isNewline ka || isNewline kb then true
    else if a == 0x200D && Property.extendedPictographic.contains b then false
    else if ka == .space && kb == .space then false
    else if kb == .ignored then false
    else if isApostrophe a && isVowel b then true
    else
      match before.dropWhile isIgnored with
      | [] => true
      | a :: beyond =>
        if kind a == .flag && kb == .flag then flagsBefore before % 2 == 0
        else !joins (nextKind? beyond) (kind a) kb (nextKind? rest)

end WordBreak
end Text
end Wdl
