import Wdl.Text.Property
import Wdl.Text.Valued

/-!
What a reader takes for one character.

A letter with its marks, a Korean syllable, a flag or a joined picture consists of several
characters. `Grapheme.isBoundary` says between which characters of a text such units end.
-/

namespace Wdl
namespace Text
namespace Grapheme

/-- How a character joins with its neighbours. -/
inductive Kind
  | carriageReturn | lineFeed | control | extend | joiner | flag | prepend | spacingMark
  | lead | vowel | tail | leadVowel | leadVowelTail | other
  deriving DecidableEq, Repr

/-- Signs that join with the character after them. -/
def prepended : CharSet :=
  .ofText "600-605 6DD 70F 890-891 8E2 D4E 110BD 110CD 111C2-111C3 113D1 1193F 11941 11A84-11A89
    11D46 11F02"

/-- Marks that take up space and join with the character before them. -/
def spacingMarks : CharSet :=
  .ofText "903 93B 93E-940 949-94C 94E-94F 982-983 9BF-9C0 9C7-9C8 9CB-9CC A03 A3E-A40 A83 ABE-AC0
    AC9 ACB-ACC B02-B03 B40 B47-B48 B4B-B4C BBF BC1-BC2 BC6-BC8 BCA-BCC C01-C03 C41-C44 C82-C83
    CBE CC1 CC3-CC4 CF3 D02-D03 D3F-D40 D46-D48 D4A-D4C D82-D83 DD0-DD1 DD8-DDE DF2-DF3 E33 EB3
    F3E-F3F F7F 1031 103B-103C 1056-1057 1084 17B6 17BE-17C5 17C7-17C8 1923-1926 1929-192B
    1930-1931 1933-1938 1A19-1A1A 1A55 1A57 1A6D-1A72 1B04 1B3E-1B41 1B82 1BA1 1BA6-1BA7 1BE7
    1BEA-1BEC 1BEE 1C24-1C2B 1C34-1C35 1CE1 1CF7 A823-A824 A827 A880-A881 A8B4-A8C3 A952 A983
    A9B4-A9B5 A9BA-A9BB A9BE-A9BF AA2F-AA30 AA33-AA34 AA4D AAEB AAEE-AAEF AAF5 ABE3-ABE4 ABE6-ABE7
    ABE9-ABEA ABEC 11000 11002 11082 110B0-110B2 110B7-110B8 1112C 11145-11146 11182 111B3-111B5
    111BF 111CE 1122C-1122E 11232-11233 112E0-112E2 11302-11303 1133F 11341-11344 11347-11348
    1134B-1134C 11362-11363 113B9-113BA 113CA 113CC-113CD 11435-11437 11440-11441 11445
    114B1-114B2 114B9 114BB-114BC 114BE 114C1 115B0-115B1 115B8-115BB 115BE 11630-11632
    1163B-1163C 1163E 116AC 116AE-116AF 1171E 11726 1182C-1182E 11838 11931-11935 11937-11938
    11940 11942 119D1-119D3 119DC-119DF 119E4 11A39 11A57-11A58 11A97 11B61 11B65 11B67 11C2F
    11C3E 11CA9 11CB1 11CB4 11D8A-11D8E 11D93-11D94 11D96 11EF5-11EF6 11F03 11F34-11F35
    11F3E-11F3F 1612A-1612C 16F51-16F87"

/-- Code points that are set aside for controls. -/
def unseen : CharSet := .ofText "2065 FFF0-FFF8 E0000 E0002-E001F E0080-E00FF E01F0-E0FFF"

/-- Signs that join the consonants of a cluster. -/
def linkers : CharSet :=
  .ofText "94D 9CD ACD B4D C4D D4D 1039 17D2 1A60 1B44 1BAB A9C0 AAF6 10A3F 11133 113D0 1193E
    11A47 11A99 11F42"

/-- Consonants that form clusters. -/
def consonants : CharSet :=
  .ofText "915-939 958-95F 978-97F 995-9A8 9AA-9B0 9B2 9B6-9B9 9DC-9DD 9DF 9F0-9F1 A95-AA8 AAA-AB0
    AB2-AB3 AB5-AB9 AF9 B15-B28 B2A-B30 B32-B33 B35-B39 B5C-B5D B5F B71 C15-C28 C2A-C39 C58-C5A
    D15-D3A 1000-102A 103F 1050-1055 105A-105D 1061 1065-1066 106E-1070 1075-1081 108E 1780-17B3
    1A20-1A54 1B0B-1B0C 1B13-1B33 1B45-1B4C 1B83-1BA0 1BAE-1BAF 1BBB-1BBD A989-A98B A98F-A9B2
    A9E0-A9E4 A9E7-A9EF A9FA-A9FE AA60-AA6F AA71-AA73 AA7A AA7E-AA7F AAE0-AAEA ABC0-ABDA 10A00
    10A10-10A13 10A15-10A17 10A19-10A35 11103-11126 11144 11147 11380-11389 1138B 1138E
    11390-113B5 11900-11906 11909 1190C-11913 11915-11916 11918-1192F 11A00 11A0B-11A32 11A50
    11A5C-11A83 11F04-11F10 11F12-11F33"

/-- The parts of Korean syllables that come first. -/
def leads : CharSet := .ofText "1100-115F A960-A97C"

/-- The parts of Korean syllables that come second. -/
def koreanVowels : CharSet := .ofText "1160-11A7 D7B0-D7C6"

def vowels : CharSet := .union koreanVowels (.ofText "16D63 16D67-16D6A")

def tails : CharSet := .ofText "11A8-11FF D7CB-D7FB"

/-- Korean syllables. -/
def syllables : CharSet := .interval 0xAC00 0xD7A3

/-- Korean syllables that end in a vowel. -/
def openSyllables : CharSet := .ofText "AC00-D788/1C"

def closedSyllables : CharSet := .diff syllables openSyllables

/-- Characters that join with the one before them and take up no space. -/
def extending : CharSet := .union Property.graphemeExtend Property.emojiModifier

def controls : CharSet :=
  .diff
    (.union unseen (Category.sets [.control, .format, .lineSeparator, .paragraphSeparator]))
    (.unions [.ofText "A D 200D", extending, prepended])

/-- The code points of a kind, apart from those of no particular kind. -/
def Kind.set : Kind → CharSet
  | .carriageReturn => .single 0xD
  | .lineFeed => .single 0xA
  | .control => controls
  | .extend => extending
  | .joiner => .single 0x200D
  | .flag => Property.regionalIndicator
  | .prepend => prepended
  | .spacingMark => spacingMarks
  | .lead => leads
  | .vowel => vowels
  | .tail => tails
  | .leadVowel => openSyllables
  | .leadVowelTail => closedSyllables
  | .other => .none

/-- The kinds that a property distinguishes, with their names. -/
def kindNames : List (List String × Kind) :=
  [(["CN", "Control"], .control), (["CR"], .carriageReturn), (["EX", "Extend"], .extend),
   (["L"], .lead), (["LF"], .lineFeed), (["LV"], .leadVowel), (["LVT"], .leadVowelTail),
   (["PP", "Prepend"], .prepend), (["RI", "Regional_Indicator"], .flag),
   (["SM", "SpacingMark"], .spacingMark), (["T"], .tail), (["V"], .vowel), (["ZWJ"], .joiner),
   (["EB", "E_Base"], .other), (["EBG", "E_Base_GAZ"], .other), (["EM", "E_Modifier"], .other),
   (["GAZ", "Glue_After_Zwj"], .other)]

/-- The kind of a code point. -/
def kind (n : Nat) : Kind :=
  ((kindNames.map (·.2)).find? (·.set.contains n)).getD .other

/-- How a character joins with its neighbours. -/
def breakProperty : Valued where
  names := ["GCB", "Grapheme_Cluster_Break"]
  usual := ["XX", "Other"]
  values := .mk fun _ => kindNames.map fun k => (k.1, k.2.set)

/-- The part of a character in a Korean syllable. -/
def syllableProperty : Valued where
  names := ["hst", "Hangul_Syllable_Type"]
  usual := ["NA", "Not_Applicable"]
  values := .mk fun _ =>
    [(["L", "Leading_Jamo"], leads), (["V", "Vowel_Jamo"], koreanVowels),
     (["T", "Trailing_Jamo"], tails), (["LV", "LV_Syllable"], openSyllables),
     (["LVT", "LVT_Syllable"], closedSyllables)]

/-- The part of a character in a cluster of consonants. -/
def clusterProperty : Valued where
  names := ["InCB", "Indic_Conjunct_Break"]
  usual := ["None"]
  values := .mk fun _ =>
    [(["Consonant"], consonants), (["Linker"], linkers),
     (["Extend"], .diff (.union extending (.single 0x200D)) (.union linkers (.single 0x200C)))]

/-- Whether a syllable goes on between two of its parts. -/
def joinsSyllable : Kind → Kind → Bool
  | .lead, .lead => true
  | .lead, .vowel => true
  | .lead, .leadVowel => true
  | .lead, .leadVowelTail => true
  | .leadVowel, .vowel => true
  | .leadVowel, .tail => true
  | .vowel, .vowel => true
  | .vowel, .tail => true
  | .leadVowelTail, .tail => true
  | .tail, .tail => true
  | _, _ => false

def isEnding : Kind → Bool
  | .carriageReturn => true
  | .lineFeed => true
  | .control => true
  | _ => false

/-- Whether a character may stand between the consonants of a cluster. -/
def isClusterMark (n : Nat) : Bool :=
  n != 0x200C && (kind n == .extend || kind n == .joiner)

/-- Whether characters, the last first, end in a consonant and then marks, at least one of which
links consonants. -/
def endsInLink (before : List Nat) : Bool :=
  let marks := before.takeWhile fun n => isClusterMark n || linkers.contains n
  marks.any linkers.contains && (before.drop marks.length).head?.any consonants.contains

/-- Whether characters, the last first, end in a picture and a joiner. -/
def endsInPicture (before : List Nat) : Bool :=
  match before with
  | 0x200D :: before =>
    (before.dropWhile fun n => kind n == .extend).head?.any Property.extendedPictographic.contains
  | _ => false

/-- Whether a unit ends between the characters before a place, the last first, and those after it.
There is no unit in an empty text. -/
def isBoundary (before after : List Nat) : Bool :=
  match before, after with
  | [], [] => false
  | [], _ :: _ => true
  | _ :: _, [] => true
  | a :: _, b :: _ =>
    let (ka, kb) := (kind a, kind b)
    if ka == .carriageReturn && kb == .lineFeed then false
    else if isEnding ka || isEnding kb then true
    else if joinsSyllable ka kb then false
    else if kb == .extend || kb == .joiner || kb == .spacingMark || ka == .prepend then false
    else if consonants.contains b && endsInLink before then false
    else if Property.extendedPictographic.contains b && endsInPicture before then false
    else if ka == .flag && kb == .flag then
      (before.takeWhile fun n => kind n == .flag).length % 2 == 0
    else true

end Grapheme
end Text
end Wdl
