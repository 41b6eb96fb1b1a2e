import Wdl.Decimal.Reader
import Wdl.Text.Block
import Wdl.Text.Grapheme
import Wdl.Text.Property
import Wdl.Text.Script
import Wdl.Text.Valued.Breaks
import Wdl.Text.Valued.Composition
import Wdl.Text.Valued.Numeric
import Wdl.Text.Valued.Setting
import Wdl.Text.Valued.Shaping
import Wdl.Text.WordBreak

/-!
Looking properties up by name.

A property is named with its value, as in `Script=Greek`, or a value is named alone: that of a
category, a script or a block. A property that either holds or does not is named alone too. Names
are compared without regard to case, blanks, hyphens and underscores, and numbers by their values.

A number is named in many ways, as a decimal or as a fraction. Two of them are the same name if they
lead to the same fraction, which is the first convergent of the number that is near enough.
-/

namespace Wdl
namespace Text

/-! ## Names that are numbers -/

/-- What a name that is a number stands for. -/
inductive NumericName
  /-- a number that has been written as a fraction -/
  | fraction (text : String)
  /-- a number that is too large to be one -/
  | infinite
  deriving DecidableEq, Repr

namespace NumericName

/-- The first convergent of `n / d` whose remainder is less than a ten-thousandth. -/
def convergent (n d : Nat) : Nat × Nat :=
  if h : d ≤ 10000 * (n % d) ∧ 0 < d then
    have := Nat.mod_lt n h.2
    let (a, b) := convergent d (n % d)
    (n / d * a + b, a)
  else (n / d, 1)
termination_by d

/-- The magnitude of a number as a quotient; nothing if it is not finite. -/
def magnitude (n : Decimal.Numeral) : Option (Nat × Nat) :=
  let digits := ofDigits (n.whole ++ n.fraction)
  let places := n.exponent - (n.fraction.length : Int)
  if digits == 0 || places < -400 then some (0, 1)
  else if 400 < places then none
  else if places < 0 then some (digits, Nat.pow 10 (-places).toNat)
  else if digits * Nat.pow 10 places.toNat < Nat.pow 2 1024 then some (digits * Nat.pow 10 places.toNat, 1)
  else none

/-- Reads a decimal: whether it is negative, and its magnitude. -/
def decimal? (cs : List Char) : Option (Bool × Option (Nat × Nat)) :=
  let cs := trimChars cs
  let (negative, cs) := match cs with
    | '-' :: cs => (true, cs)
    | cs => (false, cs)
  if ["inf", "infinity"].contains (lower (String.ofList cs)) then some (negative, none)
  else match Decimal.readNumeral? cs with
    | some (n, []) => some (negative, magnitude n)
    | _ => none

/-- The number that a name is, if it is one. -/
def ofName? (name : String) : Option NumericName :=
  let (sign, cs) := match name.toList with
    | '-' :: cs => ("-", cs)
    | cs => ("", cs)
  let write (n d : Nat) : NumericName :=
    match convergent n d with
    | (a, 1) => .fraction (sign ++ toString a)
    | (a, b) => .fraction (sign ++ toString a ++ "/" ++ toString b)
  match (splitChars (· == '/') cs).map decimal? with
  | [some (_, none)] => some .infinite
  | [some (false, some (n, d))] => some (write n d)
  | [some (false, some (n, d)), some (false, some (a, b))] =>
    if a == 0 then none else some (write (n * b) (d * a))
  | [some _] => some (.fraction name)
  | [some _, some _] => some (.fraction name)
  | _ => none

end NumericName

/-! ## Names with values -/

/-- What a name of a property stands for. -/
structure NamedSet where
  set : CharSet
  /-- the code points that are meant when case does not matter -/
  caseless : CharSet
  /-- whether the code points beyond ASCII are meant when only ASCII counts -/
  beyondAscii : Bool

namespace NamedSet

def ofSet (s : CharSet) : NamedSet := ⟨s, s, false⟩

/-- A set restricted to ASCII, with all or none of the other code points. -/
def limit (beyond : Bool) (s : CharSet) : CharSet :=
  if beyond then .union s (.complement .ascii) else .inter s .ascii

/-- The set that is meant when only ASCII counts. -/
def toAscii (s : NamedSet) : NamedSet :=
  ⟨limit s.beyondAscii s.set, limit s.beyondAscii s.caseless, s.beyondAscii⟩

def complement (s : NamedSet) : NamedSet :=
  ⟨.complement s.set, .complement s.caseless, !s.beyondAscii⟩

end NamedSet

namespace Property

/-- A name in the form in which names are compared. -/
def standard (name : String) : String :=
  match NumericName.ofName? name with
  | some (.fraction text) => text
  | _ =>
    let letters := name.toList.filter fun c => c != '_' && c != '-' && c != ' '
    String.ofList (letters.map Char.toUpper)

/-- Whether a name in standard form is one of several names. -/
def isNamed (name : String) (names : List String) : Bool :=
  (names.map standard).contains name

/-- The set of a category. When case does not matter, a letter of one case stands for those of
all. -/
def ofCategory (c : Category) : NamedSet :=
  let caseless :=
    if Category.casedLetters.contains c then Category.sets Category.casedLetters else c.set
  ⟨c.set, caseless, c == .unassigned⟩

def category? (name : String) : Option NamedSet :=
  (((Category.unassigned :: Category.listed).find? (isNamed name ·.names)).map ofCategory).or
    ((Category.groups.find? (isNamed name ·.1)).map fun g => .ofSet g.2)

def script? (name : String) : Option NamedSet :=
  if isNamed name Script.unknown.names then some { NamedSet.ofSet Script.unknown.own with
    beyondAscii := true }
  else (Script.listed.find? (isNamed name ·.names)).map fun s => .ofSet s.own

/-- A script together with what is used with it and a few others. -/
def scriptExtension? (name : String) : Option NamedSet :=
  if isNamed name Script.unknown.names then script? name
  else (Script.listed.find? (isNamed name ·.names)).map fun s => .ofSet s.extended

def block? (name : String) : Option NamedSet :=
  if isNamed name ["NB", "No_Block"] then some { NamedSet.ofSet Block.outside with
    beyondAscii := true }
  else (Block.listed.find? (isNamed name ·.names)).map fun b => .ofSet b.set

/-- A property that either holds or does not. When case does not matter, a letter of one case stands
for those of all. -/
def binary? (name : String) : Option NamedSet :=
  (all.find? (isNamed name ·.1)).map fun p =>
    let ofCase := p.1.contains "Lowercase" || p.1.contains "Uppercase"
    ⟨p.2, if ofCase then cased else p.2, false⟩

/-- A value of a property with more than two values. -/
def value? (v : Valued) (name : String) : Option NamedSet :=
  if isNamed name v.usual then some { NamedSet.ofSet v.rest with beyondAscii := true }
  else (v.values.get.find? (isNamed name ·.1)).map fun x => .ofSet x.2

/-- Properties of which a value is not named alone. -/
def qualified : List Valued :=
  [.direction, .combiningClass, .decomposition, .width, Grapheme.breakProperty,
   Grapheme.syllableProperty, Grapheme.clusterProperty, .indicPosition, .indicSyllable,
   .joiningGroup, .joiningType, .lineBreak, .numericType, .numericValue, .sentenceBreak,
   WordBreak.breakProperty]

/-- The properties with more than two values: their names, the usual value, and how to find a
value. -/
def valued : List (List String × String × (String → Option NamedSet)) :=
  [(["gc", "General_Category"], "CN", category?), (["sc", "Script"], "ZZZZ", script?),
   (["scx", "Script_Extensions"], "ZZZZ", scriptExtension?), (["blk", "Block"], "NB", block?)] ++
  qualified.map fun v => (v.names, standard (v.usual.headD ""), value? v)

/-- The value of a property for the code points that have no other. -/
def usual? (name : String) : Option NamedSet :=
  (valued.find? (isNamed name ·.1)).bind fun v => v.2.2 v.2.1

/-- A value of a property, both in standard form. -/
def ofPair? (property value : String) : Option NamedSet :=
  match valued.find? (isNamed property ·.1) with
  | some v => v.2.2 value
  | none => do
    let p ← binary? property
    if ["YES", "Y", "TRUE", "T"].contains value then some p
    else if ["NO", "N", "FALSE", "F"].contains value then
      some { p.complement with caseless := p.caseless }
    else none

/-- A name without a given beginning. -/
def after? (start name : String) : Option String :=
  if start.toList.isPrefixOf name.toList then
    some (String.ofList (name.toList.drop start.length))
  else none

/-- What a name in standard form stands for alone. -/
def ofValue? (name : String) : Option NamedSet :=
  (category? name).or <| (script? name).or <| (block? name).or <| (binary? name).or <|
    ((usual? name).map NamedSet.complement).or <|
      ((after? "IS" name).bind binary?).or <| ((after? "IS" name).bind script?).or
        ((after? "IN" name).bind block?)

/-- The classes that are narrower between brackets and colons than elsewhere. -/
def narrowed : List String := ["ALNUM", "DIGIT", "PUNCT", "XDIGIT"]

/-- What a written property or value stands for; `bracketed` says whether it stands between brackets
and colons. -/
def find? (property : Option String) (value : String) (bracketed : Bool) : Option NamedSet :=
  let value := standard value
  match property with
  | some p => ofPair? (standard p) value
  | none =>
    ofValue? (if bracketed && narrowed.contains value then "POSIX" ++ value else value)

end Property
end Text
end Wdl
