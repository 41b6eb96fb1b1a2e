import Wdl.Pattern.Source
import Wdl.Text.CharName
import Wdl.Text.PropertyName

/-!
Reading classes of characters.

A class is written between brackets, as an escape with a letter, or by the name of a property. Where
nested sets are allowed, brackets may hold further brackets and the operations `||`, `~~`, `&&` and
`--`, which bind in this order, the last the most.
-/

namespace Wdl
namespace Pattern

open Reader

/-- The number of hexadecimal digits that an escape with a letter has. -/
def hexLength? : Char → Option Nat
  | 'x' => some 2
  | 'u' => some 4
  | 'U' => some 8
  | _ => none

/-- Takes exactly `n` hexadecimal digits. -/
def hexDigits : Nat → Reader (List Char)
  | 0 => pure []
  | n + 1 => do
    match ← take? with
    | some c => if (Text.hexValue? c).isSome then return c :: (← hexDigits n) else reject
    | none => reject

/-- Reads the code point of a numeric escape with `n` digits. -/
def hexEscape (n : Nat) : Reader Nat := do
  let code := Text.ofHex (← hexDigits n)
  if code < 0x110000 then return code else reject

def isOctal (c : Char) : Bool := '0' ≤ c && c ≤ '7'

/-- The value of octal digits. -/
def octal (ds : List Char) : Nat :=
  ds.foldl (fun m d => 8 * m + (d.toNat - 48)) 0

/-- Takes up to `n` octal digits. -/
def octalDigits : Nat → Reader (List Char)
  | 0 => pure []
  | n + 1 => do
    let rest := (← get).rest
    match ← take? with
    | some c => if isOctal c then return c :: (← octalDigits n) else back rest; return []
    | none => back rest; return []

/-- Reads the code point of an octal escape that begins with a given digit. -/
def octalEscape (c : Char) : Reader Nat := do
  unless isOctal c do reject
  return octal (c :: (← octalDigits 2))

/-- The character that an escape with a letter stands for, in patterns and replacements alike. -/
def controlOf? : Char → Option Nat
  | 'a' => some 7
  | 'b' => some 8
  | 'f' => some 12
  | 'n' => some 10
  | 'r' => some 13
  | 't' => some 9
  | 'v' => some 11
  | _ => none

/-- The property that an escape with a letter stands for, and whether it has to hold. -/
def propertyOf? : Char → Option (String × Bool)
  | 'd' => some ("Digit", true)
  | 'D' => some ("Digit", false)
  | 'h' => some ("Blank", true)
  | 's' => some ("Space", true)
  | 'S' => some ("Space", false)
  | 'w' => some ("Word", true)
  | 'W' => some ("Word", false)
  | _ => none

/-- The class of the characters that have a property, or have it not. -/
def propertyClass (s : Text.NamedSet) (ascii holds : Bool) : CharClass :=
  let s := if ascii then s.toAscii else s
  if holds then .property s.set s.caseless else .complement (.property s.set s.caseless)

/-- Reads the name of a character in braces; without braces, the letter stands for itself. -/
def namedChar : Reader Nat := do
  let rest := (← get).rest
  if ← accept "\x7b" then
    let name ← takeWhileRaw fun c => c.isAlphanum || c == ' ' || c == '-'
    if ← accept "\x7d" then
      let name := String.ofList name
      match Text.ofName? name, Text.sequenceLength? name with
      | some n, _ => return n
      | none, some count => throw (.several count)
      | none, none => reject
  back rest
  return 'N'.toNat

def isNamePart (c : Char) : Bool :=
  c.isAlphanum || [' ', '&', '_', '-', '.'].contains c

/-- Reads the name of a property, perhaps with a value. -/
def propertyName : Reader (Option String × String) := do
  let name := String.ofList (← takeWhile isNamePart)
  let rest := (← get).rest
  match ← take? with
  | some c =>
    if c == ':' || c == '=' then
      let value ← takeWhile fun c => isNamePart c || c == '/'
      let value := Text.trim (String.ofList value)
      if value.isEmpty then
        back rest
        return (none, name)
      return (some name, value)
    back rest
    return (none, name)
  | none => back rest; return (none, name)

/-- Looks up a property. A name that is a number has to be a finite one. -/
def lookup (property : Option String) (value : String) (bracketed : Bool) :
    Reader Text.NamedSet := do
  if (property.toList ++ [value]).any (Text.NumericName.ofName? · == some .infinite) then
    throw (.invalid "cannot convert float infinity to integer")
  require (Text.Property.find? property value bracketed)

/-- Reads a property after the letter of its escape; without braces or a single capital letter, the
letter stands for itself. -/
def propertyEscape (letter : Char) : Reader CharClass := do
  let holds := letter == 'p'
  let ascii ← asciiClass
  let rest := (← get).rest
  match ← take? with
  | some '\x7b' =>
    let negated ← accept "^"
    let (property, value) ← propertyName
    if ← accept "\x7d" then
      let s ← lookup property value false
      return propertyClass s ascii (holds != negated)
  | some c =>
    if ['C', 'L', 'M', 'N', 'P', 'S', 'Z'].contains c then
      let s ← lookup none c.toString false
      return propertyClass s ascii holds
  | none => pure ()
  back rest
  return .char letter.toNat

/-- Reads an escape that stands for a character or a class, wherever it is written. -/
def commonEscape? (c : Char) : Reader (Option CharClass) := do
  match hexLength? c, propertyOf? c with
  | some n, _ => return some (.char (← hexEscape n))
  | none, some (name, holds) =>
    let s ← lookup none name false
    return some (propertyClass s (← asciiClass) holds)
  | none, none =>
    if c == 'N' then return some (.char (← namedChar))
    if c == 'p' || c == 'P' then return some (← propertyEscape c)
    return none

/-- Reads an escape between brackets, after the backslash. -/
def memberEscape : Reader CharClass := do
  match ← take? with
  | none => reject
  | some c =>
    if let some a ← commonEscape? c then return a
    if c == 'g' then return .char c.toNat
    if c.isAlpha then return .char (← require (controlOf? c))
    if c.isDigit then return .char (← octalEscape c)
    return .char c.toNat

/-- Reads a property between brackets and colons, after the opening. -/
def bracketedProperty : Reader CharClass := do
  let negated ← accept "^"
  let (property, value) ← propertyName
  unless ← accept ":]" do throw .otherwise
  let s ← lookup property value true
  return propertyClass s (← asciiOnly) !negated

/-- The united members of a class. -/
def unite : List CharClass → CharClass
  | [] => .property .none .none
  | a :: as => as.foldl .union a

/-- The signs of the operations on classes. -/
def classOperators : List String := ["||", "~~", "&&", "--"]

/-- Whether the sign of an operation comes next. -/
def atOperator : Reader Bool := do
  let r ← get
  return r.flags.contains .nestedSets &&
    classOperators.any fun o => (after? id o.toList r.rest).isSome

mutual

/-- Reads a character, a class or nested brackets. -/
def member : Nat → Reader CharClass
  | 0 => reject
  | fuel + 1 => do
    if ← accept "\\" then return ← memberEscape
    let rest := (← get).rest
    if ← accept "[:" then
      return ← Reader.orElse (· == .otherwise) bracketedProperty do
        back rest
        plainMember fuel
    plainMember fuel

/-- Reads a character or nested brackets. -/
def plainMember : Nat → Reader CharClass
  | 0 => reject
  | fuel + 1 => do
    match ← take? with
    | none => reject
    | some c =>
      unless c == '[' && (← has .nestedSets) do return .char c.toNat
      let negated ← accept "^"
      let a ← operation fuel classOperators
      expect "]"
      return if negated then .complement a else a

/-- Reads a member, which may be a range. A hyphen that forms no range stands for itself. -/
def memberOrRange : Nat → Reader CharClass
  | 0 => reject
  | fuel + 1 => do
    let a ← member fuel
    match a with
    | .char lo =>
      if ← atOperator then return a
      unless ← accept "-" do return a
      let behind := (← get).rest
      if ← accept "]" then
        back behind
        return .union a (.char '-'.toNat)
      match ← member fuel with
      | .char hi =>
        if hi < lo then reject
        else return if lo == hi then a else .range lo hi
      | b => return .union (.union a (.char '-'.toNat)) b
    | _ => return a

/-- Reads the members that stand side by side, at least one. -/
def members : Nat → List CharClass → Reader CharClass
  | 0, _ => reject
  | fuel + 1, done => do
    let rest := (← get).rest
    if !done.isEmpty then
      if (← accept "]") || (← atOperator) then
        back rest
        return unite done.reverse
    members fuel ((← memberOrRange fuel) :: done)

/-- Reads classes with operations between them, of which the first binds the least. -/
def operation : Nat → List String → Reader CharClass
  | 0, _ => reject
  | fuel + 1, [] => members fuel []
  | fuel + 1, o :: os => do
    let a ← operation fuel os
    operands fuel o os a

/-- Reads further classes behind an operation. -/
def operands : Nat → String → List String → CharClass → Reader CharClass
  | 0, _, _, _ => reject
  | fuel + 1, o, os, a => do
    if ← accept o then
      let b ← operation fuel os
      let c := match o with
        | "||" => .union a b
        | "~~" => .symmDiff a b
        | "&&" => .inter a b
        | _ => .diff a b
      operands fuel o os c
    else return a

end

/-- Reads a class after its opening bracket. -/
def charClass : Reader CharClass := do
  let skipping := (← get).skipping
  modify fun r => { r with skipping := false }
  let negated ← accept "^"
  let fuel := 8 * (← get).rest.length + 16
  let a ← if ← has .nestedSets then operation fuel classOperators else members fuel []
  expect "]"
  modify fun r => { r with skipping }
  return if negated then .complement a else a

end Pattern
end Wdl
