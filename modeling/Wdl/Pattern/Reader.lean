import Wdl.Pattern.Folding
import Wdl.Pattern.ToleranceReader

/-!
Reading patterns.

The written form is that of regular expressions: classes in brackets, groups in parentheses, the
quantifiers `*`, `+`, `?` and the braces with bounds, each with a lazy and a possessive form,
anchors, references and calls to groups, and conditions on the text around a position. A flag that
holds for the whole pattern makes it be read again.
-/

namespace Wdl
namespace Pattern

open Reader

/-- A class as a pattern. Where letters count as several letters, a class also describes the texts
that its members stand for. -/
def ofClass (rule : CaseRule) (c : CharClass) : Pattern :=
  match rule, c with
  | .full, .char _ => .one c .full
  | .full, c =>
    if c.isCompound then choice (.one c .simple :: c.longFolds.map .folded) else .one c .simple
  | rule, c => .one c rule

/-- A group in a reference: its number or its name. -/
inductive GroupName
  | number (n : Nat)
  | named (s : String)
  deriving DecidableEq, Repr

/-- Whether a text can be the name of a group. -/
def isIdentifier : List Char → Bool
  | [] => false
  | c :: cs =>
    (c == '_' || Text.Property.xidStart.holds c) && cs.all Text.Property.xidContinue.holds

/-- The group that a text names; a number has to be at least `least`, if one is allowed. -/
def groupName? (least : Option Nat) (cs : List Char) : Option GroupName :=
  if !cs.isEmpty && cs.all fun c => (Text.digitValue? c).isSome then
    if least.any (· ≤ natOf cs) then some (.number (natOf cs)) else none
  else if isIdentifier cs then some (.named (String.ofList cs))
  else none

/-- Reads the name of a group, up to a closing mark. -/
def groupName (least : Option Nat) : Reader GroupName := do
  let cs ← takeWhile fun c => c != ')' && c != '>'
  require (groupName? least cs)

/-- Begins a group. A group with a name that is already known is that group again. -/
def openGroup (name : Option String) : Reader Nat := do
  let r ← get
  let taken := r.names.map (·.2)
  let next :=
    if name.isNone then r.groups + 1
    else (((List.range (taken.length + 1)).map (r.groups + 1 + ·)).find? fun n =>
      !taken.contains n).getD (r.groups + 1)
  let known := name.bind fun n => r.names.lookup n
  let index := known.getD next
  set { r with
    groups := if known.isNone then next else r.groups
    names := match name, known with
      | some n, none => (n, index) :: r.names
      | _, _ => r.names
    inside := index :: r.inside
    opened := index :: r.opened }
  return index

/-- Ends the group that has begun last. -/
def closeGroup : Reader Unit :=
  modify fun r => { r with inside := r.inside.drop 1 }

/-- The number of a group, once it is known which groups there are. -/
def resolve (name : GroupName) : Reader (Option Nat) := do
  match (← get).summary with
  | none => return some 0
  | some s =>
    match name with
    | .number n => return if n ≤ s.groups then some n else none
    | .named n => return s.names.lookup n

/-- Refuses a group that has not ended, unless nested sets are allowed. -/
def refuseOpen (name : GroupName) : Reader Unit := do
  let r ← get
  let index := match name with
    | .number n => some n
    | .named n => r.names.lookup n
  if !r.flags.contains .nestedSets && index.any r.inside.contains then reject

/-- A reference to what a group has matched. -/
def reference (name : GroupName) : Reader Pattern := do
  refuseOpen name
  return .backref (← require (← resolve name)) (← rule)

/-- A call of a group that begins only once. -/
def callOf (name : GroupName) : Reader Pattern := do
  let index ← require (← resolve name)
  let opened := ((← get).summary.map (·.opened)).getD []
  if 0 < index && 1 < opened.count index then reject
  return .call index

/-- Reads a reference to a group, after the letter of its escape; a letter that begins none stands
for itself. -/
def namedReference : Reader Pattern := do
  let rest := (← get).rest
  let name ← Reader.orElse (· == .malformed)
    (do
      expect "<"
      let name ← groupName (some 1)
      expect ">"
      refuseOpen name
      return some name)
    (pure none)
  match name with
  | some name => reference name
  | none =>
    back rest
    return ofClass (← rule) (.char 'g'.toNat)

/-- Reads an escape that begins with a digit other than zero: three octal digits are a character,
and otherwise up to two digits are a reference. -/
def numericEscape (c : Char) : Reader Pattern := do
  let rest := (← get).rest
  let second ← take?
  match second with
  | some d =>
    if d.isDigit then
      let rest := (← get).rest
      let third ← take?
      if isOctal c && isOctal d && third.any isOctal then
        let mask := if ← has .ascii then 0x100 else 0x200
        return ofClass (← rule) (.char (octal [c, d, third.getD '0'] % mask))
      back rest
      reference (.number (natOf [c, d]))
    else
      back rest
      reference (.number (natOf [c]))
  | none =>
    back rest
    reference (.number (natOf [c]))

/-- The line separators, of which two characters may form one. -/
def lineBreak : Pattern :=
  .atomic (.alt (.seq (.one (.char 0xD) .exact) (.one (.char 0xA) .exact))
    (ofSet (.ofText "A-D 85 2028-2029")))

/-- The position that an escape with a letter asks for. -/
def positionOf? (wordBreaks ascii : Bool) : Char → Option Pattern
  | 'A' => some (.anchor .textStart)
  | 'Z' => some (.anchor .textEnd)
  | 'z' => some (.anchor .textEnd)
  | 'G' => some (.anchor .searchStart)
  | 'K' => some .keep
  | 'b' => some (.anchor (if wordBreaks then .pieceBoundary else .wordBoundary ascii))
  | 'B' => some (.anchor (if wordBreaks then .noPieceBoundary else .noWordBoundary ascii))
  | 'm' => some (.anchor (if wordBreaks then .pieceStart else .wordStart ascii))
  | 'M' => some (.anchor (if wordBreaks then .pieceEnd else .wordEnd ascii))
  | _ => none

/-- Reads an escape outside of brackets, after the backslash. -/
def escape : Reader Pattern := do
  match ← takeRaw? with
  | none => reject
  | some c =>
    if let some a ← commonEscape? c then return ofClass (← rule) a
    match c with
    | 'g' => namedReference
    | 'R' => return lineBreak
    | 'X' => return .grapheme
    | c =>
      if let some p := positionOf? (← has .wordBreaks) (← asciiClass) c then return p
      if c.isAlpha then return ofClass .exact (.char (← require (controlOf? c)))
      if c == '0' then return ofClass (← rule) (.char (← octalEscape c))
      if c.isDigit then return ← numericEscape c
      return ofClass (← rule) (.char c.toNat)

/-- The greatest number of rounds that a quantifier may ask for. -/
def mostRounds : Nat := Nat.pow 2 32 - 2

/-- Reads the bounds of a quantifier in braces, after the opening brace, if it is one. -/
def braces? : Reader (Option Bounds) := do
  let rest := (← get).rest
  let lo ← count
  let comma ← accept ","
  let hi ← if comma then count else pure lo
  if !(comma || !lo.isEmpty) || !(← accept "\x7d") then
    back rest
    return none
  let most := if hi.isEmpty then none else some (natOf hi)
  if mostRounds < natOf lo || most.any (mostRounds < ·) || most.any (· < natOf lo) then reject
  return some ⟨natOf lo, most⟩

/-- The bounds of the quantifier that begins with a character, if it is one. -/
def quantifier? (c : Char) : Reader (Option Bounds) :=
  match c with
  | '*' => pure (some {})
  | '+' => pure (some { least := 1 })
  | '?' => pure (some { most := some 1 })
  | _ => braces?

/-- Reads the mark after a quantifier that makes it lazy or possessive. -/
def greed : Reader Greed := do
  if ← accept "?" then return .lazy
  if ← accept "+" then return .possessive
  return .greedy

/-- The pattern for the dot. -/
def dot : Reader Pattern := do
  return .one (← dotClass) .exact

/-- The pattern for the start or the end of a line or of the text. -/
def lineAnchor (start : Bool) : Reader Pattern := do
  let lines ← has .multiline
  let finer ← has .wordBreaks
  return .anchor <|
    if start then if !lines then .textStart else if finer then .afterLineBreak else .lineStart
    else if lines then if finer then .beforeLineBreak else .lineEnd
    else if finer then .lastLineBreak
    else .lastLineEnd

/-- Reads a flag, if there is one. -/
def flag? : Reader (Option Flag) := do
  match ← take? with
  | some 'V' => return (← take?).bind Flag.ofDigit?
  | some c => return Flag.ofLetter? c
  | none => return none

/-- Reads flags one after another. -/
def flagLetters : Nat → Reader (List Flag)
  | 0 => pure []
  | fuel + 1 => do
    let rest := (← get).rest
    match ← flag? with
    | some f => return f :: (← flagLetters fuel)
    | none => back rest; return []

/-- Reads flags to set and flags to clear. A new flag for the whole pattern makes it be read
again. -/
def flagChange : Reader (List Flag × List Flag) := do
  let r ← get
  let on ← flagLetters (r.rest.length + 1)
  let off ← if ← accept "-" then
      let off ← flagLetters (r.rest.length + 1)
      if off.isEmpty then reject else pure off
    else pure []
  if off.any Flag.isGlobal || on.any off.contains then reject
  let new := on.filter fun f => f.isGlobal && !r.global.contains f
  if !new.isEmpty then throw (.again (r.global ++ new).eraseDups)
  return (on.filter (!·.isGlobal), off)

/-- The flags in a part with flags of its own: a part that names an encoding, or is inside of one
with an encoding, has just the encodings that it names. -/
def partFlags (flags on off : List Flag) : List Flag :=
  let flags := Flag.change flags on off
  if flags.any Flag.isEncoding then flags.filter (!·.isEncoding) ++ on else flags

/-- Passes over a comment up to its closing parenthesis, in which a backslash hides the next
character. -/
def comment : Nat → Reader Unit
  | 0 => reject
  | fuel + 1 => do
    match ← takeRaw? with
    | some ')' => return
    | some '\\' =>
      let _ ← takeRaw?
      comment fuel
    | some _ => comment fuel
    | none => reject

/-- Reads the name of a verb, if it is one. -/
def verb? : Reader (Option Pattern) := do
  let rest := (← get).rest
  let word ← takeWhile fun c => c != ')' && c != '>'
  unless word.head?.any (Text.Property.alphabetic.holds ·) do
    back rest
    return none
  let p ← require <| match String.ofList word with
    | "FAIL" => some .fail
    | "F" => some .fail
    | "PRUNE" => some (.cut false)
    | "SKIP" => some (.cut true)
    | _ => none
  expect ")"
  return some p

/-- Puts an item behind others; nothing marks where no quantifier may follow. -/
abbrev Items := List (Option Pattern)

/-- Applies a quantifier to the last item. -/
def quantify (bounds : Bounds) (greed : Greed) : Items → Reader Items
  | some p :: items =>
    if p.isEmpty || bounds == ⟨1, some 1⟩ then pure (none :: some p :: items)
    else pure (none :: some (.repeated p bounds greed) :: items)
  | _ => reject

/-- Applies a tolerance to the last item; that of a group holds inside it. -/
def tolerate (t : Tolerance) : Items → Reader Items
  | some (.group i p) :: items => pure (none :: some (.group i (.fuzzy t p)) :: items)
  | some p :: items => pure (none :: some (.fuzzy t p) :: items)
  | _ => reject

/-- Reads a sign that may begin a quantifier or a tolerance, or stands for itself. -/
def suffix (c : Char) (items : Items) : Reader Items := do
  match ← quantifier? c with
  | some bounds => quantify bounds (← greed) items
  | none =>
    match ← tolerance? with
    | some t => tolerate t items
    | none => return some (ofClass (← rule) (.char c.toNat)) :: items

/-- Reads the sign of a condition: the direction and whether it is negated. -/
def lookSign? : Reader (Option (Direction × Bool)) := do
  for (sign, d, negated) in
      [("<=", Direction.backward, false), ("<!", .backward, true), ("=", .forward, false),
       ("!", .forward, true)] do
    if ← accept sign then return some (d, negated)
  return none

/-- Reads the number in a call of a group: absolute, or counted from the groups that have begun. -/
def callNumber? : Reader (Option GroupName) := do
  let r ← get
  match ← takeRaw? with
  | some 'R' => return some (.number 0)
  | some '+' =>
    match ← count with
    | [] => set r; return none
    | ds => return some (.number (r.groups + natOf ds))
  | some '-' =>
    match ← count with
    | [] => set r; return none
    | ds =>
      if natOf ds == 0 || r.groups < natOf ds then reject
      else return some (.number (r.groups + 1 - natOf ds))
  | some c =>
    if c.isDigit then return some (.number (natOf (c :: (← count))))
    set r
    return none
  | none => set r; return none

mutual

/-- Reads alternatives up to the end or a closing parenthesis. -/
def alternatives : Nat → Reader Pattern
  | 0 => reject
  | fuel + 1 => do
    let p ← items fuel [none]
    if ← accept "|" then return .alt p (← alternatives fuel) else return p

/-- Reads items one after another, given those already read, the last first. -/
def items : Nat → Items → Reader Pattern
  | 0, _ => reject
  | fuel + 1, done => do
    let rest := (← get).rest
    match ← take? with
    | none => return sequence (done.reverse.filterMap id)
    | some c =>
      match c with
      | '|' => back rest; return sequence (done.reverse.filterMap id)
      | ')' => back rest; return sequence (done.reverse.filterMap id)
      | '\\' => items fuel (some (← escape) :: done)
      | '(' =>
        match ← parenthesis fuel with
        | some p => items fuel (some p :: done)
        | none => items fuel done
      | '.' => items fuel (some (← dot) :: done)
      | '[' => items fuel (some (ofClass (← rule) (← charClass)) :: done)
      | '^' => items fuel (some (← lineAnchor true) :: done)
      | '$' => items fuel (some (← lineAnchor false) :: done)
      | c =>
        if ['?', '*', '+', '\x7b'].contains c then items fuel (← suffix c done)
        else items fuel (some (ofClass (← rule) (.char c.toNat)) :: done)

/-- Reads what an opening parenthesis begins; flags and comments are no pattern. -/
def parenthesis : Nat → Reader (Option Pattern)
  | 0 => reject
  | fuel + 1 => do
    let rest := (← get).rest
    match ← takeRaw? with
    | some '?' => special fuel
    | some '*' =>
      match ← verb? with
      | some p => return some p
      | none =>
        back rest
        return some (← capture fuel none)
    | _ =>
      back rest
      return some (← capture fuel none)

/-- Reads the contents of a group and its closing parenthesis. -/
def capture : Nat → Option String → Reader Pattern
  | 0, _ => reject
  | fuel + 1, name => do
    let index ← openGroup name
    if name.isSome then expect ">"
    let p ← body fuel
    closeGroup
    return .group index p

/-- Reads alternatives and a closing parenthesis, with flags of their own. -/
def body : Nat → Reader Pattern
  | 0 => reject
  | fuel + 1 => apart do
    let p ← alternatives fuel
    expect ")"
    return p

/-- Reads a group whose name comes next. -/
def namedCapture : Nat → Reader Pattern
  | 0 => reject
  | fuel + 1 => do
    match ← groupName none with
    | .named n => capture fuel (some n)
    | .number _ => reject

/-- Reads what follows an opening parenthesis and a question mark. -/
def special : Nat → Reader (Option Pattern)
  | 0 => reject
  | fuel + 1 => do
    let rest := (← get).rest
    if let some (d, negated) ← lookSign? then return some (.look d negated (← body fuel))
    if let some name ← callNumber? then
      expect ")"
      return some (← callOf name)
    match ← takeRaw? with
    | some '<' => return some (← namedCapture fuel)
    | some 'P' => return some (← extension fuel)
    | some '#' =>
      comment (rest.length + 1)
      return none
    | some '(' => return some (← conditional fuel)
    | some '>' => return some (.atomic (← body fuel))
    | some '|' =>
      let p ← parallel fuel (← get).groups (← get).groups
      expect ")"
      return some p
    | some '&' => return some (← namedCall)
    | _ =>
      back rest
      flags fuel

/-- Reads flags, for a part or from here on. -/
def flags : Nat → Reader (Option Pattern)
  | 0 => reject
  | fuel + 1 => do
    let (on, off) ← flagChange
    let before := (← get).flags
    if ← accept ":" then
      return some (← apart do
        setFlags (partFlags before on off)
        let p ← alternatives fuel
        expect ")"
        return p)
    if ← accept ")" then
      setFlags (Flag.change before on off)
      return none
    reject

/-- Reads a call of a group by its name. -/
def namedCall : Reader Pattern := do
  let name ← groupName none
  expect ")"
  callOf name

/-- Reads what follows an opening parenthesis, a question mark and a capital letter. -/
def extension : Nat → Reader Pattern
  | 0 => reject
  | fuel + 1 => do
    match ← take? with
    | some '<' => namedCapture fuel
    | some '=' =>
      let name ← groupName (some 1)
      expect ")"
      reference name
    | some '>' => namedCall
    | some '&' => namedCall
    | _ => reject

/-- Reads alternatives whose groups have the same numbers, which begin after `first`; `most` is the
greatest number so far. -/
def parallel : Nat → Nat → Nat → Reader Pattern
  | 0, _, _ => reject
  | fuel + 1, first, most => do
    modify fun r => { r with groups := first }
    let p ← items fuel [none]
    let most := max most (← get).groups
    if ← accept "|" then return .alt p (← parallel fuel first most)
    modify fun r => { r with groups := most }
    return p

/-- Reads a condition and the patterns that depend on it. -/
def conditional : Nat → Reader Pattern
  | 0 => reject
  | fuel + 1 => apart do
    if ← accept "?" then
      match ← lookSign? with
      | none => reject
      | some (d, negated) =>
        let c ← alternatives fuel
        expect ")"
        let (yes, no) ← branches fuel
        return .ifLook d negated c yes no
    let name ← groupName (some 1)
    expect ")"
    let (yes, no) ← branches fuel
    if yes.isEmpty && no.isEmpty then return .empty
    match ← resolve name with
    | some index => return .ifGroup index yes no
    | none => if name == .named "DEFINE" then return .ifGroup 0 yes no else reject

/-- Reads one or two patterns and a closing parenthesis. -/
def branches : Nat → Reader (Pattern × Pattern)
  | 0 => reject
  | fuel + 1 => do
    let yes ← items fuel [none]
    let no ← if ← accept "|" then items fuel [none] else pure .empty
    expect ")"
    return (yes, no)

end

/-- A pattern that has been read: its groups, and the flags that hold for the whole of it. -/
structure Compiled where
  pattern : Pattern
  groups : Nat
  names : List (String × Nat)
  flags : List Flag

/-- Reads a whole pattern, given the flags that hold for it and what is known about it. -/
def readWith (global : List Flag) (summary : Option Summary) (cs : List Char) :
    Except Trouble (Pattern × Reading) := do
  let start : Reading := { rest := cs, flags := Flag.initial global, global, summary }
  let (p, r) ← (alternatives (8 * cs.length + 16)).run start
  let rest := if r.skipping then skipBlanks false r.rest else r.rest
  if rest.isEmpty then return (p, r) else throw .malformed

/-- Refuses flags that exclude each other. -/
def checkFlags (flags : List Flag) : Except Trouble Unit := do
  if flags.contains .plainSets && flags.contains .nestedSets then
    throw (.invalid "VERSION0 and VERSION1 flags are mutually incompatible")
  if 1 < ((flags.filter Flag.isEncoding).eraseDups).length then
    throw (.invalid "ASCII, LOCALE and UNICODE flags are mutually incompatible")

/-- Reads a pattern once to learn about it, and again with what has been learnt; `fuel` bounds how
often it is read again because of a flag. -/
def readFrom : Nat → List Flag → List Char → Except Trouble Compiled
  | 0, _, _ => throw .malformed
  | fuel + 1, global, cs =>
    match readWith global none cs with
    | .error (.again flags) => readFrom fuel flags cs
    | .error t => throw t
    | .ok (_, r) => do
      checkFlags r.flags
      let ascii := r.flags.contains .ascii || r.flags.contains .locale
      let (p, r) ← readWith global (some ⟨r.groups, r.names, r.opened, ascii⟩) cs
      return ⟨p.resolved, r.groups, r.names, global⟩

/-- Reads a pattern. -/
def read (s : String) : Except Trouble Compiled :=
  readFrom 8 [.posix] s.toList

end Pattern
end Wdl
