import Wdl.Pattern.Basic
import Wdl.Pattern.Flag
import Wdl.Text.Blank
import Wdl.Text.Digits

/-!
What a pattern is read from.

A reader takes characters from the front of a written pattern. In the verbose way of reading, blanks
and comments are passed over. A pattern is read twice: the names and the number of its groups, and
whether only ASCII counts, are known only at its end.
-/

namespace Wdl
namespace Pattern

/-- Why a pattern cannot be read. -/
inductive Trouble
  /-- it is not well formed -/
  | malformed
  /-- it is not what was expected, but may be something else -/
  | otherwise
  /-- it asks for something that cannot be had -/
  | invalid (message : String)
  /-- it names several characters where one is expected -/
  | several (count : Nat)
  /-- it has to be read again with other flags -/
  | again (flags : List Flag)
  deriving DecidableEq, Repr

/-- What is known about a pattern that has been read. -/
structure Summary where
  groups : Nat
  names : List (String × Nat)
  /-- the groups in the order in which they begin -/
  opened : List Nat
  /-- whether only ASCII counts -/
  ascii : Bool

/-- The state of reading. -/
structure Reading where
  rest : List Char
  /-- the flags that hold -/
  flags : List Flag
  /-- the flags that hold for the whole pattern -/
  global : List Flag
  groups : Nat := 0
  names : List (String × Nat) := []
  /-- the groups that have begun and not ended -/
  inside : List Nat := []
  opened : List Nat := []
  /-- what the first reading has found out -/
  summary : Option Summary := none
  /-- whether blanks and comments are passed over -/
  skipping : Bool := false

abbrev Reader := StateT Reading (Except Trouble)

/-- The text behind blanks and comments. -/
def skipBlanks : Bool → List Char → List Char
  | _, [] => []
  | true, c :: cs => if c == '\n' then skipBlanks false cs else skipBlanks true cs
  | false, c :: cs =>
    if Text.isBlank c then skipBlanks false cs
    else if c == '#' then skipBlanks true cs
    else c :: cs

/-- The text behind given characters, if it begins with them; `skip` passes over what does not
count. -/
def after? (skip : List Char → List Char) : List Char → List Char → Option (List Char)
  | [], cs => some cs
  | w :: ws, cs =>
    match skip cs with
    | c :: cs => if c == w then after? skip ws cs else none
    | [] => none

/-- The characters at the front that satisfy a condition, with blanks and comments between them
passed over, and the text behind. -/
def spanSkipping (p : Char → Bool) : Nat → List Char → List Char × List Char
  | 0, cs => ([], cs)
  | fuel + 1, cs =>
    match skipBlanks false cs with
    | c :: cs =>
      if p c then
        let (taken, rest) := spanSkipping p fuel cs
        (c :: taken, rest)
      else ([], c :: cs)
    | [] => ([], [])

namespace Reader

def reject {α : Type} : Reader α := throw .malformed

/-- Succeeds if something has been found. -/
def require {α : Type} : Option α → Reader α
  | some a => pure a
  | none => reject

/-- Takes the next character, if there is one; blanks and comments count. -/
def takeRaw? : Reader (Option Char) := do
  let r ← get
  match r.rest with
  | c :: cs => set { r with rest := cs }; return some c
  | [] => return none

/-- Takes the next character, if there is one. -/
def take? : Reader (Option Char) := do
  let r ← get
  if r.skipping then set { r with rest := skipBlanks false r.rest }
  takeRaw?

/-- Takes given characters, if they come next. -/
def accept (word : String) : Reader Bool := do
  let r ← get
  match after? (if r.skipping then skipBlanks false else id) word.toList r.rest with
  | some rest => set { r with rest }; return true
  | none => return false

def expect (word : String) : Reader Unit := do
  unless ← accept word do reject

/-- Takes the characters that satisfy a condition; blanks and comments count. -/
def takeWhileRaw (p : Char → Bool) : Reader (List Char) := do
  let r ← get
  set { r with rest := r.rest.dropWhile p }
  return r.rest.takeWhile p

/-- Takes the characters that satisfy a condition. -/
def takeWhile (p : Char → Bool) : Reader (List Char) := do
  let r ← get
  if r.skipping then
    let (taken, rest) := spanSkipping p (r.rest.length + 1) r.rest
    set { r with rest }
    return taken
  else takeWhileRaw p

/-- Reads, and takes nothing if that fails in a given way. -/
def orElse {α : Type} (catches : Trouble → Bool) (p : Reader α) (q : Reader α) : Reader α :=
  tryCatch p fun t => if catches t then q else throw t

/-- Goes back to an earlier place. -/
def back (rest : List Char) : Reader Unit :=
  modify fun r => { r with rest }

def has (f : Flag) : Reader Bool := do
  return (← get).flags.contains f

/-- Sets the flags that hold, and with them whether blanks are passed over. -/
def setFlags (flags : List Flag) : Reader Unit :=
  modify fun r => { r with flags, skipping := flags.contains .verbose }

/-- Reads a part with flags of its own. -/
def apart {α : Type} (p : Reader α) : Reader α := do
  let flags := (← get).flags
  let a ← p
  setFlags flags
  return a

/-- Whether only ASCII counts in the whole pattern. -/
def asciiOnly : Reader Bool := do
  return (← get).summary.any (·.ascii)

/-- Whether only ASCII counts for the next class. -/
def asciiClass : Reader Bool := do
  if ← has .ascii then return true
  if ← has .unicode then return false
  asciiOnly

/-- The rule about case that holds. -/
def rule : Reader CaseRule := do
  if !(← has .ignoreCase) then return .exact
  if ← asciiOnly then return .ascii
  if (← has .fullCase) && !(← has .ascii) then return .full
  return .simple

end Reader

/-- The number that decimal digits spell. -/
def natOf (cs : List Char) : Nat :=
  Text.ofDigits (cs.filterMap Text.digitValue?)

end Pattern
end Wdl
