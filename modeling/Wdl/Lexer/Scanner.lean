import Wdl.Lexer.Run

/-!
Scanners.

A parser state allows certain terminals, and its scanner tries only these and the ones that are
ignored everywhere. It tries them in a fixed order and takes the first that matches, which need not
be the longest. A fixed text that some class of texts covers, such as a keyword among names, is not
tried itself: a token of the class whose text it is takes its place.
-/

namespace Wdl

/-- A place in a text: the number of characters before it, its line and its column, the last two
counted from one. -/
structure Place where
  offset : Nat
  line : Nat
  column : Nat
  deriving DecidableEq, Repr

namespace Place

def start : Place := ⟨0, 1, 1⟩

/-- The place after one more character. -/
def next (p : Place) (c : Char) : Place :=
  if c == '\n' then ⟨p.offset + 1, p.line + 1, 1⟩ else ⟨p.offset + 1, p.line, p.column + 1⟩

/-- The place after some more characters. -/
def advance (p : Place) (cs : List Char) : Place :=
  cs.foldl next p

end Place

/-- A piece of the text with the terminal that it belongs to and the places where it starts and
stops. -/
structure Token where
  terminal : Terminal
  text : String
  start : Place
  stop : Place
  deriving DecidableEq, Repr

/-- The text that is still to be read, and where it begins. -/
structure Cursor where
  place : Place
  rest : List Char
  deriving DecidableEq, Repr

namespace Cursor

def ofText (text : List Char) : Cursor := ⟨.start, text⟩

/-- Moves over the first `n` characters. -/
def skip (c : Cursor) (n : Nat) : Cursor :=
  ⟨c.place.advance (c.rest.take n), c.rest.drop n⟩

/-- The token of the first `n` characters. -/
def token (c : Cursor) (t : Terminal) (n : Nat) : Token :=
  ⟨t, String.ofList (c.rest.take n), c.place, c.place.advance (c.rest.take n)⟩

end Cursor

namespace Terminal

/-- The classes of texts in the order in which they are tried. -/
def classesInOrder : List Terminal :=
  [.placeholderOpen, .signedFloat, .float, .singleFragment, .heredocFragment, .doubleFragment,
   .braceFragment, .singleQuotedText, .signedInt, .name, .doubleQuotedText, .comment, .newline,
   .int, .versionNumber, .space]

/-- Every terminal in the order in which it is tried: the classes, then the fixed texts and the two
quotes, longer ones first. -/
def inOrder : List Terminal :=
  let fixed := (all.filter fun t => t.literal?.isSome).mergeSort
    fun a b => (b.literal?.getD "").length ≤ (a.literal?.getD "").length
  classesInOrder ++ fixed ++ [.singleQuote, .doubleQuote]

/-- Whether a class of texts holds the fixed text of another terminal. The openings of placeholders
come before everything else and cover nothing. -/
def covers (cls fixed : Terminal) : Bool :=
  match fixed.literal? with
  | none => false
  | some text =>
    cls.literal?.isNone && cls != .placeholderOpen && cls.match? text.toList == some text.length

end Terminal

/-- A scanner: the terminals that it tries, in order, and those fixed texts that stand for
themselves only where a class covers them. -/
structure Scanner where
  tried : List Terminal
  covered : List Terminal

namespace Scanner

/-- The scanner for a set of terminals. -/
def ofTerminals (ts : List Terminal) : Scanner :=
  let present := Terminal.inOrder.filter fun t => ts.contains t || t.isIgnored
  let isCovered (t : Terminal) := present.any fun cls => cls.covers t
  { tried := present.filter fun t => !isCovered t
    covered := present.filter isCovered }

/-- The terminals that count as expected where the scanner finds none of them. -/
def expected (s : Scanner) : List Terminal :=
  s.tried.filter fun t => !t.isIgnored

/-- The first of some terminals that matches at the front of a text, and the length it takes. -/
def firstMatch? (cs : List Char) : List Terminal → Option (Terminal × Nat)
  | [] => none
  | t :: ts =>
    match t.match? cs with
    | some n => some (t, n)
    | none => firstMatch? cs ts

/-- The terminal of a token that was found as one of the class `cls`. -/
def named (s : Scanner) (cls : Terminal) (text : String) : Terminal :=
  (s.covered.find? fun t => t.literal? == some text && cls.covers t).getD cls

/-- What a scanner finds. -/
inductive Finding
  /-- a token, and the text after it -/
  | token (t : Token) (after : Cursor)
  /-- only ignored text up to the end -/
  | nothing (at' : Cursor)
  /-- a character at which none of the terminals begins -/
  | unknown (at' : Cursor)

/-- Looks for the next token, passing over ignored text. The number of steps is bounded by the
length of the text. -/
def next (s : Scanner) : Nat → Cursor → Finding
  | 0, c => .nothing c
  | fuel + 1, c =>
    if c.rest.isEmpty then .nothing c
    else
      match firstMatch? c.rest s.tried with
      | none => .unknown c
      | some (cls, n) =>
        if cls.isIgnored then s.next fuel (c.skip n)
        else
          let t := c.token (s.named cls (String.ofList (c.rest.take n))) n
          .token t (c.skip n)

/-- Looks for the next token. -/
def scan (s : Scanner) (c : Cursor) : Finding :=
  s.next (c.rest.length + 1) c

end Scanner
end Wdl
