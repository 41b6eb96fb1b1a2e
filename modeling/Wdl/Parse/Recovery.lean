import Wdl.Parse.Stack

/-!
Parsing with recovery from errors.

An unexpected token is reported and skipped, and so is a character that begins no token; at the end
of the input the parser closes what is still open. Outside of strings and commands the text after an
unexpected character is scanned as a run of text; such a stray run is not skipped whole but only up
to the end of the first token in it.

Main facts to keep in mind: every error moves the cursor on, the errors of one parse are pairwise
distinct, and there are never more of them than the limit.
-/

namespace Wdl

/-- A problem with the syntax of a document. Lines count from one and columns from zero. -/
structure SyntaxError where
  line : Nat
  column : Nat
  message : String
  position : Position
  deriving DecidableEq, Repr

namespace SyntaxError

/-- An error on one line of a report. -/
def text (e : SyntaxError) : String :=
  "line " ++ toString e.line ++ ":" ++ toString e.column ++ " " ++ Text.jsonQuoted e.message

end SyntaxError

namespace Parse

/-- A grammar made ready for parsing: its automaton and the scanner of each of its states, the
scanner of all terminals, and the terminals themselves. -/
structure Machine where
  automaton : Automaton
  scanners : Array Scanner
  root : Scanner
  terminals : List Terminal

namespace Machine

def ofGrammar (start : Nonterminal) (rules : List Rule) (terminals : List Terminal) : Machine :=
  let automaton := Automaton.ofRules start rules
  { automaton
    scanners := (Array.range automaton.states.size).map fun i =>
      Scanner.ofTerminals (automaton.terminals i)
    root := Scanner.ofTerminals terminals
    terminals }

/-- The scanner of a state. -/
def scanner (m : Machine) (state : Nat) : Scanner :=
  m.scanners[state]?.getD m.root

end Machine

/-- How messages name a lookahead. -/
def Lookahead.label : Lookahead → String
  | .terminal t => t.label
  | .endOfInput => "<EOF>"

/-- What the parser could not read. -/
inductive Trouble
  /-- a character that begins no token -/
  | character (c : Char) (at' : Cursor)
  /-- a token that is not among those expected; `after` is the text after it -/
  | token (t : Token) (expected : List Lookahead) (after : Cursor)
  /-- the end of the input -/
  | ending (expected : List Lookahead)

/-- The longest token, other than a run of text, at the front of a text, and its terminal. Of two
that are equally long the earlier terminal counts. -/
def relex (terminals : List Terminal) (cs : List Char) : Option (Terminal × Nat) :=
  terminals.foldl
    (fun best t =>
      if t.isRun then best
      else
        match t.match? cs with
        | none => best
        | some n =>
          match best with
          | some (_, m) => if m < n then some (t, n) else best
          | none => some (t, n))
    none

/-- Whether a token is a run of text where none was expected. -/
def isStray (t : Token) (expected : List Lookahead) : Bool :=
  t.terminal.isRun && !expected.contains (.terminal t.terminal)

/-- The number of characters of a stray run that are skipped: its first token, or one character. -/
def strayLength (terminals : List Terminal) (text : List Char) : Nat :=
  ((relex terminals text).map (·.2)).getD (min 1 text.length)

def unknownCharacter (text : String) : String :=
  "token recognition error at: '" ++ text ++ "'"

def mismatched (found : String) (expected : List Lookahead) : String :=
  let names := (expected.map Lookahead.label).mergeSort (· ≤ ·)
  "mismatched input " ++ found ++ " expecting \x7b" ++ ", ".intercalate names ++ "\x7d"

namespace Trouble

/-- The message for a trouble. -/
def message (terminals : List Terminal) : Trouble → String
  | .character c _ => unknownCharacter c.toString
  | .token t expected _ =>
    if isStray t expected then
      let cs := t.text.toList
      match relex terminals cs with
      | some (_, n) => mismatched ("'" ++ String.ofList (cs.take n) ++ "'") expected
      | none => unknownCharacter (String.ofList (cs.take 1))
    else mismatched ("'" ++ t.text ++ "'") expected
  | .ending expected => mismatched "<EOF>" expected

/-- The place of a trouble. The end of the input is reported at the last token. -/
def place (last : Option Token) : Trouble → Place
  | .character _ c => c.place
  | .token t _ _ => t.start
  | .ending _ => (last.map Token.start).getD .start

end Trouble

/-- The terminals that close what may be open, in the order in which they are tried. -/
def closers : List Terminal :=
  [.rbrace, .rpar, .rsqb, .heredocClose, .doubleQuote, .singleQuote]

/-- The number of closing tokens that are put in at the end of the input, at most. -/
def maxClosers : Nat := 256

/-- The text of a closing token. -/
def closerText : Terminal → String
  | .singleQuote => "'"
  | .doubleQuote => "\""
  | t => t.literal?.getD ""

/-- Puts in closing tokens, all at one extent, until the end of the input would be accepted; none if
no closing token helps. -/
def close? (a : Automaton) (extent : Extent) : Nat → Stack → Option Entry
  | 0, _ => none
  | fuel + 1, s =>
    match s.finish a with
    | .accepted e => some e
    | _ =>
      let shifted := closers.findSome? fun t =>
        match s.shift a ⟨t, closerText t, extent.start, extent.stop⟩ with
        | .shifted s' => some s'
        | _ => none
      match shifted with
      | some s' => close? a extent fuel s'
      | none => none

/-- The state of a parse: what has been read, what is to be read, the last token, and the errors so
far, the last one first. -/
structure Progress where
  stack : Stack
  cursor : Cursor
  last : Option Token
  errors : List SyntaxError

/-- Adds an error unless the same one is there already. -/
def report (errors : List SyntaxError) (e : SyntaxError) : List SyntaxError :=
  if errors.any fun old => old.line == e.line && old.column == e.column && old.message == e.message
  then errors
  else e :: errors

/-- The error for a trouble. -/
def errorFor (m : Machine) (o : Origin) (last : Option Token) (t : Trouble) : SyntaxError :=
  let p := t.place last
  ⟨p.line, p.column - 1, t.message m.terminals, o.point p.line p.column⟩

/-- The result of one step. -/
inductive Step
  /-- a token was read -/
  | read (p : Progress)
  /-- the whole input was read -/
  | done (p : Progress) (e : Entry)
  /-- something could not be read -/
  | stuck (p : Progress) (t : Trouble)

/-- Reads the next token, or the end of the input. Where the scanner of the state finds nothing, the
scanner of all terminals is asked what there is. -/
def step (m : Machine) (p : Progress) : Step :=
  let scanner := m.scanner p.stack.state
  match scanner.scan p.cursor with
  | .token t after =>
    match p.stack.shift m.automaton t with
    | .shifted s => .read { p with stack := s, cursor := after, last := some t }
    | .refused s =>
      .stuck { p with stack := s, cursor := after, last := some t }
        (.token t (m.automaton.allowed s.state) after)
    | .accepted _ =>
      .stuck { p with cursor := after, last := some t }
        (.token t (m.automaton.allowed p.stack.state) after)
  | .nothing c =>
    match p.stack.finish m.automaton with
    | .accepted e => .done { p with cursor := c } e
    | .refused s | .shifted s =>
      .stuck { p with stack := s, cursor := c } (.ending (m.automaton.allowed s.state))
  | .unknown c =>
    match m.root.scan c with
    | .token t after =>
      .stuck { p with cursor := after, last := some t }
        (.token t (scanner.expected.map .terminal) after)
    | _ =>
      match c.rest with
      | x :: _ => .stuck { p with cursor := c } (.character x c)
      | [] => .stuck { p with cursor := c } (.ending [])

/-- The extent of the last token, which stands for the end of the input. -/
def lastExtent (last : Option Token) : Extent :=
  match last with
  | some t => .ofToken t
  | none => ⟨.start, .start⟩

/-- Reads until the input ends, a limit of errors is reached, or nothing helps. Every round but the
last moves the cursor on, so the length of the text bounds their number. -/
def run (m : Machine) (o : Origin) (limit : Nat) : Nat → Progress → List SyntaxError × Option Entry
  | 0, p => (p.errors, none)
  | fuel + 1, p =>
    match step m p with
    | .read p => run m o limit fuel p
    | .done p e => (p.errors, some e)
    | .stuck p trouble =>
      let errors := report p.errors (errorFor m o p.last trouble)
      let p := { p with errors }
      if limit ≤ errors.length then (errors, none)
      else
        match trouble with
        | .character _ c => run m o limit fuel { p with cursor := c.skip 1 }
        | .ending _ => (errors, close? m.automaton (lastExtent p.last) maxClosers p.stack)
        | .token t expected after =>
          if isStray t expected then
            let skipped := strayLength m.terminals t.text.toList
            let back : Cursor := ⟨t.start, t.text.toList ++ after.rest⟩
            run m o limit fuel { p with cursor := back.skip skipped }
          else run m o limit fuel p

/-- Parses a text. The errors come in the order in which they were found, and at most `limit` of
them, at least one; there is no tree if they are that many or the end cannot be reached. -/
def parse (m : Machine) (o : Origin) (limit : Int) (text : List Char) :
    List SyntaxError × Option Tree :=
  let p : Progress := { stack := [], cursor := .ofText text, last := none, errors := [] }
  let (errors, entry) := run m o (max limit 1).toNat (text.length + 2) p
  let tree := entry.bind fun e => (e.trees false).head?
  (errors.reverse, tree)

end Parse
end Wdl
