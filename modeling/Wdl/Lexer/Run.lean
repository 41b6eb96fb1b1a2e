import Wdl.Grammar.Terminal
import Wdl.Text.Quoted
import Wdl.Text.Digits

/-!
The texts of terminals.

`Terminal.match? t cs` is the length of the text of `t` at the front of `cs`, if there is one. A
text of a terminal is never empty.
-/

namespace Wdl
namespace Lexer

open Text (singleQuote doubleQuote)

def isDigit (c : Char) : Bool := '0' ≤ c && c ≤ '9'

def isLetter (c : Char) : Bool := ('a' ≤ c && c ≤ 'z') || ('A' ≤ c && c ≤ 'Z')

/-- The characters of a name after its first. -/
def isNameChar (c : Char) : Bool := isLetter c || isDigit c || c == '_'

/-- The number of characters at the front that satisfy `p`. -/
def countWhile (p : Char → Bool) : List Char → Nat
  | [] => 0
  | c :: cs => if p c then countWhile p cs + 1 else 0

/-- A length, unless it is zero. -/
def positive (n : Nat) : Option Nat :=
  if n == 0 then none else some n

/-- Digits, at least one. -/
def digits? (cs : List Char) : Option Nat :=
  positive (countWhile isDigit cs)

/-- An exponent: its letter, an optional sign, and digits. -/
def exponent? : List Char → Option Nat
  | [] => none
  | c :: cs =>
    if c == 'e' || c == 'E' then
      match cs with
      | '+' :: ds => (digits? ds).map (· + 2)
      | '-' :: ds => (digits? ds).map (· + 2)
      | ds => (digits? ds).map (· + 1)
    else none

/-- A mantissa with a point, and an exponent if there is one. -/
def pointed? (cs : List Char) : Option Nat :=
  let whole := countWhile isDigit cs
  match cs.drop whole with
  | '.' :: rest =>
    let fraction := countWhile isDigit rest
    if whole == 0 && fraction == 0 then none
    else
      let mantissa := whole + 1 + fraction
      some (mantissa + (exponent? (rest.drop fraction)).getD 0)
  | _ => none

/-- A number with an exponent, with a point, or with both. -/
def float? (cs : List Char) : Option Nat :=
  let whole := countWhile isDigit cs
  let plain :=
    if whole == 0 then none else (exponent? (cs.drop whole)).map (whole + ·)
  plain.or (pointed? cs)

/-- A number of a given form after an optional sign. -/
def signed? (form : List Char → Option Nat) : List Char → Option Nat
  | '+' :: cs => (form cs).map (· + 1)
  | '-' :: cs => (form cs).map (· + 1)
  | cs => form cs

/-- The rest of a double-quoted text on one line: up to a quote that no backslash escapes. -/
def doubleTail? : List Char → Option Nat
  | [] => none
  | [c] => if c == doubleQuote then some 1 else none
  | c :: d :: cs =>
    if c == doubleQuote then some 1
    else if c == '\n' then none
    else if c == '\\' then
      if d == '\n' then none else (doubleTail? cs).map (· + 2)
    else (doubleTail? (d :: cs)).map (· + 1)

/-- The rest of a single-quoted text, of which `n` characters have been read: up to a quote that is
not escaped, or, if there is none, to the last one that is (`last` is the length up to it). -/
def singleTail? (n : Nat) (last : Option Nat) : List Char → Option Nat
  | [] => last
  | [c] => if c == singleQuote then some (n + 1) else last
  | c :: d :: cs =>
    if c == '\\' && d == '\\' then singleTail? (n + 2) last cs
    else if c == '\\' && d == singleQuote then singleTail? (n + 2) (some (n + 2)) cs
    else if c == singleQuote then some (n + 1)
    else singleTail? (n + 1) last (d :: cs)

/-- Line ends, each of which may have a carriage return before it. -/
def newlines : List Char → Nat
  | [] => 0
  | [c] => if c == '\n' then 1 else 0
  | c :: d :: cs =>
    if c == '\n' then newlines (d :: cs) + 1
    else if c == '\r' && d == '\n' then newlines cs + 2
    else 0

/-- The part of a string between its quotes or placeholders, in a string delimited by `quote`. -/
def stringRun (quote : Char) : List Char → Nat
  | [] => 0
  | [c] => if c == quote || c == '~' || c == '$' then 0 else 1
  | c :: d :: cs =>
    if c == '\\' && (d == '\\' || d == quote) then stringRun quote cs + 2
    else if c == '~' || c == '$' then
      if d == '\x7b' then 0 else stringRun quote (d :: cs) + 1
    else if c == quote then 0
    else stringRun quote (d :: cs) + 1

/-- The part of a command in braces between its ends or placeholders. -/
def braceRun : List Char → Nat
  | [] => 0
  | [c] => if c == '\x7d' || c == '~' || c == '$' then 0 else 1
  | c :: d :: cs =>
    if c == '~' || c == '$' then
      if d == '\x7b' then 0 else braceRun (d :: cs) + 1
    else if c == '\x7d' then 0
    else braceRun (d :: cs) + 1

/-- The part of a command in triple angle brackets between its ends or placeholders: one or two
closing brackets may stand in it if another character follows. -/
def heredocRun : List Char → Nat
  | [] => 0
  | [c] => if c == '~' || c == '>' then 0 else 1
  | c :: d :: cs =>
    if c == '~' then
      if d == '\x7b' then 0 else heredocRun (d :: cs) + 1
    else if c == '>' then
      if d == '>' then
        match cs with
        | [] => 0
        | e :: es => if e == '>' then 0 else heredocRun (e :: es) + 2
      else heredocRun (d :: cs) + 1
    else heredocRun (d :: cs) + 1

/-- A comment with the blanks before it. -/
def comment? (cs : List Char) : Option Nat :=
  let blanks := countWhile (fun c => c == ' ' || c == '\t') cs
  match cs.drop blanks with
  | '#' :: rest => some (blanks + 1 + countWhile (fun c => c != '\r' && c != '\n') rest)
  | _ => none

/-- The length of a fixed text if it stands at the front. -/
def fixed? : List Char → List Char → Option Nat
  | [], _ => some 0
  | w :: ws, c :: cs => if w == c then (fixed? ws cs).map (· + 1) else none
  | _ :: _, [] => none

end Lexer

open Lexer in
/-- The length of the text of a terminal at the front of a list of characters. -/
def Terminal.match? (t : Terminal) (cs : List Char) : Option Nat :=
  match t with
  | .int => digits? cs
  | .signedInt => signed? digits? cs
  | .float => float? cs
  | .signedFloat => signed? float? cs
  | .doubleQuotedText =>
    match cs with
    | c :: rest => if c == Text.doubleQuote then (doubleTail? rest).map (· + 1) else none
    | [] => none
  | .singleQuotedText =>
    match cs with
    | c :: rest => if c == Text.singleQuote then singleTail? 1 none rest else none
    | [] => none
  | .newline => positive (newlines cs)
  | .versionNumber =>
    positive (countWhile (fun c => c != ' ' && c != '\t' && c != '\r' && c != '\n') cs)
  | .placeholderOpen =>
    match cs with
    | c :: d :: _ => if (c == '~' || c == '$') && d == '\x7b' then some 2 else none
    | _ => none
  | .singleFragment => positive (stringRun Text.singleQuote cs)
  | .doubleFragment => positive (stringRun Text.doubleQuote cs)
  | .braceFragment => positive (braceRun cs)
  | .heredocFragment => positive (heredocRun cs)
  | .name =>
    match cs with
    | c :: rest => if isLetter c then some (countWhile isNameChar rest + 1) else none
    | [] => none
  | .space => positive (countWhile (fun c => c == ' ' || c == '\t') cs)
  | .comment => comment? cs
  | .singleQuote =>
    match cs with
    | c :: _ => if c == Text.singleQuote then some 1 else none
    | [] => none
  | .doubleQuote =>
    match cs with
    | c :: _ => if c == Text.doubleQuote then some 1 else none
    | [] => none
  | t => t.literal?.bind fun text => positive ((fixed? text.toList cs).getD 0)

end Wdl
