import Wdl.Pattern.Reader

/-!
Templates: what matches are replaced by.

A template is a text in which a backslash introduces a control character, a numeric escape, the name
of a character or a reference to a group of the match that is replaced. A number of a group that the
pattern does not have is a fault only when something is replaced, a name at once.
-/

namespace Wdl
namespace Pattern

/-- Why nothing can be replaced. -/
inductive Refusal
  /-- the pattern or the template is not well formed -/
  | malformed
  /-- something is asked for that cannot be had -/
  | invalid (message : String)
  /-- the template names a group that the pattern does not have -/
  | unknownGroup
  /-- several characters are named where one is expected -/
  | several (count : Nat)
  deriving DecidableEq, Repr

/-- A part of a template: a text, or what a group has matched. -/
inductive Part
  | text (ns : List Nat)
  | group (index : Nat)

/-- What an escape in a template stands for: code points, which need not be characters, or a
group. -/
inductive Meaning
  | codes (ns : List Nat)
  | group (index : Nat)

/-- The value of exactly `n` hexadecimal digits at the front. -/
def hexCode? (n : Nat) (cs : List Char) : Option (Nat × List Char) :=
  let ds := (cs.take n).filter fun c => (Text.hexValue? c).isSome
  if ds.length == n then some (Text.ofHex ds, cs.drop n) else none

/-- The group that a template refers to, after the opening mark. -/
def templateGroup (c : Compiled) (cs : List Char) : Except Refusal (Nat × List Char) :=
  let name := cs.takeWhile fun c => c != ')' && c != '>'
  match groupName? (some 0) name, cs.drop name.length with
  | some (.number n), '>' :: rest => if n ≤ c.groups then .ok (n, rest) else .error .malformed
  | some (.named s), '>' :: rest =>
    match c.names.lookup s with
    | some n => .ok (n, rest)
    | none => .error .unknownGroup
  | _, _ => .error .malformed

/-- The character that is named in braces at the front. -/
def templateName : List Char → Except Refusal (Nat × List Char)
  | '\x7b' :: cs =>
    let letters := cs.takeWhile fun c => c.isAlpha || c == ' '
    let name := String.ofList letters
    match cs.drop letters.length, Text.ofName? name, Text.sequenceLength? name with
    | '\x7d' :: rest, some n, _ => .ok (n, rest)
    | '\x7d' :: _, none, some count => .error (.several count)
    | _, _, _ => .error .malformed
  | _ => .error .malformed

/-- What an escape with a letter stands for. -/
def letterMeaning (compiled : Compiled) (c : Char) (cs : List Char) :
    Except Refusal (Meaning × List Char) :=
  match controlOf? c, hexLength? c with
  | some n, _ => .ok (.codes [n], cs)
  | none, some len =>
    match hexCode? len cs with
    | some (n, rest) => .ok (.codes [n], rest)
    | none => .error .malformed
  | none, none =>
    match c, cs with
    | 'g', '<' :: rest => (templateGroup compiled rest).map fun (n, rest) => (.group n, rest)
    | 'N', cs => (templateName cs).map fun (n, rest) => (.codes [n], rest)
    | _, _ => .error .malformed

/-- What an escape with a digit stands for: a character if it begins with zero or has three octal
digits, and otherwise the group with a number of up to two digits. -/
def digitMeaning (c : Char) (cs : List Char) : Meaning × List Char :=
  let three := (c :: cs).take 3
  if c == '0' then
    let ds := three.takeWhile isOctal
    (.codes [octal ds], (c :: cs).drop ds.length)
  else if three.length == 3 && three.all isOctal then
    (.codes [octal three % 0x200], cs.drop 2)
  else
    let ds := (three.takeWhile Char.isDigit).take 2
    (.group (natOf ds), (c :: cs).drop ds.length)

/-- What an escape stands for, after the backslash. A sign keeps its backslash, unless it is one. -/
def meaning (compiled : Compiled) : List Char → Except Refusal (Meaning × List Char)
  | [] => .error .malformed
  | c :: cs =>
    if c.isAlpha then letterMeaning compiled c cs
    else if c.isDigit then .ok (digitMeaning c cs)
    else if c == '\\' then .ok (.codes [c.toNat], cs)
    else .ok (.codes ['\\'.toNat, c.toNat], cs)

/-- A text of code points, all of which have to be characters. -/
def textOf (ns : List Nat) : Except Refusal (List Part) :=
  match ns.find? (0x10FFFF < ·) with
  | some n =>
    .error (.invalid (if n < Nat.pow 2 31 then "chr() arg not in range(0x110000)"
      else "Python int too large to convert to C int"))
  | none => .ok (if ns.isEmpty then [] else [.text ns])

/-- Reads a template; `before` are the code points just before, the last first. -/
def template (compiled : Compiled) :
    Nat → List Nat → List Char → Except Refusal (List Part)
  | 0, _, _ => .error .malformed
  | _ + 1, before, [] => textOf before.reverse
  | fuel + 1, before, '\\' :: cs => do
    match ← meaning compiled cs with
    | (.codes ns, rest) => template compiled fuel (ns.reverse ++ before) rest
    | (.group i, rest) =>
      let text ← textOf before.reverse
      let parts ← template compiled fuel [] rest
      return text ++ .group i :: parts
  | fuel + 1, before, c :: cs => template compiled fuel (c.toNat :: before) cs

end Pattern
end Wdl
