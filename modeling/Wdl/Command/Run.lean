import Wdl.Command.Arguments
import Wdl.Document.Dump
import Wdl.Document.Load
import Wdl.Document.Outline
import Wdl.Json.Reader
import Wdl.Value.Datum

/-!
Running commands.

A command reads files and the environment and leaves a `Report`: what it writes and how it ends.
What goes wrong with documents, expressions and files is written to the second stream and decides
the exit status; anything else that goes wrong ends the command there and is passed on.
-/

namespace Wdl
namespace Command

/-- What goes wrong in a command. -/
inductive Trouble
  | file (name : String) (t : FileTrouble)
  | refused (r : Refusal)

/-- How a command ends. -/
inductive Ending
  | exit (status : Nat)
  | raised (t : Trouble)

structure Report where
  stdout : String
  stderr : String
  ending : Ending

/-- What has been written so far. -/
structure Console where
  /-- whether the second stream is coloured -/
  coloured : Bool
  stdout : String := ""
  stderr : String := ""

namespace Console

def print (c : Console) (line : String) : Console :=
  { c with stdout := c.stdout ++ line ++ "\n" }

/-- Writes a line to the second stream, in the colour that the code selects. -/
def complain (c : Console) (colour line : String) : Console :=
  { c with
    stderr := c.stderr ++
      (if c.coloured then "\x1b[" ++ colour ++ "m" ++ line ++ "\n" ++ "\x1b[0m" else line ++ "\n") }

/-- Writes an error, in bright red. -/
def error (c : Console) (line : String) : Console := c.complain "1;91" line

/-- Writes a warning, in yellow. -/
def warning (c : Console) (line : String) : Console := c.complain "0;33" line

def report (c : Console) (e : Ending) : Report := ⟨c.stdout, c.stderr, e⟩

end Console

/-- A line and a column, as errors show them. -/
def placeText (p : Position) : String :=
  "Ln " ++ toString p.line ++ " Col " ++ toString p.column

/-- The line for a fault. -/
def faultLine (f : Fault) : String :=
  match f.site.bind Site.position? with
  | some p => "(" ++ p.uri ++ " " ++ placeText p ++ ") " ++ f.message
  | none => f.message

/-- The line for a problem of a document. -/
def warningLine (f : Fault) : String :=
  let text := f.cause.code ++ ", " ++ f.message
  match f.site.bind Site.position? with
  | some p => "(" ++ placeText p ++ ") " ++ text
  | none => text

/-- Whether a fault is one of the language, and not of the machinery under it. -/
def isReported : Cause → Bool
  | .failure .overflow => false
  | .failure .operandCount => false
  | .failure .endless => false
  | .failure .unknownGroup => false
  | .failure (.severalCharacters _) => false
  | _ => true

/-- The line and the exit status for trouble that is reported. -/
def Trouble.reported? : Trouble → Option (String × Nat)
  | .file name t =>
    t.number?.map fun n =>
      ("[Errno " ++ toString n ++ "] " ++ t.message ++ ": " ++ Text.quoted name, 2)
  | .refused (.rejected (.syntaxError e)) => some (e.text, 1)
  | .refused (.rejected (.fault f)) => if isReported f.cause then some (faultLine f, 1) else none
  | .refused _ => none

/-- What commands work with. -/
structure Setting where
  config : Config
  env : Config.Environment
  files : Files

/-- Checks one file: whether its document is to be found fault with. -/
def checkFile (s : Setting) (outline json strict : Bool) (file : String) (out : Console) :
    Except Trouble (Bool × Console) :=
  match s.config.parseFile s.env s.files file file with
  | .error (.file t) => .error (.file file t)
  | .error (.refused r) => .error (.refused r)
  | .ok b =>
    let out := b.syntaxErrors.foldl (fun (o : Console) e => o.error e.text) out
    let out := b.problems.foldl
      (fun (o : Console) p => o.warning (warningLine (p.toFault b.forest))) out
    let out := if outline then
        (Path.baseName file :: b.forest.outline b.document).foldl Console.print out
      else out
    let out := if json then
        match b.forest.ast? b.document with
        | some a => out.print a.json.pretty
        | none => out
      else out
    .ok (!b.syntaxErrors.isEmpty || (strict && !b.problems.isEmpty), out)

/-- Checks files one after another. The first that cannot be read ends the command. -/
def checkFiles (s : Setting) (outline json strict : Bool) :
    List String → Bool → Console → Console × Except Trouble Nat
  | [], bad, out => (out, .ok (if bad then 1 else 0))
  | file :: files, bad, out =>
    match checkFile s outline json strict file out with
    | .error t => (out, .error t)
    | .ok (worse, out) => checkFiles s outline json strict files (bad || worse) out

/-- A fault that is about nothing in particular. -/
def Trouble.ofFailure (f : Failure) : Trouble :=
  .refused (.rejected (.fault (.ofFailure none f)))

/-- Reads a binding: a name, an equals sign and JSON data. What is not JSON is a text. -/
def readBinding (text : String) : Except Failure (String × Json) :=
  match splitValue text.toList with
  | (_ :: _, none) | ([], _) => .error (invalid text)
  | (name, some value) =>
    let value := String.ofList value
    .ok (String.ofList (Text.trimChars name), (Json.parse? value).getD (.str value))
where
  invalid (text : String) : Failure :=
    .eval ("invalid binding (expected NAME=JSON): " ++ text)

/-- Evaluates an expression with bindings, of which the last for a name counts. -/
def evalText (s : Setting) (expr : String) (bindings : List String) : Except Trouble Value := do
  let data ← (bindings.mapM readBinding).mapError Trouble.ofFailure
  let data := Assoc.update [] data
  let compiled ← (s.config.compileExpr s.env expr).mapError .refused
  let values ← (data.mapM fun kv => (Value.infer kv.2).map (kv.1, ·)).mapError Trouble.ofFailure
  let _ ← (s.config.maxDepth s.env).mapError fun t => Trouble.refused (.config t)
  (compiled.expr.evaluate (Lookup.ofBindings [] values)).mapError
    fun f => .refused (.rejected (.fault f))

/-- Runs a command in a setting. -/
def execute (s : Setting) (c : Command) (out : Console) : Console × Except Trouble Nat :=
  match c with
  | .check files outline json strict => checkFiles s outline json strict files false out
  | .eval expr bindings =>
    match evalText s expr bindings with
    | .error t => (out, .error t)
    | .ok v => (out.print v.json.pretty, .ok 0)

end Command

open Command

/-- Runs a command. Its configuration is loaded first, and all options of it are looked at. -/
def Invocation.run (i : Invocation) (env : Config.Environment) (fs : Files) (coloured : Bool) :
    Report :=
  let out : Console := { coloured }
  match i.cfg.filter fun name => !fs.isFile name with
  | some name => (out.error ("--cfg file not found: " ++ name)).report (.exit 2)
  | none =>
    let loaded := do
      let c ← Config.load env fs (i.cfg.map fun name => [name]) []
      let _ ← c.all env
      pure c
    match loaded with
    | .error t => out.report (.raised (.refused (.config t)))
    | .ok config =>
      match execute ⟨config, env, fs⟩ i.command out with
      | (out, .ok status) => out.report (.exit status)
      | (out, .error t) =>
        match t.reported? with
        | none => out.report (.raised t)
        | some (line, status) =>
          (out.error line).report (if i.debug then .raised t else .exit status)

end Wdl
