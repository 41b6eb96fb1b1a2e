import Wdl.Text.Digits
import Wdl.Text.Quoted

/-!
Commands and their arguments.

A `Usage` says which options a command has and which places its other arguments fill. Arguments are
first told apart: those that begin with a dash are options, unless they are negative numbers, hold a
blank, or come after `--`. Options may be shortened as long as that is not ambiguous. Then places
are filled from left to right, as many as the arguments before the next option allow. What finds no
place is left over and not yet an error, since it may be for someone else.
-/

namespace Wdl
namespace Command

/-- The options of all commands. -/
inductive Flag
  | help
  | outline
  | json
  | strict
  | debug
  | verbose
  | logJson
  | cfg
  deriving DecidableEq, Repr

namespace Flag

def spellings : Flag → List String
  | .help => ["-h", "--help"]
  | .outline => ["--outline"]
  | .json => ["--json"]
  | .strict => ["--strict"]
  | .debug => ["--debug"]
  | .verbose => ["-v", "--verbose"]
  | .logJson => ["--log-json"]
  | .cfg => ["--cfg"]

/-- An option as messages name it. -/
def label (f : Flag) : String :=
  "/".intercalate f.spellings

/-- Whether an option has a value. -/
def takesValue : Flag → Bool
  | .cfg => true
  | _ => false

end Flag

/-- How many arguments a place takes. -/
inductive Count
  | one
  | atLeastOne
  | any
  /-- one, and everything after it, options included -/
  | remainder
  deriving DecidableEq, Repr

/-- A place for arguments that are not options. -/
structure Slot where
  name : String
  count : Count

structure Usage where
  flags : List Flag
  slots : List Slot

/-- Why arguments are not taken. -/
inductive Misuse
  /-- an explanation is asked for instead -/
  | help
  | wrong (message : String)
  deriving DecidableEq, Repr

/-- A value written in one argument with its option. -/
structure Attached where
  /-- whether an equals sign stands before the value -/
  marked : Bool
  text : List Char
  deriving DecidableEq, Repr

/-- What an argument is. -/
inductive Role
  | plain
  /-- the `--` that ends the options -/
  | endOfOptions
  | unknown
  /-- an option, and whether it is spelled with two dashes -/
  | flag (f : Flag) (long : Bool) (value : Option Attached)
  deriving DecidableEq, Repr

/-- An argument and what it is. -/
structure Argument where
  written : String
  role : Role

namespace Argument

def isOption (a : Argument) : Bool :=
  match a.role with
  | .unknown => true
  | .flag _ _ _ => true
  | _ => false

def isPlain (a : Argument) : Bool :=
  a.role == .plain

def isEnd (a : Argument) : Bool :=
  a.role == .endOfOptions

end Argument

/-- Whether a text is a dash and a number without exponent. -/
def isNegativeNumber (cs : List Char) : Bool :=
  let isDigit (c : Char) : Bool := (Text.digitValue? c).isSome
  match cs with
  | '-' :: rest =>
    let rest := if rest.getLast? == some '\n' then rest.dropLast else rest
    match rest.dropWhile isDigit with
    | [] => !rest.isEmpty
    | '.' :: fraction => !fraction.isEmpty && fraction.all isDigit
    | _ => false
  | _ => false

/-- The text before the first equals sign, and the text after it if there is one. -/
def splitValue (cs : List Char) : List Char × Option (List Char) :=
  match cs.dropWhile (· != '=') with
  | [] => (cs, none)
  | _ :: value => (cs.takeWhile (· != '='), some value)

def isLong (spelling : List Char) : Bool :=
  ['-', '-'].isPrefixOf spelling

namespace Usage

/-- The spellings of all options. -/
def spelled (u : Usage) : List (Flag × List Char) :=
  u.flags.flatMap fun f => f.spellings.map fun s => (f, s.toList)

/-- The option with a spelling. -/
def find? (u : Usage) (spelling : List Char) : Option Flag :=
  (u.spelled.find? fun s => s.2 == spelling).map Prod.fst

/-- The spellings that an argument may stand for, with the value written with it. One with two
dashes may be shortened and has its value after an equals sign. One with a single dash has its value
right after its letter. -/
def candidates (u : Usage) (cs : List Char) : List (Flag × List Char × Option Attached) :=
  if isLong cs then
    let (start, value) := splitValue cs
    u.spelled.filterMap fun (f, s) =>
      if start.isPrefixOf s then some (f, s, value.map (⟨true, ·⟩)) else none
  else
    u.spelled.filterMap fun (f, s) =>
      if s == cs.take 2 then some (f, s, some ⟨false, cs.drop 2⟩)
      else if cs.isPrefixOf s then some (f, s, none)
      else none

/-- What an argument before the end of the options is. -/
def role (u : Usage) (written : String) : Except Misuse Role :=
  let cs := written.toList
  match cs with
  | '-' :: _ :: _ =>
    match u.find? cs with
    | some f => .ok (.flag f (isLong cs) none)
    | none =>
      let (start, value) := splitValue cs
      match value, u.find? start with
      | some v, some f => .ok (.flag f (isLong start) (some ⟨true, v⟩))
      | _, _ =>
        match u.candidates cs with
        | [(f, s, v)] => .ok (.flag f (isLong s) v)
        | [] =>
          if isNegativeNumber cs || cs.contains ' ' then .ok .plain else .ok .unknown
        | several =>
          .error (.wrong ("ambiguous option: " ++ written ++ " could match " ++
            ", ".intercalate (several.map fun c => String.ofList c.2.1)))
  | _ => .ok .plain

/-- Tells arguments apart. -/
def classify (u : Usage) : List String → Except Misuse (List Argument)
  | [] => .ok []
  | "--" :: rest => .ok (⟨"--", .endOfOptions⟩ :: rest.map (⟨·, .plain⟩))
  | a :: rest => do
    let r ← u.role a
    let rest ← u.classify rest
    .ok (⟨a, r⟩ :: rest)

end Usage

/-- The arguments that a place takes, and those after them. -/
def Count.take? (c : Count) (args : List Argument) : Option (List Argument × List Argument) :=
  let ends := args.takeWhile Argument.isEnd
  match c, args.dropWhile Argument.isEnd with
  | .any, _ => some (args.span fun a => !a.isOption)
  | .one, a :: rest =>
    if a.isPlain then
      some (ends ++ a :: rest.takeWhile Argument.isEnd, rest.dropWhile Argument.isEnd)
    else none
  | .atLeastOne, a :: rest =>
    if a.isPlain then
      let (more, after) := rest.span fun a => !a.isOption
      some (ends ++ a :: more, after)
    else none
  | .remainder, a :: rest => if a.isPlain then some (ends ++ a :: rest, []) else none
  | _, [] => none

/-- The texts in a place. The first `--` among them only ends the options, unless the place takes
everything. -/
def Slot.values (s : Slot) (args : List Argument) : List String :=
  let written := args.map Argument.written
  match s.count with
  | .remainder => written
  | _ => written.erase "--"

/-- What has been read. -/
structure Reading where
  flags : List (Flag × Option String) := []
  values : List (String × List String) := []
  /-- arguments without a place -/
  extras : List String := []

/-- Fills places in order, as long as the arguments allow. -/
def fill : List Slot → List Argument → Reading → List Slot × List Argument × Reading
  | [], args, r => ([], args, r)
  | s :: slots, args, r =>
    match s.count.take? args with
    | some (taken, rest) =>
      fill slots rest { r with values := r.values ++ [(s.name, s.values taken)] }
    | none => (s :: slots, args, r)

/-- The message for the value of an option that has none. -/
def ignoredValue (f : Flag) (value : List Char) : Misuse :=
  .wrong ("argument " ++ f.label ++ ": ignored explicit argument " ++
    Text.quoted (String.ofList value))

/-- The part of an argument that is left after the letters of some options. -/
def Attached.ofRest? (cs : List Char) : Option Attached :=
  match cs with
  | [] => none
  | '=' :: v => some ⟨true, v⟩
  | v => some ⟨false, v⟩

/-- What an option argument amounts to, with the arguments after it. -/
structure OptionReading where
  flags : List (Flag × Option String)
  extras : List String := []
  rest : List Argument

/-- Reads an option, which may be several letters after one dash. Letters that are no options are
left over. -/
def readOption (u : Usage) (f : Flag) (long : Bool) (value : Option Attached)
    (rest : List Argument) : Except Misuse OptionReading :=
  match value with
  | none =>
    if f.takesValue then
      match rest with
      | a :: rest =>
        if a.isPlain then .ok { flags := [(f, some a.written)], rest }
        else .error (.wrong ("argument " ++ f.label ++ ": expected one argument"))
      | [] => .error (.wrong ("argument " ++ f.label ++ ": expected one argument"))
    else .ok { flags := [(f, none)], rest }
  | some ⟨marked, v⟩ =>
    if f.takesValue then .ok { flags := [(f, some (String.ofList v))], rest }
    else
      match v with
      | [] => .error (ignoredValue f v)
      | c :: cs =>
        if long || marked || c == '-' then .error (ignoredValue f v)
        else
          match u.find? ['-', c] with
          | none => .ok { flags := [(f, none)], extras := [String.ofList ('-' :: v)], rest }
          | some g => do
            let r ← readOption u g false (Attached.ofRest? cs) rest
            .ok { r with flags := (f, none) :: r.flags }
termination_by (value.map fun a => a.text.length).getD 0
decreasing_by
  unfold Attached.ofRest?
  split <;> simp +arith

/-- The message for places that are not filled. -/
def required (slots : List Slot) : Misuse :=
  .wrong ("the following arguments are required: " ++ ", ".intercalate (slots.map Slot.name))

/-- Reads arguments one option or run of places at a time. Every step takes at least one argument,
so the number of arguments bounds the number of steps. -/
def readSteps (u : Usage) : Nat → List Slot → List Argument → Reading → Except Misuse Reading
  | 0, slots, _, _ => .error (required slots)
  | fuel + 1, slots, args, r =>
    if !args.any Argument.isOption then
      match fill slots args r with
      | ([], rest, r) => .ok { r with extras := r.extras ++ rest.map Argument.written }
      | (slots, _, _) => .error (required slots)
    else
      match args with
      | ⟨written, .unknown⟩ :: rest =>
        readSteps u fuel slots rest { r with extras := r.extras ++ [written] }
      | ⟨_, .flag f long value⟩ :: rest =>
        match readOption u f long value rest with
        | .error e => .error e
        | .ok o =>
          if o.flags.any fun g => g.1 == .help then .error .help
          else
            readSteps u fuel slots o.rest
              { r with flags := r.flags ++ o.flags, extras := r.extras ++ o.extras }
      | args =>
        let (slots, rest, filled) := fill slots args r
        if rest.length < args.length then readSteps u fuel slots rest filled
        else
          let (left, rest) := args.span fun a => !a.isOption
          readSteps u fuel slots rest
            { filled with extras := filled.extras ++ left.map Argument.written }

/-- Reads the arguments of a command. -/
def Usage.read (u : Usage) (args : List String) : Except Misuse Reading := do
  let args ← u.classify args
  readSteps u (args.length + 1) u.slots args {}

end Command

/-! ## The commands

There are two: `check` parses documents and reports what is wrong with them, and `eval` evaluates an
expression. -/

inductive Command
  | check (files : List String) (outline json strict : Bool)
  | eval (expr : String) (bindings : List String)
  deriving DecidableEq, Repr

/-- A command with the options that all commands have. -/
structure Invocation where
  command : Command
  /-- whether what goes wrong is also passed on to the caller -/
  debug : Bool := false
  verbose : Bool := false
  logJson : Bool := false
  /-- the configuration file -/
  cfg : Option String := none
  deriving DecidableEq, Repr

namespace Command

/-- The arguments in front of those of a command. -/
def topUsage : Usage :=
  ⟨[.help], [⟨"command", .remainder⟩]⟩

def commonFlags : List Flag := [.debug, .verbose, .logJson, .cfg]

def checkUsage : Usage :=
  ⟨[.help, .outline, .json, .strict] ++ commonFlags, [⟨"WDL_FILE", .atLeastOne⟩]⟩

def evalUsage : Usage :=
  ⟨.help :: commonFlags, [⟨"EXPR", .one⟩, ⟨"NAME=JSON", .any⟩]⟩

namespace Reading

def has (r : Reading) (f : Flag) : Bool :=
  r.flags.any fun g => g.1 == f

def valuesOf (r : Reading) (name : String) : List String :=
  (r.values.lookup name).getD []

/-- The last value of an option; an empty one counts as none. -/
def value? (r : Reading) (f : Flag) : Option String :=
  match r.flags.reverse.lookup f with
  | some (some v) => if v.isEmpty then none else some v
  | _ => none

/-- A command with the options that were read. -/
def invocation (r : Reading) (c : Command) : Invocation :=
  { command := c, debug := r.has .debug, verbose := r.has .verbose, logJson := r.has .logJson,
    cfg := r.value? .cfg }

end Reading

/-- The names of the commands. -/
def names : List String := ["check", "eval"]

/-- Reads the arguments of a command. -/
def readNamed (name : String) (args : List String) : Except Misuse (Reading × Command) :=
  if name == "check" then do
    let r ← checkUsage.read args
    .ok (r, .check (r.valuesOf "WDL_FILE") (r.has .outline) (r.has .json) (r.has .strict))
  else if name == "eval" then do
    let r ← evalUsage.read args
    .ok (r, .eval ((r.valuesOf "EXPR").headD "") (r.valuesOf "NAME=JSON"))
  else
    .error (.wrong ("argument command: invalid choice: " ++ Text.quoted name ++ " (choose from " ++
      ", ".intercalate (names.map Text.quoted) ++ ")"))

end Command

/-- Reads a command line. -/
def Invocation.ofArgs (args : List String) : Except Command.Misuse Invocation := do
  let top ← Command.topUsage.read args
  match top.valuesOf "command" with
  | [] => .error (Command.required Command.topUsage.slots)
  | name :: args =>
    let (r, c) ← Command.readNamed name args
    match top.extras ++ r.extras with
    | [] => .ok (r.invocation c)
    | extras => .error (.wrong ("unrecognized arguments: " ++ " ".intercalate extras))

end Wdl
