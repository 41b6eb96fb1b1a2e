import Wdl.Config.Expansion
import Wdl.Config.OptionFile
import Wdl.Files
import Wdl.Json.Basic
import Wdl.Text.Digits

/-!
Configuration.

An option is looked for among the overrides, in the environment, in the configuration file and among
the defaults, in this order. The names of sections and options are taken in lower case. The value
that is found may be quoted, and its variables are expanded.
-/

namespace Wdl

structure Config where
  overrides : Config.OptionFile := {}
  /-- the options of the configuration file -/
  file : Config.OptionFile := {}
  /-- the name of the configuration file -/
  filename : Option String := none

namespace Config

/-- The options that hold unless another source says otherwise. -/
def builtin : OptionFile :=
  { sections :=
      [("parser", [("max_syntax_errors", "100"), ("wdl_version", "1.1")]),
       ("eval", [("max_depth", "100")])] }

/-- The sources of options other than the environment. -/
def layers (c : Config) : List OptionFile :=
  [c.overrides, c.file, builtin]

/-- The variable of the environment for an option. -/
def environmentValue? (env : Environment) (name key : String) : Option String :=
  env.lookup ("WDLPARSER__" ++ Text.upper name ++ "__" ++ Text.upper key)

/-- A value without blanks around it, and without quotes around that. -/
def unquote (s : String) : String :=
  let cs := Text.trimChars s.toList
  match cs with
  | q :: rest =>
    if (q == Text.singleQuote || q == Text.doubleQuote) && !rest.isEmpty &&
        cs.getLast? == some q then
      String.ofList rest.dropLast
    else String.ofList cs
  | [] => ""

/-- The number of rounds of expansion after which a value is taken not to come to an end.  Expansion
is a recursion, and this stands for the limit on how deep calls may be nested, of which the callers
of the expansion use a part. -/
def maxRounds : Nat := 1000

/-- The value of an option as its source gives it. -/
def raw (c : Config) (env : Environment) (name key : String) : Except Trouble String :=
  if c.overrides.hasOption name key then c.overrides.get name key
  else
    match environmentValue? env name key with
    | some v => .ok v
    | none =>
      if c.file.hasOption name key then c.file.get name key
      else if builtin.hasOption name key then builtin.get name key
      else if c.layers.any fun l => l.hasSection name then
        .error (.missing ("missing config option [" ++ name ++ "] " ++ key))
      else .error (.missing ("missing config section [" ++ name ++ "]"))

/-- The value of an option. -/
def get (c : Config) (env : Environment) (name key : String) : Except Trouble String := do
  let v ← c.raw env (Text.lower name) (Text.lower key)
  match expand? env maxRounds (unquote v) with
  | some v => .ok v
  | none => .error .endlessExpansion

/-- The value of an option that is an integer. -/
def getInt (c : Config) (env : Environment) (name key : String) : Except Trouble Int := do
  let v ← c.get env name key
  match Text.readInt? v with
  | some n => .ok n
  | none =>
    .error (.value ("configuration option [" ++ name ++ "] " ++ key ++ " should be int"))

/-- The values of all options that some source other than the environment knows, by section. -/
def all (c : Config) (env : Environment) :
    Except Trouble (List (String × List (String × String))) :=
  let known := c.layers.flatMap fun l =>
    l.sections.flatMap fun s => (l.keys s.1).map fun key => (s.1, key)
  known.foldlM
    (fun acc (name, key) => do
      let v ← c.get env name key
      return Assoc.insert name (Assoc.insert key v ((acc.lookup name).getD [])) acc)
    []

mutual

/-- Data inside a list or map, as the text of an option shows it. -/
def innerText : Json → String
  | .null => "None"
  | .bool b => if b then "True" else "False"
  | .int n => toString n
  | .float x => Decimal.plain.render x
  | .str s => Text.quoted s
  | .arr items => "[" ++ ", ".intercalate (innerTexts items) ++ "]"
  | .obj members => "\x7b" ++ ", ".intercalate (memberTexts members) ++ "\x7d"

def innerTexts : List Json → List String
  | [] => []
  | j :: js => innerText j :: innerTexts js

def memberTexts : List (String × Json) → List String
  | [] => []
  | (k, v) :: rest => (Text.quoted k ++ ": " ++ innerText v) :: memberTexts rest

end

/-- The text of an option that is given as data. -/
def optionText : Json → String
  | .str s => s
  | j => innerText j

/-- Sets options of a section one after another. Those before one that is refused stay set. -/
def setOptions (name : String) :
    List (String × String) → OptionFile → Option Trouble × OptionFile
  | [], f => (none, f)
  | (key, v) :: rest, f =>
    match f.setChecked name key v with
    | .ok f => setOptions name rest f
    | .error t => (some t, f)

/-- Sets options section by section, up to one that is refused. -/
def setSections :
    List (String × List (String × String)) → OptionFile → Option Trouble × OptionFile
  | [], f => (none, f)
  | (name, options) :: rest, f =>
    match setOptions name options (f.addSection name) with
    | (none, f) => setSections rest f
    | refused => refused

/-- Options by section, with names in lower case. Sections without options are left out. -/
def lowered (options : List (String × List (String × String))) :
    List (String × List (String × String)) :=
  (options.filter fun s => !s.2.isEmpty).foldl
    (fun acc s =>
      Assoc.insert (Text.lower s.1)
        (s.2.foldl (fun kvs kv => Assoc.insert (Text.lower kv.1) kv.2 kvs) []) acc)
    []

/-- Puts options over all others, up to one that is refused. -/
def override (c : Config) (options : List (String × List (String × String))) :
    Option Trouble × Config :=
  let (refused, overrides) := setSections (lowered options) c.overrides
  (refused, { c with overrides })

/-- The names of the configuration files to look for: those given, or those that the environment
names. -/
def fileNames (env : Environment) (given : Option (List String)) : List String :=
  match given with
  | some names => names
  | none =>
    (Text.splitOn ':' ((env.lookup "WDLPARSER_CFG").getD "")).filter fun n => !n.isEmpty

/-- Loads a configuration. Of the files to look for, the first that there is is read. -/
def load (env : Environment) (fs : Files) (given : Option (List String))
    (overrides : List (String × List (String × String))) : Except Trouble Config := do
  let c ← match (fileNames env given).find? fs.isFile with
    | some name =>
      match fs.readText name with
      | .ok text => do
        let file ← OptionFile.ofText text
        pure { file, filename := some name : Config }
      | .error _ => .error .undecodable
    | none => pure {}
  match c.override overrides with
  | (none, c) => .ok c
  | (some t, _) => .error t

/-- The version of the language that documents are to be parsed in. -/
def languageVersion (c : Config) (env : Environment) : Except Trouble String :=
  c.get env "parser" "wdl_version"

/-- The number of syntax errors after which parsing ends. -/
def maxSyntaxErrors (c : Config) (env : Environment) : Except Trouble Int :=
  c.getInt env "parser" "max_syntax_errors"

/-- The number of declarations that may wait for one another in an evaluation. -/
def maxDepth (c : Config) (env : Environment) : Except Trouble Int :=
  c.getInt env "eval" "max_depth"

end Config
end Wdl
