import Wdl.Assoc
import Wdl.Text.Blank
import Wdl.Text.Case
import Wdl.Text.Quoted

/-!
Files of options.

A file has sections, each headed by its name in brackets, with one option on a line: a key, an
equals sign or colon, and a value. Lines that are indented more than the key belong to its value.
The section `DEFAULT` holds options for all others. A value may refer to another option by
`%(key)s`; a percent sign that is none is written twice.
-/

namespace Wdl
namespace Config

/-- What is wrong with a configuration. -/
inductive Trouble
  /-- an option or section that no source knows -/
  | missing (message : String)
  /-- a value that is not what it should be -/
  | value (message : String)
  /-- an option asked for in no section, though there is a default for it -/
  | noSection
  | interpolationSyntax
  | interpolationMissingOption
  | interpolationDepth
  | missingSectionHeader
  | parsing
  | duplicateSection
  | duplicateOption
  /-- a configuration file that is not UTF-8 -/
  | undecodable
  /-- a value whose variables expand to themselves -/
  | endlessExpansion
  deriving DecidableEq, Repr

/-- Options by section, and those that count for all sections. -/
structure OptionFile where
  defaults : List (String × String) := []
  sections : List (String × List (String × String)) := []

namespace OptionFile

/-- The name of the section with the options for all sections. -/
def defaultSection : String := "DEFAULT"

def hasSection (f : OptionFile) (name : String) : Bool :=
  Assoc.contains name f.sections

/-- The options that are visible in a section: its own before the defaults. -/
def visible (f : OptionFile) (name : String) : List (String × String) :=
  (f.sections.lookup name).getD [] ++ f.defaults

/-- Whether an option can be asked for. Without a section only the defaults count. -/
def hasOption (f : OptionFile) (name key : String) : Bool :=
  if name.isEmpty || name == defaultSection then Assoc.contains key f.defaults
  else f.hasSection name && Assoc.contains key (f.visible name)

/-- The keys of a section, its own first. -/
def keys (f : OptionFile) (name : String) : List String :=
  let own := ((f.sections.lookup name).getD []).map Prod.fst
  own ++ (f.defaults.map Prod.fst).filter fun k => !own.contains k

/-- Sets an option. One without a section is a default. -/
def set (f : OptionFile) (name key value : String) : OptionFile :=
  if name.isEmpty || name == defaultSection then
    { f with defaults := Assoc.insert key value f.defaults }
  else
    let own := (f.sections.lookup name).getD []
    { f with sections := Assoc.insert name (Assoc.insert key value own) f.sections }

/-- Adds a section without options, unless it is there. -/
def addSection (f : OptionFile) (name : String) : OptionFile :=
  if f.hasSection name then f else { f with sections := f.sections ++ [(name, [])] }

/-! ## References to options -/

/-- The number of references that may lead from one to the next. -/
def maxDepth : Nat := 10

/-- The key of a reference at the front of a text, after the percent sign and parenthesis, and the
text after it. -/
def reference? (cs : List Char) : Option (String × List Char) :=
  let key := cs.takeWhile (· != ')')
  match cs.drop key.length with
  | ')' :: 's' :: rest => if key.isEmpty then none else some (String.ofList key, rest)
  | _ => none

/-- Replaces the references in a value by the values that they refer to. Within one value every step
makes the rest shorter, and references are followed to a limited depth. -/
def interpolate (options : List (String × String)) :
    Nat → Nat → List Char → Except Trouble (List Char)
  | 0, _, _ => .error .interpolationDepth
  | _ + 1, _, [] => .ok []
  | _ + 1, 0, _ :: _ => .ok []
  | depth + 1, fuel + 1, '%' :: '%' :: cs =>
    return '%' :: (← interpolate options (depth + 1) fuel cs)
  | depth + 1, fuel + 1, '%' :: '(' :: cs =>
    match reference? cs with
    | none => .error .interpolationSyntax
    | some (key, rest) =>
      match options.lookup (Text.lower key) with
      | none => .error .interpolationMissingOption
      | some v => do
        let v := v.toList
        let here ← if v.contains '%' then interpolate options depth v.length v else .ok v
        return here ++ (← interpolate options (depth + 1) fuel rest)
  | depth + 1, fuel + 1, c :: cs =>
    if c == '%' then .error .interpolationSyntax
    else return c :: (← interpolate options (depth + 1) fuel cs)

/-- The value of an option that can be asked for. -/
def get (f : OptionFile) (name key : String) : Except Trouble String :=
  if !f.hasSection name && name != defaultSection then .error .noSection
  else
    let options := f.visible name
    match options.lookup key with
    | none => .error .noSection
    | some v => do
      let cs := v.toList
      let out ← interpolate options maxDepth cs.length cs
      return String.ofList out

/-- A text without the percent signs that a value may have: those written twice, and references. -/
def withoutReferences : Nat → List Char → List Char
  | 0, cs => cs
  | _ + 1, [] => []
  | fuel + 1, '%' :: '(' :: cs =>
    match reference? cs with
    | some (_, rest) => withoutReferences fuel rest
    | none => '%' :: withoutReferences fuel ('(' :: cs)
  | fuel + 1, c :: cs => c :: withoutReferences fuel cs

def withoutPairs : List Char → List Char
  | '%' :: '%' :: cs => withoutPairs cs
  | c :: cs => c :: withoutPairs cs
  | [] => []

/-- Sets an option from outside of a file, where a stray percent sign is refused. -/
def setChecked (f : OptionFile) (name key value : String) : Except Trouble OptionFile :=
  let cs := withoutPairs value.toList
  let cs := withoutReferences (cs.length + 1) cs
  match cs.idxOf? '%' with
  | some i =>
    .error (.value ("invalid interpolation syntax in " ++ Text.quoted value ++ " at position " ++
      toString i))
  | none => .ok (f.set name key value)

/-! ## Reading -/

/-- The state of reading a file. -/
structure Reading where
  file : OptionFile := {}
  /-- the section that is being read -/
  current : Option String := none
  /-- the option that lines may continue -/
  key : Option String := none
  indent : Nat := 0
  /-- sections and options that have been read -/
  seenSections : List String := []
  seenOptions : List (String × String) := []
  /-- whether some line could not be read -/
  bad : Bool := false

namespace Reading

/-- The value of an option that is being read. -/
def value (r : Reading) (name key : String) : String :=
  if name == defaultSection then (r.file.defaults.lookup key).getD ""
  else (((r.file.sections.lookup name).getD []).lookup key).getD ""

/-- Puts a line at the end of the value that is being read. -/
def extend (r : Reading) (line : String) : Reading :=
  match r.current, r.key with
  | some name, some key =>
    { r with file := r.file.set name key (r.value name key ++ "\n" ++ line) }
  | _, _ => r

/-- The name in a section header. -/
def header? (line : List Char) : Option String :=
  match line with
  | '[' :: cs =>
    let body := cs.reverse.dropWhile (· != ']')
    match body with
    | _ :: name => if name.isEmpty then none else some (String.ofList name.reverse)
    | [] => none
  | _ => none

/-- The key and value on a line. -/
def option? (line : List Char) : Option (String × String) :=
  let isMark (c : Char) := c == '=' || c == ':'
  let key := line.takeWhile fun c => !isMark c
  match line.drop key.length with
  | _ :: rest =>
    some (Text.lower (String.ofList (Text.trimRightChars key)),
      String.ofList (Text.trimChars rest))
  | [] => none

/-- Begins a section. -/
def beginSection (r : Reading) (name : String) : Except Trouble Reading :=
  if name == defaultSection then .ok { r with current := some name, key := none }
  else if r.seenSections.contains name then .error .duplicateSection
  else
    .ok { r with
      file := r.file.addSection name
      current := some name
      key := none
      seenSections := name :: r.seenSections }

/-- Reads a line that begins a section or an option. -/
def begin (r : Reading) (line : List Char) : Except Trouble Reading :=
  match header? line, r.current with
  | some name, _ => r.beginSection name
  | none, none => .error .missingSectionHeader
  | none, some name =>
    match option? line with
    | none => .ok { r with bad := true }
    | some (key, value) =>
      if r.seenOptions.contains (name, key) then .error .duplicateOption
      else
        .ok { r with
          file := r.file.set name key value
          key := if key.isEmpty then none else some key
          seenOptions := (name, key) :: r.seenOptions
          bad := r.bad || key.isEmpty }

/-- Reads a line. Lines that begin with a number sign or semicolon are comments. -/
def line (r : Reading) (cs : List Char) : Except Trouble Reading :=
  let body := Text.trimChars cs
  match body with
  | [] => .ok (r.extend "")
  | '#' :: _ => .ok r
  | ';' :: _ => .ok r
  | _ =>
    let indent := (cs.takeWhile Text.isBlank).length
    if r.current.isSome && r.key.isSome && r.indent < indent then
      .ok (r.extend (String.ofList body))
    else { r with indent }.begin body

end Reading

/-- Removes the blanks at the ends of all values. -/
def trimValues (f : OptionFile) : OptionFile :=
  let trim := List.map fun (kv : String × String) => (kv.1, Text.trimRight kv.2)
  { defaults := trim f.defaults, sections := f.sections.map fun s => (s.1, trim s.2) }

/-- Reads a file of options. A line that is no option is only held against the file at its end. -/
def ofText (text : String) : Except Trouble OptionFile := do
  let lines := Text.splitChars (· == '\n') text.toList
  let r ← lines.foldlM (fun (r : Reading) cs => r.line cs) {}
  if r.bad then .error .parsing else .ok (trimValues r.file)

end OptionFile
end Config
end Wdl
