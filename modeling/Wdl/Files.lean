import Wdl.Text.Blank

/-!
Files by name.

`Files` says what every name stands for in the file system, and which directory names are relative
to. Files hold bytes; `Files.readText` reads them as UTF-8, with every kind of line end as a line
feed.
-/

namespace Wdl

/-- What a name stands for. -/
inductive Entry
  | missing
  | directory
  /-- a name that goes on after the name of a file -/
  | beyondFile
  | file (content : ByteArray)

structure Files where
  /-- the working directory, as an absolute name -/
  cwd : String
  entry : String → Entry

/-- Why a file cannot be read. -/
inductive FileTrouble
  | missing
  | directory
  | beyondFile
  /-- bytes that are not UTF-8 -/
  | undecodable
  deriving DecidableEq, Repr

namespace FileTrouble

def message : FileTrouble → String
  | .missing => "No such file or directory"
  | .directory => "Is a directory"
  | .beyondFile => "Not a directory"
  | .undecodable => "invalid UTF-8"

/-- The number that the system gives to the trouble, if it is the system that finds it. -/
def number? : FileTrouble → Option Nat
  | .missing => some 2
  | .directory => some 21
  | .beyondFile => some 20
  | .undecodable => none

end FileTrouble

namespace Path

/-- The steps of a name, with empty ones where slashes meet. -/
def steps (name : String) : List String :=
  Text.splitOn '/' name

def isAbsolute (name : String) : Bool :=
  name.toList.head? == some '/'

/-- The last step of a name. -/
def baseName (name : String) : String :=
  ((steps name).getLast?).getD ""

/-- The steps that are left when each `..` takes back the step before it. -/
def normalSteps (ss : List String) : List String :=
  (ss.foldl
    (fun acc s => if s == "" || s == "." then acc else if s == ".." then acc.drop 1 else s :: acc)
    []).reverse

/-- The slashes at the front of an absolute name: exactly two are kept apart from one. -/
def root (name : String) : String :=
  if (name.toList.takeWhile (· == '/')).length == 2 then "//" else "/"

/-- A name as an absolute name in normal form. -/
def absolute (cwd name : String) : String :=
  let full := if isAbsolute name then name else cwd ++ "/" ++ name
  root full ++ "/".intercalate (normalSteps (steps full))

end Path

namespace Files

def isFile (fs : Files) (name : String) : Bool :=
  match fs.entry name with
  | .file _ => true
  | _ => false

/-- Replaces the line ends `\r\n` and `\r` by line feeds. -/
def unifyLineEnds : List Char → List Char
  | [] => []
  | '\r' :: '\n' :: cs => '\n' :: unifyLineEnds cs
  | '\r' :: cs => '\n' :: unifyLineEnds cs
  | c :: cs => c :: unifyLineEnds cs

/-- The text of a file. -/
def readText (fs : Files) (name : String) : Except FileTrouble String :=
  match fs.entry name with
  | .missing => .error .missing
  | .directory => .error .directory
  | .beyondFile => .error .beyondFile
  | .file content =>
    match String.fromUTF8? content with
    | some s => .ok (String.ofList (unifyLineEnds s.toList))
    | none => .error .undecodable

/-- Files that are given by their contents. -/
structure Contents where
  /-- the steps of the working directory, which exists even if it is empty -/
  home : List String
  /-- the files, each under the steps of its absolute name -/
  files : List (List String × ByteArray)

namespace Contents

/-- What the steps of an absolute name in normal form stand for. -/
def lookup (c : Contents) (path : List String) : Entry :=
  match c.files.lookup path with
  | some content => .file content
  | none =>
    if path.isPrefixOf c.home || c.files.any fun f => path.isPrefixOf f.1 then .directory
    else .missing

/-- Follows steps from a directory. -/
def follow (c : Contents) : List String → List String → Entry
  | path, [] => c.lookup path
  | path, s :: rest =>
    match c.lookup path with
    | .directory =>
      if s == "" || s == "." then c.follow path rest
      else if s == ".." then c.follow path.dropLast rest
      else c.follow (path ++ [s]) rest
    | .file _ => .beyondFile
    | e => e

end Contents

/-- The files of a working directory, by their names relative to it. -/
def ofContents (cwd : String) (files : List (String × ByteArray)) : Files :=
  let home := Path.normalSteps (Path.steps cwd)
  let contents : Contents :=
    ⟨home, files.map fun f => (home ++ Path.normalSteps (Path.steps f.1), f.2)⟩
  { cwd
    entry := fun name =>
      if name.isEmpty then .missing
      else contents.follow (if Path.isAbsolute name then [] else home) (Path.steps name) }

end Files
end Wdl
