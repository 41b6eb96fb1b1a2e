import Wdl.Config
import Wdl.Document.Parse
import Wdl.Files

/-!
Documents as the configuration says.

The configuration names the version of the language and bounds the number of syntax errors.  A
document is parsed from a text or from a file.
-/

namespace Wdl

/-- Why nothing could be parsed. -/
inductive Refusal
  | config (t : Config.Trouble)
  /-- a version of the language that documents cannot be parsed in -/
  | unsupportedVersion (version : String)
  /-- a version of the language that has no grammar -/
  | noGrammar (version : String)
  | rejected (r : Rejection)

namespace Refusal

/-- The message for a version that documents cannot be parsed in. -/
def unsupported (version : String) : String :=
  "unsupported WDL version " ++ version ++ " in configuration option [parser] wdl_version"

end Refusal

namespace Config

/-- Parses a document into a forest. -/
def parseDocument (c : Config) (env : Environment) (f : Forest) (text uri abspath : String) :
    Except Refusal Builder := do
  let version ← (c.languageVersion env).mapError .config
  if version != Language.version then .error (.unsupportedVersion version)
  else
    let limit ← (c.maxSyntaxErrors env).mapError .config
    .ok (Builder.ofText f text uri abspath limit)

/-- Compiles an expression. If the version is left empty, it is the one that there is. -/
def compileExpr (c : Config) (env : Environment) (text : String) : Except Refusal Compiled := do
  let version ← (c.languageVersion env).mapError .config
  if version != Language.version && !version.isEmpty then .error (.noGrammar version)
  else (Compiled.ofText text).mapError .rejected

end Config

/-! ## Files -/

/-- Why there is no document. -/
inductive LoadTrouble
  | file (t : FileTrouble)
  | refused (r : Refusal)

namespace Config

/-- Parses the document in a file, under the given name. -/
def parseFile (c : Config) (env : Environment) (fs : Files) (path uri : String) :
    Except LoadTrouble Builder := do
  let text ← (fs.readText path).mapError .file
  (c.parseDocument env {} text uri (Path.absolute fs.cwd path)).mapError .refused

/-- Parses the document in a file, which has to be free of syntax errors. -/
def loadDocument (c : Config) (env : Environment) (fs : Files) (path : String) :
    Except LoadTrouble Builder := do
  let b ← c.parseFile env fs path path
  match b.syntaxErrors with
  | [] => .ok b
  | e :: _ => .error (.refused (.rejected (.syntaxError e)))

/-- Parses a document given by the name of a file or, if there is no such file, by its text. -/
def parseSource (c : Config) (env : Environment) (fs : Files) (source uri : String) :
    Except LoadTrouble Builder :=
  if !source.toList.contains '\n' && fs.isFile source then
    c.parseFile env fs source (if uri.isEmpty then source else uri)
  else (c.parseDocument env {} source uri "").mapError .refused

end Config
end Wdl
