import Wdl.Parse.Recovery

/-!
The language: its version, its keywords, and the parsers of documents and expressions.
-/

namespace Wdl
namespace Language

/-- The version of the language that can be parsed. -/
def version : String := "1.1"

/-- The words that cannot be names. -/
def keywords : List String :=
  ["Array", "File", "Float", "Int", "Map", "None", "Pair", "String", "Object", "Boolean", "alias",
   "as", "call", "command", "else", "false", "if", "import", "in", "input", "left", "meta",
   "object", "output", "parameter_meta", "right", "runtime", "scatter", "struct", "task", "then",
   "true", "workflow", "version"]

/-- The parser of documents. -/
def documents : Parse.Machine :=
  .ofGrammar .document Grammar.rules Terminal.all

/-- The parser of expressions that stand alone. -/
def expressions : Parse.Machine :=
  .ofGrammar .expr Grammar.rules Terminal.ofExpressions

end Language
end Wdl
