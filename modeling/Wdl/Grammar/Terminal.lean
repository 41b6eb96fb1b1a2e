/-!
Terminals of the grammar.

A terminal is either a fixed text, such as a keyword or a bracket, or a class of texts. The order of
`Terminal.all` is the order in which a text is compared with them when a stray character has to be
named.
-/

namespace Wdl

inductive Terminal
  | int
  | signedInt
  | float
  | signedFloat
  | doubleQuotedText
  | newline
  | versionNumber
  | singleQuotedText
  | placeholderOpen
  | singleFragment
  | doubleFragment
  | braceFragment
  | heredocFragment
  | name
  | space
  | comment
  | versionKw
  | importKw
  | asKw
  | aliasKw
  | structKw
  | lbrace
  | rbrace
  | workflowKw
  | scatterKw
  | lpar
  | inKw
  | rpar
  | ifKw
  | callKw
  | dot
  | afterKw
  | comma
  | inputKw
  | colon
  | equal
  | taskKw
  | outputKw
  | commandKw
  | metaKw
  | parameterMetaKw
  | lsqb
  | rsqb
  | trueKw
  | falseKw
  | noneKw
  | runtimeKw
  | qmark
  | plus
  | plusQmark
  | orSign
  | andSign
  | eqSign
  | neqSign
  | lteSign
  | gteSign
  | lessThan
  | moreThan
  | minus
  | star
  | slash
  | percent
  | bang
  | thenKw
  | elseKw
  | singleQuote
  | doubleQuote
  | heredocOpen
  | heredocClose
  | tildeOpen
  deriving DecidableEq, Repr, Hashable

namespace Terminal

/-- Every terminal. -/
def all : List Terminal :=
  [.int, .signedInt, .float, .signedFloat, .doubleQuotedText, .newline, .versionNumber,
   .singleQuotedText, .placeholderOpen, .singleFragment, .doubleFragment, .braceFragment,
   .heredocFragment, .name, .space, .comment, .versionKw, .importKw, .asKw, .aliasKw, .structKw,
   .lbrace, .rbrace, .workflowKw, .scatterKw, .lpar, .inKw, .rpar, .ifKw, .callKw, .dot, .afterKw,
   .comma, .inputKw, .colon, .equal, .taskKw, .outputKw, .commandKw, .metaKw, .parameterMetaKw,
   .lsqb, .rsqb, .trueKw, .falseKw, .noneKw, .runtimeKw, .qmark, .plus, .plusQmark, .orSign,
   .andSign, .eqSign, .neqSign, .lteSign, .gteSign, .lessThan, .moreThan, .minus, .star, .slash,
   .percent, .bang, .thenKw, .elseKw, .singleQuote, .doubleQuote, .heredocOpen, .heredocClose,
   .tildeOpen]

/-- The terminals that occur in documents but not in an expression that stands alone. -/
def documentOnly : List Terminal :=
  [.versionNumber, .braceFragment, .heredocFragment, .versionKw, .importKw, .aliasKw, .structKw,
   .workflowKw, .taskKw, .outputKw, .commandKw, .metaKw, .parameterMetaKw, .runtimeKw,
   .heredocOpen, .heredocClose, .tildeOpen]

/-- The terminals of an expression that stands alone. -/
def ofExpressions : List Terminal :=
  all.filter fun t => !documentOnly.contains t

/-- The text of a terminal that has only one. -/
def literal? : Terminal → Option String
  | .versionKw => some "version"
  | .importKw => some "import"
  | .asKw => some "as"
  | .aliasKw => some "alias"
  | .structKw => some "struct"
  | .lbrace => some "\x7b"
  | .rbrace => some "\x7d"
  | .workflowKw => some "workflow"
  | .scatterKw => some "scatter"
  | .lpar => some "("
  | .inKw => some "in"
  | .rpar => some ")"
  | .ifKw => some "if"
  | .callKw => some "call"
  | .dot => some "."
  | .afterKw => some "after"
  | .comma => some ","
  | .inputKw => some "input"
  | .colon => some ":"
  | .equal => some "="
  | .taskKw => some "task"
  | .outputKw => some "output"
  | .commandKw => some "command"
  | .metaKw => some "meta"
  | .parameterMetaKw => some "parameter_meta"
  | .lsqb => some "["
  | .rsqb => some "]"
  | .trueKw => some "true"
  | .falseKw => some "false"
  | .noneKw => some "None"
  | .runtimeKw => some "runtime"
  | .qmark => some "?"
  | .plus => some "+"
  | .plusQmark => some "+?"
  | .orSign => some "||"
  | .andSign => some "&&"
  | .eqSign => some "=="
  | .neqSign => some "!="
  | .lteSign => some "<="
  | .gteSign => some ">="
  | .lessThan => some "<"
  | .moreThan => some ">"
  | .minus => some "-"
  | .star => some "*"
  | .slash => some "/"
  | .percent => some "%"
  | .bang => some "!"
  | .thenKw => some "then"
  | .elseKw => some "else"
  | .heredocOpen => some "<<<"
  | .heredocClose => some ">>>"
  | .tildeOpen => some "~\x7b"
  | _ => none

/-- How a terminal is named in a message: a class of texts by its name, a fixed text in quotes. -/
def label (t : Terminal) : String :=
  match t.literal? with
  | some text => "'" ++ text ++ "'"
  | none =>
    match t with
    | .int => "INT"
    | .signedInt => "SIGNED_INT"
    | .float => "FLOAT"
    | .signedFloat => "SIGNED_FLOAT"
    | .doubleQuotedText => "ESCAPED_STRING"
    | .newline => "NEWLINE"
    | .versionNumber => "VERSION_NUMBER"
    | .singleQuotedText => "ESCAPED_STRING1"
    | .placeholderOpen => "_EITHER_DELIM"
    | .singleFragment => "STRING1_FRAGMENT"
    | .doubleFragment => "STRING2_FRAGMENT"
    | .braceFragment => "COMMAND1_FRAGMENT"
    | .heredocFragment => "COMMAND2_FRAGMENT"
    | .name => "CNAME"
    | .space => "SPACE"
    | .comment => "COMMENT"
    | .singleQuote => "__ANON_7"
    | _ => "__ANON_8"

/-- The terminals that may stand between any two others and carry no meaning. -/
def isIgnored : Terminal → Bool
  | .space => true
  | .newline => true
  | .comment => true
  | _ => false

/-- The terminals that match a run of nearly arbitrary text: parts of strings and of commands, and
the number after `version`. -/
def isRun : Terminal → Bool
  | .singleFragment => true
  | .doubleFragment => true
  | .braceFragment => true
  | .heredocFragment => true
  | .versionNumber => true
  | _ => false

/-- Tokens of a fixed text carry no information; so do the openings of placeholders. -/
def isSilent (t : Terminal) : Bool :=
  t.literal?.isSome || t == .placeholderOpen

end Terminal
end Wdl
