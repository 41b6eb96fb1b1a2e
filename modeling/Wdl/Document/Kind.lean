/-!
Kinds of nodes in a document.
-/

namespace Wdl

/-- The blocks of a task or workflow. -/
inductive BlockKind
  | input
  | output
  | metadata
  | parameterMetadata
  | runtime
  | command
  deriving DecidableEq, Repr

inductive Kind
  | document
  | importDoc
  | workflow
  | task
  | call
  | scatter
  | conditional
  | block (b : BlockKind)
  /-- a declaration, or the definition of a struct -/
  | declaration
  /-- a key with a value -/
  | entry
  | expression
  deriving DecidableEq, Repr

namespace BlockKind

/-- The blocks in the order in which their owner lists them. -/
def all : List BlockKind :=
  [.input, .output, .metadata, .parameterMetadata, .runtime, .command]

/-- A block as messages about its contents name it. -/
def name : BlockKind → String
  | .input => "input"
  | .output => "output"
  | .metadata => "meta"
  | .parameterMetadata => "parameter-meta"
  | .runtime => "runtime"
  | .command => "command"

def label : BlockKind → String
  | .command => "command"
  | b => b.name ++ "-block"

end BlockKind

namespace Kind

/-- A kind as messages name it. -/
def label : Kind → String
  | .document => "document"
  | .importDoc => "import"
  | .workflow => "workflow"
  | .task => "task"
  | .call => "call"
  | .scatter => "scatter"
  | .conditional => "conditional"
  | .block b => b.label
  | .declaration => "declaration"
  | .entry => "key-value"
  | .expression => "expression"

end Kind
end Wdl
