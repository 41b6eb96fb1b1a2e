import Wdl.Expr.Operator

/-!
Productions of the grammar, as they name the nodes of a parse tree.
-/

namespace Wdl

inductive Production
  | document
  | version
  | importDoc
  | importAs
  | importAlias
  | struct
  | workflow
  | scatter
  | conditional
  | call
  | callTarget
  | callAlias
  | callAfter
  | callInputs
  | inputColon
  | callInput
  | task
  | inputBlock
  | outputBlock
  | command
  | metaSection
  | parameterMetaSection
  | metaObject
  | metaEntry
  | metaNestedObject
  | metaArray
  | metaObjectEntry
  | metaScalar
  | runtimeSection
  | runtimeEntry
  | decl
  | type
  | optional
  | nonempty
  | optionalNonempty
  | expr
  | binary (op : BinaryOp)
  | exprOperand
  | group
  | negate
  | unaryMinus
  | unaryPlus
  | array
  | index
  | pair
  | map
  | ifThenElse
  | apply
  | object
  | leftName
  | member
  | mapEntry
  | objectEntry
  | booleanTrue
  | booleanFalse
  | null
  | int
  | float
  | stringLiteral
  | string
  | stringPart
  | stringExprPart
  | stringExprWithPart
  | commandPlaceholder
  | placeholderValue
  | placeholderOption
  | placeholder
  deriving DecidableEq, Repr

namespace Production

def all : List Production :=
  [.document, .version, .importDoc, .importAs, .importAlias, .struct, .workflow, .scatter,
   .conditional, .call, .callTarget, .callAlias, .callAfter, .callInputs, .inputColon, .callInput,
   .task, .inputBlock, .outputBlock, .command, .metaSection, .parameterMetaSection, .metaObject,
   .metaEntry, .metaNestedObject, .metaArray, .metaObjectEntry, .metaScalar, .runtimeSection,
   .runtimeEntry, .decl, .type, .optional, .nonempty, .optionalNonempty, .expr, .exprOperand,
   .group, .negate, .unaryMinus, .unaryPlus, .array, .index, .pair, .map, .ifThenElse, .apply,
   .object, .leftName, .member, .mapEntry, .objectEntry, .booleanTrue, .booleanFalse, .null, .int,
   .float, .stringLiteral, .string, .stringPart, .stringExprPart, .stringExprWithPart,
   .commandPlaceholder, .placeholderValue, .placeholderOption, .placeholder] ++
  BinaryOp.all.map .binary

/-- The name of a production in the grammar. -/
def label : Production → String
  | .document => "document"
  | .version => "version"
  | .importDoc => "import_doc"
  | .importAs => "import_as"
  | .importAlias => "import_alias"
  | .struct => "struct"
  | .workflow => "workflow"
  | .scatter => "scatter"
  | .conditional => "conditional"
  | .call => "call"
  | .callTarget => "call_target"
  | .callAlias => "call_alias"
  | .callAfter => "call_after"
  | .callInputs => "call_inputs"
  | .inputColon => "input_colon"
  | .callInput => "call_input"
  | .task => "task"
  | .inputBlock => "input_block"
  | .outputBlock => "output_block"
  | .command => "command"
  | .metaSection => "meta_section"
  | .parameterMetaSection => "parameter_meta_section"
  | .metaObject => "meta_object"
  | .metaEntry => "meta_kv"
  | .metaNestedObject => "meta_nested_object"
  | .metaArray => "meta_array"
  | .metaObjectEntry => "meta_object_kv"
  | .metaScalar => "meta_scalar"
  | .runtimeSection => "runtime_section"
  | .runtimeEntry => "runtime_kv"
  | .decl => "decl"
  | .type => "type"
  | .optional => "optional"
  | .nonempty => "nonempty"
  | .optionalNonempty => "optional_nonempty"
  | .expr => "expr"
  | .binary .or => "lor"
  | .binary .and => "land"
  | .binary .eq => "eqeq"
  | .binary .mod => "rem"
  | .binary op => op.name
  | .exprOperand => "expr_operand"
  | .group => "expression_group"
  | .negate => "negate"
  | .unaryMinus => "unary_minus"
  | .unaryPlus => "unary_plus"
  | .array => "array"
  | .index => "at"
  | .pair => "pair"
  | .map => "map"
  | .ifThenElse => "ifthenelse"
  | .apply => "apply"
  | .object => "obj"
  | .leftName => "left_name"
  | .member => "get_name"
  | .mapEntry => "map_kv"
  | .objectEntry => "object_kv"
  | .booleanTrue => "boolean_true"
  | .booleanFalse => "boolean_false"
  | .null => "null"
  | .int => "int"
  | .float => "float"
  | .stringLiteral => "string_literal"
  | .string => "string"
  | .stringPart => "string_part"
  | .stringExprPart => "string_expr_part"
  | .stringExprWithPart => "string_expr_with_string_part"
  | .commandPlaceholder => "command_placeholder"
  | .placeholderValue => "placeholder_value"
  | .placeholderOption => "placeholder_option"
  | .placeholder => "placeholder"

/-- The production with a given name. -/
def ofLabel? (s : String) : Option Production :=
  all.find? fun p => p.label == s

end Production
end Wdl
