import Wdl.Grammar.Terminal
import Wdl.Grammar.Production

/-!
Rules of the grammar.

A nonterminal has one or more right-hand sides. They are written here as a list of slots, each slot
offering a choice of symbol sequences, so that an optional part is one slot and the right-hand sides
are all the ways to fill the slots. A reduced rule becomes a node of the parse tree, or, if it has
no production, hands its parts to the rule above it.
-/

namespace Wdl

inductive Nonterminal
  | document
  | version
  | documentElement
  | importDoc
  | importAs
  | importAlias
  | struct
  | workflow
  | workflowElement
  | scatter
  | conditional
  | innerElement
  | call
  | callTarget
  | callAlias
  | callAfter
  | callBody
  | callInputs
  | inputColon
  | callInput
  | task
  | taskElement
  | inputBlock
  | outputBlock
  | command
  | metaSection
  | parameterMetaSection
  | metaObject
  | metaEntry
  | metaValue
  | metaObjectEntry
  | metaScalar
  | runtimeSection
  | runtimeEntry
  | unboundDecl
  | boundDecl
  | anyDecl
  | type
  | quantifier
  | optional
  | nonempty
  | optionalNonempty
  | expr
  | disjunction
  | conjunction
  | comparison
  | sum
  | product
  | factor
  | exprOperand
  | exprCore
  | mapKey
  | mapEntry
  | objectEntry
  | literal
  | string
  | stringLiteral
  | singleString
  | singlePart
  | singleExprPart
  | singlePlaceholder
  | doubleString
  | doublePart
  | doubleExprPart
  | doublePlaceholder
  | braceCommand
  | bracePlaceholder
  | heredocCommand
  | heredocPlaceholder
  | placeholderValue
  | placeholderName
  | placeholderOption
  | placeholder
  | documentElements
  | importAliases
  | structMembers
  | workflowElements
  | innerElements
  | callAfters
  | targetSegments
  | moreCallInputs
  | taskElements
  | inputDecls
  | outputDecls
  | moreMetaEntries
  | moreMetaObjectEntries
  | moreMetaValues
  | moreRuntimeEntries
  | moreExprs
  | moreMapEntries
  | moreObjectEntries
  | singlePlaceholders
  | doublePlaceholders
  | braceParts
  | heredocParts
  | placeholderOptions
  deriving DecidableEq, Repr, Hashable

/-- A symbol of a right-hand side. -/
inductive Symbol
  | terminal (t : Terminal)
  | nonterminal (n : Nonterminal)
  deriving DecidableEq, Repr, Hashable

/-- A rule `lhs → rhs`. With a production it makes a node, without one its parts take its place.
A `verbatim` rule keeps the tokens of fixed texts. -/
structure Rule where
  lhs : Nonterminal
  rhs : List Symbol
  production : Option Production := none
  verbatim : Bool := false
  deriving DecidableEq, Repr

namespace Grammar

/-- A place in a right-hand side with its choices. -/
abbrev Slot := List (List Symbol)

def tok (t : Terminal) : Slot := [[.terminal t]]

def sub (n : Nonterminal) : Slot := [[.nonterminal n]]

/-- A token that may be left out. -/
def maybeTok (t : Terminal) : Slot := [[], [.terminal t]]

/-- A part that may be left out. -/
def maybe (n : Nonterminal) : Slot := [[], [.nonterminal n]]

/-- A sequence that may be empty: a first part, and more of them. -/
def series (first more : Nonterminal) : Slot :=
  [[], [.nonterminal first], [.nonterminal first, .nonterminal more]]

/-- All the ways to fill the slots. -/
def fill : List Slot → List (List Symbol)
  | [] => [[]]
  | slot :: slots => slot.flatMap fun choice => (fill slots).map (choice ++ ·)

/-- The rules of a nonterminal that makes a node. -/
def node (lhs : Nonterminal) (p : Production) (slots : List Slot) : List Rule :=
  (fill slots).map fun rhs => ⟨lhs, rhs, some p, false⟩

/-- The rules of a nonterminal whose parts take its place. -/
def inner (lhs : Nonterminal) (slots : List Slot) : List Rule :=
  (fill slots).map fun rhs => ⟨lhs, rhs, none, false⟩

/-- A nonterminal that stands for any of several others. -/
def anyOf (lhs : Nonterminal) (options : List Nonterminal) : List Rule :=
  options.map fun n => ⟨lhs, [.nonterminal n], none, false⟩

/-- A nonterminal that repeats a sequence once or more. -/
def many (lhs : Nonterminal) (item : List Slot) : List Rule :=
  (fill item).map (⟨lhs, ·, none, false⟩) ++
  (fill item).map fun rhs => ⟨lhs, .nonterminal lhs :: rhs, none, false⟩

/-- A left-associative operator of one level, whose right operand is of the next. -/
def infixRule (level next : Nonterminal) (t : Terminal) (op : BinaryOp) : List Rule :=
  node level (.binary op) [sub level, tok t, sub next]

def documentRules : List Rule :=
  node .document .document [maybe .version, maybe .documentElements] ++
  node .version .version [tok .versionKw, tok .versionNumber] ++
  anyOf .documentElement [.importDoc, .task, .workflow, .struct] ++
  node .importDoc .importDoc
    [tok .importKw, sub .stringLiteral, maybe .importAs, maybe .importAliases] ++
  node .importAs .importAs [tok .asKw, tok .name] ++
  node .importAlias .importAlias [tok .aliasKw, tok .name, tok .asKw, tok .name] ++
  node .struct .struct
    [tok .structKw, tok .name, tok .lbrace, maybe .structMembers, tok .rbrace]

def workflowRules : List Rule :=
  node .workflow .workflow
    [tok .workflowKw, tok .name, tok .lbrace, maybe .workflowElements, tok .rbrace] ++
  anyOf .workflowElement
    [.inputBlock, .outputBlock, .metaSection, .parameterMetaSection, .anyDecl, .call, .scatter,
     .conditional] ++
  node .scatter .scatter
    [tok .scatterKw, tok .lpar, tok .name, tok .inKw, sub .expr, tok .rpar, tok .lbrace,
     maybe .innerElements, tok .rbrace] ++
  node .conditional .conditional
    [tok .ifKw, tok .lpar, sub .expr, tok .rpar, tok .lbrace, maybe .innerElements,
     tok .rbrace] ++
  anyOf .innerElement [.anyDecl, .call, .scatter, .conditional] ++
  node .call .call
    [tok .callKw, sub .callTarget, maybe .callAlias, maybe .callAfters, maybe .callBody] ++
  node .callTarget .callTarget [tok .name, maybe .targetSegments] ++
  node .callAlias .callAlias [tok .asKw, tok .name] ++
  node .callAfter .callAfter [tok .afterKw, tok .name] ++
  inner .callBody [tok .lbrace, maybe .callInputs, tok .rbrace] ++
  node .callInputs .callInputs
    [maybe .inputColon, series .callInput .moreCallInputs, maybeTok .comma] ++
  node .inputColon .inputColon [tok .inputKw, tok .colon] ++
  node .callInput .callInput [tok .name, tok .equal, sub .expr] ++
  node .callInput .callInput [tok .name]

def taskRules : List Rule :=
  node .task .task
    [tok .taskKw, tok .name, tok .lbrace, maybe .taskElements, sub .command,
     maybe .taskElements, tok .rbrace] ++
  anyOf .taskElement
    [.inputBlock, .outputBlock, .metaSection, .parameterMetaSection, .runtimeSection,
     .anyDecl] ++
  node .inputBlock .inputBlock [tok .inputKw, tok .lbrace, maybe .inputDecls, tok .rbrace] ++
  node .outputBlock .outputBlock [tok .outputKw, tok .lbrace, maybe .outputDecls, tok .rbrace] ++
  node .command .command [tok .commandKw, sub .braceCommand] ++
  node .command .command [tok .commandKw, sub .heredocCommand] ++
  node .metaSection .metaSection [tok .metaKw, sub .metaObject] ++
  node .parameterMetaSection .parameterMetaSection [tok .parameterMetaKw, sub .metaObject] ++
  node .metaObject .metaObject
    [tok .lbrace, series .metaEntry .moreMetaEntries, maybeTok .comma, tok .rbrace] ++
  node .metaEntry .metaEntry [tok .name, tok .colon, sub .metaValue] ++
  anyOf .metaValue [.metaScalar, .stringLiteral] ++
  node .metaValue .metaNestedObject
    [tok .lbrace, series .metaObjectEntry .moreMetaObjectEntries, maybeTok .comma, tok .rbrace] ++
  node .metaValue .metaArray
    [tok .lsqb, series .metaValue .moreMetaValues, maybeTok .comma, tok .rsqb] ++
  node .metaObjectEntry .metaObjectEntry [tok .name, tok .colon, sub .metaValue] ++
  [Terminal.trueKw, .falseKw, .noneKw, .int, .signedInt, .float, .signedFloat].map
    (fun t => ⟨.metaScalar, [.terminal t], some .metaScalar, true⟩) ++
  node .runtimeSection .runtimeSection
    [tok .runtimeKw, tok .lbrace, series .runtimeEntry .moreRuntimeEntries, tok .rbrace] ++
  node .runtimeEntry .runtimeEntry [tok .name, tok .colon, sub .expr]

def declRules : List Rule :=
  node .unboundDecl .decl [sub .type, tok .name] ++
  node .boundDecl .decl [sub .type, tok .name, tok .equal, sub .expr] ++
  anyOf .anyDecl [.unboundDecl, .boundDecl] ++
  node .type .type [tok .name, maybe .quantifier] ++
  node .type .type
    [tok .name, tok .lsqb, sub .type, [[], [.terminal .comma, .nonterminal .type]], tok .rsqb,
     maybe .quantifier] ++
  anyOf .quantifier [.optional, .nonempty, .optionalNonempty] ++
  node .optional .optional [tok .qmark] ++
  node .nonempty .nonempty [tok .plus] ++
  node .optionalNonempty .optionalNonempty [tok .plusQmark]

def exprRules : List Rule :=
  node .expr .expr [sub .disjunction] ++
  infixRule .disjunction .conjunction .orSign .or ++
  anyOf .disjunction [.conjunction] ++
  infixRule .conjunction .comparison .andSign .and ++
  anyOf .conjunction [.comparison] ++
  infixRule .comparison .sum .eqSign .eq ++
  infixRule .comparison .sum .neqSign .neq ++
  infixRule .comparison .sum .lteSign .lte ++
  infixRule .comparison .sum .gteSign .gte ++
  infixRule .comparison .sum .lessThan .lt ++
  infixRule .comparison .sum .moreThan .gt ++
  anyOf .comparison [.sum] ++
  infixRule .sum .product .plus .add ++
  infixRule .sum .product .minus .sub ++
  anyOf .sum [.product] ++
  infixRule .product .factor .star .mul ++
  infixRule .product .factor .slash .div ++
  infixRule .product .factor .percent .mod ++
  anyOf .product [.factor] ++
  anyOf .factor [.exprCore] ++
  node .exprOperand .exprOperand [sub .exprCore] ++
  node .exprCore .group [tok .lpar, sub .expr, tok .rpar] ++
  anyOf .exprCore [.literal, .string] ++
  node .exprCore .negate [tok .bang, sub .exprOperand] ++
  node .exprCore .unaryMinus [tok .minus, sub .exprOperand] ++
  node .exprCore .unaryPlus [tok .plus, sub .exprOperand] ++
  node .exprCore .array [tok .lsqb, series .expr .moreExprs, maybeTok .comma, tok .rsqb] ++
  node .exprCore .index [sub .exprCore, tok .lsqb, sub .expr, tok .rsqb] ++
  node .exprCore .pair [tok .lpar, sub .expr, tok .comma, sub .expr, tok .rpar] ++
  node .exprCore .map
    [tok .lbrace, series .mapEntry .moreMapEntries, maybeTok .comma, tok .rbrace] ++
  node .exprCore .ifThenElse
    [tok .ifKw, sub .expr, tok .thenKw, sub .expr, tok .elseKw, sub .expr] ++
  node .exprCore .apply [tok .name, tok .lpar, series .expr .moreExprs, tok .rpar] ++
  node .exprCore .object
    [tok .name, tok .lbrace, sub .objectEntry, maybe .moreObjectEntries, maybeTok .comma,
     tok .rbrace] ++
  node .exprCore .object [tok .name, tok .lbrace, tok .rbrace] ++
  node .exprCore .leftName [tok .name] ++
  node .exprCore .member [sub .exprCore, tok .dot, tok .name] ++
  anyOf .mapKey [.exprCore] ++
  node .mapEntry .mapEntry [sub .mapKey, tok .colon, sub .expr] ++
  node .objectEntry .objectEntry [tok .name, tok .colon, sub .expr] ++
  node .objectEntry .objectEntry [sub .stringLiteral, tok .colon, sub .expr]

def literalRules : List Rule :=
  node .literal .booleanTrue [tok .trueKw] ++
  node .literal .booleanFalse [tok .falseKw] ++
  node .literal .null [tok .noneKw] ++
  node .literal .int [tok .int] ++
  node .literal .float [tok .float] ++
  anyOf .string [.singleString, .doubleString] ++
  node .stringLiteral .stringLiteral [tok .doubleQuotedText] ++
  node .stringLiteral .stringLiteral [tok .singleQuotedText] ++
  node .singleString .string
    [tok .singleQuote, sub .singlePart, maybe .singlePlaceholders, tok .singleQuote] ++
  node .singlePart .stringPart [maybeTok .singleFragment] ++
  node .singleExprPart .stringExprPart [tok .placeholderOpen, sub .placeholder, tok .rbrace] ++
  node .singlePlaceholder .stringExprWithPart [sub .singleExprPart, sub .singlePart] ++
  node .doubleString .string
    [tok .doubleQuote, sub .doublePart, maybe .doublePlaceholders, tok .doubleQuote] ++
  node .doublePart .stringPart [maybeTok .doubleFragment] ++
  node .doubleExprPart .stringExprPart [tok .placeholderOpen, sub .placeholder, tok .rbrace] ++
  node .doublePlaceholder .stringExprWithPart [sub .doubleExprPart, sub .doublePart]

def commandRules : List Rule :=
  inner .braceCommand [tok .lbrace, maybe .braceParts, maybeTok .braceFragment, tok .rbrace] ++
  node .bracePlaceholder .commandPlaceholder
    [tok .placeholderOpen, sub .placeholder, tok .rbrace] ++
  inner .heredocCommand
    [tok .heredocOpen, maybe .heredocParts, maybeTok .heredocFragment, tok .heredocClose] ++
  node .heredocPlaceholder .commandPlaceholder [tok .tildeOpen, sub .placeholder, tok .rbrace] ++
  node .placeholderValue .placeholderValue [sub .stringLiteral] ++
  node .placeholderValue .placeholderValue [tok .int] ++
  node .placeholderValue .placeholderValue [tok .float] ++
  [Terminal.name, .trueKw, .falseKw].map
    (fun t => ⟨.placeholderName, [.terminal t], none, true⟩) ++
  node .placeholderOption .placeholderOption
    [sub .placeholderName, tok .equal, sub .placeholderValue] ++
  node .placeholder .placeholder [maybe .placeholderOptions, sub .expr]

def repetitionRules : List Rule :=
  many .documentElements [sub .documentElement] ++
  many .importAliases [sub .importAlias] ++
  many .structMembers [sub .unboundDecl] ++
  many .workflowElements [sub .workflowElement] ++
  many .innerElements [sub .innerElement] ++
  many .callAfters [sub .callAfter] ++
  many .targetSegments [tok .dot, tok .name] ++
  many .moreCallInputs [tok .comma, sub .callInput] ++
  many .taskElements [sub .taskElement] ++
  many .inputDecls [sub .anyDecl] ++
  many .outputDecls [sub .boundDecl] ++
  many .moreMetaEntries [maybeTok .comma, sub .metaEntry] ++
  many .moreMetaObjectEntries [tok .comma, sub .metaObjectEntry] ++
  many .moreMetaValues [tok .comma, sub .metaValue] ++
  many .moreRuntimeEntries [maybeTok .comma, sub .runtimeEntry] ++
  many .moreExprs [tok .comma, sub .expr] ++
  many .moreMapEntries [tok .comma, sub .mapEntry] ++
  many .moreObjectEntries [tok .comma, sub .objectEntry] ++
  many .singlePlaceholders [sub .singlePlaceholder] ++
  many .doublePlaceholders [sub .doublePlaceholder] ++
  many .braceParts [maybeTok .braceFragment, sub .bracePlaceholder] ++
  many .heredocParts [maybeTok .heredocFragment, sub .heredocPlaceholder] ++
  many .placeholderOptions [sub .placeholderOption]

/-- Every rule of the grammar. -/
def rules : List Rule :=
  documentRules ++ workflowRules ++ taskRules ++ declRules ++ exprRules ++ literalRules ++
  commandRules ++ repetitionRules

end Grammar
end Wdl
