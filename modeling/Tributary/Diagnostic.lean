import Tributary.Builtin.Signature
import Tributary.Exposure
import Tributary.Operator

/-!
# Diagnostics

What can be wrong with a model, and where. A problem is a cause; its kind and its wording follow from
it.

* `Problem` : a cause; `Problem.kind` and `Problem.message` say how it is reported;
* `Diagnostic` : a problem at a place; `Diagnostic.display` is its text.
-/

namespace Tributary

/-- A place in the text that a document was made from. -/
structure Span where
  line : Nat
  col : Nat
deriving DecidableEq, Repr, Inhabited

namespace Span

def display (s : Span) : String := toString s.line ++ ":" ++ toString s.col

def toJson (s : Span) : Json := .object [("line", .int s.line), ("col", .int s.col)]

end Span

inductive ProblemKind where
  | duplicateDefinition
  | unknownType
  | expressionTooDeep
  | unresolvedReference
  | ambiguousReference
  | forwardReference
  | cyclicDependency
  | mutationWithoutSource
  | illegalMutationOnComposite
  | singletonIdentity
  | invalidAggregateJoin
  | invalidFilterField
  | readOnlyViolation
  | orphanEntity
  | typeConflict
  | invalidIdentityField
  | builtinArgument
  | typeMismatch
  | misplacedLambda
deriving DecidableEq, Repr

def ProblemKind.name : ProblemKind → String
  | duplicateDefinition => "DuplicateDefinitionError"
  | unknownType => "UnknownTypeError"
  | expressionTooDeep => "ExpressionTooDeepError"
  | unresolvedReference => "UnresolvedReferenceError"
  | ambiguousReference => "AmbiguousReferenceError"
  | forwardReference => "ForwardReferenceError"
  | cyclicDependency => "CyclicDependencyError"
  | mutationWithoutSource => "MutationWithoutSourceError"
  | illegalMutationOnComposite => "IllegalMutationOnCompositeError"
  | singletonIdentity => "SingletonIdentityError"
  | invalidAggregateJoin => "InvalidAggregateJoinError"
  | invalidFilterField => "InvalidFilterFieldError"
  | readOnlyViolation => "ReadOnlyViolationError"
  | orphanEntity => "OrphanEntityError"
  | typeConflict => "TypeConflictError"
  | invalidIdentityField => "InvalidIdentityFieldError"
  | builtinArgument => "BuiltinArgumentError"
  | typeMismatch => "TypeMismatchError"
  | misplacedLambda => "MisplacedLambdaError"

/-- What is wrong with a model. Entities, attributes and the like are given by name. -/
inductive Problem where
  -- Declarations.
  | duplicateSource (source : String)
  | duplicateParam (param owner : String)
  | duplicateEntity (entity : String)
  | duplicateParent (parent : String)
  | duplicateAttribute (attr : String)
  | duplicateEndpoint (endpoint : String)
  | paramType (param owner : String) (cause : Ty.UnknownName)
  | attributeType (cause : Ty.UnknownName)
  | tooDeep (limit : Nat)
  | unknownSource (source : String)
  | unknownParent (parent : String)
  | unknownEndpointEntity (endpoint entity : String)
  -- References.
  | unknownName (name : String)
  | unknownFunction (function : String)
  | unknownParentField (parent field : String)
  | ambiguousName (name : String) (parents : List String)
  | selfReference (name : String)
  | laterReference (name attr : String)
  -- Joins.
  | joinKey (key entity : String)
  | joinWithoutKey (parent entity : String)
  | joinNotListed (entity parent : String)
  | joinNotFiltered (entity parent key : String)
  -- Structure.
  | mutationWithoutSource (entity : String) (operations : List Operation)
  | mutationOnComposite (entity : String) (operations : List Operation)
  | singletonList (entity : String)
  | singletonEndpoint (endpoint entity : String) (identifiers : List String)
  | filterOnComposite (entity : String)
  | filterField (field entity : String)
  | readonlyField (field entity : String)
  | unknownInput (operation : Operation) (field entity : String)
  | computedInput (operation : Operation) (field : String)
  | readonlyInput (operation : Operation) (field : String)
  | typeConflict (attr : String) (first : Ty) (firstParent : String) (second : Ty)
      (secondParent : String)
  | unknownIdentity (field entity : String)
  | computedIdentity (field : String)
  | dependencyCycle (entities : List String)
  | unorderable (entities : List String)
  | orphan (entity : String)
  -- Expressions.
  | lambdaOutsideCall
  | lambdaArgument (position : Nat) (builtin : Builtin)
  | argumentCount (builtin : Builtin) (found : Nat)
  | argumentType (position : Nat) (builtin : Builtin) (template : Template) (found : Ty)
  | missingLambda (position : Nat) (builtin : Builtin)
  | lambdaArity (builtin : Builtin) (found expected : Nat)
  | fieldOf (field : String) (found : Ty)
  | unaryOperand (op : UnaryOp) (found : Ty)
  | arithmeticOperands (op : BinaryOp) (left right : Ty)
  | orderingOperands (op : BinaryOp) (left right : Ty)
  | logicalOperand (op : BinaryOp) (found : Ty)
  | conditionType (found : Ty)
  | declaredType (declared found : Ty)
deriving DecidableEq, Repr

namespace Problem

def kind : Problem → ProblemKind
  | duplicateSource _ | duplicateParam .. | duplicateEntity _ | duplicateParent _
  | duplicateAttribute _ | duplicateEndpoint _ => .duplicateDefinition
  | paramType .. | attributeType _ => .unknownType
  | tooDeep _ => .expressionTooDeep
  | unknownSource _ | unknownParent _ | unknownEndpointEntity .. | unknownName _ | unknownFunction _
  | unknownParentField .. | unknownInput .. => .unresolvedReference
  | ambiguousName .. => .ambiguousReference
  | selfReference _ | laterReference .. => .forwardReference
  | joinKey .. | joinWithoutKey .. | joinNotListed .. | joinNotFiltered .. => .invalidAggregateJoin
  | mutationWithoutSource .. => .mutationWithoutSource
  | mutationOnComposite .. => .illegalMutationOnComposite
  | singletonList _ | singletonEndpoint .. => .singletonIdentity
  | filterOnComposite _ | filterField .. => .invalidFilterField
  | readonlyField .. | computedInput .. | readonlyInput .. => .readOnlyViolation
  | typeConflict .. => .typeConflict
  | unknownIdentity .. | computedIdentity _ => .invalidIdentityField
  | dependencyCycle _ | unorderable _ => .cyclicDependency
  | orphan _ => .orphanEntity
  | lambdaOutsideCall | lambdaArgument .. => .misplacedLambda
  | argumentCount .. | argumentType .. | missingLambda .. | lambdaArity .. => .builtinArgument
  | fieldOf .. | unaryOperand .. | arithmeticOperands .. | orderingOperands .. | logicalOperand ..
  | conditionType _ | declaredType .. => .typeMismatch

def quoted (name : String) : String := "`" ++ name ++ "`"

def operationList (ops : List Operation) : String := String.intercalate ", " (ops.map Operation.name)

/-- What helps someone who adds texts. -/
def concatHint (op : BinaryOp) (left right : Ty) : String :=
  if op = .add ∧ (left = .string ∨ right = .string) then "; use concat to join strings" else ""

/-- The names of a cycle, the first again at the end. -/
def cyclePath (entities : List String) : String :=
  String.intercalate " -> " (entities ++ entities.take 1)

def message : Problem → String
  | duplicateSource s => "source " ++ quoted s ++ " is defined more than once"
  | duplicateParam p owner =>
    "parameter " ++ quoted p ++ " of " ++ quoted owner ++ " is defined more than once"
  | duplicateEntity e => "entity " ++ quoted e ++ " is defined more than once"
  | duplicateParent p => "parent " ++ quoted p ++ " is declared more than once"
  | duplicateAttribute a => "attribute " ++ quoted a ++ " is defined more than once"
  | duplicateEndpoint e => "endpoint " ++ quoted e ++ " is defined more than once"
  | paramType p owner cause => "parameter " ++ quoted p ++ " of " ++ quoted owner ++ ": " ++ cause.message
  | attributeType cause => cause.message
  | tooDeep limit => "expression nesting exceeds the limit of " ++ toString limit
  | unknownSource s => "unknown source " ++ quoted s
  | unknownParent p => "unknown parent entity " ++ quoted p
  | unknownEndpointEntity endpoint e =>
    "endpoint " ++ quoted endpoint ++ " exposes unknown entity " ++ quoted e
  | unknownName name => "unknown name " ++ quoted name
  | unknownFunction f => "unknown function " ++ quoted f
  | unknownParentField parent field => quoted parent ++ " has no attribute " ++ quoted field
  | ambiguousName name parents =>
    quoted name ++ " could be any of "
      ++ String.intercalate ", " (parents.map fun p => p ++ "." ++ name)
  | selfReference name => quoted name ++ " refers to the attribute being defined"
  | laterReference name attr => quoted name ++ " is declared after " ++ quoted attr
  | joinKey key e => "join key " ++ quoted key ++ " is not a schema attribute of " ++ quoted e
  | joinWithoutKey parent e =>
    "join with " ++ quoted parent ++ " has no local key and " ++ quoted e ++ " has no identity field"
  | joinNotListed e parent =>
    quoted e ++ " aggregates " ++ quoted parent ++ ", which does not expose list"
  | joinNotFiltered e parent key =>
    quoted e ++ " aggregates " ++ quoted parent ++ " by " ++ quoted key
      ++ ", which is not one of its filters"
  | mutationWithoutSource e ops =>
    quoted e ++ " exposes " ++ operationList ops ++ " but has no source to write to"
  | mutationOnComposite e ops =>
    "composite entity " ++ quoted e ++ " may only expose list, read and subscribe; found "
      ++ operationList ops
  | singletonList e => "singleton " ++ quoted e ++ " cannot expose list"
  | singletonEndpoint endpoint e identifiers =>
    "endpoint " ++ quoted endpoint ++ " addresses singleton " ++ quoted e ++ " by "
      ++ String.intercalate ", " (identifiers.map fun i => "\x7b" ++ i ++ "\x7d")
  | filterOnComposite e => "filters are only allowed on base entities; " ++ quoted e ++ " has parents"
  | filterField field e => "filter " ++ quoted field ++ " is not a schema attribute of " ++ quoted e
  | readonlyField field e => "readonly field " ++ quoted field ++ " is not an attribute of " ++ quoted e
  | unknownInput op field e =>
    op.name ++ " field " ++ quoted field ++ " is not an attribute of " ++ quoted e
  | computedInput op field =>
    "computed field " ++ quoted field ++ " cannot be part of the " ++ op.name ++ " input"
  | readonlyInput op field =>
    "readonly field " ++ quoted field ++ " cannot be part of the " ++ op.name ++ " input"
  | typeConflict attr first firstParent second secondParent =>
    quoted attr ++ " is " ++ first.display ++ " in " ++ quoted firstParent ++ " but " ++ second.display
      ++ " in " ++ quoted secondParent
  | unknownIdentity field e => "identity field " ++ quoted field ++ " is not an attribute of " ++ quoted e
  | computedIdentity field => "identity field " ++ quoted field ++ " must be a schema attribute"
  | dependencyCycle entities => "dependency cycle: " ++ cyclePath entities
  | unorderable entities => "cannot order " ++ String.intercalate ", " entities
  | orphan e => quoted e ++ " has no source and no path to a source-bound entity"
  | lambdaOutsideCall => "a lambda may only be passed to map, filter, fold or sort_by"
  | lambdaArgument i b => "argument " ++ toString i ++ " of " ++ quoted b.name ++ " is not a lambda position"
  | argumentCount b found =>
    quoted b.name ++ " expects " ++ toString b.arity ++ (if b.arity = 1 then " argument" else " arguments")
      ++ ", got " ++ toString found
  | argumentType i b template found =>
    "argument " ++ toString i ++ " of " ++ quoted b.name ++ " expects " ++ template.display ++ ", got "
      ++ found.display
  | missingLambda i b => "argument " ++ toString i ++ " of " ++ quoted b.name ++ " must be a lambda"
  | lambdaArity b found expected =>
    "the lambda passed to " ++ quoted b.name ++ " takes " ++ toString found ++ " parameter(s), expected "
      ++ toString expected
  | fieldOf field found => "cannot read field " ++ quoted field ++ " of " ++ found.display
  | unaryOperand op found => quoted op.symbol ++ " applied to " ++ found.display
  | arithmeticOperands op left right =>
    quoted op.symbol ++ " applied to " ++ left.display ++ " and " ++ right.display
      ++ concatHint op left right
  | orderingOperands op left right =>
    quoted op.symbol ++ " cannot order " ++ left.display ++ " and " ++ right.display
  | logicalOperand op found => quoted op.symbol ++ " applied to " ++ found.display
  | conditionType found => "condition is " ++ found.display ++ ", not boolean"
  | declaredType declared found =>
    "declared as " ++ declared.display ++ " but the expression produces " ++ found.display

def cycle : Problem → List String
  | dependencyCycle entities | unorderable entities => entities
  | _ => []

end Problem

structure Diagnostic where
  problem : Problem
  entity : Option String := none
  attr : Option String := none
  span : Option Span := none
deriving DecidableEq, Repr

namespace Diagnostic

def placeText (d : Diagnostic) : String :=
  match d.entity, d.attr with
  | some e, some a => " in " ++ Problem.quoted (e ++ "." ++ a)
  | some e, none => " in " ++ Problem.quoted e
  | none, _ => ""

def display (d : Diagnostic) : String :=
  d.problem.kind.name ++ d.placeText ++ (d.span.map fun s => " at " ++ s.display).getD "" ++ ": "
    ++ d.problem.message

def report (ds : List Diagnostic) : String :=
  "compilation failed with " ++ toString ds.length ++ (if ds.length = 1 then " error" else " errors")
    ++ String.join (ds.map fun d => "\n  " ++ d.display)

def toJson (d : Diagnostic) : Json :=
  .object ([
    ("kind", .string d.problem.kind.name),
    ("entity", .ofName? d.entity),
    ("attribute", .ofName? d.attr),
    ("span", .orNull (d.span.map Span.toJson)),
    ("message", .string d.problem.message)]
    ++ match d.problem.cycle with
      | [] => []
      | entities => [("cycle", .ofNames entities)])

end Diagnostic

end Tributary
