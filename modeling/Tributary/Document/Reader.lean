import Tributary.Document.Basic
import Tributary.Value.Json

/-!
# Reading model documents and options

A document is read from a JSON tree. A field may be given once, under any of its names; a missing
field takes its default, and null stands for a missing one only where the field is optional. Members
that are not fields are ignored.

* `Document.ofJson?`, `Document.ofText?` : the document of a tree or of a text;
* `Expr.ofJson?` : the expression of a tree;
* `Options` : what a compilation accepts beyond the rules that always hold, `Options.ofJson?` : the options of a tree.
-/

namespace Tributary

/-! ## Fields -/

/-- The members of an object that is read as a record. -/
abbrev Members := List (String × Json)

namespace Members

/-- What a field of any of these names holds, if it is there; refused if it is there twice. -/
def single? (ms : Members) (names : List String) : Option (Option Json) :=
  match ms.filter fun m => names.contains m.1 with
  | [] => some none
  | [m] => some (some m.2)
  | _ => none

def required? {α : Type} (ms : Members) (names : List String) (read : Json → Option α) : Option α := do
  match ← single? ms names with
  | some j => read j
  | none => none

def withDefault? {α : Type} (ms : Members) (names : List String) (read : Json → Option α)
    (default : α) : Option α := do
  match ← single? ms names with
  | some j => read j
  | none => some default

def optional? {α : Type} (ms : Members) (names : List String) (read : Json → Option α) :
    Option (Option α) := do
  match ← single? ms names with
  | some .null => some none
  | some j => (read j).map some
  | none => some none

end Members

def readList? {α : Type} (read : Json → Option α) (j : Json) : Option (List α) := do
  (← j.items?).mapM read

def readName? {α : Type} (ofName? : String → Option α) (j : Json) : Option α := do
  ofName? (← j.string?)

/-- A natural number below a bound. -/
def readNat? (bound : Nat) (j : Json) : Option Nat := do
  let n ← j.int?
  if 0 ≤ n ∧ n < bound then some n.toNat else none

open Members

def Span.ofJson? (j : Json) : Option Span := do
  let ms ← j.members?
  let line ← required? ms ["line"] (readNat? (Nat.pow 2 32))
  let col ← required? ms ["col"] (readNat? (Nat.pow 2 32))
  some { line, col }

/-! ## Expressions -/

namespace Expr

/-- The kinds of nodes, by the member that holds the node. -/
def kinds : List String :=
  ["literal", "ident", "access", "index", "unary", "binary", "conditional", "lambda", "call"]

/-- An expression that nests at most so deep as a tree. -/
def read? : Nat → Json → Option SourceExpr
  | 0, _ => none
  | fuel + 1, j => do
    let ms ← j.members?
    let span ← optional? ms ["span"] Span.ofJson?
    let (kind, body) ← ms.find? fun m => kinds.contains m.1
    match kind with
    | "literal" => return literal span (← Value.ofJson? body)
    | "ident" => return ident span (← body.string?) ()
    | kind => do
      let parts ← body.members?
      match kind with
      | "access" =>
        return access span
          (← required? parts ["object"] (read? fuel))
          (← required? parts ["field"] Json.string?)
          (← withDefault? parts ["safe"] Json.bool? false)
          (← optional? parts ["default"] (read? fuel))
      | "index" =>
        return index span
          (← required? parts ["object"] (read? fuel))
          (← required? parts ["index"] (read? fuel))
      | "unary" =>
        return unary span
          (← required? parts ["op"] (readName? UnaryOp.ofName?))
          (← required? parts ["operand"] (read? fuel))
      | "binary" =>
        return binary span
          (← required? parts ["op"] (readName? BinaryOp.ofName?))
          (← required? parts ["lhs"] (read? fuel))
          (← required? parts ["rhs"] (read? fuel))
      | "conditional" =>
        return conditional span
          (← required? parts ["condition"] (read? fuel))
          (← required? parts ["then"] (read? fuel))
          (← required? parts ["else"] (read? fuel))
      | "lambda" =>
        return lambda span
          (← required? parts ["params"] (readList? Json.string?))
          (← required? parts ["body"] (read? fuel))
      | _ =>
        return call span
          (← required? parts ["function", "fn"] Json.string?)
          ()
          (← withDefault? parts ["args"] (readList? (read? fuel)) [])

def ofJson? (j : Json) : Option SourceExpr := read? j.depth j

end Expr

/-! ## Declarations -/

/-- Whether a tree below so many arrays and objects is a value that keeps to the greatest depth. -/
def isReadable (above : Nat) (j : Json) : Bool :=
  above + j.depth ≤ Json.maxDepth && (Value.ofJson? j).isSome

def Join.ofJson? (j : Json) : Option Join := do
  let ms ← j.members?
  let parentKey ← required? ms ["parent_key"] Json.string?
  let localKey ← optional? ms ["local_key"] Json.string?
  some { parentKey, localKey }

def ParamDecl.ofJson? (j : Json) : Option ParamDecl := do
  let ms ← j.members?
  let name ← required? ms ["name"] Json.string?
  let location ← withDefault? ms ["location"] (readName? ParamLocation.ofName?) .query
  let type ← withDefault? ms ["type"] Json.string? "any"
  some { name, location, type }

def SourceDecl.ofJson? (j : Json) : Option SourceDecl := do
  let ms ← j.members?
  let name ← required? ms ["name"] Json.string?
  let kind ← withDefault? ms ["kind"] (readName? SourceKind.ofName?) .rest
  let url ← optional? ms ["url"] Json.string?
  let params ← withDefault? ms ["params"] (readList? ParamDecl.ofJson?) []
  let span ← optional? ms ["span"] Span.ofJson?
  some { name, kind, url, params, span }

/-- A parent is given by its name alone or as a record. It stands below the document, the list of
entities, the entity and its list of parents. -/
def ParentDecl.ofJson? (j : Json) : Option ParentDecl :=
  if isReadable 4 j then
    match j with
    | .string entity => some { entity }
    | j => do
      let ms ← j.members?
      let entity ← required? ms ["entity"] Json.string?
      let multiplicity ← withDefault? ms ["multiplicity"] (readName? Multiplicity.ofName?) .one
      let join ← optional? ms ["join"] Join.ofJson?
      some { entity, multiplicity, join }
  else none

/-- An attribute. Its expression stands below the document, the list of entities, the entity, its list
of attributes and the attribute. -/
def AttributeDecl.ofJson? (j : Json) : Option AttributeDecl := do
  let ms ← j.members?
  let name ← required? ms ["name"] Json.string?
  let type ← withDefault? ms ["type"] Json.string? "any"
  let expr ← optional? ms ["expr"] fun e => if isReadable 5 e then Expr.ofJson? e else none
  let span ← optional? ms ["span"] Span.ofJson?
  some { name, type, expr, span }

def Exposure.ofJson? (j : Json) : Option Exposure := do
  let ms ← j.members?
  let operations ← withDefault? ms ["operations"] (readList? (readName? Operation.ofName?)) []
  let readonlyFields ← withDefault? ms ["readonly_fields"] (readList? Json.string?) []
  let filters ← withDefault? ms ["filters"] (readList? Json.string?) []
  let createFields ← optional? ms ["create_fields"] (readList? Json.string?)
  let updateFields ← optional? ms ["update_fields"] (readList? Json.string?)
  some { operations, readonlyFields, filters, createFields, updateFields }

def EntityDecl.ofJson? (j : Json) : Option EntityDecl := do
  let ms ← j.members?
  let name ← required? ms ["name"] Json.string?
  let parents ← withDefault? ms ["parents"] (readList? ParentDecl.ofJson?) []
  let source ← optional? ms ["source"] Json.string?
  let identityField ← optional? ms ["identity_field", "identity"] Json.string?
  let attributes ← withDefault? ms ["attributes"] (readList? AttributeDecl.ofJson?) []
  let exposure ← withDefault? ms ["exposure", "expose"] Exposure.ofJson? {}
  let span ← optional? ms ["span"] Span.ofJson?
  some { name, parents, source, identityField, attributes, exposure, span }

def EndpointDecl.ofJson? (j : Json) : Option EndpointDecl := do
  let ms ← j.members?
  let name ← required? ms ["name"] Json.string?
  let entity ← required? ms ["entity"] Json.string?
  let operation ← required? ms ["operation"] (readName? Operation.ofName?)
  let path ← required? ms ["path"] Json.string?
  let params ← withDefault? ms ["params"] (readList? ParamDecl.ofJson?) []
  let span ← optional? ms ["span"] Span.ofJson?
  some { name, entity, operation, path, params, span }

namespace Document

def ofJson? (j : Json) : Option Document := do
  let ms ← j.members?
  let sources ← withDefault? ms ["sources"] (readList? SourceDecl.ofJson?) []
  let entities ← withDefault? ms ["entities"] (readList? EntityDecl.ofJson?) []
  let endpoints ← withDefault? ms ["endpoints"] (readList? EndpointDecl.ofJson?) []
  some { sources, entities, endpoints }

def ofText? (s : String) : Option Document := (Json.parse? s).bind ofJson?

end Document

/-! ## Options -/

structure Options where
  /-- How deep expressions may nest. -/
  maxExpressionDepth : Nat := 64
  /-- Whether an entity may have no way to a source. -/
  allowOrphans : Bool := false
  /-- Whether types that are known not to fit are refused everywhere. -/
  strictTypes : Bool := false
deriving DecidableEq, Repr, Inhabited

namespace Options

def names : List String := ["max_expression_depth", "allow_orphans", "strict_types"]

/-- The options of a tree; other members than options are refused. -/
def ofJson? (j : Json) : Option Options := do
  let ms ← j.members?
  if ms.all fun m => names.contains m.1 then
    let maxExpressionDepth ← withDefault? ms ["max_expression_depth"] (readNat? (Nat.pow 2 64)) 64
    let allowOrphans ← withDefault? ms ["allow_orphans"] Json.bool? false
    let strictTypes ← withDefault? ms ["strict_types"] Json.bool? false
    some { maxExpressionDepth, allowOrphans, strictTypes }
  else none

def toJson (o : Options) : Json :=
  .object [
    ("max_expression_depth", .int o.maxExpressionDepth),
    ("allow_orphans", .bool o.allowOrphans),
    ("strict_types", .bool o.strictTypes)]

end Options

end Tributary
