import Tributary.Node.Basic

/-!
# Nodes as JSON

A node is an object whose member `node` says what it is.
-/

namespace Tributary.Node

mutual

def toJson : Node → Json
  | const v => .object [("node", .string "const"), ("value", v.toJson)]
  | localSlot i => .object [("node", .string "local"), ("slot", .int i)]
  | attributeSlot i => .object [("node", .string "attribute"), ("index", .int i)]
  | parentSlot i => .object [("node", .string "parent"), ("slot", .int i)]
  | parentField i name =>
    .object [("node", .string "parent_attribute"), ("slot", .int i), ("attribute", .string name)]
  | paramSlot i => .object [("node", .string "param"), ("slot", .int i)]
  | field object name =>
    .object [("node", .string "field"), ("object", toJson object), ("field", .string name)]
  | safePath object path default =>
    .object [("node", .string "safe_path"), ("object", toJson object),
      ("path", .array (path.map .string)), ("default", toJsonDefault default)]
  | index object key =>
    .object [("node", .string "index"), ("object", toJson object), ("index", toJson key)]
  | unary op operand =>
    .object [("node", .string "unary"), ("op", .string op.name), ("operand", toJson operand)]
  | binary op left right =>
    .object [("node", .string "binary"), ("op", .string op.name), ("lhs", toJson left),
      ("rhs", toJson right)]
  | conditional condition thenBranch elseBranch =>
    .object [("node", .string "conditional"), ("condition", toJson condition),
      ("then_branch", toJson thenBranch), ("else_branch", toJson elseBranch)]
  | lambda arity body =>
    .object [("node", .string "lambda"), ("arity", .int arity), ("body", toJson body)]
  | call name args =>
    .object [("node", .string "call"), ("builtin", .string name), ("args", .array (toJsonList args))]

/-- The tree of a default, null without one. -/
def toJsonDefault : Option Node → Json
  | none => .null
  | some node => toJson node

def toJsonList : List Node → List Json
  | [] => []
  | node :: nodes => toJson node :: toJsonList nodes

end

end Tributary.Node
