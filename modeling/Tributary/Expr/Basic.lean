import Tributary.Diagnostic

/-!
# Expressions

An expression as it is declared, with names. Every node may carry the place it came from. Names and
calls also carry what they are bound to: nothing in a declared expression, a binding in a bound one.

* `Expr` : an expression, over what names and calls are bound to;
* `Expr.nodes` : its nodes, each before those inside it;
* `SourceExpr.lower` : the expression within a limit of nesting.
-/

namespace Tributary

/-- An expression whose names are bound to `ι` and whose calls are bound to `κ`. -/
inductive Expr (ι κ : Type) where
  | literal (span : Option Span) (value : Value)
  | ident (span : Option Span) (name : String) (binding : ι)
  /-- A field of an object. A safe access gives its default, or null, where there is no field. -/
  | access (span : Option Span) (object : Expr ι κ) (field : String) (safe : Bool)
      (default : Option (Expr ι κ))
  | index (span : Option Span) (object key : Expr ι κ)
  | unary (span : Option Span) (op : UnaryOp) (operand : Expr ι κ)
  | binary (span : Option Span) (op : BinaryOp) (left right : Expr ι κ)
  | conditional (span : Option Span) (condition thenBranch elseBranch : Expr ι κ)
  | lambda (span : Option Span) (params : List String) (body : Expr ι κ)
  | call (span : Option Span) (function : String) (target : κ) (args : List (Expr ι κ))
deriving Repr, Inhabited

abbrev SourceExpr := Expr Unit Unit

namespace Expr

variable {ι κ : Type}

def span : Expr ι κ → Option Span
  | literal s _ | ident s _ _ | access s _ _ _ _ | index s _ _ | unary s _ _ | binary s _ _ _
  | conditional s _ _ _ | lambda s _ _ | call s _ _ _ => s

mutual

/-- The nodes of an expression, each before those inside it, from left to right. -/
def nodes : Expr ι κ → List (Expr ι κ)
  | e@(literal _ _) => [e]
  | e@(ident _ _ _) => [e]
  | e@(access _ object _ _ default) => e :: (nodes object ++ nodesDefault default)
  | e@(index _ object key) => e :: (nodes object ++ nodes key)
  | e@(unary _ _ operand) => e :: nodes operand
  | e@(binary _ _ left right) => e :: (nodes left ++ nodes right)
  | e@(conditional _ condition thenBranch elseBranch) =>
    e :: (nodes condition ++ nodes thenBranch ++ nodes elseBranch)
  | e@(lambda _ _ body) => e :: nodes body
  | e@(call _ _ _ args) => e :: nodesArgs args

def nodesDefault : Option (Expr ι κ) → List (Expr ι κ)
  | none => []
  | some e => nodes e

def nodesArgs : List (Expr ι κ) → List (Expr ι κ)
  | [] => []
  | e :: es => nodes e ++ nodesArgs es

end

end Expr

namespace SourceExpr

mutual

/-- The expression, if it nests no deeper than `limit`, with every access that has a default made safe;
else the place of the first node that is too deep. -/
def lower (limit : Nat) (e : SourceExpr) : Except (Option Span) SourceExpr :=
  match limit with
  | 0 => .error e.span
  | limit + 1 =>
    match e with
    | .literal s v => .ok (.literal s v)
    | .ident s name b => .ok (.ident s name b)
    | .access s object field safe default => do
      let object ← lower limit object
      let default' ← lowerDefault limit default
      .ok (.access s object field (safe || default.isSome) default')
    | .index s object key => do
      let object ← lower limit object
      let key ← lower limit key
      .ok (.index s object key)
    | .unary s op operand => do
      let operand ← lower limit operand
      .ok (.unary s op operand)
    | .binary s op left right => do
      let left ← lower limit left
      let right ← lower limit right
      .ok (.binary s op left right)
    | .conditional s condition thenBranch elseBranch => do
      let condition ← lower limit condition
      let thenBranch ← lower limit thenBranch
      let elseBranch ← lower limit elseBranch
      .ok (.conditional s condition thenBranch elseBranch)
    | .lambda s params body => do
      let body ← lower limit body
      .ok (.lambda s params body)
    | .call s function target args => do
      let args ← lowerArgs limit args
      .ok (.call s function target args)

def lowerDefault (limit : Nat) : Option SourceExpr → Except (Option Span) (Option SourceExpr)
  | none => .ok none
  | some e => do
    let e ← lower limit e
    .ok (some e)

def lowerArgs (limit : Nat) : List SourceExpr → Except (Option Span) (List SourceExpr)
  | [] => .ok []
  | e :: es => do
    let e ← lower limit e
    let es ← lowerArgs limit es
    .ok (e :: es)

end

end SourceExpr

end Tributary
