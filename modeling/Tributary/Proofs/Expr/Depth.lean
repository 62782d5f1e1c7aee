import Tributary.Expr.Basic

/-!
# Nesting

How deep the nodes of an expression are, and what the limit of nesting does: an expression without nodes beyond the
limit stays as it is, apart from its defaults, and any other is refused at the first node that is too deep.

* `Expr.parts` : the expressions directly inside of one;
* `Expr.levels d e` : the nodes of `e` with their depths, where `e` itself is at depth `d`;
* `SourceExpr.withSafeDefaults` : an expression with every access that has a default made safe;
* `unlessDeeper` : something, or the place of the first node that is too deep;
* `SourceExpr.lower_eq` : lowering, in these terms; `SourceExpr.lower_exact` : when it succeeds and how it fails.
-/

namespace Tributary

namespace Expr

variable {ι κ : Type}

/-- The expressions directly inside of an expression, from left to right. -/
def parts : Expr ι κ → List (Expr ι κ)
  | literal _ _ => []
  | ident _ _ _ => []
  | access _ object _ _ default => object :: default.toList
  | index _ object key => [object, key]
  | unary _ _ operand => [operand]
  | binary _ _ left right => [left, right]
  | conditional _ condition thenBranch elseBranch => [condition, thenBranch, elseBranch]
  | lambda _ _ body => [body]
  | call _ _ _ args => args

theorem sizeOf_lt_of_mem_parts {e x : Expr ι κ} (h : x ∈ e.parts) : sizeOf x < sizeOf e := by
  cases e with
  | literal | ident => cases h
  | access span object field safe default =>
    rcases List.mem_cons.mp h with rfl | h
    · simp only [access.sizeOf_spec]
      omega
    · obtain rfl := Option.mem_toList.mp h
      simp only [access.sizeOf_spec, Option.some.sizeOf_spec]
      omega
  | call span name target args =>
    have : sizeOf x < sizeOf args := List.sizeOf_lt_of_mem h
    simp only [call.sizeOf_spec]
    omega
  | _ =>
    simp only [parts, List.mem_cons, List.not_mem_nil, or_false] at h
    grind

/-- The nodes of an expression with their depths, each before those inside it, from left to right. The expression
itself is at depth `d`. -/
def levels (d : Nat) (e : Expr ι κ) : List (Nat × Expr ι κ) :=
  (d, e) :: e.parts.attach.flatMap fun x => levels (d + 1) x.1
termination_by sizeOf e
decreasing_by exact sizeOf_lt_of_mem_parts x.2

theorem levels_eq (d : Nat) (e : Expr ι κ) : e.levels d = (d, e) :: e.parts.flatMap (levels (d + 1)) := by
  rw [levels]
  simp

/-- The first node that is too deep is one level too deep: the one above any other comes before it. -/
theorem depth_of_find? {n : Nat} : ∀ {d max : Nat} {e : Expr ι κ} {p : Nat × Expr ι κ}, d + n = max + 1 →
    (e.levels d).find? (fun p => max < p.1) = some p → p.1 = max + 1 := by
  induction n with
  | zero =>
    intro d max e p hd h
    rw [levels_eq, List.find?_cons_of_pos (by simp; omega)] at h
    cases h
    exact hd
  | succ n ih =>
    intro d max e p hd h
    rw [levels_eq, List.find?_cons_of_neg (by simp; omega), List.find?_flatMap] at h
    obtain ⟨x, -, hx⟩ := List.exists_of_findSome?_eq_some h
    exact ih (by omega) hx

end Expr

/-! ## Lowering -/

/-- Something, unless a node of a list is deeper than `max`; then the place of the first such node. -/
def unlessDeeper {α : Type} (max : Nat) (nodes : List (Nat × SourceExpr)) (x : α) : Except (Option Span) α :=
  match nodes.find? fun p => max < p.1 with
  | none => .ok x
  | some p => .error p.2.span

section

variable {α β : Type} {max : Nat} {nodes nodes' : List (Nat × SourceExpr)} {x : α} {y : β}

/-- One thing after another. -/
theorem unlessDeeper_bind {f : α → Except (Option Span) β} (h : f x = unlessDeeper max nodes' y) :
    (unlessDeeper max nodes x >>= f) = unlessDeeper max (nodes ++ nodes') y := by
  rw [unlessDeeper, unlessDeeper, List.find?_append]
  cases nodes.find? fun p => max < p.1 with
  | none => exact h
  | some p => rfl

theorem unlessDeeper_map (f : α → β) :
    (unlessDeeper max nodes x >>= fun a => .ok (f a)) = unlessDeeper max nodes (f x) := by
  rw [unlessDeeper, unlessDeeper]
  cases nodes.find? fun p => max < p.1 with
  | none => rfl
  | some p => rfl

theorem unlessDeeper_eq_ok_iff {z : α} :
    unlessDeeper max nodes x = .ok z ↔ (∀ p ∈ nodes, p.1 ≤ max) ∧ z = x := by
  rw [unlessDeeper]
  cases h : nodes.find? fun p => max < p.1 with
  | none =>
    have hall : ∀ p ∈ nodes, p.1 ≤ max := by simpa using List.find?_eq_none.mp h
    exact ⟨fun hz => ⟨hall, (Except.ok.inj hz).symm⟩, fun hz => congrArg _ hz.2.symm⟩
  | some p =>
    have hp : max < p.1 := by simpa using List.find?_some h
    exact ⟨nofun, fun hz => absurd (hz.1 p (List.mem_of_find?_eq_some h)) (Nat.not_le.mpr hp)⟩

theorem unlessDeeper_eq_error_iff {span : Option Span} :
    unlessDeeper max nodes x = .error span ↔ ∃ p, nodes.find? (fun p => max < p.1) = some p ∧ span = p.2.span := by
  rw [unlessDeeper]
  cases nodes.find? fun p => max < p.1 with
  | none => exact ⟨nofun, fun ⟨p, hp, _⟩ => nomatch hp⟩
  | some p =>
    constructor
    · intro h
      cases h
      exact ⟨p, rfl, rfl⟩
    · rintro ⟨q, hq, rfl⟩
      cases hq
      rfl

end

namespace SourceExpr

mutual

def withSafeDefaults : SourceExpr → SourceExpr
  | .literal s v => .literal s v
  | .ident s name b => .ident s name b
  | .access s object field safe default =>
    .access s (withSafeDefaults object) field (safe || default.isSome) (safeDefault default)
  | .index s object key => .index s (withSafeDefaults object) (withSafeDefaults key)
  | .unary s op operand => .unary s op (withSafeDefaults operand)
  | .binary s op left right => .binary s op (withSafeDefaults left) (withSafeDefaults right)
  | .conditional s condition thenBranch elseBranch =>
    .conditional s (withSafeDefaults condition) (withSafeDefaults thenBranch) (withSafeDefaults elseBranch)
  | .lambda s params body => .lambda s params (withSafeDefaults body)
  | .call s function target args => .call s function target (safeArgs args)

def safeDefault : Option SourceExpr → Option SourceExpr
  | none => none
  | some e => some (withSafeDefaults e)

def safeArgs : List SourceExpr → List SourceExpr
  | [] => []
  | e :: es => withSafeDefaults e :: safeArgs es

end

section Limit

variable {n d max : Nat} (h : ∀ e, lower n e = unlessDeeper max (Expr.levels d e) (withSafeDefaults e))
include h

/-- Defaults and arguments are lowered as the expressions that they are made of. -/
theorem lowerDefault_eq (default : Option SourceExpr) :
    lowerDefault n default = unlessDeeper max (default.toList.flatMap (Expr.levels d)) (safeDefault default) := by
  cases default with
  | none => rw [lowerDefault, safeDefault]; rfl
  | some e =>
    rw [lowerDefault, safeDefault, h e, Option.toList_some, List.flatMap_singleton]
    exact unlessDeeper_map some

theorem lowerArgs_eq (args : List SourceExpr) :
    lowerArgs n args = unlessDeeper max (args.flatMap (Expr.levels d)) (safeArgs args) := by
  induction args with
  | nil => rw [lowerArgs, safeArgs]; rfl
  | cons e es ih =>
    rw [lowerArgs, safeArgs, h e, ih, List.flatMap_cons]
    exact unlessDeeper_bind (unlessDeeper_map _)

/-- One level of an expression, given how those below it are lowered. -/
theorem lower_succ_eq (e : SourceExpr) :
    lower (n + 1) e = unlessDeeper max (e.parts.flatMap (Expr.levels d)) e.withSafeDefaults := by
  cases e with
  | literal => rw [lower, withSafeDefaults]; rfl
  | ident => rw [lower, withSafeDefaults]; rfl
  | access s object field safe default =>
    rw [lower, withSafeDefaults, h object, lowerDefault_eq h default, Expr.parts, List.flatMap_cons]
    exact unlessDeeper_bind (unlessDeeper_map _)
  | index s object key =>
    rw [lower, withSafeDefaults, h object, h key, Expr.parts, List.flatMap_cons, List.flatMap_singleton]
    exact unlessDeeper_bind (unlessDeeper_map _)
  | unary s op operand =>
    rw [lower, withSafeDefaults, h operand, Expr.parts, List.flatMap_singleton]
    exact unlessDeeper_map _
  | binary s op left right =>
    rw [lower, withSafeDefaults, h left, h right, Expr.parts, List.flatMap_cons, List.flatMap_singleton]
    exact unlessDeeper_bind (unlessDeeper_map _)
  | conditional s condition thenBranch elseBranch =>
    rw [lower, withSafeDefaults, h condition, h thenBranch, h elseBranch, Expr.parts, List.flatMap_cons,
      List.flatMap_cons, List.flatMap_singleton]
    exact unlessDeeper_bind (unlessDeeper_bind (unlessDeeper_map _))
  | lambda s params body =>
    rw [lower, withSafeDefaults, h body, Expr.parts, List.flatMap_singleton]
    exact unlessDeeper_map _
  | call s function target args =>
    rw [lower, withSafeDefaults, lowerArgs_eq h args, Expr.parts]
    exact unlessDeeper_map _

end Limit

/-- Lowering goes through the nodes in order, as long as they are within the limit. The induction is on the limit, which
every level takes one of. -/
theorem lower_eq {n : Nat} : ∀ {d max : Nat} (_ : d + n = max + 1) (e : SourceExpr),
    lower n e = unlessDeeper max (e.levels d) e.withSafeDefaults := by
  induction n with
  | zero =>
    intro d max hd e
    rw [lower, unlessDeeper, Expr.levels_eq, List.find?_cons_of_pos (by simp; omega)]
  | succ n ih =>
    intro d max hd e
    rw [lower_succ_eq (ih (by omega : d + 1 + n = max + 1)) e, Expr.levels_eq, unlessDeeper, unlessDeeper,
      List.find?_cons_of_neg (by simp; omega)]

theorem lower_eq_ok_iff {max : Nat} {e x : SourceExpr} :
    lower max e = .ok x ↔ (∀ p ∈ e.levels 1, p.1 ≤ max) ∧ x = e.withSafeDefaults := by
  rw [lower_eq (Nat.add_comm 1 max), unlessDeeper_eq_ok_iff]

/-- An expression is lowered exactly if no node is deeper than the limit, and then only its defaults are made safe. Else
the place is given of the first node, in order, that is one level beyond the limit; no node before it is too deep. -/
theorem lower_exact (max : Nat) (e : SourceExpr) :
    (∀ x, lower max e = .ok x ↔ (∀ p ∈ e.levels 1, p.1 ≤ max) ∧ x = e.withSafeDefaults) ∧
    ∀ span, lower max e = .error span ↔
      ∃ before node after, e.levels 1 = before ++ (max + 1, node) :: after ∧ (∀ p ∈ before, p.1 ≤ max) ∧
        span = node.span := by
  refine ⟨fun x => lower_eq_ok_iff, fun span => ?_⟩
  rw [lower_eq (Nat.add_comm 1 max), unlessDeeper_eq_error_iff]
  constructor
  · rintro ⟨⟨depth, node⟩, hfind, rfl⟩
    obtain ⟨-, before, after, hlevels, hbefore⟩ := List.find?_eq_some_iff_append.mp hfind
    obtain rfl : depth = max + 1 := Expr.depth_of_find? (Nat.add_comm 1 max) hfind
    exact ⟨before, node, after, hlevels, by simpa using hbefore, rfl⟩
  · rintro ⟨before, node, after, hlevels, hbefore, rfl⟩
    exact ⟨(max + 1, node), List.find?_eq_some_iff_append.mpr ⟨by simp, before, after, hlevels, by simpa using hbefore⟩,
      rfl⟩

/-- Whether the rebate of an order, by default `-half`, is less than `--one`. Two nodes are at depth 4, one in the
default and one in the right operand. -/
def rebate : SourceExpr :=
  .binary none .lt
    (.access none (.ident none "order" ()) "rebate" false
      (some (.unary (some ⟨1, 15⟩) .neg (.ident (some ⟨1, 16⟩) "half" ()))))
    (.unary none .neg (.unary none .neg (.ident (some ⟨1, 25⟩) "one" ())))

/-- Under a limit of 3 the name in the default is too deep: the object before it is not, and the last name comes after
it. Under a limit of 4 the access is made safe. -/
theorem rebate_limits :
    lower 3 rebate = .error (some ⟨1, 16⟩) ∧
    lower 4 rebate = .ok (.binary none .lt
      (.access none (.ident none "order" ()) "rebate" true
        (some (.unary (some ⟨1, 15⟩) .neg (.ident (some ⟨1, 16⟩) "half" ()))))
      (.unary none .neg (.unary none .neg (.ident (some ⟨1, 25⟩) "one" ())))) := by
  refine ⟨((lower_exact 3 rebate).2 _).mpr ?_, ((lower_exact 4 rebate).1 _).mpr ?_⟩
  · refine ⟨(rebate.levels 1).take 4, .ident (some ⟨1, 16⟩) "half" (), (rebate.levels 1).drop 5, ?_, ?_, rfl⟩
    · simp [rebate, Expr.levels_eq, Expr.parts]
    · simp [rebate, Expr.levels_eq, Expr.parts]
  · simp [rebate, Expr.levels_eq, Expr.parts, withSafeDefaults, safeDefault]

end SourceExpr

end Tributary
