import Tributary.Proofs.Distinct
import Tributary.Proofs.Expr.Compiles
import Tributary.Scope.References

/-!
# References of bound expressions

* `bind_nodes` : every node of a bound expression was itself bound under its scope;
* `TypeEnv.Matched` : names are bound to parents as the types know them; `matched_of_bind` : bound names are;
* `References.InScope` : references are to what a scope has; `bind_inScope` : those of a bound expression are.
-/

namespace Tributary

section Bound
variable {s : Scope} {n : BoundExpr}

mutual

/-- Every node of a bound expression is what some expression is bound to, under the parameters of some lambdas. -/
theorem bind_nodes : ∀ (e : SourceExpr) {L : List String} {b : BoundExpr}, s.bind L e = .ok b → n ∈ b.nodes →
    ∃ L' e', s.bind L' e' = .ok n
  | .literal _ _, L, b, h, hn => by
    have hb := h
    rw [Scope.bind] at hb
    cases hb
    rw [Expr.nodes, List.mem_singleton] at hn
    exact ⟨L, _, hn ▸ h⟩
  | .ident _ _ _, L, b, h, hn => by
    obtain ⟨x, -, rfl⟩ := bind_ident h
    rw [Expr.nodes, List.mem_singleton] at hn
    exact ⟨L, _, hn ▸ h⟩
  | .access _ object _ _ default, L, b, h, hn => by
    obtain ⟨o, d, ho, hd, -, rfl⟩ := bind_access h
    rw [Expr.nodes, List.mem_cons, List.mem_append] at hn
    rcases hn with hn | hn | hn
    · exact ⟨L, _, hn ▸ h⟩
    · exact bind_nodes object ho hn
    · exact bindDefault_nodes default hd hn
  | .index _ object key, L, b, h, hn => by
    obtain ⟨o, k, ho, hk, rfl⟩ := bind_index h
    rw [Expr.nodes, List.mem_cons, List.mem_append] at hn
    rcases hn with hn | hn | hn
    · exact ⟨L, _, hn ▸ h⟩
    · exact bind_nodes object ho hn
    · exact bind_nodes key hk hn
  | .unary _ _ operand, L, b, h, hn => by
    obtain ⟨o, ho, rfl⟩ := bind_unary h
    rw [Expr.nodes, List.mem_cons] at hn
    rcases hn with hn | hn
    · exact ⟨L, _, hn ▸ h⟩
    · exact bind_nodes operand ho hn
  | .binary _ _ left right, L, b, h, hn => by
    obtain ⟨l, r, hl, hr, rfl⟩ := bind_binary h
    rw [Expr.nodes, List.mem_cons, List.mem_append] at hn
    rcases hn with hn | hn | hn
    · exact ⟨L, _, hn ▸ h⟩
    · exact bind_nodes left hl hn
    · exact bind_nodes right hr hn
  | .conditional _ condition thenBranch elseBranch, L, b, h, hn => by
    obtain ⟨c, t, f, hc, ht, hf, rfl⟩ := bind_conditional h
    rw [Expr.nodes, List.mem_cons, List.mem_append, List.mem_append] at hn
    rcases hn with hn | (hn | hn) | hn
    · exact ⟨L, _, hn ▸ h⟩
    · exact bind_nodes condition hc hn
    · exact bind_nodes thenBranch ht hn
    · exact bind_nodes elseBranch hf hn
  | .lambda _ _ body, L, b, h, hn => by
    obtain ⟨y, hy, rfl⟩ := bind_lambda h
    rw [Expr.nodes, List.mem_cons] at hn
    rcases hn with hn | hn
    · exact ⟨L, _, hn ▸ h⟩
    · exact bind_nodes body hy hn
  | .call _ _ _ args, L, b, h, hn => by
    obtain ⟨f, bs, -, hbs, rfl⟩ := bind_call h
    rw [Expr.nodes, List.mem_cons] at hn
    rcases hn with hn | hn
    · exact ⟨L, _, hn ▸ h⟩
    · exact bindArgs_nodes args hbs hn

theorem bindDefault_nodes : ∀ (default : Option SourceExpr) {L : List String} {d : Option BoundExpr},
    s.bindDefault L default = .ok d → n ∈ Expr.nodesDefault d → ∃ L' e', s.bind L' e' = .ok n
  | none, L, d, h, hn => by
    rw [Scope.bindDefault] at h
    cases h
    cases hn
  | some e, L, d, h, hn => by
    rw [Scope.bindDefault] at h
    obtain ⟨b, hb, rfl⟩ := map_eq_ok.mp h
    rw [Expr.nodesDefault] at hn
    exact bind_nodes e hb hn

theorem bindArgs_nodes : ∀ (args : List SourceExpr) {L : List String} {bs : List BoundExpr},
    s.bindArgs L args = .ok bs → n ∈ Expr.nodesArgs bs → ∃ L' e', s.bind L' e' = .ok n
  | [], L, bs, h, hn => by
    rw [Scope.bindArgs] at h
    cases h
    cases hn
  | arg :: args, L, bs, h, hn => by
    obtain ⟨b, bs, hb, hbs, rfl⟩ := bindArgs_cons h
    rw [Expr.nodesArgs, List.mem_append] at hn
    exact hn.elim (bind_nodes arg hb) (bindArgs_nodes args hbs)

end

/-- Every name in a bound expression is bound to what a look-up gave. -/
theorem bind_nodes_ident {e : SourceExpr} {L : List String} {b : BoundExpr} {span : Option Span} {name : String}
    {x : Binding} (h : s.bind L e = .ok b) (hx : .ident span name x ∈ b.nodes) :
    ∃ L', s.lookup L' name = .ok x := by
  obtain ⟨L', e', he'⟩ := bind_nodes e h hx
  obtain ⟨-, -, hlookup⟩ := bind_eq_ident he'
  exact ⟨L', hlookup⟩

/-- A field that is read directly off a single parent is one of its attributes. -/
theorem bind_nodes_field {e : SourceExpr} {L : List String} {b : BoundExpr} {span span' : Option Span}
    {name n field : String} {slot : Nat} {safe : Bool} {d : Option BoundExpr} (h : s.bind L e = .ok b)
    (hx : .access span (.ident span' name (.parent slot n .one)) field safe d ∈ b.nodes) :
    ∃ p, s.parents[slot]? = some p ∧ p.multiplicity = .one ∧ field ∈ p.attrs := by
  obtain ⟨L', e', he'⟩ := bind_nodes e h hx
  obtain ⟨⟨object, ho⟩, hcheck⟩ := bind_eq_access he'
  obtain ⟨-, -, hlookup⟩ := bind_eq_ident ho
  obtain ⟨p, hp, -, hone⟩ := Scope.lookup_binds hlookup
  rw [Scope.checkField, hp, Option.any_some] at hcheck
  split at hcheck
  · next hfield => exact ⟨p, hp, hone, List.contains_iff_mem.mp hfield⟩
  · cases hcheck

end Bound

/-- Names are bound to parents that the types have, with as many records. -/
def TypeEnv.Matched (env : TypeEnv) (nodes : List BoundExpr) : Prop :=
  ∀ span name slot n k, Expr.ident span name (.parent slot n k) ∈ nodes →
    ∃ p, env.parents[slot]? = some p ∧ p.multiplicity = k

theorem TypeEnv.Matched.mono {env : TypeEnv} {nodes nodes' : List BoundExpr} (h : env.Matched nodes')
    (hnodes : nodes ⊆ nodes') : env.Matched nodes :=
  fun span name slot n k hmem => h span name slot n k (hnodes hmem)

theorem matched_of_bind {s : Scope} {env : TypeEnv} {L : List String} {e : SourceExpr} {b : BoundExpr}
    (h : s.bind L e = .ok b)
    (hparents : ∀ (slot : Nat) q, s.parents[slot]? = some q →
      ∃ p, env.parents[slot]? = some p ∧ p.multiplicity = q.multiplicity) : env.Matched b.nodes := by
  intro span name slot n k hmem
  obtain ⟨L, hlookup⟩ := bind_nodes_ident h hmem
  obtain ⟨q, hq, -, rfl⟩ := Scope.lookup_binds hlookup
  exact hparents slot q hq

/-! ## What references refer to -/

/-- References are to earlier attributes, parents and parameters of a scope, and to attributes of single parents. -/
structure References.InScope (r : References) (s : Scope) : Prop where
  siblings : ∀ k ∈ r.siblings, k < s.current
  parents : ∀ k ∈ r.parents, k < s.parents.length
  parentAttrs : ∀ q ∈ r.parentAttrs, ∃ p, s.parents[q.1]? = some p ∧ p.multiplicity = .one ∧ q.2 ∈ p.attrs
  params : ∀ k ∈ r.params, k < s.params.length

section InScope
variable {s : Scope} {e : SourceExpr} {b : BoundExpr} {k : Nat}

theorem bind_sibling (h : s.bind [] e = .ok b) (hk : k ∈ b.nodes.filterMap BoundExpr.sibling?) : k < s.current := by
  obtain ⟨node, hnode, hread⟩ := List.mem_filterMap.mp hk
  unfold BoundExpr.sibling? at hread
  split at hread <;> cases hread
  obtain ⟨L, hlookup⟩ := bind_nodes_ident h hnode
  exact Scope.lookup_binds hlookup

theorem bind_param (h : s.bind [] e = .ok b) (hk : k ∈ b.nodes.filterMap BoundExpr.param?) : k < s.params.length := by
  obtain ⟨node, hnode, hread⟩ := List.mem_filterMap.mp hk
  unfold BoundExpr.param? at hread
  split at hread <;> cases hread
  obtain ⟨L, hlookup⟩ := bind_nodes_ident h hnode
  exact Scope.lookup_binds hlookup

theorem bind_parent (h : s.bind [] e = .ok b) (hk : k ∈ b.nodes.filterMap BoundExpr.parent?) :
    k < s.parents.length := by
  obtain ⟨node, hnode, hread⟩ := List.mem_filterMap.mp hk
  unfold BoundExpr.parent? at hread
  split at hread <;> cases hread
  all_goals
    obtain ⟨L, hlookup⟩ := bind_nodes_ident h hnode
    obtain ⟨p, hp, -⟩ := Scope.lookup_binds hlookup
    exact (List.getElem?_eq_some_iff.mp hp).1

/-- What is read of a single parent, by its bare name or by an access, is one of its attributes. -/
theorem bind_parentAttr (h : s.bind [] e = .ok b) {q : Nat × String}
    (hq : q ∈ b.nodes.filterMap BoundExpr.parentAttr?) :
    ∃ p, s.parents[q.1]? = some p ∧ p.multiplicity = .one ∧ q.2 ∈ p.attrs := by
  obtain ⟨node, hnode, hread⟩ := List.mem_filterMap.mp hq
  unfold BoundExpr.parentAttr? at hread
  split at hread
  · cases hread
    obtain ⟨L, hlookup⟩ := bind_nodes_ident h hnode
    exact Scope.lookup_binds hlookup
  · cases hread
    exact bind_nodes_field h hnode
  · cases hread

/-- The references of a bound expression are in its scope. -/
theorem bind_inScope (h : s.bind [] e = .ok b) : (BoundExpr.references b).InScope s := by
  have hslots : ∀ {k : Nat} {ks : List Nat}, k ∈ Sorted.ofList compare ks → k ∈ ks :=
    (Sorted.mem_ofList fun _ _ => Nat.compare_eq_eq.mp).mp
  refine ⟨fun k hk => ?_, fun k hk => ?_, fun q hq => ?_, fun k hk => ?_⟩
  · exact bind_sibling h (hslots hk)
  · exact bind_parent h (hslots hk)
  · exact bind_parentAttr h ((Sorted.mem_ofList Sorted.eq_of_orderPair).mp hq)
  · exact bind_param h (hslots hk)

end InScope

end Tributary
