import Tributary.Proofs.Model.WellFormed
import Tributary.Proofs.Plan.Joins
import Tributary.Proofs.Scope.Recorded

/-!
# Edges for what attributes read

For every attribute of a parent that an expression reads the graph has an edge. Whether an expression reads a parent as
a whole is not recorded where it does so, but follows from its reading none of the parent's attributes. So there is an
edge for that only where the expression reads the parent in no other way.

* `BoundExpr.ReadsAttr x slot n` : an expression reads attribute `n` of the parent in a slot;
* `BoundExpr.wholeReads` : the parents that an expression reads as a whole;
* `BoundExpr.mem_parents_iff` : a parent that is read is read as a whole or by an attribute;
* `Attribute.mem_reads_some`, `Attribute.mem_reads_none` : what an attribute is recorded to read;
* `Drawn.mem_references` : the edges for an attribute;
* `reference_edges` : the edges for an attribute, by what its expression reads.
-/

namespace Tributary

/-! ## Expressions -/

namespace BoundExpr

/-- An expression reads an attribute of the parent in a slot: by the bare name of the attribute, or directly off the
parent, of which there is one. -/
def ReadsAttr (x : BoundExpr) (slot : Nat) (n : String) : Prop :=
  (∃ span name parent, .ident span name (.parentAttr slot parent n) ∈ x.nodes) ∨
    ∃ span span' name parent safe default,
      .access span (.ident span' name (.parent slot parent .one)) n safe default ∈ x.nodes

def isSingleParent : BoundExpr → Bool
  | .ident _ _ (.parent _ _ .one) => true
  | _ => false

mutual

/-- The parents that an expression reads as a whole, by slot: those whose name occurs in it, unless as the object of an
access to a parent of which there is one. -/
def wholeReads : BoundExpr → List Nat
  | .literal _ _ => []
  | .ident _ _ b => namedParent b
  | .access _ object _ _ default =>
    (if isSingleParent object then [] else wholeReads object) ++ wholeReadsDefault default
  | .index _ object key => wholeReads object ++ wholeReads key
  | .unary _ _ operand => wholeReads operand
  | .binary _ _ left right => wholeReads left ++ wholeReads right
  | .conditional _ condition thenBranch elseBranch =>
    wholeReads condition ++ wholeReads thenBranch ++ wholeReads elseBranch
  | .lambda _ _ body => wholeReads body
  | .call _ _ _ args => wholeReadsArgs args

def wholeReadsDefault : Option BoundExpr → List Nat
  | none => []
  | some e => wholeReads e

def wholeReadsArgs : List BoundExpr → List Nat
  | [] => []
  | e :: es => wholeReads e ++ wholeReadsArgs es

end

theorem mem_parentAttrs_iff {x : BoundExpr} {slot : Nat} {n : String} :
    (slot, n) ∈ x.nodes.filterMap parentAttr? ↔ ReadsAttr x slot n := by
  rw [List.mem_filterMap]
  constructor
  · rintro ⟨node, hnode, hread⟩
    unfold parentAttr? at hread
    split at hread
    · cases hread
      exact .inl ⟨_, _, _, hnode⟩
    · cases hread
      exact .inr ⟨_, _, _, _, _, _, hnode⟩
    · cases hread
  · rintro (⟨_, _, _, hnode⟩ | ⟨_, _, _, _, _, _, hnode⟩)
    · exact ⟨_, hnode, rfl⟩
    · exact ⟨_, hnode, rfl⟩

/-- The parents that nodes read are those that are read as a whole and those of which an attribute is read. -/
def Covers (whole : List Nat) (nodes : List BoundExpr) : Prop :=
  ∀ slot, slot ∈ nodes.filterMap parent? ↔ slot ∈ whole ∨ ∃ n, (slot, n) ∈ nodes.filterMap parentAttr?

namespace Covers

variable {whole whole' : List Nat} {nodes nodes' : List BoundExpr}

theorem nil : Covers [] [] := by
  intro slot
  simp

theorem append (h : Covers whole nodes) (h' : Covers whole' nodes') : Covers (whole ++ whole') (nodes ++ nodes') := by
  intro slot
  simp only [List.filterMap_append, List.mem_append, h slot, h' slot, exists_or]
  tauto

theorem cons (h : Covers whole nodes) {node : BoundExpr} (hparent : node.parent? = none)
    (hattr : node.parentAttr? = none) : Covers whole (node :: nodes) := by
  intro slot
  rw [List.filterMap_cons_none hparent, List.filterMap_cons_none hattr]
  exact h slot

theorem ident (span : Option Span) (name : String) (b : Binding) : Covers (namedParent b) [.ident span name b] := by
  intro slot
  cases b <;> simp [namedParent, parent?, parentAttr?, eq_comm]

/-- An access to a parent of which there is one. -/
theorem access_single {object : BoundExpr} (h : isSingleParent object = true) (span : Option Span) (field : String)
    (safe : Bool) (default : Option BoundExpr) :
    Covers [] (.access span object field safe default :: object.nodes) := by
  unfold isSingleParent at h
  split at h
  · intro slot
    simp [Expr.nodes, parent?, parentAttr?, eq_comm]
  · cases h

end Covers

theorem parentAttr?_access {object : BoundExpr} (h : isSingleParent object = false) (span : Option Span)
    (field : String) (safe : Bool) (default : Option BoundExpr) :
    parentAttr? (.access span object field safe default) = none := by
  unfold parentAttr?
  split
  · next heq => cases heq
  · next heq => cases heq; cases h
  · rfl

mutual

theorem covers : ∀ x : BoundExpr, Covers (wholeReads x) x.nodes
  | .literal _ _ => by
    rw [wholeReads, Expr.nodes]
    exact Covers.nil.cons rfl rfl
  | .ident span name b => by
    rw [wholeReads, Expr.nodes]
    exact .ident span name b
  | .access span object field safe default => by
    rw [wholeReads, Expr.nodes]
    split
    · next hsingle =>
      exact (Covers.access_single hsingle span field safe default).append (coversDefault default)
    · next hnot =>
      exact ((covers object).append (coversDefault default)).cons rfl
        (parentAttr?_access (Bool.eq_false_iff.mpr hnot) span field safe default)
  | .index _ object key => by
    rw [wholeReads, Expr.nodes]
    exact ((covers object).append (covers key)).cons rfl rfl
  | .unary _ _ operand => by
    rw [wholeReads, Expr.nodes]
    exact (covers operand).cons rfl rfl
  | .binary _ _ left right => by
    rw [wholeReads, Expr.nodes]
    exact ((covers left).append (covers right)).cons rfl rfl
  | .conditional _ condition thenBranch elseBranch => by
    rw [wholeReads, Expr.nodes]
    exact (((covers condition).append (covers thenBranch)).append (covers elseBranch)).cons rfl rfl
  | .lambda _ _ body => by
    rw [wholeReads, Expr.nodes]
    exact (covers body).cons rfl rfl
  | .call _ _ _ args => by
    rw [wholeReads, Expr.nodes]
    exact (coversArgs args).cons rfl rfl

theorem coversDefault : ∀ default : Option BoundExpr, Covers (wholeReadsDefault default) (Expr.nodesDefault default)
  | none => by
    rw [wholeReadsDefault, Expr.nodesDefault]
    exact .nil
  | some e => by
    rw [wholeReadsDefault, Expr.nodesDefault]
    exact covers e

theorem coversArgs : ∀ args : List BoundExpr, Covers (wholeReadsArgs args) (Expr.nodesArgs args)
  | [] => by
    rw [wholeReadsArgs, Expr.nodesArgs]
    exact .nil
  | e :: es => by
    rw [wholeReadsArgs, Expr.nodesArgs]
    exact (covers e).append (coversArgs es)

end

/-- A parent that an expression reads is read as a whole or by an attribute. -/
theorem mem_parents_iff {x : BoundExpr} {slot : Nat} :
    slot ∈ x.nodes.filterMap parent? ↔ slot ∈ wholeReads x ∨ ∃ n, ReadsAttr x slot n := by
  rw [covers x slot]
  simp only [mem_parentAttrs_iff]

end BoundExpr

/-! ## Attributes -/

namespace Attribute

variable {a : Attribute BoundExpr} {x : BoundExpr} {slot : Nat} {n : String}

theorem mem_reads {r : Nat × Cause} (h : r ∈ a.reads) : ∃ field, r.2 = .reference a.name field := by
  rcases List.mem_append.mp h with h | h
  · obtain ⟨p, -, rfl⟩ := List.mem_map.mp h
    exact ⟨_, rfl⟩
  · obtain ⟨slot, -, rfl⟩ := List.mem_map.mp h
    exact ⟨_, rfl⟩

theorem mem_references_parentAttrs (h : a.expr = some x) :
    (slot, n) ∈ a.references.parentAttrs ↔ x.ReadsAttr slot n := by
  rw [references, h, ← BoundExpr.mem_parentAttrs_iff]
  exact Sorted.mem_ofList Sorted.eq_of_orderPair

theorem mem_references_parents (h : a.expr = some x) :
    slot ∈ a.references.parents ↔ slot ∈ x.wholeReads ∨ ∃ n, x.ReadsAttr slot n := by
  rw [references, h, ← BoundExpr.mem_parents_iff]
  exact Sorted.mem_ofList fun _ _ => Nat.compare_eq_eq.mp

theorem mem_reads_some (h : a.expr = some x) : (slot, .reference a.name (some n)) ∈ a.reads ↔ x.ReadsAttr slot n := by
  rw [← mem_references_parentAttrs h]
  simp [reads]

/-- A parent counts as read as a whole where no attribute of it is read. -/
theorem mem_reads_none (h : a.expr = some x) :
    (slot, .reference a.name none) ∈ a.reads ↔ slot ∈ x.wholeReads ∧ ∀ n, ¬ x.ReadsAttr slot n := by
  have hnone : (slot, .reference a.name none) ∈ a.reads ↔
      slot ∈ a.references.parents ∧ ∀ n, (slot, n) ∉ a.references.parentAttrs := by
    simp only [reads, List.mem_append, List.mem_map, List.mem_filter]
    constructor
    · rintro (⟨_, _, heq⟩ | ⟨_, ⟨hmem, hnot⟩, heq⟩)
      · cases heq
      · cases heq
        refine ⟨hmem, fun n hn => ?_⟩
        rw [Bool.not_eq_true', List.any_eq_false] at hnot
        exact hnot _ hn (beq_self_eq_true slot)
    · rintro ⟨hmem, hnot⟩
      refine .inr ⟨slot, ⟨hmem, ?_⟩, rfl⟩
      rw [Bool.not_eq_true', List.any_eq_false]
      rintro ⟨k, n⟩ hn hk
      exact hnot n (beq_iff_eq.mp hk ▸ hn)
  rw [hnone, mem_references_parents h]
  simp only [mem_references_parentAttrs h]
  constructor
  · rintro ⟨hread, hnot⟩
    refine ⟨hread.resolve_right ?_, hnot⟩
    rintro ⟨n, hn⟩
    exact hnot n hn
  · rintro ⟨hread, hnot⟩
    exact ⟨.inl hread, hnot⟩

end Attribute

/-! ## The graph -/

theorem Entity.parentCause_ne_reference (e : Entity BoundExpr) (p : Parent) {attr : String} {field : Option String} :
    e.parentCause p ≠ .reference attr field := by
  unfold parentCause
  split
  · nofun
  · split <;> nofun

section Drawn
variable {options : Options} {d : Document} {m : Model SourceExpr} {b : Model BoundExpr} {g : Graph} {i : Nat}
  {e : Entity BoundExpr}

theorem Drawn.attrs_nodup (h : Drawn options d m b g) (he : e ∈ b.entities) :
    (e.attributes.map Attribute.name).Nodup := by
  have hmem : e.mapExpr Expr.erase ∈ m.entities := by
    rw [← Model.resolve_erase h.resolve]
    exact List.mem_map_of_mem he
  rw [← Entity.mapExpr_names Expr.erase]
  exact Model.build_attrs_nodup h.build hmem

/-- The edges to a parent for an attribute are there for what the attribute is recorded to read of it. -/
theorem Drawn.mem_references (h : Drawn options d m b g) (he : b.entities[i]? = some e) {a : Attribute BoundExpr}
    (ha : a ∈ e.attributes) {slot : Nat} {p : Parent} (hp : e.parents[slot]? = some p) {field : Option String} :
    { source := i, target := p.entity, cause := .reference a.name field } ∈ g.edges ↔
      (slot, .reference a.name field) ∈ a.reads := by
  rw [Model.graph_eq_ok h.graph, Model.mem_edges]
  constructor
  · rintro ⟨k, e', he', hx⟩
    obtain rfl : i = k := (Entity.mem_edges hx).1
    obtain rfl := Option.some.inj (he.symm.trans he')
    rcases List.mem_append.mp hx with hx | hx
    · obtain ⟨q, -, heq⟩ := List.mem_map.mp hx
      exact absurd (congrArg Edge.cause heq) (Entity.parentCause_ne_reference e q)
    · obtain ⟨⟨slot', cause⟩, hr, hx⟩ := List.mem_filterMap.mp hx
      obtain ⟨q, hq, heq⟩ := Option.map_eq_some_iff.mp hx
      obtain ⟨a', ha', hr⟩ := List.mem_flatMap.mp hr
      -- The parents are distinct entities and the attributes have distinct names, so an edge tells both.
      obtain rfl : cause = .reference a.name field := congrArg Edge.cause heq
      obtain rfl : slot' = slot := place_eq_of_key_eq (h.parents_nodup he) hq hp (congrArg Edge.target heq)
      obtain ⟨field', hfield⟩ := Attribute.mem_reads hr
      have hname : a'.name = a.name := (Cause.reference.inj hfield).1.symm
      rwa [List.inj_on_of_nodup_map (h.attrs_nodup (List.mem_of_getElem? he)) ha' ha hname] at hr
  · intro hr
    refine ⟨i, e, he, List.mem_append_right _ (List.mem_filterMap.mpr ⟨_, List.mem_flatMap.mpr ⟨a, ha, hr⟩, ?_⟩)⟩
    rw [hp]
    rfl

end Drawn

/-- The edges of a graph for what a computed attribute reads of a parent. There is an edge for an attribute of the parent
exactly where the expression reads it. There is one for the parent as a whole exactly where the expression reads the
parent as a whole and reads none of its attributes. No edge is there twice. -/
theorem reference_edges {options : Options} {d : Document} {m : Model SourceExpr} {b : Model BoundExpr} {g : Graph}
    (h : Drawn options d m b g) {i : Nat} {e : Entity BoundExpr} (he : b.entities[i]? = some e)
    {a : Attribute BoundExpr} (ha : a ∈ e.attributes) {x : BoundExpr} (hx : a.expr = some x) {slot : Nat} {p : Parent}
    (hp : e.parents[slot]? = some p) :
    (∀ n, { source := i, target := p.entity, cause := .reference a.name (some n) } ∈ g.edges ↔ x.ReadsAttr slot n) ∧
    ({ source := i, target := p.entity, cause := .reference a.name none } ∈ g.edges ↔
      slot ∈ x.wholeReads ∧ ∀ n, ¬ x.ReadsAttr slot n) ∧
    g.edges.Nodup := by
  refine ⟨fun n => ?_, ?_, ?_⟩
  · rw [h.mem_references he ha hp, Attribute.mem_reads_some hx]
  · rw [h.mem_references he ha hp, Attribute.mem_reads_none hx]
  · rw [Model.graph_eq_ok h.graph]
    exact nodup_eraseDups _

/-- Slips for an order: one shows its note and all of it, the other all of it only. -/
def slips : Document :=
  { sources := [{ name := "shop" }]
    entities := [
      { name := "Order"
        source := some "shop"
        attributes := [{ name := "total" }, { name := "note", type := "string" }] },
      { name := "Slip"
        parents := [{ entity := "Order" }]
        attributes := [
          { name := "line", expr := some (.call none "concat" ()
            [.access none (.ident none "Order" ()) "note" false none,
              .call none "to_string" () [.ident none "Order" ()]]) },
          { name := "copy", expr := some (.call none "to_string" () [.ident none "Order" ()]) }] }] }

theorem slips_drawn : ∃ m b g e line copy x y p, Drawn {} slips m b g ∧ b.entities[1]? = some e ∧
    line ∈ e.attributes ∧ copy ∈ e.attributes ∧ line.expr = some x ∧ copy.expr = some y ∧ e.parents[0]? = some p ∧
    (line.name, copy.name, p.entity, x.wholeReads, g.edges) = ("line", "copy", 0, [0], [
      { source := 1, target := 0, cause := .parent },
      { source := 1, target := 0, cause := .reference "line" (some "note") },
      { source := 1, target := 0, cause := .reference "copy" none }]) := by
  have hdrawn : ((Model.build {} slips).toOption.bind fun m => m.resolve.toOption.bind fun b =>
      b.graph.toOption.bind fun g => (b.entities[1]?).bind fun e => (e.attributes[0]?).bind fun line =>
        (e.attributes[1]?).bind fun copy => line.expr.bind fun x => copy.expr.bind fun _ => (e.parents[0]?).map fun p =>
          (line.name, copy.name, p.entity, x.wholeReads, g.edges)) = some ("line", "copy", 0, [0], [
            { source := 1, target := 0, cause := .parent },
            { source := 1, target := 0, cause := .reference "line" (some "note") },
            { source := 1, target := 0, cause := .reference "copy" none }]) := by decide +kernel
  obtain ⟨m, hm, h⟩ := Option.bind_eq_some_iff.mp hdrawn
  obtain ⟨b, hb, h⟩ := Option.bind_eq_some_iff.mp h
  obtain ⟨g, hg, h⟩ := Option.bind_eq_some_iff.mp h
  obtain ⟨e, he, h⟩ := Option.bind_eq_some_iff.mp h
  obtain ⟨line, hline, h⟩ := Option.bind_eq_some_iff.mp h
  obtain ⟨copy, hcopy, h⟩ := Option.bind_eq_some_iff.mp h
  obtain ⟨x, hx, h⟩ := Option.bind_eq_some_iff.mp h
  obtain ⟨y, hy, h⟩ := Option.bind_eq_some_iff.mp h
  obtain ⟨p, hp, h⟩ := Option.map_eq_some_iff.mp h
  exact ⟨m, b, g, e, line, copy, x, y, p,
    ⟨toOption_eq_some.mp hm, toOption_eq_some.mp hb, toOption_eq_some.mp hg⟩, he, List.mem_of_getElem? hline,
    List.mem_of_getElem? hcopy, hx, hy, hp, h⟩

/-- One slip reads the note of the order. The other reads the order as a whole, and no attribute of it. -/
theorem slips_edges : ∃ m b g e line copy x y, Drawn {} slips m b g ∧ b.entities[1]? = some e ∧
    line ∈ e.attributes ∧ copy ∈ e.attributes ∧ line.expr = some x ∧ copy.expr = some y ∧
    x.ReadsAttr 0 "note" ∧ 0 ∈ y.wholeReads ∧ (∀ n, ¬ y.ReadsAttr 0 n) := by
  obtain ⟨m, b, g, e, line, copy, x, y, p, hdrawn, he, hline, hcopy, hx, hy, hp, heq⟩ := slips_drawn
  simp only [Prod.mk.injEq] at heq
  obtain ⟨hlineName, hcopyName, hentity, -, hedges⟩ := heq
  obtain ⟨hsome, -, -⟩ := reference_edges hdrawn he hline hx hp
  obtain ⟨-, hnone, -⟩ := reference_edges hdrawn he hcopy hy hp
  obtain ⟨hwhole, hnot⟩ := hnone.mp (by rw [hedges, hentity, hcopyName]; decide)
  exact ⟨m, b, g, e, line, copy, x, y, hdrawn, he, hline, hcopy, hx, hy,
    (hsome "note").mp (by rw [hedges, hentity, hlineName]; decide), hwhole, hnot⟩

/-- The first slip reads the order as a whole as well, for which there is no edge. -/
theorem slip_line_whole_without_edge : ∃ m b g e line x p, Drawn {} slips m b g ∧ b.entities[1]? = some e ∧
    line ∈ e.attributes ∧ line.expr = some x ∧ e.parents[0]? = some p ∧ 0 ∈ x.wholeReads ∧
    { source := 1, target := p.entity, cause := .reference line.name none } ∉ g.edges := by
  obtain ⟨m, b, g, e, line, _, x, _, p, hdrawn, he, hline, -, hx, -, hp, heq⟩ := slips_drawn
  simp only [Prod.mk.injEq] at heq
  obtain ⟨hlineName, -, hentity, hwhole, hedges⟩ := heq
  refine ⟨m, b, g, e, line, x, p, hdrawn, he, hline, hx, hp, ?_, ?_⟩
  · rw [hwhole]
    exact List.mem_singleton_self 0
  · rw [hedges, hentity, hlineName]
    decide

end Tributary
