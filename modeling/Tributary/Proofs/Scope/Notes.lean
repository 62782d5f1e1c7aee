import Tributary.Proofs.Plan.Stages

/-!
# References noted while names are bound

The references of an expression can be noted one by one while its names are bound: at each name that is found, at each
field that is read off a single parent, and at each builtin. The notes of a bound expression are its references.

* `Note` : one thing that is read; `References.note` : putting it among the references;
* `References.ofNotes_congr` : only what is noted counts, not how often and in which order;
* `Scope.bindNoting` : binding names with the references at hand;
* `bindNoting_eq` : it gives the bound expression, with its own references added to those at hand;
* `resolveAttr_references` : the references of an attribute are those noted while its expression was bound.
-/

namespace Tributary

inductive Note where
  | sibling (slot : Nat)
  | parent (slot : Nat)
  | parentAttr (slot : Nat) (attr : String)
  | param (slot : Nat)
  | builtin (name : String)

namespace Note

def sibling? : Note → Option Nat
  | sibling slot => some slot
  | _ => none

def parent? : Note → Option Nat
  | parent slot => some slot
  | _ => none

def parentAttr? : Note → Option (Nat × String)
  | parentAttr slot attr => some (slot, attr)
  | _ => none

def param? : Note → Option Nat
  | param slot => some slot
  | _ => none

def builtin? : Note → Option String
  | builtin name => some name
  | _ => none

end Note

/-! ## References as sets of notes -/

namespace References

def note (n : Note) (r : References) : References :=
  match n with
  | .sibling slot => { r with siblings := Sorted.insert compare slot r.siblings }
  | .parent slot => { r with parents := Sorted.insert compare slot r.parents }
  | .parentAttr slot attr =>
    { r with parentAttrs := Sorted.insert (Sorted.orderPair compare compare) (slot, attr) r.parentAttrs }
  | .param slot => { r with params := Sorted.insert compare slot r.params }
  | .builtin name => { r with builtins := Sorted.insert compare name r.builtins }

def noteAll (ns : List Note) (r : References) : References := ns.foldr note r

def ofNotes (ns : List Note) : References := noteAll ns {}

theorem noteAll_ofNotes (ns ms : List Note) : noteAll ns (ofNotes ms) = ofNotes (ns ++ ms) := by
  rw [ofNotes, ofNotes, noteAll, noteAll, noteAll, List.foldr_append]

theorem ofNotes_eq (ns : List Note) : ofNotes ns =
    { siblings := Sorted.ofList compare (ns.filterMap Note.sibling?)
      parents := Sorted.ofList compare (ns.filterMap Note.parent?)
      parentAttrs := Sorted.ofList (Sorted.orderPair compare compare) (ns.filterMap Note.parentAttr?)
      params := Sorted.ofList compare (ns.filterMap Note.param?)
      builtins := Sorted.ofList compare (ns.filterMap Note.builtin?) } := by
  induction ns with
  | nil => rfl
  | cons n ns ih =>
    show note n (ofNotes ns) = _
    rw [ih]
    cases n <;> rfl

/-- Only what is noted counts. -/
theorem ofNotes_congr {ns ms : List Note} (h : ∀ n, n ∈ ns ↔ n ∈ ms) : ofNotes ns = ofNotes ms := by
  have hmem {α : Type} (f : Note → Option α) (a : α) : a ∈ ns.filterMap f ↔ a ∈ ms.filterMap f := by
    simp only [List.mem_filterMap, h]
  simp only [ofNotes_eq, References.mk.injEq]
  refine ⟨?_, ?_, ?_, ?_, ?_⟩
  · exact Sorted.ofList_congr (fun _ _ => Std.LawfulEqCmp.eq_of_compare) (hmem _)
  · exact Sorted.ofList_congr (fun _ _ => Std.LawfulEqCmp.eq_of_compare) (hmem _)
  · exact Sorted.ofList_congr Sorted.eq_of_orderPair (hmem _)
  · exact Sorted.ofList_congr (fun _ _ => Std.LawfulEqCmp.eq_of_compare) (hmem _)
  · exact Sorted.ofList_congr (fun _ _ => Std.LawfulEqCmp.eq_of_compare) (hmem _)

end References

def Binding.notes : Binding → List Note
  | .lambdaParam _ => []
  | .attr slot => [.sibling slot]
  | .parent slot _ _ => [.parent slot]
  | .parentAttr slot _ name => [.parent slot, .parentAttr slot name]
  | .param slot => [.param slot]

namespace BoundExpr

/-- What a node reads by itself. -/
def ownNotes : BoundExpr → List Note
  | .ident _ _ b => b.notes
  | .access _ (.ident _ _ (.parent slot _ .one)) field _ _ => [.parentAttr slot field]
  | .call _ _ b _ => [.builtin b.name]
  | _ => []

def notes (e : BoundExpr) : List Note := e.nodes.flatMap ownNotes

theorem filterMap_ownNotes (e : BoundExpr) : e.ownNotes.filterMap Note.sibling? = e.sibling?.toList ∧
    e.ownNotes.filterMap Note.parent? = e.parent?.toList ∧
    e.ownNotes.filterMap Note.parentAttr? = e.parentAttr?.toList ∧
    e.ownNotes.filterMap Note.param? = e.param?.toList ∧ e.ownNotes.filterMap Note.builtin? = e.builtin?.toList := by
  cases e with
  | ident span name b => cases b <;> exact ⟨rfl, rfl, rfl, rfl, rfl⟩
  | access span object field safe default =>
    cases object with
    | ident span name b =>
      cases b with
      | parent slot name multiplicity => cases multiplicity <;> exact ⟨rfl, rfl, rfl, rfl, rfl⟩
      | _ => exact ⟨rfl, rfl, rfl, rfl, rfl⟩
    | _ => exact ⟨rfl, rfl, rfl, rfl, rfl⟩
  | _ => exact ⟨rfl, rfl, rfl, rfl, rfl⟩

theorem filterMap_notes {α : Type} {f : Note → Option α} {g : BoundExpr → Option α}
    (h : ∀ e : BoundExpr, e.ownNotes.filterMap f = (g e).toList) (e : BoundExpr) :
    e.notes.filterMap f = e.nodes.filterMap g := by
  rw [notes, List.filterMap_flatMap, List.filterMap_eq_flatMap_toList, funext h]

theorem ofNotes_notes (e : BoundExpr) : References.ofNotes e.notes = e.references := by
  rw [References.ofNotes_eq, references, filterMap_notes fun e => e.filterMap_ownNotes.1,
    filterMap_notes fun e => e.filterMap_ownNotes.2.1, filterMap_notes fun e => e.filterMap_ownNotes.2.2.1,
    filterMap_notes fun e => e.filterMap_ownNotes.2.2.2.1, filterMap_notes fun e => e.filterMap_ownNotes.2.2.2.2]

end BoundExpr

/-! ## Binding with references at hand -/

namespace Scope

def fieldNotes (s : Scope) (object : Checked BoundExpr) (field : String) : List Note :=
  match object with
  | .ok (.ident _ _ (.parent slot _ .one)) =>
    if (s.parents[slot]?).any fun p => p.attrs.contains field then [.parentAttr slot field] else []
  | _ => []

open Checked

mutual

def bindNoting (s : Scope) (locals : List String) : SourceExpr → References → Checked BoundExpr × References
  | .literal span v, r => (.ok (.literal span v), r)
  | .ident span name _, r =>
    let found := s.lookup locals name
    ((s.settle span found).map fun b => .ident span name b, r.noteAll (found.toOption.elim [] Binding.notes))
  | .access span object field safe default, r =>
    let object' := bindNoting s locals object r
    let default' := bindDefaultNoting s locals default object'.2
    (zipWith (fun p _ => .access span p.1 field safe p.2) (both object'.1 default'.1)
      (s.settle span (s.checkField object'.1 field)), default'.2.noteAll (s.fieldNotes object'.1 field))
  | .index span object key, r =>
    let object' := bindNoting s locals object r
    let key' := bindNoting s locals key object'.2
    (zipWith (.index span) object'.1 key'.1, key'.2)
  | .unary span op operand, r =>
    let operand' := bindNoting s locals operand r
    (operand'.1.map (.unary span op), operand'.2)
  | .binary span op left right, r =>
    let left' := bindNoting s locals left r
    let right' := bindNoting s locals right left'.2
    (zipWith (.binary span op) left'.1 right'.1, right'.2)
  | .conditional span condition thenBranch elseBranch, r =>
    let condition' := bindNoting s locals condition r
    let then' := bindNoting s locals thenBranch condition'.2
    let else' := bindNoting s locals elseBranch then'.2
    (zipWith (fun c p => .conditional span c p.1 p.2) condition'.1 (both then'.1 else'.1), else'.2)
  | .lambda span params body, r =>
    let body' := bindNoting s (locals ++ params) body r
    (body'.1.map (.lambda span params), body'.2)
  | .call span name _ args, r =>
    let found := function name
    let args' := bindArgsNoting s locals args (r.noteAll (found.toOption.elim [] fun b => [.builtin b.name]))
    (zipWith (.call span name) (s.settle span found) args'.1, args'.2)

def bindDefaultNoting (s : Scope) (locals : List String) :
    Option SourceExpr → References → Checked (Option BoundExpr) × References
  | none, r => (.ok none, r)
  | some e, r =>
    let e' := bindNoting s locals e r
    (e'.1.map some, e'.2)

def bindArgsNoting (s : Scope) (locals : List String) :
    List SourceExpr → References → Checked (List BoundExpr) × References
  | [], r => (.ok [], r)
  | e :: es, r =>
    let e' := bindNoting s locals e r
    let es' := bindArgsNoting s locals es e'.2
    (zipWith List.cons e'.1 es'.1, es'.2)

end

end Scope

section Noting
variable {s : Scope}

theorem fieldNotes_eq {o : BoundExpr} {field : String} (h : s.checkField (.ok o) field = .ok ()) (span : Option Span)
    (safe : Bool) (d : Option BoundExpr) :
    s.fieldNotes (.ok o) field = BoundExpr.ownNotes (.access span o field safe d) := by
  cases o with
  | ident span name b =>
    cases b with
    | parent slot name multiplicity =>
      cases multiplicity with
      | one =>
        rw [Scope.checkField] at h
        split at h
        · next hfield => exact if_pos hfield
        · cases h
      | many => rfl
    | _ => rfl
  | _ => rfl

open References

/-- Notes of the parts of an expression, whichever are taken first, are notes of the expression. -/
theorem ofNotes_parts {e : BoundExpr} {xs ys : List BoundExpr} (h : e.nodes = e :: (xs ++ ys)) (ns : List Note) :
    ofNotes (e.ownNotes ++ (ys.flatMap BoundExpr.ownNotes ++ (xs.flatMap BoundExpr.ownNotes ++ ns))) =
      ofNotes (e.notes ++ ns) := by
  refine ofNotes_congr fun n => ?_
  simp only [BoundExpr.notes, h, List.flatMap_cons, List.flatMap_append, List.mem_append]
  grind

mutual

/-- Binding with references at hand gives the bound expression and adds its notes. -/
theorem bindNoting_ofNotes : ∀ (e : SourceExpr) {L : List String} {b : BoundExpr} (ns : List Note),
    s.bind L e = .ok b → s.bindNoting L e (ofNotes ns) = (.ok b, ofNotes (b.notes ++ ns))
  | .literal _ _, L, b, ns, h => by
    rw [Scope.bind] at h
    cases h
    rfl
  | .ident span name u, L, b, ns, h => by
    obtain ⟨x, hx, rfl⟩ := bind_ident h
    rw [Scope.bindNoting, hx, noteAll_ofNotes]
    exact congrArg (fun own => (_, ofNotes (own ++ ns))) (List.append_nil x.notes).symm
  | .access span object field safe default, L, b, ns, h => by
    obtain ⟨o, d, ho, hd, hcheck, rfl⟩ := bind_access h
    rw [Scope.bindNoting, bindNoting_ofNotes object ns ho, bindDefaultNoting_ofNotes default _ hd]
    dsimp only
    rw [hcheck, fieldNotes_eq hcheck span safe d, noteAll_ofNotes]
    exact congrArg (Prod.mk _) (ofNotes_parts (by rw [Expr.nodes]) ns)
  | .index span object key, L, b, ns, h => by
    obtain ⟨o, k, ho, hk, rfl⟩ := bind_index h
    rw [Scope.bindNoting, bindNoting_ofNotes object ns ho, bindNoting_ofNotes key _ hk]
    exact congrArg (Prod.mk _) (ofNotes_parts (e := .index span o k) (by rw [Expr.nodes]) ns)
  | .unary span op operand, L, b, ns, h => by
    obtain ⟨o, ho, rfl⟩ := bind_unary h
    rw [Scope.bindNoting, bindNoting_ofNotes operand ns ho]
    rfl
  | .binary span op left right, L, b, ns, h => by
    obtain ⟨l, r, hl, hr, rfl⟩ := bind_binary h
    rw [Scope.bindNoting, bindNoting_ofNotes left ns hl, bindNoting_ofNotes right _ hr]
    exact congrArg (Prod.mk _) (ofNotes_parts (e := .binary span op l r) (by rw [Expr.nodes]) ns)
  | .conditional span condition thenBranch elseBranch, L, b, ns, h => by
    obtain ⟨c, t, f, hc, ht, hf, rfl⟩ := bind_conditional h
    rw [Scope.bindNoting, bindNoting_ofNotes condition ns hc, bindNoting_ofNotes thenBranch _ ht,
      bindNoting_ofNotes elseBranch _ hf]
    refine congrArg (Prod.mk _) ((ofNotes_congr fun n => ?_).trans (ofNotes_parts (by rw [Expr.nodes]) ns))
    simp only [BoundExpr.notes, BoundExpr.ownNotes, List.flatMap_append, List.mem_append, List.not_mem_nil]
    grind
  | .lambda span params body, L, b, ns, h => by
    obtain ⟨y, hy, rfl⟩ := bind_lambda h
    rw [Scope.bindNoting, bindNoting_ofNotes body ns hy]
    rfl
  | .call span name u args, L, b, ns, h => by
    obtain ⟨f, bs, hf, hbs, rfl⟩ := bind_call h
    rw [Scope.bindNoting, Scope.function_eq_ok.mpr hf, noteAll_ofNotes, bindArgsNoting_ofNotes args _ hbs]
    refine congrArg (Prod.mk _) (ofNotes_congr fun n => ?_)
    simp only [BoundExpr.notes, BoundExpr.ownNotes, Expr.nodes, List.flatMap_cons, List.mem_append, or_assoc]
    exact or_left_comm

theorem bindDefaultNoting_ofNotes : ∀ (default : Option SourceExpr) {L : List String} {d : Option BoundExpr}
    (ns : List Note), s.bindDefault L default = .ok d → s.bindDefaultNoting L default (ofNotes ns) =
      (.ok d, ofNotes ((Expr.nodesDefault d).flatMap BoundExpr.ownNotes ++ ns))
  | none, L, d, ns, h => by
    rw [Scope.bindDefault] at h
    cases h
    rfl
  | some e, L, d, ns, h => by
    rw [Scope.bindDefault] at h
    obtain ⟨b, hb, rfl⟩ := map_eq_ok.mp h
    rw [Scope.bindDefaultNoting, bindNoting_ofNotes e ns hb]
    rfl

theorem bindArgsNoting_ofNotes : ∀ (args : List SourceExpr) {L : List String} {bs : List BoundExpr} (ns : List Note),
    s.bindArgs L args = .ok bs → s.bindArgsNoting L args (ofNotes ns) =
      (.ok bs, ofNotes ((Expr.nodesArgs bs).flatMap BoundExpr.ownNotes ++ ns))
  | [], L, bs, ns, h => by
    rw [Scope.bindArgs] at h
    cases h
    rfl
  | arg :: args, L, bs, ns, h => by
    obtain ⟨b, bs, hb, hbs, rfl⟩ := bindArgs_cons h
    rw [Scope.bindArgsNoting, bindNoting_ofNotes arg ns hb, bindArgsNoting_ofNotes args _ hbs]
    refine congrArg (Prod.mk _) (ofNotes_congr fun n => ?_)
    simp only [BoundExpr.notes, Expr.nodesArgs, List.flatMap_append, List.mem_append, or_assoc]
    exact or_left_comm

end

/-- What is noted from the start while an expression is bound is its references. -/
theorem bindNoting_eq {e : SourceExpr} {L : List String} {b : BoundExpr} (h : s.bind L e = .ok b) :
    s.bindNoting L e {} = (.ok b, b.references) := by
  rw [← b.ofNotes_notes, ← List.append_nil b.notes]
  exact bindNoting_ofNotes e [] h

end Noting

/-- The references of an attribute are those noted while its expression was bound. -/
theorem resolveAttr_references {m : Model SourceExpr} {i j : Nat} {e : Entity SourceExpr} {a : Attribute SourceExpr}
    {a' : Attribute BoundExpr} (h : m.resolveAttr (m.visibleParams i) e a j = .ok a') {x : SourceExpr}
    (hx : a.expr = some x) : ((m.attrScope e i a j).bindNoting [] x {}).2 = a'.references := by
  unfold Model.resolveAttr at h
  rw [hx] at h
  obtain ⟨b, hb, rfl⟩ := map_eq_ok.mp h
  exact congrArg Prod.snd (bindNoting_eq hb)

end Tributary
