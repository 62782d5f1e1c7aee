import Tributary.Proofs.Model.WellFormed
import Tributary.Proofs.Scope.Meaning
import Tributary.Proofs.Typing.Faults

/-!
# Binding reports every bad use of a name

An expression uses names in three ways: it reads what a name means, it calls a function, and it reads a field directly
off what a name means. A model binds if every such use is good, and otherwise there is one diagnostic for each use that
is not, in the order in which expressions are read.

* `Use` : a use of a name; `Expr.uses`, `Model.uses` : the uses of an expression and of a model, in order;
* `Use.IsBound u s` : a use is good; `Use.Reports u s d` : a diagnostic is about a use that is not;
* `Checked.Tells c us` : a check succeeds or fails with a diagnostic for each bad use;
* `Scope.bind_tells` : binding an expression is such a check;
* `Use.Annotates s u v` : a use is bound to what its name means; `Scope.bind_annotates` : those of a bound expression;
* `resolve_reports_uses` : binding a model.
-/

namespace Tributary

inductive Use (ι κ : Type) where
  /-- A name, under the parameters of the enclosing lambdas. -/
  | name (span : Option Span) (locals : List String) (name : String) (binding : ι)
  /-- The function of a call. -/
  | function (span : Option Span) (name : String) (target : κ)
  /-- A field that is read directly off a name. -/
  | field (span : Option Span) (locals : List String) (object : String) (binding : ι) (field : String)
deriving DecidableEq, Repr

namespace Expr

variable {ι κ : Type}

/-- The use of a field of an object, if the object is a name. -/
def fieldUses (span : Option Span) (locals : List String) (field : String) : Expr ι κ → List (Use ι κ)
  | ident _ name x => [.field span locals name x field]
  | _ => []

mutual

/-- The uses of names in an expression, from left to right. A function is used before the arguments of its call, and a
field after its object and its default. -/
def uses (locals : List String) : Expr ι κ → List (Use ι κ)
  | literal _ _ => []
  | ident span name x => [.name span locals name x]
  | access span object field _ default =>
    uses locals object ++ usesDefault locals default ++ object.fieldUses span locals field
  | index _ object key => uses locals object ++ uses locals key
  | unary _ _ operand => uses locals operand
  | binary _ _ left right => uses locals left ++ uses locals right
  | conditional _ condition thenBranch elseBranch =>
    uses locals condition ++ (uses locals thenBranch ++ uses locals elseBranch)
  | lambda _ params body => uses (locals ++ params) body
  | call span name f args => .function span name f :: usesArgs locals args

def usesDefault (locals : List String) : Option (Expr ι κ) → List (Use ι κ)
  | none => []
  | some e => uses locals e

def usesArgs (locals : List String) : List (Expr ι κ) → List (Use ι κ)
  | [] => []
  | e :: es => uses locals e ++ usesArgs locals es

end

end Expr

/-- The uses of names in a model, each in its scope: entity by entity and attribute by attribute. -/
def Model.uses {ι κ : Type} (m : Model (Expr ι κ)) : List (Scope × Use ι κ) :=
  m.entities.zipIdx.flatMap fun p => p.1.attributes.zipIdx.flatMap fun q =>
    (q.1.expr.elim [] (Expr.uses [])).map (Prod.mk (m.attrScope p.1 p.2 q.1 q.2))

namespace Use

variable {ι κ : Type}

def span : Use ι κ → Option Span
  | name span _ _ _ | function span _ _ | field span _ _ _ _ => span

/-- A name means something, a function is a builtin, and a field of a single parent is one of its attributes. -/
def IsBound (s : Scope) : Use ι κ → Prop
  | name _ locals n _ => ∃ x, s.Means locals n x
  | function _ n _ => ∃ f : Builtin, f.name = n
  | field _ locals object _ f => ∀ slot parent, s.Means locals object (.parent slot parent .one) →
      ∃ p, s.parents[slot]? = some p ∧ f ∈ p.attrs

def Fails (s : Scope) : Use ι κ → ProblemKind → Prop
  | name _ _ n _, kind => s.Misses n kind
  | function _ _ _, kind | field _ _ _ _ _, kind => kind = .unresolvedReference

/-- A diagnostic is about a use: it has its kind, and its place or else that of the attribute. -/
structure Reports (u : Use ι κ) (s : Scope) (d : Diagnostic) : Prop where
  entity : d.entity = some s.place.entity
  attr : d.attr = some s.place.attr
  span : d.span = u.span.or s.place.span
  kind : u.Fails s d.problem.kind

/-- A use is bound to what its name means. -/
inductive Annotates (s : Scope) : Use ι κ → Use Binding Builtin → Prop where
  | name {span locals n i x} (h : s.Means locals n x) : Annotates s (.name span locals n i) (.name span locals n x)
  | function {span n k f} (h : f.name = n) : Annotates s (.function span n k) (.function span n f)
  | field {span locals o i x field} (h : s.Means locals o x) :
      Annotates s (.field span locals o i field) (.field span locals o x field)

end Use

section
variable {ι κ : Type}

open Classical in
/-- The bad uses among some, in order. -/
noncomputable def badUses (us : List (Scope × Use ι κ)) : List (Scope × Use ι κ) := us.filter fun u => ¬ u.2.IsBound u.1

theorem badUses_append (us vs : List (Scope × Use ι κ)) : badUses (us ++ vs) = badUses us ++ badUses vs :=
  List.filter_append _ _

theorem badUses_eq_nil {us : List (Scope × Use ι κ)} : badUses us = [] ↔ ∀ u ∈ us, u.2.IsBound u.1 := by
  simp [badUses]

def Reported (us : List (Scope × Use ι κ)) (ds : List Diagnostic) : Prop :=
  List.Forall₂ (fun u d => u.2.Reports u.1 d) (badUses us) ds

namespace Checked

variable {α β γ : Type} {us vs : List (Scope × Use ι κ)}

/-- A check succeeds if all uses are good, and fails with one diagnostic for each that is bad. -/
structure Tells (c : Checked α) (us : List (Scope × Use ι κ)) : Prop where
  reported : Reported us c.diagnostics
  succeeds : c.diagnostics = [] → ∃ a, c = .ok a

theorem Tells.ok (a : α) : Tells (.ok a) ([] : List (Scope × Use ι κ)) := ⟨.nil, fun _ => ⟨a, rfl⟩⟩

theorem Tells.map {c : Checked α} (h : c.Tells us) (f : α → β) : Tells (c.map f) us where
  reported := by
    rw [diagnostics_map]
    exact h.reported
  succeeds := by
    rw [diagnostics_map]
    intro hnil
    obtain ⟨a, rfl⟩ := h.succeeds hnil
    exact ⟨f a, rfl⟩

theorem Tells.both {a : Checked α} {b : Checked β} (ha : a.Tells us) (hb : b.Tells vs) :
    (both a b).Tells (us ++ vs) where
  reported := by
    rw [Reported, badUses_append, diagnostics_both]
    exact List.rel_append ha.reported hb.reported
  succeeds := by
    rw [diagnostics_both, List.append_eq_nil_iff]
    rintro ⟨hnil, hnil'⟩
    obtain ⟨x, rfl⟩ := ha.succeeds hnil
    obtain ⟨y, rfl⟩ := hb.succeeds hnil'
    exact ⟨(x, y), rfl⟩

theorem Tells.zipWith {a : Checked α} {b : Checked β} (ha : a.Tells us) (hb : b.Tells vs) (f : α → β → γ) :
    (zipWith f a b).Tells (us ++ vs) :=
  (ha.both hb).map _

theorem Tells.each {f : α → Checked β} {g : α → List (Scope × Use ι κ)} :
    ∀ {as : List α}, (∀ a ∈ as, (f a).Tells (g a)) → (each f as).Tells (as.flatMap g)
  | [], _ => .ok []
  | a :: _, h => (h a List.mem_cons_self).zipWith (Tells.each fun b hb => h b (List.mem_cons_of_mem a hb)) List.cons

theorem Tells.eq_ok_iff {c : Checked α} (h : c.Tells us) : (∃ a, c = .ok a) ↔ ∀ u ∈ us, u.2.IsBound u.1 := by
  have hlength := h.reported.length_eq
  rw [← badUses_eq_nil, ← List.length_eq_zero_iff, hlength, List.length_eq_zero_iff]
  exact ⟨fun ⟨a, ha⟩ => ha ▸ rfl, h.succeeds⟩

/-- A look-up for one use tells whether it is good. -/
theorem Tells.settle {s : Scope} {u : Use ι κ} {x : Except Problem α} (hok : ∀ a, x = .ok a → u.IsBound s)
    (herror : ∀ p, x = .error p → ¬ u.IsBound s ∧ u.Fails s p.kind) : (s.settle u.span x).Tells [(s, u)] := by
  cases x with
  | ok a =>
    have hnil : badUses [(s, u)] = [] := badUses_eq_nil.mpr fun v hv => List.mem_singleton.mp hv ▸ hok a rfl
    exact ⟨by rw [Reported, hnil]; exact .nil, fun _ => ⟨a, rfl⟩⟩
  | error p =>
    obtain ⟨hbad, hfails⟩ := herror p rfl
    have hone : badUses [(s, u)] = [(s, u)] := by simp [badUses, hbad]
    refine ⟨?_, fun hnil => by cases hnil⟩
    rw [Reported, hone]
    exact .cons ⟨rfl, rfl, rfl, hfails⟩ .nil

end Checked

end

/-! ## Expressions -/

namespace Scope

open Checked

variable {s : Scope} {L : List String}

theorem lookup_tells (h : s.Distinct) (span : Option Span) (name : String) :
    (s.settle span (s.lookup L name)).Tells [(s, (Use.name span L name () : Use Unit Unit))] := by
  refine Tells.settle (u := .name span L name ()) (fun x hx => ⟨x, (lookup_eq_ok h).mp hx⟩) fun p hp => ⟨?_, ?_⟩
  · rintro ⟨x, hx⟩
    rw [(lookup_eq_ok h).mpr hx] at hp
    cases hp
  · exact lookup_misses hp

theorem name_of_function {name : String} {f : Builtin} (h : function name = .ok f) : f.name = name := by
  have hfound := List.find?_some (function_eq_ok.mp h)
  exact beq_iff_eq.mp hfound

theorem function_tells (span : Option Span) (name : String) :
    (s.settle span (function name)).Tells [(s, (Use.function span name () : Use Unit Unit))] := by
  refine Tells.settle (u := .function span name ()) (fun f hf => ⟨f, name_of_function hf⟩) fun p hp => ⟨?_, ?_⟩
  · rintro ⟨f, rfl⟩
    rw [function, Builtin.ofName?_name] at hp
    cases hp
  · unfold function at hp
    split at hp
    · cases hp
    · cases hp
      rfl

theorem checkField_of_ne_ident {object : Checked BoundExpr} (h : ∀ span name x, object ≠ .ok (.ident span name x))
    (field : String) : s.checkField object field = .ok () := by
  unfold checkField
  split
  · exact absurd rfl (h _ _ _)
  · rfl

/-- The check of a field tells about the use of a field of a name. -/
theorem checkField_ident_tells (h : s.Distinct) (span span' : Option Span) (object field : String) :
    (s.settle span (s.checkField (s.bind L (.ident span' object ())) field)).Tells
      [(s, (Use.field span L object () field : Use Unit Unit))] := by
  refine Tells.settle (u := .field span L object () field) (fun _ hok slot parent hmeans => ?_) fun p herror => ?_
  · rw [bind, (lookup_eq_ok h).mpr hmeans] at hok
    change (if (s.parents[slot]?).any _ then _ else _) = _ at hok
    split at hok
    · next hany =>
      obtain ⟨p, hp, hfield⟩ := (Option.any_eq_true _ _).mp hany
      exact ⟨p, hp, List.contains_iff_mem.mp hfield⟩
    · cases hok
  · unfold checkField at herror
    split at herror
    · next hbind =>
      obtain ⟨_, heq, hlookup⟩ := bind_eq_ident hbind
      cases heq
      split at herror
      · cases herror
      · next hany =>
        cases herror
        refine ⟨fun hbound => hany ?_, rfl⟩
        obtain ⟨p, hp, hfield⟩ := hbound _ _ ((lookup_eq_ok h).mp hlookup)
        exact (Option.any_eq_true _ _).mpr ⟨p, hp, List.contains_iff_mem.mpr hfield⟩
    · cases herror

theorem checkField_tells (h : s.Distinct) (span : Option Span) (field : String) (object : SourceExpr) :
    (s.settle span (s.checkField (s.bind L object) field)).Tells ((object.fieldUses span L field).map (Prod.mk s)) := by
  cases object with
  | ident span' name _ => exact checkField_ident_tells h span span' name field
  | literal | access | index | unary | binary | conditional | lambda | call =>
    -- Only a name is bound to a name, so for the rest there is nothing to check.
    rw [checkField_of_ne_ident]
    · exact .ok ()
    · intro span' name x hbind
      obtain ⟨u, heq, -⟩ := bind_eq_ident hbind
      cases heq

mutual

/-- Binding an expression tells about the uses of names in it. -/
theorem bind_tells (h : s.Distinct) : ∀ (e : SourceExpr) (L : List String),
    (s.bind L e).Tells ((e.uses L).map (Prod.mk s))
  | .literal _ _, L => by
    rw [bind, Expr.uses]
    exact .ok _
  | .ident span name _, L => by
    rw [bind, Expr.uses]
    exact (lookup_tells h span name).map _
  | .access span object field _ default, L => by
    rw [bind, Expr.uses, List.map_append, List.map_append]
    have hparts := (bind_tells h object L).both (bindDefault_tells h default L)
    exact hparts.zipWith (checkField_tells h span field object) _
  | .index _ object key, L => by
    rw [bind, Expr.uses, List.map_append]
    exact (bind_tells h object L).zipWith (bind_tells h key L) _
  | .unary _ _ operand, L => by
    rw [bind, Expr.uses]
    exact (bind_tells h operand L).map _
  | .binary _ _ left right, L => by
    rw [bind, Expr.uses, List.map_append]
    exact (bind_tells h left L).zipWith (bind_tells h right L) _
  | .conditional _ condition thenBranch elseBranch, L => by
    rw [bind, Expr.uses, List.map_append, List.map_append]
    exact (bind_tells h condition L).zipWith ((bind_tells h thenBranch L).both (bind_tells h elseBranch L)) _
  | .lambda _ params body, L => by
    rw [bind, Expr.uses]
    exact (bind_tells h body (L ++ params)).map _
  | .call span name _ args, L => by
    rw [bind, Expr.uses]
    exact (function_tells span name).zipWith (bindArgs_tells h args L) _

theorem bindDefault_tells (h : s.Distinct) : ∀ (default : Option SourceExpr) (L : List String),
    (s.bindDefault L default).Tells ((Expr.usesDefault L default).map (Prod.mk s))
  | none, L => by
    rw [bindDefault, Expr.usesDefault]
    exact .ok none
  | some e, L => by
    rw [bindDefault, Expr.usesDefault]
    exact (bind_tells h e L).map some

theorem bindArgs_tells (h : s.Distinct) : ∀ (args : List SourceExpr) (L : List String),
    (s.bindArgs L args).Tells ((Expr.usesArgs L args).map (Prod.mk s))
  | [], L => by
    rw [bindArgs, Expr.usesArgs]
    exact .ok []
  | arg :: args, L => by
    rw [bindArgs, Expr.usesArgs, List.map_append]
    exact (bind_tells h arg L).zipWith (bindArgs_tells h args L) _

end

theorem fieldUses_annotates (h : s.Distinct) {object : SourceExpr} {o : BoundExpr} (ho : s.bind L object = .ok o)
    (span : Option Span) (field : String) :
    List.Forall₂ (Use.Annotates s) (object.fieldUses span L field) (o.fieldUses span L field) := by
  cases object with
  | ident =>
    obtain ⟨x, hx, rfl⟩ := bind_ident ho
    exact .cons (.field ((lookup_eq_ok h).mp hx)) .nil
  | literal | access | index | unary | binary | conditional | lambda | call =>
    have hnil : o.fieldUses span L field = [] := by
      cases o with
      | ident =>
        obtain ⟨_, heq, -⟩ := bind_eq_ident ho
        cases heq
      | _ => rfl
    rw [hnil]
    exact .nil

mutual

/-- Where an expression binds, each use in it is bound to what its name means. -/
theorem bind_annotates (h : s.Distinct) : ∀ (e : SourceExpr) {L : List String} {b : BoundExpr}, s.bind L e = .ok b →
    List.Forall₂ (Use.Annotates s) (e.uses L) (b.uses L)
  | .literal _ _, L, b, hb => by
    rw [bind] at hb
    cases hb
    rw [Expr.uses, Expr.uses]
    exact .nil
  | .ident _ _ _, L, b, hb => by
    obtain ⟨x, hx, rfl⟩ := bind_ident hb
    rw [Expr.uses, Expr.uses]
    exact .cons (.name ((lookup_eq_ok h).mp hx)) .nil
  | .access span object field _ default, L, b, hb => by
    obtain ⟨o, d, ho, hd, -, rfl⟩ := bind_access hb
    rw [Expr.uses, Expr.uses]
    exact List.rel_append (List.rel_append (bind_annotates h object ho) (bindDefault_annotates h default hd))
      (fieldUses_annotates h ho span field)
  | .index _ object key, L, b, hb => by
    obtain ⟨o, k, ho, hk, rfl⟩ := bind_index hb
    rw [Expr.uses, Expr.uses]
    exact List.rel_append (bind_annotates h object ho) (bind_annotates h key hk)
  | .unary _ _ operand, L, b, hb => by
    obtain ⟨o, ho, rfl⟩ := bind_unary hb
    rw [Expr.uses, Expr.uses]
    exact bind_annotates h operand ho
  | .binary _ _ left right, L, b, hb => by
    obtain ⟨l, r, hl, hr, rfl⟩ := bind_binary hb
    rw [Expr.uses, Expr.uses]
    exact List.rel_append (bind_annotates h left hl) (bind_annotates h right hr)
  | .conditional _ condition thenBranch elseBranch, L, b, hb => by
    obtain ⟨c, t, f, hc, ht, hf, rfl⟩ := bind_conditional hb
    rw [Expr.uses, Expr.uses]
    exact List.rel_append (bind_annotates h condition hc)
      (List.rel_append (bind_annotates h thenBranch ht) (bind_annotates h elseBranch hf))
  | .lambda _ _ body, L, b, hb => by
    obtain ⟨y, hy, rfl⟩ := bind_lambda hb
    rw [Expr.uses, Expr.uses]
    exact bind_annotates h body hy
  | .call _ _ _ args, L, b, hb => by
    obtain ⟨f, bs, hf, hbs, rfl⟩ := bind_call hb
    rw [Expr.uses, Expr.uses]
    exact .cons (.function (name_of_function (function_eq_ok.mpr hf))) (bindArgs_annotates h args hbs)

theorem bindDefault_annotates (h : s.Distinct) : ∀ (default : Option SourceExpr) {L : List String}
    {d : Option BoundExpr}, s.bindDefault L default = .ok d →
    List.Forall₂ (Use.Annotates s) (Expr.usesDefault L default) (Expr.usesDefault L d)
  | none, L, d, hd => by
    rw [bindDefault] at hd
    cases hd
    rw [Expr.usesDefault, Expr.usesDefault]
    exact .nil
  | some e, L, d, hd => by
    rw [bindDefault] at hd
    obtain ⟨b, hb, rfl⟩ := map_eq_ok.mp hd
    rw [Expr.usesDefault, Expr.usesDefault]
    exact bind_annotates h e hb

theorem bindArgs_annotates (h : s.Distinct) : ∀ (args : List SourceExpr) {L : List String} {bs : List BoundExpr},
    s.bindArgs L args = .ok bs → List.Forall₂ (Use.Annotates s) (Expr.usesArgs L args) (Expr.usesArgs L bs)
  | [], L, bs, hbs => by
    rw [bindArgs] at hbs
    cases hbs
    rw [Expr.usesArgs, Expr.usesArgs]
    exact .nil
  | arg :: args, L, bs, hcons => by
    obtain ⟨b, bs, hb, hbs, rfl⟩ := bindArgs_cons hcons
    rw [Expr.usesArgs, Expr.usesArgs]
    exact List.rel_append (bind_annotates h arg hb) (bindArgs_annotates h args hbs)

end

end Scope

/-! ## Models -/

namespace Model

variable {options : Options} {d : Document} {m : Model SourceExpr} {b : Model BoundExpr}

/-- The parents of an entity have distinct names, as they are distinct entities. -/
theorem WellFormed.parent_names (h : m.WellFormed d) {e : Entity SourceExpr} (he : e ∈ m.entities) :
    (e.parents.map Parent.name).Nodup := by
  refine List.pairwise_map.mpr ((List.pairwise_map.mp (h.parents_distinct e he)).imp_of_mem ?_)
  intro p q hp hq hne hname
  obtain ⟨x, hx, hxname⟩ := h.parents e he p hp
  obtain ⟨y, hy, hyname⟩ := h.parents e he q hq
  exact hne (place_eq_of_key_eq h.names hx hy (hxname.trans (hname.trans hyname.symm)))

/-- The scopes of a model that was built have distinct names. -/
theorem WellFormed.attrScope_distinct (h : m.WellFormed d) {e : Entity SourceExpr} (he : e ∈ m.entities) (i : Nat)
    (a : Attribute SourceExpr) (j : Nat) : (m.attrScope e i a j).Distinct where
  attrs := h.attributes_distinct e he
  parents := by
    have hnames := h.parent_names he
    rwa [attrScope, List.map_map]
  params := firsts_keys_nodup _ _

theorem resolveAttr_tells {e : Entity SourceExpr} {i : Nat} {a : Attribute SourceExpr} {j : Nat}
    (h : (m.attrScope e i a j).Distinct) : (m.resolveAttr (m.visibleParams i) e a j).Tells
      ((a.expr.elim [] (Expr.uses [])).map (Prod.mk (m.attrScope e i a j))) := by
  unfold resolveAttr
  split
  · next hx =>
    rw [hx]
    exact .ok _
  · next x hx =>
    rw [hx]
    exact (Scope.bind_tells h x []).map _

/-- Binding a model tells about the uses of names in it. -/
theorem resolve_tells (h : m.WellFormed d) : m.resolve.Tells m.uses := by
  refine (Checked.Tells.each fun p hp => ?_).map _
  have he : p.1 ∈ m.entities := List.mem_of_getElem? (List.mem_zipIdx_iff_getElem?.mp hp)
  exact (Checked.Tells.each fun q _ => resolveAttr_tells (h.attrScope_distinct he p.2 q.1 q.2)).map _

/-- A bound attribute has the scope that it was bound in. -/
theorem attrScope_resolve (h : m.resolve = .ok b) {e : Entity SourceExpr} {e' : Entity BoundExpr} {i : Nat}
    (he : m.resolveEntity e i = .ok e') {a : Attribute SourceExpr} {a' : Attribute BoundExpr} {j : Nat}
    (ha : m.resolveAttr (m.visibleParams i) e a j = .ok a') : b.attrScope e' i a' j = m.attrScope e i a j := by
  have hparams := resolve_visibleParams h i
  rw [← resolveEntity_erase he, ← resolveAttr_erase ha, attrScope, attrScope, hparams, Entity.mapExpr_names]
  have hparents : b.parentNames = m.parentNames := by
    funext p
    rw [← resolve_erase h]
    simp only [parentNames, parentEntity?, mapExpr, List.getElem?_map]
    cases b.entities[p.entity]? with
    | none => rfl
    | some parent => rw [Option.map_some, Option.elim_some, Option.elim_some, Entity.mapExpr_names]
  rw [hparents]
  rfl

/-- What corresponds item by item with numbered items has the same numbers. -/
theorem forall₂_zipIdx {α β : Type} {R : α → Nat → β → Prop} : ∀ {as : List α} {bs : List β} {k : Nat},
    List.Forall₂ (fun p b => R p.1 p.2 b) (as.zipIdx k) bs →
    List.Forall₂ (fun p q => q.2 = p.2 ∧ R p.1 p.2 q.1) (as.zipIdx k) (bs.zipIdx k)
  | [], _, _, .nil => .nil
  | _ :: _, _, _, .cons h hs => .cons ⟨rfl, h⟩ (forall₂_zipIdx hs)

theorem resolveAttr_annotates {e : Entity SourceExpr} {i : Nat} {a : Attribute SourceExpr} {a' : Attribute BoundExpr}
    {j : Nat} (h : (m.attrScope e i a j).Distinct) (ha : m.resolveAttr (m.visibleParams i) e a j = .ok a') :
    List.Forall₂ (Use.Annotates (m.attrScope e i a j)) (a.expr.elim [] (Expr.uses []))
      (a'.expr.elim [] (Expr.uses [])) := by
  unfold resolveAttr at ha
  split at ha
  · next hx =>
    cases ha
    rw [hx]
    exact .nil
  · next x hx =>
    obtain ⟨y, hy, rfl⟩ := map_eq_ok.mp ha
    rw [hx]
    exact Scope.bind_annotates h x hy

/-- Where a model binds, each use in it is bound, in its scope, to what its name means. -/
theorem resolve_annotates (h : m.WellFormed d) (hb : m.resolve = .ok b) :
    List.Forall₂ (fun u v => v.1 = u.1 ∧ u.2.Annotates u.1 v.2) m.uses b.uses := by
  have hentities := forall₂_zipIdx (R := fun e i e' => m.resolveEntity e i = .ok e')
    (Checked.each_eq_ok.mp (resolve_eq_ok hb).2.2)
  have hmem : ∀ p ∈ m.entities.zipIdx, p.1 ∈ m.entities :=
    fun p hp => List.mem_of_getElem? (List.mem_zipIdx_iff_getElem?.mp hp)
  refine List.rel_flatMap ((List.forall₂_and_left _ _).mpr ⟨hmem, hentities⟩) ?_
  rintro ⟨e, i⟩ ⟨e', i'⟩ ⟨he, hi, hresolve⟩
  obtain rfl : i' = i := hi
  refine List.rel_flatMap (forall₂_zipIdx (R := fun a j a' => m.resolveAttr (m.visibleParams i') e a j = .ok a')
    (Checked.each_eq_ok.mp (resolveEntity_eq_ok hresolve).2)) ?_
  rintro ⟨a, j⟩ ⟨a', j'⟩ ⟨hj, ha⟩
  obtain rfl : j' = j := hj
  -- The two lists are paired by place, and binding leaves the scope of each attribute as it is.
  dsimp only
  rw [attrScope_resolve hb hresolve ha, List.forall₂_map_left_iff, List.forall₂_map_right_iff]
  exact (resolveAttr_annotates (h.attrScope_distinct he _ a _) ha).imp fun _ _ hu => ⟨rfl, hu⟩

end Model

/-- A document that builds gives a model whose names bind exactly when each use of one is good: a name means something
under the rules of scoping, a call names a builtin, and a field that is read directly off a single parent is one of its
attributes. Otherwise there is one diagnostic for each bad use, in order, of the kind that the use has. Where names
bind, each use is bound to what its name means, and compiling the expressions reports no unresolved reference. -/
theorem resolve_reports_uses {options : Options} {d : Document} {m : Model SourceExpr}
    (h : Model.build options d = .ok m) :
    ((∃ b, m.resolve = .ok b) ↔ ∀ u ∈ m.uses, u.2.IsBound u.1) ∧
    (∀ ds, m.resolve = .error ds → Reported m.uses ds) ∧
    ∀ b, m.resolve = .ok b →
      List.Forall₂ (fun u v => v.1 = u.1 ∧ u.2.Annotates u.1 v.2) m.uses b.uses ∧
      ∀ options ds, b.compile options = .error ds → ∀ x ∈ ds, x.problem.kind ≠ .unresolvedReference := by
  have hwf := Model.wellFormed_of_build h
  have htells := Model.resolve_tells hwf
  refine ⟨htells.eq_ok_iff, fun ds hds => ?_, fun b hb => ⟨Model.resolve_annotates hwf hb, ?_⟩⟩
  · have hreported := htells.reported
    rwa [hds] at hreported
  · intro options ds hds x hx
    have htyping : AreTyping (b.compile options).diagnostics := Model.compile_areTyping
    rw [hds] at htyping
    intro hkind
    have hx := htyping x hx
    rw [hkind] at hx
    cases hx

/-- Statements of an account, with a call of a function that is not there on a later attribute and on a name that both
parents have, and with a field that the account does not have and a default that is not there either. -/
def statements : Document :=
  { sources := [{ name := "bank" }]
    entities := [
      { name := "Account", source := some "bank", attributes := [{ name := "name" }, { name := "balance" }] },
      { name := "Branch", source := some "bank", attributes := [{ name := "name" }] },
      { name := "Statement"
        parents := [{ entity := "Account" }, { entity := "Branch" }]
        attributes := [
          { name := "title", expr := some (.call none "heading" () [.ident none "total" (), .ident none "name" ()]) },
          { name := "line"
            expr := some (.access none (.ident none "Account" ()) "colour" true (some (.ident none "plain" ()))) },
          { name := "total", expr := some (.ident none "balance" ()) }] }] }

def statementKinds : List (Option String × ProblemKind) :=
  [(some "title", .unresolvedReference), (some "title", .forwardReference), (some "title", .ambiguousReference),
    (some "line", .unresolvedReference), (some "line", .unresolvedReference)]

theorem statements_reported : ∃ m ds, Model.build {} statements = .ok m ∧ m.resolve = .error ds ∧
    ds.map (fun d => (d.attr, d.problem.kind)) = statementKinds ∧
    Reported m.uses ds ∧ (badUses m.uses).length = 5 ∧ ¬ ∀ u ∈ m.uses, u.2.IsBound u.1 := by
  have hkinds : ((Model.build {} statements).toOption.map fun m =>
      m.resolve.diagnostics.map fun d => (d.attr, d.problem.kind)) = some statementKinds := by decide +kernel
  obtain ⟨m, hm, hkinds⟩ := Option.map_eq_some_iff.mp hkinds
  have hm := toOption_eq_some.mp hm
  obtain ⟨hok, herror, -⟩ := resolve_reports_uses hm
  cases hresolve : m.resolve with
  | ok b => rw [hresolve] at hkinds; cases hkinds
  | error ds =>
    rw [hresolve] at hkinds
    have hreported := herror ds hresolve
    refine ⟨m, ds, hm, hresolve, hkinds, hreported, ?_, fun hall => ?_⟩
    · have hlength := congrArg List.length hkinds
      rw [List.length_map] at hlength
      exact hreported.length_eq.trans hlength
    · obtain ⟨b, hb⟩ := hok.mpr hall
      rw [hresolve] at hb
      cases hb

end Tributary
