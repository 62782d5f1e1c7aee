import Tributary.Proofs.Graph.Parents

/-!
# Models are well formed

Later stages refer to entities, attributes, parents and parameters by place. A document that builds gives a model in
which every such place is taken by what it is meant for, and binding names adds references that stay in range.

* `Model.WellFormed m d` : the entities of a model are those of the document, and whatever they refer to is there;
* `Expr.erase`, `Model.mapExpr` : an expression without its bindings, and a model with other expressions;
* `Model.resolve_erase` : binding names changes nothing else;
* `EntityScope.InRange` : the references of an entity stay in range; `Model.scopes_inRange` : those of a model do;
* `build_wellFormed` : every document that builds gives a well-formed model, whose bound form refers to what it has.
-/

namespace Tributary

/-! ## Built models -/

/-- An entity has the name, source, parents and attributes that are declared. -/
structure Entity.Declared {ε : Type} (e : Entity ε) (decl : EntityDecl) : Prop where
  name : e.name = decl.name
  source : e.source = decl.source
  identityField : e.identityField = decl.identityField
  parents : e.parents.map (fun p => (p.name, p.multiplicity, p.join)) =
    decl.parents.map fun p => (p.entity, p.multiplicity, p.join)
  attributes : e.attributes.map (fun a => (a.name, a.expr.isSome)) =
    decl.attributes.map fun a => (a.name, a.expr.isSome)

/-- The entities of a model are those of the document, one by one and without repetition. Their parents and sources and
the entities of endpoints are there, at the places where they are looked for. -/
structure Model.WellFormed {ε : Type} (m : Model ε) (d : Document) : Prop where
  declared : List.Forall₂ (fun decl e => e.Declared decl) d.entities m.entities
  names : (m.entities.map Entity.name).Nodup
  index : ∀ name i, m.entityIndex? name = some i ↔ ∃ e, m.entities[i]? = some e ∧ e.name = name
  parents : ∀ e ∈ m.entities, ∀ p ∈ e.parents, ∃ parent, m.entities[p.entity]? = some parent ∧ parent.name = p.name
  parents_distinct : ∀ e ∈ m.entities, (e.parents.map Parent.entity).Nodup
  attributes_distinct : ∀ e ∈ m.entities, (e.attributes.map Attribute.name).Nodup
  sources : ∀ e ∈ m.entities, ∀ name, e.source = some name → ∃ s, m.source? name = some s ∧ s.name = name
  endpoints : List.Forall₂ (fun decl p => p.name = decl.name ∧
    ∃ e, m.entities[p.entity]? = some e ∧ e.name = decl.entity) d.endpoints m.endpoints

theorem EntityDecl.checkSource_mem {decl : EntityDecl} {sources : List String} {name : String}
    (h : decl.checkSource sources = .ok (some name)) : name ∈ sources := by
  unfold checkSource at h
  split at h
  · cases h
  · split at h
    · next hmem => cases h; exact List.contains_iff_mem.mp hmem
    · cases h

theorem EntityDecl.declared_of_check {limit : Nat} {sources entities : List String} {decl : EntityDecl}
    {e : Entity SourceExpr} (h : decl.check limit sources entities = .ok e) : e.Declared decl := by
  obtain ⟨hsource, hparents, hattrs, he⟩ := EntityDecl.check_iff.mp h
  refine ⟨by rw [he], EntityDecl.checkSource_eq_ok hsource, by rw [he], ?_, ?_⟩
  · exact forall₂_map_eq (EntityDecl.checkParents_eq_ok hparents) fun p q hq => by rw [hq.2.1, hq.2.2.1, hq.2.2.2]
  · exact forall₂_map_eq (EntityDecl.checkAttributes_eq_ok hattrs).2 fun a a' ha => by
      rw [ha.1, EntityDecl.checkExpr_isSome ha.2.2]

namespace Model

variable {options : Options} {d : Document} {m : Model SourceExpr} {b : Model BoundExpr}

/-- What a name is looked up at in the document is there in the model. -/
theorem build_findIdx? (h : Model.build options d = .ok m) {name : String} {i : Nat}
    (hi : (d.entities.map EntityDecl.name).findIdx? (· == name) = some i) :
    ∃ e, m.entities[i]? = some e ∧ e.name = name := by
  obtain ⟨decl, hdecl, hname⟩ := (findIdx?_decls (build_decls_nodup h)).mp hi
  obtain ⟨e, he, hcheck⟩ := build_entity h hdecl
  exact ⟨e, he, (EntityDecl.check_eq_ok hcheck).1.trans hname⟩

theorem build_source (h : Model.build options d = .ok m) {name : String} (hname : name ∈ d.sources.map SourceDecl.name) :
    ∃ s, m.source? name = some s ∧ s.name = name := by
  have hsources := SourceDecl.eachSeen_eq_ok.mp (build_eq_ok.mp h).1
  obtain ⟨decl, hdecl, rfl⟩ := List.mem_map.mp hname
  obtain ⟨s, hs, hcheck⟩ := forall₂_mem_left hsources.2 hdecl
  have hnames : m.sources.map Source.name = d.sources.map SourceDecl.name :=
    forall₂_map_eq hsources.2 fun _ _ => SourceDecl.check_name
  have hname := SourceDecl.check_name hcheck
  refine ⟨s, ?_, hname⟩
  rw [source?, ← hname]
  exact find?_key_eq_some (hnames ▸ hsources.1) hs

theorem wellFormed_of_build (h : Model.build options d = .ok m) : m.WellFormed d where
  declared := (build_decls h).imp fun _ _ => EntityDecl.declared_of_check
  names := build_names_nodup h
  index := fun name i => by
    rw [entityIndex?, build_index h, List.findIdx?_map]
    exact findIdx?_key_eq_some (build_names_nodup h)
  parents := by
    intro e he p hp
    obtain ⟨decl, -, hcheck⟩ := forall₂_mem_right (build_decls h) he
    have hparents := EntityDecl.checkParents_eq_ok (EntityDecl.check_eq_ok hcheck).2.2.1
    obtain ⟨q, -, hidx, hname, -⟩ := forall₂_mem_right hparents hp
    rw [hname]
    exact build_findIdx? h hidx
  parents_distinct := by
    intro e he
    obtain ⟨decl, -, hcheck⟩ := forall₂_mem_right (build_decls h) he
    exact EntityDecl.checkParents_nodup (EntityDecl.check_eq_ok hcheck).2.2.1
  attributes_distinct := fun e he => build_attrs_nodup h he
  sources := by
    intro e he name hname
    obtain ⟨decl, -, hcheck⟩ := forall₂_mem_right (build_decls h) he
    have hsource := (EntityDecl.check_eq_ok hcheck).2.1
    rw [hname] at hsource
    exact build_source h (EntityDecl.checkSource_mem hsource)
  endpoints := by
    refine (EndpointDecl.eachSeen_eq_ok.mp (build_eq_ok.mp h).2.2.2.1).2.imp fun decl p hcheck => ?_
    obtain ⟨hname, hidx⟩ := EndpointDecl.check_eq_ok hcheck
    exact ⟨hname, build_findIdx? h hidx⟩

end Model

/-! ## Without bindings -/

namespace Expr

variable {ι κ : Type}

mutual

/-- An expression without what its names and calls are bound to. -/
def erase : Expr ι κ → SourceExpr
  | literal span v => .literal span v
  | ident span name _ => .ident span name ()
  | access span object field safe default => .access span (erase object) field safe (eraseDefault default)
  | index span object key => .index span (erase object) (erase key)
  | unary span op operand => .unary span op (erase operand)
  | binary span op left right => .binary span op (erase left) (erase right)
  | conditional span condition thenBranch elseBranch =>
    .conditional span (erase condition) (erase thenBranch) (erase elseBranch)
  | lambda span params body => .lambda span params (erase body)
  | call span function _ args => .call span function () (eraseArgs args)

def eraseDefault : Option (Expr ι κ) → Option SourceExpr
  | none => none
  | some e => some (erase e)

def eraseArgs : List (Expr ι κ) → List SourceExpr
  | [] => []
  | e :: es => erase e :: eraseArgs es

end

end Expr

section Erase
variable {s : Scope}

mutual

/-- Binding only adds bindings to an expression. -/
theorem bind_erase : ∀ (e : SourceExpr) {L : List String} {b : BoundExpr}, s.bind L e = .ok b → b.erase = e
  | .literal _ _, L, b, h => by
    rw [Scope.bind] at h
    cases h
    rw [Expr.erase]
  | .ident _ _ _, L, b, h => by
    obtain ⟨x, -, rfl⟩ := bind_ident h
    rw [Expr.erase]
  | .access _ object _ _ default, L, b, h => by
    obtain ⟨o, d, ho, hd, -, rfl⟩ := bind_access h
    rw [Expr.erase, bind_erase object ho, bindDefault_erase default hd]
  | .index _ object key, L, b, h => by
    obtain ⟨o, k, ho, hk, rfl⟩ := bind_index h
    rw [Expr.erase, bind_erase object ho, bind_erase key hk]
  | .unary _ _ operand, L, b, h => by
    obtain ⟨o, ho, rfl⟩ := bind_unary h
    rw [Expr.erase, bind_erase operand ho]
  | .binary _ _ left right, L, b, h => by
    obtain ⟨l, r, hl, hr, rfl⟩ := bind_binary h
    rw [Expr.erase, bind_erase left hl, bind_erase right hr]
  | .conditional _ condition thenBranch elseBranch, L, b, h => by
    obtain ⟨c, t, f, hc, ht, hf, rfl⟩ := bind_conditional h
    rw [Expr.erase, bind_erase condition hc, bind_erase thenBranch ht, bind_erase elseBranch hf]
  | .lambda _ _ body, L, b, h => by
    obtain ⟨y, hy, rfl⟩ := bind_lambda h
    rw [Expr.erase, bind_erase body hy]
  | .call _ _ _ args, L, b, h => by
    obtain ⟨f, bs, -, hbs, rfl⟩ := bind_call h
    rw [Expr.erase, bindArgs_erase args hbs]

theorem bindDefault_erase : ∀ (default : Option SourceExpr) {L : List String} {d : Option BoundExpr},
    s.bindDefault L default = .ok d → Expr.eraseDefault d = default
  | none, L, d, h => by
    rw [Scope.bindDefault] at h
    cases h
    rw [Expr.eraseDefault]
  | some e, L, d, h => by
    rw [Scope.bindDefault] at h
    obtain ⟨b, hb, rfl⟩ := map_eq_ok.mp h
    rw [Expr.eraseDefault, bind_erase e hb]

theorem bindArgs_erase : ∀ (args : List SourceExpr) {L : List String} {bs : List BoundExpr},
    s.bindArgs L args = .ok bs → Expr.eraseArgs bs = args
  | [], L, bs, h => by
    rw [Scope.bindArgs] at h
    cases h
    rw [Expr.eraseArgs]
  | arg :: args, L, bs, h => by
    obtain ⟨b, bs, hb, hbs, rfl⟩ := bindArgs_cons h
    rw [Expr.eraseArgs, bind_erase arg hb, bindArgs_erase args hbs]

end

end Erase

def Attribute.mapExpr {ε ε' : Type} (f : ε → ε') (a : Attribute ε) : Attribute ε' := { a with expr := a.expr.map f }

def Entity.mapExpr {ε ε' : Type} (f : ε → ε') (e : Entity ε) : Entity ε' :=
  { e with attributes := e.attributes.map (Attribute.mapExpr f) }

def Model.mapExpr {ε ε' : Type} (f : ε → ε') (m : Model ε) : Model ε' :=
  { m with entities := m.entities.map (Entity.mapExpr f) }

theorem Entity.mapExpr_names {ε ε' : Type} (f : ε → ε') (e : Entity ε) :
    (e.mapExpr f).attributes.map Attribute.name = e.attributes.map Attribute.name := by
  rw [mapExpr, List.map_map]
  rfl

namespace Model

variable {options : Options} {d : Document} {m : Model SourceExpr} {b : Model BoundExpr}

theorem resolveAttr_erase {params : List Param} {e : Entity SourceExpr} {a : Attribute SourceExpr}
    {a' : Attribute BoundExpr} {j : Nat} (h : m.resolveAttr params e a j = .ok a') : a'.mapExpr Expr.erase = a := by
  unfold resolveAttr at h
  split at h
  · next hx =>
    cases h
    rw [Attribute.mapExpr, Option.map_none, ← hx]
  · next x hx =>
    obtain ⟨y, hy, rfl⟩ := map_eq_ok.mp h
    rw [Attribute.mapExpr, Option.map_some, bind_erase x hy, ← hx]

theorem resolveEntity_erase {e : Entity SourceExpr} {e' : Entity BoundExpr} {i : Nat}
    (h : m.resolveEntity e i = .ok e') : e'.mapExpr Expr.erase = e := by
  obtain ⟨heq, hall⟩ := resolveEntity_eq_ok h
  have hattrs : e'.attributes.map (Attribute.mapExpr Expr.erase) = e.attributes := by
    rw [forall₂_map_eq (Checked.each_eq_ok.mp hall) (f := Prod.fst) fun _ _ => resolveAttr_erase, List.zipIdx_map_fst]
  rw [Entity.mapExpr, hattrs, heq]

/-- Binding names changes nothing else in a model. -/
theorem resolve_erase (h : m.resolve = .ok b) : b.mapExpr Expr.erase = m := by
  obtain ⟨hsources, hendpoints, hall⟩ := resolve_eq_ok h
  have hentities : b.entities.map (Entity.mapExpr Expr.erase) = m.entities := by
    rw [forall₂_map_eq (Checked.each_eq_ok.mp hall) (f := Prod.fst) fun _ _ => resolveEntity_erase, List.zipIdx_map_fst]
  rw [mapExpr, hentities, hsources, hendpoints, resolve_index h]

end Model

/-! ## Bound models -/

/-- There are references for each attribute of an entity, to earlier attributes, to its parents and parameters, and to
attributes that its single parents have. -/
structure EntityScope.InRange (scope : EntityScope) (m : Model BoundExpr) (e : Entity BoundExpr) : Prop where
  references : scope.references.length = e.attributes.length
  siblings : ∀ (j : Nat) r, scope.references[j]? = some r → ∀ k ∈ r.siblings, k < j
  parents : ∀ r ∈ scope.references, ∀ k ∈ r.parents, k < e.parents.length
  params : ∀ r ∈ scope.references, ∀ k ∈ r.params, k < scope.params.length
  parentAttrs : ∀ r ∈ scope.references, ∀ q ∈ r.parentAttrs, ∃ p parent,
    e.parents[q.1]? = some p ∧ p.multiplicity = .one ∧ m.entities[p.entity]? = some parent ∧
      q.2 ∈ parent.attributes.map Attribute.name

namespace Model

variable {m : Model SourceExpr} {b : Model BoundExpr}

/-- The attributes of a parent that a scope has are those of the entity that it refers to. -/
theorem parentNames_attrs (h : m.resolve = .ok b) {p : Parent} {name : String} (hname : name ∈ (m.parentNames p).attrs) :
    ∃ parent, b.entities[p.entity]? = some parent ∧ name ∈ parent.attributes.map Attribute.name := by
  rw [← resolve_erase h] at hname
  simp only [parentNames, parentEntity?, mapExpr, List.getElem?_map] at hname
  cases hparent : b.entities[p.entity]? with
  | none => rw [hparent] at hname; cases hname
  | some parent =>
    rw [hparent, Option.map_some, Option.elim_some, Entity.mapExpr_names] at hname
    exact ⟨parent, rfl, hname⟩

theorem inRange_of_resolveEntity (h : m.resolve = .ok b) {e : Entity SourceExpr} {e' : Entity BoundExpr} {i : Nat}
    (he : m.resolveEntity e i = .ok e') :
    EntityScope.InRange { params := b.visibleParams i, references := e'.attributes.map Attribute.references } b e' := by
  obtain ⟨heq, hall⟩ := resolveEntity_eq_ok he
  have hparents : e'.parents = e.parents := by rw [heq]
  have hscope : ∀ (j : Nat) r, (e'.attributes.map Attribute.references)[j]? = some r →
      ∃ a, r.InScope (m.attrScope e i a j) := by
    intro j r hr
    rw [List.getElem?_map] at hr
    obtain ⟨a', ha', rfl⟩ := Option.map_eq_some_iff.mp hr
    obtain ⟨⟨a, k⟩, ha, hresolve⟩ := forall₂_getElem?_right (Checked.each_eq_ok.mp hall) ha'
    obtain rfl : j = k := by
      rw [List.getElem?_zipIdx] at ha
      obtain ⟨_, -, heq⟩ := Option.map_eq_some_iff.mp ha
      cases heq
      exact (Nat.zero_add j).symm
    exact ⟨a, resolveAttr_inScope hresolve⟩
  have hmem : ∀ r ∈ e'.attributes.map Attribute.references, ∃ j a, r.InScope (m.attrScope e i a j) := by
    intro r hr
    obtain ⟨j, hj⟩ := List.mem_iff_getElem?.mp hr
    exact ⟨j, hscope j r hj⟩
  refine ⟨List.length_map _, fun j r hr k hk => ?_, fun r hr k hk => ?_, fun r hr k hk => ?_, fun r hr q hq => ?_⟩
  · obtain ⟨a, ha⟩ := hscope j r hr
    exact ha.siblings k hk
  · obtain ⟨j, a, ha⟩ := hmem r hr
    have hlt := ha.parents k hk
    rwa [attrScope, List.length_map, ← hparents] at hlt
  · obtain ⟨j, a, ha⟩ := hmem r hr
    have hlt := ha.params k hk
    rwa [attrScope, List.length_map, ← resolve_visibleParams h] at hlt
  · obtain ⟨j, a, ha⟩ := hmem r hr
    obtain ⟨names, hnames, hone, hattr⟩ := ha.parentAttrs q hq
    rw [attrScope, List.getElem?_map, ← hparents] at hnames
    obtain ⟨p, hp, rfl⟩ := Option.map_eq_some_iff.mp hnames
    obtain ⟨parent, hparent, hname⟩ := parentNames_attrs h hattr
    exact ⟨p, parent, hp, hone, hparent, hname⟩

/-- Every entity of a bound model has its scope, in which all references are in range. -/
theorem scopes_inRange (h : m.resolve = .ok b) :
    List.Forall₂ (fun e scope => scope.InRange b e) b.entities b.scopes := by
  refine List.forall₂_iff_get.mpr ⟨by simp [scopes], fun i hi hi' => ?_⟩
  have hlt : i < m.entities.length := resolve_length h ▸ hi
  obtain ⟨e', he', hresolve⟩ := Checked.each_getElem? (resolve_eq_ok h).2.2 (i := i) (a := (m.entities[i], i))
    (by simp [hlt])
  obtain ⟨_, rfl⟩ := List.getElem?_eq_some_iff.mp he'
  simpa [scopes] using inRange_of_resolveEntity h hresolve

end Model

/-- A document that builds gives a well-formed model: its entities are those of the document, each once and found by
its name, and parents, sources and the entities of endpoints are there. Binding names changes nothing else, and every
entity then has a scope in which all references of its attributes are in range. -/
theorem build_wellFormed {options : Options} {d : Document} {m : Model SourceExpr}
    (h : Model.build options d = .ok m) :
    m.WellFormed d ∧ ∀ b, m.resolve = .ok b → b.mapExpr Expr.erase = m ∧
      List.Forall₂ (fun e scope => scope.InRange b e) b.entities b.scopes :=
  ⟨Model.wellFormed_of_build h, fun _ hb => ⟨Model.resolve_erase hb, Model.scopes_inRange hb⟩⟩

/-- Bills for stays, declared before what they are made from. One name of an expression is that of a lambda parameter
and, elsewhere, of an attribute of the room. -/
def stays : Document :=
  { sources := [{ name := "hotel", params := [{ name := "lang" }] }]
    entities := [
      { name := "Bill"
        parents := [{ entity := "Room" }, { entity := "Extra", multiplicity := .many }]
        attributes := [
          { name := "nights", type := "integer" },
          { name := "rate", expr := some (.access none (.ident none "Room" ()) "price" false none) },
          { name := "total", expr := some (.binary none .mul (.ident none "nights" ()) (.ident none "rate" ())) },
          { name := "label", expr := some (.call none "concat" () [.ident none "lang" (), .ident none "floor" ()]) },
          { name := "sums", expr := some (.call none "map" () [.ident none "Extra" (),
            .lambda none ["floor"] (.access none (.ident none "floor" ()) "sum" false none)]) }] },
      { name := "Room", source := some "hotel", attributes := [{ name := "price" }, { name := "floor" }] },
      { name := "Extra", source := some "hotel", attributes := [{ name := "sum" }] }]
    endpoints := [{ name := "bill", entity := "Bill", operation := .read, path := "/bills/\x7bid\x7d" }] }

def billScope : EntityScope :=
  { params := [{ name := "id", location := .path, ty := .any }, { name := "lang", location := .query, ty := .any }]
    references := [
      {},
      { parents := [0], parentAttrs := [(0, "price")] },
      { siblings := [0, 1] },
      { parents := [0], parentAttrs := [(0, "floor")], params := [1], builtins := ["concat"] },
      { parents := [1], builtins := ["map"] }] }

theorem stays_wellFormed : ∃ m b, Model.build {} stays = .ok m ∧ m.resolve = .ok b ∧ m.WellFormed stays ∧
    b.mapExpr Expr.erase = m ∧ b.scopes.head? = some billScope ∧
    ∃ e, b.entities.head? = some e ∧ billScope.InRange b e := by
  have hscopes : ((Model.build {} stays).toOption.bind fun m => m.resolve.toOption).map (fun b => b.scopes.head?) =
      some (some billScope) := by decide +kernel
  obtain ⟨b, hb, hscopes⟩ := Option.map_eq_some_iff.mp hscopes
  obtain ⟨m, hm, hb⟩ := Option.bind_eq_some_iff.mp hb
  have hm := toOption_eq_some.mp hm
  have hb := toOption_eq_some.mp hb
  obtain ⟨hwf, hbound⟩ := build_wellFormed hm
  obtain ⟨herase, hall⟩ := hbound b hb
  rw [List.head?_eq_getElem?] at hscopes
  obtain ⟨e, he, hrange⟩ := forall₂_getElem?_right hall hscopes
  exact ⟨m, b, hm, hb, hwf, herase, by rw [List.head?_eq_getElem?, hscopes], e, by rw [List.head?_eq_getElem?, he], hrange⟩

end Tributary
