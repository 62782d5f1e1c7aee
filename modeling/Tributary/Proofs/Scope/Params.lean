import Tributary.Proofs.Graph.Reach
import Tributary.Proofs.Model.WellFormed

/-!
# Visible parameters are the nearest declarations

* `Model.SourceDeclares`, `Endpoint.Declares` : which parameters sources and endpoints declare;
* `Model.Nearest m i p` : among all declarations of its name that entity `i` could see, `p` is the nearest;
* `Model.climb_eq_reach` : the queue of ancestors finds what is reached, generation by generation;
* `Model.mem_sourceParams`, `Model.mem_ancestors` : sources and ancestors of built models;
* `Model.ancestors_sorted` : ancestors are found in the order of their distance;
* `Model.nearest_of_find?` : what is found first is nearest;
* `Model.visibleParams_nearest` : an entity sees the nearest declaration of each name, whatever the parents.
-/

namespace Tributary

namespace Endpoint

def Names (e : Endpoint) (name : String) : Prop := name ∈ e.params.map Param.name ∨ name ∈ e.pathIdentifiers

/-- The endpoint declares the parameter: it is one of its own, or else one that only its path asks for. -/
def Declares (e : Endpoint) (p : Param) : Prop :=
  p ∈ e.params ∨ p.name ∉ e.params.map Param.name ∧ p.name ∈ e.pathIdentifiers ∧ p.location = .path ∧ p.ty = .any

theorem mem_allParams_names {e : Endpoint} {name : String} : name ∈ e.allParams.map Param.name ↔ e.Names name := by
  simp [allParams, Names]

theorem declares_of_find? {e : Endpoint} {name : String} {p : Param}
    (h : e.allParams.find? (fun q => q.name == name) = some p) : e.Declares p := by
  have hname : p.name = name := by simpa using List.find?_some h
  rw [allParams, List.find?_append, Option.or_eq_some_iff] at h
  rcases h with hown | ⟨hown, hpath⟩
  · exact .inl (List.mem_of_find?_eq_some hown)
  · obtain ⟨id, hid, rfl⟩ := List.mem_map.mp (List.mem_of_find?_eq_some hpath)
    refine .inr ⟨fun hmem => ?_, hid, rfl, rfl⟩
    exact find?_key_eq_none.mp hown (hname ▸ hmem)

end Endpoint

namespace Model

/-! ## The queue of ancestors -/

section Climb
variable {next : Nat → List Nat} {n i : Nat} {visited queue new : List Nat}

/-- The looks that may still be needed: one for each place in the queue, and one for each way on from a node that has
not been visited. -/
def looks (next : Nat → List Nat) (n : Nat) (visited queue : List Nat) : Nat :=
  queue.length + (((List.range n).filter fun i => !visited.contains i).flatMap next).length

theorem looks_visit (hi : i < n) (hnew : i ∉ visited) :
    looks next n (i :: visited) (queue ++ next i) + 1 = looks next n visited (i :: queue) := by
  let rest := (List.range n).filter fun j => !visited.contains j
  have hmem : i ∈ rest := List.mem_filter.mpr ⟨List.mem_range.mpr hi, by simpa using hnew⟩
  have herase : rest.erase i = (List.range n).filter fun j => !(i :: visited).contains j := by
    rw [(List.nodup_range.filter _).erase_eq_filter, List.filter_filter]
    refine List.filter_congr fun j _ => ?_
    by_cases hj : j = i <;> simp [hj]
  have hlen := ((List.perm_cons_erase hmem).flatMap_right next).length_eq
  rw [herase, List.flatMap_cons, List.length_append] at hlen
  rw [looks, looks, hlen, List.length_append, List.length_cons]
  omega

/-- Taking off a queue, when the nodes `new` that were found before have put their next ones behind it. -/
theorem climb_generation (hqueue : ∀ i ∈ queue, i < n) {k : Nat}
    (hk : looks next n visited (queue ++ new.flatMap next) ≤ k) :
    let found := (queue.filter fun i => !visited.contains i).eraseDups
    ∃ k', climb next k visited (queue ++ new.flatMap next)
        = found ++ climb next k' (found.reverse ++ visited) ((new ++ found).flatMap next) ∧
      looks next n (found.reverse ++ visited) ((new ++ found).flatMap next) ≤ k' := by
  induction queue generalizing k visited new with
  | nil => exact ⟨k, by simp, by simpa using hk⟩
  | cons i queue ih =>
    obtain ⟨hi, hqueue⟩ := List.forall_mem_cons.mp hqueue
    obtain ⟨k, rfl⟩ : ∃ k', k = k' + 1 := Nat.exists_eq_succ_of_ne_zero (by rw [looks] at hk; simp at hk; omega)
    rw [List.cons_append, climb]
    by_cases hvisited : i ∈ visited
    · rw [if_pos (by simpa using hvisited), List.filter_cons_of_neg (by simpa using hvisited)]
      refine ih hqueue ?_
      rw [looks, List.cons_append, List.length_cons] at hk
      rw [looks]
      omega
    · have hsplit : queue ++ new.flatMap next ++ next i = queue ++ (new ++ [i]).flatMap next := by simp
      have hrest : ((queue.filter fun j => !visited.contains j).filter fun j => !j == i)
          = queue.filter fun j => !(i :: visited).contains j := by
        rw [List.filter_filter]
        refine List.filter_congr fun j _ => ?_
        by_cases hj : j = i <;> simp [hj]
      have hlooks : looks next n (i :: visited) (queue ++ new.flatMap next ++ next i) + 1
          = looks next n visited (i :: (queue ++ new.flatMap next)) := looks_visit hi hvisited
      rw [hsplit, ← List.cons_append] at hlooks
      have hk' : looks next n (i :: visited) (queue ++ (new ++ [i]).flatMap next) ≤ k := by omega
      obtain ⟨k', hclimb, hk'⟩ := ih hqueue hk'
      rw [if_neg (by simpa using hvisited), List.filter_cons_of_pos (by simpa using hvisited), List.eraseDups_cons, hrest,
        hsplit, hclimb]
      refine ⟨k', ?_, ?_⟩
      · simp
      · simpa using hk'

/-- The queue finds generation after generation. -/
theorem climb_eq_generations (hnext : ∀ a, ∀ b ∈ next a, b < n) {start : Nat} (hstart : start < n) (g : Nat)
    {j k : Nat} {seen latest : List Nat} (h : Level next start j seen latest) (hg : n ≤ j + g)
    (hvisited : ∀ i, i ∈ visited ↔ i ∈ seen) (hk : looks next n visited (latest.flatMap next) ≤ k) :
    generations next g seen latest = seen ++ climb next k visited (latest.flatMap next) := by
  induction g generalizing j k seen latest visited with
  | zero =>
    obtain rfl := h.eq_nil hnext hstart (by omega)
    cases k <;> simp [generations, climb]
  | succ g ih =>
    have hqueue : ∀ i ∈ latest.flatMap next, i < n := by
      intro i hi
      obtain ⟨a, -, ha⟩ := List.mem_flatMap.mp hi
      exact hnext a i ha
    have hcontains : (fun i => !visited.contains i) = fun i => !seen.contains i := by
      funext i
      rw [Bool.eq_iff_iff]
      simp [hvisited]
    have hk : looks next n visited (latest.flatMap next ++ [].flatMap next) ≤ k := by simpa using hk
    obtain ⟨k', hclimb, hk'⟩ := climb_generation hqueue hk
    rw [List.flatMap_nil, List.append_nil, List.nil_append] at hclimb
    rw [List.nil_append] at hk'
    rw [generations, hclimb, ← List.append_assoc, hcontains]
    rw [hcontains] at hk'
    exact ih h.step_fresh (by omega) (fun i => by simp [hvisited, or_comm]) hk'

theorem climb_eq_reach (hnext : ∀ a, ∀ b ∈ next a, b < n) {start : Nat} (hstart : start < n) :
    climb next ((List.range n).flatMap next).length [start] (next start) = (reach next n start).drop 1 := by
  have hlooks : looks next n [start] ([] ++ next start) + 1 = looks next n [] [start] :=
    looks_visit hstart List.not_mem_nil
  have hall : looks next n [] [start] = ((List.range n).flatMap next).length + 1 := by simp [looks, Nat.add_comm]
  have hfew : looks next n [start] ([start].flatMap next) ≤ ((List.range n).flatMap next).length := by
    rw [List.flatMap_singleton]
    rw [List.nil_append] at hlooks
    omega
  have hclimb := climb_eq_generations hnext hstart n .initial (Nat.le_add_left n 0) (fun _ => .rfl) hfew
  rw [reach, hclimb, List.flatMap_singleton]
  rfl

end Climb

section Declarations
variable {ε : Type}

def SourceDeclares (m : Model ε) (i : Nat) (p : Param) : Prop :=
  ∃ e s, m.entities[i]? = some e ∧ s ∈ m.sources ∧ e.source = some s.name ∧ p ∈ s.params

def SourceNames (m : Model ε) (i : Nat) (name : String) : Prop := ∃ p, m.SourceDeclares i p ∧ p.name = name

/-- Of all declarations of its name, the parameter is the nearest to an entity: the one of its own source; without one,
that of the first endpoint that exposes the entity and has one; without these, that of the source of an ancestor, such
that no way up to an ancestor whose source has one is shorter. -/
inductive Nearest (m : Model ε) (i : Nat) (p : Param) : Prop where
  | own (h : m.SourceDeclares i p)
  | endpoint {before after : List Endpoint} {e : Endpoint} (hown : ¬ m.SourceNames i p.name)
      (hsplit : m.endpoints = before ++ e :: after) (he : e.entity = i) (h : e.Declares p)
      (hfirst : ∀ e' ∈ before, e'.entity = i → ¬ e'.Names p.name)
  | ancestor {a k : Nat} (hown : ¬ m.SourceNames i p.name)
      (hexposed : ∀ e ∈ m.endpoints, e.entity = i → ¬ e.Names p.name) (hk : 1 ≤ k) (ha : Steps m.parentsOf i k a)
      (h : m.SourceDeclares a p) (hleast : ∀ b l, 1 ≤ l → Steps m.parentsOf i l b → m.SourceNames b p.name → k ≤ l)

end Declarations

/-! ## Built models -/

end Model

theorem ParamDecl.checkAll_nodup {owner : String} {span : Option Span} {decls : List ParamDecl} {params : List Param}
    (h : checkAll owner span decls = .ok params) : (params.map Param.name).Nodup := by
  obtain ⟨-, hnodup, hall⟩ := (Checked.eachSeen_eq_ok (by simp [Checked.fail])).mp h
  rw [forall₂_map_eq hall]
  · exact hnodup
  · intro decl p hp
    rw [if_neg Bool.false_ne_true] at hp
    split at hp
    · cases hp; rfl
    · cases hp

namespace Model

variable {options : Options} {d : Document} {m : Model SourceExpr} {i : Nat} {name : String} {p q : Param}

theorem build_sources_nodup (h : Model.build options d = .ok m) : (m.sources.map Source.name).Nodup := by
  obtain ⟨hnodup, hall⟩ := SourceDecl.eachSeen_eq_ok.mp (build_eq_ok.mp h).1
  rw [forall₂_map_eq hall fun _ _ => SourceDecl.check_name]
  exact hnodup

theorem build_params_nodup (h : Model.build options d = .ok m) {s : Source} (hs : s ∈ m.sources) :
    (s.params.map Param.name).Nodup := by
  obtain ⟨decl, -, hcheck⟩ := forall₂_mem_right (SourceDecl.eachSeen_eq_ok.mp (build_eq_ok.mp h).1).2 hs
  unfold SourceDecl.check at hcheck
  rw [if_neg Bool.false_ne_true] at hcheck
  obtain ⟨params, hparams, rfl⟩ := map_eq_ok.mp hcheck
  exact ParamDecl.checkAll_nodup hparams

theorem build_endpoint_params_nodup (h : Model.build options d = .ok m) {e : Endpoint} (he : e ∈ m.endpoints) :
    (e.params.map Param.name).Nodup := by
  obtain ⟨decl, -, hcheck⟩ := forall₂_mem_right (EndpointDecl.eachSeen_eq_ok.mp (build_eq_ok.mp h).2.2.2.1).2 he
  unfold EndpointDecl.check at hcheck
  rw [if_neg Bool.false_ne_true] at hcheck
  split at hcheck
  · cases hcheck
  · obtain ⟨params, hparams, rfl⟩ := map_eq_ok.mp hcheck
    exact ParamDecl.checkAll_nodup hparams

theorem mem_sourceParams (h : Model.build options d = .ok m) : p ∈ m.sourceParams i ↔ m.SourceDeclares i p := by
  constructor
  · intro hp
    unfold sourceParams at hp
    cases hs : (m.entities[i]?.bind Entity.source).bind m.source? with
    | none => simp [hs] at hp
    | some s =>
      obtain ⟨name, hname, hfind⟩ := Option.bind_eq_some_iff.mp hs
      obtain ⟨e, he, hsource⟩ := Option.bind_eq_some_iff.mp hname
      have hsname : s.name = name := by simpa using List.find?_some hfind
      rw [hs] at hp
      exact ⟨e, s, he, List.mem_of_find?_eq_some hfind, hsname ▸ hsource, hp⟩
  · rintro ⟨e, s, he, hs, hsource, hp⟩
    have hfind : m.source? s.name = some s := find?_key_eq_some (build_sources_nodup h) hs
    simpa [sourceParams, he, hsource, hfind] using hp

theorem sourceDeclares_of_find? (h : Model.build options d = .ok m)
    (hp : (m.sourceParams i).find? (fun q => q.name == name) = some p) : m.SourceDeclares i p :=
  (mem_sourceParams h).mp (List.mem_of_find?_eq_some hp)

theorem mem_sourceParams_names (h : Model.build options d = .ok m) :
    name ∈ (m.sourceParams i).map Param.name ↔ m.SourceNames i name := by
  simp only [List.mem_map, mem_sourceParams h, SourceNames]

/-- A source declares one parameter of a name. -/
theorem SourceDeclares.eq (h : Model.build options d = .ok m) (hp : m.SourceDeclares i p) (hq : m.SourceDeclares i q)
    (hname : p.name = q.name) : p = q := by
  obtain ⟨e, s, he, hs, hsource, hp⟩ := hp
  obtain ⟨e', s', he', hs', hsource', hq⟩ := hq
  obtain rfl : e = e' := Option.some.inj (he.symm.trans he')
  have hsame : s.name = s'.name := Option.some.inj (hsource.symm.trans hsource')
  obtain rfl := List.inj_on_of_nodup_map (build_sources_nodup h) hs hs' hsame
  exact List.inj_on_of_nodup_map (build_params_nodup h hs) hp hq hname

/-- An endpoint declares one parameter of a name. -/
theorem declares_eq (h : Model.build options d = .ok m) {e : Endpoint} (he : e ∈ m.endpoints) (hp : e.Declares p)
    (hq : e.Declares q) (hname : p.name = q.name) : p = q := by
  rcases hp with hp | ⟨hp, -, hploc, hpty⟩ <;> rcases hq with hq | ⟨hq, -, hqloc, hqty⟩
  · exact List.inj_on_of_nodup_map (build_endpoint_params_nodup h he) hp hq hname
  · exact absurd (hname ▸ List.mem_map_of_mem hp) hq
  · exact absurd (hname ▸ List.mem_map_of_mem hq) hp
  · cases p
    cases q
    simp_all

/-! ## Ancestors -/

theorem parentsOf_lt (h : Model.build options d = .ok m) : ∀ a, ∀ b ∈ m.parentsOf a, b < m.entities.length := by
  intro a b hb
  unfold parentsOf at hb
  split at hb
  · next e he =>
    obtain ⟨p, hp, rfl⟩ := List.mem_map.mp hb
    obtain ⟨parent, hparent, -⟩ := (wellFormed_of_build h).parents e (List.mem_of_getElem? he) p hp
    exact (List.getElem?_eq_some_iff.mp hparent).1
  · cases hb

theorem ancestors_eq (h : Model.build options d = .ok m) (hi : i < m.entities.length) :
    m.ancestors i = (reach m.parentsOf m.entities.length i).drop 1 :=
  climb_eq_reach (parentsOf_lt h) hi

theorem mem_ancestors (h : Model.build options d = .ok m) (hi : i < m.entities.length) {a : Nat} :
    a ∈ m.ancestors i ↔ (∃ k, Steps m.parentsOf i k a) ∧ a ≠ i := by
  rw [ancestors_eq h hi, mem_drop_reach, mem_reach (parentsOf_lt h) hi, reflTransGen_iff_steps]

/-- Nearer ancestors are found first. -/
theorem ancestors_sorted (h : Model.build options d = .ok m) (hi : i < m.entities.length) :
    (m.ancestors i).Pairwise (Nearer m.parentsOf i) := by
  rw [ancestors_eq h hi]
  exact reach_sorted.sublist (List.drop_sublist 1 _)

/-- An ancestor that is found first is nearest. -/
theorem exists_least_steps (h : Model.build options d = .ok m) (hi : i < m.entities.length) {P : Nat → Prop} {a : Nat}
    {before after : List Nat} (hsplit : m.ancestors i = before ++ a :: after) (hbefore : ∀ b ∈ before, ¬ P b)
    (hstart : ¬ P i) :
    ∃ k, 1 ≤ k ∧ Steps m.parentsOf i k a ∧ ∀ b l, 1 ≤ l → Steps m.parentsOf i l b → P b → k ≤ l := by
  have hsorted := hsplit ▸ ancestors_sorted h hi
  obtain ⟨hexists, hne⟩ := (mem_ancestors h hi).mp (hsplit ▸ List.mem_append_cons_self)
  -- The shortest way to the ancestor is not longer than any way to one that comes later.
  classical
  obtain ⟨k, hk, hshortest⟩ : ∃ k, Steps m.parentsOf i k a ∧ ∀ l, Steps m.parentsOf i l a → k ≤ l :=
    ⟨Nat.find hexists, Nat.find_spec hexists, fun l hl => Nat.find_min' hexists hl⟩
  have hpos : 1 ≤ k := by
    cases hk with
    | zero => exact absurd rfl hne
    | succ => omega
  refine ⟨k, hpos, hk, fun b l _ hb hPb => ?_⟩
  have hbi : b ≠ i := fun heq => hstart (heq ▸ hPb)
  have hmem : b ∈ m.ancestors i := (mem_ancestors h hi).mpr ⟨⟨l, hb⟩, hbi⟩
  rw [hsplit, List.mem_append, List.mem_cons] at hmem
  rcases hmem with hb' | rfl | hb'
  · exact absurd hPb (hbefore b hb')
  · exact hshortest l hb
  · have hnear := (List.pairwise_cons.mp (List.pairwise_append.mp hsorted).2.1).1 b hb'
    obtain ⟨j, hj, hja⟩ := hnear l hb
    exact Nat.le_trans (hshortest j hja) hj

/-! ## What is found first -/

theorem mem_exposed_names : name ∈ ((m.endpointsOf i).flatMap Endpoint.allParams).map Param.name ↔
    ∃ e ∈ m.endpoints, e.entity = i ∧ e.Names name := by
  simp only [List.map_flatMap, List.mem_flatMap, Endpoint.mem_allParams_names, endpointsOf, List.mem_filter, beq_iff_eq,
    and_assoc]

theorem find?_exposed_eq_some
    (hp : ((m.endpointsOf i).flatMap Endpoint.allParams).find? (fun q => q.name == name) = some p) :
    ∃ before e after, m.endpoints = before ++ e :: after ∧ e.entity = i ∧ e.Declares p ∧
      ∀ e' ∈ before, e'.entity = i → ¬ e'.Names name := by
  rw [List.find?_flatMap, List.findSome?_eq_some_iff] at hp
  obtain ⟨earlier, e, later, hsplit, hfind, hearlier⟩ := hp
  rw [endpointsOf, List.filter_eq_append_iff] at hsplit
  obtain ⟨l, l', hendpoints, rfl, hl'⟩ := hsplit
  obtain ⟨skipped, after, rfl, hskipped, he, -⟩ := List.filter_eq_cons_iff.mp hl'
  refine ⟨l ++ skipped, e, after, by rw [hendpoints, List.append_assoc], by simpa using he,
    Endpoint.declares_of_find? hfind, fun e' he' hentity => ?_⟩
  rcases List.mem_append.mp he' with he' | he'
  · have hnone := hearlier e' (List.mem_filter.mpr ⟨he', by simpa using hentity⟩)
    rwa [find?_key_eq_none, Endpoint.mem_allParams_names] at hnone
  · exact absurd (by simpa using hentity) (hskipped e' he')

/-- What is found first is nearest. -/
theorem nearest_of_find? (h : Model.build options d = .ok m) (hi : i < m.entities.length)
    (hp : (m.reachableParams i).find? (fun q => q.name == p.name) = some p) : m.Nearest i p := by
  rw [reachableParams, List.find?_append, List.find?_append, Option.or_eq_some_iff, Option.or_eq_some_iff,
    Option.or_eq_none_iff, find?_key_eq_none, find?_key_eq_none, mem_sourceParams_names h, mem_exposed_names] at hp
  rcases hp with (hp | ⟨hown, hp⟩) | ⟨⟨hown, hexposed⟩, hp⟩
  · exact .own (sourceDeclares_of_find? h hp)
  · obtain ⟨before, e, after, hsplit, he, hdeclares, hfirst⟩ := find?_exposed_eq_some hp
    exact .endpoint hown hsplit he hdeclares hfirst
  · rw [List.find?_flatMap, List.findSome?_eq_some_iff] at hp
    obtain ⟨before, a, after, hsplit, hfind, hbefore⟩ := hp
    have hnone : ∀ b ∈ before, ¬ m.SourceNames b p.name := by
      intro b hb
      rw [← mem_sourceParams_names h]
      exact find?_key_eq_none.mp (hbefore b hb)
    obtain ⟨k, hk, ha, hleast⟩ := exists_least_steps h hi hsplit hnone hown
    exact .ancestor hown (fun e he hentity hnames => hexposed ⟨e, he, hentity, hnames⟩) hk ha
      (sourceDeclares_of_find? h hfind) hleast

/-- An entity sees a name exactly if something that it reaches declares it. -/
theorem mem_visibleParams_names (h : Model.build options d = .ok m) (hi : i < m.entities.length) :
    name ∈ (m.visibleParams i).map Param.name ↔
      m.SourceNames i name ∨ (∃ e ∈ m.endpoints, e.entity = i ∧ e.Names name) ∨
        ∃ a k, 1 ≤ k ∧ Steps m.parentsOf i k a ∧ m.SourceNames a name := by
  rw [visibleParams, mem_firsts_keys, reachableParams, List.map_append, List.map_append, List.mem_append,
    List.mem_append, mem_sourceParams_names h, mem_exposed_names, List.map_flatMap, List.mem_flatMap, or_assoc]
  simp only [mem_sourceParams_names h, mem_ancestors h hi]
  constructor
  · rintro (hown | hexposed | ⟨a, ⟨⟨k, hk⟩, hne⟩, hnames⟩)
    · exact .inl hown
    · exact .inr (.inl hexposed)
    · cases hk with
      | zero => exact absurd rfl hne
      | succ hk hstep => exact .inr (.inr ⟨a, _, by omega, hk.succ hstep, hnames⟩)
  · rintro (hown | hexposed | ⟨a, k, -, hk, hnames⟩)
    · exact .inl hown
    · exact .inr (.inl hexposed)
    · by_cases heq : a = i
      · exact .inl (heq ▸ hnames)
      · exact .inr (.inr ⟨a, ⟨⟨k, hk⟩, heq⟩, hnames⟩)

/-- An entity sees one parameter of each name that its own source, an endpoint that exposes it, or the source of an
ancestor declares, and of these the nearest. This holds whatever the parents are: an entity may be its own ancestor. -/
theorem visibleParams_nearest (h : Model.build options d = .ok m) (hi : i < m.entities.length) :
    ((m.visibleParams i).map Param.name).Nodup ∧
    (∀ name, name ∈ (m.visibleParams i).map Param.name ↔
      m.SourceNames i name ∨ (∃ e ∈ m.endpoints, e.entity = i ∧ e.Names name) ∨
        ∃ a k, 1 ≤ k ∧ Steps m.parentsOf i k a ∧ m.SourceNames a name) ∧
    (∀ p ∈ m.visibleParams i, m.Nearest i p) ∧
    (∀ a p q, m.SourceDeclares a p → m.SourceDeclares a q → p.name = q.name → p = q) ∧
    ∀ e ∈ m.endpoints, ∀ p q, e.Declares p → e.Declares q → p.name = q.name → p = q := by
  refine ⟨firsts_keys_nodup _ _, fun name => mem_visibleParams_names h hi, fun p hp => ?_, ?_, ?_⟩
  · exact nearest_of_find? h hi (mem_firsts.mp hp)
  · exact fun a p q hp hq hname => hp.eq h hq hname
  · exact fun e he p q hp hq hname => declares_eq h he hp hq hname

/-- Loads on trucks, where a load is made from loads, and whatever it is made from is made from loads again. Trucks are
nearer to a load than depots are, by one of two ways. -/
def loads : Document :=
  { sources := [
      { name := "dock", params := [{ name := "lang", type := "string" }, { name := "unit" }] },
      { name := "mill", params := [{ name := "lang" }, { name := "rate", type := "number" }] }]
    entities := [
      { name := "Load", parents := [{ entity := "Load" }, { entity := "Crate" }, { entity := "Truck" }] },
      { name := "Crate", parents := [{ entity := "Truck" }, { entity := "Load" }] },
      { name := "Truck", source := some "dock", parents := [{ entity := "Depot" }] },
      { name := "Depot", source := some "mill", parents := [{ entity := "Truck" }, { entity := "Load" }] }]
    endpoints := [
      { name := "load", entity := "Load", operation := .read, path := "/loads/\x7bid\x7d/\x7bunit\x7d"
        params := [{ name := "id", location := .header }] }] }

/-- What a load sees: its endpoint asks for `id` and `unit`, its trucks have `lang`, and only its depots have `rate`. -/
def loadParams : List Param :=
  [{ name := "id", location := .header, ty := .any }, { name := "unit", location := .path, ty := .any },
    { name := "lang", location := .query, ty := .string }, { name := "rate", location := .query, ty := .number }]

theorem loads_nearest : ∃ m, Model.build {} loads = .ok m ∧ m.visibleParams 0 = loadParams ∧
    (∀ p ∈ loadParams, m.Nearest 0 p) ∧
    ∀ name, name ∈ loadParams.map Param.name ↔ m.SourceNames 0 name ∨ (∃ e ∈ m.endpoints, e.entity = 0 ∧ e.Names name) ∨
      ∃ a k, 1 ≤ k ∧ Steps m.parentsOf 0 k a ∧ m.SourceNames a name := by
  have hparams : ((Model.build {} loads).toOption.map fun m => (m.entities.length, m.visibleParams 0)) =
      some (4, loadParams) := by decide +kernel
  obtain ⟨m, hm, hparams⟩ := Option.map_eq_some_iff.mp hparams
  obtain ⟨hlength, hparams⟩ := Prod.mk.inj hparams
  have hm := toOption_eq_some.mp hm
  obtain ⟨-, hnames, hnearest, -, -⟩ := visibleParams_nearest hm (i := 0) (by omega)
  rw [hparams] at hnames hnearest
  exact ⟨m, hm, hparams, hnearest, hnames⟩

end Model

end Tributary
