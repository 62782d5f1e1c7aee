import Tributary.Proofs.Graph.Parents
import Tributary.Proofs.Graph.Reach

/-!
# Orphans

An entity is an orphan if no way along declared parents leads from it to one with a source. Parents may go in circles.

* `Feed.pass_settle` : the passes end because one finds nothing;
* `Feed.settle_iff` : what is fed then has a way to what was fed at first;
* `Model.entityRules_ne_orphan`, `Model.cycleRule_ne_orphan` : no other rule reports an orphan;
* `Model.orphanRule_eq` : the rule reports the entities from which no source is reached, in order;
* `Drawn.mem_orphans` : these are the orphans of the document;
* `Drawn.count_orphan` : an entity is reported as an orphan if it is one, and never twice.
-/

namespace Tributary

open Relation

/-! ## What is fed -/

namespace Feed

open Schedule

def fires (fed : List Bool) (p : List Nat × Nat) : Bool :=
  (fed[p.2]? == some false) && p.1.any fun need => fed[need]? == some true

theorem visit_eq (s : List Bool × Bool) (p : List Nat × Nat) :
    visit s p = if fires s.1 p then (s.1.set p.2 true, true) else s := rfl

theorem count_set_lt {fed : List Bool} {i : Nat} (h : fed[i]? = some false) :
    (fed.set i true).count false < fed.count false := by
  obtain ⟨hlt, hi⟩ := List.getElem?_eq_some_iff.mp h
  have hpos : 0 < fed.count false := List.count_pos_iff.mpr (hi ▸ List.getElem_mem hlt)
  rw [List.count_set hlt, hi]
  change fed.count false - 1 + 0 < fed.count false
  omega

theorem getElem?_of_fires {fed : List Bool} {p : List Nat × Nat} (h : fires fed p = true) : fed[p.2]? = some false :=
  beq_iff_eq.mp (Bool.and_eq_true_iff.mp h).1

/-- A pass that has found something leaves fewer nodes to feed. -/
theorem count_foldl_visit (ps : List (List Nat × Nat)) (s : List Bool × Bool) :
    (ps.foldl visit s).1.count false ≤ s.1.count false ∧ (s.2 = true → (ps.foldl visit s).2 = true) ∧
      (s.2 = false → (ps.foldl visit s).2 = true → (ps.foldl visit s).1.count false < s.1.count false) := by
  induction ps generalizing s with
  | nil => exact ⟨Nat.le_refl _, id, fun hno hyes => absurd (hno.symm.trans hyes) Bool.false_ne_true⟩
  | cons p ps ih =>
    rw [List.foldl_cons, visit_eq]
    by_cases hfires : fires s.1 p = true
    · rw [if_pos hfires]
      obtain ⟨hle, hkeep, -⟩ := ih (s.1.set p.2 true, true)
      dsimp only at hle
      have hlt := count_set_lt (getElem?_of_fires hfires)
      exact ⟨by omega, fun _ => hkeep rfl, fun _ _ => by omega⟩
    · rw [if_neg hfires]
      exact ih s

/-- A pass that has found nothing has changed nothing, and there is nothing to find. -/
theorem of_foldl_visit_eq_false {ps : List (List Nat × Nat)} {s : List Bool × Bool}
    (h : (ps.foldl visit s).2 = false) : ps.foldl visit s = s ∧ ∀ p ∈ ps, fires s.1 p = false := by
  induction ps generalizing s with
  | nil => exact ⟨rfl, by simp⟩
  | cons p ps ih =>
    rw [List.foldl_cons, visit_eq] at h ⊢
    by_cases hfires : fires s.1 p = true
    · rw [if_pos hfires] at h
      have hkeep := (count_foldl_visit ps (s.1.set p.2 true, true)).2.1 rfl
      exact absurd (h.symm.trans hkeep) Bool.false_ne_true
    · rw [if_neg hfires] at h ⊢
      exact ⟨(ih h).1, List.forall_mem_cons.mpr ⟨Bool.eq_false_of_not_eq_true hfires, (ih h).2⟩⟩

theorem settle_succ (needs : Needs) (n : Nat) (fed : List Bool) : settle needs (n + 1) fed =
    if (pass needs fed).2 then settle needs n (pass needs fed).1 else (pass needs fed).1 := rfl

theorem pass_settle (needs : Needs) {n : Nat} {fed : List Bool} (hn : fed.count false < n) :
    pass needs (settle needs n fed) = (settle needs n fed, false) := by
  induction n generalizing fed with
  | zero => omega
  | succ n ih =>
    rw [settle_succ]
    cases hchanged : (pass needs fed).2 with
    | true =>
      have hlt := (count_foldl_visit needs.zipIdx (fed, false)).2.2 rfl hchanged
      rw [if_pos rfl]
      exact ih (show (pass needs fed).1.count false < n from Nat.lt_of_lt_of_le hlt (Nat.le_of_lt_succ hn))
    | false =>
      have hsame : pass needs fed = (fed, false) := (of_foldl_visit_eq_false hchanged).1
      rw [if_neg Bool.false_ne_true, hsame]
      exact hsame

def IsFed (needs : Needs) (fed : List Bool) (i : Nat) : Prop :=
  ∃ k, ReflTransGen (Leads needs) i k ∧ fed[k]? = some true

/-- What visits have done: what was fed stays fed, and what is fed has a way to it. -/
structure Grown (needs : Needs) (fed fed' : List Bool) : Prop where
  length : fed'.length = fed.length
  keeps : ∀ i : Nat, fed[i]? = some true → fed'[i]? = some true
  isFed : ∀ i : Nat, fed'[i]? = some true → IsFed needs fed i

section Grown
variable {needs : Needs} {fed fed' : List Bool}

theorem Grown.refl (needs : Needs) (fed : List Bool) : Grown needs fed fed :=
  ⟨rfl, fun _ h => h, fun i h => ⟨i, .refl, h⟩⟩

theorem Grown.visit {changed : Bool} {p : List Nat × Nat} (h : Grown needs fed fed') (hlen : fed.length = needs.length)
    (hp : p ∈ needs.zipIdx) : Grown needs fed (visit (fed', changed) p).1 := by
  rw [visit_eq]
  by_cases hfires : fires fed' p = true
  · rw [if_pos hfires]
    refine ⟨by rw [List.length_set, h.length], fun i hi => ?_, fun i hi => ?_⟩
    · rw [List.getElem?_set]
      have hi := h.keeps i hi
      split
      · next heq => rw [if_pos (heq ▸ (List.getElem?_eq_some_iff.mp hi).1)]
      · exact hi
    · rw [List.getElem?_set] at hi
      split at hi
      · next heq =>
        subst heq
        obtain ⟨need, hneed, hfed⟩ := List.any_eq_true.mp (Bool.and_eq_true_iff.mp hfires).2
        have hfed := beq_iff_eq.mp hfed
        have hlt : need < needs.length := hlen ▸ h.length ▸ (List.getElem?_eq_some_iff.mp hfed).1
        have hleads : Leads needs p.2 need :=
          leads_iff.mpr ⟨p.1, List.mem_zipIdx_iff_getElem?.mp hp, hneed, hlt⟩
        obtain ⟨k, hway, hk⟩ := h.isFed need hfed
        exact ⟨k, .head hleads hway, hk⟩
      · exact h.isFed i hi
  · rw [if_neg hfires]
    exact h

theorem Grown.foldl_visit {changed : Bool} {ps : List (List Nat × Nat)} (h : Grown needs fed fed')
    (hlen : fed.length = needs.length) (hps : ∀ p ∈ ps, p ∈ needs.zipIdx) :
    Grown needs fed (ps.foldl Feed.visit (fed', changed)).1 := by
  induction ps generalizing fed' changed with
  | nil => exact h
  | cons p ps ih =>
    obtain ⟨hp, hps⟩ := List.forall_mem_cons.mp hps
    exact ih (h.visit hlen hp) hps

theorem Grown.settle {n : Nat} (h : Grown needs fed fed') (hlen : fed.length = needs.length) :
    Grown needs fed (settle needs n fed') := by
  induction n generalizing fed' with
  | zero => exact h
  | succ n ih =>
    rw [settle_succ]
    have hpass : Grown needs fed (pass needs fed').1 := h.foldl_visit hlen fun _ hp => hp
    cases hchanged : (pass needs fed').2 with
    | true => exact ih hpass
    | false => exact hpass

/-- Where there is nothing to find, a node that leads to a fed one is fed. -/
theorem getElem?_of_leads (hstable : pass needs fed = (fed, false)) (hlen : fed.length = needs.length) {i j : Nat}
    (hleads : Leads needs i j) (hj : fed[j]? = some true) : fed[i]? = some true := by
  obtain ⟨own, hown, hmem, -⟩ := leads_iff.mp hleads
  have hnone := (of_foldl_visit_eq_false (congrArg Prod.snd hstable)).2 (own, i) (List.mem_zipIdx_iff_getElem?.mpr hown)
  have hlt : i < fed.length := hlen ▸ hleads.lt_left
  have hany : own.any (fun need => fed[need]? == some true) = true := List.any_eq_true.mpr ⟨j, hmem, by simp [hj]⟩
  rw [fires, hany, Bool.and_true, beq_eq_false_iff_ne, List.getElem?_eq_getElem hlt] at hnone
  rw [List.getElem?_eq_getElem hlt]
  exact congrArg some (Bool.eq_true_of_not_eq_false fun heq => hnone (congrArg some heq))

theorem settle_iff {n i : Nat} (hlen : fed.length = needs.length) (hn : fed.count false < n) :
    (settle needs n fed)[i]? = some true ↔ IsFed needs fed i := by
  have hgrown : Grown needs fed (Feed.settle needs n fed) := (Grown.refl needs fed).settle hlen
  refine ⟨hgrown.isFed i, ?_⟩
  rintro ⟨k, hway, hk⟩
  induction hway using ReflTransGen.head_induction_on with
  | refl => exact hgrown.keeps k hk
  | head hleads _ ih => exact getElem?_of_leads (pass_settle needs hn) (hgrown.length.trans hlen) hleads ih

end Grown

end Feed

/-! ## What the rules report -/

section Rules
variable {ε : Type}

theorem Model.entityRules_ne_orphan (m : Model ε) (e : Entity ε) (i : Nat) (name : String) :
    ∀ x ∈ m.entityRules e i, x.problem ≠ .orphan name := by
  unfold Model.entityRules
  simp only [List.forall_mem_append]
  refine ⟨⟨⟨⟨⟨⟨⟨⟨⟨?_, ?_⟩, ?_⟩, ?_⟩, ?_⟩, ?_⟩, ?_⟩, ?_⟩, ?_⟩, ?_⟩
  · unfold Entity.mutationRule; grind [Entity.diagnose]
  · unfold Entity.compositeRule; grind [Entity.diagnose]
  · unfold Model.singletonRule; grind [Entity.diagnose]
  · unfold Model.joinRule; grind [Entity.diagnose]
  · unfold Entity.filterRule; grind [Entity.diagnoseField]
  · unfold Entity.readonlyRule; grind [Entity.diagnose]
  · unfold Entity.inputRule; grind [Entity.diagnose, Entity.diagnoseField]
  · unfold Entity.inputRule; grind [Entity.diagnose, Entity.diagnoseField]
  · intro x hx
    obtain ⟨a, -, hx⟩ := List.mem_filterMap.mp hx
    obtain ⟨c, -, rfl⟩ := Option.map_eq_some_iff.mp hx
    exact Problem.noConfusion
  · unfold Entity.identityRule; grind [Entity.diagnose, Entity.diagnoseField]

theorem Model.cycleRule_ne_orphan (m : Model ε) (needs : Schedule.Needs) (name : String) :
    ∀ x ∈ m.cycleRule needs, x.problem ≠ .orphan name := by
  intro x hx
  obtain ⟨cycle, -, rfl⟩ := List.mem_map.mp hx
  exact Problem.noConfusion

def Model.orphans (m : Model ε) (needs : Schedule.Needs) : List (Entity ε × Nat) :=
  m.entities.zipIdx.filter fun p => !(reach (Schedule.needsOf needs) needs.length p.2).any m.hasSource

/-- The rule finds by its passes which entities reach a source. -/
theorem Model.settle_sources (m : Model ε) {needs : Schedule.Needs} (hlen : m.entities.length = needs.length) :
    Feed.settle needs (needs.length + 1) (m.entities.map fun e => e.source.isSome)
      = (List.range m.entities.length).map fun i => (reach (Schedule.needsOf needs) needs.length i).any m.hasSource := by
  have hfed : (m.entities.map fun e => e.source.isSome).length = needs.length := by rw [List.length_map, hlen]
  have hcount : (m.entities.map fun e => e.source.isSome).count false < needs.length + 1 :=
    Nat.lt_succ_of_le (hfed ▸ List.count_le_length)
  have hgrown := (Feed.Grown.refl needs (m.entities.map fun e => e.source.isSome)).settle hfed (n := needs.length + 1)
  refine List.ext_getElem (by rw [hgrown.length, List.length_map, List.length_map, List.length_range]) fun i hi hi' => ?_
  have hlt : i < needs.length := by simpa [hlen] using hi'
  rw [List.getElem_map, List.getElem_range, Bool.eq_iff_iff, List.any_eq_true]
  have hiff := Feed.settle_iff (i := i) hfed hcount
  rw [List.getElem?_eq_getElem hi, Option.some_inj] at hiff
  rw [hiff]
  refine exists_congr fun k => and_congr ?_ ?_
  · exact (mem_reach (fun _ _ hb => Schedule.Leads.lt_right hb) hlt).symm
  · rw [Model.hasSource, List.getElem?_map]
    cases m.entities[k]? <;> simp

theorem Model.orphanRule_eq (m : Model ε) {needs : Schedule.Needs} (hlen : m.entities.length = needs.length) :
    m.orphanRule needs = (m.orphans needs).map fun p => p.1.diagnose (.orphan p.1.name) := by
  have hzip : m.entities.zip ((List.range m.entities.length).map fun i =>
      (reach (Schedule.needsOf needs) needs.length i).any m.hasSource)
      = m.entities.zipIdx.map fun p => (p.1, (reach (Schedule.needsOf needs) needs.length p.2).any m.hasSource) := by
    rw [List.zipIdx_eq_zip_range', List.zip_map_right, List.range_eq_range']
    rfl
  rw [Model.orphanRule, Model.settle_sources m hlen, hzip, List.filterMap_map, Model.orphans]
  induction m.entities.zipIdx with
  | nil => rfl
  | cons p ps ih =>
    rw [List.filterMap_cons, List.filter_cons]
    cases hp : (reach (Schedule.needsOf needs) needs.length p.2).any m.hasSource with
    | true => simpa [hp] using ih
    | false => simpa [hp] using ih

end Rules

theorem Checked.diagnostics_report {α : Type} (ds : List Diagnostic) (a : α) : (report ds a).diagnostics = ds := by
  cases ds <;> rfl

/-! ## Orphans of a document -/

/-- A way along declared parents leads to an entity with a source. -/
def Document.ReachesSource (d : Document) (i : Nat) : Prop := ∃ k, ReflTransGen d.Declares i k ∧ d.IsSourced k

namespace Drawn

variable {options : Options} {d : Document} {m : Model SourceExpr} {b : Model BoundExpr} {g : Graph} {i : Nat}
  {decl : EntityDecl}

theorem mem_reach_needs (h : Drawn options d m b g) (hi : i < d.entities.length) {k : Nat} :
    k ∈ reach (Schedule.needsOf g.adjacency) g.adjacency.length i ↔ ReflTransGen d.Declares i k := by
  have hrel : (fun x y => y ∈ Schedule.needsOf g.adjacency x) = d.Declares :=
    funext₂ fun x y => propext h.leads_iff
  rw [mem_reach (fun _ _ hb => Schedule.Leads.lt_right hb) (h.adjacency_length ▸ hi), hrel]

theorem mem_orphans (h : Drawn options d m b g) {e : Entity BoundExpr} :
    (e, i) ∈ b.orphans g.adjacency ↔ b.entities[i]? = some e ∧ ¬ d.ReachesSource i := by
  rw [Model.orphans, List.mem_filter, List.mem_zipIdx_iff_getElem?]
  refine and_congr_right fun hi => ?_
  have hlt : i < d.entities.length := h.length_eq ▸ (List.getElem?_eq_some_iff.mp hi).1
  simp only [Bool.not_eq_true', List.any_eq_false, h.mem_reach_needs hlt, h.hasSource_iff]
  simp only [Document.ReachesSource, not_exists, not_and]

theorem entities_length (h : Drawn options d m b g) : b.entities.length = g.adjacency.length :=
  h.length_eq.trans h.adjacency_length.symm

theorem orphanRule_problems (h : Drawn options d m b g) : (b.orphanRule g.adjacency).map Diagnostic.problem =
    ((b.orphans g.adjacency).map fun p => p.1.name).map Problem.orphan := by
  rw [Model.orphanRule_eq b h.entities_length, List.map_map, List.map_map]
  rfl

theorem orphanRule_nodup (h : Drawn options d m b g) :
    ((b.orphanRule g.adjacency).map Diagnostic.problem).Nodup := by
  have hsub : ((b.orphans g.adjacency).map Prod.fst).Sublist b.entities := by
    have hfilter := (List.filter_sublist : (b.orphans g.adjacency).Sublist b.entities.zipIdx).map Prod.fst
    rwa [List.zipIdx_map_fst] at hfilter
  have hnames : ((b.orphans g.adjacency).map fun p => p.1.name).Nodup := by
    have hnodup := h.names_nodup.sublist (hsub.map Entity.name)
    rwa [List.map_map] at hnodup
  rw [h.orphanRule_problems]
  exact hnames.map fun _ _ => Problem.orphan.inj

theorem mem_orphanRule (h : Drawn options d m b g) (hi : d.entities[i]? = some decl) :
    .orphan decl.name ∈ (b.orphanRule g.adjacency).map Diagnostic.problem ↔ ¬ d.ReachesSource i := by
  obtain ⟨e, he, hname, -⟩ := h.entity hi
  rw [h.orphanRule_problems, List.mem_map_of_injective fun _ _ => Problem.orphan.inj, List.mem_map]
  constructor
  · rintro ⟨⟨e', k⟩, hk, hname'⟩
    obtain ⟨hek, hnot⟩ := h.mem_orphans.mp hk
    obtain rfl := place_eq_of_key_eq h.names_nodup hek he (hname'.trans hname.symm)
    exact hnot
  · intro hnot
    exact ⟨(e, i), h.mem_orphans.mpr ⟨he, hnot⟩, hname⟩

/-- An entity is reported as an orphan if it is one, and never twice. -/
theorem count_orphan (h : Drawn options d m b g) (hallow : options.allowOrphans = false)
    (hi : d.entities[i]? = some decl) :
    (((b.validate g options).diagnostics.map Diagnostic.problem).count (.orphan decl.name) = 1 ↔
      ¬ d.ReachesSource i) ∧
    ((b.validate g options).diagnostics.map Diagnostic.problem).count (.orphan decl.name) ≤ 1 := by
  have hother : Problem.orphan decl.name ∉
      (b.entities.zipIdx.flatMap (fun p => b.entityRules p.1 p.2) ++ b.cycleRule g.adjacency).map Diagnostic.problem := by
    intro hmem
    obtain ⟨x, hx, hproblem⟩ := List.mem_map.mp hmem
    rcases List.mem_append.mp hx with hx | hx
    · obtain ⟨p, -, hx⟩ := List.mem_flatMap.mp hx
      exact b.entityRules_ne_orphan p.1 p.2 decl.name x hx hproblem
    · exact b.cycleRule_ne_orphan g.adjacency decl.name x hx hproblem
  have hnodup := h.orphanRule_nodup
  have hcount : ((b.validate g options).diagnostics.map Diagnostic.problem).count (.orphan decl.name) =
      ((b.orphanRule g.adjacency).map Diagnostic.problem).count (.orphan decl.name) := by
    rw [Model.validate, Checked.diagnostics_report, Model.violations, hallow, if_neg Bool.false_ne_true,
      List.map_append, List.count_append, List.count_eq_zero.mpr hother, Nat.zero_add]
  rw [hcount, ← h.mem_orphanRule hi]
  refine ⟨⟨fun hone => ?_, List.count_eq_one_of_mem hnodup⟩, List.nodup_iff_count_le_one.mp hnodup _⟩
  exact List.count_pos_iff.mp (by omega)

end Drawn

end Tributary
