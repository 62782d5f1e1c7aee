import Mathlib.Data.List.Nodup
import Mathlib.Logic.Relation
import Tributary.Plan.Basic

/-!
# What an entity needs before it

The worklist of a plan puts an entity aside when its name is first needed, and looks at what it requires in turn.

* `Plan.Requires p name need` : the entity of a name requires another;
* `Plan.mem_needed_foldl`, `Plan.mem_pending_foldl` : what is needed and what is put aside by a list of names;
* `Plan.Sought` : what holds between two looks; `Plan.Sought.look` : that it does;
* `Plan.mem_demand` : in the end all is needed that a way of requirements leads to, and nothing else.
-/

namespace Tributary.Plan

open Relation

def Requires (p : Plan) (name need : String) : Prop := ∃ e, p.entity? name = some e ∧ need ∈ e.requires

section Require
variable {p : Plan} {s : Demand} {name need : String} {e : EntityPlan}

theorem mem_needed_require : need ∈ (p.require s name).needed ↔ need ∈ s.needed ∨ need = name := by
  unfold require
  split
  · next hmem =>
    refine ⟨.inl, ?_⟩
    rintro (h | rfl)
    · exact h
    · exact List.contains_iff_mem.mp hmem
  · rw [Sorted.mem_insert fun _ _ => Std.LawfulEqCmp.eq_of_compare, or_comm]

theorem mem_pending_require :
    e ∈ (p.require s name).pending ↔ e ∈ s.pending ∨ name ∉ s.needed ∧ p.entity? name = some e := by
  unfold require
  split
  · next hmem => simp [List.contains_iff_mem.mp hmem]
  · next hmem => simp [List.contains_iff_mem.not.mp hmem, or_comm]

theorem mem_needed_foldl (names : List String) (s : Demand) :
    need ∈ (names.foldl p.require s).needed ↔ need ∈ s.needed ∨ need ∈ names := by
  induction names generalizing s with
  | nil => simp
  | cons name names ih => rw [List.foldl_cons, ih, mem_needed_require, List.mem_cons, or_assoc]

theorem mem_pending_foldl (names : List String) (s : Demand) :
    e ∈ (names.foldl p.require s).pending ↔
      e ∈ s.pending ∨ ∃ name ∈ names, name ∉ s.needed ∧ p.entity? name = some e := by
  induction names generalizing s with
  | nil => simp
  | cons name names ih =>
    rw [List.foldl_cons, ih, mem_pending_require, or_assoc]
    refine or_congr_right ?_
    constructor
    · rintro (⟨hname, he⟩ | ⟨other, hother, hnew, he⟩)
      · exact ⟨name, List.mem_cons_self, hname, he⟩
      · exact ⟨other, List.mem_cons_of_mem _ hother, fun hmem => hnew (mem_needed_require.mpr (.inl hmem)), he⟩
    · rintro ⟨other, hother, hnew, he⟩
      by_cases heq : other = name
      · exact .inl (heq ▸ ⟨hnew, he⟩)
      · refine .inr ⟨other, (List.mem_cons.mp hother).resolve_left heq, fun hmem => ?_, he⟩
        exact (mem_needed_require.mp hmem).elim hnew heq

end Require

/-! ## The looks that are needed -/

/-- The looks that may still be needed: one for each entity put aside, and one for each whose name is not needed yet. -/
def looks (p : Plan) (s : Demand) : Nat := s.pending.length + p.entities.countP fun e => !s.needed.contains e.name

section Looks
variable {p : Plan} {s : Demand} {name : String} {needed : List String}

theorem countP_insert_le (es : List EntityPlan) (needed : List String) (name : String) :
    (es.countP fun e => !(Sorted.insert compare name needed).contains e.name)
      ≤ es.countP fun e => !needed.contains e.name := by
  refine List.countP_mono_left fun e _ h => ?_
  simp only [Bool.not_eq_true', ← Bool.not_eq_true, List.contains_iff_mem] at h ⊢
  exact fun hmem => h ((Sorted.mem_insert fun _ _ => Std.LawfulEqCmp.eq_of_compare).mpr (.inr hmem))

theorem countP_insert_lt {e : EntityPlan} (he : p.entity? name = some e) (hnew : name ∉ needed) :
    (p.entities.countP fun e => !(Sorted.insert compare name needed).contains e.name)
      < p.entities.countP fun e => !needed.contains e.name := by
  have hname : e.name = name := by simpa using List.find?_some he
  obtain ⟨before, after, hsplit⟩ := List.append_of_mem (List.mem_of_find?_eq_some he)
  have hbefore := countP_insert_le before needed name
  have hafter := countP_insert_le after needed name
  have hgone : (!(Sorted.insert compare name needed).contains e.name) = false := by
    simp [hname, Sorted.mem_insert fun a b (h : compare a b = .eq) => Std.LawfulEqCmp.eq_of_compare h]
  have hcounted : (!needed.contains e.name) = true := by simp [hname, hnew]
  rw [hsplit, List.countP_append, List.countP_append, List.countP_cons, List.countP_cons, hgone, hcounted]
  simp only [Bool.false_eq_true, if_false, if_true]
  omega

theorem looks_require_le : p.looks (p.require s name) ≤ p.looks s := by
  unfold require
  split
  · exact Nat.le_refl _
  · next hnew =>
    rw [List.contains_iff_mem] at hnew
    cases he : p.entity? name with
    | none => exact Nat.add_le_add_left (countP_insert_le p.entities s.needed name) _
    | some e =>
      have hlt := countP_insert_lt he hnew
      simp only [looks, Option.toList_some, List.singleton_append, List.length_cons]
      omega

theorem looks_foldl_le (names : List String) (s : Demand) : p.looks (names.foldl p.require s) ≤ p.looks s := by
  induction names generalizing s with
  | nil => exact Nat.le_refl _
  | cons name names ih => exact Nat.le_trans (ih _) looks_require_le

end Looks

/-! ## What is needed in the end -/

/-- What holds between two looks: all that is needed is required on some way, and an entity whose name is needed is put
aside, or all that it requires is needed. -/
structure Sought (p : Plan) (start : String) (s : Demand) : Prop where
  needed : ∀ name ∈ s.needed, TransGen p.Requires start name
  pending : ∀ e ∈ s.pending, ∃ name, ReflTransGen p.Requires start name ∧ p.entity? name = some e
  closed : ∀ name e, name = start ∨ name ∈ s.needed → p.entity? name = some e →
    e ∈ s.pending ∨ ∀ need ∈ e.requires, need ∈ s.needed

section Sought
variable {p : Plan} {start : String} {e : EntityPlan} {needed : List String} {pending : List EntityPlan}

theorem Sought.initial (he : p.entity? start = some e) : Sought p start { pending := [e] } where
  needed := by simp
  pending e' he' := by
    obtain rfl := List.mem_singleton.mp he'
    exact ⟨start, .refl, he⟩
  closed name e' hname he' := by
    obtain rfl := hname.resolve_right List.not_mem_nil
    obtain rfl := Option.some.inj (he.symm.trans he')
    exact .inl (List.mem_singleton_self _)

theorem Sought.look (h : Sought p start ⟨needed, e :: pending⟩) :
    Sought p start (e.requires.foldl p.require ⟨needed, pending⟩) := by
  obtain ⟨own, hown, he⟩ := h.pending e List.mem_cons_self
  have hreached : ∀ need ∈ e.requires, TransGen p.Requires start need :=
    fun need hneed => .tail' hown ⟨e, he, hneed⟩
  refine ⟨fun name hname => ?_, fun e' he' => ?_, fun name e' hname he' => ?_⟩
  · rcases (mem_needed_foldl _ _).mp hname with hname | hname
    · exact h.needed name hname
    · exact hreached name hname
  · rcases (mem_pending_foldl _ _).mp he' with he' | ⟨name, hname, -, he'⟩
    · exact h.pending e' (List.mem_cons_of_mem _ he')
    · exact ⟨name, (hreached name hname).to_reflTransGen, he'⟩
  · have hgrown : ∀ need, need ∈ needed → need ∈ (e.requires.foldl p.require ⟨needed, pending⟩).needed :=
      fun need hneed => (mem_needed_foldl _ _).mpr (.inl hneed)
    -- A name is needed for the first time now, or its entity was looked after before.
    by_cases hold : name = start ∨ name ∈ needed
    · rcases h.closed name e' hold he' with hpending | hall
      · rcases List.mem_cons.mp hpending with rfl | hpending
        · exact .inr fun need hneed => (mem_needed_foldl _ _).mpr (.inr hneed)
        · exact .inl ((mem_pending_foldl _ _).mpr (.inl hpending))
      · exact .inr fun need hneed => hgrown need (hall need hneed)
    · obtain ⟨hstart, hnew⟩ := not_or.mp hold
      have hname := ((mem_needed_foldl _ _).mp (hname.resolve_left hstart)).resolve_left hnew
      exact .inl ((mem_pending_foldl _ _).mpr (.inr ⟨name, hname, hnew, he'⟩))

theorem Sought.mem_iff (h : Sought p start ⟨needed, []⟩) (name : String) :
    name ∈ needed ↔ TransGen p.Requires start name := by
  refine ⟨h.needed name, fun hway => ?_⟩
  have hstep : ∀ name need, name = start ∨ name ∈ needed → p.Requires name need → need ∈ needed := by
    rintro name need hname ⟨e, he, hneed⟩
    exact (h.closed name e hname he).resolve_left List.not_mem_nil need hneed
  induction hway with
  | single hfirst => exact hstep start _ (.inl rfl) hfirst
  | tail _ hnext ih => exact hstep _ _ (.inr ih) hnext

theorem Sought.mem_demand {n : Nat} {s : Demand} (h : Sought p start s) (hn : p.looks s ≤ n) (name : String) :
    name ∈ p.demand n s ↔ TransGen p.Requires start name := by
  induction n generalizing s with
  | zero =>
    obtain ⟨needed, pending⟩ := s
    obtain rfl : pending = [] := List.eq_nil_of_length_eq_zero (by rw [looks] at hn; dsimp only at hn; omega)
    exact h.mem_iff name
  | succ n ih =>
    obtain ⟨needed, pending⟩ := s
    cases pending with
    | nil => exact h.mem_iff name
    | cons e pending =>
      refine ih h.look (Nat.le_trans (looks_foldl_le _ _) ?_)
      rw [looks, List.length_cons] at hn
      rw [looks]
      dsimp only at hn ⊢
      omega

end Sought

theorem mem_demand {p : Plan} {start : String} {e : EntityPlan} (he : p.entity? start = some e) (name : String) :
    name ∈ p.demand (p.entities.length + 1) { pending := [e] } ↔ TransGen p.Requires start name := by
  refine (Sought.initial he).mem_demand ?_ name
  have hle := List.countP_le_length (p := fun e : EntityPlan => !([] : List String).contains e.name) (l := p.entities)
  rw [looks, List.length_singleton]
  dsimp only
  omega

end Tributary.Plan
