import Mathlib.Data.List.Nodup
import Mathlib.Data.List.Sort
import Tributary.Distinct

/-!
# Lists without repetition

* `firsts_keys_nodup`, `mem_firsts_keys` : the first items of their keys have each key once;
* `mem_firsts` : they are those that are found by their keys;
* `firsts_subset`, `firsts_eq_self` : they are items of the list, and all of them where keys are distinct;
* `nodup_eraseDups` : no item is left twice;
* `place_eq_of_key_eq`, `find?_key_eq_some`, `lookup_eq_some_of_mem` : looking up a key where keys are distinct;
* `lookup_isSome` : the keys that something is found for;
* `filter_filterMap_eq` : what is made of the item of a key;
* `Sorted.ofList_sorted`, `Sorted.ofList_perm` : a sorted list is strictly increasing, and keeps what is distinct;
* `Sorted.eq_of_mem_iff` : sorted lists with the same items are the same;
* `Sorted.arrange_eq_insertionSort` : arranging a list is sorting it.
-/

namespace Tributary

section Firsts
variable {α κ : Type} [BEq κ]

theorem firsts_subset (key : α → κ) (l : List α) : ∀ a ∈ firsts key l, a ∈ l := by
  induction l with
  | nil => simp [firsts]
  | cons b bs ih =>
    intro a ha
    rw [firsts, List.mem_cons, List.mem_filter] at ha
    rcases ha with rfl | ⟨ha, -⟩
    · exact List.mem_cons_self
    · exact List.mem_cons_of_mem _ (ih a ha)

variable [LawfulBEq κ]

theorem firsts_keys_nodup (key : α → κ) (l : List α) : ((firsts key l).map key).Nodup := by
  induction l with
  | nil => simp [firsts]
  | cons b bs ih =>
    rw [firsts, List.map_cons, List.nodup_cons]
    constructor
    · intro hmem
      obtain ⟨a, ha, hkey⟩ := List.mem_map.mp hmem
      simp [hkey] at ha
    · exact ih.sublist (List.filter_sublist.map key)

theorem mem_firsts_keys {key : α → κ} {l : List α} {k : κ} : k ∈ (firsts key l).map key ↔ k ∈ l.map key := by
  constructor
  · intro hk
    obtain ⟨a, ha, rfl⟩ := List.mem_map.mp hk
    exact List.mem_map_of_mem (firsts_subset key l a ha)
  · induction l with
    | nil => simp
    | cons b bs ih =>
      intro hk
      rw [firsts, List.map_cons, List.mem_cons]
      rw [List.map_cons, List.mem_cons] at hk
      by_cases hkb : k = key b
      · exact .inl hkb
      · obtain ⟨a, ha, rfl⟩ := List.mem_map.mp (ih (hk.resolve_left hkb))
        exact .inr (List.mem_map_of_mem (List.mem_filter.mpr ⟨ha, by simpa using hkb⟩))

/-- An item is the first of its key exactly if it is the one that is found by its key. -/
theorem mem_firsts {key : α → κ} {l : List α} {a : α} :
    a ∈ firsts key l ↔ l.find? (fun b => key b == key a) = some a := by
  induction l with
  | nil => simp [firsts]
  | cons b bs ih =>
    rw [firsts, List.mem_cons, List.mem_filter, ih, List.find?_cons]
    by_cases hkey : key b = key a
    · simp [hkey, eq_comm]
    · have hne : a ≠ b := fun heq => hkey (heq ▸ rfl)
      rw [beq_eq_false_iff_ne.mpr hkey]
      simp [hne, Ne.symm hkey]

theorem firsts_eq_self (key : α → κ) {l : List α} (h : (l.map key).Nodup) : firsts key l = l := by
  induction l with
  | nil => rfl
  | cons b bs ih =>
    rw [List.map_cons, List.nodup_cons] at h
    rw [firsts, ih h.2, List.filter_eq_self.mpr]
    intro a ha
    have hne : key a ≠ key b := fun heq => h.1 (heq ▸ List.mem_map_of_mem ha)
    simpa using hne

omit [BEq κ] [LawfulBEq κ] in
/-- Where keys are distinct, two items with one key are at one place. -/
theorem place_eq_of_key_eq {key : α → κ} {l : List α} (h : (l.map key).Nodup) {i j : Nat} {a a' : α}
    (hi : l[i]? = some a) (hj : l[j]? = some a') (hkey : key a = key a') : i = j := by
  have hi' : (l.map key)[i]? = some (key a) := by rw [List.getElem?_map, hi]; rfl
  have hj' : (l.map key)[j]? = some (key a) := by rw [List.getElem?_map, hj, hkey]; rfl
  exact (List.getElem?_inj (List.getElem?_eq_some_iff.mp hi').1 h).mp (hi'.trans hj'.symm)

theorem findIdx?_key_eq_some {key : α → κ} {l : List α} (h : (l.map key).Nodup) {k : κ} {j : Nat} :
    l.findIdx? (fun a => key a == k) = some j ↔ ∃ a, l[j]? = some a ∧ key a = k := by
  constructor
  · intro hfind
    obtain ⟨hlt, heq, -⟩ := List.findIdx?_eq_some_iff_getElem.mp hfind
    exact ⟨l[j], List.getElem?_eq_getElem hlt, beq_iff_eq.mp heq⟩
  · rintro ⟨a, ha, rfl⟩
    obtain ⟨hlt, rfl⟩ := List.getElem?_eq_some_iff.mp ha
    refine List.findIdx?_eq_some_iff_getElem.mpr ⟨hlt, beq_self_eq_true _, fun i hi heq => ?_⟩
    have := place_eq_of_key_eq h (List.getElem?_eq_getElem (Nat.lt_trans hi hlt)) ha (beq_iff_eq.mp heq)
    omega

theorem find?_key_eq_none {key : α → κ} {l : List α} {k : κ} :
    l.find? (fun a => key a == k) = none ↔ k ∉ l.map key := by
  simp

theorem find?_key_eq_some {key : α → κ} {l : List α} (h : (l.map key).Nodup) {a : α} (ha : a ∈ l) :
    l.find? (fun b => key b == key a) = some a := by
  cases hfind : l.find? fun b => key b == key a with
  | none =>
    have hnone := List.find?_eq_none.mp hfind a ha
    exact absurd (beq_self_eq_true (key a)) hnone
  | some b =>
    have hkey : key b = key a := by simpa using List.find?_some hfind
    exact congrArg some (List.inj_on_of_nodup_map h (List.mem_of_find?_eq_some hfind) ha hkey)

/-- Where keys are distinct, what is found does not depend on the order of the list. -/
theorem find?_key_perm {key : α → κ} {l l' : List α} (h : (l.map key).Nodup) (hperm : l.Perm l') (k : κ) :
    l'.find? (fun a => key a == k) = l.find? fun a => key a == k := by
  cases hfind : l.find? fun a => key a == k with
  | none =>
    rw [List.find?_eq_none] at hfind ⊢
    exact fun a ha => hfind a (hperm.mem_iff.mpr ha)
  | some a =>
    obtain rfl : key a = k := by simpa using List.find?_some hfind
    exact find?_key_eq_some ((hperm.map key).nodup_iff.mp h) (hperm.mem_iff.mp (List.mem_of_find?_eq_some hfind))

theorem lookup_isSome {β : Type} {l : List (κ × β)} {k : κ} : (l.lookup k).isSome = true ↔ k ∈ l.map Prod.fst := by
  rw [List.lookup_isSome_iff, List.mem_map]
  exact exists_congr fun p => and_congr_right fun _ => beq_iff_eq.trans eq_comm

theorem lookup_eq_some_of_mem {β : Type} {l : List (κ × β)} (h : (l.map Prod.fst).Nodup) {k : κ} {v : β}
    (hmem : (k, v) ∈ l) : l.lookup k = some v := by
  induction l with
  | nil => cases hmem
  | cons p l ih =>
    obtain ⟨k', v'⟩ := p
    rw [List.map_cons, List.nodup_cons] at h
    rcases List.mem_cons.mp hmem with heq | hrest
    · cases heq
      exact List.lookup_cons_self
    · have hne : k ≠ k' := fun heq => h.1 (List.mem_map.mpr ⟨(k, v), hrest, heq⟩)
      rw [List.lookup_cons, beq_eq_false_iff_ne.mpr hne]
      exact ih h.2 hrest

omit [BEq κ] [LawfulBEq κ] in
/-- Where keys are distinct, what is made of one item is what has its key among what is made of all. -/
theorem filter_filterMap_eq {β : Type} {key : α → κ} {l : List α} (hl : (l.map key).Nodup) {a : α} (ha : a ∈ l)
    {g : α → Option β} {p : β → Bool} (hp : ∀ b r, g b = some r → (p r = true ↔ key b = key a)) :
    (l.filterMap g).filter p = (g a).toList := by
  have hother : ∀ {l : List α}, key a ∉ l.map key → (l.filterMap g).filter p = [] := by
    intro l hnot
    refine List.filter_eq_nil_iff.mpr fun r hr hpr => hnot ?_
    obtain ⟨b, hb, hgb⟩ := List.mem_filterMap.mp hr
    exact List.mem_map.mpr ⟨b, hb, (hp b r hgb).mp hpr⟩
  obtain ⟨front, back, rfl⟩ := List.append_of_mem ha
  rw [List.map_append, List.map_cons, List.nodup_append] at hl
  have hfront : key a ∉ front.map key := fun hmem => hl.2.2 _ hmem _ List.mem_cons_self rfl
  have hback := (List.nodup_cons.mp hl.2.1).1
  rw [List.filterMap_append, List.filter_append, hother hfront, List.nil_append]
  cases hga : g a with
  | none => rw [List.filterMap_cons_none hga, hother hback, Option.toList_none]
  | some r =>
    rw [List.filterMap_cons_some hga, List.filter_cons_of_pos ((hp a r hga).mpr rfl), hother hback, Option.toList_some]

end Firsts

section EraseDups
variable {α : Type} [BEq α] [LawfulBEq α]

omit [LawfulBEq α] in
/-- Repeated items go away one by one, from the first on. -/
theorem eraseDups_induction {motive : List α → Prop} (nil : motive [])
    (cons : ∀ a as, motive (as.filter fun b => !b == a) → motive (a :: as)) (l : List α) : motive l := by
  induction hn : l.length using Nat.strongRecOn generalizing l with
  | _ n ih =>
    cases l with
    | nil => exact nil
    | cons a as =>
      have hlen := List.length_filter_le (fun b => !b == a) as
      refine cons a as (ih _ ?_ _ rfl)
      rw [← hn, List.length_cons]
      omega

theorem nodup_eraseDups (l : List α) : l.eraseDups.Nodup := by
  induction l using eraseDups_induction with
  | nil => simp
  | cons a as ih =>
    rw [List.eraseDups_cons, List.nodup_cons]
    exact ⟨by simp, ih⟩

end EraseDups

namespace Sorted

variable {α : Type} {order : α → α → Ordering}

theorem mem_of_mem_insert {a c : α} {l : List α} (h : c ∈ insert order a l) : c = a ∨ c ∈ l := by
  induction l with
  | nil => exact .inl (List.mem_singleton.mp h)
  | cons b bs ih =>
    unfold insert at h
    split at h
    · exact List.mem_cons.mp h
    · exact .inr h
    · rcases List.mem_cons.mp h with rfl | h
      · exact .inr List.mem_cons_self
      · exact (ih h).imp_right (List.mem_cons_of_mem b)

section Sorted
variable [Std.TransCmp order]

theorem insert_sorted {a : α} {l : List α} (h : l.Pairwise (order · · = .lt)) :
    (insert order a l).Pairwise (order · · = .lt) := by
  induction l with
  | nil => exact List.pairwise_singleton _ a
  | cons b bs ih =>
    obtain ⟨hb, hbs⟩ := List.pairwise_cons.mp h
    unfold insert
    split
    · next hlt =>
      refine List.pairwise_cons.mpr ⟨fun c hc => ?_, h⟩
      rcases List.mem_cons.mp hc with rfl | hc
      · exact hlt
      · exact Std.TransCmp.lt_trans hlt (hb c hc)
    · exact h
    · next hgt =>
      refine List.pairwise_cons.mpr ⟨fun c hc => ?_, ih hbs⟩
      rcases mem_of_mem_insert hc with rfl | hc
      · exact Std.OrientedCmp.lt_of_gt hgt
      · exact hb c hc

theorem ofList_sorted (l : List α) : (ofList order l).Pairwise (order · · = .lt) := by
  induction l with
  | nil => exact List.Pairwise.nil
  | cons a l ih => exact insert_sorted ih

/-- A sorted list is determined by its items. -/
theorem eq_of_mem_iff {l l' : List α} (h : l.Pairwise (order · · = .lt)) (h' : l'.Pairwise (order · · = .lt))
    (hmem : ∀ a, a ∈ l ↔ a ∈ l') : l = l' := by
  have : Std.Irrefl (order · · = .lt) := ⟨fun a hlt => Ordering.noConfusion (Std.ReflCmp.compare_self.symm.trans hlt)⟩
  have : Std.Antisymm (order · · = .lt) :=
    ⟨fun a b hab hba => Ordering.noConfusion ((Std.OrientedCmp.gt_of_lt hab).symm.trans hba)⟩
  exact h.eq_of_mem_iff h' hmem

theorem ofList_congr (heq : ∀ a b, order a b = .eq → a = b) {l l' : List α} (h : ∀ a, a ∈ l ↔ a ∈ l') :
    ofList order l = ofList order l' :=
  eq_of_mem_iff (ofList_sorted l) (ofList_sorted l') fun a => (mem_ofList heq).trans ((h a).trans (mem_ofList heq).symm)

end Sorted

instance transCmp_fst {β : Type} : Std.TransCmp fun p q : String × β => compare p.1 q.1 :=
  inferInstanceAs (Std.TransCmp (compareOn Prod.fst))

instance transCmp_orderPair : Std.TransCmp (orderPair compare compare : Nat × String → Nat × String → Ordering) :=
  inferInstanceAs (Std.TransCmp (compareLex (compareOn Prod.fst) (compareOn Prod.snd)))

theorem eq_of_orderPair (p q : Nat × String) (h : orderPair compare compare p q = .eq) : p = q := by
  obtain ⟨hfirst, hsecond⟩ := Ordering.then_eq_eq.mp h
  exact Prod.ext (Std.LawfulEqCmp.eq_of_compare hfirst) (Std.LawfulEqCmp.eq_of_compare hsecond)

theorem insert_perm {β : Type} {order : β → β → Ordering} {a : β} {l : List β} (h : ∀ b ∈ l, order a b ≠ .eq) :
    (insert order a l).Perm (a :: l) := by
  induction l with
  | nil => exact .refl _
  | cons b bs ih =>
    unfold insert
    split
    · exact .refl _
    · next heq => exact absurd heq (h b List.mem_cons_self)
    · exact ((ih fun c hc => h c (List.mem_cons_of_mem b hc)).cons b).trans (.swap a b bs)

/-- Items of which no two are the same to the order are all kept. -/
theorem ofList_perm {β : Type} {order : β → β → Ordering} {l : List β} (h : l.Pairwise (order · · ≠ .eq)) :
    (ofList order l).Perm l := by
  induction l with
  | nil => exact .refl _
  | cons a l ih =>
    obtain ⟨ha, hl⟩ := List.pairwise_cons.mp h
    have hperm := ih hl
    exact (insert_perm fun b hb => ha b (hperm.mem_iff.mp hb)).trans (hperm.cons a)

theorem arrange_eq_insertionSort {β : Type} (r : β → β → Prop) [DecidableRel r] (l : List β) :
    arrange (fun a b => decide (r a b)) l = l.insertionSort r := by
  have hplace : ∀ a l, place (fun a b => decide (r a b)) a l = l.orderedInsert r a := by
    intro a l
    induction l with
    | nil => rfl
    | cons b bs ih => simp only [place, List.orderedInsert, ih, decide_eq_true_eq]
  induction l with
  | nil => rfl
  | cons a l ih =>
    show place _ a (arrange _ l) = _
    rw [hplace, ih]
    rfl

instance lexLe_total : Std.Total fun as bs : List Nat => lexLe as bs = true where
  total as bs := by
    induction as generalizing bs with
    | nil => exact .inl rfl
    | cons a as ih =>
      cases bs with
      | nil => exact .inr rfl
      | cons b bs =>
        by_cases hab : a = b
        · subst hab
          simpa only [lexLe, if_true] using ih bs
        · simp only [lexLe, if_neg hab, if_neg fun h : b = a => hab h.symm, decide_eq_true_eq]
          omega

instance lexLe_trans : IsTrans (List Nat) fun as bs => lexLe as bs = true where
  trans as bs cs := by
    induction as generalizing bs cs with
    | nil => exact fun _ _ => rfl
    | cons a as ih =>
      intro hab hbc
      cases bs with
      | nil => cases hab
      | cons b bs =>
        cases cs with
        | nil => cases hbc
        | cons c cs =>
          simp only [lexLe] at hab hbc ⊢
          split at hab
          · next heq =>
            subst heq
            split at hbc
            · next heq =>
              rw [if_pos heq]
              exact ih bs cs hab hbc
            · next hne =>
              rw [if_neg hne]
              exact hbc
          · next hne =>
            have hlt := of_decide_eq_true hab
            have hle : b ≤ c := by
              split at hbc
              · omega
              · exact Nat.le_of_lt (of_decide_eq_true hbc)
            rw [if_neg (by omega)]
            exact decide_eq_true (by omega)

/-- Of two lists the first starts at the lower number, or both at the same. -/
theorem le_of_lexLe {a b : Nat} {as bs : List Nat} (h : lexLe (a :: as) (b :: bs) = true) : a ≤ b := by
  rw [lexLe] at h
  split at h
  · omega
  · exact Nat.le_of_lt (of_decide_eq_true h)

theorem arrange_lexLe (l : List (List Nat)) : arrange lexLe l = l.insertionSort (lexLe · · = true) := by
  rw [← arrange_eq_insertionSort]
  simp only [Bool.decide_eq_true]

end Sorted

end Tributary
