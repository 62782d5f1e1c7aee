import Mathlib.Data.List.Induction
import Mathlib.Data.List.Nodup
import Tributary.Value.Basic

/-!
# Equal values, and objects made of pairs

* `Value.identical` : whether two values are the same, item by item and field by field;
* `Fields.get?_eq_lookup` : reading a field is looking its name up;
* `Fields.get?_insert` : reading a field after one is set;
* `Fields.names_ofList_perm` : the fields of pairs with distinct names have those names;
* `Fields.get?_ofList` : each of them has its own value;
* `Fields.ofList_of_increasing` : pairs by increasing name stay as they are.
-/

namespace Tributary

/-! ## Equal values -/

namespace Value

mutual

def identical : Value → Value → Bool
  | null, null => true
  | bool a, bool b => decide (a = b)
  | number m, number n => decide (m = n)
  | string s, string t => decide (s = t)
  | time a, time b => decide (a = b)
  | bytes a, bytes b => decide (a = b)
  | array vs, array ws => identicalItems vs ws
  | object fs, object gs => identicalFields fs gs
  | _, _ => false

def identicalItems : List Value → List Value → Bool
  | [], [] => true
  | v :: vs, w :: ws => identical v w && identicalItems vs ws
  | _, _ => false

def identicalFields : List (String × Value) → List (String × Value) → Bool
  | [], [] => true
  | (k, v) :: fs, (l, w) :: gs => decide (k = l) && (identical v w && identicalFields fs gs)
  | _, _ => false

end

mutual

theorem identical_iff : ∀ v w : Value, identical v w = true ↔ v = w
  | null, w | bool _, w | number _, w | string _, w | time _, w | bytes _, w => by cases w <;> simp [identical]
  | array vs, w => by
    cases w with
    | array ws => simp [identical, identicalItems_iff vs ws]
    | _ => simp [identical]
  | object fs, w => by
    cases w with
    | object gs => simp [identical, identicalFields_iff fs gs]
    | _ => simp [identical]

theorem identicalItems_iff : ∀ vs ws : List Value, identicalItems vs ws = true ↔ vs = ws
  | [], ws => by cases ws <;> simp [identicalItems]
  | v :: vs, [] => by simp [identicalItems]
  | v :: vs, w :: ws => by simp [identicalItems, identical_iff v w, identicalItems_iff vs ws]

theorem identicalFields_iff : ∀ fs gs : List (String × Value), identicalFields fs gs = true ↔ fs = gs
  | [], gs => by cases gs <;> simp [identicalFields]
  | p :: fs, [] => by simp [identicalFields]
  | (k, v) :: fs, (l, w) :: gs => by simp [identicalFields, identical_iff v w, identicalFields_iff fs gs, and_assoc]

end

instance : DecidableEq Value := fun v w => decidable_of_iff _ (identical_iff v w)

end Value

/-! ## Objects made of pairs -/

namespace Fields

theorem get?_eq_lookup (fields : Fields) (name : String) : fields.get? name = fields.lookup name := by
  induction fields with
  | nil => rfl
  | cons p fields ih =>
    obtain ⟨k, v⟩ := p
    rw [Fields.get?, ih]
    by_cases hk : k = name
    · subst hk
      simp
    · have hne : (name == k) = false := by simpa using fun h => hk h.symm
      rw [if_neg hk, List.lookup_cons, hne]

theorem get?_insert (fs : Fields) (k : String) (v : Value) (name : String) :
    (insert fs k v).get? name = if k = name then some v else fs.get? name := by
  induction fs with
  | nil => rfl
  | cons p fs ih =>
    obtain ⟨k', v'⟩ := p
    unfold insert
    by_cases hk : k' = k
    · subst hk
      rw [if_pos rfl, get?, get?]
      by_cases hn : k' = name <;> simp [hn]
    · rw [if_neg hk]
      by_cases hlt : k < k'
      · rw [if_pos hlt, get?]
      · rw [if_neg hlt, get?, get?, ih]
        by_cases hn : k' = name
        · subst hn
          rw [if_pos rfl, if_pos rfl, if_neg fun h => hk h.symm]
        · rw [if_neg hn, if_neg hn]

theorem names_insert_perm (fs : Fields) (k : String) (v : Value) (hk : k ∉ fs.names) :
    (insert fs k v).names.Perm (k :: fs.names) := by
  induction fs with
  | nil => exact .refl _
  | cons p fs ih =>
    obtain ⟨k', v'⟩ := p
    have hne : k' ≠ k := fun h => hk (h ▸ List.mem_cons_self)
    have hfs : k ∉ names fs := fun h => hk (List.mem_cons_of_mem _ h)
    unfold insert
    rw [if_neg hne]
    by_cases hlt : k < k'
    · rw [if_pos hlt]
      exact .refl _
    · rw [if_neg hlt]
      exact ((ih hfs).cons k').trans (.swap k k' (names fs))

/-! ## Pairs with distinct names -/

section Pairs
variable {pairs : List (String × Value)}

theorem ofList_concat (pairs : List (String × Value)) (k : String) (v : Value) :
    ofList (pairs ++ [(k, v)]) = insert (ofList pairs) k v := by
  rw [ofList, List.foldl_append]
  rfl

theorem names_ofList_perm (h : (pairs.map Prod.fst).Nodup) : (ofList pairs).names.Perm (pairs.map Prod.fst) := by
  induction pairs using List.reverseRecOn with
  | nil => exact .refl _
  | append_singleton pairs p ih =>
    obtain ⟨k, v⟩ := p
    rw [List.map_append, List.nodup_append'] at h
    obtain ⟨hpairs, -, hdisj⟩ := h
    have hperm := ih hpairs
    have hk : k ∉ (ofList pairs).names := by
      rw [hperm.mem_iff]
      exact fun hk => hdisj hk (by simp)
    rw [ofList_concat, List.map_append]
    refine (names_insert_perm _ k v hk).trans ((hperm.cons k).trans ?_)
    exact (List.perm_append_singleton k _).symm

theorem get?_ofList (h : (pairs.map Prod.fst).Nodup) {k : String} {v : Value} (hmem : (k, v) ∈ pairs) :
    (ofList pairs).get? k = some v := by
  induction pairs using List.reverseRecOn with
  | nil => cases hmem
  | append_singleton pairs p ih =>
    obtain ⟨k', v'⟩ := p
    rw [List.map_append, List.nodup_append'] at h
    obtain ⟨hpairs, -, hdisj⟩ := h
    rw [ofList_concat, get?_insert]
    rcases List.mem_append.mp hmem with hmem | hmem
    · have hne : k' ≠ k := by
        rintro rfl
        exact hdisj (List.mem_map_of_mem hmem) (by simp)
      rw [if_neg hne]
      exact ih hpairs hmem
    · obtain ⟨rfl, rfl⟩ : k = k' ∧ v = v' := by simpa using hmem
      rw [if_pos rfl]

end Pairs

/-! ## Pairs by increasing name -/

theorem insert_of_lt {fs : Fields} {name : String} (h : ∀ p ∈ fs, p.1 < name) (v : Value) :
    insert fs name v = fs ++ [(name, v)] := by
  induction fs with
  | nil => rfl
  | cons p fs ih =>
    obtain ⟨hp, hfs⟩ := List.forall_mem_cons.mp h
    rw [insert, if_neg (String.ne_of_lt hp), if_neg (String.lt_asymm hp), ih hfs, List.cons_append]

/-- Pairs by increasing name are the fields of the object they make. -/
theorem ofList_of_increasing {pairs : List (String × Value)} (h : pairs.Pairwise fun p q => p.1 < q.1) :
    ofList pairs = pairs := by
  induction pairs using List.reverseRecOn with
  | nil => rfl
  | append_singleton pairs p ih =>
    obtain ⟨hpairs, -, hlast⟩ := List.pairwise_append.mp h
    rw [ofList_concat, ih hpairs]
    exact insert_of_lt (fun q hq => hlast q hq p (by simp)) p.2

end Fields

end Tributary
