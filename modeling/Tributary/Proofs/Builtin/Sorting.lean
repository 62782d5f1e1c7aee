import Mathlib.Data.List.FinRange
import Tributary.Proofs.Builtin.Results
import Tributary.Proofs.Value.Fields
import Tributary.Proofs.Value.Order

/-!
# Sorting by key

* `Value.Precedes key before a b` : the smaller key first, and of equal keys the one that stood before;
* `Value.insertSorted_precedes` : putting in an item that stood after the others keeps the list in order;
* `Value.sortOn_precedes` : so the sorted list is in order, if the numbers inside the keys are sharp;
* `Value.sortOn_map` : items may be sorted in place of what they stand for;
* `Builtin.mapItems_map`, `Builtin.mapItems_error` : the keys of all items, or the first error;
* `Builtin.sortBy_stable` : what a call of the sorting builtin gives.
-/

namespace Tributary

/-! ## In order -/

namespace Value

section Precedes
variable {α : Type} {S : Number → Prop} {key : α → Value} {before : α → α → Prop} {a b : α}

/-- The smaller key first, and of equal keys the one that stood before. -/
def Precedes (key : α → Value) (before : α → α → Prop) (a b : α) : Prop :=
  (key a).order (key b) = .lt ∨ (key a).order (key b) = .eq ∧ before a b

theorem precedes_of_ne_gt (h : (key a).order (key b) ≠ .gt) (hbefore : before a b) : Precedes key before a b := by
  cases hab : (key a).order (key b) with
  | lt => exact .inl hab
  | eq => exact .inr ⟨hab, hbefore⟩
  | gt => exact absurd hab h

theorem Precedes.ne_gt (h : Precedes key before a b) : (key a).order (key b) ≠ .gt := by
  rcases h with h | ⟨h, -⟩ <;> simp [h]

/-- An item that stood after all others finds its place among them. The list is last first. -/
theorem insertSorted_precedes (hS : Number.IsSharp S) (hkey : ∀ x, (key x).Over S) {l : List α}
    (hl : l.Pairwise fun x y => Precedes key before y x) (ha : ∀ b ∈ l, before b a) :
    (insertSorted key a l).Pairwise fun x y => Precedes key before y x := by
  induction l with
  | nil => exact List.pairwise_singleton _ a
  | cons b bs ih =>
    obtain ⟨hb, hbs⟩ := List.pairwise_cons.mp hl
    obtain ⟨hba, ha⟩ := List.forall_mem_cons.mp ha
    rw [insertSorted]
    split
    case isTrue hlt =>
      refine List.pairwise_cons.mpr ⟨?_, ih hbs ha⟩
      intro x hx
      rcases List.mem_cons.mp ((insertSorted_perm key a bs).mem_iff.mp hx) with rfl | hx
      · exact .inl hlt
      · exact hb x hx
    case isFalse hlt =>
      refine List.pairwise_cons.mpr ⟨?_, hl⟩
      intro x hx
      have hle := order_ne_gt_of_ne_lt hlt
      rcases List.mem_cons.mp hx with rfl | hx
      · exact precedes_of_ne_gt hle hba
      · exact precedes_of_ne_gt (order_trans hS (hkey x) (hkey b) (hkey a) (hb x hx).ne_gt hle) (ha x hx)

theorem foldl_insertSorted_precedes (hS : Number.IsSharp S) (hkey : ∀ x, (key x).Over S) {as : List α}
    (has : as.Pairwise before) {l : List α} (hl : l.Pairwise fun x y => Precedes key before y x)
    (hbefore : ∀ b ∈ l, ∀ a ∈ as, before b a) :
    (as.foldl (fun l a => insertSorted key a l) l).Pairwise fun x y => Precedes key before y x := by
  induction as generalizing l with
  | nil => exact hl
  | cons a as ih =>
    obtain ⟨ha, has⟩ := List.pairwise_cons.mp has
    refine ih has (insertSorted_precedes hS hkey hl fun b hb => hbefore b hb a List.mem_cons_self) ?_
    intro b hb x hx
    rcases List.mem_cons.mp ((insertSorted_perm key a l).mem_iff.mp hb) with rfl | hb
    · exact ha x hx
    · exact hbefore b hb x (List.mem_cons_of_mem a hx)

/-- Sorting puts smaller keys first and keeps items with equal keys as they stood. -/
theorem sortOn_precedes (hS : Number.IsSharp S) (hkey : ∀ x, (key x).Over S) {as : List α} (has : as.Pairwise before) :
    (sortOn key as).Pairwise (Precedes key before) :=
  List.pairwise_reverse.mpr (foldl_insertSorted_precedes hS hkey has .nil nofun)

end Precedes

section Map
variable {α β : Type} (key : β → Value) (f : α → β)

theorem insertSorted_map (a : α) (l : List α) :
    insertSorted key (f a) (l.map f) = (insertSorted (fun x => key (f x)) a l).map f := by
  induction l with
  | nil => rfl
  | cons b bs ih =>
    rw [List.map_cons, insertSorted, insertSorted, ih]
    split <;> rfl

theorem sortOn_map (as : List α) : sortOn key (as.map f) = (sortOn (fun x => key (f x)) as).map f := by
  have hfold : ∀ (as l : List α), (as.map f).foldl (fun l b => insertSorted key b l) (l.map f) =
      (as.foldl (fun l a => insertSorted (fun x => key (f x)) a l) l).map f := by
    intro as
    induction as with
    | nil => exact fun _ => rfl
    | cons a as ih =>
      intro l
      rw [List.map_cons, List.foldl_cons, List.foldl_cons, insertSorted_map, ih]
  rw [sortOn, sortOn, List.map_reverse]
  exact congrArg List.reverse (hfold as [])

end Map

end Value

/-! ## The builtin -/

namespace Builtin

section MapItems
variable {ι : Type} {f : Value → Outcome}

theorem mapItems_map {item key : ι → Value} {is : List ι} (h : ∀ i ∈ is, f (item i) = .ok (key i)) :
    mapItems f (is.map item) = .ok (is.map key) := by
  induction is with
  | nil => rfl
  | cons i is ih =>
    obtain ⟨hi, his⟩ := List.forall_mem_cons.mp h
    rw [List.map_cons, mapItems, hi, ih his]
    rfl

/-- The first item without a result decides. -/
theorem mapItems_error {front back : List Value} {v : Value} {e : EvalError} (hfront : ∀ u ∈ front, ∃ k, f u = .ok k)
    (hv : f v = .error e) : mapItems f (front ++ v :: back) = .error e := by
  induction front with
  | nil =>
    rw [List.nil_append, mapItems, hv]
    rfl
  | cons u front ih =>
    obtain ⟨⟨k, hk⟩, hfront⟩ := List.forall_mem_cons.mp hfront
    rw [List.cons_append, mapItems, hk, ih hfront]
    rfl

end MapItems

/-- A sort of items whose keys have results puts the places of the items in order. -/
theorem runSortBy_eq_ok {ι : Type} {f : Value → Outcome} {item key : ι → Value} {is : List ι} {items : Value}
    (hitems : sortBy.takeArray items = .ok (is.map item)) (h : ∀ i ∈ is, f (item i) = .ok (key i)) :
    runSortBy f items = .ok (.array ((Value.sortOn key is).map item)) := by
  have hzip : Value.sortOn Prod.fst ((is.map key).zip (is.map item)) =
      (Value.sortOn key is).map fun i => (key i, item i) := by
    rw [List.zip_map']
    exact Value.sortOn_map Prod.fst (fun i => (key i, item i)) is
  refine bind_eq_ok.mpr ⟨_, hitems, bind_eq_ok.mpr ⟨_, mapItems_map h, ?_⟩⟩
  rw [hzip, List.map_map]
  rfl

/-- Where the lambda has a key for each item, and there are no doubles inside the keys, the items come out with smaller
keys first, those with equal keys as they stood. Otherwise the error of the first item without a key comes out. -/
theorem sortBy_stable (c : Call) (items lambda : Value) (vs : List Value) (hvalues : c.values = [items, lambda])
    (hitems : items = .array vs ∨ items = .null ∧ vs = []) :
    (∀ key : Fin vs.length → Value, (∀ i, c.invoke 1 [vs.get i] = .ok (key i)) →
      (∀ i, (key i).Over fun n => ∃ m, n = .int m) →
      ∃ places : List (Fin vs.length), sortBy.apply c = .ok (.array (places.map vs.get)) ∧
        places.Perm (List.finRange vs.length) ∧
        places.Pairwise fun i j =>
          (key i).order (key j) = .lt ∨ (key i).order (key j) = .eq ∧ i < j) ∧
    ∀ front v back e, vs = front ++ v :: back → (∀ u ∈ front, ∃ k, c.invoke 1 [u] = .ok k) →
      c.invoke 1 [v] = .error e → sortBy.apply c = .error e := by
  have happly : sortBy.apply c = runSortBy (fun v => c.invoke 1 [v]) items := by
    simp only [apply, hvalues, twoArgs]
  have htake : sortBy.takeArray items = .ok vs := by
    rcases hitems with rfl | ⟨rfl, rfl⟩ <;> rfl
  rw [happly]
  constructor
  · intro key hkey hint
    have hsharp := Number.isSharp_of_integers (S := fun n => ∃ m, n = .int m) nofun
    refine ⟨Value.sortOn key (List.finRange vs.length), ?_, Value.sortOn_perm key _, ?_⟩
    · refine runSortBy_eq_ok ?_ fun i _ => hkey i
      rw [htake, List.map_get_finRange]
    · exact Value.sortOn_precedes hsharp hint (List.pairwise_lt_finRange _)
  · rintro front v back e rfl hfront hv
    simp only [runSortBy, htake, bind, Except.bind, mapItems_error hfront hv]

/-- A sort of guests by age, null for those who do not say. -/
def byAge (guests : List Value) : Call where
  values := [.array guests, .null]
  invoke
    | _, [.object fs] => .ok ((Fields.get? fs "age").getD .null)
    | _, [v] => .error (.notAnObject "age" v.kind)
    | _, _ => .ok .null
  now := 0

/-- Two guests of one age around one of unknown age. -/
def guests : List Value :=
  [.object [("age", .ofNat 30), ("name", .string "c")], .object [("name", .string "a")],
    .object [("age", .ofNat 30), ("name", .string "b")]]

/-- The guest of unknown age comes first, then the two of one age as they stood. -/
theorem sortBy_guests :
    sortBy.apply (byAge guests) = .ok (.array [.object [("name", .string "a")],
      .object [("age", .ofNat 30), ("name", .string "c")], .object [("age", .ofNat 30), ("name", .string "b")]]) ∧
    (∃ places : List (Fin 3), places = [1, 0, 2] ∧
      places.Pairwise fun i j =>
        let age k := ((guests.get k).field? "age").getD .null
        (age i).order (age j) = .lt ∨ (age i).order (age j) = .eq ∧ i < j) ∧
    sortBy.apply (byAge (guests ++ .bool true :: guests)) = .error (.notAnObject "age" "boolean") := by
  have hsorted : sortBy.apply (byAge guests) = .ok (.array (([1, 0, 2] : List (Fin 3)).map guests.get)) := by
    decide +kernel
  have hdistinct : ∀ i j : Fin guests.length, guests.get i = guests.get j → i = j := by decide +kernel
  refine ⟨hsorted, ?_, ?_⟩
  · obtain ⟨places, hplaces, -, hpairwise⟩ := (sortBy_stable (byAge guests) _ _ guests rfl (.inl rfl)).1
      (fun k => ((guests.get k).field? "age").getD .null)
      (fun (k : Fin 3) => match k with | 0 => rfl | 1 => rfl | 2 => rfl)
      (fun (k : Fin 3) => match k with | 0 => .number ⟨_, rfl⟩ | 1 => .null | 2 => .number ⟨_, rfl⟩)
    have hsame := Value.array.inj (Except.ok.inj (hplaces.symm.trans hsorted))
    exact ⟨places, List.map_injective_iff.mpr hdistinct hsame, hpairwise⟩
  · refine (sortBy_stable (byAge (guests ++ .bool true :: guests)) _ _ _ rfl (.inl rfl)).2 guests _ guests _ rfl ?_ rfl
    simp [guests, byAge]

end Builtin

end Tributary
