import Mathlib.Data.List.Forall2
import Tributary.Checked

/-!
# When checks succeed

A check made of parts succeeds exactly when each part does.

* `map_eq_ok`, `bind_eq_ok`, `toOption_eq_some` : the results of a computation that may fail;
* `forall₂_map_eq`, `forall₂_mem_right`, `forall₂_getElem?_right` and their likes : lists that correspond item by item;
* `forall₂_zipWith`, `forall₂_find?` : what is made of such lists, or found in them;
* `Checked.zipWith_eq_ok`, `Checked.each_eq_ok`, `Checked.eachSeen_eq_ok`, `Checked.report_eq_ok` : one
  equivalence for each way of putting checks together;
* `Checked.diagnostics_map`, `Checked.diagnostics_each` : the diagnostics of checks side by side.
-/

namespace Tributary

section Except
variable {ε α β : Type}

theorem map_eq_ok {f : α → β} {a : Except ε α} {y : β} :
    a.map f = .ok y ↔ ∃ x, a = .ok x ∧ f x = y := by
  cases a <;> simp [Except.map]

theorem bind_eq_ok {a : Except ε α} {f : α → Except ε β} {y : β} :
    a >>= f = .ok y ↔ ∃ x, a = .ok x ∧ f x = .ok y := by
  cases a <;> simp [bind, Except.bind]

theorem toOption_eq_some {a : Except ε α} {x : α} : a.toOption = some x ↔ a = .ok x := by
  cases a <;> simp [Except.toOption]

end Except

section Forall₂
variable {α β γ : Type} {r : α → β → Prop} {as : List α} {bs : List β}

theorem forall₂_map_eq {f : α → γ} {g : β → γ} (h : List.Forall₂ r as bs) (hr : ∀ a b, r a b → g b = f a) :
    bs.map g = as.map f := by
  induction h with
  | nil => rfl
  | cons hab _ ih => rw [List.map_cons, List.map_cons, hr _ _ hab, ih]

theorem forall₂_mem_right (h : List.Forall₂ r as bs) {b : β} (hb : b ∈ bs) : ∃ a ∈ as, r a b := by
  induction h with
  | nil => cases hb
  | cons hab _ ih =>
    rcases List.mem_cons.mp hb with rfl | hb
    · exact ⟨_, List.mem_cons_self, hab⟩
    · obtain ⟨a, ha, hr⟩ := ih hb
      exact ⟨a, List.mem_cons_of_mem _ ha, hr⟩

theorem forall₂_mem_left (h : List.Forall₂ r as bs) {a : α} (ha : a ∈ as) : ∃ b ∈ bs, r a b := by
  obtain ⟨b, hb, hr⟩ := forall₂_mem_right h.flip ha
  exact ⟨b, hb, hr⟩

theorem forall₂_getElem?_left (h : List.Forall₂ r as bs) {i : Nat} {a : α} (ha : as[i]? = some a) :
    ∃ b, bs[i]? = some b ∧ r a b := by
  obtain ⟨hlen, hall⟩ := List.forall₂_iff_get.mp h
  obtain ⟨hi, rfl⟩ := List.getElem?_eq_some_iff.mp ha
  exact ⟨bs[i], List.getElem?_eq_getElem (hlen ▸ hi), hall i hi (hlen ▸ hi)⟩

theorem forall₂_getElem?_right (h : List.Forall₂ r as bs) {i : Nat} {b : β} (hb : bs[i]? = some b) :
    ∃ a, as[i]? = some a ∧ r a b :=
  forall₂_getElem?_left h.flip hb

theorem forall₂_zipWith {f : α → β → γ} {s : α → γ → Prop} (h : List.Forall₂ r as bs)
    (hr : ∀ a b, r a b → s a (f a b)) : List.Forall₂ s as (List.zipWith f as bs) := by
  induction h with
  | nil => exact .nil
  | cons hab _ ih => exact .cons (hr _ _ hab) ih

theorem forall₂_find? (h : List.Forall₂ r as bs) {p : α → Bool} {q : β → Bool} (hr : ∀ a b, r a b → p a = q b) :
    Option.Rel r (as.find? p) (bs.find? q) := by
  induction h with
  | nil => exact .none
  | @cons a b _ _ hab _ ih =>
    rw [List.find?_cons, List.find?_cons, hr a b hab]
    cases q b with
    | true => exact .some hab
    | false => exact ih

end Forall₂

namespace Checked

variable {α β γ : Type}

theorem zipWith_eq_ok {f : α → β → γ} {a : Checked α} {b : Checked β} {z : γ} :
    zipWith f a b = .ok z ↔ ∃ x y, a = .ok x ∧ b = .ok y ∧ f x y = z := by
  rw [zipWith, map_eq_ok]
  constructor
  · rintro ⟨⟨x, y⟩, h, rfl⟩
    obtain ⟨hx, hy⟩ := both_eq_ok.mp h
    exact ⟨x, y, hx, hy, rfl⟩
  · rintro ⟨x, y, hx, hy, rfl⟩
    exact ⟨(x, y), both_eq_ok.mpr ⟨hx, hy⟩, rfl⟩

theorem report_eq_ok {ds : List Diagnostic} {a b : α} : report ds a = .ok b ↔ ds = [] ∧ a = b := by
  cases ds <;> simp [report]

theorem each_eq_ok {f : α → Checked β} {as : List α} {bs : List β} :
    each f as = .ok bs ↔ List.Forall₂ (fun a b => f a = .ok b) as bs := by
  induction as generalizing bs with
  | nil => cases bs <;> simp [each]
  | cons a as ih =>
    rw [each, zipWith_eq_ok]
    constructor
    · rintro ⟨b, bs, hb, hbs, rfl⟩
      exact .cons hb (ih.mp hbs)
    · rintro (_ | ⟨hb, hbs⟩)
      exact ⟨_, _, hb, ih.mpr hbs, rfl⟩

theorem exists_each {f : α → Checked β} {as : List α} (h : ∀ a ∈ as, ∃ b, f a = .ok b) :
    ∃ bs, each f as = .ok bs := by
  induction as with
  | nil => exact ⟨[], rfl⟩
  | cons a as ih =>
    obtain ⟨b, hb⟩ := h a List.mem_cons_self
    obtain ⟨bs, hbs⟩ := ih fun x hx => h x (List.mem_cons_of_mem a hx)
    exact ⟨b :: bs, zipWith_eq_ok.mpr ⟨b, bs, hb, hbs, rfl⟩⟩

/-- Where all checks of a list succeed, so does each at its place. -/
theorem each_getElem? {f : α → Checked β} {as : List α} {bs : List β} (h : each f as = .ok bs) {i : Nat}
    {a : α} (ha : as[i]? = some a) : ∃ b, bs[i]? = some b ∧ f a = .ok b :=
  forall₂_getElem?_left (each_eq_ok.mp h) ha

/-- Checks that refuse a key seen before succeed exactly on fresh and distinct keys. -/
theorem eachSeen_eq_ok {key : α → String} {f : Bool → α → Checked β} (hf : ∀ a b, f true a ≠ .ok b)
    {seen : List String} {as : List α} {bs : List β} :
    eachSeen key f seen as = .ok bs ↔
      (∀ a ∈ as, key a ∉ seen) ∧ (as.map key).Nodup ∧
        List.Forall₂ (fun a b => f false a = .ok b) as bs := by
  induction as generalizing seen bs with
  | nil => cases bs <;> simp [eachSeen]
  | cons a as ih =>
    rw [eachSeen, zipWith_eq_ok]
    constructor
    · rintro ⟨b, bs, hb, hbs, rfl⟩
      obtain ⟨hfresh, hnodup, hall⟩ := ih.mp hbs
      have ha : key a ∉ seen := by
        intro hmem
        rw [List.contains_iff_mem.mpr hmem] at hb
        exact hf a b hb
      have hseen : seen.contains (key a) = false := by simpa using ha
      rw [hseen] at hb
      refine ⟨?_, ?_, .cons hb hall⟩
      · intro x hx
        rcases List.mem_cons.mp hx with rfl | hx
        · exact ha
        · exact fun hmem => hfresh x hx (List.mem_cons_of_mem _ hmem)
      · rw [List.map_cons, List.nodup_cons]
        refine ⟨fun hmem => ?_, hnodup⟩
        obtain ⟨x, hx, hkey⟩ := List.mem_map.mp hmem
        exact hfresh x hx (by simp [hkey])
    · rintro ⟨hfresh, hnodup, _ | ⟨hb, hbs⟩⟩
      rw [List.map_cons, List.nodup_cons] at hnodup
      have hseen : seen.contains (key a) = false := by simpa using hfresh a (by simp)
      refine ⟨_, _, ?_, ih.mpr ⟨?_, hnodup.2, hbs⟩, rfl⟩
      · rw [hseen]; exact hb
      · intro x hx hmem
        rcases List.mem_cons.mp hmem with hkey | hmem
        · exact hnodup.1 (hkey ▸ List.mem_map_of_mem hx)
        · exact hfresh x (List.mem_cons_of_mem _ hx) hmem

theorem each_length {f : α → Checked β} {as : List α} {bs : List β} (h : each f as = .ok bs) :
    bs.length = as.length :=
  (each_eq_ok.mp h).length_eq.symm

theorem diagnostics_map (f : α → β) (c : Checked α) : diagnostics (c.map f) = c.diagnostics := by
  cases c <;> rfl

theorem diagnostics_each (f : α → Checked β) : ∀ as : List α,
    (each f as).diagnostics = as.flatMap fun a => (f a).diagnostics
  | [] => rfl
  | a :: as => by rw [each, zipWith, diagnostics_map, diagnostics_both, diagnostics_each f as, List.flatMap_cons]

end Checked

end Tributary
