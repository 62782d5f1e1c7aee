import Mathlib.Tactic.TFAE
import Tributary.Proofs.Number.Order
import Tributary.Value.Order

/-!
# Laws of the order of values

* `Value.Over S v` : all numbers inside a value are among `S`;
* `Value.Alike a b` : two values are of one sort; values of different sorts are ordered by sort;
* `compareLex_chained`, `compareLex_swap` : what passes from items to lists of them;
* `Value.order_swap` : the order seen from the other side;
* `Value.order_chained` : the laws hold where the numbers inside are sharp;
* `Value.order_lawful_iff_sharp` : and nowhere else.
-/

namespace Tributary

/-! ## Lists -/

section Lists
variable {α : Type} {cmp : α → α → Ordering}

theorem compareLex_swap {as bs : List α} (h : ∀ a ∈ as, ∀ b, cmp b a = (cmp a b).swap) :
    bs.compareLex cmp as = (as.compareLex cmp bs).swap := by
  induction as generalizing bs with
  | nil => cases bs <;> rfl
  | cons a as ih =>
    obtain ⟨ha, has⟩ := List.forall_mem_cons.mp h
    cases bs with
    | nil => rfl
    | cons b bs =>
      rw [List.compareLex_cons_cons, List.compareLex_cons_cons, Ordering.swap_then, ha b, ih has]

theorem compareLex_chained {as bs cs : List α}
    (h : ∀ a ∈ as, ∀ b ∈ bs, ∀ c ∈ cs, Chained (cmp a b) (cmp b c) (cmp a c)) :
    Chained (as.compareLex cmp bs) (bs.compareLex cmp cs) (as.compareLex cmp cs) := by
  induction as generalizing bs cs with
  | nil =>
    cases bs with
    | nil => exact fun _ _ => rfl
    | cons b bs =>
      cases cs with
      | nil => exact fun _ hbc => absurd rfl hbc
      | cons c cs => exact fun _ _ => rfl
  | cons a as ih =>
    cases bs with
    | nil => exact fun hab _ => absurd rfl hab
    | cons b bs =>
      cases cs with
      | nil => exact fun _ hbc => absurd rfl hbc
      | cons c cs =>
        simp only [List.compareLex_cons_cons]
        refine (h a List.mem_cons_self b List.mem_cons_self c List.mem_cons_self).then fun _ _ => ih ?_
        exact fun a ha b hb c hc =>
          h a (List.mem_cons_of_mem _ ha) b (List.mem_cons_of_mem _ hb) c (List.mem_cons_of_mem _ hc)

end Lists

namespace Value

inductive Over (S : Number → Prop) : Value → Prop
  | null : Over S null
  | bool (b : Bool) : Over S (bool b)
  | number {n : Number} (h : S n) : Over S (number n)
  | string (s : String) : Over S (string s)
  | time (ns : Int64) : Over S (time ns)
  | bytes (data : List UInt8) : Over S (bytes data)
  | array {items : List Value} (h : ∀ v ∈ items, Over S v) : Over S (array items)
  | object {fields : Fields} (h : ∀ p ∈ fields, Over S p.2) : Over S (object fields)

section Over
variable {S : Number → Prop}

mutual

theorem over_of_forall : ∀ v : Value, (∀ n, S n) → v.Over S
  | null, _ => .null
  | bool b, _ => .bool b
  | number n, h => .number (h n)
  | string s, _ => .string s
  | time ns, _ => .time ns
  | bytes data, _ => .bytes data
  | array items, h => .array (over_of_forall_items items h)
  | object fields, h => .object (over_of_forall_fields fields h)

theorem over_of_forall_items : ∀ vs : List Value, (∀ n, S n) → ∀ v ∈ vs, v.Over S
  | [], _ => List.forall_mem_nil _
  | v :: vs, h => List.forall_mem_cons.mpr ⟨over_of_forall v h, over_of_forall_items vs h⟩

theorem over_of_forall_fields : ∀ fs : List (String × Value), (∀ n, S n) → ∀ p ∈ fs, p.2.Over S
  | [], _ => List.forall_mem_nil _
  | (_, v) :: fs, h => List.forall_mem_cons.mpr ⟨over_of_forall v h, over_of_forall_fields fs h⟩

end

end Over

/-! ## Sorts -/

inductive Alike : Value → Value → Prop
  | null : Alike null null
  | bool (a b : Bool) : Alike (bool a) (bool b)
  | number (a b : Number) : Alike (number a) (number b)
  | string (a b : String) : Alike (string a) (string b)
  | time (a b : Int64) : Alike (time a) (time b)
  | bytes (a b : List UInt8) : Alike (bytes a) (bytes b)
  | array (as bs : List Value) : Alike (array as) (array bs)
  | object (as bs : Fields) : Alike (object as) (object bs)

theorem alike_of_sort_eq {a b : Value} (h : a.sort = b.sort) : Alike a b := by
  cases a <;> cases b <;> first | constructor | simp [sort] at h

/-- Values of different sorts are ordered by sort. -/
theorem order_eq_then (a b : Value) : a.order b = (compare a.sort b.sort).then (a.order b) := by
  cases a <;> cases b <;> rfl

theorem order_swap_of_alike {a b : Value} (h : Alike a b → b.order a = (a.order b).swap) :
    b.order a = (a.order b).swap := by
  by_cases hs : a.sort = b.sort
  · exact h (alike_of_sort_eq hs)
  · rw [order_eq_then a b, order_eq_then b a, Ordering.swap_then, ← Std.OrientedOrd.eq_swap]
    cases hc : compare b.sort a.sort with
    | eq => exact absurd (Std.LawfulEqOrd.eq_of_compare hc).symm hs
    | _ => rfl

theorem order_chained_of_alike {a b c : Value}
    (h : Alike a b → Alike b c → Chained (a.order b) (b.order c) (a.order c)) :
    Chained (a.order b) (b.order c) (a.order c) := by
  rw [order_eq_then a b, order_eq_then b c, order_eq_then a c]
  exact (chained_compare a.sort b.sort c.sort).then fun hab hbc =>
    h (alike_of_sort_eq (Std.LawfulEqOrd.eq_of_compare hab)) (alike_of_sort_eq (Std.LawfulEqOrd.eq_of_compare hbc))

/-! ## The parts of a value -/

theorem orderBool_eq (a b : Bool) : orderBool a b = compare a b := by
  cases a <;> cases b <;> rfl

theorem orderText_eq (a b : String) : orderText a b = compare a b := rfl

theorem orderBytes_eq (as bs : List UInt8) :
    orderBytes as bs = as.compareLex (fun a b => compare a.toNat b.toNat) bs := by
  induction as generalizing bs with
  | nil => cases bs <;> rfl
  | cons a as ih =>
    cases bs with
    | nil => rfl
    | cons b bs =>
      rw [List.compareLex_cons_cons, ← ih]
      rfl

theorem orderItems_eq (as bs : List Value) : orderItems as bs = as.compareLex order bs := by
  induction as generalizing bs with
  | nil => cases bs <;> simp [orderItems, List.compareLex]
  | cons a as ih =>
    cases bs with
    | nil => simp [orderItems, List.compareLex]
    | cons b bs => rw [List.compareLex_cons_cons, orderItems, ih]

/-- One field against another: name before value. -/
def orderField (p q : String × Value) : Ordering := (orderText p.1 q.1).then (p.2.order q.2)

theorem orderFields_eq (as bs : List (String × Value)) : orderFields as bs = as.compareLex orderField bs := by
  induction as generalizing bs with
  | nil => cases bs <;> simp [orderFields, List.compareLex]
  | cons a as ih =>
    cases bs with
    | nil => simp [orderFields, List.compareLex]
    | cons b bs =>
      rw [List.compareLex_cons_cons, orderFields, ih]
      rfl

/-! ## The laws -/

theorem order_swap (a b : Value) : b.order a = (a.order b).swap := by
  -- Two values of one sort are left, and the induction is on the first.
  induction over_of_forall (S := fun _ => True) a (fun _ => trivial) generalizing b <;>
    refine order_swap_of_alike fun hab => ?_ <;> cases hab
  case null.null => rfl
  case bool.bool a b =>
    simp only [order, orderBool_eq]
    exact Std.OrientedOrd.eq_swap
  case number.number a _ b => exact Number.order_swap a b
  case string.string a b => exact Std.OrientedOrd.eq_swap (a := b) (b := a)
  case time.time a b => exact Std.OrientedOrd.eq_swap
  case bytes.bytes as bs =>
    simp only [order, orderBytes_eq]
    exact compareLex_swap fun _ _ _ => Std.OrientedOrd.eq_swap
  case array.array as _ ih bs =>
    simp only [order, orderItems_eq]
    exact compareLex_swap ih
  case object.object as _ ih bs =>
    simp only [order, orderFields_eq]
    refine compareLex_swap fun p hp q => ?_
    simp only [orderField, orderText_eq, Ordering.swap_then]
    rw [ih p hp, ← Std.OrientedOrd.eq_swap]

theorem order_antisymm {a b : Value} (h : (a.order b).isLE) (h' : (b.order a).isLE) : a.order b = .eq := by
  rw [order_swap a b] at h'
  cases hab : a.order b with
  | eq => rfl
  | lt => rw [hab] at h'; exact nomatch h'
  | gt => rw [hab] at h; exact nomatch h

theorem order_ne_gt_of_ne_lt {a b : Value} (h : a.order b ≠ .lt) : b.order a ≠ .gt := by
  rw [order_swap a b]
  exact fun hgt => h (Ordering.swap_eq_gt.mp hgt)

section Sharp
variable {S : Number → Prop} {a b c : Value}

/-- Comparisons of values with sharp numbers inside are those of a total preorder. -/
theorem order_chained (hS : Number.IsSharp S) (ha : a.Over S) (hb : b.Over S) (hc : c.Over S) :
    Chained (a.order b) (b.order c) (a.order c) := by
  -- Three values of one sort are left, and the induction is on the first.
  induction ha generalizing b c <;> refine order_chained_of_alike fun hab hbc => ?_ <;> cases hab <;> cases hbc
  case null.null.null => exact fun _ _ => rfl
  case bool.bool.bool a b c =>
    simp only [order, orderBool_eq]
    exact chained_compare a b c
  case number.number.number ha b c =>
    cases hb with | number hb =>
    cases hc with | number hc =>
    exact Number.order_chained hS ha hb hc
  case string.string.string a b c => exact chained_compare a b c
  case time.time.time a b c => exact chained_compare a.toInt b.toInt c.toInt
  case bytes.bytes.bytes as bs cs =>
    simp only [order, orderBytes_eq]
    exact compareLex_chained fun a _ b _ c _ => chained_compare a.toNat b.toNat c.toNat
  case array.array.array as ih bs cs =>
    cases hb with | array hb =>
    cases hc with | array hc =>
    simp only [order, orderItems_eq]
    exact compareLex_chained fun a ha b hb' c hc' => ih a ha (hb b hb') (hc c hc')
  case object.object.object as ih bs cs =>
    cases hb with | object hb =>
    cases hc with | object hc =>
    simp only [order, orderFields_eq]
    exact compareLex_chained fun p hp q hq r hr =>
      (chained_compare p.1 q.1 r.1).then fun _ _ => ih p hp (hb q hq) (hc r hr)

theorem order_trans (hS : Number.IsSharp S) (ha : a.Over S) (hb : b.Over S) (hc : c.Over S) (hab : a.order b ≠ .gt)
    (hbc : b.order c ≠ .gt) : a.order c ≠ .gt := by
  rw [order_chained hS ha hb hc hab hbc]
  intro hgt
  rcases Ordering.then_eq_gt.mp hgt with hgt | ⟨-, hgt⟩
  · exact hab hgt
  · exact hbc hgt

theorem order_congr (hS : Number.IsSharp S) (ha : a.Over S) (hb : b.Over S) (hc : c.Over S)
    (h : a.order b = .eq) : a.order c = b.order c := by
  have hba : b.order a = .eq := by rw [order_swap a b, h]; rfl
  by_cases hbc : b.order c = .gt
  · -- From the other side the comparison goes up, which is where the laws speak.
    have hcb : c.order b = .lt := by rw [order_swap b c, hbc]; rfl
    have hca : c.order a = .lt := by
      have hchain := order_chained hS hc hb ha
      rw [hcb, hba] at hchain
      exact hchain nofun nofun
    rw [order_swap c a, hca, hbc]
    rfl
  · have hchain := order_chained hS ha hb hc
    rw [h] at hchain
    exact hchain nofun hbc

end Sharp

theorem same_iff {a b : Value} : a.same b ↔ a.order b = .eq := beq_iff_eq

/-- A double has no difference from an integer it is nearest to. -/
theorem order_int_float {n : Int64} {x : Double} (h : Double.ofInt n.toInt = x) :
    (number (.int n)).order (number (.float x)) = .eq := by
  subst h
  exact Std.ReflOrd.compare_self

theorem order_float_int {n : Int64} {x : Double} (h : Double.ofInt n.toInt = x) :
    (number (.float x)).order (number (.int n)) = .eq := by
  rw [order_swap, order_int_float h]
  rfl

theorem eq_of_order_int {m n : Int64} (h : (number (.int m)).order (number (.int n)) = .eq) : m = n :=
  Int64.toInt_inj.mp (Std.LawfulEqOrd.eq_of_compare h)

/-- The order of values is the same from both sides. That values which are the same as a third are the same as each
other, that comparison is transitive, and that values which are the same compare alike with a third, hold among the
values with numbers from `S` inside if, and only if, no double in `S` is nearest to two different integers in `S`. This
is so where the integers in `S` are at most 2⁵³ on either side of zero, and where there are no doubles in `S`. -/
theorem order_lawful_iff_sharp (S : Number → Prop) :
    (∀ a b : Value, b.order a = (a.order b).swap) ∧
    List.TFAE [
      Number.IsSharp S,
      ∀ a b c : Value, a.Over S → b.Over S → c.Over S → a.same b → b.same c → a.same c,
      ∀ a b c : Value, a.Over S → b.Over S → c.Over S → (a.order b).isLE → (b.order c).isLE → (a.order c).isLE,
      ∀ a b c : Value, a.Over S → b.Over S → c.Over S → a.same b → a.order c = b.order c] ∧
    ((∀ n, S (.int n) → n.toInt.natAbs ≤ 2 ^ 53) → Number.IsSharp S) ∧
    ((∀ x, ¬ S (.float x)) → Number.IsSharp S) := by
  refine ⟨order_swap, ?_, Number.isSharp_of_le, Number.isSharp_of_integers⟩
  tfae_have 1 → 2 := by
    intro hS a b c ha hb hc hab hbc
    rw [same_iff] at hab hbc ⊢
    rw [order_congr hS ha hb hc hab, hbc]
  tfae_have 1 → 3 := by
    intro hS a b c ha hb hc hab hbc
    rw [Ordering.isLE_iff_ne_gt] at hab hbc ⊢
    exact order_trans hS ha hb hc hab hbc
  tfae_have 1 → 4 := by
    intro hS a b c ha hb hc hab
    exact order_congr hS ha hb hc (same_iff.mp hab)
  -- Each law fails at two integers and a double between them that is nearest to both.
  tfae_have 2 → 1 := by
    intro h x m n hx hm hn hmx hnx
    have hsame := h _ _ _ (.number hm) (.number hx) (.number hn) (same_iff.mpr (order_int_float hmx))
      (same_iff.mpr (order_float_int hnx))
    exact eq_of_order_int (same_iff.mp hsame)
  tfae_have 3 → 1 := by
    intro h x m n hx hm hn hmx hnx
    have hle {k l : Int64} (hk : S (.int k)) (hl : S (.int l)) (hkx : Double.ofInt k.toInt = x)
        (hlx : Double.ofInt l.toInt = x) : ((number (.int k)).order (number (.int l))).isLE := by
      apply h _ _ _ (.number hk) (.number hx) (.number hl)
      · rw [order_int_float hkx]
        rfl
      · rw [order_float_int hlx]
        rfl
    exact eq_of_order_int (order_antisymm (hle hm hn hmx hnx) (hle hn hm hnx hmx))
  tfae_have 4 → 1 := by
    intro h x m n hx hm hn hmx hnx
    have heq := h _ _ _ (.number hm) (.number hx) (.number hn) (same_iff.mpr (order_int_float hmx))
    exact eq_of_order_int (heq.trans (order_float_int hnx))
  tfae_finish

/-- Up to 2⁵³, where integers still have a double each, an array with the integer 2⁵³ inside and one with the double
compare alike with all others. -/
theorem order_lawful_to_two_pow :
    let S : Number → Prop := fun n => ∀ m, n = .int m → m.toInt.natAbs ≤ 2 ^ 53
    let a := array [string "n", number (.int 9007199254740992)]
    let b := array [string "n", number (.float ⟨0x4340000000000000⟩)]
    a.same b ∧ ∀ c : Value, c.Over S → a.order c = b.order c := by
  intro S a b
  have hS : Number.IsSharp S := (order_lawful_iff_sharp S).2.2.1 fun n hn => hn n rfl
  have hint : S (.int 9007199254740992) := by
    rintro _ ⟨⟩
    decide
  have ha : a.Over S := .array (by simpa using ⟨.string _, .number hint⟩)
  have hb : b.Over S := .array (by simpa using ⟨.string _, .number nofun⟩)
  have hab : a.same b := by decide +kernel
  have hcongr := ((order_lawful_iff_sharp S).2.1.out 0 3 rfl rfl).mp hS
  exact ⟨hab, fun c hc => hcongr a b c ha hb hc hab⟩

/-- 2⁵³ + 1, the double 2⁵³ and 2⁵³: the double is the same as both integers, which are in the wrong order with it
between them. -/
theorem order_not_transitive :
    let a := number (.int 9007199254740993)
    let b := number (.float ⟨0x4340000000000000⟩)
    let c := number (.int 9007199254740992)
    a.same b ∧ b.same c ∧ ¬ a.same c ∧ (a.order b).isLE ∧ (b.order c).isLE ∧ a.order c = .gt ∧ b.order c = .eq := by
  decide +kernel

end Value

end Tributary
