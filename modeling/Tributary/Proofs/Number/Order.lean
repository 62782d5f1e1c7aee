import Tributary.Number
import Tributary.Proofs.Double.Conversion

/-!
# Laws of the order of numbers

Two integers are compared by value, all else by the nearest doubles. The two ways fit together as one order, first by
double and then, between integers with the same double, by value; but a double that is nearest to two different integers
is equal to both. Where that does not happen, the order is a total preorder.

* `Chained ab bc ac` : what the comparisons of three things in a total preorder have to do with each other;
* `Chained.then` : this passes from two comparisons to the one that takes the second where the first sees no difference;
* `Number.IsSharp S` : no double in `S` is nearest to two different integers in `S`;
* `Number.order_eq_then` : the order as a comparison of doubles and one of integers;
* `Number.order_chained` : the laws hold where numbers are sharp.
-/

namespace Tributary

/-- What comparisons of three things, of the first two, the last two and the outer two, have to do with each other:
along a way that does not go down, the first step that goes up decides. -/
def Chained (ab bc ac : Ordering) : Prop := ab ≠ .gt → bc ≠ .gt → ac = ab.then bc

theorem chained_compare {α : Type} [Ord α] [Std.TransOrd α] (a b c : α) :
    Chained (compare a b) (compare b c) (compare a c) := by
  intro hab hbc
  have hle : (compare b c).isLE := Ordering.isLE_iff_ne_gt.mpr hbc
  cases h : compare a b with
  | lt => exact Std.TransCmp.lt_of_lt_of_isLE h hle
  | eq => exact Std.TransCmp.congr_left h
  | gt => exact absurd h hab

theorem Chained.then {ab bc ac ab' bc' ac' : Ordering} (h : Chained ab bc ac)
    (h' : ab = .eq → bc = .eq → Chained ab' bc' ac') : Chained (ab.then ab') (bc.then bc') (ac.then ac') := by
  intro hab hbc
  cases ab with
  | gt => exact absurd rfl hab
  | lt =>
    have hne : bc ≠ .gt := by
      rintro rfl
      exact hbc rfl
    rw [h nofun hne]
    rfl
  | eq =>
    cases bc with
    | gt => exact absurd rfl hbc
    | lt =>
      rw [h nofun nofun]
      cases ab' with
      | gt => exact absurd rfl hab
      | _ => rfl
    | eq =>
      rw [h nofun nofun]
      exact h' rfl rfl hab hbc

namespace Number

/-- No double among these numbers is the nearest one of two different integers among them. -/
def IsSharp (S : Number → Prop) : Prop :=
  ∀ (x : Double) (m n : Int64), S (.float x) → S (.int m) → S (.int n) → Double.ofInt m.toInt = x →
    Double.ofInt n.toInt = x → m = n

theorem isSharp_of_le {S : Number → Prop} (h : ∀ n, S (.int n) → n.toInt.natAbs ≤ 2 ^ 53) : IsSharp S := by
  intro x m n _ hm hn hmx hnx
  exact Double.ofInt_inj (h m hm) (h n hn) (hmx.trans hnx.symm)

theorem isSharp_of_integers {S : Number → Prop} (h : ∀ x, ¬ S (.float x)) : IsSharp S :=
  fun x _ _ hx => absurd hx (h x)

/-- Integers by value; no difference otherwise. -/
def tie : Number → Number → Ordering
  | int m, int n => compare m.toInt n.toInt
  | _, _ => .eq

/-- Numbers are ordered by their doubles, and integers with the same double by value. -/
theorem order_eq_then (a b : Number) : a.order b = (a.toDouble.order b.toDouble).then (a.tie b) := by
  cases a with
  | float x => cases b <;> exact Ordering.then_eq.symm
  | int m =>
    cases b with
    | float x => exact Ordering.then_eq.symm
    | int n =>
      -- The doubles are never ordered against the integers.
      have hlt : compare (Double.ofInt m.toInt).rank (Double.ofInt n.toInt).rank = .lt →
          compare m.toInt n.toInt = .lt := by
        rw [Int.compare_eq_lt, Int.compare_eq_lt]
        exact fun h => Int.not_le.mp fun hle => Int.not_le.mpr h (Double.rank_ofInt_mono hle)
      have hgt : compare (Double.ofInt m.toInt).rank (Double.ofInt n.toInt).rank = .gt →
          compare m.toInt n.toInt = .gt := by
        rw [Int.compare_eq_gt, Int.compare_eq_gt]
        exact fun h => Int.not_le.mp fun hle => Int.not_le.mpr h (Double.rank_ofInt_mono hle)
      change compare m.toInt n.toInt =
        (compare (Double.ofInt m.toInt).rank (Double.ofInt n.toInt).rank).then (compare m.toInt n.toInt)
      cases h : compare (Double.ofInt m.toInt).rank (Double.ofInt n.toInt).rank with
      | lt => exact hlt h
      | eq => rfl
      | gt => exact hgt h

theorem order_swap (a b : Number) : b.order a = (a.order b).swap := by
  cases a <;> cases b <;> exact Std.OrientedOrd.eq_swap

section Sharp
variable {S : Number → Prop} {a b c : Number}

theorem tie_chained (hS : IsSharp S) (ha : S a) (hb : S b) (hc : S c) (hab : a.toDouble = b.toDouble)
    (hbc : b.toDouble = c.toDouble) : Chained (a.tie b) (b.tie c) (a.tie c) := by
  have heq : ∀ {x m n}, S (.float x) → S (.int m) → S (.int n) → Double.ofInt m.toInt = x →
      Double.ofInt n.toInt = x → tie (.int m) (.int n) = .eq := by
    intro x m n hx hm hn hmx hnx
    rw [hS x m n hx hm hn hmx hnx]
    exact Std.ReflOrd.compare_self
  cases a <;> cases b <;> cases c
  case int.int.int l m n => exact chained_compare l.toInt m.toInt n.toInt
  case int.int.float l m x => rw [heq hc ha hb (hab.trans hbc) hbc]; exact fun _ _ => rfl
  case int.float.int l x n => rw [heq hb ha hc hab hbc.symm]; exact fun _ _ => rfl
  case float.int.int x m n => rw [heq ha hb hc hab.symm (hab.trans hbc).symm]; exact fun _ _ => rfl
  all_goals exact fun _ _ => rfl

/-- Comparisons of sharp numbers are those of a total preorder. -/
theorem order_chained (hS : IsSharp S) (ha : S a) (hb : S b) (hc : S c) :
    Chained (a.order b) (b.order c) (a.order c) := by
  have heq : ∀ {x y : Double}, x.order y = .eq → x = y := fun h =>
    Double.eq_of_rank_eq (Std.LawfulEqOrd.eq_of_compare h)
  rw [order_eq_then a b, order_eq_then b c, order_eq_then a c]
  exact (chained_compare a.toDouble.rank b.toDouble.rank c.toDouble.rank).then fun hab hbc =>
    tie_chained hS ha hb hc (heq hab) (heq hbc)

end Sharp

end Number

end Tributary
