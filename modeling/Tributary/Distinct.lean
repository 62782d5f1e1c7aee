/-!
# Lists without repetition, and sorted lists

* `firsts` : the first items of their keys, in order;
* `Sorted.ofList` : the items of a list in increasing order, each once;
* `Sorted.arrange` : the items of a list in increasing order, as often as they are there;
* `Sorted.lexLe` : lists of numbers by the first numbers that differ.
-/

namespace Tributary

def firsts {α κ : Type} [BEq κ] (key : α → κ) : List α → List α
  | [] => []
  | a :: as => a :: (firsts key as).filter fun b => key b != key a

namespace Sorted

variable {α : Type}

/-- Puts an item into a sorted list that may have it already. -/
def insert (order : α → α → Ordering) (a : α) : List α → List α
  | [] => [a]
  | b :: bs =>
    match order a b with
    | .lt => a :: b :: bs
    | .eq => b :: bs
    | .gt => b :: insert order a bs

/-- The items of a list in increasing order, each once. -/
def ofList (order : α → α → Ordering) (as : List α) : List α := as.foldr (insert order) []

/-- Pairs by their first part, then by their second. -/
def orderPair {β : Type} (first : α → α → Ordering) (second : β → β → Ordering) (p q : α × β) :
    Ordering :=
  (first p.1 q.1).then (second p.2 q.2)

/-- Puts an item into a sorted list, before the first that it may precede. -/
def place (le : α → α → Bool) (a : α) : List α → List α
  | [] => [a]
  | b :: bs => if le a b then a :: b :: bs else b :: place le a bs

/-- The items of a list in increasing order. -/
def arrange (le : α → α → Bool) (as : List α) : List α := as.foldr (place le) []

/-- Whether one list of numbers may precede another, by the first numbers that differ. -/
def lexLe : List Nat → List Nat → Bool
  | [], _ => true
  | _ :: _, [] => false
  | a :: as, b :: bs => if a = b then lexLe as bs else decide (a < b)

theorem mem_insert {order : α → α → Ordering} (heq : ∀ a b, order a b = .eq → a = b)
    {a b : α} {l : List α} : b ∈ insert order a l ↔ b = a ∨ b ∈ l := by
  induction l with
  | nil => simp [insert]
  | cons c cs ih =>
    unfold insert
    split
    · simp
    · next hsame =>
      obtain rfl := heq a c hsame
      simp
    · simp only [List.mem_cons, ih]
      constructor
      · rintro (h | h | h) <;> simp [h]
      · rintro (h | h | h) <;> simp [h]

theorem mem_ofList {order : α → α → Ordering} (heq : ∀ a b, order a b = .eq → a = b)
    {a : α} {l : List α} : a ∈ ofList order l ↔ a ∈ l := by
  induction l with
  | nil => simp [ofList]
  | cons b bs ih =>
    show a ∈ insert order b (ofList order bs) ↔ _
    rw [mem_insert heq, ih, List.mem_cons]

end Sorted

end Tributary
