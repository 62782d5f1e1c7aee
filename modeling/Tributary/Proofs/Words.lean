import Mathlib.Algebra.Ring.Nat
import Mathlib.Data.List.Basic
import Tributary.Words

/-!
# What machines make of computations

One and the same computation runs without limit, on a machine that stops where a result does not fit into 64 bits, and
on one that keeps the low 64 bits of it.

* `Words.exact`, `Words.wrapping` : running without limit, and with the low 64 bits only;
* `Words.results` : every product and sum, as they come out without limit; `Words.Fit` : all of them fit;
* `Words.run_eq_exact` : a machine that changes none of the results comes to the same end;
* `Words.checked_of_fit`, `Words.checked_of_not_fit` : the machine that checks comes to the end exactly if all fit;
* `Words.run_each`, `Words.results_each` : the rounds of a loop.
-/

namespace Tributary.Words

variable {α β : Type}

/-- What comes out without limit. -/
def exact (c : Words α) : Option α := c.run some

/-- What comes out on a machine that keeps the low 64 bits of a result. -/
def wrapping (c : Words α) : Option α := c.run fun n => some (n % 2 ^ 64)

/-- The products and sums, as they come out without limit. -/
def results {α : Type} : Words α → List Nat
  | done _ => []
  | halt => []
  | compute n => [n]
  | andThen c f => results c ++ (exact c).elim [] fun a => results (f a)

def Fit (c : Words α) : Prop := ∀ n ∈ c.results, n < 2 ^ 64

/-! ## One computation after the other -/

section Steps
variable (word : Nat → Option Nat) (c : Words α) (f : α → Words β) (m n : Nat)

@[simp] theorem run_pure (a : α) : (pure a : Words α).run word = some a := rfl

@[simp] theorem run_mul : (mul m n).run word = word (m * n) := rfl

@[simp] theorem run_add : (add m n).run word = word (m + n) := rfl

@[simp] theorem run_bind : (c >>= f).run word = (c.run word).bind fun a => (f a).run word := by
  show (andThen c f).run word = _
  rw [run]
  cases c.run word <;> rfl

theorem run_slice {data : Array α} {start stop : Nat} (h : start ≤ stop ∧ stop ≤ data.size) :
    (slice data start stop).run word = some (data.extract start stop) := by
  rw [slice, if_pos h]
  rfl

@[simp] theorem results_pure (a : α) : (pure a : Words α).results = [] := rfl

@[simp] theorem results_mul : (mul m n).results = [m * n] := rfl

@[simp] theorem results_add : (add m n).results = [m + n] := rfl

@[simp] theorem results_slice (data : Array α) (start stop : Nat) : (slice data start stop).results = [] := by
  unfold slice
  split <;> rfl

theorem results_bind {c : Words α} {a : α} (h : c.exact = some a) :
    (c >>= f).results = c.results ++ (f a).results := by
  show (andThen c f).results = _
  rw [results, h]
  rfl

end Steps

/-! ## What the machines have in common -/

theorem run_eq_exact {word : Nat → Option Nat} {c : Words α} (h : ∀ n ∈ c.results, word n = some n) :
    c.run word = c.exact := by
  induction c with
  | done a => rfl
  | halt => rfl
  | compute n => exact h n (List.mem_singleton_self n)
  | andThen c f ihc ihf =>
    obtain ⟨hc, hf⟩ := List.forall_mem_append.mp h
    rw [exact, run, run, ihc hc, ← exact]
    cases ha : c.exact with
    | none => rfl
    | some a =>
      rw [ha] at hf
      exact ihf a hf

theorem checked_of_fit {c : Words α} (h : c.Fit) : c.checked = c.exact :=
  run_eq_exact fun n hn => if_pos (h n hn)

theorem wrapping_of_fit {c : Words α} (h : c.Fit) : c.wrapping = c.exact :=
  run_eq_exact fun n hn => congrArg some (Nat.mod_eq_of_lt (h n hn))

theorem checked_of_not_fit {c : Words α} (h : ¬ c.Fit) : c.checked = none := by
  induction c with
  | done a => exact absurd (List.forall_mem_nil _) h
  | halt => rfl
  | compute n => exact if_neg fun hn => h (List.forall_mem_singleton.mpr hn)
  | andThen c f ihc ihf =>
    rw [checked, run]
    by_cases hc : c.Fit
    · rw [show c.run _ = c.exact from checked_of_fit hc]
      cases ha : c.exact with
      | none => rfl
      | some a =>
        refine ihf a fun hf => h (List.forall_mem_append.mpr ⟨hc, ?_⟩)
        rw [ha]
        exact hf
    · rw [show c.run _ = none from ihc hc]

/-! ## Loops -/

section Each
variable {word : Nat → Option Nat} {f : Nat → α → Words α} {g : Nat → α → α} {i n : Nat} {a : α}

theorem run_each (h : ∀ j ∈ List.range' i n, ∀ a, (f j a).run word = some (g j a)) :
    (each f i n a).run word = some ((List.range' i n).foldl (fun a j => g j a) a) := by
  induction n generalizing i a with
  | zero => rfl
  | succ n ih =>
    rw [List.range'_succ] at h ⊢
    obtain ⟨hi, hrest⟩ := List.forall_mem_cons.mp h
    rw [each, run, hi a]
    exact ih hrest

theorem results_each {rounds : Nat → List Nat} (h : ∀ j ∈ List.range' i n, ∀ a, (f j a).exact = some (g j a))
    (hresults : ∀ j ∈ List.range' i n, ∀ a, (f j a).results = rounds j) :
    (each f i n a).results = (List.range' i n).flatMap rounds := by
  induction n generalizing i a with
  | zero => rfl
  | succ n ih =>
    rw [List.range'_succ] at h hresults ⊢
    obtain ⟨hi, hrest⟩ := List.forall_mem_cons.mp h
    obtain ⟨hi', hrest'⟩ := List.forall_mem_cons.mp hresults
    rw [each, results, hi a, List.flatMap_cons, hi' a]
    exact congrArg _ (ih hrest hrest')

end Each

theorem toList_foldl_append (piece : Nat → Array β) (js : List Nat) (data : Array β) :
    (js.foldl (fun data j => data ++ piece j) data).toList = data.toList ++ js.flatMap fun j => (piece j).toList := by
  induction js generalizing data with
  | nil => simp
  | cons j js ih => rw [List.foldl_cons, ih, Array.toList_append, List.flatMap_cons, List.append_assoc]

end Tributary.Words
