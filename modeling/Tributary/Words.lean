/-!
# Computations on machine words

A computation asks for products and sums one after the other and goes on with what the machine makes of each. What it
makes of a result that does not fit into a word is up to the machine.

* `Words` : computations; `Words.mul`, `Words.add`, `Words.slice` : their steps;
* `Words.each` : a loop that hands a state from round to round;
* `Words.run` : a computation on a machine; `Words.checked` : on one that stops where a result does not fit.
-/

namespace Tributary

/-- A computation that ends, stops the machine, or goes on with a product or sum. -/
inductive Words : Type → Type 1 where
  | done {α : Type} (a : α) : Words α
  | halt {α : Type} : Words α
  /-- A product or sum, which without limit is `n`. -/
  | compute (n : Nat) : Words Nat
  | andThen {α β : Type} (c : Words α) (f : α → Words β) : Words β

namespace Words

instance : Monad Words where
  pure := done
  bind := andThen

variable {α : Type}

def mul (m n : Nat) : Words Nat := compute (m * n)

def add (m n : Nat) : Words Nat := compute (m + n)

/-- The items from one place up to another; the machine stops where there are none. -/
def slice (data : Array α) (start stop : Nat) : Words (Array α) :=
  if start ≤ stop ∧ stop ≤ data.size then done (data.extract start stop) else halt

/-- So many rounds of a loop, counted from `i`. -/
def each (f : Nat → α → Words α) (i : Nat) : Nat → α → Words α
  | 0, a => done a
  | n + 1, a => andThen (f i a) (each f (i + 1) n)

/-- What comes out on a machine, given what it makes of a product or sum. -/
def run (word : Nat → Option Nat) {α : Type} : Words α → Option α
  | done a => some a
  | halt => none
  | compute n => word n
  | andThen c f =>
    match run word c with
    | some a => run word (f a)
    | none => none

/-- The machine stops where a product or sum does not fit into 64 bits. -/
def checked (c : Words α) : Option α := c.run fun n => if n < Nat.pow 2 64 then some n else none

end Words

end Tributary
