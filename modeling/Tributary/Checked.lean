import Tributary.Diagnostic

/-!
# Checks that report everything

A check gives a result or all the diagnostics that it found, in order. Parts are checked side by side,
so that one that fails does not hide what is wrong with the next.

* `Checked.both`, `Checked.each` : checks side by side;
* `Checked.eachSeen` : checks of a list that know which keys came before.
-/

namespace Tributary

/-- A result, or all the diagnostics that stand against it. -/
abbrev Checked (α : Type) := Except (List Diagnostic) α

namespace Checked

variable {α β γ : Type}

def diagnostics : Checked α → List Diagnostic
  | .ok _ => []
  | .error ds => ds

def both : Checked α → Checked β → Checked (α × β)
  | .ok a, .ok b => .ok (a, b)
  | .ok _, .error ds => .error ds
  | .error ds, .ok _ => .error ds
  | .error ds, .error es => .error (ds ++ es)

/-- Two checks side by side, with their results put together. -/
def zipWith (f : α → β → γ) (a : Checked α) (b : Checked β) : Checked γ :=
  (both a b).map fun p => f p.1 p.2

def fail (d : Diagnostic) : Checked α := .error [d]

/-- A check that found these diagnostics. -/
def report (ds : List Diagnostic) (a : α) : Checked α := if ds.isEmpty then .ok a else .error ds

def each (f : α → Checked β) : List α → Checked (List β)
  | [] => .ok []
  | a :: as => zipWith List.cons (f a) (each f as)

/-- The checks of a list side by side; each is told whether its key came before. -/
def eachSeen (key : α → String) (f : Bool → α → Checked β) (seen : List String) :
    List α → Checked (List β)
  | [] => .ok []
  | a :: as => zipWith List.cons (f (seen.contains (key a)) a) (eachSeen key f (key a :: seen) as)

theorem diagnostics_both (a : Checked α) (b : Checked β) :
    (both a b).diagnostics = a.diagnostics ++ b.diagnostics := by
  cases a <;> cases b <;> simp [both, diagnostics]

theorem both_eq_ok {a : Checked α} {b : Checked β} {x : α} {y : β} :
    both a b = .ok (x, y) ↔ a = .ok x ∧ b = .ok y := by
  cases a <;> cases b <;> simp [both]

end Checked

end Tributary
