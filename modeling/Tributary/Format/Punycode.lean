/-!
# Punycode

The ASCII form of a label with other letters: its ASCII letters, a hyphen, and then base-36 numbers of
variable length that say which letters to insert and where.
-/

namespace Tributary.Punycode

def base : Nat := 36
def tMin : Nat := 1
def tMax : Nat := 26
def skew : Nat := 38
def damp : Nat := 700
def initialBias : Nat := 72
def initialN : Nat := 128

def digit? (c : Char) : Option Nat :=
  if 'a' ≤ c ∧ c ≤ 'z' then some (c.toNat - 97)
  else if 'A' ≤ c ∧ c ≤ 'Z' then some (c.toNat - 65)
  else if c.isDigit then some (c.toNat - 22)
  else none

/-- The bias after a number, so that the next one is expected to be about as large. -/
def adapt (delta count : Nat) (first : Bool) : Nat :=
  go 64 0 (let d := if first then delta / damp else delta / 2; d + d / count)
where
  go : Nat → Nat → Nat → Nat
    | 0, k, _ => k
    | fuel + 1, k, delta =>
      if (base - tMin) * tMax / 2 < delta then go fuel (k + base) (delta / (base - tMin))
      else k + (base - tMin + 1) * delta / (delta + skew)

/-- How much a digit at place `k` must stay below to end a number. -/
def threshold (k bias : Nat) : Nat :=
  if k ≤ bias + tMin then tMin else if bias + tMax ≤ k then tMax else k - bias

/-- Where a number is being read: the sum so far, the weight and place of the next digit. -/
structure Reading where
  sum : Nat
  weight : Nat
  place : Nat

/-- The letters so far, and where the next insertion starts from. -/
structure State where
  letters : List Char
  index : Nat
  codePoint : Nat
  bias : Nat
  reading : Option Reading

/-- The letter inserted once a number is complete. -/
def State.insert (s : State) (sum : Nat) : Option State :=
  let count := s.letters.length + 1
  let codePoint := s.codePoint + sum / count
  let index := sum % count
  if codePoint.isValidChar then
    some {
      letters := s.letters.take index ++ [Char.ofNat codePoint] ++ s.letters.drop index
      index := index + 1
      codePoint := codePoint
      bias := adapt (sum - s.index) count (s.index == 0 && s.codePoint == initialN)
      reading := none }
  else none

def State.step (s : State) (c : Char) : Option State := do
  let r := s.reading.getD ⟨s.index, 1, base⟩
  let d ← digit? c
  let sum := r.sum + d * r.weight
  let t := threshold r.place s.bias
  let weight := r.weight * (base - t)
  if Nat.pow 2 32 ≤ sum then none
  else if d < t then s.insert sum
  else if Nat.pow 2 32 ≤ weight then none
  else some { s with reading := some ⟨sum, weight, r.place + base⟩ }

/-- The letters before the last hyphen, and the digits after it. A hyphen that no letter precedes does not
divide. -/
def parts (cs : List Char) : List Char × List Char :=
  let tail := (cs.reverse.takeWhile (· ≠ '-')).reverse
  let head := cs.take (cs.length - tail.length)
  if head.length ≤ 1 then ([], cs) else (head.dropLast, tail)

/-- The label of a punycode text, which is ASCII throughout. -/
def decode? (cs : List Char) : Option (List Char) := do
  let (letters, digits) := parts cs
  if !letters.all (·.toNat < 128) then none
  else
    let s ← digits.foldlM State.step ⟨letters, 0, initialN, initialBias, none⟩
    if s.reading.isSome then none else some s.letters

end Tributary.Punycode
