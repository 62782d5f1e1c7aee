import Tributary.Builtin.Signature
import Tributary.EvalError

/-!
# Arguments of builtins

A builtin takes each argument as what it needs, or says what it expected. Null stands for the empty array
where an array is wanted, a byte string may be given as an array of numbers below 256, and a point in
time as text.
-/

namespace Tributary.Builtin

def mismatch (b : Builtin) (expected : Expected) (v : Value) : EvalError :=
  .argument b.name expected v.display

def objection (b : Builtin) (fault : Fault) : EvalError := .builtin b.name fault

def takeNumber (b : Builtin) : Value → Except EvalError Number
  | .number n => .ok n
  | v => .error (b.mismatch .numeric v)

def takeInteger (b : Builtin) (v : Value) : Except EvalError Int64 :=
  match v with
  | .number n =>
    match n.toInt? with
    | some i => .ok i
    | none => .error (b.mismatch .integer v)
  | _ => .error (b.mismatch .integer v)

def takeString (b : Builtin) : Value → Except EvalError String
  | .string s => .ok s
  | v => .error (b.mismatch .string v)

def takeArray (b : Builtin) : Value → Except EvalError (List Value)
  | .array vs => .ok vs
  | .null => .ok []
  | v => .error (b.mismatch .array v)

/-- The strings of a list, the first of which stands at `index`. -/
def stringsFrom (b : Builtin) (index : Nat) : List Value → Except EvalError (List String)
  | [] => .ok []
  | .string s :: vs => (stringsFrom b (index + 1) vs).map (s :: ·)
  | _ :: _ => .error (b.objection (.elementNotString index))

def takeStrings (b : Builtin) : Value → Except EvalError (List String)
  | .array vs => stringsFrom b 0 vs
  | .null => .ok []
  | v => .error (b.mismatch .strings v)

def byte? : Value → Option UInt8
  | .number n =>
    match n.toInt? with
    | some i => if 0 ≤ i.toInt ∧ i.toInt ≤ 255 then some (UInt8.ofNat i.toInt.toNat) else none
    | none => none
  | _ => none

def bytes? : List Value → Option (List UInt8)
  | [] => some []
  | v :: vs =>
    match byte? v, bytes? vs with
    | some b, some bs => some (b :: bs)
    | _, _ => none

def takeBytes (b : Builtin) (v : Value) : Except EvalError (List UInt8) :=
  match v with
  | .bytes data => .ok data
  | .array vs =>
    match bytes? vs with
    | some data => .ok data
    | none => .error (b.mismatch .binary v)
  | _ => .error (b.mismatch .binary v)

def takeTime (b : Builtin) (v : Value) : Except EvalError Int64 :=
  match v with
  | .time ns => .ok ns
  | .string s =>
    match Time.readMoment? s with
    | some ns => .ok ns
    | none => .error (b.mismatch .datetime v)
  | _ => .error (b.mismatch .datetime v)

end Tributary.Builtin
