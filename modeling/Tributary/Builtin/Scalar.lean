import Tributary.Builtin.Argument
import Tributary.Format.Identifier
import Tributary.Format.Url
import Tributary.Text.Case
import Tributary.Time.Pattern

/-!
# Builtins on scalars

Numbers, text, points in time, byte strings and the predicates on text. Most of them pass null through;
the predicates are false of everything that is not text.
-/

namespace Tributary.Builtin

/-- Null for null, else the outcome of a function. -/
def orNull (v : Value) (f : Value → Outcome) : Outcome :=
  match v with
  | .null => .ok .null
  | v => f v

/-! ## Numbers -/

def runNumeric (b : Builtin) (f : Number → Number) (v : Value) : Outcome :=
  orNull v fun v => (b.takeNumber v).map fun n => .number (f n)

/-- The left number if it is preferred, else the right one; of a number and null, the number. -/
def runExtremum (b : Builtin) (preferred : Ordering → Bool) (left right : Value) : Outcome :=
  match left, right with
  | .null, v => orNull v fun v => (b.takeNumber v).map .number
  | v, .null => (b.takeNumber v).map .number
  | v, w => do
    let m ← b.takeNumber v
    let n ← b.takeNumber w
    return .number (if preferred (m.order n) then m else n)

def runRound (v digits : Value) : Outcome :=
  orNull v fun v => do
    let n ← round.takeNumber v
    let d ← round.takeInteger digits
    if -15 ≤ d.toInt ∧ d.toInt ≤ 15 then return .number (n.round d.toInt)
    else .error (round.objection (.digitsOutOfRange d.toInt))

def runToNumber : Value → Outcome
  | .null => .ok .null
  | .number n => .ok (.number n)
  | .bool b => .ok (.ofNat b.toNat)
  | .string s =>
    match Number.ofText? s with
    | some n => .ok (.number n)
    | none => .error (toNumber.objection (.notANumber s))
  | v => .error (toNumber.mismatch .convertible v)

/-! ## Text -/

def runCase (b : Builtin) (f : String → String) (v : Value) : Outcome :=
  orNull v fun v => (b.takeString v).map fun s => .string (f s)

/-- What stands between the occurrences of a separator; null has no parts. -/
def runSplit (v sep : Value) : Outcome :=
  match v with
  | .null => .ok (.array [])
  | v => do
    let s ← split.takeString v
    let sep ← split.takeString sep
    if sep = "" then .error (split.objection .emptySeparator)
    else return .array ((Text.pieces sep.toList s.toList).map fun p => .string (String.ofList p))

def runJoin (parts sep : Value) : Outcome := do
  let ss ← join.takeStrings parts
  let sep ← join.takeString sep
  return .string (String.ofList (Text.join sep.toList (ss.map String.toList)))

def runReplace (v old new : Value) : Outcome :=
  orNull v fun v => do
    let s ← replace.takeString v
    let old ← replace.takeString old
    let new ← replace.takeString new
    return .string (String.ofList (Text.replace old.toList new.toList s.toList))

/-- The text of an operand of a concatenation; null is empty. -/
def concatPart : Value → Except EvalError String
  | .null => .ok ""
  | v => concat.takeString v

def runConcat (left right : Value) : Outcome := do
  let s ← concatPart left
  let t ← concatPart right
  return .string (s ++ t)

/-- Text as it is, and all else as what it is written as: text as that, and other trees as JSON. -/
def runToText : Value → Outcome
  | .string s => .ok (.string s)
  | v =>
    match v.serialize.toJson? with
    | .ok (.string s) => .ok (.string s)
    | .ok j => .ok (.string j.compact)
    | .error e => .error (.internal (.unwritable e))

/-- A predicate on text, false of everything else. -/
def runPredicate (f : String → Bool) : Value → Outcome
  | .string s => .ok (.bool (f s))
  | _ => .ok (.bool false)

/-! ## Points in time -/

def runFormatDate (v format : Value) : Outcome :=
  orNull v fun v => do
    let ns ← formatDate.takeTime v
    let format ← formatDate.takeString format
    match Time.Pattern.write? format (Time.Moment.ofNanoseconds ns.toInt) with
    | some s => return .string s
    | none => .error (formatDate.objection (.invalidFormat format))

def runParseDate (v : Value) : Outcome :=
  orNull v fun v => do
    let s ← parseDate.takeString v
    match Time.readMoment? s with
    | some ns => return .time ns
    | none => .error (parseDate.objection (.notADate s))

/-! ## Byte strings -/

def runBinarySize (v : Value) : Outcome :=
  match v with
  | .null => .ok (.ofNat 0)
  | v => (binarySize.takeBytes v).map fun data => .ofNat data.length

def runEncodeBase64 (v : Value) : Outcome :=
  orNull v fun v => (encodeBase64.takeBytes v).map fun data => .string (String.ofList (Base64.encode data))

def runDecodeBase64 (v : Value) : Outcome :=
  orNull v fun v => do
    let s ← decodeBase64.takeString v
    match Base64.decode s.toList with
    | .ok data => return .bytes data
    | .error e => .error (decodeBase64.objection (.base64 e))

end Tributary.Builtin
