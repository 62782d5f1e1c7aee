import Tributary.Builtin.Collection
import Tributary.Builtin.Picture
import Tributary.Builtin.Scalar

/-!
# Calling builtins

A builtin gets the values of its arguments, with null in the place of lambdas, a way to call the lambda at
an argument position, and the time of the evaluation.

* `Builtin.apply` : the outcome of a call.
-/

namespace Tributary

structure Call where
  /-- The arguments, null in the place of lambdas. -/
  values : List Value
  /-- Calls the lambda at an argument position. -/
  invoke : Nat → List Value → Outcome
  /-- The time of the evaluation. -/
  now : Int64

namespace Builtin

def countError (b : Builtin) (got : Nat) : EvalError := b.objection (.argumentCount b.arity got)

def noArgs (b : Builtin) (vs : List Value) (f : Outcome) : Outcome :=
  match vs with
  | [] => f
  | vs => .error (b.countError vs.length)

def oneArg (b : Builtin) (vs : List Value) (f : Value → Outcome) : Outcome :=
  match vs with
  | [x] => f x
  | vs => .error (b.countError vs.length)

def twoArgs (b : Builtin) (vs : List Value) (f : Value → Value → Outcome) : Outcome :=
  match vs with
  | [x, y] => f x y
  | vs => .error (b.countError vs.length)

def threeArgs (b : Builtin) (vs : List Value) (f : Value → Value → Value → Outcome) : Outcome :=
  match vs with
  | [x, y, z] => f x y z
  | vs => .error (b.countError vs.length)

def apply (b : Builtin) (c : Call) : Outcome :=
  let vs := c.values
  match b with
  | map => b.twoArgs vs fun items _ => runMap (fun v => c.invoke 1 [v]) items
  | filter => b.twoArgs vs fun items _ => runFilter (fun v => c.invoke 1 [v]) items
  | fold => b.threeArgs vs fun items seed _ => runFold (fun acc v => c.invoke 2 [acc, v]) items seed
  | sum => b.oneArg vs runSum
  | avg => b.oneArg vs runAvg
  | len => b.oneArg vs runLen
  | zip => b.twoArgs vs runZip
  | sortBy => b.twoArgs vs fun items _ => runSortBy (fun v => c.invoke 1 [v]) items
  | get => b.threeArgs vs runGet
  | upper => b.oneArg vs (runCase b Text.upper)
  | lower => b.oneArg vs (runCase b Text.lower)
  | split => b.twoArgs vs runSplit
  | join => b.twoArgs vs runJoin
  | replace => b.threeArgs vs runReplace
  | concat => b.twoArgs vs runConcat
  | toText => b.oneArg vs runToText
  | abs => b.oneArg vs (runNumeric b Number.abs)
  | ceil => b.oneArg vs (runNumeric b Number.ceil)
  | floor => b.oneArg vs (runNumeric b Number.floor)
  | max => b.twoArgs vs (runExtremum b (· != .lt))
  | min => b.twoArgs vs (runExtremum b (· != .gt))
  | round => b.twoArgs vs runRound
  | toNumber => b.oneArg vs runToNumber
  | now => b.noArgs vs (.ok (.time c.now))
  | formatDate => b.twoArgs vs runFormatDate
  | parseDate => b.oneArg vs runParseDate
  | binarySize => b.oneArg vs runBinarySize
  | encodeBase64 => b.oneArg vs runEncodeBase64
  | decodeBase64 => b.oneArg vs runDecodeBase64
  | imageGrayscale => b.oneArg vs (runPicture b Raster.grayscale)
  | imageInvert => b.oneArg vs (runPicture b Raster.invert)
  | imageResize => b.threeArgs vs runResize
  | imageRotate => b.twoArgs vs runRotate
  | isEmail => b.oneArg vs (runPredicate fun s => Email.isEmail s.toList)
  | isUrl => b.oneArg vs (runPredicate Url.hasHost)
  | isUuid => b.oneArg vs (runPredicate fun s => Uuid.isUuid s.toList)

end Builtin

end Tributary
