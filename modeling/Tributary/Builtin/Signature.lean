import Tributary.Ty

/-!
# Builtins and their signatures

The functions that expressions may call, what arguments they take and what type their results have.

* `Builtin` : a builtin; `Builtin.ofName?` finds it by name;
* `Template` : what an argument may be;
* `Returns` : how the type of a result is found;
* `Builtin.signature` : the templates and the result of a builtin.
-/

namespace Tributary

/-- What an argument may be. -/
inductive Template where
  | any
  | bool
  | number
  | integer
  | string
  | time
  | binary
  | image
  | array
  | object
  /-- Anything with a length: a string, array, object or byte string. -/
  | sized
  /-- A lambda with so many parameters. -/
  | lambda (arity : Nat)
deriving DecidableEq, Repr

namespace Template

def ty : Template → Ty
  | any | sized => .any
  | bool => .boolean
  | number => .number
  | integer => .integer
  | string => .string
  | time => .datetime
  | binary => .binary
  | image => .image
  | array => .array .any
  | object => .object
  | lambda n => .lambda n

/-- Whether an argument of a type fits. A point in time may be given as text. -/
def accepts : Template → Ty → Bool
  | sized, t =>
    match t with
    | .any | .null | .string | .array _ | .object | .binary => true
    | _ => false
  | time, t =>
    match t with
    | .any | .null | .datetime | .string => true
    | _ => false
  | template, t => template.ty.accepts t

/-- The number of parameters of a lambda position. -/
def arity? : Template → Option Nat
  | lambda n => some n
  | _ => none

def isLambda (t : Template) : Bool := t.arity?.isSome

/-- What is expected, in messages. -/
def display : Template → String
  | sized => "a string, array, object or binary"
  | time => "a datetime"
  | template => template.ty.display

end Template

/-- How the type of a result is found. -/
inductive Returns where
  | is (template : Template)
  | arrayOf (template : Template)
  /-- The type of an argument. -/
  | sameAs (argument : Nat)
  /-- The result type of a lambda. -/
  | lambdaResult (argument : Nat)
  /-- An array of the result type of a lambda. -/
  | arrayOfLambda (argument : Nat)
deriving DecidableEq, Repr

structure Signature where
  params : List Template
  returns : Returns
deriving DecidableEq, Repr

inductive Builtin where
  | map
  | filter
  | fold
  | sum
  | avg
  | len
  | zip
  | sortBy
  | get
  | upper
  | lower
  | split
  | join
  | replace
  | concat
  | toText
  | abs
  | ceil
  | floor
  | max
  | min
  | round
  | toNumber
  | now
  | formatDate
  | parseDate
  | binarySize
  | encodeBase64
  | decodeBase64
  | imageGrayscale
  | imageInvert
  | imageResize
  | imageRotate
  | isEmail
  | isUrl
  | isUuid
deriving DecidableEq, Repr

namespace Builtin

def all : List Builtin := [
  map, filter, fold, sum, avg, len, zip, sortBy, get, upper, lower, split, join, replace, concat, toText,
  abs, ceil, floor, max, min, round, toNumber, now, formatDate, parseDate, binarySize, encodeBase64,
  decodeBase64, imageGrayscale, imageInvert, imageResize, imageRotate, isEmail, isUrl, isUuid]

def name : Builtin → String
  | map => "map"
  | filter => "filter"
  | fold => "fold"
  | sum => "sum"
  | avg => "avg"
  | len => "len"
  | zip => "zip"
  | sortBy => "sort_by"
  | get => "get"
  | upper => "upper"
  | lower => "lower"
  | split => "split"
  | join => "join"
  | replace => "replace"
  | concat => "concat"
  | toText => "to_string"
  | abs => "abs"
  | ceil => "ceil"
  | floor => "floor"
  | max => "max"
  | min => "min"
  | round => "round"
  | toNumber => "to_number"
  | now => "now"
  | formatDate => "formatDate"
  | parseDate => "parseDate"
  | binarySize => "binary_size"
  | encodeBase64 => "binary_encode_base64"
  | decodeBase64 => "binary_decode_base64"
  | imageGrayscale => "image_grayscale"
  | imageInvert => "image_invert"
  | imageResize => "image_resize"
  | imageRotate => "image_rotate"
  | isEmail => "is_email"
  | isUrl => "is_url"
  | isUuid => "is_uuid"

def ofName? (s : String) : Option Builtin := all.find? fun b => b.name == s

def signature : Builtin → Signature
  | map => ⟨[.array, .lambda 1], .arrayOfLambda 1⟩
  | filter => ⟨[.array, .lambda 1], .sameAs 0⟩
  | fold => ⟨[.array, .any, .lambda 2], .lambdaResult 2⟩
  | sum => ⟨[.array], .is .number⟩
  | avg => ⟨[.array], .is .number⟩
  | len => ⟨[.sized], .is .integer⟩
  | zip => ⟨[.array, .array], .arrayOf .array⟩
  | sortBy => ⟨[.array, .lambda 1], .sameAs 0⟩
  | get => ⟨[.any, .any, .any], .is .any⟩
  | upper => ⟨[.string], .is .string⟩
  | lower => ⟨[.string], .is .string⟩
  | split => ⟨[.string, .string], .arrayOf .string⟩
  | join => ⟨[.array, .string], .is .string⟩
  | replace => ⟨[.string, .string, .string], .is .string⟩
  | concat => ⟨[.string, .string], .is .string⟩
  | toText => ⟨[.any], .is .string⟩
  | abs => ⟨[.number], .sameAs 0⟩
  | ceil => ⟨[.number], .is .integer⟩
  | floor => ⟨[.number], .is .integer⟩
  | max => ⟨[.number, .number], .is .number⟩
  | min => ⟨[.number, .number], .is .number⟩
  | round => ⟨[.number, .integer], .is .number⟩
  | toNumber => ⟨[.any], .is .number⟩
  | now => ⟨[], .is .time⟩
  | formatDate => ⟨[.time, .string], .is .string⟩
  | parseDate => ⟨[.string], .is .time⟩
  | binarySize => ⟨[.binary], .is .integer⟩
  | encodeBase64 => ⟨[.binary], .is .string⟩
  | decodeBase64 => ⟨[.string], .is .binary⟩
  | imageGrayscale => ⟨[.image], .is .image⟩
  | imageInvert => ⟨[.image], .is .image⟩
  | imageResize => ⟨[.image, .integer, .integer], .is .image⟩
  | imageRotate => ⟨[.image, .integer], .is .image⟩
  | isEmail => ⟨[.any], .is .bool⟩
  | isUrl => ⟨[.any], .is .bool⟩
  | isUuid => ⟨[.any], .is .bool⟩

def arity (b : Builtin) : Nat := b.signature.params.length

/-- The types of a lambda's parameters, given the types of the arguments: the last parameter is an element
of the first argument, and of two the first is the accumulator, which starts as the second argument. -/
def lambdaParams (b : Builtin) (argument : Nat) (types : List Ty) : List Ty :=
  let element := ((types[0]?).map Ty.element).getD .any
  match b.signature.params[argument]? with
  | some (.lambda 2) => [(types[1]?).getD .any, element]
  | some (.lambda n) => List.replicate (n - 1) .any ++ [element]
  | _ => []

end Builtin

end Tributary
