import Tributary.Format.Base64
import Tributary.Value.Json

/-!
# Evaluation errors

Why an evaluation has no value. Each cause keeps what it is about; `EvalError.message` words it.

* `Expected` : what a builtin wants of an argument;
* `Fault` : what a builtin objects to beyond the sort of an argument;
* `InternalFault` : what no compiled expression can run into.
-/

namespace Tributary

/-- What a builtin wants of an argument. -/
inductive Expected where
  | numeric
  | integer
  | string
  | array
  | strings
  | binary
  | datetime
  | image
  | predicate
  | sized
  | convertible
deriving DecidableEq, Repr

def Expected.text : Expected → String
  | numeric => "numeric"
  | integer => "integer"
  | string => "string"
  | array => "array"
  | strings => "array of strings"
  | binary => "binary"
  | datetime => "datetime"
  | image => "image"
  | predicate => "boolean predicate"
  | sized => "string, array, object or binary"
  | convertible => "string, number or boolean"

/-- What a builtin objects to beyond the sort of an argument. -/
inductive Fault where
  | argumentCount (expected got : Nat)
  | elementNotString (index : Nat)
  | emptySeparator
  | digitsOutOfRange (digits : Int)
  | notANumber (text : String)
  | invalidFormat (format : String)
  | notADate (text : String)
  | base64 (e : Base64.Error)
  | negativeDimension (name : String)
  | channelCount (channels : Int)
  /-- The picture's size does not go with its data; no size when the product exceeds 64 bits. -/
  | dataSize (width height channels : Nat) (expected : Option Nat) (got : Nat)
  | targetSize (size : Int)
  | rotation (degrees : Int)
deriving DecidableEq, Repr

def argumentsText : Nat → String
  | 1 => "1 argument"
  | n => toString n ++ " arguments"

def Fault.message : Fault → String
  | argumentCount expected got => "expects " ++ argumentsText expected ++ ", got " ++ toString got
  | elementNotString index => "element " ++ toString index ++ " is not a string"
  | emptySeparator => "separator must not be empty"
  | digitsOutOfRange digits => "digits must be within -15..=15. Got " ++ toString digits
  | notANumber text => "`" ++ text ++ "` is not a number"
  | invalidFormat format => "invalid format `" ++ format ++ "`"
  | notADate text => "`" ++ text ++ "` is not an RFC 3339 timestamp or a YYYY-MM-DD date"
  | base64 e => e.message
  | negativeDimension name => "negative image " ++ name
  | channelCount channels => "unsupported channel count " ++ toString channels
  | dataSize width height channels expected got =>
    toString width ++ "x" ++ toString height ++ "x" ++ toString channels ++ " image needs " ++
      (expected.map toString).getD "too many" ++ " bytes, got " ++ toString got
  | targetSize size => "size must be within 1..=16384. Got " ++ toString size
  | rotation degrees => "rotation must be a multiple of 90 degrees. Got " ++ toString degrees

/-- What no compiled expression can run into. -/
inductive InternalFault where
  | unboundLocal (slot : Nat)
  | lambdaOutsideCall
  | unknownBuiltin (name : String)
  | notALambda (argument : Nat)
  | lambdaArity (arity given : Nat)
  | unwritable (e : Serial.Error)
deriving DecidableEq, Repr

def InternalFault.message : InternalFault → String
  | unboundLocal slot => "lambda local " ++ toString slot ++ " is not bound"
  | lambdaOutsideCall => "lambda evaluated outside of a builtin call"
  | unknownBuiltin name => "unknown builtin `" ++ name ++ "`"
  | notALambda argument => "argument " ++ toString argument ++ " is not a lambda"
  | lambdaArity arity given =>
    "lambda takes " ++ toString arity ++ " parameters, " ++ toString given ++ " given"
  | unwritable e => e.message

inductive EvalError where
  | divisionByZero
  /-- An operator cannot be applied to two values of these kinds. -/
  | invalidOperands (operator left right : String)
  /-- An operator cannot be applied to a value of this kind. -/
  | invalidOperand (operator operand : String)
  /-- A field was asked of a value of this kind. -/
  | notAnObject (field found : String)
  /-- A builtin wanted another argument; `found` is the text of what it got. -/
  | argument (builtin : String) (expected : Expected) (found : String)
  | builtin (name : String) (fault : Fault)
  | internal (fault : InternalFault)
  /-- A product or sum in a builtin does not fit into a machine word. -/
  | overflow (builtin : String)
deriving DecidableEq, Repr

def EvalError.message : EvalError → String
  | divisionByZero => "division by zero"
  | invalidOperands operator left right =>
    "`" ++ operator ++ "` cannot be applied to " ++ left ++ " and " ++ right
  | invalidOperand operator operand => "`" ++ operator ++ "` cannot be applied to " ++ operand
  | notAnObject field found => "cannot read field `" ++ field ++ "` of " ++ found
  | argument name expected found =>
    "`" ++ name ++ "` expects " ++ expected.text ++ " argument. Got `" ++ found ++ "` instead"
  | builtin name fault => "`" ++ name ++ "`: " ++ fault.message
  | internal fault => "internal error: " ++ fault.message
  | overflow name => "`" ++ name ++ "`: arithmetic overflow"

abbrev Outcome := Except EvalError Value

end Tributary
