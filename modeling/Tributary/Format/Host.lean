import Tributary.Format.Domain.Basic
import Tributary.Json.Token

/-!
# Hosts

The host of an address on the web is a domain, an IPv4 address or, in brackets, an IPv6 address. A domain
may be written with percent escapes and with letters of any script.

* `Host.isHost` : whether a text is a host;
* `Host.isOpaqueHost` : the same where hosts are not interpreted.
-/

namespace Tributary.Host

open Domain (labels)

/-! ## Addresses -/

def digitIn? (base : Nat) (c : Char) : Option Nat :=
  (Json.hexValue? c).filter (· < base)

/-- A part of an IPv4 address: decimal, octal after a zero, hexadecimal after `0x`. -/
def ipv4Number? (cs : List Char) : Option Nat :=
  let (base, digits) :=
    match cs with
    | '0' :: 'x' :: rest => (16, rest)
    | '0' :: 'X' :: rest => (16, rest)
    | '0' :: c :: rest => (8, c :: rest)
    | cs => (10, cs)
  if cs = [] then none else digits.foldlM (fun n c => (digitIn? base c).map (base * n + ·)) 0

/-- The labels of a domain without the empty one after a last dot. -/
def trimLast (parts : List (List Char)) : List (List Char) :=
  if 1 < parts.length ∧ parts.getLast? = some [] then parts.dropLast else parts

/-- Whether a domain must be an IPv4 address. -/
def endsInNumber (domain : List Char) : Bool :=
  match (trimLast (labels domain)).getLast? with
  | some last => last != [] && (last.all Char.isDigit || (ipv4Number? last).isSome)
  | none => false

/-- Whether a domain is an IPv4 address: up to four numbers, the last one filling the rest. -/
def isIpv4 (domain : List Char) : Bool :=
  let parts := trimLast (labels domain)
  match parts.mapM ipv4Number? with
  | none => false
  | some numbers =>
    parts.length ≤ 4 &&
    (match numbers.getLast? with
      | some last => last < Nat.pow 256 (5 - numbers.length)
      | none => false) &&
    numbers.dropLast.all (· ≤ 255)

/-- Whether a text is one to four hexadecimal digits. -/
def isIpv6Piece (cs : List Char) : Bool :=
  1 ≤ cs.length && cs.length ≤ 4 && cs.all fun c => (Json.hexValue? c).isSome

/-- Whether a text is a decimal up to 255 without a leading zero. -/
def isIpv4Byte (cs : List Char) : Bool :=
  cs != [] && cs.all Char.isDigit && (cs.length == 1 || cs.head? != some '0') && cs.length ≤ 3 &&
  decide (Decimal.ofDigits cs ≤ 255)

/-- Whether a text is four decimals with dots. -/
def isDotted (cs : List Char) : Bool :=
  let parts := labels cs
  parts.length == 4 && parts.all isIpv4Byte

/-- How many of the eight pieces a run of them fills, the last one possibly a dotted address. -/
def pieceCount? (mayDot : Bool) (parts : List (List Char)) : Option Nat :=
  match parts.getLast? with
  | none => some 0
  | some last =>
    if !parts.dropLast.all isIpv6Piece then none
    else if isIpv6Piece last then some parts.length
    else if mayDot && isDotted last then some (parts.length + 1)
    else none

/-- The pieces of a run; an empty run has none. -/
def pieceList (cs : List Char) : List (List Char) := if cs = [] then [] else Text.pieces [':'] cs

/-- Whether a text is an IPv6 address: eight pieces, or fewer around one double colon. -/
def isIpv6 (cs : List Char) : Bool :=
  match Text.pieces [':', ':'] cs with
  | [all] => pieceCount? true (pieceList all) == some 8
  | [before, after] =>
    match pieceCount? false (pieceList before), pieceCount? true (pieceList after) with
    | some m, some n => m + n ≤ 7
    | _, _ => false
  | _ => false

/-- What stands in brackets. -/
def bracketed? : List Char → Option (List Char)
  | '[' :: rest => some rest
  | _ => none

def isBracketed (rest : List Char) : Bool := rest.getLast? == some ']' && isIpv6 rest.dropLast

/-! ## Hosts -/

/-- Percent escapes replaced by the bytes that they stand for. -/
def percentDecode : List UInt8 → List UInt8
  | [] => []
  | 37 :: a :: b :: rest =>
    match Json.hexValue? (Char.ofNat a.toNat), Json.hexValue? (Char.ofNat b.toNat) with
    | some m, some n => UInt8.ofNat (16 * m + n) :: percentDecode rest
    | _, _ => 37 :: percentDecode (a :: b :: rest)
  | c :: rest => c :: percentDecode rest

/-- The characters of a host once percent escapes are replaced. -/
def unescape? (cs : List Char) : Option (List Char) :=
  let bytes := percentDecode (String.ofList cs).toUTF8.toList
  (String.fromUTF8? ⟨bytes.toArray⟩).map String.toList

/-- The domain that a text spells, in lower case. -/
def domain? (cs : List Char) : Option (List Char) := (unescape? cs).bind Domain.read?

/-- Whether a text is a host; an empty one is none. -/
def isHost (cs : List Char) : Bool :=
  match bracketed? cs with
  | some rest => isBracketed rest
  | none =>
    match domain? cs with
    | some domain => domain != [] && (!endsInNumber domain || isIpv4 domain)
    | none => false

/-- Whether a text can stand as a host that is not interpreted; the empty text can. -/
def isOpaqueHost (cs : List Char) : Bool :=
  match bracketed? cs with
  | some rest => isBracketed rest
  | none =>
    !cs.any fun c =>
      c.toNat == 0 || c == '\t' || c == '\n' || c == '\r' || " #/:<>?@[\\]^|".toList.contains c

end Tributary.Host
