import Tributary.Format.Host

/-!
# Web addresses

An address is a scheme, a colon, and what the scheme makes of the rest. The schemes of the web always have
a host, however many slashes introduce it; `file` may have one; any other scheme has one after two slashes.

* `Url.hasHost` : whether a text is a web address with a host.
-/

namespace Tributary.Url

inductive Scheme where
  | web
  | file
  | other
deriving DecidableEq, Repr

def Scheme.ofName (name : String) : Scheme :=
  if ["http", "https", "ws", "wss", "ftp"].contains name then .web
  else if name = "file" then .file
  else .other

/-- The text without control characters and blanks around it, and without tabs and line breaks. -/
def clean (cs : List Char) : List Char :=
  let isEdge := fun c : Char => c.toNat ≤ 0x20
  let cs := ((cs.dropWhile isEdge).reverse.dropWhile isEdge).reverse
  cs.filter fun c => !(c == '\t' || c == '\n' || c == '\r')

def isSchemeChar (c : Char) : Bool := c.isAlpha || c.isDigit || c == '+' || c == '-' || c == '.'

def scheme? (cs : List Char) : Option (Scheme × List Char) :=
  let (name, rest) := cs.span isSchemeChar
  match name.head?, rest with
  | some first, ':' :: rest =>
    if first.isAlpha then some (Scheme.ofName (String.ofList (name.map Char.toLower)), rest) else none
  | _, _ => none

def endsAuthority (special : Bool) (c : Char) : Bool :=
  c == '/' || c == '?' || c == '#' || (special && c == '\\')

def afterUserInfo (authority : List Char) : List Char :=
  (authority.reverse.takeWhile (· ≠ '@')).reverse

/-- The host before the first colon that is not in brackets, and what follows. -/
def spanHost (inBrackets : Bool) : List Char → List Char × List Char
  | [] => ([], [])
  | c :: cs =>
    if c = ':' ∧ !inBrackets then ([], c :: cs)
    else
      let inBrackets := if c = '[' then true else if c = ']' then false else inBrackets
      let (host, rest) := spanHost inBrackets cs
      (c :: host, rest)

/-- Whether what follows a host is nothing or a colon with a number of 16 bits, which may be left out. A
backslash ends the number in any scheme. -/
def isPortNumber (cs : List Char) : Bool :=
  match cs with
  | [] => true
  | ':' :: rest =>
    let digits := rest.takeWhile (· ≠ '\\')
    digits.all Char.isDigit && decide (Decimal.ofDigits digits ≤ 65535)
  | _ => false

def hasAuthorityHost (special : Bool) (cs : List Char) : Bool :=
  let authority := cs.takeWhile fun c => !endsAuthority special c
  let (host, rest) := spanHost false (afterUserInfo authority)
  host != [] && (if special then Host.isHost host else Host.isOpaqueHost host) && isPortNumber rest

/-- A letter and a colon or bar: the drive of a path. -/
def isDrive : List Char → Bool
  | [letter, mark] => letter.isAlpha && (mark == ':' || mark == '|')
  | _ => false

/-- The segments of a path, and the text up to a query or fragment only. -/
def segments (cs : List Char) : List (List Char) :=
  let path := cs.takeWhile fun c => !(c == '?' || c == '#')
  Text.pieces ['/'] (path.map fun c => if c = '\\' then '/' else c)

/-- A dot as it may be written in a path. -/
def plainDots (segment : List Char) : List Char :=
  Text.replace "%2e".toList ['.'] (segment.map Char.toLower)

/-- Whether the first segment of a path, `depth` others standing before it, names a drive. -/
def startsWithDrive (depth : Nat) : List (List Char) → Bool
  | [] => false
  | segment :: rest =>
    if plainDots segment = ['.'] then startsWithDrive depth rest
    else if plainDots segment = ['.', '.'] then startsWithDrive (depth - 1) rest
    else (depth == 0 && isDrive segment) || startsWithDrive (depth + 1) rest

/-- Whether a `file` address has a host: not a drive, not this machine, and not before a drive. -/
def hasFileHost (cs : List Char) : Bool :=
  let isSlash := fun c : Char => c == '/' || c == '\\'
  match cs with
  | a :: b :: rest =>
    if isSlash a && isSlash b then
      let (host, path) := rest.span fun c => !endsAuthority true c
      host != [] && !isDrive host && Host.isHost host && Host.domain? host != some "localhost".toList &&
        !startsWithDrive 0 (segments (path.drop (if path.head?.any isSlash then 1 else 0)))
    else false
  | _ => false

def hasHost (s : String) : Bool :=
  match scheme? (clean s.toList) with
  | none => false
  | some (.web, rest) => hasAuthorityHost true (rest.dropWhile fun c => c == '/' || c == '\\')
  | some (.file, rest) => hasFileHost rest
  | some (.other, rest) =>
    match rest with
    | '/' :: '/' :: rest => hasAuthorityHost false rest
    | _ => false

end Tributary.Url
