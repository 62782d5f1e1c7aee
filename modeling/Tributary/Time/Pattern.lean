import Tributary.Time.Moment

/-!
# Date patterns

A pattern is text in which a percent sign starts a specifier for a part of a moment: `%Y-%m-%d`. A number
may be padded differently from its habit with `-` (not at all), `0` or `_` (blanks) after the percent
sign. A pattern with a specifier that does not exist has no meaning at all.

* `Pattern.read?` : the items of a pattern;
* `Pattern.write` : the text of a moment.
-/

namespace Tributary.Time

/-- How a number is filled up to its width. -/
inductive Padding where
  | none
  | zero
  | blank
deriving DecidableEq, Repr

inductive Part where
  | year
  | century
  | yearOfCentury
  | weekYear
  | weekYearOfCentury
  | quarter
  | month
  | day
  | weekFromSunday
  | weekFromMonday
  | week
  | weekdayFromSunday
  | weekdayFromMonday
  | ordinal
  | hour
  | hourOfHalf
  | minute
  | second
  | nanosecond
  | timestamp
deriving DecidableEq, Repr

/-- A part of a moment that is a word or has a form of its own. -/
inductive Form where
  | monthName (short : Bool)
  | weekdayName (short : Bool)
  | half (upperCase : Bool)
  /-- The fraction of a second with its point, in as few groups of digits as it needs. -/
  | fraction
  /-- The first digits of the fraction of a second. -/
  | fractionDigits (point : Bool) (digits : Nat)
  | zoneName
  /-- The distance from universal time: hours, and with colons the parts after them. -/
  | offset (text : String)
  | stamp
deriving DecidableEq, Repr

inductive Item where
  | text (s : String)
  | number (part : Part) (padding : Padding)
  | form (f : Form)
deriving DecidableEq, Repr

namespace Part

/-- The number of digits up to which a part is filled. -/
def width : Part → Nat
  | year | weekYear => 4
  | ordinal => 3
  | nanosecond | timestamp => 9
  | quarter | weekdayFromSunday | weekdayFromMonday => 1
  | _ => 2

/-- The hour on a dial of twelve. -/
def dialHour (hour : Int) : Int := if hour % 12 = 0 then 12 else hour % 12

def value (m : Moment) : Part → Int
  | year => m.date.year
  | century => m.date.year / 100
  | yearOfCentury => m.date.year % 100
  | weekYear => m.date.weekYear
  | weekYearOfCentury => m.date.weekYear % 100
  | quarter => (m.date.month - 1) / 3 + 1
  | month => m.date.month
  | day => m.date.day
  | weekFromSunday => (m.date.ordinal - m.date.weekday + 6) / 7
  | weekFromMonday => (m.date.ordinal - m.date.weekdayFromMonday + 6) / 7
  | week => m.date.week
  | weekdayFromSunday => m.date.weekday
  | weekdayFromMonday => m.date.weekdayFromMonday + 1
  | ordinal => m.date.ordinal
  | hour => m.hour
  | hourOfHalf => dialHour m.hour
  | minute => m.minute
  | second => m.second
  | nanosecond => m.nanosecond
  | timestamp => m.seconds

end Part

def monthNames : List String :=
  ["January", "February", "March", "April", "May", "June", "July", "August", "September", "October",
    "November", "December"]

def weekdayNames : List String :=
  ["Sunday", "Monday", "Tuesday", "Wednesday", "Thursday", "Friday", "Saturday"]

/-- A name from a list, whole or its first three letters. -/
def nameAt (names : List String) (short : Bool) (i : Int) : String :=
  let name := (names[i.toNat]?).getD ""
  if short then String.ofList (name.toList.take 3) else name

/-- A number filled up to a width; zeros stand after the sign, blanks before it. -/
def fill (padding : Padding) (width : Nat) (n : Int) : String :=
  let sign := if n < 0 then ['-'] else []
  let digits := Nat.toDigits 10 n.natAbs
  let missing := width - (sign.length + digits.length)
  String.ofList <|
    match padding with
    | .none => sign ++ digits
    | .zero => sign ++ List.replicate missing '0' ++ digits
    | .blank => List.replicate missing ' ' ++ sign ++ digits

namespace Form

/-- The text of a form for a moment in universal time. -/
def write (m : Moment) : Form → String
  | monthName short => nameAt monthNames short (m.date.month - 1)
  | weekdayName short => nameAt weekdayNames short m.date.weekday
  | half upperCase =>
    if m.hour < 12 then (if upperCase then "AM" else "am") else (if upperCase then "PM" else "pm")
  | fraction => String.ofList (fractionText m.nanosecond)
  | fractionDigits point digits =>
    (if point then "." else "") ++ String.ofList ((padded 9 m.nanosecond).take digits)
  | zoneName => "UTC"
  | offset text => text
  | stamp => String.ofList m.localChars ++ "+00:00"

end Form

namespace Item

def write (m : Moment) : Item → String
  | text s => s
  | number part padding => fill padding part.width (part.value m)
  | form f => f.write m

end Item

namespace Pattern

/-- The number that a letter stands for, and its habitual padding. -/
def number? : Char → Option (Part × Padding)
  | 'C' => some (.century, .zero)
  | 'G' => some (.weekYear, .zero)
  | 'H' => some (.hour, .zero)
  | 'I' => some (.hourOfHalf, .zero)
  | 'M' => some (.minute, .zero)
  | 'S' => some (.second, .zero)
  | 'U' => some (.weekFromSunday, .zero)
  | 'V' => some (.week, .zero)
  | 'W' => some (.weekFromMonday, .zero)
  | 'Y' => some (.year, .zero)
  | 'd' => some (.day, .zero)
  | 'e' => some (.day, .blank)
  | 'f' => some (.nanosecond, .zero)
  | 'g' => some (.weekYearOfCentury, .zero)
  | 'j' => some (.ordinal, .zero)
  | 'k' => some (.hour, .blank)
  | 'l' => some (.hourOfHalf, .blank)
  | 'm' => some (.month, .zero)
  | 'q' => some (.quarter, .none)
  | 's' => some (.timestamp, .none)
  | 'u' => some (.weekdayFromMonday, .none)
  | 'w' => some (.weekdayFromSunday, .none)
  | 'y' => some (.yearOfCentury, .zero)
  | _ => none

/-- Hours, minutes and seconds with colons. -/
def clockItems : List Item :=
  [.number .hour .zero, .text ":", .number .minute .zero, .text ":", .number .second .zero]

/-- Month, day and year of the century with slashes. -/
def slashItems : List Item :=
  [.number .month .zero, .text "/", .number .day .zero, .text "/", .number .yearOfCentury .zero]

def letter? (c : Char) : Option (List Item) :=
  match number? c with
  | some (part, padding) => some [.number part padding]
  | none =>
    match c with
    | 'A' => some [.form (.weekdayName false)]
    | 'a' => some [.form (.weekdayName true)]
    | 'B' => some [.form (.monthName false)]
    | 'b' => some [.form (.monthName true)]
    | 'h' => some [.form (.monthName true)]
    | 'P' => some [.form (.half false)]
    | 'p' => some [.form (.half true)]
    | 'Z' => some [.form .zoneName]
    | 'z' => some [.form (.offset "+0000")]
    | '+' => some [.form .stamp]
    | 'n' => some [.text "\n"]
    | 't' => some [.text "\t"]
    | '%' => some [.text "%"]
    | 'D' => some slashItems
    | 'x' => some slashItems
    | 'F' => some [.number .year .zero, .text "-", .number .month .zero, .text "-", .number .day .zero]
    | 'R' => some [.number .hour .zero, .text ":", .number .minute .zero]
    | 'T' => some clockItems
    | 'X' => some clockItems
    | 'c' =>
      some ([.form (.weekdayName true), .text " ", .form (.monthName true), .text " ",
        .number .day .blank, .text " "] ++ clockItems ++ [.text " ", .number .year .zero])
    | 'r' =>
      some [.number .hourOfHalf .zero, .text ":", .number .minute .zero, .text ":",
        .number .second .zero, .text " ", .form (.half true)]
    | 'v' =>
      some [.number .day .blank, .text "-", .form (.monthName true), .text "-", .number .year .zero]
    | _ => none

/-- The padding that a character after the percent sign asks for. -/
def padding? : Char → Option Padding
  | '-' => some .none
  | '0' => some .zero
  | '_' => some .blank
  | _ => none

/-- How many digits of a fraction may be asked for. -/
def digits? : Char → Option Nat
  | '3' => some 3
  | '6' => some 6
  | '9' => some 9
  | _ => none

/-- The specifier after a percent sign, and how many characters it has. -/
def specifier? (cs : List Char) : Option (List Item × Nat) :=
  match cs with
  | ':' :: ':' :: ':' :: 'z' :: _ => some ([.form (.offset "+00")], 4)
  | ':' :: ':' :: 'z' :: _ => some ([.form (.offset "+00:00:00")], 3)
  | ':' :: 'z' :: _ => some ([.form (.offset "+00:00")], 2)
  | '.' :: 'f' :: _ => some ([.form .fraction], 2)
  | '.' :: d :: 'f' :: _ => (digits? d).map fun n => ([.form (.fractionDigits true n)], 3)
  | c :: d :: _ =>
    match padding? c with
    | some padding => (number? d).map fun n => ([.number n.1 padding], 2)
    | none =>
      match digits? c, d with
      | some n, 'f' => some ([.form (.fractionDigits false n)], 2)
      | _, _ => (letter? c).map fun items => (items, 1)
  | [c] => (letter? c).map fun items => (items, 1)
  | [] => none

def read? (cs : List Char) : Option (List Item) :=
  match cs with
  | [] => some []
  | c :: rest =>
    if c = '%' then
      match specifier? rest with
      | some (items, n) => (read? (rest.drop n)).map (items ++ ·)
      | none => none
    else (read? rest).map (.text (String.singleton c) :: ·)
termination_by cs.length
decreasing_by all_goals simp; try omega

/-- The text of a moment by a pattern, absent when the pattern has no meaning. -/
def write? (pattern : String) (m : Moment) : Option String :=
  (read? pattern.toList).map fun items => String.join (items.map (Item.write m))

end Pattern

end Tributary.Time
