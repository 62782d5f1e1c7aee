import Tributary.Number
import Tributary.Text.Basic
import Tributary.Time.Calendar

/-!
# Moments

A moment is a date and a time of day in universal time, to the nanosecond. It is written and read as an
Internet timestamp, `2024-02-29T12:30:00.5Z`.

* `Moment.ofNanoseconds`, `Moment.nanoseconds` : to and from the nanoseconds since the epoch;
* `Moment.text` : the timestamp of a moment, with as many groups of three decimals as it needs;
* `readMoment?` : the nanoseconds that a timestamp or a date spells.
-/

namespace Tributary.Time

structure Moment where
  date : Date
  hour : Int
  minute : Int
  second : Int
  nanosecond : Int
deriving DecidableEq, Repr

def secondNanos : Int := 1000000000

def daySeconds : Int := 86400

namespace Moment

def ofNanoseconds (ns : Int) : Moment :=
  let seconds := ns / secondNanos
  let ofDay := seconds % daySeconds
  { date := Date.ofDayNumber (seconds / daySeconds)
    hour := ofDay / 3600
    minute := ofDay % 3600 / 60
    second := ofDay % 60
    nanosecond := ns % secondNanos }

def seconds (m : Moment) : Int :=
  m.date.dayNumber * daySeconds + m.hour * 3600 + m.minute * 60 + m.second

def nanoseconds (m : Moment) : Int := m.seconds * secondNanos + m.nanosecond

end Moment

/-- A number with zeros in front up to a width. -/
def padded (width : Nat) (n : Int) : List Char :=
  let digits := Nat.toDigits 10 n.toNat
  List.replicate (width - digits.length) '0' ++ digits

/-- The fraction of a second, in three, six or nine digits, whichever is exact first. -/
def fractionText (nanosecond : Int) : List Char :=
  if nanosecond = 0 then []
  else if nanosecond % 1000000 = 0 then '.' :: padded 3 (nanosecond / 1000000)
  else if nanosecond % 1000 = 0 then '.' :: padded 6 (nanosecond / 1000)
  else '.' :: padded 9 nanosecond

/-- Date, `T` and time of day. -/
def Moment.localChars (m : Moment) : List Char :=
  padded 4 m.date.year ++ '-' :: (padded 2 m.date.month ++ '-' :: (padded 2 m.date.day ++ 'T' ::
    (padded 2 m.hour ++ ':' :: (padded 2 m.minute ++ ':' :: (padded 2 m.second ++
      fractionText m.nanosecond)))))

/-- The timestamp of a moment in universal time. -/
def Moment.text (m : Moment) : String := String.ofList (m.localChars ++ ['Z'])

def timestamp (ns : Int64) : String := (Moment.ofNanoseconds ns.toInt).text

/-! ## Reading -/

/-- Exactly `n` digits, and what follows. -/
def readDigits? (n : Nat) (cs : List Char) : Option (Int × List Char) :=
  let digits := cs.take n
  if digits.length = n ∧ digits.all Char.isDigit then some (Decimal.ofDigits digits, cs.drop n)
  else none

def readChar? (c : Char) : List Char → Option (List Char)
  | d :: cs => if d = c then some cs else none
  | [] => none

/-- A fraction of a second, in nanoseconds; digits after the ninth are dropped. -/
def readFraction? (cs : List Char) : Option (Int × List Char) :=
  match cs with
  | '.' :: rest =>
    let (digits, after) := rest.span Char.isDigit
    if digits = [] then none
    else
      let kept := digits.take 9
      some ((Decimal.ofDigits kept * Nat.pow 10 (9 - kept.length) : Nat), after)
  | cs => some (0, cs)

/-- The distance from universal time, in seconds: `Z`, or a sign, hours, a colon and minutes. -/
def readOffset? (cs : List Char) : Option (Int × List Char) :=
  match cs with
  | [] => none
  | c :: rest =>
    if c = 'Z' ∨ c = 'z' then some (0, rest)
    else if c = '+' ∨ c = '-' ∨ c = '−' then do
      let (hours, rest) ← readDigits? 2 rest
      let rest ← readChar? ':' rest
      let (minutes, rest) ← readDigits? 2 rest
      if hours ≤ 23 ∧ minutes ≤ 59 then
        some ((if c = '+' then 1 else -1) * (hours * 3600 + minutes * 60), rest)
      else none
    else none

def readFullDate? (cs : List Char) : Option (Date × List Char) := do
  let (year, cs) ← readDigits? 4 cs
  let cs ← readChar? '-' cs
  let (month, cs) ← readDigits? 2 cs
  let cs ← readChar? '-' cs
  let (day, cs) ← readDigits? 2 cs
  some (⟨year, month, day⟩, cs)

/-- Hour, minute and second of a timestamp, as the seconds of the day; a minute may have a leap second. -/
def readTimeOfDay? (cs : List Char) : Option (Int × List Char) := do
  let (hour, cs) ← readDigits? 2 cs
  let cs ← readChar? ':' cs
  let (minute, cs) ← readDigits? 2 cs
  let cs ← readChar? ':' cs
  let (second, cs) ← readDigits? 2 cs
  if hour ≤ 23 ∧ minute ≤ 59 ∧ second ≤ 60 then
    some (hour * 3600 + minute * 60 + second, cs)
  else none

/-- The nanoseconds since the epoch that a timestamp spells. -/
def readTimestamp? (cs : List Char) : Option Int := do
  let (date, cs) ← readFullDate? cs
  match cs with
  | [] => none
  | mark :: cs =>
    if mark = 'T' ∨ mark = 't' ∨ mark = ' ' then do
      let (time, cs) ← readTimeOfDay? cs
      let (fraction, cs) ← readFraction? cs
      let (offset, cs) ← readOffset? cs
      if date.isValid ∧ cs = [] then
        some ((date.dayNumber * daySeconds + time - offset) * secondNanos + fraction)
      else none
    else none

/-- One to `n` digits after blanks, and what follows. -/
def readNumber? (n : Nat) (cs : List Char) : Option (Int × List Char) :=
  let cs := Text.trimLeft cs
  let digits := (cs.take n).takeWhile Char.isDigit
  if digits = [] then none else some (Decimal.ofDigits digits, cs.drop digits.length)

/-- A year after blanks: up to four digits, or with a sign any number of them. -/
def readYear? (cs : List Char) : Option (Int × List Char) :=
  match Text.trimLeft cs with
  | '-' :: rest => if rest.head?.any Char.isDigit then
      (readNumber? rest.length rest).map fun r => (-r.1, r.2) else none
  | '+' :: rest => if rest.head?.any Char.isDigit then readNumber? rest.length rest else none
  | cs => readNumber? 4 cs

/-- The date that year, month and day spell. -/
def readDate? (cs : List Char) : Option Date := do
  let (year, cs) ← readYear? cs
  let cs ← readChar? '-' cs
  let (month, cs) ← readNumber? 2 cs
  let cs ← readChar? '-' cs
  let (day, cs) ← readNumber? 2 cs
  let date : Date := ⟨year, month, day⟩
  if date.isValid ∧ cs = [] then some date else none

/-- The nanoseconds since the epoch that a timestamp spells, or a date, which stands for its midnight.
Only moments within the range of 64-bit nanoseconds count. -/
def readMoment? (s : String) : Option Int64 :=
  let cs := Text.trimChars s.toList
  match readTimestamp? cs with
  | some ns => int64? ns
  | none => (readDate? cs).bind fun d => int64? (d.dayNumber * daySeconds * secondNanos)

end Tributary.Time
