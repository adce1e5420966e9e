import DiveSchool.Number.Power
import DiveSchool.Text.Blank
import DiveSchool.Text.Reader

/-!
# `DiveSchool.Timestamp` — moments in UTC

A moment is a number of seconds since the start of 1970 and a number of nanoseconds. A leap second
keeps the second before it and has a billion nanoseconds or more.

## Contents
- **Calendar.** `daysOfDate` and `dateOfDays`, the proleptic Gregorian calendar.
- **Moments.** `Timestamp` and its order.
- **Writing.** `Timestamp.toText` (RFC 3339 in UTC with the fewest fraction digits of 0, 3, 6 and 9)
  and `Timestamp.toMinute` (for listings).
- **Reading.** `Timestamp.parse?`, RFC 3339 with blanks allowed between its parts.
-/

namespace DiveSchool

/-! ## Calendar -/

/-- Days from the first of January 1970 to a date of the Gregorian calendar. -/
def daysOfDate (year month day : Int) : Int :=
  let y := if month ≤ 2 then year - 1 else year
  let era := Int.fdiv y 400
  let yearOfEra := y - era * 400
  let dayOfYear := (153 * (month + (if month > 2 then -3 else 9)) + 2) / 5 + day - 1
  let dayOfEra := yearOfEra * 365 + yearOfEra / 4 - yearOfEra / 100 + dayOfYear
  era * 146097 + dayOfEra - 719468

/-- The date, as year, month and day, that lies a number of days after the first of January 1970. -/
def dateOfDays (days : Int) : Int × Int × Int :=
  let z := days + 719468
  let era := Int.fdiv z 146097
  let dayOfEra := z - era * 146097
  let yearOfEra := (dayOfEra - dayOfEra / 1460 + dayOfEra / 36524 - dayOfEra / 146096) / 365
  let dayOfYear := dayOfEra - (365 * yearOfEra + yearOfEra / 4 - yearOfEra / 100)
  let shifted := (5 * dayOfYear + 2) / 153
  let day := dayOfYear - (153 * shifted + 2) / 5 + 1
  let month := if shifted < 10 then shifted + 3 else shifted - 9
  let year := yearOfEra + era * 400 + (if month ≤ 2 then 1 else 0)
  (year, month, day)

/-- Whether a year has a 29th of February. -/
def isLeapYear (year : Int) : Bool :=
  year % 4 == 0 && (year % 100 != 0 || year % 400 == 0)

/-- The number of days of a month. -/
def daysInMonth (year month : Int) : Int :=
  if month = 2 then (if isLeapYear year then 29 else 28)
  else if month = 4 ∨ month = 6 ∨ month = 9 ∨ month = 11 then 30
  else 31

/-! ## Moments -/

/-- A moment: seconds since the start of 1970 in UTC, and nanoseconds. -/
structure Timestamp where
  seconds : Int
  nanos : Nat
  deriving DecidableEq, Repr, Inhabited

namespace Timestamp

open Text

instance : Ord Timestamp :=
  ⟨fun a b => (compare a.seconds b.seconds).then (compare a.nanos b.nanos)⟩

/-- The moment a number of nanoseconds later, in the same second. -/
def later (t : Timestamp) (nanos : Nat) : Timestamp := { t with nanos := t.nanos + nanos }

/-- The moment as whole microseconds count it: shorter parts are cut off, and a leap second is the start
    of the second after it. -/
def toMicroseconds (t : Timestamp) : Timestamp :=
  ⟨t.seconds + (t.nanos / 1000000000 : Nat), t.nanos % 1000000000 / 1000 * 1000⟩

/-! ## Writing -/

/-- A year has four digits; outside 0 to 9999 it has a sign and at least four. -/
def yearText (year : Int) : String :=
  if 0 ≤ year ∧ year ≤ 9999 then padded 4 year.toNat
  else if year < 0 then "-" ++ padded 4 (-year).toNat
  else "+" ++ padded 4 year.toNat

/-- The date part and the second of the day. -/
def split (t : Timestamp) : (Int × Int × Int) × Nat :=
  let day := Int.fdiv t.seconds 86400
  (dateOfDays day, (t.seconds - day * 86400).toNat)

/-- Year, month and day with hyphens. -/
def dateText (d : Int × Int × Int) : String :=
  yearText d.1 ++ "-" ++ padded 2 d.2.1.toNat ++ "-" ++ padded 2 d.2.2.toNat

/-- The fraction of a second with 0, 3, 6 or 9 digits, the fewest that lose nothing. -/
def fractionText (nanos : Nat) : String :=
  if nanos = 0 then ""
  else if nanos % 1000000 = 0 then "." ++ padded 3 (nanos / 1000000)
  else if nanos % 1000 = 0 then "." ++ padded 6 (nanos / 1000)
  else "." ++ padded 9 nanos

/-- RFC 3339 in UTC. -/
def toText (t : Timestamp) : String :=
  let (date, s) := t.split
  let leap := t.nanos / 1000000000
  dateText date ++ "T" ++ padded 2 (s / 3600) ++ ":" ++ padded 2 (s / 60 % 60) ++ ":" ++
    padded 2 (s % 60 + leap) ++ fractionText (t.nanos % 1000000000) ++ "Z"

/-- The date, hour and minute, for listings. -/
def toMinute (t : Timestamp) : String :=
  let (date, s) := t.split
  dateText date ++ " " ++ padded 2 (s / 3600) ++ ":" ++ padded 2 (s / 60 % 60)

instance : ToString Timestamp := ⟨toText⟩

/-! ## Reading -/

/-- A number of one or two digits within bounds, after blanks. -/
def bounded (low high : Nat) : Reader Nat := fun cs => do
  let (n, rest) ← number 2 (trimStartList cs)
  if low ≤ n ∧ n ≤ high then some (n, rest) else none

/-- A year: four digits at most, or a sign and any number of digits. -/
def yearPart : Reader Int := fun cs =>
  match trimStartList cs with
  | '-' :: rest => (number rest.length rest).map fun (n, r) => (-(n : Int), r)
  | '+' :: rest => (number rest.length rest).map fun (n, r) => ((n : Int), r)
  | rest => (number 4 rest).map fun (n, r) => ((n : Int), r)

/-- A given character, after blanks. -/
def mark (c : Char) : Reader Unit := fun cs =>
  match trimStartList cs with
  | d :: rest => if d = c then some ((), rest) else none
  | [] => none

/-- Year, month and day with hyphens between. -/
def datePart : Reader (Int × Int × Int) := fun cs => do
  let (year, cs) ← yearPart cs
  let ((), cs) ← mark '-' cs
  let (month, cs) ← bounded 1 12 cs
  let ((), cs) ← mark '-' cs
  let (day, cs) ← bounded 1 31 cs
  some ((year, month, day), cs)

/-- A fraction after a point: nine digits count, further ones are dropped. -/
def fractionPart : Reader Nat := fun cs =>
  match cs with
  | '.' :: rest => do
    let ds := (rest.take 9).takeWhile isDigit
    if ds.isEmpty then none
    else some (digitsValue ds * tenTo (9 - ds.length), (rest.drop ds.length).dropWhile isDigit)
  | _ => some (0, cs)

/-- Hour, minute, second and fraction; second 60 is a leap second. -/
def timePart : Reader (Nat × Nat) := fun cs => do
  let (hour, cs) ← bounded 0 23 cs
  let ((), cs) ← mark ':' cs
  let (minute, cs) ← bounded 0 59 cs
  let ((), cs) ← mark ':' cs
  let (second, cs) ← bounded 0 60 cs
  let (fraction, cs) ← fractionPart cs
  let leap := if second = 60 then 1 else 0
  some ((hour * 3600 + minute * 60 + second - leap, fraction + leap * 1000000000), cs)

/-- The distance from UTC in seconds: `Z`, `UTC`, or a signed number of hours and minutes. -/
def offsetPart : Reader Int := fun cs =>
  let cs := trimStartList cs
  if (cs.take 3).map Char.toUpper = ['U', 'T', 'C'] then some (0, cs.drop 3)
  else match cs with
    | 'Z' :: rest => some (0, rest)
    | 'z' :: rest => some (0, rest)
    | sign :: h₁ :: h₂ :: rest =>
      if !(sign = '+' || sign = '-' || sign = '\u2212') || !isDigit h₁ || !isDigit h₂ then none
      else match rest.dropWhile (fun c => c = ':' || isBlank c) with
        | m₁ :: m₂ :: rest =>
          if '0' ≤ m₁ && m₁ ≤ '5' && isDigit m₂ then
            let size : Int := digitsValue [h₁, h₂] * 3600 + digitsValue [m₁, m₂] * 60
            some (if sign = '+' then size else -size, rest)
          else none
        | _ => none
    | _ => none

/-- The years a moment can lie in. -/
def yearInRange (year : Int) : Bool := -262143 ≤ year && year ≤ 262142

/-- Whether a moment lies in those years. -/
def inRange (t : Timestamp) : Bool := yearInRange t.split.1.1

/-- Read a moment. Blanks may stand between the parts and at both ends. The date must lie in range both
    as it is written and in UTC. -/
def parse? (s : String) : Option Timestamp := do
  let ((year, month, day), cs) ← datePart s.toList
  let cs ← match cs with
    | c :: rest => if c = 'T' || c = 't' || c = ' ' then some rest else none
    | [] => none
  let ((second, nanos), cs) ← timePart cs
  let (offset, cs) ← offsetPart cs
  if !(trimStartList cs).isEmpty then none
  else if !yearInRange year || day > daysInMonth year month then none
  else if offset ≤ -86400 || 86400 ≤ offset then none
  else
    let t : Timestamp := ⟨daysOfDate year month day * 86400 + second - offset, nanos⟩
    if t.inRange then some t else none

end Timestamp

end DiveSchool
