import DiveSchool.Settings.Value
import DiveSchool.Timestamp
import DiveSchool.Uuid

/-!
# `DiveSchool.Toml.Word` — values written without quotes or brackets

A word is a run of letters, digits and a few signs. It is a truth value, a number or a moment, or it is
no value at all.

## Contents
- **Digits.** `ungroup?`, digits with underscores between them.
- **Numbers.** `decimal?`, `based?`, `float?`.
- **Moments.** `date?`, `time?`, `offset?`, `moment?`, each giving its text.
- **Words.** `ofWord?`.
-/

namespace DiveSchool.Toml

open Text Settings

/-! ## Digits -/

/-- The digits of a group, without the underscores between them. -/
def ungroup? (isOne : Char → Bool) (cs : List Char) : Option (List Char) :=
  let groups := pieces (· == '_') cs
  if groups.all fun g => !g.isEmpty && g.all isOne then some groups.flatten else none

/-- Decimal digits without a leading zero. -/
def plainDigits? (cs : List Char) : Option (List Char) :=
  match ungroup? isDigit cs with
  | some ('0' :: _ :: _) => none
  | other => other

/-- A sign, and the text without it. -/
def sign (cs : List Char) : Bool × List Char :=
  match cs with
  | '-' :: rest => (true, rest)
  | '+' :: rest => (false, rest)
  | _ => (false, cs)

/-! ## Numbers -/

/-- A whole number in decimal notation. -/
def decimal? (cs : List Char) : Option Value := do
  let (negative, cs) := sign cs
  let n : Int := digitsValue (← plainDigits? cs)
  whole? (if negative then -n else n)

/-- The value of digits of a base, with underscores between them. -/
def baseValue? (base : Nat) (cs : List Char) : Option Nat := do
  let isOne (c : Char) : Bool := (hexValue? c).any (· < base)
  let ds ← ungroup? isOne cs
  return ds.foldl (fun n c => n * base + (hexValue? c).getD 0) 0

/-- A whole number in another base. -/
def based? (cs : List Char) : Option Value :=
  let number? (base : Nat) (cs : List Char) : Option Value :=
    (baseValue? base cs).bind fun n => whole? n
  match cs with
  | '0' :: 'x' :: rest => number? 16 rest
  | '0' :: 'o' :: rest => number? 8 rest
  | '0' :: 'b' :: rest => number? 2 rest
  | _ => none

/-- The power of ten of an exponent. -/
def exponent? (cs : List Char) : Option Int := do
  let (negative, cs) := sign cs
  let n : Int := digitsValue (← ungroup? isDigit cs)
  return if negative then -n else n

/-- The digits and the power of ten of a number with a fraction or none. -/
def mantissa? (cs : List Char) : Option (List Char × Int) :=
  match splitOnce ['.'] cs with
  | some (front, back) => do
    let front ← plainDigits? front
    let back ← ungroup? isDigit back
    return (front ++ back, -(back.length : Int))
  | none => (plainDigits? cs).map fun ds => (ds, 0)

/-- The digits and the power of ten of a number that has a fraction, an exponent or both. -/
def scientific? (cs : List Char) : Option (List Char × Int) :=
  match cs.span (fun c => c != 'e' && c != 'E') with
  | (m, _ :: e) => do
    let (digits, power) ← mantissa? m
    return (digits, power + (← exponent? e))
  | (m, []) => if m.contains '.' then mantissa? m else none

/-- A finite number with a fraction or an exponent. -/
def finite? (negative : Bool) (cs : List Char) : Option Value :=
  match scientific? cs with
  | none => none
  | some (digits, power) =>
    match Binary64.ofDecimal negative (digitsValue digits) power with
    | .infinite _ => none
    | x => some (.real x)

/-- A number in floating point. -/
def float? (cs : List Char) : Option Value :=
  let (negative, rest) := sign cs
  if rest = "inf".toList then some (.real (.infinite negative))
  else if rest = "nan".toList then some (.real .undefined)
  else finite? negative rest

/-! ## Moments -/

/-- A number of exactly `width` digits within bounds. -/
def fixed (width low high : Nat) : Reader Nat := fun cs =>
  let ds := cs.take width
  let n := digitsValue ds
  if ds.length = width ∧ ds.all isDigit ∧ low ≤ n ∧ n ≤ high then some (n, cs.drop width) else none

/-- The text after one character. -/
def after (c : Char) : List Char → Option (List Char)
  | d :: rest => if c = d then some rest else none
  | [] => none

/-- The text of a date. -/
def date? : Reader String := fun cs => do
  let (year, cs) ← fixed 4 0 9999 cs
  let (month, cs) ← fixed 2 1 12 (← after '-' cs)
  let (day, cs) ← fixed 2 1 31 (← after '-' cs)
  if (day : Int) ≤ daysInMonth year month then
    some (padded 4 year ++ "-" ++ padded 2 month ++ "-" ++ padded 2 day, cs)
  else none

/-- The text of a fraction of a second: nine digits count, zeros at the end do not, but one digit stays. -/
def fraction? : Reader String := fun cs =>
  match cs with
  | '.' :: rest =>
    let ds := rest.takeWhile isDigit
    let kept := ((ds.take 9).reverse.dropWhile (· == '0')).reverse
    if ds.isEmpty then none
    else some ("." ++ String.ofList (if kept.isEmpty then ['0'] else kept), rest.drop ds.length)
  | _ => some ("", cs)

/-- The text of the seconds of a time of day, which may be left out. -/
def seconds? : Reader String := fun cs =>
  match cs with
  | ':' :: rest => do
    let (second, cs) ← fixed 2 0 60 rest
    let (fraction, cs) ← fraction? cs
    some (":" ++ padded 2 second ++ fraction, cs)
  | _ => some ("", cs)

/-- The text of a time of day. -/
def time? : Reader String := fun cs => do
  let (hour, cs) ← fixed 2 0 23 cs
  let (minute, cs) ← fixed 2 0 59 (← after ':' cs)
  let (seconds, cs) ← seconds? cs
  some (padded 2 hour ++ ":" ++ padded 2 minute ++ seconds, cs)

/-- The text of an offset from UTC, empty if there is none. -/
def offset? (cs : List Char) : Option String :=
  let numeric (mark : String) (cs : List Char) : Option String := do
    let (hours, cs) ← fixed 2 0 23 cs
    let (minutes, cs) ← fixed 2 0 59 (← after ':' cs)
    let mark := if hours = 0 ∧ minutes = 0 then "+" else mark
    if cs.isEmpty then some (mark ++ padded 2 hours ++ ":" ++ padded 2 minutes) else none
  match cs with
  | [] => some ""
  | ['Z'] | ['z'] => some "Z"
  | '+' :: rest => numeric "+" rest
  | '-' :: rest => numeric "-" rest
  | _ => none

/-- The text of a date, a time of day, or both. -/
def moment? (cs : List Char) : Option Value :=
  match date? cs with
  | some (date, []) => some (.text date)
  | some (date, mark :: rest) =>
    if mark = 'T' ∨ mark = 't' then do
      let (time, rest) ← time? rest
      let offset ← offset? rest
      some (.text (date ++ "T" ++ time ++ offset))
    else none
  | none =>
    match time? cs with
    | some (time, []) => some (.text time)
    | _ => none

/-! ## Words -/

/-- The value of a word. -/
def ofWord? (cs : List Char) : Option Value :=
  if cs = "true".toList then some (.truth true)
  else if cs = "false".toList then some (.truth false)
  else (decimal? cs).or ((based? cs).or ((float? cs).or (moment? cs)))

end DiveSchool.Toml
