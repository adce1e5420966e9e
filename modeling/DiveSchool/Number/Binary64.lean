import DiveSchool.Number.Power
import DiveSchool.Text.Reader

/-!
# `DiveSchool.Number.Binary64` — binary floating point with 53 bits, exactly

A finite value is a sign and `mantissa · 2 ^ exponent` with a mantissa below `2 ^ 53`. Everything is
computed in whole numbers, so that each rounding is visible.

## Contents
- **Rounding.** `roundHalfEven` and `roundHalfAway`, the nearest whole number to a quotient.
- **Values.** `Binary64`, and the value nearest to a quotient (`ofRatio`) or a decimal (`ofDecimal`).
- **Writing.** `fixed` with a given number of places, `shortest` with the fewest digits that read
  back.
- **Reading.** `parse?`, a decimal with fraction and exponent, or a named special value.
-/

namespace DiveSchool

/-! ## Rounding -/

/-- The whole number nearest to `num / den`; of two the even one. -/
def roundHalfEven (num den : Nat) : Nat :=
  let q := num / den
  let r := num % den
  if 2 * r < den then q
  else if den < 2 * r then q + 1
  else if q % 2 = 0 then q else q + 1

/-- The whole number nearest to `num / den`; of two the greater one. -/
def roundHalfAway (num den : Nat) : Nat :=
  if 2 * (num % den) < den then num / den else num / den + 1

/-! ## Values -/

/-- A value of the format: finite, infinite, or no number at all. -/
inductive Binary64 where
  | finite (negative : Bool) (mantissa : Nat) (exponent : Int)
  | infinite (negative : Bool)
  | undefined
  deriving DecidableEq, Repr, Inhabited

namespace Binary64

/-- The least exponent of a finite value. -/
def leastExponent : Int := -1074

/-- The greatest exponent of a finite value. -/
def greatestExponent : Int := 971

/-- `num / den` as a quotient in units of `2 ^ exponent`. -/
def inUnits (num den : Nat) (exponent : Int) : Nat × Nat :=
  (num * twoTo (-exponent).toNat, den * twoTo exponent.toNat)

/-- The exponent at which the quotient of two positive numbers fills 53 bits, not below the least
    exponent. -/
def unitOf (num den : Nat) : Int :=
  let guess : Int := max (Nat.log2 num - Nat.log2 den - 53) leastExponent
  let (n, d) := inUnits num den guess
  if twoTo 53 ≤ n / d then guess + 1 else guess

/-- The value nearest to `num / den`; of two the one with an even mantissa. -/
def ofRatio (negative : Bool) (num den : Nat) : Binary64 :=
  if num = 0 || den = 0 then finite negative 0 leastExponent
  else
    let exponent := unitOf num den
    let (n, d) := inUnits num den exponent
    let m := roundHalfEven n d
    let (m, exponent) := if m = twoTo 53 then (twoTo 52, exponent + 1) else (m, exponent)
    if exponent > greatestExponent then infinite negative else finite negative m exponent

/-- The value nearest to `digits · 10 ^ power`. Powers beyond the range of the format give infinity or
    zero without being computed. -/
def ofDecimal (negative : Bool) (digits : Nat) (power : Int) : Binary64 :=
  let length : Int := (toString digits).length
  if digits = 0 then finite negative 0 leastExponent
  else if length + power > 400 then infinite negative
  else if length + power < -400 then finite negative 0 leastExponent
  else ofRatio negative (digits * tenTo power.toNat) (tenTo (-power).toNat)

/-- The value of `n / d` for whole numbers, `d` positive. -/
def ofInts (n d : Int) : Binary64 := ofRatio (n < 0) n.natAbs d.natAbs

/-- The size of a finite value as a quotient. -/
def ratio (mantissa : Nat) (exponent : Int) : Nat × Nat :=
  (mantissa * twoTo exponent.toNat, twoTo (-exponent).toNat)

/-- Whether the value differs from zero; what is no number does. -/
def isNonZero : Binary64 → Bool
  | finite _ m _ => m != 0
  | _ => true

/-- The nearest natural number, a half going up; below zero and no number give zero, and what exceeds
    `limit` gives `limit`. -/
def toNatSaturating (limit : Nat) : Binary64 → Nat
  | finite negative m e =>
    let (n, d) := ratio m e
    if negative then 0 else min limit (roundHalfAway n d)
  | infinite negative => if negative then 0 else limit
  | undefined => 0

/-! ## Writing -/

/-- A minus sign in front of negative numbers. -/
def signed (negative : Bool) (text : String) : String := if negative then "-" ++ text else text

/-- `scaled / 10 ^ places` in positional notation. -/
def positional (scaled places : Nat) : String :=
  let whole := toString (scaled / tenTo places)
  if places = 0 then whole else whole ++ "." ++ Text.padded places (scaled % tenTo places)

/-- The value with a fixed number of places, the last one rounded to nearest and ties to even. -/
def fixed (places : Nat) : Binary64 → String
  | finite negative m e =>
    let (n, d) := ratio m e
    signed negative (positional (roundHalfEven (n * tenTo places) d) places)
  | infinite negative => signed negative "inf"
  | undefined => "NaN"

/-- The interval of numbers that round to a finite value, in quarters of its unit. Below a power of two
    the neighbour is half as far away. -/
def roundingInterval (mantissa : Nat) (exponent : Int) : Nat × Nat :=
  (if mantissa = twoTo 52 && exponent > leastExponent then 4 * mantissa - 1 else 4 * mantissa - 2,
   4 * mantissa + 2)

/-- Whether `digits · 10 ^ power` rounds to the finite value. -/
def readsBack (mantissa : Nat) (exponent : Int) (digits : Nat) (power : Int) : Bool :=
  let (low, high) := roundingInterval mantissa exponent
  let (quarter, unit) := ratio 1 (exponent - 2)
  let point := digits * tenTo power.toNat * unit
  let scale := quarter * tenTo (-power).toNat
  if mantissa % 2 = 0 then low * scale ≤ point && point ≤ high * scale
  else low * scale < point && point < high * scale

/-- The power of ten of the leading digit of a positive quotient. -/
def leadingPower (num den : Nat) : Int :=
  let guess : Int := (toString num).length - (toString den).length
  if num * tenTo (-guess).toNat < den * tenTo guess.toNat then guess - 1 else guess

/-- The nearest decimal with a given number of digits that reads back, if one of the two neighbours on
    that grid does. -/
def nearestOn (mantissa : Nat) (exponent : Int) (count : Nat) : Option (Nat × Int) :=
  let (n, d) := ratio mantissa exponent
  let power := leadingPower n d - (count - 1 : Nat)
  let num := n * tenTo (-power).toNat
  let den := d * tenTo power.toNat
  let below := num / den
  let nearest := roundHalfEven num den
  let other := if nearest = below then below + 1 else below
  if readsBack mantissa exponent nearest power then some (nearest, power)
  else if readsBack mantissa exponent other power then some (other, power)
  else none

/-- The fewest digits that read back, and their power of ten. Seventeen digits always do. A value just
    below a power of ten may come out as a ten, which is a one on the next grid. -/
def shortestDigits (mantissa : Nat) (exponent : Int) : Nat × Int :=
  match (List.range 17).findSome? fun i => nearestOn mantissa exponent (i + 1) with
  | some (digits, power) => if digits % 10 = 0 then (digits / 10, power + 1) else (digits, power)
  | none => (0, 0)

/-- The value with the fewest digits that read back, in positional notation. -/
def shortest : Binary64 → String
  | finite negative m e =>
    if m = 0 then signed negative "0"
    else
      let (digits, power) := shortestDigits m e
      signed negative <|
        if 0 ≤ power then toString (digits * tenTo power.toNat)
        else positional digits (-power).toNat
  | infinite negative => signed negative "inf"
  | undefined => "NaN"

/-! ## Reading -/

/-- The digits of a decimal and the power of ten of its last digit: a whole part, a fraction, or
    both. -/
def decimalPart (cs : List Char) : Option ((Nat × Int) × List Char) :=
  let whole := cs.takeWhile Text.isDigit
  let rest := cs.drop whole.length
  match rest with
  | '.' :: more =>
    let fraction := more.takeWhile Text.isDigit
    if whole.isEmpty && fraction.isEmpty then none
    else some ((Text.digitsValue (whole ++ fraction), -(fraction.length : Int)),
      more.drop fraction.length)
  | _ => if whole.isEmpty then none else some ((Text.digitsValue whole, 0), rest)

/-- An exponent after `e` or `E`, which must end the text; without one the power is zero. -/
def exponentPart (cs : List Char) : Option Int :=
  match cs with
  | [] => some 0
  | c :: rest => if c = 'e' || c = 'E' then Text.intOfList? rest else none

/-- Names of the values that are not finite, in any case. -/
def named? (negative : Bool) (cs : List Char) : Option Binary64 :=
  let name := String.ofList (cs.map Char.toLower)
  if name = "inf" || name = "infinity" then some (infinite negative)
  else if name = "nan" then some undefined
  else none

/-- Read a value without its sign. -/
def unsigned? (negative : Bool) (cs : List Char) : Option Binary64 :=
  match named? negative cs with
  | some v => some v
  | none => do
    let ((digits, power), rest) ← decimalPart cs
    let exponent ← exponentPart rest
    some (ofDecimal negative digits (power + exponent))

/-- Read a value: a sign, then a decimal or a name. -/
def parse? (cs : List Char) : Option Binary64 :=
  match cs with
  | '-' :: rest => unsigned? true rest
  | '+' :: rest => unsigned? false rest
  | _ => unsigned? false cs

end Binary64

end DiveSchool
