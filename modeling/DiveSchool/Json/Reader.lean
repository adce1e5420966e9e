import DiveSchool.Json.Basic
import DiveSchool.Uuid

/-!
# `DiveSchool.Json.Reader` — from text to JSON values

The grammar of RFC 8259: no leading zeros, no control characters in texts, nothing but blanks after the
value. A text with a surrogate that has no partner follows the grammar but is garbled.

## Contents
- **Blanks.** `skip`.
- **Texts.** `hex4`, `textBody` and `textValue`.
- **Numbers.** `wholePart`, `fractionPart`, `exponentPart` and `numeral`.
- **Values.** `value`, `elements`, `members` with a bound on the number of steps; `Json.parse?`.
-/

namespace DiveSchool.Json

open Text

/-! ## Blanks -/

/-- Whether a character may stand between tokens. -/
def isSpace (c : Char) : Bool := c == ' ' || c == '\t' || c == '\n' || c == '\r'

/-- The text after the blanks at its start. -/
def skip (cs : List Char) : List Char := cs.dropWhile isSpace

/-! ## Texts -/

/-- The value of four hexadecimal digits. -/
def hex4 (a b c d : Char) : Option Nat := do
  return (((← hexValue? a) * 16 + (← hexValue? b)) * 16 + (← hexValue? c)) * 16 + (← hexValue? d)

/-- The character of a code unit that is no surrogate. -/
def ofUnit (u : Nat) : Option Char :=
  if 0xD800 ≤ u && u < 0xE000 then none else some (Char.ofNat u)

/-- The character of a pair of surrogates. -/
def ofPair (high low : Nat) : Option Char :=
  if 0xD800 ≤ high && high < 0xDC00 && 0xDC00 ≤ low && low < 0xE000 then
    some (Char.ofNat (0x10000 + (high - 0xD800) * 0x400 + (low - 0xDC00)))
  else none

/-- The character of a one-letter escape. -/
def ofEscape : Char → Option Char
  | '"' => some '"'
  | '\\' => some '\\'
  | '/' => some '/'
  | 'b' => some '\x08'
  | 'f' => some '\x0c'
  | 'n' => some '\n'
  | 'r' => some '\r'
  | 't' => some '\t'
  | _ => none

/-- The characters of a text that is read so far, in reverse: none of them once the text is garbled, as
    it is when a surrogate stays alone. -/
def settled (high : Option Nat) (acc : Option (List Char)) : Option (List Char) :=
  if high.isSome then none else acc

/-- The characters with one more in front, if no surrogate stays alone before it. -/
def pushed (high : Option Nat) (acc : Option (List Char)) (ch : Char) : Option (List Char) :=
  (settled high acc).map (ch :: ·)

/-- The characters up to the closing quote, read in front of `acc` in reverse. A first surrogate waits in
    `high` for its partner. -/
def textBody (high : Option Nat) (acc : Option (List Char)) :
    List Char → Option (Option String × List Char)
  | [] => none
  | '"' :: rest => some ((settled high acc).map fun cs => String.ofList cs.reverse, rest)
  | '\\' :: 'u' :: a :: b :: c :: d :: rest =>
    match hex4 a b c d with
    | none => none
    | some unit =>
      match ofUnit unit, high.bind (ofPair · unit) with
      | some ch, _ => textBody none (pushed high acc ch) rest
      | none, some ch => textBody none (acc.map (ch :: ·)) rest
      | none, none => textBody (some unit) (settled high acc) rest
  | '\\' :: e :: rest =>
    match ofEscape e with
    | some ch => textBody none (pushed high acc ch) rest
    | none => none
  | c :: rest => if c.toNat < 0x20 then none else textBody none (pushed high acc c) rest

/-- The value of a text after its opening quote. -/
def textValue (cs : List Char) : Option (Json × List Char) :=
  (textBody none (some []) cs).map fun (s, rest) => (s.elim garbled text, rest)

/-! ## Numbers -/

/-- The whole part of a number: digits without a leading zero. -/
def wholePart (cs : List Char) : Option (List Char × List Char) :=
  let ds := cs.takeWhile isDigit
  if ds.isEmpty || (ds.head? == some '0' && ds.length > 1) then none
  else some (ds, cs.drop ds.length)

/-- The digits after a point, if there is a point. -/
def fractionPart : List Char → Option (Option (List Char) × List Char)
  | '.' :: rest =>
    let ds := rest.takeWhile isDigit
    if ds.isEmpty then none else some (some ds, rest.drop ds.length)
  | cs => some (none, cs)

/-- The digits of an exponent. -/
def exponentDigits (negative : Bool) (cs : List Char) : Option (Option Int × List Char) :=
  let ds := cs.takeWhile isDigit
  let n : Int := digitsValue ds
  if ds.isEmpty then none else some (some (if negative then -n else n), cs.drop ds.length)

/-- The exponent, if there is one: a letter, a sign and at least one digit. -/
def exponentPart : List Char → Option (Option Int × List Char)
  | [] => some (none, [])
  | c :: cs =>
    if c == 'e' || c == 'E' then
      match cs with
      | '-' :: rest => exponentDigits true rest
      | '+' :: rest => exponentDigits false rest
      | rest => exponentDigits false rest
    else some (none, c :: cs)

/-- A number without its sign. A negative zero is no whole number. -/
def unsignedNumeral (negative : Bool) (cs : List Char) : Option (Number × List Char) := do
  let (whole, cs) ← wholePart cs
  let (fraction, cs) ← fractionPart cs
  let (power, cs) ← exponentPart cs
  let digits := digitsValue (whole ++ fraction.getD [])
  if fraction.isNone && power.isNone && !(negative && digits == 0) then
    return (.whole (if negative then -(digits : Int) else digits), cs)
  else
    return (.real negative digits (power.getD 0 - (fraction.getD []).length), cs)

/-- A number: an optional minus, a whole part, a fraction, an exponent. -/
def numeral : List Char → Option (Number × List Char)
  | '-' :: rest => unsignedNumeral true rest
  | cs => unsignedNumeral false cs

/-! ## Values -/

mutual

/-- One value, in at most `fuel` nested steps. -/
def value : (fuel : Nat) → List Char → Option (Json × List Char)
  | 0, _ => none
  | fuel + 1, cs =>
    match skip cs with
    | '{' :: rest =>
      match skip rest with
      | '}' :: rest => some (object [], rest)
      | rest => members fuel (some []) rest
    | '[' :: rest =>
      match skip rest with
      | ']' :: rest => some (array [], rest)
      | rest => elements fuel [] rest
    | '"' :: rest => textValue rest
    | 't' :: 'r' :: 'u' :: 'e' :: rest => some (bool true, rest)
    | 'f' :: 'a' :: 'l' :: 's' :: 'e' :: rest => some (bool false, rest)
    | 'n' :: 'u' :: 'l' :: 'l' :: rest => some (null, rest)
    | cs => (numeral cs).map fun (n, rest) => (number n, rest)

/-- The items of an array up to its closing bracket. -/
def elements : (fuel : Nat) → List Json → List Char → Option (Json × List Char)
  | 0, _, _ => none
  | fuel + 1, acc, cs =>
    match value fuel cs with
    | none => none
    | some (j, rest) =>
      match skip rest with
      | ',' :: rest => elements fuel (j :: acc) rest
      | ']' :: rest => some (array (j :: acc).reverse, rest)
      | _ => none

/-- The fields of an object up to its closing brace; none of them once a name is garbled. -/
def members : (fuel : Nat) → Option (List (String × Json)) → List Char → Option (Json × List Char)
  | 0, _, _ => none
  | fuel + 1, acc, cs =>
    match skip cs with
    | '"' :: rest =>
      match textBody none (some []) rest with
      | none => none
      | some (name, rest) =>
        match skip rest with
        | ':' :: rest =>
          match value fuel rest with
          | none => none
          | some (j, rest) =>
            let acc := match name, acc with
              | some name, some fields => some ((name, j) :: fields)
              | _, _ => none
            match skip rest with
            | ',' :: rest => members fuel acc rest
            | '}' :: rest => some (acc.elim garbled fun fields => object fields.reverse, rest)
            | _ => none
        | _ => none
    | _ => none

end

/-- The value that a text holds, alone but for blanks. Every step takes a character, so a bound of the
    length of the text is no bound. -/
def parse? (s : String) : Option Json :=
  let cs := s.toList
  match value (cs.length + 1) cs with
  | some (j, rest) => if (skip rest).isEmpty then some j else none
  | none => none

end DiveSchool.Json
