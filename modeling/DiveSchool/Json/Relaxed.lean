import DiveSchool.Settings.Value
import DiveSchool.Json.Reader
import DiveSchool.Text.Blank

/-!
# `DiveSchool.Json.Relaxed` — JSON for people

The grammar of JSON5: comments, names without quotes, either kind of quotes, commas at the end, signs and
hexadecimal digits in numbers. The last field with a name counts.

## Contents
- **Blanks.** `skip`, blanks and comments.
- **Texts.** `quoted`.
- **Numbers.** `number`.
- **Values.** `value`, `items`, `fields` with a bound on the number of steps; `Relaxed.parse?`.
-/

namespace DiveSchool.Json.Relaxed

open Text Settings

/-! ## Blanks -/

/-- Whether a character ends a line. -/
def isBreak (c : Char) : Bool := c == '\n' || c == '\r' || c == '\u2028' || c == '\u2029'

/-- The text after a comment that has an end of its own. -/
def afterBlock : List Char → Option (List Char)
  | [] => none
  | '*' :: '/' :: rest => some rest
  | _ :: rest => afterBlock rest

/-- Whether a character may stand between tokens. -/
def isGap (c : Char) : Bool := (isBlank c && c != '\u0085') || c == '\uFEFF'

/-- The text after blanks and comments, of which there are at most `fuel`. -/
def skipWithin : (fuel : Nat) → List Char → Option (List Char)
  | 0, cs => some cs
  | fuel + 1, cs =>
    match cs.dropWhile isGap with
    | '/' :: '/' :: rest => skipWithin fuel (rest.dropWhile (!isBreak ·))
    | '/' :: '*' :: rest => (afterBlock rest).bind (skipWithin fuel)
    | cs => some cs

/-- The text after blanks and comments. -/
def skip (cs : List Char) : Option (List Char) := skipWithin (cs.length + 1) cs

/-! ## Texts -/

/-- The character of a one-letter escape; any letter without a meaning stands for itself. -/
def ofEscape (c : Char) : Option Char :=
  match c with
  | 'b' => some '\x08'
  | 'f' => some '\x0c'
  | 'n' => some '\n'
  | 'r' => some '\r'
  | 't' => some '\t'
  | 'v' => some '\x0b'
  | '0' => some '\x00'
  | c => if isDigit c then none else some c

/-- The characters up to the closing quote, read in front of `acc` in reverse. -/
def quoted (quote : Char) (acc : List Char) : List Char → Option (String × List Char)
  | [] => none
  | '\\' :: '\r' :: '\n' :: rest => quoted quote acc rest
  | '\\' :: 'x' :: a :: b :: rest =>
    match hex4 '0' '0' a b with
    | some n => quoted quote (Char.ofNat n :: acc) rest
    | none => none
  | '\\' :: 'u' :: a :: b :: c :: d :: rest =>
    match hex4 a b c d with
    | none => none
    | some unit =>
      match ofUnit unit, rest with
      | some ch, rest => quoted quote (ch :: acc) rest
      | none, '\\' :: 'u' :: e :: f :: g :: h :: rest =>
        match (hex4 e f g h).bind (ofPair unit) with
        | some ch => quoted quote (ch :: acc) rest
        | none => none
      | none, _ => none
  | '\\' :: e :: rest =>
    if isBreak e then quoted quote acc rest
    else if e == 'x' || e == 'u' then none
    else match ofEscape e with
      | some ch => quoted quote (ch :: acc) rest
      | none => none
  | c :: rest =>
    if c == quote then some (String.ofList acc.reverse, rest)
    else if c == '\n' || c == '\r' || c == '\\' then none
    else quoted quote (c :: acc) rest

/-- Whether a character may start a name without quotes. -/
def startsName (c : Char) : Bool :=
  isLetter c || c == '_' || c == '$' || (0x80 ≤ c.toNat && !isGap c)

/-- The name of a field. -/
def name : List Char → Option (String × List Char)
  | '"' :: rest => quoted '"' [] rest
  | '\'' :: rest => quoted '\'' [] rest
  | c :: rest =>
    if startsName c then
      let more := rest.takeWhile fun c => startsName c || isDigit c
      some (String.ofList (c :: more), rest.drop more.length)
    else none
  | [] => none

/-! ## Numbers -/

/-- The words that stand for numbers. -/
def namedNumber? (negative : Bool) (cs : List Char) : Option Binary64 :=
  if cs = "Infinity".toList then some (.infinite negative)
  else if cs = "NaN".toList then some .undefined
  else none

/-- The value of a decimal number without its sign: whole, or with a fraction or an exponent. -/
def decimal? (negative : Bool) (cs : List Char) : Option Value :=
  let whole := cs.takeWhile isDigit
  let (fraction, rest) := match cs.drop whole.length with
    | '.' :: rest => (some (rest.takeWhile isDigit), rest.dropWhile isDigit)
    | rest => (none, rest)
  let digits := whole ++ fraction.getD []
  if digits.isEmpty || (whole.head? == some '0' && whole.length > 1) then none
  else match fraction, exponentPart rest with
    | none, some (none, []) =>
      let n : Int := digitsValue whole
      whole? (if negative then -n else n)
    | _, some (power, []) =>
      some (.real (Binary64.ofDecimal negative (digitsValue digits)
        (power.getD 0 - (fraction.getD []).length)))
    | _, _ => none

/-- The value of a number without its sign. -/
def unsigned? (negative : Bool) (cs : List Char) : Option Value :=
  match cs with
  | '0' :: x :: ds =>
    if x == 'x' || x == 'X' then do
      let n : Nat ← ds.foldlM (fun n c => (hexValue? c).map (n * 16 + ·)) 0
      if ds.isEmpty then none else whole? (if negative then -(n : Int) else n)
    else decimal? negative cs
  | _ =>
    match namedNumber? negative cs with
    | some x => some (.real x)
    | none => decimal? negative cs

/-- A number at the start of a text, as far as letters, digits, points and signs of exponents go. -/
def numberChars : List Char → List Char
  | [] => []
  | e :: sign :: rest =>
    if (e == 'e' || e == 'E') && (sign == '+' || sign == '-') then e :: sign :: numberChars rest
    else if isLetter e || isDigit e || e == '.' then e :: numberChars (sign :: rest)
    else []
  | [c] => if isLetter c || isDigit c || c == '.' then [c] else []

/-- A number. -/
def number : Reader Value := fun cs =>
  let (negative, body) := match cs with
    | '-' :: rest => (true, rest)
    | '+' :: rest => (false, rest)
    | _ => (false, cs)
  let chars := numberChars body
  (unsigned? negative chars).map (·, body.drop chars.length)

/-! ## Values -/

/-- The words that stand for values. -/
def word? (cs : List Char) : Option (Value × List Char) :=
  let word := cs.takeWhile isLetter
  let rest := cs.drop word.length
  if word = "true".toList then some (.truth true, rest)
  else if word = "false".toList then some (.truth false, rest)
  else if word = "null".toList then some (.nothing, rest)
  else none

mutual

/-- One value, in at most `fuel` nested steps. -/
def value : (fuel : Nat) → List Char → Option (Value × List Char)
  | 0, _ => none
  | fuel + 1, cs => do
    match ← skip cs with
    | '{' :: rest => fields fuel [] rest
    | '[' :: rest => items fuel [] rest
    | '"' :: rest => (quoted '"' [] rest).map fun (s, rest) => (.text s, rest)
    | '\'' :: rest => (quoted '\'' [] rest).map fun (s, rest) => (.text s, rest)
    | cs => (word? cs).or (number cs)

/-- The items of a list up to its closing bracket. -/
def items : (fuel : Nat) → List Value → List Char → Option (Value × List Char)
  | 0, _, _ => none
  | fuel + 1, acc, cs => do
    match ← skip cs with
    | ']' :: rest => some (.list acc.reverse, rest)
    | cs =>
      let (v, rest) ← value fuel cs
      match ← skip rest with
      | ',' :: rest => items fuel (v :: acc) rest
      | ']' :: rest => some (.list (v :: acc).reverse, rest)
      | _ => none

/-- The fields of an object up to its closing brace. -/
def fields : (fuel : Nat) → List (String × Value) → List Char → Option (Value × List Char)
  | 0, _, _ => none
  | fuel + 1, acc, cs => do
    match ← skip cs with
    | '}' :: rest => some (.table acc, rest)
    | cs =>
      let (name, rest) ← name cs
      match ← skip rest with
      | ':' :: rest =>
        let (v, rest) ← value fuel rest
        let acc := Value.setField name v acc
        match ← skip rest with
        | ',' :: rest => fields fuel acc rest
        | '}' :: rest => some (.table acc, rest)
        | _ => none
      | _ => none

end

/-- The value that a text holds, alone but for blanks and comments. Every step takes a character, so a
    bound of the length of the text is no bound. -/
def parse? (s : String) : Option Value := do
  let cs := s.toList
  let (v, rest) ← value (cs.length + 1) cs
  if (← skip rest).isEmpty then some v else none

end DiveSchool.Json.Relaxed
