import DiveSchool.Settings.Value
import DiveSchool.Json.Reader

/-!
# `DiveSchool.Ron` — records in round brackets

A record is written `Name(field: value, …)`, with or without its name; a sequence in square brackets or,
without names, in round ones; a map in braces with texts as keys.

## Contents
- **Blanks.** `skip`, blanks and comments, which nest.
- **Texts.** `quoted`, `raw` and `letter`.
- **Numbers.** `number`, with digits in groups and the type of the number behind it.
- **Values.** `value`, `items`, `fields` with a bound on the number of steps; `Ron.parse?`.
-/

namespace DiveSchool.Ron

open Text Settings

/-! ## Blanks -/

/-- The code points that have the Unicode property `Pattern_White_Space`. -/
def gapCodes : List Nat :=
  [0x09, 0x0A, 0x0B, 0x0C, 0x0D, 0x20, 0x85, 0x200E, 0x200F, 0x2028, 0x2029]

/-- Whether a character may stand between tokens. -/
def isGap (c : Char) : Bool := gapCodes.contains c.toNat

/-- The text after a comment in which comments may stand, given how many are open. -/
def afterBlock (depth : Nat) : List Char → Option (List Char)
  | [] => none
  | '*' :: '/' :: rest => if depth ≤ 1 then some rest else afterBlock (depth - 1) rest
  | '/' :: '*' :: rest => afterBlock (depth + 1) rest
  | _ :: rest => afterBlock depth rest

/-- The text after blanks and comments, of which there are at most `fuel`. -/
def skipWithin : (fuel : Nat) → List Char → Option (List Char)
  | 0, cs => some cs
  | fuel + 1, cs =>
    match cs.dropWhile isGap with
    | '/' :: '/' :: rest => skipWithin fuel (rest.dropWhile (· != '\n'))
    | '/' :: '*' :: rest => (afterBlock 1 rest).bind (skipWithin fuel)
    | cs => some cs

/-- The text after blanks and comments. -/
def skip (cs : List Char) : Option (List Char) := skipWithin (cs.length + 1) cs

/-! ## Texts -/

/-- The character with a number, if it is one. -/
def ofCode (n : Nat) : Option Char :=
  if (0xD800 ≤ n ∧ n < 0xE000) ∨ 0x10FFFF < n then none else some (Char.ofNat n)

/-- The character of a number of hexadecimal digits. -/
def ofHex (cs : List Char) : Option Char := do
  let n ← cs.foldlM (fun n c => (hexValue? c).map (n * 16 + ·)) 0
  if cs.isEmpty then none else ofCode n

/-- The character of a one-letter escape. -/
def ofEscape : Char → Option Char
  | '\'' => some '\''
  | '"' => some '"'
  | '\\' => some '\\'
  | 'n' => some '\n'
  | 'r' => some '\r'
  | 't' => some '\t'
  | '0' => some '\x00'
  | _ => none

/-- One character after a backslash. -/
def escaped : List Char → Option (Char × List Char)
  | 'x' :: a :: b :: rest => (ofHex [a, b]).map (·, rest)
  | 'u' :: '{' :: rest =>
    let ds := rest.takeWhile (· != '}')
    if ds.length ≤ 6 then (ofHex ds).map (·, rest.drop (ds.length + 1)) else none
  | e :: rest => (ofEscape e).map (·, rest)
  | [] => none

/-- The characters up to the closing quote, read in front of `acc` in reverse, of which there are at most
    `fuel`. -/
def quoted : (fuel : Nat) → List Char → List Char → Option (String × List Char)
  | _, acc, '"' :: rest => some (String.ofList acc.reverse, rest)
  | 0, _, _ => none
  | fuel + 1, acc, '\\' :: rest => do
    let (c, rest) ← escaped rest
    quoted fuel (c :: acc) rest
  | fuel + 1, acc, c :: rest => quoted fuel (c :: acc) rest
  | _, _, [] => none

/-- A text without escapes between marks of its own: a number of `#` and a quote. -/
def raw (cs : List Char) : Option (String × List Char) :=
  let marks := cs.takeWhile (· == '#')
  match cs.drop marks.length with
  | '"' :: rest =>
    (splitOnce ('"' :: marks) rest).map fun (body, rest) => (String.ofList body, rest)
  | _ => none

/-- One character between single quotes. -/
def letter (cs : List Char) : Option (String × List Char) :=
  let one := match cs with
    | '\\' :: rest => escaped rest
    | c :: rest => some (c, rest)
    | [] => none
  match one with
  | some (c, '\'' :: rest) => some (String.ofList [c], rest)
  | _ => none

/-! ## Numbers -/

/-- The types of numbers that may stand behind a number. -/
def numberTypes : List String :=
  ["i8", "i16", "i32", "i64", "i128", "u8", "u16", "u32", "u64", "u128", "f32", "f64"]

/-- A number without its type. -/
def untyped (cs : List Char) : List Char :=
  match numberTypes.find? fun t => t.toList.isSuffixOf cs && t.length < cs.length with
  | some t => cs.take (cs.length - t.length)
  | none => cs

/-- The value of digits of a base. -/
def digits? (base : Nat) (ds : List Char) : Option Nat := do
  let ds := ds.filter (· != '_')
  let n ← ds.foldlM (fun n c => (hexValue? c).bind fun d =>
    if d < base then some (n * base + d) else none) 0
  if ds.isEmpty then none else some n

/-- The value of a number without its sign. -/
def unsigned? (negative : Bool) (cs : List Char) : Option Value :=
  let whole (n : Option Nat) : Option Value :=
    n.bind fun n => whole? (if negative then -(n : Int) else n)
  match cs with
  | '0' :: 'b' :: ds => whole (digits? 2 ds)
  | '0' :: 'o' :: ds => whole (digits? 8 ds)
  | '0' :: 'x' :: ds => whole (digits? 16 ds)
  | _ =>
    match whole (digits? 10 (untyped cs)) with
    | some v => some v
    | none =>
      if cs = "inf".toList then some (.real (.infinite negative))
      else if cs = "NaN".toList then some (.real .undefined)
      else if cs.any isDigit then
        (Binary64.unsigned? negative ((untyped cs).filter (· != '_'))).map .real
      else none

/-- Whether a character may stand in a number behind its sign. -/
def isNumberChar (c : Char) : Bool := isLetter c || isDigit c || c == '_' || c == '.'

/-- A number at the start of a text, signs of exponents included. -/
def numberChars : List Char → List Char
  | [] => []
  | e :: sign :: rest =>
    if (e == 'e' || e == 'E') && (sign == '+' || sign == '-') then e :: sign :: numberChars rest
    else if isNumberChar e then e :: numberChars (sign :: rest)
    else []
  | [c] => if isNumberChar c then [c] else []

/-- A number. -/
def number : Reader Value := fun cs =>
  let (negative, body) := match cs with
    | '-' :: rest => (true, rest)
    | '+' :: rest => (false, rest)
    | _ => (false, cs)
  let chars := numberChars body
  (unsigned? negative chars).map (·, body.drop chars.length)

/-! ## Values -/

/-- A name at the start of a text. -/
def name? (cs : List Char) : Option (String × List Char) :=
  let name := cs.takeWhile fun c => isLetter c || isDigit c || c == '_'
  match name with
  | c :: _ => if isDigit c then none else some (String.ofList name, cs.drop name.length)
  | [] => none

/-- The name of a field at the start of a text, after which a colon stands. -/
def fieldName? (cs : List Char) : Option (String × List Char) := do
  let (name, rest) ← name? cs
  match ← skip rest with
  | ':' :: rest => some (name, rest)
  | _ => none

mutual

/-- One value, in at most `fuel` nested steps. -/
def value : (fuel : Nat) → List Char → Option (Value × List Char)
  | 0, _ => none
  | fuel + 1, cs => do
    match ← skip cs with
    | '(' :: rest => record fuel rest
    | '[' :: rest => items fuel ']' [] rest
    | '{' :: rest => entries fuel [] rest
    | '"' :: rest => (quoted rest.length [] rest).map fun (s, rest) => (.text s, rest)
    | '\'' :: rest => (letter rest).map fun (s, rest) => (.text s, rest)
    | 'r' :: '"' :: rest => (raw ('"' :: rest)).map fun (s, rest) => (.text s, rest)
    | 'r' :: '#' :: rest => (raw ('#' :: rest)).map fun (s, rest) => (.text s, rest)
    | cs =>
      match number cs with
      | some r => some r
      | none =>
        match name? cs with
        | some ("true", rest) => some (.truth true, rest)
        | some ("false", rest) => some (.truth false, rest)
        | some ("None", rest) => some (.nothing, rest)
        | some (name, rest) =>
          match ← skip rest with
          | '(' :: rest =>
            match name with
            | "Some" => do
              let (v, rest) ← value fuel rest
              match ← skip rest with
              | ')' :: rest => some (v, rest)
              | _ => none
            | _ => record fuel rest
          | _ => some (.nothing, rest)
        | none => none

/-- The body of round brackets: nothing, named fields, or a sequence. -/
def record : (fuel : Nat) → List Char → Option (Value × List Char)
  | 0, _ => none
  | fuel + 1, cs => do
    match ← skip cs with
    | ')' :: rest => some (.nothing, rest)
    | cs => if (fieldName? cs).isSome then fields fuel [] cs else items fuel ')' [] cs

/-- The items of a sequence up to its closing bracket. -/
def items : (fuel : Nat) → (close : Char) → List Value → List Char → Option (Value × List Char)
  | 0, _, _, _ => none
  | fuel + 1, close, acc, cs => do
    match ← skip cs with
    | [] => none
    | c :: rest =>
      if c == close then some (.list acc.reverse, rest)
      else
        let (v, rest) ← value fuel (c :: rest)
        match ← skip rest with
        | ',' :: rest => items fuel close (v :: acc) rest
        | d :: rest => if d == close then some (.list (v :: acc).reverse, rest) else none
        | [] => none

/-- The named fields of a record up to its closing bracket. -/
def fields : (fuel : Nat) → List (String × Value) → List Char → Option (Value × List Char)
  | 0, _, _ => none
  | fuel + 1, acc, cs => do
    match ← skip cs with
    | ')' :: rest => some (.table acc, rest)
    | cs =>
      let (name, rest) ← fieldName? cs
      let (v, rest) ← value fuel rest
      let acc := Value.setField name v acc
      match ← skip rest with
      | ',' :: rest => fields fuel acc rest
      | ')' :: rest => some (.table acc, rest)
      | _ => none

/-- The entries of a map up to its closing brace. -/
def entries : (fuel : Nat) → List (String × Value) → List Char → Option (Value × List Char)
  | 0, _, _ => none
  | fuel + 1, acc, cs => do
    match ← skip cs with
    | '}' :: rest => some (.table acc, rest)
    | cs =>
      let (key, rest) ← value fuel cs
      match key, ← skip rest with
      | .text name, ':' :: rest =>
        let (v, rest) ← value fuel rest
        let acc := Value.setField name v acc
        match ← skip rest with
        | ',' :: rest => entries fuel acc rest
        | '}' :: rest => some (.table acc, rest)
        | _ => none
      | _, _ => none

end

/-- The text after the extensions that it asks for. -/
def skipExtensions (cs : List Char) : Option (List Char) := do
  match ← skip cs with
  | '#' :: '!' :: '[' :: rest => (splitOnce [']'] rest).map Prod.snd
  | cs => some cs

/-- The value that a text holds, alone but for blanks and comments. Every step takes a character or
    returns at once, so a bound of twice the length of the text is no bound. -/
def parse? (s : String) : Option Value := do
  let cs ← skipExtensions s.toList
  let (v, rest) ← value (2 * cs.length + 2) cs
  if (← skip rest).isEmpty then some v else none

end DiveSchool.Ron
