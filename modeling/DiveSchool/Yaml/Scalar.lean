import DiveSchool.Settings.Value
import DiveSchool.Text.Blank
import DiveSchool.Uuid

/-!
# `DiveSchool.Yaml.Scalar` — texts of YAML and what they stand for

A text without quotes may stand for nothing, a truth value or a number; a text in quotes is a text.

## Contents
- **Meaning.** `resolve?` for texts without quotes, `keyText?` for names, and `tagged?` for texts with
  their type in front.
- **Quotes.** `quoted`, with lines folded and escapes resolved.
-/

namespace DiveSchool.Yaml

open Text Settings

/-! ## Meaning -/

/-- The number in a text of digits of a base, with a sign allowed in front. -/
def basedOf? (base : Nat) (cs : List Char) : Option Int := do
  let (negative, ds) := match cs with
    | '-' :: rest => (true, rest)
    | '+' :: rest => (false, rest)
    | _ => (false, cs)
  let n : Nat ← ds.foldlM (fun n c => (hexValue? c).bind fun d =>
    if d < base then some (n * base + d) else none) 0
  if ds.isEmpty then none else some (if negative then -(n : Int) else n)

/-- The whole number of 64 bits in a text, in decimal or after `0x` or `0o`. -/
def wholeOf? (cs : List Char) : Option Int :=
  let i := match cs with
    | '0' :: 'x' :: ds => basedOf? 16 ds
    | '0' :: 'o' :: ds => basedOf? 8 ds
    | '+' :: ds => basedOf? 10 ds
    | _ => basedOf? 10 cs
  i.filter fun i => leastWhole ≤ i && i ≤ greatestWhole

/-- The texts for numbers that are not finite, which no setting takes. -/
def boundless : List String :=
  [".inf", ".Inf", ".INF", "+.inf", "+.Inf", "+.INF", "-.inf", "-.Inf", "-.INF", ".nan", ".NAN"]

/-- The number with a fraction or an exponent in a text. -/
def realOf? (cs : List Char) : Option Binary64 :=
  if cs.any isDigit then Binary64.parse? cs else none

/-- What a text without quotes stands for. -/
def resolve? (s : String) : Option Value :=
  if ["", "~", "null"].contains s then some .nothing
  else if ["true", "True", "TRUE"].contains s then some (.truth true)
  else if ["false", "False", "FALSE"].contains s then some (.truth false)
  else if boundless.contains s then none
  else match wholeOf? s.toList, realOf? s.toList with
    | some i, _ => some (.whole i)
    | none, some x => some (.real x)
    | none, none => some (.text s)

/-- The name that a text without quotes stands for. -/
def keyText? (s : String) : Option String :=
  match resolve? s with
  | some (.truth b) => some (if b then "true" else "false")
  | some (.whole i) => some (toString i)
  | some .nothing | none => none
  | _ => some s

/-- What a text without quotes stands for when its type is written in front of it. -/
def tagged? (tag s : String) : Option Value :=
  match tag with
  | "!!bool" => if s = "true" then some (.truth true) else if s = "false" then some (.truth false)
    else some .nothing
  | "!!int" => some (((intOfList? s.toList).bind whole?).getD .nothing)
  | "!!float" => some (((realOf? s.toList).map .real).getD .nothing)
  | "!!null" => some .nothing
  | _ => some (.text s)

/-! ## Quotes -/

/-- A text without the blanks at its two ends. -/
def stripped (cs : List Char) : List Char :=
  ((cs.dropWhile isSpace).reverse.dropWhile isSpace).reverse

/-- The character of a number of hexadecimal digits. -/
def ofHex (cs : List Char) : Option Char := do
  let n ← cs.foldlM (fun n c => (hexValue? c).map (n * 16 + ·)) 0
  if (0xD800 ≤ n ∧ n < 0xE000) ∨ 0x10FFFF < n then none else some (Char.ofNat n)

/-- The character of a one-letter escape. -/
def ofEscape : Char → Option Char
  | '0' => some '\x00'
  | 'a' => some '\x07'
  | 'b' => some '\x08'
  | 't' | '\t' => some '\t'
  | 'n' => some '\n'
  | 'v' => some '\x0b'
  | 'f' => some '\x0c'
  | 'r' => some '\r'
  | 'e' => some '\x1b'
  | ' ' => some ' '
  | '"' => some '"'
  | '/' => some '/'
  | '\\' => some '\\'
  | 'N' => some '\u0085'
  | '_' => some '\u00A0'
  | 'L' => some '\u2028'
  | 'P' => some '\u2029'
  | _ => none

/-- A line break inside quotes, of which `more` follow at once: a blank, or the breaks that follow. -/
def folded (more : Nat) : List Char := if more = 0 then [' '] else List.replicate more '\n'

/-- The number of line breaks after blanks at the start of a text, and the text after them. -/
def breaks (count : Nat) : List Char → Nat × List Char
  | [] => (count, [])
  | '\n' :: rest => breaks (count + 1) rest
  | c :: rest => if isSpace c then breaks count rest else (count, c :: rest)

/-- The body of a text in quotes, read in front of `acc` in reverse, in at most `fuel` steps. -/
def quoted : (fuel : Nat) → (quote : Char) → List Char → List Char → Option (String × List Char)
  | 0, _, _, _ | _, _, _, [] => none
  | fuel + 1, quote, acc, c :: rest =>
    if c == '\n' then
      let (more, rest) := breaks 0 rest
      quoted fuel quote (folded more ++ acc.dropWhile isSpace) rest
    else if c == quote then
      match quote, rest with
      | '\'', '\'' :: rest => quoted fuel quote ('\'' :: acc) rest
      | _, _ => some (String.ofList acc.reverse, rest)
    else if c == '\\' && quote == '"' then
      match rest with
      | '\n' :: rest => quoted fuel quote acc (rest.dropWhile isSpace)
      | 'x' :: a :: b :: rest => do quoted fuel quote ((← ofHex [a, b]) :: acc) rest
      | 'u' :: a :: b :: c :: d :: rest => do quoted fuel quote ((← ofHex [a, b, c, d]) :: acc) rest
      | 'U' :: a :: b :: c :: d :: e :: f :: g :: h :: rest => do
        quoted fuel quote ((← ofHex [a, b, c, d, e, f, g, h]) :: acc) rest
      | e :: rest => do quoted fuel quote ((← ofEscape e) :: acc) rest
      | [] => none
    else quoted fuel quote (c :: acc) rest

end DiveSchool.Yaml
