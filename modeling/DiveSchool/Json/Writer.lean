import DiveSchool.Json.Basic
import DiveSchool.Uuid

/-!
# `DiveSchool.Json.Writer` — from JSON values to text

## Contents
- **Texts.** `escape` and `quoted`.
- **Values.** `Json.compact` on one line, `Json.pretty` with two blanks per level.
-/

namespace DiveSchool.Json

/-! ## Texts -/

/-- How a character stands inside quotes: only the quote, the backslash and control characters are
    escaped. -/
def escape (c : Char) : List Char :=
  if c = '"' then ['\\', '"']
  else if c = '\\' then ['\\', '\\']
  else if c = '\n' then ['\\', 'n']
  else if c = '\r' then ['\\', 'r']
  else if c = '\t' then ['\\', 't']
  else if c = '\x08' then ['\\', 'b']
  else if c = '\x0c' then ['\\', 'f']
  else if c.toNat < 0x20 then
    ['\\', 'u', '0', '0', hexDigit (c.toNat / 16), hexDigit (c.toNat % 16)]
  else [c]

/-- A text in quotes. -/
def quoted (s : String) : String := String.ofList ('"' :: s.toList.flatMap escape ++ ['"'])

/-- A number: whole ones in digits, others as digits and a power of ten. -/
def Number.toText : Number → String
  | whole i => toString i
  | real negative digits power =>
    Binary64.signed negative (toString digits ++ "e" ++ toString power)

/-! ## Values -/

mutual

/-- The value on one line, without blanks. What is garbled stands for no value. -/
def compact : Json → String
  | null | garbled => "null"
  | bool b => if b then "true" else "false"
  | number n => n.toText
  | text s => quoted s
  | array items => "[" ++ ",".intercalate (compactList items) ++ "]"
  | object fields => "\x7b" ++ ",".intercalate (compactFields fields) ++ "\x7d"

/-- Each value on one line. -/
def compactList : List Json → List String
  | [] => []
  | j :: rest => j.compact :: compactList rest

/-- Each field on one line. -/
def compactFields : List (String × Json) → List String
  | [] => []
  | (name, j) :: rest => (quoted name ++ ":" ++ j.compact) :: compactFields rest

end

/-- The start of a line at a given level. -/
def newLine (level : Nat) : String := "\n" ++ String.ofList (List.replicate (2 * level) ' ')

mutual

/-- The value with one item or field a line; empty arrays and objects stay on one line. -/
def prettyAt (level : Nat) : Json → String
  | array [] => "[]"
  | array (j :: rest) =>
    "[" ++ newLine (level + 1) ++
      ("," ++ newLine (level + 1)).intercalate (prettyList (level + 1) (j :: rest)) ++
      newLine level ++ "]"
  | object [] => "\x7b\x7d"
  | object (f :: rest) =>
    "\x7b" ++ newLine (level + 1) ++
      ("," ++ newLine (level + 1)).intercalate (prettyFields (level + 1) (f :: rest)) ++
      newLine level ++ "\x7d"
  | null | garbled => "null"
  | bool b => if b then "true" else "false"
  | number n => n.toText
  | text s => quoted s

/-- Each value at a given level. -/
def prettyList (level : Nat) : List Json → List String
  | [] => []
  | j :: rest => j.prettyAt level :: prettyList level rest

/-- Each field at a given level. -/
def prettyFields (level : Nat) : List (String × Json) → List String
  | [] => []
  | (name, j) :: rest => (quoted name ++ ": " ++ j.prettyAt level) :: prettyFields level rest

end

/-- The value over several lines. -/
def pretty (j : Json) : String := j.prettyAt 0

end DiveSchool.Json
