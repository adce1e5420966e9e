import DiveSchool.Settings.Value
import DiveSchool.Text.Blank
import DiveSchool.Uuid

/-!
# `DiveSchool.Ini` — keys and texts under headings in brackets

A document is a list of headings and of keys with texts. Every value is a text; a heading that is
repeated starts its table anew.

## Contents
- **Blanks.** `skipBlanks`, which keeps track of the start of a line.
- **Texts.** `textUntil` with its escapes, and `valueText`, quoted or up to the end of the line.
- **Documents.** `statements` and `Ini.parse?`.
-/

namespace DiveSchool.Ini

open Text Settings

/-! ## Blanks -/

/-- The text after blanks and line breaks, and whether it stands at the start of a line. -/
def skipBlanks (fresh : Bool) : List Char → Bool × List Char
  | [] => (fresh, [])
  | '\n' :: rest => skipBlanks true rest
  | c :: rest => if isBlank c then skipBlanks false rest else (fresh, c :: rest)

/-! ## Texts -/

/-- The characters of a one-letter escape. A line break that is escaped is dropped. -/
def ofEscape : Char → List Char
  | '0' => ['\x00']
  | 'a' => ['\x07']
  | 'b' => ['\x08']
  | 't' => ['\t']
  | 'r' => ['\r']
  | 'n' => ['\n']
  | '\n' => []
  | c => [c]

/-- The character of four hexadecimal digits. -/
def ofHex (cs : List Char) : Option Char := do
  let n ← cs.foldlM (fun n c => (hexValue? c).map (n * 16 + ·)) 0
  if 0xD800 ≤ n ∧ n < 0xE000 then none else some (Char.ofNat n)

/-- The text in front of a stop, with its escapes resolved, and the rest from the stop on. Whether the
    text may run to the end of the document is given. -/
def textUntil (stop : Char → Bool) (toEnd : Bool) (acc : List Char) :
    List Char → Option (List Char × List Char)
  | [] => if toEnd then some (acc.reverse, []) else none
  | '\\' :: 'x' :: a :: b :: c :: d :: rest =>
    match ofHex [a, b, c, d] with
    | some ch => textUntil stop toEnd (ch :: acc) rest
    | none => none
  | '\\' :: e :: rest =>
    if e == 'x' then none else textUntil stop toEnd ((ofEscape e).reverse ++ acc) rest
  | c :: rest =>
    if stop c then some (acc.reverse, c :: rest)
    else if c == '\\' then none
    else textUntil stop toEnd (c :: acc) rest

/-- The text without the blanks at its end. -/
def trimEndList (cs : List Char) : List Char := (trimStartList cs.reverse).reverse

/-- A value: parts in quotes, then the rest of the line without blanks around it, in at most `fuel`
    parts. Blanks after a part in quotes stay. -/
def valueText : (fuel : Nat) → (first : Bool) → List Char → List Char →
    Option (List Char × List Char)
  | 0, _, _, _ => none
  | fuel + 1, first, acc, cs =>
    let quoted (quote : Char) (rest : List Char) : Option (List Char × List Char) := do
      let (part, rest) ← textUntil (· == quote) false [] rest
      valueText fuel false (acc ++ part) (rest.drop 1)
    match cs with
    | '"' :: rest => quoted '"' rest
    | '\'' :: rest => quoted '\'' rest
    | cs => do
      let (part, rest) ← textUntil (fun c => c == '\n' || c == '\r') true [] cs
      return (acc ++ (if first then trimList part else trimEndList part), rest)

/-! ## Documents -/

/-- The text after the blanks within a line. -/
def skipInLine (cs : List Char) : List Char :=
  cs.dropWhile fun c => isBlank c && c != '\n' && c != '\r'

/-- Give a text to a key, under a heading or none. -/
def assign (heading : Option String) (key text : String) (root : List (String × Value)) :
    List (String × Value) :=
  match heading with
  | none => Value.setField key (.text text) root
  | some name =>
    let fields := ((root.lookup name).getD .nothing).fieldList
    Value.setField name (.table (Value.setField key (.text text) fields)) root

/-- The statements of a document, in at most `fuel` steps. A comment takes a whole line. -/
def statements : (fuel : Nat) → (fresh : Bool) → (heading : Option String) → (key : String) →
    List (String × Value) → List Char → Option (List (String × Value))
  | 0, _, _, _, _, _ => none
  | fuel + 1, fresh, heading, key, root, cs =>
    let comment (fresh : Bool) (rest : List Char) : Option (List (String × Value)) :=
      if fresh then
        statements fuel true heading key root ((rest.dropWhile (· != '\n')).drop 1)
      else none
    let value (rest : List Char) : Option (List (String × Value)) :=
      if key.isEmpty then none
      else do
        let (text, rest) ← valueText (rest.length + 1) true [] (skipInLine rest)
        statements fuel false heading "" (assign heading key (String.ofList text) root) rest
    match skipBlanks fresh cs with
    | (_, []) => some root
    | (fresh, ';' :: rest) | (fresh, '#' :: rest) => comment fresh rest
    | (_, '[' :: rest) => do
      let (name, rest) ← textUntil (· == ']') false [] rest
      let name := String.ofList (trimList name)
      statements fuel false (some name) key (Value.setField name (.table []) root) (rest.drop 1)
    | (_, '=' :: rest) | (_, ':' :: rest) => value rest
    | (_, cs) => do
      let (name, rest) ← textUntil (fun c => c == '=' || c == ':') false [] cs
      statements fuel false heading (String.ofList (trimList name)) root rest

/-- The fields that a document holds. Every step takes a character, so a bound of the length of the text
    is no bound. -/
def parse? (s : String) : Option (List (String × Value)) :=
  let cs := s.toList
  statements (cs.length + 2) true none "" [] cs

end DiveSchool.Ini
