import DiveSchool.Toml.Word
import DiveSchool.Toml.Tree

/-!
# `DiveSchool.Toml.Reader` — from text to the values of a TOML document

The grammar of TOML 1.1. A text outside it has no value, and neither has one whose keys have more than
80 names or whose lists and inline tables are nested more than 80 deep.

## Contents
- **Blanks.** `skip`, `skipLines`, `lineEnd`.
- **Texts.** Basic and literal texts, on one line or several.
- **Keys.** `key` and `keyPath`.
- **Values.** `value`, with a bound on the number of steps.
- **Documents.** `statements` and `Toml.parse?`.
-/

namespace DiveSchool.Toml

open Text Settings

/-! ## Blanks -/

/-- Whether a character may stand in a text or a comment. -/
def isPlain (c : Char) : Bool := c == '\t' || (c.toNat ≥ 0x20 && c.toNat != 0x7F)

/-- The text after the blanks at its start. -/
def skip (cs : List Char) : List Char := cs.dropWhile isSpace

/-- The text after a line break. -/
def newline? : List Char → Option (List Char)
  | '\n' :: rest => some rest
  | '\r' :: '\n' :: rest => some rest
  | _ => none

/-- The text after blanks, line breaks and comments. -/
def skipLines (inComment : Bool) : List Char → Option (List Char)
  | [] => some []
  | '\n' :: rest => skipLines false rest
  | '\r' :: '\n' :: rest => skipLines false rest
  | c :: rest =>
    if inComment then (if isPlain c then skipLines true rest else none)
    else if isSpace c then skipLines false rest
    else if c == '#' then skipLines true rest
    else some (c :: rest)

/-- The text after the rest of a line on which nothing but a comment may stand. -/
def lineEnd (cs : List Char) : Option (List Char) :=
  let body := match skip cs with
    | '#' :: rest => rest.dropWhile isPlain
    | rest => rest
  if body.isEmpty then some [] else newline? body

/-! ## Texts -/

/-- The character of a number of hexadecimal digits. -/
def ofHex (cs : List Char) : Option Char := do
  let n ← cs.foldlM (fun n c => (hexValue? c).map (n * 16 + ·)) 0
  if (0xD800 ≤ n ∧ n < 0xE000) ∨ 0x10FFFF < n then none else some (Char.ofNat n)

/-- The character of a one-letter escape. -/
def ofEscape : Char → Option Char
  | 'b' => some '\x08'
  | 't' => some '\t'
  | 'n' => some '\n'
  | 'f' => some '\x0c'
  | 'r' => some '\r'
  | 'e' => some '\x1b'
  | '"' => some '"'
  | '\\' => some '\\'
  | _ => none

/-- The body of a basic text, read in front of `acc` in reverse. -/
def basicBody (acc : List Char) : List Char → Option (String × List Char)
  | [] => none
  | '"' :: rest => some (String.ofList acc.reverse, rest)
  | '\\' :: 'x' :: a :: b :: rest =>
    match ofHex [a, b] with
    | some ch => basicBody (ch :: acc) rest
    | none => none
  | '\\' :: 'u' :: a :: b :: c :: d :: rest =>
    match ofHex [a, b, c, d] with
    | some ch => basicBody (ch :: acc) rest
    | none => none
  | '\\' :: 'U' :: a :: b :: c :: d :: e :: f :: g :: h :: rest =>
    match ofHex [a, b, c, d, e, f, g, h] with
    | some ch => basicBody (ch :: acc) rest
    | none => none
  | '\\' :: e :: rest =>
    match ofEscape e with
    | some ch => basicBody (ch :: acc) rest
    | none => none
  | c :: rest => if isPlain c then basicBody (c :: acc) rest else none

/-- The end of a text of several lines, which may have two more quotes in front: how many there are, and
    the text after it. -/
def closing (quote : Char) (cs : List Char) : Option (Nat × List Char) :=
  let run := (cs.takeWhile (· == quote)).length
  if run < 3 then none else some (min (run - 3) 2, cs.drop (min run 5))

/-- Whether only blanks stand before the next line break. -/
def endsLine (cs : List Char) : Bool := (newline? (skip cs)).isSome

/-- The body of a basic text of several lines. While `skipping`, blanks and line breaks are dropped. -/
def basicLines (skipping : Bool) (acc : List Char) : List Char → Option (String × List Char)
  | [] => none
  | '\r' :: '\n' :: rest => basicLines skipping (if skipping then acc else '\n' :: '\r' :: acc) rest
  | '\n' :: rest => basicLines skipping (if skipping then acc else '\n' :: acc) rest
  | '"' :: rest =>
    match closing '"' ('"' :: rest) with
    | some (extra, rest) => some (String.ofList (List.replicate extra '"' ++ acc).reverse, rest)
    | none => basicLines false ('"' :: acc) rest
  | '\\' :: 'x' :: a :: b :: rest =>
    match ofHex [a, b] with
    | some ch => basicLines false (ch :: acc) rest
    | none => none
  | '\\' :: 'u' :: a :: b :: c :: d :: rest =>
    match ofHex [a, b, c, d] with
    | some ch => basicLines false (ch :: acc) rest
    | none => none
  | '\\' :: 'U' :: a :: b :: c :: d :: e :: f :: g :: h :: rest =>
    match ofHex [a, b, c, d, e, f, g, h] with
    | some ch => basicLines false (ch :: acc) rest
    | none => none
  | '\\' :: e :: rest =>
    match ofEscape e with
    | some ch => basicLines false (ch :: acc) rest
    | none => if endsLine (e :: rest) then basicLines true acc (e :: rest) else none
  | c :: rest =>
    if skipping && isSpace c then basicLines true acc rest
    else if isPlain c then basicLines false (c :: acc) rest
    else none

/-- The body of a literal text. -/
def literalBody (acc : List Char) : List Char → Option (String × List Char)
  | [] => none
  | '\'' :: rest => some (String.ofList acc.reverse, rest)
  | c :: rest => if isPlain c then literalBody (c :: acc) rest else none

/-- The body of a literal text of several lines, line breaks as they are written. -/
def literalLines (acc : List Char) : List Char → Option (String × List Char)
  | [] => none
  | '\r' :: '\n' :: rest => literalLines ('\n' :: '\r' :: acc) rest
  | '\n' :: rest => literalLines ('\n' :: acc) rest
  | '\'' :: rest =>
    match closing '\'' ('\'' :: rest) with
    | some (extra, rest) => some (String.ofList (List.replicate extra '\'' ++ acc).reverse, rest)
    | none => literalLines ('\'' :: acc) rest
  | c :: rest => if isPlain c then literalLines (c :: acc) rest else none

/-- A text without the line break at its start. -/
def trimNewline (cs : List Char) : List Char := (newline? cs).getD cs

/-- A text in quotes. -/
def quotedText : List Char → Option (String × List Char)
  | '"' :: '"' :: '"' :: rest => basicLines false [] (trimNewline rest)
  | '\'' :: '\'' :: '\'' :: rest => literalLines [] (trimNewline rest)
  | '"' :: rest => basicBody [] rest
  | '\'' :: rest => literalBody [] rest
  | _ => none

/-! ## Keys -/

/-- One name of a key. -/
def key : Reader String := fun cs =>
  match cs with
  | '"' :: rest => basicBody [] rest
  | '\'' :: rest => literalBody [] rest
  | _ =>
    let name := cs.takeWhile isBare
    if name.isEmpty then none else some (String.ofList name, cs.drop name.length)

/-- The greatest number of names of a key, and of levels of a value. -/
def deepest : Nat := 80

/-- The names of a dotted key, with blanks allowed around each, in at most `fuel` names. -/
def keyPathWithin : (fuel : Nat) → Reader (List String)
  | 0, _ => none
  | fuel + 1, cs => do
    let (name, cs) ← key (skip cs)
    match skip cs with
    | '.' :: rest =>
      let (names, rest) ← keyPathWithin fuel rest
      some (name :: names, rest)
    | rest => some ([name], rest)

/-- The names of a dotted key. -/
def keyPath : Reader (List String) := keyPathWithin deepest

/-! ## Values -/

/-- Whether a character may stand in a word. -/
def isWordChar (c : Char) : Bool := isBare c || c == '+' || c == '.' || c == ':'

/-- Whether a word is a date and no more. -/
def isDate (cs : List Char) : Bool :=
  match date? cs with
  | some (_, []) => true
  | _ => false

/-- A word, and a time of day after a date and a blank. -/
def word : Reader (List Char) := fun cs =>
  let first := cs.takeWhile isWordChar
  let rest := cs.drop first.length
  match rest with
  | ' ' :: c :: more =>
    if isDate first && isDigit c then
      let second := (c :: more).takeWhile isWordChar
      some (first ++ 'T' :: second, (c :: more).drop second.length)
    else some (first, rest)
  | _ => some (first, rest)

mutual

/-- One value with at most `room` levels of lists and inline tables, in at most `fuel` nested steps. -/
def value : (fuel room : Nat) → Reader Value
  | 0, _, _ => none
  | fuel + 1, room, cs =>
    match cs, room with
    | '"' :: _, _ => (quotedText cs).map fun (s, rest) => (.text s, rest)
    | '\'' :: _, _ => (quotedText cs).map fun (s, rest) => (.text s, rest)
    | '[' :: _, 0 | '{' :: _, 0 => none
    | '[' :: rest, room + 1 => items fuel room [] rest
    | '{' :: rest, room + 1 => fields fuel room [] rest
    | _, _ => do
      let (w, rest) ← word cs
      return (← ofWord? w, rest)

/-- The items of a list up to its closing bracket. -/
def items : (fuel room : Nat) → List Value → List Char → Option (Value × List Char)
  | 0, _, _, _ => none
  | fuel + 1, room, acc, cs => do
    match ← skipLines false cs with
    | ']' :: rest => some (.list acc.reverse, rest)
    | cs =>
      let (v, cs) ← value fuel room cs
      match ← skipLines false cs with
      | ',' :: rest => items fuel room (v :: acc) rest
      | ']' :: rest => some (.list (v :: acc).reverse, rest)
      | _ => none

/-- The fields of an inline table up to its closing brace. Lines may break between any two parts. -/
def fields : (fuel room : Nat) → Children → List Char → Option (Value × List Char)
  | 0, _, _, _ => none
  | fuel + 1, room, acc, cs => do
    match ← skipLines false cs with
    | '}' :: rest => some (.table (fieldsOf acc), rest)
    | cs =>
      let (path, cs) ← keyPath cs
      match ← skipLines false cs with
      | '=' :: rest =>
        let (v, cs) ← value fuel room (← skipLines false rest)
        let (_, acc) ← assignIn path v .headed acc
        match ← skipLines false cs with
        | ',' :: rest => fields fuel room acc rest
        | '}' :: rest => some (.table (fieldsOf acc), rest)
        | _ => none
      | _ => none

end

/-! ## Documents -/

/-- The names in the brackets of a header. -/
def header (close cs : List Char) : Option (List String × List Char) := do
  let (path, cs) ← keyPath cs
  let rest ← dropLead? close cs
  return (path, ← lineEnd rest)

/-- The statements of a document, in at most `fuel` lines. -/
def statements : (fuel : Nat) → (current : List String) → Children → List Char → Option Children
  | 0, _, _, _ => none
  | fuel + 1, current, root, cs => do
    match ← skipLines false cs with
    | [] => some root
    | '[' :: '[' :: rest =>
      let (path, rest) ← header [']', ']'] rest
      statements fuel path (← openTables path root) rest
    | '[' :: rest =>
      let (path, rest) ← header [']'] rest
      statements fuel path (← openTable path root) rest
    | cs =>
      let (path, cs) ← keyPath cs
      match cs with
      | '=' :: rest =>
        let (v, rest) ← value cs.length deepest (skip rest)
        statements fuel current (← assign current path v root) (← lineEnd rest)
      | _ => none

/-- The text without a byte-order mark at its start. -/
def dropMark : List Char → List Char
  | '\uFEFF' :: rest => rest
  | cs => cs

/-- The fields of the table that a text holds. Every statement takes a character, so a bound of the
    length of the text is no bound. -/
def parse? (s : String) : Option (List (String × Value)) :=
  let cs := dropMark s.toList
  (statements (cs.length + 1) [] [] cs).map fieldsOf

end DiveSchool.Toml
