import DiveSchool.Yaml.Node

/-!
# `DiveSchool.Yaml.Flow` — lists and maps in brackets

Between brackets, lines may break anywhere, and a text without quotes ends at a comma, a bracket, a colon
or a comment.

## Contents
- **Blanks.** `skipGaps`, over blanks, line breaks and comments.
- **Texts.** `plain` and `scalar`.
- **Nodes.** `node`, `items`, `fields` with a bound on the number of steps.
-/

namespace DiveSchool.Yaml.Flow

open Text Settings

/-! ## Blanks -/

/-- Whether a character is a blank or a line break. -/
def isGap (c : Char) : Bool := isSpace c || c == '\n'

/-- The text after blanks, line breaks and comments. Whether a comment may start is given, and whether
    one has started. -/
def skip (afterGap inComment : Bool) : List Char → List Char
  | [] => []
  | c :: rest =>
    if inComment then skip true (c != '\n') rest
    else if isGap c then skip true false rest
    else if c == '#' && afterGap then skip true true rest
    else c :: rest

/-- The text after blanks, line breaks and comments. -/
def skipGaps (cs : List Char) : List Char := skip false false cs

/-! ## Texts -/

/-- Whether a character is one of the brackets or the comma of lists and maps. -/
def isMark (c : Char) : Bool := c == ',' || c == '[' || c == ']' || c == '{' || c == '}'

/-- The characters that no text without quotes starts with. -/
def isIndicator (c : Char) : Bool := isMark c || "#&*!|>'\"%@\x60".toList.contains c

/-- Whether a colon, a hyphen or a question mark at this place stands for itself alone. -/
def standsAlone : List Char → Bool
  | [] => true
  | c :: _ => isGap c || isMark c

/-- The characters of a text without quotes. -/
def plainChars : List Char → List Char
  | [] => []
  | ':' :: rest => if standsAlone rest then [] else ':' :: plainChars rest
  | c :: '#' :: rest => if isGap c || isMark c then [] else c :: '#' :: plainChars rest
  | c :: rest => if isMark c then [] else c :: plainChars rest

/-- A text with line breaks folded. -/
def unfold (cs : List Char) : String :=
  let lines := (pieces (· == '\n') cs).map stripped
  let step (acc : List Char × Nat) (line : List Char) : List Char × Nat :=
    if line.isEmpty then (acc.1, acc.2 + 1)
    else (acc.1 ++ folded acc.2 ++ line, 0)
  match lines with
  | [] => ""
  | first :: rest => String.ofList (rest.foldl step (first, 0)).1

/-- A text without quotes. -/
def plain (cs : List Char) : Option (String × List Char) :=
  match cs with
  | c :: rest =>
    if isIndicator c || ((c == '-' || c == '?' || c == ':') && standsAlone rest) then none
    else
      let body := plainChars cs
      some (unfold body, cs.drop body.length)
  | [] => none

/-- A text, in quotes or not. -/
def scalar (cs : List Char) : Option (Node × List Char) :=
  match cs with
  | '"' :: rest => (quoted rest.length '"' [] rest).map fun (s, rest) => (.quoted s, rest)
  | '\'' :: rest => (quoted rest.length '\'' [] rest).map fun (s, rest) => (.quoted s, rest)
  | '*' :: rest =>
    let name := rest.takeWhile isNameChar
    if name.isEmpty then none else some (.reference (String.ofList name), rest.drop name.length)
  | cs => (plain cs).map fun (s, rest) => (.plain s, rest)

/-! ## Nodes -/

/-- Whether a text starts with the end of an entry. -/
def endsEntry : List Char → Bool
  | c :: _ => c == ',' || c == ']' || c == '}'
  | [] => true

mutual

/-- One node, in at most `fuel` nested steps. -/
def node : (fuel : Nat) → List Char → Option (Node × List Char)
  | 0, _ => none
  | fuel + 1, cs =>
    let (p, cs) := properties (skipGaps cs)
    match skipGaps cs with
    | '[' :: rest => (items fuel [] rest).map fun (n, rest) => (p.on n, rest)
    | '{' :: rest => (fields fuel [] rest).map fun (n, rest) => (p.on n, rest)
    | cs =>
      if endsEntry cs && !p.isNone then some (p.on .empty, cs)
      else (scalar cs).map fun (n, rest) => (p.on n, rest)

/-- What follows a colon: a node, or nothing. -/
def entry : (fuel : Nat) → List Char → Option (Node × List Char)
  | 0, _ => none
  | fuel + 1, cs =>
    let cs := skipGaps cs
    if endsEntry cs then some (.empty, cs) else node fuel cs

/-- The items of a list up to its closing bracket. A name with a colon is a map of its own. -/
def items : (fuel : Nat) → List Node → List Char → Option (Node × List Char)
  | 0, _, _ => none
  | fuel + 1, acc, cs =>
    match skipGaps cs with
    | ']' :: rest => some (.list acc.reverse, rest)
    | cs => do
      let (n, rest) ← node fuel cs
      let (n, rest) ← match skipGaps rest with
        | ':' :: rest => do
          let (v, rest) ← entry fuel rest
          some (.map [(← n.key?, v)], rest)
        | rest => some (n, rest)
      match skipGaps rest with
      | ',' :: rest => items fuel (n :: acc) rest
      | ']' :: rest => some (.list (n :: acc).reverse, rest)
      | _ => none

/-- The fields of a map up to its closing brace. A name without a value has nothing; no name may stand
    twice. -/
def fields : (fuel : Nat) → List (String × Node) → List Char → Option (Node × List Char)
  | 0, _, _ => none
  | fuel + 1, acc, cs =>
    match skipGaps cs with
    | '}' :: rest => some (.map acc, rest)
    | cs => do
      let (n, rest) ← node fuel cs
      let name ← n.key?
      let (v, rest) ← match skipGaps rest with
        | ':' :: rest => entry fuel rest
        | rest => some (.empty, rest)
      if (acc.lookup name).isSome then none
      else
        let acc := acc ++ [(name, v)]
        match skipGaps rest with
        | ',' :: rest => fields fuel acc rest
        | '}' :: rest => some (.map acc, rest)
        | _ => none

end

end DiveSchool.Yaml.Flow
