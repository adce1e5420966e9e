import DiveSchool.Yaml.Flow

/-!
# `DiveSchool.Yaml.Reader` — from text to the value of a YAML document

A document is read line by line; how far a line is indented says what it belongs to.

## Contents
- **Lines.** `Lines`, `indent`, `skipEmpty`.
- **Texts.** `plain` and `blockText` over several lines; `key?` at the start of a line.
- **Blocks.** `block`, `sequence`, `mapping` with a bound on the number of steps.
- **Documents.** `Yaml.parse?`.
-/

namespace DiveSchool.Yaml

open Text Settings

/-! ## Lines -/

/-- Lines without their breaks. -/
abbrev Lines := List (List Char)

/-- The number of blanks at the start of a line. -/
def indent (line : List Char) : Nat := (line.takeWhile (· == ' ')).length

/-- A line without its indentation. -/
def body (line : List Char) : List Char := line.drop (indent line)

/-- Whether nothing but blanks stands on a line. -/
def isBlankLine (line : List Char) : Bool := line.all isSpace

/-- Whether a text holds nothing but blanks and a comment. -/
def isEmptyRest (cs : List Char) : Bool :=
  match cs.dropWhile isSpace with
  | [] => true
  | '#' :: _ => true
  | _ => false

/-- Whether a text after the end of a value holds nothing but a comment, set off by a blank. -/
def isClosed (cs : List Char) : Bool := isEmptyRest cs && cs.head? != some '#'

/-- The lines from the first one with something on it. -/
def skipEmpty (lines : Lines) : Lines := lines.dropWhile isEmptyRest

/-- Whether a line is the mark that starts a document, or the one that ends it. -/
def isMarker (mark line : List Char) : Bool :=
  match dropLead? mark line with
  | some rest => rest.isEmpty || rest.head?.any isSpace
  | none => false

/-- The mark that starts a document. -/
def startMark : List Char := ['-', '-', '-']

/-- The mark that ends a document. -/
def endMark : List Char := ['.', '.', '.']

/-! ## Texts -/

/-- Whether a text starts an item of a sequence. -/
def isItem (cs : List Char) : Bool :=
  match cs with
  | ['-'] => true
  | '-' :: c :: _ => isSpace c
  | _ => false

/-- The characters of a line up to a comment, and whether there is a comment. -/
def cutComment : List Char → List Char × Bool
  | [] => ([], false)
  | c :: '#' :: rest =>
    if isSpace c then ([], true)
    else
      let (cs, cut) := cutComment rest
      (c :: '#' :: cs, cut)
  | c :: rest =>
    let (cs, cut) := cutComment rest
    (c :: cs, cut)

/-- The characters in front of a colon that ends a name, and what follows it. -/
def cutName : List Char → Option (List Char × List Char)
  | [] => none
  | ':' :: rest =>
    if rest.isEmpty || rest.head?.any isSpace then some ([], rest)
    else (cutName rest).map fun (name, rest) => (':' :: name, rest)
  | c :: rest =>
    if isSpace c && rest.head? == some '#' then none
    else (cutName rest).map fun (name, rest) => (c :: name, rest)

/-- Whether a text without quotes may start here. -/
def startsPlain (cs : List Char) : Bool :=
  match cs with
  | [] => false
  | c :: rest =>
    if c == '-' || c == '?' || c == ':' then !(rest.isEmpty || rest.head?.any isSpace)
    else !Flow.isIndicator c

/-- A name with a colon at the start of a text, and what follows the colon. -/
def key? (cs : List Char) : Option (String × List Char) :=
  let afterQuotes (quote : Char) (rest : List Char) : Option (String × List Char) := do
    let (name, rest) ← quoted rest.length quote [] rest
    match rest.dropWhile isSpace with
    | ':' :: rest => if rest.isEmpty || rest.head?.any isSpace then some (name, rest) else none
    | _ => none
  match (properties cs).2 with
  | '"' :: rest => afterQuotes '"' rest
  | '\'' :: rest => afterQuotes '\'' rest
  | cs =>
    if !startsPlain cs then none
    else do
      let (name, rest) ← cutName cs
      return (← keyText? (String.ofList (stripped name)), rest)

/-- The rest of a text without quotes on further lines that are indented at least so far. `gaps` empty
    lines stand in front. -/
def plainMore (least gaps : Nat) (acc : List Char) : Lines → Option (List Char × Lines)
  | [] => some (acc, [])
  | line :: rest =>
    if isBlankLine line then plainMore least (gaps + 1) acc rest
    else if indent line < least || (body line).head? == some '#' ||
        isMarker startMark line || isMarker endMark line then some (acc, line :: rest)
    else
      let (cs, cut) := cutComment (body line)
      if (cutName cs).isSome then none
      else
        let acc := acc ++ folded gaps ++ stripped cs
        if cut then some (acc, rest) else plainMore least 0 acc rest

/-- A text without quotes that starts on a line. -/
def plain (least : Nat) (cs : List Char) (rest : Lines) : Option (String × Lines) := do
  let (first, cut) := cutComment cs
  if !startsPlain cs || (cutName first).isSome then none
  else
    let (all, rest) ← if cut then some (stripped first, rest)
      else plainMore least 0 (stripped first) rest
    return (String.ofList all, rest)

/-- How many line breaks at the end of a block of text are kept. -/
inductive Chomping where
  | strip
  | clip
  | keep
  deriving DecidableEq, Repr

/-- What stands behind the mark of a block of text: its indentation, if it is given, and its end. -/
def blockHeader? : (fuel : Nat) → Option Nat → Chomping → List Char → Option (Option Nat × Chomping)
  | fuel + 1, depth, chomping, c :: rest =>
    if c == '+' then blockHeader? fuel depth .keep rest
    else if c == '-' then blockHeader? fuel depth .strip rest
    else if '1' ≤ c && c ≤ '9' then blockHeader? fuel (some (digitsValue [c])) chomping rest
    else if isClosed (c :: rest) then some (depth, chomping)
    else none
  | _, depth, chomping, cs => if isClosed cs then some (depth, chomping) else none

/-- The lines of a block of text, which are empty or indented at least so far. -/
def blockLines (depth : Nat) : Lines → Lines × Lines
  | [] => ([], [])
  | line :: rest =>
    if line.all (· == ' ') || depth ≤ indent line then
      let (inside, rest) := blockLines depth rest
      (line.drop depth :: inside, rest)
    else ([], line :: rest)

/-- Lines joined with breaks kept. -/
def joinKept (lines : Lines) : List Char := ['\n'].intercalate lines

/-- Whether a line of a folded block keeps the breaks around it. -/
def isSetOff (line : List Char) : Bool := line.head?.any isSpace

/-- Lines joined with single breaks folded, after a line that ends without one. -/
def joinFolded (before : List Char) (gaps : Nat) : Lines → List Char
  | [] => List.replicate gaps '\n'
  | line :: rest =>
    if line.isEmpty then joinFolded before (gaps + 1) rest
    else
      let gap := if before.isEmpty then List.replicate gaps '\n'
        else if isSetOff before || isSetOff line then List.replicate (gaps + 1) '\n'
        else folded gaps
      gap ++ line ++ joinFolded line 0 rest

/-- A block of text after its mark. -/
def blockText (isFolded : Bool) (least : Nat) (header : List Char) (rest : Lines) :
    Option (String × Lines) := do
  let (depth, chomping) ← blockHeader? header.length none .clip header
  let depth := match depth with
    | some n => least - 1 + n
    | none => max least ((rest.find? fun l => !l.all (· == ' ')).map indent |>.getD least)
  let (lines, rest) := blockLines depth rest
  let kept := (lines.reverse.dropWhile List.isEmpty).reverse
  let text := if isFolded then joinFolded [] 0 kept else joinKept kept
  let ending := match chomping with
    | .strip => []
    | .clip => if kept.isEmpty then [] else ['\n']
    | .keep => List.replicate (lines.length - kept.length + (if kept.isEmpty then 0 else 1)) '\n'
  return (String.ofList (text ++ ending), rest)

/-- The lines that are left after a text that starts on a line and ended within the lines after it. Those
    it took must be indented at least so far. -/
def linesAfter (least : Nat) (rest : Lines) (after : List Char) : Option Lines :=
  match pieces (· == '\n') after with
  | [] => none
  | first :: left =>
    let taken := rest.take (rest.length - left.length)
    if isClosed first && taken.all fun l => isEmptyRest l || least ≤ indent l then some left
    else none

/-- A node that starts on a line and is neither a sequence nor a mapping by indentation. -/
def inline (least : Nat) (cs : List Char) (rest : Lines) : Option (Node × Lines) :=
  let all := ['\n'].intercalate (cs :: rest)
  match cs with
  | '|' :: header => (blockText false least header rest).map fun (s, rest) => (.quoted s, rest)
  | '>' :: header => (blockText true least header rest).map fun (s, rest) => (.quoted s, rest)
  | '[' :: _ | '{' :: _ => do
    let (n, after) ← Flow.node (2 * all.length + 2) all
    return (n, ← linesAfter least rest after)
  | '"' :: _ | '\'' :: _ | '*' :: _ => do
    let (n, after) ← Flow.scalar all
    return (n, ← linesAfter least rest after)
  | cs => (plain least cs rest).map fun (s, rest) => (.plain s, rest)

/-! ## Blocks -/

mutual

/-- The node on lines that are indented at least so far, an empty one if there are none. -/
def block : (fuel least : Nat) → Lines → Option (Node × Lines)
  | 0, _, _ => none
  | fuel + 1, least, lines =>
    match skipEmpty lines with
    | [] => some (.empty, [])
    | line :: rest =>
      let here := indent line
      let cs := body line
      if here < least || isMarker startMark line || isMarker endMark line then
        some (.empty, line :: rest)
      else if cs.head? == some '\t' then none
      else if isItem cs then sequence fuel here [] (line :: rest)
      else if (key? cs).isSome then mapping fuel here [] (line :: rest)
      else
        let (p, cs) := properties cs
        let found := if isEmptyRest cs then block fuel least rest else inline least cs rest
        found.map fun (n, rest) => (p.on n, rest)

/-- The items of a sequence whose dashes stand at a column. -/
def sequence : (fuel column : Nat) → List Node → Lines → Option (Node × Lines)
  | 0, _, _, _ => none
  | fuel + 1, column, acc, lines =>
    match skipEmpty lines with
    | [] => some (.list acc.reverse, [])
    | line :: rest =>
      if column < indent line then none
      else if indent line < column || !isItem (body line) then
        some (.list acc.reverse, line :: rest)
      else do
        let after := (body line).drop 1
        let text := after.dropWhile isSpace
        let lines := if isEmptyRest after then rest
          else (List.replicate (column + 1 + after.length - text.length) ' ' ++ text) :: rest
        let (n, rest) ← block fuel (column + 1) lines
        sequence fuel column (n :: acc) rest

/-- What follows the colon of a name at a column. A sequence below it may stand at the same column. -/
def field : (fuel column : Nat) → List Char → Lines → Option (Node × Lines)
  | 0, _, _, _ => none
  | fuel + 1, column, after, rest =>
    let (p, cs) := properties (after.dropWhile isSpace)
    let found :=
      if !isEmptyRest cs then inline (column + 1) cs rest
      else match skipEmpty rest with
        | next :: _ =>
          if indent next = column && isItem (body next) then sequence fuel column [] rest
          else block fuel (column + 1) rest
        | [] => some (.empty, [])
    found.map fun (n, rest) => (p.on n, rest)

/-- The fields of a mapping whose names stand at a column. No name may stand twice. -/
def mapping : (fuel column : Nat) → List (String × Node) → Lines → Option (Node × Lines)
  | 0, _, _, _ => none
  | fuel + 1, column, acc, lines =>
    match skipEmpty lines with
    | [] => some (.map acc, [])
    | line :: rest =>
      if column < indent line then none
      else if indent line < column || isMarker startMark line || isMarker endMark line then
        some (.map acc, line :: rest)
      else if (body line).head? == some '\t' then none
      else match key? (body line) with
        | none => none
        | some (name, after) => do
          let (n, rest) ← field fuel column after rest
          if (acc.lookup name).isSome then none
          else mapping fuel column (acc ++ [(name, n)]) rest

end

/-! ## Documents -/

/-- The lines of a text; a break at its end starts no line. -/
def linesOf (s : String) : Lines :=
  let lines := pieces (· == '\n') s.toList
  let lines := if lines.getLast? == some [] then lines.dropLast else lines
  lines.map fun line => if line.getLast? == some '\r' then line.dropLast else line

/-- The value that a text holds: one document, or an empty table if there is none. -/
def parse? (s : String) : Option Value :=
  let lines := skipEmpty ((linesOf s).dropWhile fun l => isEmptyRest l || l.head? == some '%')
  let fuel := 3 * s.length + 6
  let finish (n : Node) (rest : Lines) : Option Value :=
    let value := (n.value? []).map Prod.fst
    match skipEmpty rest with
    | [] => value
    | line :: rest =>
      if isMarker endMark line && (skipEmpty rest).isEmpty then value else none
  match lines with
  | [] => some (.table [])
  | line :: rest => do
    let lines := if isMarker startMark line then line.drop 3 :: rest else line :: rest
    let (n, rest) ← block fuel 0 lines
    finish n rest

end DiveSchool.Yaml
