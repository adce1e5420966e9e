import DiveSchool.Yaml.Scalar

/-!
# `DiveSchool.Yaml.Node` — what is written in a YAML document

A node is written on its own, with a name, or as a reference to a node with a name. What it stands for is
settled in the order of the document, so that a name stands for the last node that was given it.

## Contents
- **Nodes.** `Node`, and the `Properties` in front of one.
- **Values.** `Node.value?`, what a node stands for.
-/

namespace DiveSchool.Yaml

open Text Settings

/-! ## Nodes -/

/-- A node of a document. -/
inductive Node where
  /-- A text without quotes. -/
  | plain (text : String)
  /-- A text in quotes, or a block of text. -/
  | quoted (text : String)
  /-- A text without quotes that has its type in front. -/
  | tagged (tag text : String)
  | list (items : List Node)
  | map (fields : List (String × Node))
  /-- A node that is given a name. -/
  | named (name : String) (node : Node)
  /-- The node with a name. -/
  | reference (name : String)
  deriving Repr, Inhabited

namespace Node

/-- The node where nothing is written. -/
def empty : Node := plain ""

/-- The name that a node stands for in front of a colon. -/
def key? : Node → Option String
  | plain s => keyText? s
  | quoted s => some s
  | tagged _ s => some s
  | named _ (plain s) => keyText? s
  | named _ (quoted s) => some s
  | _ => none

end Node

/-- What stands in front of a node: the name it is given, and its type. -/
structure Properties where
  name : Option String := none
  tag : Option String := none
  deriving DecidableEq, Repr, Inhabited

/-- Whether a character may stand in the name of a node. -/
def isNameChar (c : Char) : Bool :=
  !(isSpace c || c == '\n' || c == ',' || c == '[' || c == ']' || c == '{' || c == '}')

/-- One property at the start of a text that is not there yet. -/
def property? (p : Properties) (cs : List Char) : Option (Properties × List Char) :=
  match cs with
  | '&' :: rest =>
    let name := rest.takeWhile isNameChar
    if name.isEmpty || p.name.isSome then none
    else some ({ p with name := String.ofList name }, (rest.drop name.length).dropWhile isSpace)
  | '!' :: _ =>
    let tag := cs.takeWhile isNameChar
    if p.tag.isSome then none
    else some ({ p with tag := String.ofList tag }, (cs.drop tag.length).dropWhile isSpace)
  | _ => none

/-- The properties at the start of a text, and what follows them. -/
def properties (cs : List Char) : Properties × List Char :=
  match property? {} cs with
  | none => ({}, cs)
  | some (p, rest) => (property? p rest).getD (p, rest)

namespace Properties

/-- Whether there are none. -/
def isNone (p : Properties) : Bool := p.name.isNone && p.tag.isNone

/-- A node with its properties. -/
def on (p : Properties) (node : Node) : Node :=
  let node := match p.tag, node with
    | some tag, .plain s => .tagged tag s
    | _, node => node
  match p.name with
  | some name => .named name node
  | none => node

end Properties

/-! ## Values -/

/-- The values of nodes with names, the last first. -/
abbrev Names := List (String × Value)

mutual

/-- What a node stands for, given the names before it, and the names after it. -/
def Node.value? (names : Names) : Node → Option (Value × Names)
  | .plain s => (resolve? s).map (·, names)
  | .quoted s => some (.text s, names)
  | .tagged tag s => (tagged? tag s).map (·, names)
  | .list items => (itemValues names items).map fun (vs, names) => (.list vs, names)
  | .map fields => (fieldValues names fields).map fun (vs, names) => (.table vs, names)
  | .named name node => (node.value? names).map fun (v, names) => (v, (name, v) :: names)
  | .reference name => (names.lookup name).map (·, names)

/-- What the items of a list stand for. -/
def itemValues (names : Names) : List Node → Option (List Value × Names)
  | [] => some ([], names)
  | node :: rest =>
    match node.value? names with
    | none => none
    | some (v, names) => (itemValues names rest).map fun (vs, names) => (v :: vs, names)

/-- What the fields of a map stand for. -/
def fieldValues (names : Names) : List (String × Node) → Option (List (String × Value) × Names)
  | [] => some ([], names)
  | (key, node) :: rest =>
    match node.value? names with
    | none => none
    | some (v, names) => (fieldValues names rest).map fun (vs, names) => ((key, v) :: vs, names)

end

end DiveSchool.Yaml
