import DiveSchool.Settings.Value

/-!
# `DiveSchool.Toml.Tree` — a document while it is read

Tables come into being in three ways: by a header of their own, on the way to another header, or by a
dotted key. How they did decides what may still be added to them: a header opens a table only once and
not after a dotted key wrote into it, and a dotted key writes into no table with a header. A value that
was written out, an inline table included, can never be added to.

## Contents
- **Trees.** `Made`, `Node` and `Node.toValue`.
- **Changes.** `changeAt` a path, making the tables on the way.
- **Statements.** `openTable`, `openTables`, `assignIn`, `assign`.
-/

namespace DiveSchool.Toml

open Settings

/-! ## Trees -/

/-- How a table came into being. -/
inductive Made where
  /-- On the way to another table. -/
  | implied
  /-- By a dotted key. -/
  | dotted
  /-- By a header, or as the document itself. -/
  | headed
  deriving DecidableEq, Repr, Inhabited

/-- A part of a document while it is read. -/
inductive Node where
  /-- A value that was written out. -/
  | leaf (value : Value)
  /-- A table. -/
  | branch (made : Made) (children : List (String × Node))
  /-- The tables under a repeated header. -/
  | branches (tables : List (List (String × Node)))

/-- The names of a table and what they stand for. -/
abbrev Children := List (String × Node)

mutual

/-- A node as a value. -/
def Node.toValue : Node → Value
  | .leaf value => value
  | .branch _ children => .table (fieldsOf children)
  | .branches tables => .list (tablesOf tables)

/-- The fields of a table. -/
def fieldsOf : List (String × Node) → List (String × Value)
  | [] => []
  | (name, node) :: rest => (name, node.toValue) :: fieldsOf rest

/-- Each table as a value. -/
def tablesOf : List (List (String × Node)) → List Value
  | [] => []
  | children :: rest => .table (fieldsOf children) :: tablesOf rest

end

/-! ## Changes -/

/-- Put a node under a name, in place of the old one or as the last. -/
def put (name : String) (node : Node) : Children → Children
  | [] => [(name, node)]
  | (other, old) :: rest =>
    if other = name then (name, node) :: rest else (other, old) :: put name node rest

/-- Change the table at the end of a path. A missing table on the way is made as `way` says; a dotted key
    does not lead through a table that has a header; of repeated tables the last one is meant. -/
def changeAt (way : Made) (act : Made → Children → Option (Made × Children)) :
    List String → Made → Children → Option (Made × Children)
  | [], made, children => act made children
  | name :: path, made, children =>
    match children.lookup name with
    | none => do
      let (inside, inner) ← changeAt way act path way []
      return (made, put name (.branch inside inner) children)
    | some (.leaf _) => none
    | some (.branch inside inner) =>
      if way = .dotted ∧ inside = .headed then none
      else do
        let (inside, inner) ← changeAt way act path inside inner
        return (made, put name (.branch inside inner) children)
    | some (.branches tables) => do
      let last ← tables.getLast?
      let (_, inner) ← changeAt way act path .headed last
      return (made, put name (.branches (tables.dropLast ++ [inner])) children)

/-! ## Statements -/

/-- A path with its last name apart. -/
def splitPath (path : List String) : Option (List String × String) :=
  path.getLast?.map fun last => (path.dropLast, last)

/-- Change the table that a header stands in, given the name at the end of the header. -/
def openWith (act : String → Children → Option Children) (path : List String) (root : Children) :
    Option Children := do
  let (way, name) ← splitPath path
  let (_, root) ← changeAt .implied (fun made children => (act name children).map (made, ·)) way
    .headed root
  return root

/-- The header of a table, which must not have been defined before. -/
def openTable : List String → Children → Option Children := openWith fun name children =>
  match children.lookup name with
  | none => some (put name (.branch .headed []) children)
  | some (.branch .implied inner) => some (put name (.branch .headed inner) children)
  | some _ => none

/-- The header of one more table of a list of tables. -/
def openTables : List String → Children → Option Children := openWith fun name children =>
  match children.lookup name with
  | none => some (put name (.branches [[]]) children)
  | some (.branches tables) => some (put name (.branches (tables ++ [[]])) children)
  | some _ => none

/-- Give a value to a key in a table. A dotted key writes into no table that has a header, and no header
    can open the table it has written into. -/
def assignIn (key : List String) (value : Value) (made : Made) (children : Children) :
    Option (Made × Children) := do
  let (way, name) ← splitPath key
  changeAt .dotted (fun made children =>
    if !way.isEmpty && made == .headed then none
    else match children.lookup name with
      | none => some (if way.isEmpty then made else .dotted, put name (.leaf value) children)
      | some _ => none) way made children

/-- Give a value to a key in the table under a header. -/
def assign (header key : List String) (value : Value) (root : Children) : Option Children :=
  (changeAt .implied (assignIn key value) header .headed root).map Prod.snd

end DiveSchool.Toml
