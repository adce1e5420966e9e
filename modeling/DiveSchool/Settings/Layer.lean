import DiveSchool.Settings.Value

/-!
# `DiveSchool.Settings.Layer` — settings from several sources

Each source is a layer: a list of keys with values. Later layers override earlier ones setting by
setting, so that a layer leaves alone what it does not mention.

## Contents
- **Keys.** `keyPath`, the path of names and indexes that a key stands for.
- **Layers.** `Layer`, `Layer.over` and `stack`.
- **Variables.** `variableName` of a setting, and `ofVariables`, the layer of the environment.
-/

namespace DiveSchool.Settings

open Text

/-! ## Keys -/

/-- A name at the start of a key. -/
def keyName? (cs : List Char) : Option (String × List Char) :=
  let name := cs.takeWhile isBare
  if name.isEmpty then none else some (String.ofList name, cs.drop name.length)

/-- An index after its opening bracket, up to and with the closing one. -/
def keyIndex? (cs : List Char) : Option (Int × List Char) := do
  let cs := cs.dropWhile isSpace
  let negative := cs.head? == some '-'
  let cs := if negative then cs.drop 1 else cs
  let ds := cs.takeWhile isDigit
  let n : Int := digitsValue ds
  let i := if negative then -n else n
  match (cs.drop ds.length).dropWhile isSpace with
  | ']' :: rest => if ds.isEmpty || (whole? i).isNone then none else some (i, rest)
  | _ => none

/-- The steps after the first name of a key, in at most `fuel` steps: names after dots, and indexes in
    brackets. -/
def keySteps? : (fuel : Nat) → List Char → Option (List Step)
  | _, [] => some []
  | 0, _ => none
  | fuel + 1, '.' :: rest => do
    let (name, rest) ← keyName? rest
    return .name name :: (← keySteps? fuel rest)
  | fuel + 1, '[' :: rest => do
    let (i, rest) ← keyIndex? rest
    return .index i :: (← keySteps? fuel rest)
  | _, _ => none

/-- The path that a key spells, if it spells one. -/
def keyPath? (cs : List Char) : Option (List Step) := do
  let (name, rest) ← keyName? cs
  return .name name :: (← keySteps? rest.length rest)

/-- The path that a key stands for; a key that spells no path is a name as it is. -/
def keyPath (key : String) : List Step := (keyPath? key.toList).getD [.name key]

/-! ## Layers -/

/-- Keys with their values. -/
abbrev Layer := List (String × Value)

/-- A layer over the settings below it. -/
def Layer.over (layer : Layer) (base : Value) : Value :=
  layer.foldl (fun acc entry => Value.put entry.2 (keyPath entry.1) acc) base

/-- Layers on top of each other, the lowest first. -/
def stack (layers : List Layer) : Value := layers.foldl (fun acc layer => layer.over acc) (.table [])

/-! ## Variables -/

/-- What the name of a variable starts with if it is a setting, in lower case. -/
def variableLead : List Char := "oceandive__".toList

/-- What separates the names of sections in the name of a variable. -/
def variableSeparator : List Char := "__".toList

/-- A text with every occurrence of a separator made a dot. -/
def dotted (fuel : Nat) (cs : List Char) : List Char :=
  match fuel with
  | 0 => cs
  | fuel + 1 =>
    match splitOnce variableSeparator cs with
    | some (before, after) => before ++ '.' :: dotted fuel after
    | none => cs

/-- The key that a variable sets, if it sets one. -/
def variableKey? (name : String) : Option String :=
  (dropLead? variableLead (lowerList name.toList)).map fun rest =>
    String.ofList (dotted rest.length rest)

/-- The value of a variable: a truth value, a whole number, a number, or the text itself. -/
def variableValue (text : String) : Value :=
  match toLower text with
  | "true" => .truth true
  | "false" => .truth false
  | _ =>
    match (intOfList? text.toList).bind whole? with
    | some v => v
    | none =>
      match Binary64.parse? text.toList with
      | some x => .real x
      | none => .text text

/-- The path of every setting. -/
def paths : List (List String) :=
  [["database", "url"], ["database", "max_connections"], ["database", "min_connections"],
   ["database", "connect_timeout_seconds"], ["database", "idle_timeout_seconds"],
   ["booking", "store"], ["booking", "eligibility_strategy"], ["booking", "lock_timeout_ms"],
   ["booking", "reference", "unique"], ["booking", "reference", "max_attempts"],
   ["logging", "level"], ["logging", "format"]]

/-- The variable that sets the setting at a path, as it is usually written. -/
def variableName (path : List String) : String :=
  toUpper (String.ofList variableLead ++ (String.ofList variableSeparator).intercalate path)

/-- The layer of the variables of an environment. -/
def ofVariables (vars : List (String × String)) : Layer :=
  vars.filterMap fun (name, text) =>
    (variableKey? name).map fun key => (key, variableValue text)

end DiveSchool.Settings
