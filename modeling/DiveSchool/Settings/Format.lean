import DiveSchool.Toml.Reader
import DiveSchool.Yaml.Reader
import DiveSchool.Ini
import DiveSchool.Ron
import DiveSchool.Json.Relaxed
import DiveSchool.Settings.Layer

/-!
# `DiveSchool.Settings.Format` — what a file of settings may be written in

The ending of a file's name says what it is written in. Whatever that is, the file must hold a table of
settings.

## Contents
- **JSON.** `Value.ofJson`.
- **Formats.** `Format`, `Format.endings`, and `Format.read?`, the layer in a text.
-/

namespace DiveSchool.Settings

/-! ## JSON -/

/-- A number as a value: whole if it fits into 64 bits. -/
def Value.ofNumber : Json.Number → Value
  | .whole i => (whole? i).getD (.real (Binary64.ofDecimal (i < 0) i.natAbs 0))
  | .real negative digits power => .real (Binary64.ofDecimal negative digits power)

namespace Value

mutual

/-- A JSON value as a value of settings. Of fields with one name the last counts. -/
def ofJson : Json → Value
  | .null | .garbled => nothing
  | .bool b => truth b
  | .number n => ofNumber n
  | .text s => text s
  | .array items => list (ofItems items)
  | .object fields => table (ofFields [] fields)

/-- The items of a JSON array. -/
def ofItems : List Json → List Value
  | [] => []
  | j :: rest => ofJson j :: ofItems rest

/-- The fields of a JSON object, after those that were read before. -/
def ofFields (acc : List (String × Value)) : List (String × Json) → List (String × Value)
  | [] => acc
  | (name, j) :: rest => ofFields (setField name (ofJson j) acc) rest

end

/-- The fields of a value, if it is a table. -/
def asLayer? : Value → Option Layer
  | table fields => some fields
  | _ => none

end Value

/-! ## Formats -/

/-- What a file is written in. -/
inductive Format where
  | toml
  | json
  | yaml
  | ini
  | ron
  | json5
  deriving DecidableEq, Repr, Inhabited

namespace Format

/-- The endings of names and their formats, in the order in which files are looked for. -/
def endings : List (String × Format) :=
  [("toml", toml), ("json", json), ("yaml", yaml), ("yml", yaml), ("ini", ini), ("ron", ron),
   ("json5", json5)]

/-- The format that the last part of a name stands for. -/
def ofEnding? (ending : List Char) : Option Format := endings.lookup (String.ofList ending)

/-- The layer in a text, if the text is well formed and holds a table. -/
def read? (format : Format) (text : String) : Option Layer :=
  match format with
  | toml => Toml.parse? text
  | json => ((Json.parse? text).filter (·.isModest)).bind fun j => (Value.ofJson j).asLayer?
  | yaml => (Yaml.parse? text).bind Value.asLayer?
  | ini => Ini.parse? text
  | ron => (Ron.parse? text).bind Value.asLayer?
  | json5 => (Json.Relaxed.parse? text).bind Value.asLayer?

end Format

end DiveSchool.Settings
