import DiveSchool.Settings.Schema
import DiveSchool.Text.Casing

/-!
# `DiveSchool.Settings.Value` — what a source of settings holds

Every source of settings, whatever it is written in, comes down to values of one type. Texts, numbers
and truth values stand for one another where a setting asks for one of them.

## Contents
- **Values.** `Value`, its fields and its items.
- **Overlay.** `overlay` merges tables and replaces everything else; `put` does so at the end of a path
  of `Step`s.
- **Coercions.** `Value.reading`: how the sections of the settings take values.
-/

namespace DiveSchool.Settings

/-! ## Values -/

/-- A value in a source of settings. -/
inductive Value where
  | nothing
  | truth (value : Bool)
  | whole (value : Int)
  | real (value : Binary64)
  | text (value : String)
  | list (items : List Value)
  | table (fields : List (String × Value))
  deriving Repr, Inhabited

/-- One step into a value. -/
inductive Step where
  /-- To the field of a table with a name. -/
  | name (name : String)
  /-- To an item of a list; a negative number counts from the end. -/
  | index (index : Int)
  deriving DecidableEq, Repr, Inhabited

namespace Value

/-- The fields of a table; any other value has none. -/
def fieldList : Value → List (String × Value)
  | table fields => fields
  | _ => []

/-- The items of a list; any other value has none. -/
def itemList : Value → List Value
  | list items => items
  | _ => []

/-- The field of a value with a name. -/
def field? (name : String) (v : Value) : Option Value := v.fieldList.lookup name

/-! ## Overlay -/

/-- Put a value under a name, in place of the old one or as the last. -/
def setField (name : String) (v : Value) : List (String × Value) → List (String × Value)
  | [] => [(name, v)]
  | (other, old) :: rest =>
    if other = name then (name, v) :: rest else (other, old) :: setField name v rest

/-- Change the item with a number. Items that are missing in front of it are added as nothing. -/
def changeItem (change : Value → Value) : Nat → List Value → List Value
  | 0, [] => [change nothing]
  | 0, item :: rest => change item :: rest
  | n + 1, [] => nothing :: changeItem change n []
  | n + 1, item :: rest => item :: changeItem change n rest

/-- Change the item at an index. An index before the first item adds items at the front. -/
def changeAt (change : Value → Value) (index : Int) (items : List Value) : List Value :=
  if 0 ≤ index then changeItem change index.toNat items
  else
    let back := index.natAbs
    if back ≤ items.length then changeItem change (items.length - back) items
    else changeItem change 0 (List.replicate (back - items.length) nothing ++ items)

mutual

/-- A value laid over another: tables are merged name by name, anything else replaces. -/
def overlay (base : Value) : Value → Value
  | table fields => table (overlayFields base.fieldList fields)
  | v => v

/-- Fields laid over the fields of a table. -/
def overlayFields (base : List (String × Value)) : List (String × Value) → List (String × Value)
  | [] => base
  | (name, v) :: rest =>
    overlayFields (setField name (overlay ((base.lookup name).getD nothing) v) base) rest

end

/-- Lay a value over what stands at the end of a path. Whatever on the way is not what a step goes into
    becomes an empty table or list. -/
def put (v : Value) : List Step → Value → Value
  | [], base => base.overlay v
  | .name name :: path, base =>
    table (setField name (put v path ((base.field? name).getD nothing)) base.fieldList)
  | .index index :: path, base => list (changeAt (put v path) index base.itemList)

/-! ## Coercions -/

/-- The words for one and for zero. -/
def wordTruth? (text : String) : Option Bool :=
  match Text.toLower text with
  | "true" | "on" | "yes" => some true
  | "false" | "off" | "no" => some false
  | _ => none

/-- A value as a whole number from zero to a limit. -/
def nat? (limit : Nat) (v : Value) : Option Nat :=
  let within (n : Nat) : Option Nat := if n ≤ limit then some n else none
  match v with
  | whole i => if 0 ≤ i then within i.toNat else none
  | truth b => within b.toNat
  | real x => within (x.toNatSaturating 18446744073709551615)
  | text s =>
    match wordTruth? s with
    | some b => within b.toNat
    | none => (Text.natOfList? s.toList).bind within
  | _ => none

/-- A value as a truth value. -/
def truth? : Value → Option Bool
  | truth b => some b
  | whole i => some (i != 0)
  | real x => some x.isNonZero
  | text "1" => some true
  | text "0" => some false
  | text s => wordTruth? s
  | _ => none

/-- A value as a text. -/
def text? : Value → Option String
  | text s => some s
  | truth b => some (if b then "true" else "false")
  | whole i => some (toString i)
  | real x => some x.shortest
  | _ => none

/-- The name of a choice: a text, or the only name in a table. -/
def word? : Value → Option String
  | text s => some s
  | table [(name, _)] => some name
  | _ => none

/-- The slots of the fields of a record. A list may be longer than the record. -/
def slots? (names : List String) : Value → Option (List (Slot Value))
  | table fields => some (names.map fun n => match fields.lookup n with
    | some v => .given v
    | none => .missing)
  | list items => some (Slot.ofItems names.length items)
  | _ => none

/-- How values are taken as settings. -/
def reading : Reading Value where
  slots := slots?
  text := text?
  word := word?
  truth := truth?
  nat := nat?

end Value

/-! ## Whole numbers -/

/-- The least whole number of 64 bits. -/
def leastWhole : Int := -9223372036854775808

/-- The greatest whole number of 64 bits. -/
def greatestWhole : Int := 9223372036854775807

/-- A whole number, if it fits into 64 bits. -/
def whole? (i : Int) : Option Value :=
  if leastWhole ≤ i ∧ i ≤ greatestWhole then some (.whole i) else none

end DiveSchool.Settings
