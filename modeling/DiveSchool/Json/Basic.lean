import DiveSchool.Text.Reader
import DiveSchool.Number.Binary64

/-!
# `DiveSchool.Json.Basic` — JSON values

The fields of an object stay in the order in which they were written, repeated names included; what a
repeated name means is left to whoever reads the object.

## Contents
- **Values.** `Json` and `Json.Number`.
- **Views.** `field?`, `text?`, `int?`, `bool?`, `word?`: the value as something, if it is that.
- **Size.** `depth`, and `isModest` for what the reader of texts can hold.
-/

namespace DiveSchool

/-! ## Values -/

/-- A number as it was written: a whole number, or one with a fraction or an exponent (or a negative
    zero), as digits times a power of ten. -/
inductive Json.Number where
  | whole (value : Int)
  | real (negative : Bool) (digits : Nat) (power : Int)
  deriving DecidableEq, Repr, Inhabited

/-- A JSON value. -/
inductive Json where
  | null
  | bool (value : Bool)
  | number (value : Json.Number)
  | text (value : String)
  | array (items : List Json)
  | object (fields : List (String × Json))
  /-- A text whose escapes stand for no characters, or an object with such a name. It follows the
      grammar, and no reader of values takes it. -/
  | garbled
  deriving Repr, Inhabited

namespace Json

instance : Coe String Json := ⟨text⟩

instance : Coe Bool Json := ⟨bool⟩

/-- A whole number. -/
def int (i : Int) : Json := number (.whole i)

/-- A value that may be absent. -/
def ofOption {α : Type} (f : α → Json) : Option α → Json
  | some a => f a
  | none => null

/-! ## Views -/

/-- The first field of an object with a given name. -/
def field? (name : String) : Json → Option Json
  | object fields => fields.lookup name
  | _ => none

/-- The text of a text value. -/
def text? : Json → Option String
  | text s => some s
  | _ => none

/-- The whole number of a number value. -/
def int? : Json → Option Int
  | number (.whole i) => some i
  | _ => none

/-- The whole number of a number value, within the range of 32 bits. -/
def int32? (j : Json) : Option Int32 :=
  match j.int? with
  | some i => if -2147483648 ≤ i ∧ i ≤ 2147483647 then some (Int32.ofInt i) else none
  | none => none

/-- The natural number of a number value, up to a limit. -/
def nat? (limit : Nat) (j : Json) : Option Nat :=
  match j.int? with
  | some i => if 0 ≤ i ∧ i ≤ limit then some i.toNat else none
  | none => none

/-- The truth value of a truth value. -/
def bool? : Json → Option Bool
  | bool b => some b
  | _ => none

/-- The items of an array. -/
def items? : Json → Option (List Json)
  | array items => some items
  | _ => none

/-- The name of a choice: a text, or an object whose only field has the name and no content. -/
def word? : Json → Option String
  | text s => some s
  | object [(name, null)] => some name
  | _ => none

/-! ## Size -/

mutual

/-- How deep arrays and objects are nested. -/
def depth : Json → Nat
  | array items => depthList items + 1
  | object fields => depthFields fields + 1
  | _ => 0

/-- The greatest depth of some values. -/
def depthList : List Json → Nat
  | [] => 0
  | j :: rest => max j.depth (depthList rest)

/-- The greatest depth of the values of some fields. -/
def depthFields : List (String × Json) → Nat
  | [] => 0
  | (_, j) :: rest => max j.depth (depthFields rest)

end

/-- Whether a number lies in the range of 64-bit floating point. -/
def Number.isFinite : Number → Bool
  | whole i => match Binary64.ofDecimal false i.natAbs 0 with
    | .finite .. => true
    | _ => false
  | real _ digits power => match Binary64.ofDecimal false digits power with
    | .finite .. => true
    | _ => false

mutual

/-- Whether every number of a value is finite and every text readable. -/
def isSound : Json → Bool
  | number n => n.isFinite
  | array items => areSound items
  | object fields => haveSound fields
  | garbled => false
  | _ => true

/-- Whether some values are sound. -/
def areSound : List Json → Bool
  | [] => true
  | j :: rest => j.isSound && areSound rest

/-- Whether the values of some fields are sound. -/
def haveSound : List (String × Json) → Bool
  | [] => true
  | (_, j) :: rest => j.isSound && haveSound rest

end

/-- Whether the reader of texts can hold what stands there as a whole: nested less than 128 deep, with finite
    numbers and readable texts. It is a limit of that reader; a value that is held already has none. -/
def isModest (j : Json) : Bool := j.depth < 128 && j.isSound

end Json

end DiveSchool
