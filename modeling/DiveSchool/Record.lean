/-!
# `DiveSchool.Record` — reading records field by field

A record is written as an object, its fields by name and in any order, or as a list of its fields in
their order. Either way each field of the record finds a `Slot`, and a rule per field says what the slot
must hold.

## Contents
- **Slots.** `Slot`, `ofFields?` for objects, `ofItems` for lists.
- **Rules.** `Slot.required`, `Slot.optional`, `Slot.withDefault`.
-/

namespace DiveSchool

/-! ## Slots -/

/-- What was written for one field of a record. -/
inductive Slot (ν : Type) where
  /-- A value. -/
  | given (value : ν)
  /-- No field has the name. -/
  | missing
  /-- The list ends before the field. -/
  | beyond
  deriving Repr, Inhabited

namespace Slot

variable {ν α : Type}

/-- Whether some name occurs twice among the fields. -/
def repeats (names : List String) (fields : List (String × ν)) : Bool :=
  names.any fun n => 1 < fields.countP (·.1 == n)

/-- The slots of the named fields of an object. Other fields are ignored; a repeated one spoils all. -/
def ofFields? (names : List String) (fields : List (String × ν)) : Option (List (Slot ν)) :=
  if repeats names fields then none
  else some (names.map fun n => match fields.lookup n with
    | some v => given v
    | none => missing)

/-- The slots of fields written as a list, for `count` fields. -/
def ofItems (count : Nat) (items : List ν) : List (Slot ν) :=
  (List.range count).map fun i => match items[i]? with
    | some v => given v
    | none => beyond

/-! ## Rules -/

/-- The field must be there. -/
def required (read : ν → Option α) : Slot ν → Option α
  | given v => read v
  | missing | beyond => none

/-- The field may be missing from an object, and its value may be empty. -/
def optional (isEmpty : ν → Bool) (read : ν → Option α) : Slot ν → Option (Option α)
  | given v => if isEmpty v then some none else (read v).map some
  | missing => some none
  | beyond => none

/-- The field may be missing; then it has a default. -/
def withDefault (default : α) (read : ν → Option α) : Slot ν → Option α
  | given v => read v
  | missing | beyond => some default

end Slot

end DiveSchool
