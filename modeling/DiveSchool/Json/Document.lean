import DiveSchool.Json.Basic
import DiveSchool.Record
import DiveSchool.Offering.Proposal
import DiveSchool.Customer
import DiveSchool.Eligibility
import DiveSchool.Desk.Outcome

/-!
# `DiveSchool.Json.Document` — the school's records as JSON

Each record has one written form (`toJson`) and a tolerant reader (`ofJson?`): fields in any order,
unknown fields ignored, optional ones missing or null. No value is taken for one of another type.
The readers are those of texts; a customer, whose kind has to be found first, is also read from a value
that is held already (`Customer.ofValue?`).

## Contents
- **Words and scalars.** Levels, kinds, states, ids and moments.
- **Records.** Offerings, snapshots, bookings, customers, proposals, capacity changes, verdicts.
-/

namespace DiveSchool

namespace Json

/-! ## Words and scalars -/

/-- Whether a value is null. -/
def isNull : Json → Bool
  | null => true
  | _ => false

/-- The slots of the fields of a record, in the order of `names`. A list must not be longer than the
    record. -/
def slots? (names : List String) : Json → Option (List (Slot Json))
  | object fields => Slot.ofFields? names fields
  | array items => if items.length ≤ names.length then some (Slot.ofItems names.length items) else none
  | _ => none

/-- Read one of a set of named choices. -/
def choice? {α : Type} (ofName? : String → Option α) (j : Json) : Option α := j.word?.bind ofName?

/-- Read an id. -/
def uuid? (j : Json) : Option Uuid := j.text?.bind Uuid.parse?

/-- Read a moment. -/
def timestamp? (j : Json) : Option Timestamp := j.text?.bind Timestamp.parse?

/-- Read a level. -/
def level? : Json → Option Level := choice? Level.ofCanonicalName?

/-- A field that may be missing or null. -/
def optional? {α : Type} (read : Json → Option α) : Slot Json → Option (Option α) :=
  Slot.optional isNull read

/-- Write an id. -/
def ofUuid (u : Uuid) : Json := text u.toText

/-- Write a moment. -/
def ofTimestamp (t : Timestamp) : Json := text t.toText

/-- Write a 32-bit number. -/
def ofInt32 (i : Int32) : Json := int i.toInt

/-- Write a level, or null. -/
def ofLevel? (l : Option Level) : Json := ofOption (fun l => text l.canonicalName) l

end Json

open Json

/-! ## Records -/

namespace Offering

/-- The names of the fields of an offering. -/
def fieldNames : List String :=
  ["id", "kind", "name", "capacity", "current_bookings", "min_certification_required",
   "provided_certification", "status", "created_at", "updated_at"]

/-- Write an offering. -/
def toJson (o : Offering) : Json :=
  .object [("id", ofUuid o.id), ("kind", o.kind.name), ("name", o.name),
    ("capacity", ofInt32 o.capacity), ("current_bookings", ofInt32 o.bookings),
    ("min_certification_required", ofLevel? o.required),
    ("provided_certification", ofLevel? o.provided), ("status", o.status.name),
    ("created_at", ofTimestamp o.createdAt), ("updated_at", ofTimestamp o.updatedAt)]

/-- Read an offering. -/
def ofJson? (j : Json) : Option Offering := do
  match ← j.slots? fieldNames with
  | [id, kind, name, capacity, bookings, required, provided, status, createdAt, updatedAt] =>
    return {
      id := ← id.required uuid?
      kind := ← kind.required (choice? Kind.ofName?)
      name := ← name.required text?
      capacity := ← capacity.required int32?
      bookings := ← bookings.required int32?
      required := ← optional? level? required
      provided := ← optional? level? provided
      status := ← status.required (choice? Status.ofName?)
      createdAt := ← createdAt.required timestamp?
      updatedAt := ← updatedAt.required timestamp? }
  | _ => none

end Offering

namespace Snapshot

/-- The names of the fields of a snapshot. -/
def fieldNames : List String :=
  ["offering_id", "capacity", "current_bookings", "available_spots", "state"]

/-- Write a snapshot. -/
def toJson (s : Snapshot) : Json :=
  .object [("offering_id", ofUuid s.offeringId), ("capacity", ofInt32 s.capacity),
    ("current_bookings", ofInt32 s.bookings), ("available_spots", ofInt32 s.available),
    ("state", s.state.name)]

/-- Read a snapshot. -/
def ofJson? (j : Json) : Option Snapshot := do
  match ← j.slots? fieldNames with
  | [id, capacity, bookings, available, state] =>
    return {
      offeringId := ← id.required uuid?
      capacity := ← capacity.required int32?
      bookings := ← bookings.required int32?
      available := ← available.required int32?
      state := ← state.required (choice? CapacityState.ofName?) }
  | _ => none

end Snapshot

namespace Booking

/-- The names of the fields of a booking. -/
def fieldNames : List String := ["reference", "offering_id", "holder_name", "issued_at"]

/-- Write a booking. -/
def toJson (b : Booking) : Json :=
  .object [("reference", b.reference), ("offering_id", ofUuid b.offeringId),
    ("holder_name", b.holderName), ("issued_at", ofTimestamp b.issuedAt)]

/-- Read a booking. -/
def ofJson? (j : Json) : Option Booking := do
  match ← j.slots? fieldNames with
  | [reference, id, holder, issuedAt] =>
    return {
      reference := ← reference.required text?
      offeringId := ← id.required uuid?
      holderName := ← holder.required text?
      issuedAt := ← issuedAt.required timestamp? }
  | _ => none

end Booking

namespace Premium

/-- The names of the fields of a customer with an account. -/
def fieldNames : List String :=
  ["id", "username", "first_name", "last_name", "email", "certification", "created_at"]

/-- The fields of a customer with an account. -/
def toFields (p : Premium) : List (String × Json) :=
  [("id", ofUuid p.id), ("username", p.username), ("first_name", p.firstName),
    ("last_name", p.lastName), ("email", p.email), ("certification", ofLevel? p.level),
    ("created_at", ofTimestamp p.createdAt)]

/-- Read a customer with an account. -/
def ofJson? (j : Json) : Option Premium := do
  match ← j.slots? fieldNames with
  | [id, username, firstName, lastName, email, level, createdAt] =>
    return {
      id := ← id.required uuid?
      username := ← username.required text?
      firstName := ← firstName.required text?
      lastName := ← lastName.required text?
      email := ← email.required text?
      level := ← optional? level? level
      createdAt := ← createdAt.required timestamp? }
  | _ => none

end Premium

namespace Guest

/-- The names of the fields of a guest. -/
def fieldNames : List String := ["id", "first_name", "last_name", "email", "phone", "certification"]

/-- The fields of a guest. -/
def toFields (g : Guest) : List (String × Json) :=
  [("id", ofUuid g.id), ("first_name", g.firstName), ("last_name", g.lastName),
    ("email", g.email), ("phone", ofOption .text g.phone), ("certification", ofLevel? g.level)]

/-- Read a guest. -/
def ofJson? (j : Json) : Option Guest := do
  match ← j.slots? fieldNames with
  | [id, firstName, lastName, email, phone, level] =>
    return {
      id := ← id.required uuid?
      firstName := ← firstName.required text?
      lastName := ← lastName.required text?
      email := ← email.required text?
      phone := ← optional? text? phone
      level := ← optional? level? level }
  | _ => none

end Guest

namespace Customer

/-- The name of the field that tells the two kinds of customer apart. -/
def tagName : String := "kind"

/-- Write a customer: the kind first, then the record. -/
def toJson : Customer → Json
  | premium r => .object ((tagName, .text CustomerKind.premium.name) :: r.toFields)
  | guest r => .object ((tagName, .text CustomerKind.guest.name) :: r.toFields)

/-- The kind of a written customer and what is left of the value without it. -/
def splitTag? : Json → Option (CustomerKind × Json)
  | .object fields =>
    match fields.filter (·.1 == tagName) with
    | [(_, .text name)] =>
      (CustomerKind.ofName? name).map fun k => (k, .object (fields.filter (·.1 != tagName)))
    | _ => none
  | .array (.text name :: rest) => (CustomerKind.ofName? name).map fun k => (k, .array rest)
  | _ => none

/-- Read a customer from a value that is held. The kind may stand anywhere. -/
def ofValue? (j : Json) : Option Customer :=
  match splitTag? j with
  | some (.premium, rest) => (Premium.ofJson? rest).map premium
  | some (.guest, rest) => (Guest.ofJson? rest).map guest
  | none => none

/-- Read a customer from what stands in a text. To find the kind, the reader of texts first holds the whole
    value, so what it cannot hold is refused. The limit is that of this reader, not of customers. -/
def ofJson? (j : Json) : Option Customer := if !j.isModest then none else ofValue? j

end Customer

namespace Proposal

/-- The names of the fields of a proposal. -/
def fieldNames : List String :=
  ["kind", "name", "capacity", "min_certification_required", "provided_certification", "status"]

/-- Write a proposal. -/
def toJson (p : Proposal) : Json :=
  .object [("kind", p.kind.name), ("name", p.name), ("capacity", ofInt32 p.capacity),
    ("min_certification_required", ofLevel? p.required),
    ("provided_certification", ofLevel? p.provided), ("status", p.status.name)]

/-- Read a proposal; without a status it is to be published. -/
def ofJson? (j : Json) : Option Proposal := do
  match ← j.slots? fieldNames with
  | [kind, name, capacity, required, provided, status] =>
    return {
      kind := ← kind.required (choice? Kind.ofName?)
      name := ← name.required text?
      capacity := ← capacity.required int32?
      required := ← optional? level? required
      provided := ← optional? level? provided
      status := ← status.withDefault Status.published (choice? Status.ofName?) }
  | _ => none

end Proposal

namespace CapacityChange

/-- Write a capacity change. -/
def toJson (c : CapacityChange) : Json := .object [("capacity", ofInt32 c.capacity)]

/-- Read a capacity change. -/
def ofJson? (j : Json) : Option CapacityChange := do
  match ← j.slots? ["capacity"] with
  | [capacity] => return { capacity := ← capacity.required int32? }
  | _ => none

end CapacityChange

namespace Verdict

/-- Write a verdict. -/
def toJson (v : Verdict) : Json := .object [("valid", v.valid), ("message", v.message)]

/-- Read a verdict. -/
def ofJson? (j : Json) : Option Verdict := do
  match ← j.slots? ["valid", "message"] with
  | [valid, message] =>
    return { valid := ← valid.required bool?, message := ← message.required text? }
  | _ => none

end Verdict

end DiveSchool
