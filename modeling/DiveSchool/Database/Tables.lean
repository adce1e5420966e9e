import DiveSchool.Desk.Outcome
import DiveSchool.Table

/-!
# `DiveSchool.Database.Tables` — the two tables and their constraints

Offerings are keyed by id, bookings by reference. A row that breaks a constraint is refused, and the
tables stay as they were.

## Contents
- **Refusals.** `Refusal`, why a statement was not carried out.
- **Tables.** `Tables`, and `Tables.Sound`, what the constraints promise.
- **Stored values.** `Offering.stored`, `Booking.stored`: moments are kept in whole microseconds.
- **Rows.** `ofRows`, `insertOffering`, `replaceOffering`, `changeOffering`, `insertBooking`, `deleteBooking`.
- **Lists.** `newestOfferings`, `bookingsOf`, `bookingsUnder`.
-/

namespace DiveSchool

/-! ## Refusals -/

/-- Why a statement was not carried out. -/
inductive Refusal where
  /-- The database answered with an error of this state. -/
  | state (code : String)
  /-- There is no connection. -/
  | closed
  deriving DecidableEq, Repr, Inhabited

namespace Refusal

/-- A row with the same key exists. -/
def keyTaken : Refusal := state "23505"

/-- A row breaks a check. -/
def checkBroken : Refusal := state "23514"

/-- A row refers to a row that does not exist. -/
def referenceBroken : Refusal := state "23503"

/-- A table does not exist. -/
def tableMissing : Refusal := state "42P01"

/-- A table to be created exists already. -/
def tableExists : Refusal := state "42P07"

/-- A lock was not to be had in time. -/
def lockTimedOut : Refusal := state "55P03"

/-- The refusal as a cause. -/
def text : Refusal → String
  | state code => s!"error returned from database: SQLSTATE {code}"
  | closed => "attempted to acquire a connection on a closed pool"

end Refusal

/-! ## Tables -/

/-- The rows of the two tables. -/
structure Tables where
  offerings : Table OfferingId Offering
  bookings : Table String Booking

/-! ## Stored values -/

/-- An offering as a row keeps it. -/
def Offering.stored (o : Offering) : Offering :=
  { o with createdAt := o.createdAt.toMicroseconds, updatedAt := o.updatedAt.toMicroseconds }

/-- A booking as a row keeps it. -/
def Booking.stored (b : Booking) : Booking := { b with issuedAt := b.issuedAt.toMicroseconds }

namespace Tables

instance : Inhabited Tables := ⟨⟨.empty, .empty⟩⟩

/-- Both tables without rows. -/
def empty : Tables := default

/-- What the constraints promise: counters within capacity, rows under their own keys, and an offering
    for every booking. -/
structure Sound (t : Tables) : Prop where
  counters : ∀ id o, t.offerings.get? id = some o → o.WithinCapacity
  ids : ∀ id o, t.offerings.get? id = some o → o.id = id
  references : ∀ r b, t.bookings.get? r = some b → b.reference = r
  offered : ∀ r b, t.bookings.get? r = some b → (t.offerings.get? b.offeringId).isSome

/-! ## Rows -/

/-- Tables with given rows; of two rows with one key the later one stays. -/
def ofRows (offerings : List Offering) (bookings : List Booking) : Tables :=
  ⟨.ofList (offerings.map fun o => (o.id, o.stored)),
   .ofList (bookings.map fun b => (b.reference, b.stored))⟩

/-- Write an offering over the row with its id. -/
def replaceOffering (o : Offering) (t : Tables) : Except Refusal (Offering × Tables) :=
  if o.WithinCapacity then .ok (o.stored, { t with offerings := t.offerings.insert o.id o.stored })
  else .error .checkBroken

/-- Add an offering. -/
def insertOffering (o : Offering) (t : Tables) : Except Refusal (Offering × Tables) :=
  if t.offerings.contains o.id then .error .keyTaken else t.replaceOffering o

/-- Change the offering with an id, if there is one. -/
def changeOffering (id : OfferingId) (change : Offering → Offering) (t : Tables) :
    Except Refusal (Option Offering × Tables) :=
  match t.offerings.get? id with
  | none => .ok (none, t)
  | some o => (t.replaceOffering (change o)).map fun (o, t) => (some o, t)

/-- Add a booking unless its reference is taken; whether it was added. -/
def insertBooking (b : Booking) (t : Tables) : Except Refusal (Bool × Tables) :=
  if t.bookings.contains b.reference then .ok (false, t)
  else if t.offerings.contains b.offeringId then
    .ok (true, { t with bookings := t.bookings.insert b.reference b.stored })
  else .error .referenceBroken

/-- Write a booking over the row with its reference, which keeps its moment, or add it; whether there
    was one. -/
def putBooking (b : Booking) (t : Tables) : Bool × Tables :=
  let old := t.bookings.get? b.reference
  let b := { b with issuedAt := (old.map Booking.issuedAt).getD b.issuedAt }
  (old.isSome, { t with bookings := t.bookings.insert b.reference b.stored })

/-- Remove a booking and return it. -/
def deleteBooking (reference : String) (t : Tables) : Option Booking × Tables :=
  (t.bookings.get? reference, { t with bookings := t.bookings.erase reference })

/-! ## Lists -/

/-- Bookings with the oldest first. -/
def oldestFirst (l : List Booking) : List Booking :=
  l.mergeSort fun a b => compare a.issuedAt b.issuedAt != .gt

/-- Every offering, the newest first. -/
def newestOfferings (t : Tables) : List Offering :=
  t.offerings.values.mergeSort fun a b => compare a.createdAt b.createdAt != .lt

/-- The bookings of an offering. -/
def bookingsOf (id : OfferingId) (t : Tables) : List Booking :=
  oldestFirst (t.bookings.values.filter (·.offeringId = id))

/-- The bookings whose reference starts with a text. -/
def bookingsUnder (lead : String) (t : Tables) : List Booking :=
  oldestFirst (t.bookings.values.filter fun b => lead.toList.isPrefixOf b.reference.toList)

end Tables

end DiveSchool
