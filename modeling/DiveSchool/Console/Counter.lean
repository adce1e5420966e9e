import DiveSchool.Console.Catalogue
import DiveSchool.Ledger.Relational
import DiveSchool.Settings.Basic

/-!
# `DiveSchool.Console.Counter` — commands at the booking desk

Every command has a desk of its own, with an empty registry. Before a booking the registry takes in the
stored references that a draw could hit, whatever their offering.

## Contents
- **Desk.** `Occasion`, what a command is carried out with, and `atDesk`.
- **Booking.** `customer`, `storedReferences`, `bookWith`, `book`.
- **Releasing.** `release`, `cancel`, `availability`, `listBookings`.
-/

namespace DiveSchool.Console

/-! ## Desk -/

/-- What a command is carried out with. -/
structure Occasion where
  now : Timestamp
  /-- The id of the next offering. -/
  freshId : OfferingId
  generator : Generator

/-- Carry out a procedure of the desk over the database. -/
def atDesk {α : Type} (occasion : Occasion) (registry : Registry) (p : Procedure α) : Session α :=
  fun db =>
    let (a, w) := Database.ledger.run p ⟨db, registry, occasion.generator, occasion.now, []⟩
    (.ok a, w.state)

/-! ## Booking -/

/-- The customer that a booking is made for. -/
def customer (now : Timestamp) (firstName lastName email : String) (level : Option Level)
    (guest : Bool) : Customer :=
  if guest then .guest ⟨.zero, firstName, lastName, email, none, level⟩
  else .premium ⟨.zero, Text.toLower firstName, firstName, lastName, email, level, now⟩

/-- The stored references that start as those to an offering do. -/
def storedReferences (id : OfferingId) : Session Registry := do
  match ← Database.findOffering id with
  | none => return .empty
  | some o =>
    let stored ← Database.listBookingsUnder (lead (some o.name))
    return stored.foldl (fun r b => r.insert b.reference b.offeringId) .empty

/-- Book a spot and store the booking, at a desk with these references in its registry. -/
def bookWith (d : Desk) (occasion : Occasion) (id : OfferingId) (c : Customer) (registry : Registry) :
    Session (List String) := do
  match ← atDesk occasion registry (d.bookRecorded occasion.now id c.holder) with
  | .ok b => return [success s!"Booked {b.reference} ({c.kind})"]
  | .error .capacityExceeded => return [warning "Offering is fully booked"]
  | .error (.ineligible reason) => return [warning s!"Not eligible: {reason}"]
  | .error e => throw e.toFailure

/-- Book a spot and store the booking. -/
def book (d : Desk) (occasion : Occasion) (id : String) (c : Customer) : Session (List String) := do
  let id ← readId id
  bookWith d occasion id c (← storedReferences id)

/-! ## Releasing -/

/-- Free a spot. -/
def release (occasion : Occasion) (format : Format) (id : String) : Session (List String) := do
  let id ← readId id
  match ← atDesk occasion .empty (Desk.release id) with
  | .ok s => return success "Spot released" :: showRow (snapshotRow s) format
  | .error .nothingToRelease => return [warning "Offering has no bookings to release"]
  | .error e => throw e.toFailure

/-- Cancel a booking. -/
def cancel (occasion : Occasion) (format : Format) (reference : String) :
    Session (List String) := do
  match ← atDesk occasion .empty (Desk.cancelRecorded reference) with
  | .ok s => return success s!"Booking {reference} cancelled" :: showRow (snapshotRow s) format
  | .error .nothingToRelease =>
    return [warning s!"Booking {reference} removed; the offering had no bookings to release"]
  | .error e => throw e.toFailure

/-- Show the counter of an offering. -/
def availability (occasion : Occasion) (format : Format) (id : String) :
    Session (List String) := do
  let id ← readId id
  let s ← (← atDesk occasion .empty (Desk.availability id) : Except Failure Snapshot)
  return showRow (snapshotRow s) format

/-- Show the bookings of an offering. -/
def listBookings (format : Format) (id : String) : Session (List String) := do
  let id ← readId id
  let bookings ← Database.listBookingsOf id
  return showList (bookings.map bookingRow) format

end DiveSchool.Console
