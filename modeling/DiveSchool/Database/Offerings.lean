import DiveSchool.Database.Session

/-!
# `DiveSchool.Database.Offerings` — the table of offerings

The counter and the capacity change only under the lock of the row, after the invariant has been
checked on the locked row.

## Contents
- **Catalogue.** `findOffering`, `listOfferings`, `createOffering`, `setStatus`, `setCapacity`.
- **Counters.** `CounterChange`, `increment`, `decrement`.
-/

namespace DiveSchool.Database

open Session

/-! ## Catalogue -/

/-- Look an offering up. -/
def findOffering (id : OfferingId) : Session (Option Offering) :=
  read .select "Failed to find offering" (·.offerings.get? id)

/-- Every offering, the newest first. -/
def listOfferings : Session (List Offering) :=
  read .select "Failed to list offerings" (·.newestOfferings)

/-- Add an offering that keeps the invariant. -/
def createOffering (o : Offering) : Session Offering := do
  o.checkInvariant
  statement .insert (broken "Failed to create offering") (·.insertOffering o)

/-- Change the publication status. -/
def setStatus (now : Timestamp) (id : OfferingId) (status : Status) : Session (Option Offering) :=
  statement .update (broken "Failed to update offering status")
    (·.changeOffering id fun o => { o with status, updatedAt := now })

/-- Lock the row of an offering and read it. -/
def lockOffering (id : OfferingId) : Session (Option Offering) := fun db =>
  statement .lock (busyOrBroken "Failed to lock offering")
    (fun t => match t.offerings.get? id with
      | none => .ok (none, t)
      | some o => if db.locked.contains id then .error .lockTimedOut else .ok (some o, t)) db

/-- Write over the row of an offering that is locked. -/
def writeLocked (context : String) (o : Offering) : Session Offering :=
  statement .update (busyOrBroken context) (·.replaceOffering o)

/-- Change the capacity, if the locked row can take it. -/
def setCapacity (now : Timestamp) (id : OfferingId) (capacity : Int32) :
    Session (Option Offering) :=
  transaction do
    match ← lockOffering id with
    | none => return .leave none
    | some o =>
      o.checkCapacity capacity
      let changed ← writeLocked "Failed to update capacity" { o with capacity, updatedAt := now }
      return .keep (some changed)

/-! ## Counters -/

/-- The outcome of a change of a counter. -/
inductive CounterChange where
  /-- The counter was changed; the row afterwards. -/
  | applied (o : Offering)
  /-- The locked row did not allow the change. -/
  | rejected (o : Offering)
  /-- There is no such row. -/
  | notFound
  deriving DecidableEq, Repr, Inhabited

/-- Take a spot, if the locked row is published and not full. -/
def increment (now : Timestamp) (id : OfferingId) : Session CounterChange :=
  transaction do
    match ← lockOffering id with
    | none => return .leave .notFound
    | some o =>
      o.checkInvariant
      if !o.isBookable then return .leave (.rejected o)
      else
        let taken ← writeLocked "Failed to increment bookings"
          { o with bookings := o.bookings + 1, updatedAt := now }
        taken.checkInvariant
        return .keep (.applied taken)

/-- Free a spot, if the locked row has bookings. -/
def decrement (now : Timestamp) (id : OfferingId) : Session CounterChange :=
  transaction do
    match ← lockOffering id with
    | none => return .leave .notFound
    | some o =>
      o.checkInvariant
      if o.bookings ≤ 0 then return .leave (.rejected o)
      else
        let freed ← writeLocked "Failed to decrement bookings"
          { o with bookings := o.bookings - 1, updatedAt := now }
        freed.checkInvariant
        return .keep (.applied freed)

end DiveSchool.Database
