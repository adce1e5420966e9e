import DiveSchool.Desk.Procedure
import DiveSchool.Customer
import DiveSchool.Eligibility

/-!
# `DiveSchool.Desk.Basic` — booking, releasing and cancelling

A booking takes one spot after every check and issues a reference. A recorded booking is stored too; if
that fails the spot is freed again, so that a booked spot always has a record. Cancelling takes the
reference away before the spot is freed, so that trying again can never free a second spot.

## Contents
- **Desks.** `ReferenceRule` and `Desk`, how references are made unique and who is eligible.
- **References.** `Desk.issue`, the first free draw, or the last one when all were taken.
- **Booking.** `Desk.reserve`, `Desk.book`, `Desk.undo`, `Desk.bookRecorded`.
- **Releasing.** `Desk.release`, `Desk.cancel`, `Desk.cancelRecorded`, `Desk.availability`.
-/

namespace DiveSchool

/-! ## Desks -/

/-- How references are issued. -/
structure ReferenceRule where
  /-- Whether a reference in use is drawn again. -/
  unique : Bool := true
  /-- How many draws are made at most; none counts as one. -/
  maxAttempts : UInt32 := 16
  deriving DecidableEq, Repr, Inhabited

/-- The number of draws, at least one. -/
def ReferenceRule.attempts (r : ReferenceRule) : Nat := max 1 r.maxAttempts.toNat

/-- A booking desk. -/
structure Desk where
  strategy : Strategy
  rule : ReferenceRule
  deriving DecidableEq, Repr, Inhabited

namespace Desk

open Procedure

/-! ## References -/

/-- Draw a reference of a holder to an offering. -/
def drawReference (o : Offering) (firstName : String) : Procedure String := do
  let suffix ← draw
  return reference (some o.name) (some firstName) suffix

/-- Claim a candidate, and draw again while it is taken and attempts are left; then issue the last
    candidate all the same. -/
def claimOrRedraw (o : Offering) (firstName : String) (attempts : Nat) :
    (left : Nat) → (candidate : String) → Procedure String
  | 0, candidate => do
    log (.redrawsExhausted candidate attempts o.id)
    enter candidate o.id
    return candidate
  | left + 1, candidate => do
    if ← claim candidate o.id then
      if left + 1 < attempts then
        log (.referenceRedrawn candidate (attempts - left))
      return candidate
    else if left = 0 then
      claimOrRedraw o firstName attempts 0 candidate
    else
      let next ← drawReference o firstName
      claimOrRedraw o firstName attempts left next

/-- Issue a reference for a spot that is already taken. It never fails. -/
def issue (d : Desk) (o : Offering) (firstName : String) : Procedure String := do
  let candidate ← drawReference o firstName
  if d.rule.unique then
    claimOrRedraw o firstName d.rule.attempts d.rule.attempts candidate
  else
    enter candidate o.id
    return candidate

/-! ## Booking -/

/-- Decide eligibility and log the rule that decided. -/
def checkEligibility (d : Desk) (level : Option Level) (o : Offering) : Procedure Verdict := do
  if let some rule := d.strategy.firedRule? level o then
    log (.ruleFired rule.name o.id)
  return d.strategy.validate level o

/-- Make every check on the offering as it is now, then take a spot if it is still free. -/
def reserve (d : Desk) (id : OfferingId) (holder : Holder) :
    Procedure (Except BookingError Offering) := do
  match ← find id with
  | .error cause =>
    log (.lookupFailed id cause)
    return .error (.infrastructure cause)
  | .ok none => return .error (.notFound (Offering.unknown id).message)
  | .ok (some o) =>
    if !o.status.acceptsBookings then
      log (.refusedNotBookable id o.status)
      return .error (.notBookable o.status)
    else if o.isFull then
      log (.refusedFull id o.capacity)
      return .error .capacityExceeded
    else
      let verdict ← d.checkEligibility holder.level o
      if !verdict.valid then
        log (.refusedIneligible id holder.effective d.strategy.name verdict.message)
        return .error (.ineligible verdict.message)
      else
        match ← Procedure.reserve id with
        | .error cause =>
          log (.reserveFailed id cause)
          return .error (.infrastructure cause)
        | .ok (.reserved reserved) => return .ok reserved
        | .ok (.full _) =>
          log (.lastSpotLost id)
          return .error .capacityExceeded
        | .ok (.notBookable current) =>
          log (.closedMeanwhile id current.status)
          return .error (.notBookable current.status)
        | .ok .notFound => return .error (.notFound (Offering.unknown id).message)

/-- Book one spot. -/
def book (d : Desk) (now : Timestamp) (id : OfferingId) (holder : Holder) :
    Procedure (Except BookingError Booking) := do
  match ← d.reserve id holder with
  | .error e => return .error e
  | .ok o =>
    let reference ← d.issue o holder.firstName
    log (.bookingConfirmed id reference o.bookings o.capacity)
    return .ok ⟨reference, id, holder.firstName, now⟩

/-- Free the spot of a booking that could not be stored. The answer is always the cause. -/
def undo (id : OfferingId) (cause : Failure) : Procedure BookingError := do
  match ← Procedure.release id with
  | .ok (.released _) => log (.rolledBack id cause)
  | .ok _ => log (.rollbackFoundNothing id cause)
  | .error rollback => log (.rollbackFailed id cause rollback)
  return .infrastructure cause

/-- Every reference drawn was stored already. -/
def noReferenceLeft (attempts : Nat) : Failure :=
  ⟨.conflict, s!"No unused booking reference found after {attempts} attempts", none⟩

/-- Issue references and store the record under the first that is not stored yet. -/
def storeUnderFresh (d : Desk) (now : Timestamp) (id : OfferingId) (holder : Holder)
    (o : Offering) : (left : Nat) → Procedure (Except BookingError Booking)
  | 0 => do
    let e ← undo id (noReferenceLeft d.rule.attempts)
    return .error e
  | left + 1 => do
    let reference ← d.issue o holder.firstName
    let booking : Booking := ⟨reference, id, holder.firstName, now⟩
    match ← store booking with
    | .ok true =>
      log (.bookingConfirmed id reference o.bookings o.capacity)
      return .ok booking
    | .ok false =>
      let _ ← forget reference
      log (.referenceStored reference (d.rule.attempts - left))
      d.storeUnderFresh now id holder o left
    | .error cause =>
      let _ ← forget reference
      let e ← undo id cause
      return .error e

/-- Book one spot and store the record of it. -/
def bookRecorded (d : Desk) (now : Timestamp) (id : OfferingId) (holder : Holder) :
    Procedure (Except BookingError Booking) := do
  match ← d.reserve id holder with
  | .error e => return .error e
  | .ok o => d.storeUnderFresh now id holder o d.rule.attempts

/-! ## Releasing -/

/-- Free one spot, whatever the publication status. -/
def release (id : OfferingId) : Procedure (Except ReleaseError Snapshot) := do
  match ← Procedure.release id with
  | .error cause =>
    log (.releaseFailed id cause)
    return .error (.infrastructure cause)
  | .ok (.released o) =>
    log (.released id o.bookings)
    return .ok o.snapshot
  | .ok (.empty _) =>
    log (.releaseIgnored id)
    return .error .nothingToRelease
  | .ok .notFound => return .error (.notFound (Offering.unknown id).message)

/-- Cancel a booking by its reference in the registry. A fault leaves the reference in place. -/
def cancel (reference : String) : Procedure (Except ReleaseError Snapshot) := do
  match ← forget reference with
  | none => return .error (.notFound (Booking.unknown reference))
  | some id =>
    match ← release id with
    | .error (.infrastructure cause) =>
      enter reference id
      return .error (.infrastructure cause)
    | outcome =>
      log (.cancelled reference id)
      return outcome

/-- Cancel a stored booking. A fault of the release puts the record back. -/
def cancelRecorded (reference : String) : Procedure (Except ReleaseError Snapshot) := do
  match ← remove reference with
  | .error cause =>
    log (.removalFailed reference cause)
    return .error (.infrastructure cause)
  | .ok none => return .error (.notFound (Booking.unknown reference))
  | .ok (some booking) =>
    let _ ← forget reference
    match ← release booking.offeringId with
    | .error (.infrastructure cause) =>
      if let .error restore ← store booking then
        log (.restoreFailed reference restore)
      enter reference booking.offeringId
      return .error (.infrastructure cause)
    | outcome =>
      log (.cancelled reference booking.offeringId)
      return outcome

/-- The counter of an offering. -/
def availability (id : OfferingId) : Procedure (Except Failure Snapshot) := do
  match ← find id with
  | .error cause => return .error cause
  | .ok none => return .error (Offering.unknown id)
  | .ok (some o) => return .ok o.snapshot

end Desk

end DiveSchool
