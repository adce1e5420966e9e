import DiveSchool.Offering.Capacity

/-!
# `DiveSchool.Desk.Outcome` — what a booking or a release comes to

## Contents
- **Records.** `Booking`, what is kept of a successful booking.
- **Stores.** `Reservation` and `Freeing`, the answers of a store to the two indivisible changes of a
  counter.
- **Errors.** `BookingError` and `ReleaseError`, their texts, which of them are transient, and the
  `Failure` each stands for.
-/

namespace DiveSchool

/-! ## Records -/

/-- A successful booking. It is made once and never changed. -/
structure Booking where
  reference : String
  offeringId : OfferingId
  holderName : String
  issuedAt : Timestamp
  deriving DecidableEq, Repr, Inhabited

/-- No booking has this reference. -/
def Booking.unknown (reference : String) : String := s!"Booking reference {reference} not found"

/-! ## Stores -/

/-- The outcome of rechecking an offering and taking a spot in one step. -/
inductive Reservation where
  /-- A spot was taken; the offering afterwards. -/
  | reserved (o : Offering)
  /-- Every spot was taken already. -/
  | full (o : Offering)
  /-- The offering accepts no bookings. -/
  | notBookable (o : Offering)
  /-- There is no such offering. -/
  | notFound
  deriving DecidableEq, Repr, Inhabited

/-- The outcome of rechecking an offering and freeing a spot in one step. -/
inductive Freeing where
  /-- A spot was freed; the offering afterwards. -/
  | released (o : Offering)
  /-- No spot was booked. -/
  | empty (o : Offering)
  /-- There is no such offering. -/
  | notFound
  deriving DecidableEq, Repr, Inhabited

/-! ## Errors -/

/-- Why a booking was not made. -/
inductive BookingError where
  | capacityExceeded
  | ineligible (reason : String)
  | notBookable (status : Status)
  | notFound (message : String)
  | infrastructure (cause : Failure)
  deriving DecidableEq, Repr, Inhabited

namespace BookingError

/-- The failure the error stands for. -/
def toFailure : BookingError → Failure
  | capacityExceeded => ⟨.capacityExceeded, "Offering is fully booked", none⟩
  | ineligible reason => ⟨.eligibility, reason, none⟩
  | notBookable status =>
    ⟨.conflict, s!"Offering is not accepting bookings (status: {status})", none⟩
  | notFound message => ⟨.notFound, message, none⟩
  | infrastructure cause => cause

/-- The text of the error; a fault of the infrastructure shows its kind too. -/
def message : BookingError → String
  | infrastructure cause => cause.display
  | e => e.toFailure.message

/-- Whether trying again may help. -/
def isTransient : BookingError → Bool
  | infrastructure cause => cause.isTransient
  | _ => false

end BookingError

/-- Why a spot was not freed. -/
inductive ReleaseError where
  | nothingToRelease
  | notFound (message : String)
  | infrastructure (cause : Failure)
  deriving DecidableEq, Repr, Inhabited

namespace ReleaseError

/-- The failure the error stands for. -/
def toFailure : ReleaseError → Failure
  | nothingToRelease => ⟨.conflict, "Offering has no bookings to release", none⟩
  | notFound message => ⟨.notFound, message, none⟩
  | infrastructure cause => cause

/-- The text of the error; a fault of the infrastructure shows its kind too. -/
def message : ReleaseError → String
  | infrastructure cause => cause.display
  | e => e.toFailure.message

/-- Whether trying again may help. -/
def isTransient : ReleaseError → Bool
  | infrastructure cause => cause.isTransient
  | _ => false

end ReleaseError

end DiveSchool
