import DiveSchool.Offering.Basic

/-!
# `DiveSchool.Event` — what is written to the log

An event is data: what happened and to what. Its severity, its message and its fields are functions of
it, so that the wording is in one place.

## Contents
- **Severities.** `Severity` and its name.
- **Events.** `Event`, `Event.severity`, `Event.message`, `Event.fields`.
-/

namespace DiveSchool

/-! ## Severities -/

/-- How much an event matters. -/
inductive Severity where
  | trace
  | debug
  | info
  | warn
  | error
  deriving DecidableEq, Repr, Inhabited

/-- The name of a severity in the log. -/
def Severity.name : Severity → String
  | trace => "TRACE"
  | debug => "DEBUG"
  | info => "INFO"
  | warn => "WARN"
  | error => "ERROR"

/-! ## Events -/

/-- Something worth a line in the log. -/
inductive Event where
  -- bookings
  | ruleFired (rule : String) (id : OfferingId)
  | bookingConfirmed (id : OfferingId) (reference : String) (bookings capacity : Int32)
  | lookupFailed (id : OfferingId) (cause : Failure)
  | refusedNotBookable (id : OfferingId) (status : Status)
  | refusedFull (id : OfferingId) (capacity : Int32)
  | refusedIneligible (id : OfferingId) (level : Level) (strategy reason : String)
  | reserveFailed (id : OfferingId) (cause : Failure)
  | lastSpotLost (id : OfferingId)
  | closedMeanwhile (id : OfferingId) (status : Status)
  | referenceStored (reference : String) (attempt : Nat)
  | rolledBack (id : OfferingId) (cause : Failure)
  | rollbackFoundNothing (id : OfferingId) (cause : Failure)
  | rollbackFailed (id : OfferingId) (cause rollback : Failure)
  | referenceRedrawn (reference : String) (attempt : Nat)
  | redrawsExhausted (reference : String) (attempts : Nat) (id : OfferingId)
  -- releases and cancellations
  | releaseFailed (id : OfferingId) (cause : Failure)
  | released (id : OfferingId) (bookings : Int32)
  | releaseIgnored (id : OfferingId)
  | cancelled (reference : String) (id : OfferingId)
  | removalFailed (reference : String) (cause : Failure)
  | restoreFailed (reference : String) (cause : Failure)
  -- stores
  | offeringAdded (id : OfferingId) (name : String) (capacity : Int32)
  | capacityUpdated (id : OfferingId) (capacity : Int32)
  | statusUpdated (id : OfferingId) (status : Status)
  | lockTimedOut (milliseconds : Nat)
  | raceLost (id : OfferingId)
  | incrementRejected (id : OfferingId)
  -- database
  | connecting (url : String) (most least : Nat)
  | connected
  | migrating (known : Nat)
  | migrated
  deriving DecidableEq, Repr, Inhabited

namespace Event

/-- How much the event matters. -/
def severity : Event → Severity
  | ruleFired .. => .trace
  | referenceStored .. | referenceRedrawn .. | releaseIgnored .. | raceLost ..
  | incrementRejected .. => .debug
  | lookupFailed .. | reserveFailed .. | rolledBack .. | redrawsExhausted .. | releaseFailed ..
  | removalFailed .. | lockTimedOut .. => .warn
  | rollbackFoundNothing .. | rollbackFailed .. | restoreFailed .. => .error
  | _ => .info

/-- The sentence in the log. -/
def message : Event → String
  | ruleFired .. => "Eligibility rule fired"
  | bookingConfirmed .. => "Booking confirmed"
  | lookupFailed .. => "Offering lookup failed"
  | refusedNotBookable .. => "Booking refused: offering not bookable"
  | refusedFull .. => "Booking refused: fully booked"
  | refusedIneligible .. => "Booking refused: not eligible"
  | reserveFailed .. => "Reserve failed"
  | lastSpotLost .. => "Booking refused: last spot taken concurrently"
  | closedMeanwhile .. => "Booking refused: offering closed concurrently"
  | referenceStored .. => "Reference already stored"
  | rolledBack .. => "Booking rolled back: record not stored"
  | rollbackFoundNothing .. => "Booking rollback found no spot to release"
  | rollbackFailed .. => "Booking rollback failed: spot remains booked without a record"
  | referenceRedrawn .. => "Reference redrawn after collision"
  | redrawsExhausted .. => "Issuing colliding booking reference after exhausting redraws"
  | releaseFailed .. => "Release failed"
  | released .. => "Booking released"
  | releaseIgnored .. => "Release ignored: no bookings"
  | cancelled .. => "Booking cancelled"
  | removalFailed .. => "Record removal failed"
  | restoreFailed .. => "Failed to restore booking record"
  | offeringAdded .. => "Offering added"
  | capacityUpdated .. => "Capacity updated"
  | statusUpdated .. => "Publication status updated"
  | lockTimedOut .. => "Offering lock wait timed out"
  | raceLost .. => "Reserve lost the race for the last spot"
  | incrementRejected .. => "Increment rejected on locked row"
  | connecting .. => "Connecting to PostgreSQL"
  | connected => "Connected to PostgreSQL"
  | migrating .. => "Applying schema migrations"
  | migrated => "Schema is up to date"

/-- The named values of the event, as they are shown. -/
def fields : Event → List (String × String)
  | ruleFired rule id => [("rule", rule), ("offering_id", toString id)]
  | bookingConfirmed id reference bookings capacity =>
    [("offering_id", toString id), ("reference", reference),
      ("current_bookings", toString bookings), ("capacity", toString capacity)]
  | lookupFailed id cause | reserveFailed id cause | rolledBack id cause
  | rollbackFoundNothing id cause | releaseFailed id cause =>
    [("offering_id", toString id), ("error", toString cause)]
  | refusedNotBookable id status | closedMeanwhile id status | statusUpdated id status =>
    [("offering_id", toString id), ("status", toString status)]
  | refusedFull id capacity | capacityUpdated id capacity =>
    [("offering_id", toString id), ("capacity", toString capacity)]
  | refusedIneligible id level strategy reason =>
    [("offering_id", toString id), ("holder_level", toString level), ("strategy", strategy),
      ("reason", reason)]
  | lastSpotLost id | releaseIgnored id | raceLost id | incrementRejected id =>
    [("offering_id", toString id)]
  | referenceStored reference attempt | referenceRedrawn reference attempt =>
    [("reference", reference), ("attempt", toString attempt)]
  | rollbackFailed id cause rollback =>
    [("offering_id", toString id), ("error", toString cause), ("rollback_error", toString rollback)]
  | redrawsExhausted reference attempts id =>
    [("reference", reference), ("attempts", toString attempts), ("offering_id", toString id)]
  | released id bookings => [("offering_id", toString id), ("current_bookings", toString bookings)]
  | cancelled reference id => [("reference", reference), ("offering_id", toString id)]
  | removalFailed reference cause | restoreFailed reference cause =>
    [("reference", reference), ("error", toString cause)]
  | offeringAdded id name capacity =>
    [("offering_id", toString id), ("name", name), ("capacity", toString capacity)]
  | lockTimedOut milliseconds => [("timeout_ms", toString milliseconds)]
  | connecting url most least =>
    [("url", url), ("max_connections", toString most), ("min_connections", toString least)]
  | migrating known => [("known", toString known)]
  | connected | migrated => []

end Event

end DiveSchool
