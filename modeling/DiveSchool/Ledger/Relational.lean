import DiveSchool.Ledger.Basic
import DiveSchool.Database.Offerings
import DiveSchool.Database.Bookings

/-!
# `DiveSchool.Ledger.Relational` — the ledger in a database

Counters are changed under row locks, so that any number of desks may share one database.

## Contents
- **Answers.** A change of a counter as a reservation or a freeing.
- **Ledger.** `Database.ledger`.
-/

namespace DiveSchool.Database

/-! ## Answers -/

/-- A change of a counter as a reservation: a rejected one is closed before it is full. -/
def CounterChange.toReservation : CounterChange → Reservation
  | applied o => .reserved o
  | rejected o => if o.status.acceptsBookings then .full o else .notBookable o
  | notFound => .notFound

/-- A change of a counter as a freeing. -/
def CounterChange.toFreeing : CounterChange → Freeing
  | applied o => .released o
  | rejected o => .empty o
  | notFound => .notFound

/-- A session as an operation of a ledger. -/
def reply {α : Type} (s : Session α) (db : Database) : Reply Database (Except Failure α) :=
  ⟨(s db).1, (s db).2, []⟩

/-- What an attempt to take a spot logs. -/
def incrementEvents (id : OfferingId) : Except Failure CounterChange → List Event
  | .ok (.rejected _) => [.incrementRejected id]
  | _ => []

/-! ## Ledger -/

/-- Take a spot. -/
def reserve (now : Timestamp) (id : OfferingId) (db : Database) :
    Reply Database (Except Failure Reservation) :=
  let (outcome, after) := increment now id db
  ⟨outcome.map CounterChange.toReservation, after, incrementEvents id outcome⟩

/-- Free a spot. -/
def release (now : Timestamp) (id : OfferingId) (db : Database) :
    Reply Database (Except Failure Freeing) :=
  let (outcome, after) := decrement now id db
  ⟨outcome.map CounterChange.toFreeing, after, []⟩

/-- The ledger in a database. -/
def ledger : Ledger Database where
  find id := reply (findOffering id)
  reserve := reserve
  release := release
  store b := reply (storeBooking b)
  remove reference := reply (removeBooking reference)

end DiveSchool.Database
