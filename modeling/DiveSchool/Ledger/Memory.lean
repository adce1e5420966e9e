import DiveSchool.Ledger.Basic

/-!
# `DiveSchool.Ledger.Memory` — the ledger in memory

Each offering has a lock of its own; a caller that cannot get it within a bound gives up with a
transient failure. Every change is made under the lock and checked against the invariant of the
offering.

## Contents
- **State.** `Memory`, with the offerings, the records, and the locks that others hold.
- **Catalogue.** `Memory.checkNew` and `Memory.writeNew` (together `Memory.insert`), `Memory.setCapacity`,
  `Memory.setStatus`.
- **Counters.** `Memory.find`, `Memory.reserve`, `Memory.release`.
- **Records.** `Memory.store`, `Memory.remove`.
- **Ledger.** `Memory.ledger`.
-/

namespace DiveSchool

/-! ## State -/

/-- Offerings and records in memory. -/
structure Memory where
  offerings : Table OfferingId Offering
  records : Table String Booking
  /-- The offerings whose locks others hold. -/
  held : List OfferingId
  /-- How long a caller waits for a lock, in milliseconds. -/
  lockTimeout : Nat

namespace Memory

/-- A ledger without offerings and records. -/
def empty (lockTimeout : Nat) : Memory := ⟨.empty, .empty, [], lockTimeout⟩

/-- A lock was not to be had in time. -/
def timedOut : Failure := ⟨.serviceUnavailable, "Timed out waiting for offering lock", none⟩

/-- Work on an offering under its lock: an absent offering gives `absent`, a held lock the time-out. -/
def underLock {α : Type} (m : Memory) (id : OfferingId) (absent : Except Failure α)
    (body : Offering → Reply Memory (Except Failure α)) : Reply Memory (Except Failure α) :=
  match m.offerings.get? id with
  | none => ⟨absent, m, []⟩
  | some o =>
    if m.held.contains id then ⟨.error timedOut, m, [.lockTimedOut m.lockTimeout]⟩ else body o

/-- Replace an offering. -/
def put (m : Memory) (o : Offering) : Memory :=
  { m with offerings := m.offerings.insert o.id o }

/-! ## Catalogue -/

/-- Refuse a corrupt offering and one whose id is in use. -/
def checkNew (m : Memory) (o : Offering) : Except Failure Unit :=
  match o.checkInvariant with
  | .error e => .error e
  | .ok () => if m.offerings.contains o.id then .error (Offering.duplicate o.id) else .ok ()

/-- Write an offering that has passed the test, whatever is under its id by now. -/
def writeNew (o : Offering) (m : Memory) : Reply Memory (Except Failure Unit) :=
  ⟨.ok (), m.put o, [.offeringAdded o.id o.name o.capacity]⟩

/-- Add an offering: first the test, then the change. -/
def insert (o : Offering) (m : Memory) : Reply Memory (Except Failure Unit) :=
  match m.checkNew o with
  | .error e => ⟨.error e, m, []⟩
  | .ok () => m.writeNew o

/-- Change the capacity of an offering. -/
def setCapacity (now : Timestamp) (id : OfferingId) (capacity : Int32) (m : Memory) :
    Reply Memory (Except Failure Offering) :=
  m.underLock id (.error (Offering.unknown id)) fun o =>
    match o.checkCapacity capacity with
    | .error e => ⟨.error e, m, []⟩
    | .ok () =>
      let changed := { o with capacity, updatedAt := now }
      match changed.checkInvariant with
      | .error e => ⟨.error e, m.put changed, []⟩
      | .ok () => ⟨.ok changed, m.put changed, [.capacityUpdated id capacity]⟩

/-- Change the publication status of an offering. -/
def setStatus (now : Timestamp) (id : OfferingId) (status : Status) (m : Memory) :
    Reply Memory (Except Failure Offering) :=
  m.underLock id (.error (Offering.unknown id)) fun o =>
    let changed := { o with status, updatedAt := now }
    ⟨.ok changed, m.put changed, [.statusUpdated id status]⟩

/-! ## Counters -/

/-- Look an offering up. -/
def find (id : OfferingId) (m : Memory) : Reply Memory (Except Failure (Option Offering)) :=
  m.underLock id (.ok none) fun o => ⟨.ok (some o), m, []⟩

/-- Take a spot of a published offering that is not full. -/
def reserve (now : Timestamp) (id : OfferingId) (m : Memory) :
    Reply Memory (Except Failure Reservation) :=
  m.underLock id (.ok .notFound) fun o =>
    match o.checkInvariant with
    | .error e => ⟨.error e, m, []⟩
    | .ok () =>
      if !o.status.acceptsBookings then ⟨.ok (.notBookable o), m, []⟩
      else match o.increment? now with
        | none => ⟨.ok (.full o), m, [.raceLost id]⟩
        | some taken =>
          match taken.checkInvariant with
          | .error e => ⟨.error e, m.put taken, []⟩
          | .ok () => ⟨.ok (.reserved taken), m.put taken, []⟩

/-- Free a spot of an offering that has bookings. -/
def release (now : Timestamp) (id : OfferingId) (m : Memory) :
    Reply Memory (Except Failure Freeing) :=
  m.underLock id (.ok .notFound) fun o =>
    match o.checkInvariant with
    | .error e => ⟨.error e, m, []⟩
    | .ok () =>
      match o.decrement? now with
      | none => ⟨.ok (.empty o), m, []⟩
      | some freed =>
        match freed.checkInvariant with
        | .error e => ⟨.error e, m.put freed, []⟩
        | .ok () => ⟨.ok (.released freed), m.put freed, []⟩

/-! ## Records -/

/-- Store a record unless its reference is taken. -/
def store (b : Booking) (m : Memory) : Reply Memory (Except Failure Bool) :=
  if m.records.contains b.reference then ⟨.ok false, m, []⟩
  else ⟨.ok true, { m with records := m.records.insert b.reference b }, []⟩

/-- Remove a record and return it. -/
def remove (reference : String) (m : Memory) : Reply Memory (Except Failure (Option Booking)) :=
  ⟨.ok (m.records.get? reference), { m with records := m.records.erase reference }, []⟩

/-! ## Ledger -/

/-- The ledger in memory. -/
def ledger : Ledger Memory := { find, reserve, release, store, remove }

end Memory

end DiveSchool
