import DiveSchool.Offering.Basic
import DiveSchool.Number.Binary64

/-!
# `DiveSchool.Offering.Capacity` — the counter of an offering

The counter stays between zero and the capacity, and the capacity is at least one. Both are 32-bit
numbers whose arithmetic wraps; on offerings within the invariant it never does.

## Contents
- **Free spots.** `Offering.isFull`, `Offering.available`, `Offering.percentage`.
- **State.** `CapacityState`, `Offering.state`, `Offering.label`, `Snapshot`.
- **Invariant.** `Offering.checkInvariant`, `Offering.checkCapacity`.
- **Counting.** `Offering.increment?` and `Offering.decrement?`.
-/

namespace DiveSchool

namespace Offering

/-! ## Free spots -/

/-- Whether every spot is taken. -/
def isFull (o : Offering) : Bool := o.capacity ≤ o.bookings

/-- The number of free spots, never negative. -/
def available (o : Offering) : Int32 :=
  let free := o.capacity - o.bookings
  if free < 0 then 0 else free

/-- The share of spots booked, in percent. -/
def percentage (o : Offering) : Binary64 :=
  if o.capacity ≤ 0 then Binary64.ofInts 0 1
  else Binary64.ofInts (o.bookings.toInt * 100) o.capacity.toInt

/-- Whether a booking could be accepted now. -/
def isBookable (o : Offering) : Bool := o.status.acceptsBookings && !o.isFull

end Offering

/-! ## State -/

/-- What the counter and the publication say together. -/
inductive CapacityState where
  /-- Spots are free. -/
  | free
  /-- Every spot is taken. -/
  | full
  /-- Closed to bookings whatever the counter. -/
  | archived
  deriving DecidableEq, Repr, Inhabited

namespace CapacityState

/-- The three states. -/
def all : List CapacityState := [.free, .full, .archived]

/-- The name of the state. -/
def name : CapacityState → String
  | .free => "open"
  | .full => "full"
  | .archived => "archived"

instance : ToString CapacityState := ⟨name⟩

/-- The state with a given name. -/
def ofName? (text : String) : Option CapacityState := all.find? (·.name == text)

end CapacityState

/-- The counter of an offering at one moment. -/
structure Snapshot where
  offeringId : OfferingId
  capacity : Int32
  bookings : Int32
  available : Int32
  state : CapacityState
  deriving DecidableEq, Repr, Inhabited

namespace Offering

/-- The state of an offering. -/
def state (o : Offering) : CapacityState :=
  if o.status = .archived then .archived
  else if o.isFull then .full
  else .free

/-- A short word for listings: the status unless customers see the offering. -/
def label (o : Offering) : String :=
  if !o.status.isVisible then o.status.displayName
  else if o.isFull then "FULL"
  else "AVAILABLE"

/-- The counter as it stands. -/
def snapshot (o : Offering) : Snapshot :=
  { offeringId := o.id, capacity := o.capacity, bookings := o.bookings, available := o.available,
    state := o.state }

/-! ## Invariant -/

/-- The capacity is at least one and the counter lies between zero and the capacity. -/
def WithinCapacity (o : Offering) : Prop := 1 ≤ o.capacity ∧ 0 ≤ o.bookings ∧ o.bookings ≤ o.capacity

instance (o : Offering) : Decidable o.WithinCapacity := by unfold WithinCapacity; infer_instance

/-- Refuse an offering outside the invariant. -/
def checkInvariant (o : Offering) : Except Failure Unit :=
  if o.capacity < 1 then
    .error ⟨.internal, s!"Offering {o.id} has non-positive capacity {o.capacity}", none⟩
  else if o.bookings < 0 ∨ o.capacity < o.bookings then
    .error ⟨.internal,
      s!"Offering {o.id} violates capacity invariant: {o.bookings} bookings for capacity {o.capacity}",
      none⟩
  else .ok ()

theorem checkInvariant_eq_ok_iff {o : Offering} :
    o.checkInvariant = .ok () ↔ o.WithinCapacity := by
  unfold checkInvariant WithinCapacity
  by_cases h₁ : o.capacity < 1
  · simp [h₁, Int32.not_le.mpr h₁]
  · by_cases h₂ : o.bookings < 0 ∨ o.capacity < o.bookings
    · rcases h₂ with h | h <;> simp [h₁, h, Int32.not_le.mpr h]
    · have h₃ := not_or.mp h₂
      simp [h₁, h₂, Int32.not_lt.mp h₁, Int32.not_lt.mp h₃.1, Int32.not_lt.mp h₃.2]

/-- A capacity below one. -/
def tooSmall : String := "Capacity must be at least 1"

/-- A capacity above what the kind allows. -/
def tooLarge (kind : Kind) (greatest : Int32) : Failure :=
  ⟨.validation, s!"Capacity cannot exceed {greatest} for a {kind}", none⟩

/-- A capacity below the spots already booked. -/
def tooFew (capacity bookings : Int32) : Failure :=
  ⟨.validation,
    s!"Capacity cannot be lowered to {capacity}: {bookings} spots are already booked", none⟩

/-- Refuse a capacity above what the kind allows. -/
def checkKindCapacity (kind : Kind) (capacity : Int32) : Except Failure Unit :=
  match kind.maxCapacity? with
  | some greatest => if greatest < capacity then .error (tooLarge kind greatest) else .ok ()
  | none => .ok ()

/-- Refuse a new capacity that the offering cannot take. -/
def checkCapacity (o : Offering) (capacity : Int32) : Except Failure Unit :=
  if capacity < 1 then .error ⟨.validation, tooSmall, none⟩
  else match checkKindCapacity o.kind capacity with
    | .error e => .error e
    | .ok () => if capacity < o.bookings then .error (tooFew capacity o.bookings) else .ok ()

/-! ## Counting -/

/-- Take one spot, unless the offering is full. -/
def increment? (o : Offering) (now : Timestamp) : Option Offering :=
  if o.isFull then none else some { o with bookings := o.bookings + 1, updatedAt := now }

/-- Free one spot, unless none is booked. -/
def decrement? (o : Offering) (now : Timestamp) : Option Offering :=
  if o.bookings ≤ 0 then none else some { o with bookings := o.bookings - 1, updatedAt := now }

end Offering

end DiveSchool
