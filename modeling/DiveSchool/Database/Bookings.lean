import DiveSchool.Database.Session

/-!
# `DiveSchool.Database.Bookings` — the table of bookings

## Contents
- **Rows.** `storeBooking`, `findBooking`, `removeBooking`.
- **Lists.** `listBookingsOf` an offering, `listBookingsUnder` the start of a reference.
-/

namespace DiveSchool.Database

open Session

/-! ## Rows -/

/-- Store a booking; false when its reference is taken. -/
def storeBooking (b : Booking) : Session Bool :=
  statement .bookingInsert (broken "Failed to insert booking record") (·.insertBooking b)

/-- Look a booking up. -/
def findBooking (reference : String) : Session (Option Booking) :=
  read .bookingSelect "Failed to find booking record" (·.bookings.get? reference)

/-- Remove a booking and return it. -/
def removeBooking (reference : String) : Session (Option Booking) :=
  statement .bookingDelete (broken "Failed to delete booking record") fun t =>
    .ok (t.deleteBooking reference)

/-! ## Lists -/

/-- The bookings of an offering, the oldest first. -/
def listBookingsOf (id : OfferingId) : Session (List Booking) :=
  read .bookingSelect "Failed to list booking records" (·.bookingsOf id)

/-- The bookings whose reference starts with a text, the oldest first. -/
def listBookingsUnder (lead : String) : Session (List Booking) :=
  read .bookingSelect "Failed to list booking records" (·.bookingsUnder lead)

end DiveSchool.Database
