import DiveSchool.Console.Grid
import DiveSchool.Json.Document

/-!
# `DiveSchool.Console.Rows` — what is shown of each thing

## Contents
- **Rows.** One for an offering, a snapshot, a booking, a level and a check of eligibility.
- **Messages.** `success`, `warning`, `complaint`, and `property` with its name in a column of its own.
-/

namespace DiveSchool.Console

open Json (int)

/-! ## Rows -/

/-- A level, or a hyphen where there is none. -/
def levelText (level : Option Level) : String :=
  match level with
  | some l => l.displayName
  | none => "-"

/-- An offering of the catalogue. -/
def offeringRow (o : Offering) : Row :=
  [("id", o.id.toText), ("kind", o.kind.name), ("name", o.name),
   ("booked", s!"{o.bookings}/{o.capacity}"), ("availability", o.label),
   ("requires", levelText o.required), ("provides", levelText o.provided),
   ("created_at", o.createdAt.toMinute)]

/-- The counter of an offering. -/
def snapshotRow (s : Snapshot) : Row :=
  [("offering_id", s.offeringId.toText), ("capacity", Json.ofInt32 s.capacity),
   ("booked", Json.ofInt32 s.bookings), ("available", Json.ofInt32 s.available),
   ("state", s.state.name)]

/-- A booking. -/
def bookingRow (b : Booking) : Row :=
  [("reference", b.reference), ("holder", b.holderName), ("issued_at", b.issuedAt.toMinute)]

/-- A level. -/
def levelRow (l : Level) : Row :=
  [("rank", int l.rank), ("canonical", l.canonicalName), ("name", l.displayName),
   ("full_name", l.fullName), ("advanced", l.isAdvanced), ("professional", l.isProfessional)]

/-- A check of eligibility. -/
def checkRow (strategy : Strategy) (holder required provided : Option Level) (v : Verdict) : Row :=
  [("strategy", strategy.name), ("holder", levelText holder), ("required", levelText required),
   ("provides", levelText provided), ("eligible", v.valid), ("message", v.message)]

/-! ## Messages -/

/-- Something was done. -/
def success (text : String) : String := "✓ " ++ text

/-- Nothing was done, and that is no fault. -/
def warning (text : String) : String := "⚠ " ++ text

/-- Something went wrong. -/
def complaint (text : String) : String := "✗ " ++ text

/-- The column at which the values of properties start. -/
def propertyColumn : Nat := 24

/-- A property with its name. -/
def property (name value : String) : String :=
  let label := name ++ ":"
  "  " ++ label ++ String.ofList (List.replicate (propertyColumn - label.length) ' ') ++ " " ++ value

end DiveSchool.Console
