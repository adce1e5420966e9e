import DiveSchool.Console.Rows
import DiveSchool.Console.Command
import DiveSchool.Database.Offerings
import DiveSchool.Offering.Slug
import DiveSchool.Offering.Proposal

/-!
# `DiveSchool.Console.Catalogue` — commands on levels and offerings

Each command is a session with the database that ends in the lines to show.

## Contents
- **Levels.** `showLevels` and `checkLevels`, which need no database.
- **Ids.** `readId`.
- **Offerings.** `createOffering`, `showOffering`, `listOfferings`, `setCapacity`, `setStatus`.
-/

namespace DiveSchool.Console

/-! ## Levels -/

/-- Every level. -/
def showLevels (format : Format) : List String := showList (Level.all.map levelRow) format

/-- A level that may be absent. -/
def readLevel (text : Option String) : Except Failure (Option Level) :=
  match text with
  | some t => (Level.parse t).map some
  | none => .ok none

/-- Whether a holder of one level may take an offering with a requirement and a level to confer. -/
def checkLevels (strategy : Strategy) (format : Format) (holder required provided : Option String) :
    Except Failure (List String) := do
  let holder ← readLevel holder
  let required ← readLevel required
  let provided ← readLevel provided
  let offering := { Offering.trip .zero ⟨0, 0⟩ "Eligibility check" 1 required with provided }
  let verdict := strategy.validate holder offering
  return showRow (checkRow strategy holder required provided verdict) format

/-! ## Ids -/

/-- A text that is no id. -/
def invalidId (text : String) : Failure := ⟨.validation, s!"Invalid offering id '{text}'", none⟩

/-- Read the id of an offering. -/
def readId (text : String) : Except Failure OfferingId :=
  match Uuid.ofText? text with
  | some id => .ok id
  | none => .error (invalidId text)

/-- An offering that must be there. -/
def existing (id : OfferingId) : Option Offering → Except Failure Offering
  | some o => .ok o
  | none => .error (Offering.unknown id)

/-! ## Offerings -/

/-- Create an offering. -/
def createOffering (now : Timestamp) (freshId : OfferingId) (proposal : Proposal) :
    Session (List String) := do
  let offering ← proposal.toOffering freshId now
  let o ← Database.createOffering offering
  return [success s!"Offering '{o.name}' created", property "ID" o.id.toText,
    property "Slug" o.slug, property "Status" o.status.displayName]

/-- The share of spots booked, without places. -/
def shareText (o : Offering) : String := o.percentage.fixed 0 ++ "%"

/-- Show an offering. -/
def showOffering (format : Format) (id : String) : Session (List String) := do
  let id ← readId id
  let o ← existing id (← Database.findOffering id)
  let details := match format with
    | .table => [property "Booked" (shareText o), property "Available spots" (toString o.available)]
    | .json => []
  return showRow (offeringRow o) format ++ details

/-- Show every offering. -/
def listOfferings (format : Format) : Session (List String) := do
  let offerings ← Database.listOfferings
  return showList (offerings.map offeringRow) format

/-- Change a capacity. -/
def setCapacity (now : Timestamp) (id : String) (capacity : Int32) : Session (List String) := do
  let id ← readId id
  CapacityChange.check ⟨capacity⟩
  let o ← existing id (← Database.setCapacity now id capacity)
  return [success s!"Capacity of '{o.name}' set to {o.capacity}"]

/-- Change a publication status. -/
def setStatus (now : Timestamp) (id : String) (status : Status) : Session (List String) := do
  let id ← readId id
  let o ← existing id (← Database.setStatus now id status)
  return [success s!"Offering '{o.name}' is now {status.displayName}"]

end DiveSchool.Console
