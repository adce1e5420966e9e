import DiveSchool.Offering.Capacity

/-!
# `DiveSchool.Offering.Proposal` — what the catalogue is asked for

Requests are checked for their shape before any offering is touched: first every field by itself, with
all complaints in one message, then what only the trimmed name and the kind can tell.

## Contents
- **Complaints.** `Complaint`, one per field, and their text.
- **New offerings.** `Proposal` and `Proposal.toOffering`.
- **New capacities.** `CapacityChange` and `CapacityChange.check`.
-/

namespace DiveSchool

/-! ## Complaints -/

/-- What is wrong with one field of a request. -/
structure Complaint where
  field : String
  text : String
  deriving DecidableEq, Repr

/-- Complaints in the order of their fields, one a line. -/
def Complaint.lines (cs : List Complaint) : String :=
  "\n".intercalate (cs.map fun c => c.field ++ ": " ++ c.text)

/-- The complaint about a capacity, if there is one. -/
def capacityComplaint (capacity : Int32) : List Complaint :=
  if capacity < 1 then [⟨"capacity", Offering.tooSmall⟩] else []

/-- The complaint about a name, if there is one: it has 2 to 100 characters. -/
def nameComplaint (name : String) : List Complaint :=
  if name.length < 2 ∨ 100 < name.length then
    [⟨"name", "Name must be between 2 and 100 characters"⟩]
  else []

/-! ## New offerings -/

/-- A request for a new offering. -/
structure Proposal where
  kind : Kind
  name : String
  capacity : Int32
  required : Option Level
  /-- The level to confer; without one a course confers what its name names. -/
  provided : Option Level
  status : Status
  deriving DecidableEq, Repr, Inhabited

namespace Proposal

/-- The complaints about the fields, in alphabetical order. -/
def complaints (p : Proposal) : List Complaint :=
  capacityComplaint p.capacity ++ nameComplaint p.name

/-- The level the offering will confer under its trimmed name. -/
def confers (p : Proposal) (name : String) : Option Level :=
  match p.kind, p.provided with
  | .course, none => Level.parse? name
  | _, provided => provided

/-- Check the request and build the offering it asks for. -/
def toOffering (p : Proposal) (id : OfferingId) (now : Timestamp) : Except Failure Offering := do
  if p.complaints ≠ [] then
    .error ⟨.validation, "Invalid offering: " ++ Complaint.lines p.complaints, none⟩
  let name := Text.trim p.name
  if name.isEmpty then
    .error ⟨.validation, "Name must not be blank", none⟩
  Offering.checkKindCapacity p.kind p.capacity
  .ok { Offering.ofKind p.kind id now name p.capacity p.required with
    provided := p.confers name, status := p.status }

end Proposal

/-! ## New capacities -/

/-- A request for a new capacity. -/
structure CapacityChange where
  capacity : Int32
  deriving DecidableEq, Repr, Inhabited

/-- Check the shape of the request. -/
def CapacityChange.check (c : CapacityChange) : Except Failure Unit :=
  match capacityComplaint c.capacity with
  | [] => .ok ()
  | complaints => .error ⟨.validation, "Invalid capacity: " ++ Complaint.lines complaints, none⟩

end DiveSchool
