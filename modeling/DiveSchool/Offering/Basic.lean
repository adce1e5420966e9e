import DiveSchool.Certification
import DiveSchool.Uuid
import DiveSchool.Timestamp

/-!
# `DiveSchool.Offering.Basic` — what the school offers

An offering is a course or a trip with a number of spots. Both kinds share one contract; they differ
in the greatest capacity and in the level they confer.

## Contents
- **Kinds.** `Kind`: a course may have any number of spots, a trip at most fifty.
- **Publication.** `Status`: only a published offering is seen and accepts bookings.
- **Offerings.** `Offering` and its constructors `Offering.course` and `Offering.trip`.
- **Failures.** `Offering.unknown`, `Offering.duplicate`.
-/

namespace DiveSchool

/-! ## Kinds -/

/-- The two kinds of offering. -/
inductive Kind where
  /-- Training, which may confer a level. -/
  | course
  /-- A guided dive trip. -/
  | trip
  deriving DecidableEq, Repr, Inhabited

namespace Kind

/-- Both kinds. -/
def all : List Kind := [course, trip]

/-- The name of the kind. -/
def name : Kind → String
  | course => "course"
  | trip => "trip"

instance : ToString Kind := ⟨name⟩

/-- The greatest capacity the catalogue accepts. -/
def maxCapacity? : Kind → Option Int32
  | course => none
  | trip => some 50

/-- The kind with a given name. -/
def ofName? (text : String) : Option Kind := all.find? (·.name == text)

/-- A text that names no kind. -/
def unknownFailure (text : String) : Failure :=
  ⟨.validation, s!"Invalid offering kind: '{text}'. Expected one of: course, trip", none⟩

/-- Read a kind, ignoring case and the blanks around it. -/
def parse (text : String) : Except Failure Kind :=
  match ofName? (Text.toLower (Text.trim text)) with
  | some k => .ok k
  | none => .error (unknownFailure text)

end Kind

/-! ## Publication -/

/-- Where an offering stands in the life of the catalogue. -/
inductive Status where
  /-- In preparation. -/
  | draft
  /-- Seen by customers and open for bookings. -/
  | published
  /-- Retired. -/
  | archived
  deriving DecidableEq, Repr

namespace Status

instance : Inhabited Status := ⟨published⟩

/-- The three stations. -/
def all : List Status := [draft, published, archived]

/-- The name in data. -/
def name : Status → String
  | draft => "draft"
  | published => "published"
  | archived => "archived"

/-- The name shown to people. -/
def displayName : Status → String
  | draft => "Draft"
  | published => "Published"
  | archived => "Archived"

instance : ToString Status := ⟨displayName⟩

/-- Whether customers see the offering. -/
def isVisible (s : Status) : Bool := s == published

/-- Whether the catalogue may still change the offering. -/
def isEditable (s : Status) : Bool := s != archived

/-- Whether new bookings are accepted. -/
def acceptsBookings (s : Status) : Bool := s == published

/-- The status with a given name. -/
def ofName? (text : String) : Option Status := all.find? (·.name == text)

/-- A text that names no status. -/
def unknownFailure (text : String) : Failure :=
  ⟨.validation,
    s!"Invalid publication status: '{text}'. Expected one of: draft, published, archived", none⟩

/-- Read a status, ignoring case and the blanks around it. -/
def parse (text : String) : Except Failure Status :=
  match ofName? (Text.toLower (Text.trim text)) with
  | some s => .ok s
  | none => .error (unknownFailure text)

end Status

/-! ## Offerings -/

/-- A course or a trip with its counter of bookings. -/
structure Offering where
  id : OfferingId
  kind : Kind
  name : String
  /-- The number of spots. -/
  capacity : Int32
  /-- The number of spots booked. -/
  bookings : Int32
  /-- The level a holder needs. -/
  required : Option Level
  /-- The level the offering confers. -/
  provided : Option Level
  status : Status
  createdAt : Timestamp
  updatedAt : Timestamp
  deriving DecidableEq, Repr, Inhabited

namespace Offering

/-- A published offering without bookings that confers nothing. -/
def plain (id : OfferingId) (now : Timestamp) (kind : Kind) (name : String) (capacity : Int32)
    (required : Option Level) : Offering :=
  { id, kind, name, capacity, required, bookings := 0, provided := none, status := .published,
    createdAt := now, updatedAt := now }

/-- A course confers the level that its name names. -/
def course (id : OfferingId) (now : Timestamp) (name : String) (capacity : Int32)
    (required : Option Level) : Offering :=
  { plain id now .course name capacity required with provided := Level.parse? name }

/-- A trip confers no level. -/
def trip (id : OfferingId) (now : Timestamp) (name : String) (capacity : Int32)
    (required : Option Level) : Offering :=
  plain id now .trip name capacity required

/-- An offering of the given kind, conferring what that kind confers by itself. -/
def ofKind (kind : Kind) (id : OfferingId) (now : Timestamp) (name : String) (capacity : Int32)
    (required : Option Level) : Offering :=
  match kind with
  | .course => course id now name capacity required
  | .trip => trip id now name capacity required

/-! ## Failures -/

/-- No offering has this id. -/
def unknown (id : OfferingId) : Failure := ⟨.notFound, s!"Offering {id} not found", none⟩

/-- An offering with this id is there already. -/
def duplicate (id : OfferingId) : Failure := ⟨.conflict, s!"Offering {id} already exists", none⟩

end Offering

end DiveSchool
