/-!
# `DiveSchool.Failure` — failures of the application

Every part of the school reports what went wrong as one `Failure`: a kind, a message and, where
another failure lies behind it, the text of that cause.

## Contents
- **Kinds.** `FailureKind`, with the code shown to people and the name used in data.
- **Failures.** `Failure`, its display text, and the two classes callers branch on: transient
  faults may be retried, business rules are answers and not faults.
-/

namespace DiveSchool

/-! ## Kinds -/

/-- What sort of failure it is. -/
inductive FailureKind where
  /-- The thing asked for does not exist. -/
  | notFound
  /-- The input breaks a rule. -/
  | validation
  /-- The request clashes with what is there. -/
  | conflict
  /-- The offering has no spot left. -/
  | capacityExceeded
  /-- The holder may not take the offering. -/
  | eligibility
  /-- An invariant does not hold. -/
  | internal
  /-- The database refused a statement. -/
  | database
  /-- The settings are wrong. -/
  | configuration
  /-- A document could not be read as what it should hold. -/
  | serialization
  /-- The service cannot answer for now. -/
  | serviceUnavailable
  deriving DecidableEq, Repr, Inhabited

namespace FailureKind

/-- Every kind, in the order of declaration. -/
def all : List FailureKind :=
  [notFound, validation, conflict, capacityExceeded, eligibility, internal, database,
   configuration, serialization, serviceUnavailable]

/-- The code shown in front of a message. -/
def code : FailureKind → String
  | notFound => "NOT_FOUND"
  | validation => "VALIDATION"
  | conflict => "CONFLICT"
  | capacityExceeded => "CAPACITY_EXCEEDED"
  | eligibility => "ELIGIBILITY"
  | internal => "INTERNAL"
  | database => "DATABASE"
  | configuration => "CONFIGURATION"
  | serialization => "SERIALIZATION"
  | serviceUnavailable => "SERVICE_UNAVAILABLE"

/-- The name of the kind in stored data. -/
def name : FailureKind → String
  | notFound => "NotFound"
  | validation => "Validation"
  | conflict => "Conflict"
  | capacityExceeded => "CapacityExceeded"
  | eligibility => "Eligibility"
  | internal => "Internal"
  | database => "Database"
  | configuration => "Configuration"
  | serialization => "Serialization"
  | serviceUnavailable => "ServiceUnavailable"

/-- The kind with a given name. -/
def ofName? (text : String) : Option FailureKind := all.find? (·.name == text)

theorem ofName?_name (k : FailureKind) : ofName? k.name = some k := by cases k <;> rfl

end FailureKind

/-! ## Failures -/

/-- A failure with its message and the text of what caused it. -/
structure Failure where
  kind : FailureKind
  message : String
  cause : Option String := none
  deriving DecidableEq, Repr, Inhabited

namespace Failure

/-- The failure as it is shown: its code and its message. -/
def display (f : Failure) : String := s!"{f.kind.code}: {f.message}"

instance : ToString Failure := ⟨display⟩

/-- A fault of the infrastructure, worth trying again. -/
def isTransient (f : Failure) : Bool :=
  f.kind == .database || f.kind == .serviceUnavailable

/-- An outcome of the business rules, not a fault. -/
def isBusinessRule (f : Failure) : Bool :=
  f.kind == .capacityExceeded || f.kind == .eligibility

/-- The failure as a copy keeps it: the cause stays behind. -/
def copy (f : Failure) : Failure := { f with cause := none }

/-- A failure of reading or writing. -/
def ofInputOutput (text : String) : Failure :=
  ⟨.internal, s!"I/O error: {text}", some text⟩

/-- A failure of reading a settings document. -/
def ofSettings (text : String) : Failure :=
  ⟨.configuration, s!"Configuration error: {text}", some text⟩

end Failure

end DiveSchool
