import DiveSchool.Settings.Basic
import DiveSchool.Record

/-!
# `DiveSchool.Settings.Schema` — what a document of settings may hold

The sections and their fields are the same in every format; what a format takes for a number or a truth
value is its own affair. A missing section or field has its default, an unknown one is ignored.

## Contents
- **Formats.** `Reading`, how the values of a format are taken.
- **Sections.** One reader for each section, and `Settings.read`.
-/

namespace DiveSchool

/-! ## Formats -/

/-- How the values of a format are taken as parts of a record. -/
structure Reading (ν : Type) where
  /-- The slots of the fields of a record. -/
  slots : List String → ν → Option (List (Slot ν))
  text : ν → Option String
  /-- The name of a choice. -/
  word : ν → Option String
  truth : ν → Option Bool
  /-- A whole number up to a limit. -/
  nat : Nat → ν → Option Nat

namespace Reading

variable {ν : Type}

/-- A number of 32 bits. -/
def nat32 (r : Reading ν) (v : ν) : Option UInt32 := (r.nat 4294967295 v).map Nat.toUInt32

/-- A number of 64 bits. -/
def nat64 (r : Reading ν) (v : ν) : Option UInt64 := (r.nat 18446744073709551615 v).map Nat.toUInt64

/-! ## Sections -/

/-- The section of the database. -/
def database (r : Reading ν) (v : ν) : Option DatabaseSettings := do
  let d : DatabaseSettings := {}
  match ← r.slots ["url", "max_connections", "min_connections", "connect_timeout_seconds",
      "idle_timeout_seconds"] v with
  | [url, most, least, connect, idle] =>
    return {
      url := ← url.withDefault d.url r.text
      maxConnections := ← most.withDefault d.maxConnections r.nat32
      minConnections := ← least.withDefault d.minConnections r.nat32
      connectTimeout := ← connect.withDefault d.connectTimeout r.nat64
      idleTimeout := ← idle.withDefault d.idleTimeout r.nat64 }
  | _ => none

/-- The section of references, within that of bookings. -/
def reference (r : Reading ν) (v : ν) : Option ReferenceRule := do
  let d : ReferenceRule := {}
  match ← r.slots ["unique", "max_attempts"] v with
  | [unique, attempts] =>
    return {
      unique := ← unique.withDefault d.unique r.truth
      maxAttempts := ← attempts.withDefault d.maxAttempts r.nat32 }
  | _ => none

/-- The section of bookings. -/
def booking (r : Reading ν) (v : ν) : Option BookingSettings := do
  let d : BookingSettings := {}
  match ← r.slots ["store", "eligibility_strategy", "lock_timeout_ms", "reference"] v with
  | [backend, strategy, lockTimeout, reference] =>
    return {
      backend := ← backend.withDefault d.backend fun v => (r.word v).bind Backend.ofName?
      strategy := ← strategy.withDefault d.strategy fun v => (r.word v).bind StrategyKind.ofName?
      lockTimeout := ← lockTimeout.withDefault d.lockTimeout r.nat64
      reference := ← reference.withDefault d.reference r.reference }
  | _ => none

/-- The section of logging. -/
def logging (r : Reading ν) (v : ν) : Option LoggingSettings := do
  let d : LoggingSettings := {}
  match ← r.slots ["level", "format"] v with
  | [level, format] =>
    return {
      level := ← level.withDefault d.level r.text
      format := ← format.withDefault d.format r.text }
  | _ => none

/-- A whole document. -/
def settings (r : Reading ν) (v : ν) : Option Settings := do
  match ← r.slots ["database", "booking", "logging"] v with
  | [database, booking, logging] =>
    return {
      database := ← database.withDefault {} r.database
      booking := ← booking.withDefault {} r.booking
      logging := ← logging.withDefault {} r.logging }
  | _ => none

end Reading

end DiveSchool
