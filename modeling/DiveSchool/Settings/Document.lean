import DiveSchool.Settings.Schema
import DiveSchool.Json.Document

/-!
# `DiveSchool.Settings.Document` — settings as JSON

Here no value is taken for one of another type.

## Contents
- **Writing.** `Settings.toJson`.
- **Reading.** `Json.reading` and `Settings.ofJson?`.
-/

namespace DiveSchool

open Json

/-! ## Writing -/

/-- Write settings. -/
def Settings.toJson (s : Settings) : Json :=
  .object [
    ("database", .object [
      ("url", s.database.url),
      ("max_connections", int s.database.maxConnections.toNat),
      ("min_connections", int s.database.minConnections.toNat),
      ("connect_timeout_seconds", int s.database.connectTimeout.toNat),
      ("idle_timeout_seconds", int s.database.idleTimeout.toNat)]),
    ("booking", .object [
      ("store", s.booking.backend.name),
      ("eligibility_strategy", s.booking.strategy.name),
      ("lock_timeout_ms", int s.booking.lockTimeout.toNat),
      ("reference", .object [
        ("unique", s.booking.reference.unique),
        ("max_attempts", int s.booking.reference.maxAttempts.toNat)])]),
    ("logging", .object [("level", s.logging.level), ("format", s.logging.format)])]

/-! ## Reading -/

/-- How JSON values are taken. -/
def Json.reading : Reading Json where
  slots := slots?
  text := text?
  word := word?
  truth := bool?
  nat := nat?

/-- Read settings. -/
def Settings.ofJson? (j : Json) : Option Settings := Json.reading.settings j

end DiveSchool
