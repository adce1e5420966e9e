import DiveSchool.Desk.Basic

/-!
# `DiveSchool.Settings.Basic` — the settings of the program

## Contents
- **Sections.** `DatabaseSettings`, `BookingSettings`, `LoggingSettings`; every setting has a default.
- **Settings.** `Settings`, and the desk they describe.
-/

namespace DiveSchool

/-! ## Sections -/

/-- How the database is reached. -/
structure DatabaseSettings where
  url : String := "postgres://localhost:5432/oceandive"
  maxConnections : UInt32 := 20
  minConnections : UInt32 := 2
  /-- How long a connection may take, in seconds. -/
  connectTimeout : UInt64 := 10
  /-- How long a connection may be idle, in seconds. -/
  idleTimeout : UInt64 := 300
  deriving DecidableEq, Repr, Inhabited

/-- Whether a connection can be had: one may be open, and it is waited for. -/
def DatabaseSettings.allowsConnection (d : DatabaseSettings) : Bool :=
  d.maxConnections != 0 && d.connectTimeout != 0

/-- Where counters and records are kept. -/
inductive Backend where
  | memory
  | postgres
  deriving DecidableEq, Repr, Inhabited

namespace Backend

/-- Both places. -/
def all : List Backend := [memory, postgres]

/-- The name of the place. -/
def name : Backend → String
  | memory => "memory"
  | postgres => "postgres"

instance : ToString Backend := ⟨name⟩

/-- The place with a given name. -/
def ofName? (text : String) : Option Backend := all.find? (·.name == text)

end Backend

/-- How the desk works. -/
structure BookingSettings where
  backend : Backend := .memory
  strategy : StrategyKind := .ordinal
  /-- How long to wait for a lock, in milliseconds. -/
  lockTimeout : UInt64 := 5000
  reference : ReferenceRule := {}
  deriving DecidableEq, Repr, Inhabited

/-- What is logged, and how. -/
structure LoggingSettings where
  level : String := "info"
  format : String := "pretty"
  deriving DecidableEq, Repr, Inhabited

/-! ## Settings -/

/-- All settings. -/
structure Settings where
  database : DatabaseSettings := {}
  booking : BookingSettings := {}
  logging : LoggingSettings := {}
  deriving DecidableEq, Repr, Inhabited

namespace Settings

/-- The settings when nothing is set. -/
def default : Settings := {}

/-- The desk that the settings describe. -/
def desk (s : Settings) : Desk := ⟨.ofKind s.booking.strategy, s.booking.reference⟩

/-- The offerings are to be kept in a database, and there is none. -/
def databaseRequired : Failure :=
  ⟨.configuration, "The postgres offering store requires a database pool", none⟩

/-- Check that the place where offerings are kept can be had. -/
def checkBackend (s : Settings) (connected : Bool) : Except Failure Unit :=
  if s.booking.backend = .postgres ∧ !connected then .error databaseRequired else .ok ()

end Settings

end DiveSchool
