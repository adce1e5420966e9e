import DiveSchool.Console.Counter
import DiveSchool.Console.Help
import DiveSchool.Database.Connection
import DiveSchool.Database.Migration
import DiveSchool.Settings.Load

/-!
# `DiveSchool.Console.Program` — from arguments to an outcome

First the arguments are read, then the settings, then the database is opened for the commands that need
it; what fails first ends the program.

## Contents
- **Outcomes.** `Outcome`: the exit code and the lines on the two channels.
- **Commands.** `Command.needsDatabase`, `Command.session`.
- **Program.** `Environment` and `run`.
-/

namespace DiveSchool.Console

/-! ## Outcomes -/

/-- What a run of the program leaves: its exit code and what it wrote. -/
structure Outcome where
  code : UInt32
  output : List String := []
  errors : List String := []
  deriving DecidableEq, Repr, Inhabited

namespace Outcome

/-- A run that ended as it should. -/
def done (output : List String) : Outcome := { code := 0, output }

/-- A run that ended in a failure. -/
def failed (output : List String) (text : String) : Outcome :=
  { code := 1, output, errors := [complaint text] }

/-- Lines as a text. -/
def textOf (lines : List String) : String := String.join (lines.map (· ++ "\n"))

end Outcome

/-- The name of the program and its version. -/
def versionLine : String := s!"{Page.programName} 0.1.0"

/-- What is said when the arguments are not understood. -/
def misuseLines : List String :=
  ["error: the arguments are not understood", "", rootPage.synopsis, "",
   "For more information, try '--help'."]

/-- The outcome when the arguments lead to no command. -/
def Stop.outcome : Stop → Outcome
  | .misuse => { code := 2, errors := misuseLines }
  | .version => .done [versionLine]
  | .help path full =>
    match pageOf? path with
    | some page => .done (page.lines full)
    | none => { code := 2, errors := misuseLines }

/-! ## Commands -/

/-- What is shown before a command is carried out. -/
def Command.opening : Command → List String
  | migrate => ["Running database migrations..."]
  | _ => []

/-- The part of a command that needs no database, for the commands that are no more than that. -/
def Command.direct? (s : Settings) (format : Format) :
    Command → Option (Except Failure (List String))
  | listLevels => some (.ok (showLevels format))
  | checkLevels holder required provided =>
    some (Console.checkLevels s.desk.strategy format holder required provided)
  | _ => none

/-- A command as a session with the database. -/
def Command.session (s : Settings) (occasion : Occasion) (format : Format) :
    Command → Session (List String)
  | migrate => do
    Database.migrate
    return [success "All migrations applied successfully."]
  | listLevels => pure (showLevels format)
  | checkLevels holder required provided =>
    liftM (Console.checkLevels s.desk.strategy format holder required provided)
  | createOffering kind name capacity required provided draft =>
    Console.createOffering occasion.now occasion.freshId
      ⟨kind, name, capacity, required, provided, if draft then .draft else .published⟩
  | showOffering id => Console.showOffering format id
  | listOfferings => Console.listOfferings format
  | setCapacity id capacity => Console.setCapacity occasion.now id capacity
  | archive id => setStatus occasion.now id .archived
  | publish id => setStatus occasion.now id .published
  | book id firstName lastName email level guest =>
    Console.book s.desk occasion id
      (customer occasion.now firstName lastName email level guest)
  | release id => Console.release occasion format id
  | cancel reference => Console.cancel occasion format reference
  | availability id => Console.availability occasion format id
  | listBookings id => Console.listBookings format id

/-- Carry out a command on a database. -/
def Command.run (s : Settings) (occasion : Occasion) (format : Format) (c : Command)
    (db : Database) : Outcome × Database :=
  match c.session s occasion format db with
  | (.ok lines, db) => (.done (c.opening ++ lines), db)
  | (.error failure, db) => (.failed c.opening failure.display, db)

/-! ## Program -/

/-- The variable that names the environment. -/
def environmentVariable : String := "OCEANDIVE_ENV"

/-- What the program finds around it. -/
structure Environment where
  files : Settings.Files
  vars : List (String × String)
  /-- The database, or why it cannot be reached. -/
  database : Except String Database
  occasion : Occasion

/-- No connection came while it was waited for. -/
def noConnection : String := "pool timed out while waiting for an open connection"

/-- Carry out an invocation with its settings. -/
def Invocation.run (i : Invocation) (s : Settings) (e : Environment) :
    Outcome × Except String Database :=
  match i.command.direct? s i.format with
  | some (.ok lines) => (.done lines, e.database)
  | some (.error failure) => (.failed [] failure.display, e.database)
  | none =>
    match e.database with
    | .error reason => (.failed [] (Database.notConnected reason).display, e.database)
    | .ok db =>
      if s.database.allowsConnection then
        let (outcome, db) := i.command.run s e.occasion i.format db
        (outcome, .ok db)
      else (.failed [] (Database.notConnected noConnection).display, .ok db)

/-- The settings could not be loaded. -/
def notLoaded (failure : Failure) : String := s!"Failed to load configuration: {failure}"

/-- Run the program: the outcome, and the database afterwards. -/
def run (args : List String) (e : Environment) : Outcome × Except String Database :=
  match Invocation.parse args with
  | .error stop => (stop.outcome, e.database)
  | .ok i =>
    match Settings.load e.files e.vars i.settingsPath
        (e.vars.lookup environmentVariable) with
    | .error failure => (.failed [] (notLoaded failure), e.database)
    | .ok s => i.run s e

end DiveSchool.Console
