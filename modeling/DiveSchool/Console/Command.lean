import DiveSchool.Console.Arguments
import DiveSchool.Console.Grid
import DiveSchool.Offering.Basic

/-!
# `DiveSchool.Console.Command` — the commands

## Contents
- **Commands.** `Command` and `Invocation`, a command with the switches before it.
- **Table.** `groups`, the name, the signature and the meaning of every command.
- **Reading.** `Invocation.parse`.
-/

namespace DiveSchool.Console

/-! ## Commands -/

/-- What can be asked for. Levels of a check are read when it is carried out, others beforehand. -/
inductive Command where
  | migrate
  | listLevels
  | checkLevels (holder required provided : Option String)
  | createOffering (kind : Kind) (name : String) (capacity : Int32)
      (required provided : Option Level) (draft : Bool)
  | showOffering (id : String)
  | listOfferings
  | setCapacity (id : String) (capacity : Int32)
  | archive (id : String)
  | publish (id : String)
  | book (id firstName lastName email : String) (level : Option Level) (guest : Bool)
  | release (id : String)
  | cancel (reference : String)
  | availability (id : String)
  | listBookings (id : String)
  deriving DecidableEq, Repr, Inhabited

/-- Where the settings are unless another place is given. -/
def defaultSettingsPath : String := "config/default.toml"

/-- A command with the switches before it. -/
structure Invocation where
  settingsPath : String := defaultSettingsPath
  format : Format := .table
  command : Command
  deriving DecidableEq, Repr

/-! ## Table -/

/-- A number of 32 bits in digits. -/
def readInt32? (text : String) : Option Int32 :=
  match Text.intOfList? text.toList with
  | some i => if -2147483648 ≤ i ∧ i ≤ 2147483647 then some (Int32.ofInt i) else none
  | none => none

/-- A kind by its name. -/
def readKind? (text : String) : Option Kind := (Kind.parse text).toOption

/-- A command of a group: its name, what it is for, what it takes, and what it means. -/
structure Entry where
  name : String
  about : String
  signature : Signature := {}
  meaning : Given → Option Command

/-- Commands on one subject. -/
structure Group where
  name : String
  about : String
  entries : List Entry

/-- The operand that names an offering. -/
def offeringOperand (name : String) : Operand := { name, about := "Offering ID" }

/-- A command that takes one operand. -/
def unary (name about : String) (operand : Operand) (meaning : String → Command) : Entry where
  name := name
  about := about
  signature := { operands := [operand] }
  meaning g := g.operands.head?.map meaning

/-- A command that takes nothing. -/
def nullary (name about : String) (meaning : Command) : Entry where
  name := name
  about := about
  meaning _ := some meaning

/-- The command that checks eligibility. -/
def checkEntry : Entry where
  name := "check"
  about := "Check whether a holder level qualifies for a requirement"
  signature := { switches := [
    .text "holder" "Holder's level; omit for a holder without certification",
    .text "required" "Required prerequisite level",
    .text "provides" "Level the offering confers, if it is a certification course"] }
  meaning g := some (.checkLevels (g.value? "holder") (g.value? "required") (g.value? "provides"))

/-- The command that creates an offering. -/
def createEntry : Entry where
  name := "create"
  about := "Create a course or trip"
  signature := { switches := [
    (Switch.readable "kind" "`course` or `trip`" readKind?).must,
    (Switch.text "name" "Course name or trip location").must,
    (Switch.readable "capacity" "Total number of spots" readInt32?).must,
    .readable "requires" "Prerequisite certification level" Level.parse?,
    .readable "provides" "Certification conferred on completion" Level.parse?,
    .flag "draft" "Create as a draft instead of publishing"] }
  meaning g := do
    let kind ← (g.value? "kind").bind readKind?
    let name ← g.value? "name"
    let capacity ← (g.value? "capacity").bind readInt32?
    return .createOffering kind name capacity ((g.value? "requires").bind Level.parse?)
      ((g.value? "provides").bind Level.parse?) (g.has "draft")

/-- The command that changes a capacity. -/
def capacityEntry : Entry where
  name := "capacity"
  about := "Change the capacity of an offering"
  signature := { operands := [
    offeringOperand "ID",
    { name := "CAPACITY", about := "New capacity", accepts := fun s => (readInt32? s).isSome }] }
  meaning g := match g.operands with
    | [id, capacity] => (readInt32? capacity).map (.setCapacity id)
    | _ => none

/-- The command that books. -/
def bookEntry : Entry where
  name := "book"
  about := "Book one spot on an offering"
  signature := {
    switches := [
      (Switch.text "name" "Holder's first name").must,
      { Switch.text "last-name" "Holder's last name" with preset := some "" },
      { Switch.text "email" "Holder's email" with preset := some "" },
      .readable "certification" "Holder's certification level" Level.parse?,
      .flag "guest" "Book as a guest rather than a registered customer"]
    operands := [offeringOperand "OFFERING_ID"] }
  meaning g := do
    let id ← g.operands.head?
    let firstName ← g.value? "name"
    return .book id firstName ((g.value? "last-name").getD "") ((g.value? "email").getD "")
      ((g.value? "certification").bind Level.parse?) (g.has "guest")

/-- Every command. -/
def groups : List Group :=
  [{ name := "migrate"
     about := "Database migration management"
     entries := [nullary "run" "Run all pending migrations" .migrate] },
   { name := "certifications"
     about := "Certification levels and eligibility checks"
     entries := [
       nullary "list" "List every certification level in rank order" .listLevels,
       checkEntry] },
   { name := "offering"
     about := "Offering catalog management"
     entries := [
       createEntry,
       unary "show" "Show one offering" (offeringOperand "ID") .showOffering,
       nullary "list" "List all offerings" .listOfferings,
       capacityEntry,
       unary "archive" "Stop accepting bookings" (offeringOperand "ID") .archive,
       unary "publish" "Start accepting bookings" (offeringOperand "ID") .publish] },
   { name := "booking"
     about := "Booking and release"
     entries := [
       bookEntry,
       unary "release" "Free one spot on an offering" (offeringOperand "OFFERING_ID") .release,
       unary "cancel" "Cancel a booking by its reference"
         { name := "REFERENCE", about := "Booking reference" } .cancel,
       unary "availability" "Show capacity counters of an offering"
         (offeringOperand "OFFERING_ID") .availability,
       unary "list" "List bookings of an offering" (offeringOperand "OFFERING_ID")
         .listBookings] }]

/-- The group of a name. -/
def findGroup? (name : String) : Option Group := groups.find? (·.name = name)

/-- The command of a name in a group. -/
def Group.find? (g : Group) (name : String) : Option Entry := g.entries.find? (·.name = name)

/-! ## Reading -/

/-- The switches before a command. -/
def rootSwitches : List Switch :=
  [{ name := "config"
     letter := some 'c'
     kind := .value fun _ => true
     about := "Path to configuration file"
     preset := some defaultSettingsPath },
   { name := "format"
     letter := some 'f'
     kind := .value fun s => (Format.ofName? s).isSome
     about := "Output format"
     preset := some (Format.table).name
     choices := [("table", "Human-readable table"), ("json", "JSON output")] },
   .help,
   { name := "version"
     letter := some 'V'
     kind := .stop .version .version
     about := "Print version" }]

/-- The name that asks for help in the place of a command. -/
def helpName : String := "help"

/-- Why reading ends at a name that is no command: names after the one that asks for help say on what;
    they must lead somewhere. -/
def unknownName (leads : List String → Bool) (name : String) (rest : List String) : Stop :=
  if name = helpName ∧ leads rest then .help rest true else .misuse

/-- Whether names lead to a command of a group, or to the group itself. -/
def Group.leads (g : Group) : List String → Bool
  | [] => true
  | [name] => name = helpName || (g.find? name).isSome
  | _ => false

/-- Whether names lead to a group, a command or the program itself. -/
def leads : List String → Bool
  | [] => true
  | name :: rest => (name = helpName && rest.isEmpty) || (findGroup? name).any (·.leads rest)

/-- Read a command of a group. -/
def Group.parse (g : Group) (args : List String) : Except Stop Command := do
  let (_, name, args) ← readCommandName [.help] {} args
  match g.find? name with
  | none => .error (unknownName g.leads name args)
  | some entry =>
    let given ← (entry.signature.read args).mapError (Stop.under name)
    match entry.meaning given with
    | some command => .ok command
    | none => .error .misuse

/-- Read all arguments. -/
def Invocation.parse (args : List String) : Except Stop Invocation := do
  let (given, name, args) ← readCommandName rootSwitches {} args
  match findGroup? name with
  | none => .error (unknownName leads name args)
  | some group =>
    let command ← (group.parse args).mapError (Stop.under name)
    return {
      settingsPath := (given.value? "config").getD defaultSettingsPath
      format := ((given.value? "format").bind Format.ofName?).getD .table
      command }

end DiveSchool.Console
