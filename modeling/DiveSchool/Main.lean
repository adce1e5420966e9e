import DiveSchool.Console.Program
import Std.Time.DateTime.Timestamp

/-!
# `DiveSchool.Main` — the program

Gathers what a run needs from around the program, lets `Console.run` decide, and writes what it says. No
database server is reached from here; commands that need one say so.
-/

namespace DiveSchool.Console

/-- The file at a path with its content, if it is there and holds text. -/
def readFile? (path : String) : IO (Option (String × String)) := do
  try
    return some (path, ← IO.FS.readFile path)
  catch _ =>
    return none

/-- A variable with its value, if it is set. -/
def readVariable? (name : String) : IO (Option (String × String)) := do
  return (← IO.getEnv name).map fun value => (name, value)

/-- A number drawn at random from a number of bytes. -/
def randomNat (bytes : USize) : IO Nat := do
  return (← IO.getRandomBytes bytes).toList.foldl (fun n b => n * 256 + b.toNat) 0

/-- The present moment. -/
def present : IO Timestamp := do
  let now := (← Std.Time.Timestamp.now).toNanosecondsSinceUnixEpoch.val
  return ⟨Int.fdiv now 1000000000, (Int.fmod now 1000000000).toNat⟩

/-- What the program finds around it. -/
def surroundings (path : String) : IO Environment := do
  let environment ← readVariable? environmentVariable
  let files ← (Settings.fileNames path (environment.map Prod.snd)).filterMapM readFile?
  let vars ← (Settings.paths.map Settings.variableName).filterMapM readVariable?
  return {
    files
    vars := environment.toList ++ vars
    database := .error "no database server can be reached"
    occasion := {
      now := ← present
      freshId := Uuid.ofRandom (BitVec.ofNat 128 (← randomNat 16))
      generator := .seeded (← randomNat 8).toUInt64 } }

/-- Run the program with its arguments: write what it says, and return its exit code. -/
def runProgram (args : List String) : IO UInt32 := do
  let path := match Invocation.parse args with
    | .ok invocation => invocation.settingsPath
    | .error _ => defaultSettingsPath
  let (outcome, _) := run args (← surroundings path)
  IO.print (Outcome.textOf outcome.output)
  IO.eprint (Outcome.textOf outcome.errors)
  return outcome.code

end DiveSchool.Console

/-- The entry of the program. -/
def main (args : List String) : IO UInt32 := DiveSchool.Console.runProgram args
