import DiveSchool.Settings.Files
import DiveSchool.Settings.Format

/-!
# `DiveSchool.Settings.Load` — where the settings come from

A base file, an overlay beside it for the environment, and variables, in ascending order of priority. A
missing file is an empty layer.

## Contents
- **Files.** `candidates` for a name, `Files.find?`, `overlayName`, `fileNames`.
- **Failures.** Not well formed, or not settings.
- **Loading.** `Settings.ofToml` and `Settings.load`.
-/

namespace DiveSchool.Settings

open Text

/-! ## Files -/

/-- The paths at which the file of a name is looked for when there is none of exactly this name, and
    what each would be written in. -/
def candidates (name : String) : List (String × Format) :=
  match fileName? name with
  | none => []
  | some _ => Format.endings.map fun e => (withEnding name e.1, e.2)

/-- What a file is written in, by the ending of its name. -/
def formatOf? (name : String) : Option Format :=
  ((fileName? name).bind extension?).bind Format.ofEnding?

/-- The content of the file of a name and what it is written in. A file of exactly this name hides those
    with an ending, even if it is of no known format. -/
def Files.find? (files : Files) (name : String) : Option (Format × String) :=
  match files.read? name with
  | some content => (formatOf? name).map fun format => (format, content)
  | none => (candidates name).findSome? fun c => (files.read? c.1).map fun content => (c.2, content)

/-- The name of the overlay for an environment, beside the base file. -/
def overlayName (path env : String) : String :=
  match parent? path with
  | some dir => joined dir env
  | none => env

/-- Every file that settings may come from. -/
def fileNames (path : String) (env : Option String) : List String :=
  let names (name : String) : List String := name :: (candidates name).map Prod.fst
  names path ++ (env.map fun e => names (overlayName path e)).getD []

/-! ## Failures -/

/-- A document that does not follow its grammar. -/
def notWellFormed : String := "the document is not well formed"

/-- A document that holds something else than settings. -/
def notSettings : Failure :=
  ⟨.configuration, "Failed to deserialize config: a setting has a value of the wrong kind", none⟩

/-- A file that does not follow its grammar. -/
def notBuilt : Failure := ⟨.configuration, s!"Failed to build config: {notWellFormed}", none⟩

/-! ## Loading -/

/-- The settings that a stack of layers gives. -/
def ofStack (layers : List Layer) : Except Failure Settings :=
  match Value.reading.settings (stack layers) with
  | some s => .ok s
  | none => .error notSettings

/-- The settings in a document. -/
def ofToml (document : String) : Except Failure Settings :=
  match Toml.parse? document with
  | some layer => ofStack [layer]
  | none => .error (.ofSettings notWellFormed)

/-- The content of a file without a byte-order mark at its start. -/
def dropMark (content : String) : String :=
  match content.toList with
  | '\uFEFF' :: rest => String.ofList rest
  | _ => content

/-- The layer of the file of a name. -/
def fileLayer (files : Files) (name : String) : Except Failure Layer :=
  match files.find? name with
  | none => .ok []
  | some (format, content) =>
    match format.read? (dropMark content) with
    | some layer => .ok layer
    | none => .error notBuilt

/-- The settings from the base file, the overlay of an environment if there is one, and the variables. -/
def load (files : Files) (vars : List (String × String)) (path : String)
    (env : Option String) : Except Failure Settings := do
  let base ← fileLayer files path
  let overlay ← match env with
    | some env => fileLayer files (overlayName path env)
    | none => .ok []
  ofStack [base, overlay, ofVariables vars]

end DiveSchool.Settings
