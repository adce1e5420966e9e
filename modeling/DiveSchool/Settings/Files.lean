import DiveSchool.Text.Blank
import DiveSchool.Text.Reader

/-!
# `DiveSchool.Settings.Files` — files by their paths

A path is a text with names between slashes. It is looked up step by step, so that every step but the
last has to lead into a directory; a directory is there when some file lies in it.

## Contents
- **Paths.** `pathSteps`, `pathNames`, `isAbsolute`; `fileName?`, `extension?`, `parent?`, `joined` and
  `withEnding`.
- **Files.** `Files`, `Files.walk` and `Files.read?`.
-/

namespace DiveSchool.Settings

open Text

/-! ## Paths -/

/-- The name of the directory above. -/
def above : List Char := ['.', '.']

/-- The steps of a path, empty ones included. -/
def pathSteps (path : String) : List (List Char) := pieces (· == '/') path.toList

/-- Whether a step of a path stays where it is. -/
def staysHere (step : List Char) : Bool := step.isEmpty || step == ['.']

/-- The names on a path, without steps that stay. -/
def pathNames (path : String) : List (List Char) := (pathSteps path).filter (!staysHere ·)

/-- Whether a path starts at the root of all directories. -/
def isAbsolute (path : String) : Bool := path.toList.head? == some '/'

/-- The last name on a path, unless it leads back. -/
def fileName? (path : String) : Option (List Char) :=
  (pathNames path).getLast?.filter (· != above)

/-- What stands behind the last point of a name, if something stands in front of it. -/
def extension? (name : List Char) : Option (List Char) :=
  match splitLast '.' name with
  | some (before, after) => if before.isEmpty then none else some after
  | none => none

/-- A text without slashes and steps that stay at its start, when it is read backwards. -/
def dropStays : List Char → List Char
  | '/' :: rest => dropStays rest
  | '.' :: '/' :: rest => dropStays rest
  | cs => cs

/-- A path up to the end of its last name. -/
def upToName (path : List Char) : List Char := (dropStays path.reverse).reverse

/-- A path with an ending added to its last name. -/
def withEnding (path : String) (ending : String) : String :=
  String.ofList (upToName path.toList) ++ "." ++ ending

/-- The path of the directory that a path stands in. -/
def parent? (path : String) : Option String :=
  let cs := upToName path.toList
  if cs.isEmpty then none
  else match splitLast '/' cs with
    | none => some ""
    | some (before, _) =>
      let dir := upToName before
      some (if dir.isEmpty && isAbsolute path then "/" else String.ofList dir)

/-- A path taken from a directory. An absolute path stays as it is. -/
def joined (dir path : String) : String :=
  if isAbsolute path || dir.isEmpty then path
  else if dir.toList.getLast? == some '/' then dir ++ path
  else dir ++ "/" ++ path

/-! ## Files -/

/-- Files with their contents, by path. -/
abbrev Files := List (String × String)

namespace Files

/-- Whether some file lies below a place. -/
def isDirectory (files : Files) (place : List (List Char)) : Bool :=
  place.isEmpty || files.any fun f =>
    place.isPrefixOf (pathNames f.1) && place.length < (pathNames f.1).length

/-- The place that some steps lead to, from a place on. -/
def walk (files : Files) (place : List (List Char)) :
    List (List Char) → Option (List (List Char))
  | [] => some place
  | step :: rest =>
    if !files.isDirectory place then none
    else if staysHere step then walk files place rest
    else if step = above then (if place.isEmpty then none else walk files place.dropLast rest)
    else walk files (place ++ [step]) rest

/-- The content of the file at a path. A file that is listed under this very path is it. -/
def read? (files : Files) (path : String) : Option String :=
  match files.lookup path with
  | some content => some content
  | none =>
    if isAbsolute path then none
    else (files.walk [] (pathSteps path)).bind fun place =>
      (files.find? fun f => pathNames f.1 = place).map Prod.snd

end Files

end DiveSchool.Settings
