import DiveSchool.Text.Casing
import DiveSchool.Failure

/-!
# `DiveSchool.Certification` — levels of certification

Six levels, totally ordered by rank. A holder without a level counts as a non-diver; an offering
without a requirement admits everyone.

## Contents
- **Levels.** `Level`, `Level.rank`, `Level.ofRank?`, `Level.next?` and the order `Level.meets`.
- **Names.** The canonical, the short and the full name of each level.
- **Requirements.** `Level.satisfies`, where either side may be absent.
- **Reading.** `Level.parse`: any of the three names, whatever the case and spacing.
-/

namespace DiveSchool

/-! ## Levels -/

/-- A diver's qualification. -/
inductive Level where
  | nonDiver
  | openWater
  | advancedOpenWater
  | rescueDiver
  | divemaster
  | instructor
  deriving DecidableEq, Repr

namespace Level

/-- A person without a level is a non-diver. -/
instance : Inhabited Level := ⟨nonDiver⟩

/-- Every level in ascending rank. -/
def all : List Level :=
  [nonDiver, openWater, advancedOpenWater, rescueDiver, divemaster, instructor]

/-- The rank, from 0 for a non-diver to 5 for an instructor. -/
def rank : Level → Nat
  | nonDiver => 0
  | openWater => 1
  | advancedOpenWater => 2
  | rescueDiver => 3
  | divemaster => 4
  | instructor => 5

/-- The level of a rank. -/
def ofRank? (rank : Nat) : Option Level := all[rank]?

/-- Whether a level is at least another. -/
def meets (l required : Level) : Bool := required.rank ≤ l.rank

/-- The next level up. -/
def next? (l : Level) : Option Level := ofRank? (l.rank + 1)

/-- Rescue Diver or higher. -/
def isAdvanced (l : Level) : Bool := l.meets rescueDiver

/-- Divemaster or higher. -/
def isProfessional (l : Level) : Bool := l.meets divemaster

/-! ## Names -/

/-- The name in data and on the command line, upper case with underscores. -/
def canonicalName : Level → String
  | nonDiver => "NON_DIVER"
  | openWater => "OPEN_WATER"
  | advancedOpenWater => "ADVANCED_OPEN_WATER"
  | rescueDiver => "RESCUE_DIVER"
  | divemaster => "DIVEMASTER"
  | instructor => "INSTRUCTOR"

/-- The short name shown to people. -/
def displayName : Level → String
  | nonDiver => "Non Diver"
  | openWater => "Open Water"
  | advancedOpenWater => "Advanced Open Water"
  | rescueDiver => "Rescue Diver"
  | divemaster => "Divemaster"
  | instructor => "Instructor"

/-- The long name shown to people. -/
def fullName : Level → String
  | nonDiver => "Beginner (No Certification)"
  | openWater => "Open Water Diver"
  | advancedOpenWater => "Advanced Open Water Diver"
  | rescueDiver => "Rescue Diver"
  | divemaster => "Dive Master"
  | instructor => "Instructor"

/-- The short names of all levels, with commas between. -/
def allDisplayNames : String := ", ".intercalate (all.map displayName)

instance : ToString Level := ⟨displayName⟩

/-- The level with a given canonical name. -/
def ofCanonicalName? (text : String) : Option Level := all.find? (·.canonicalName == text)

theorem ofCanonicalName?_canonicalName (l : Level) :
    ofCanonicalName? l.canonicalName = some l := by cases l <;> rfl

/-! ## Requirements -/

/-- A holder's level where one is declared, else that of a non-diver. -/
def ofHolder (holder : Option Level) : Level := holder.getD nonDiver

/-- Whether a holder meets a requirement; no requirement is always met. -/
def satisfies (holder required : Option Level) : Bool :=
  match required with
  | none => true
  | some r => (ofHolder holder).meets r

/-! ## Reading -/

/-- A text as a canonical name: its words joined by underscores, hyphens made underscores, in upper
    case. -/
def canonicalForm (cs : List Char) : List Char :=
  Text.upperList ((['_'].intercalate (Text.words cs)).map fun c => if c = '-' then '_' else c)

/-- A text as a spoken name: its words joined by single blanks, in lower case. -/
def spokenForm (cs : List Char) : List Char :=
  Text.lowerList ([' '].intercalate (Text.words cs))

/-- Whether a text is one of the names of a level. -/
def isNamedBy (l : Level) (cs : List Char) : Bool :=
  l.canonicalName.toList == canonicalForm cs
    || Text.lowerList l.displayName.toList == spokenForm cs
    || Text.lowerList l.fullName.toList == spokenForm cs

/-- A blank text names no level. -/
def emptyFailure : Failure := ⟨.notFound, "Certification level must not be empty", none⟩

/-- A text that names no level. -/
def unknownFailure (text : String) : Failure :=
  ⟨.notFound,
    s!"Unknown certification level: '{Text.trim text}'. Expected one of: {allDisplayNames}", none⟩

/-- The first level, in ascending rank, that a text names. -/
def parse (text : String) : Except Failure Level :=
  if (Text.words text.toList).isEmpty then .error emptyFailure
  else match all.find? (·.isNamedBy text.toList) with
    | some l => .ok l
    | none => .error (unknownFailure text)

/-- The level that a text names, if any. -/
def parse? (text : String) : Option Level := (parse text).toOption

end Level

end DiveSchool
