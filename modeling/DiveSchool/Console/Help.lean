import DiveSchool.Console.Command

/-!
# `DiveSchool.Console.Help` — what is shown to those who ask for help

A page says what a command is for, how it is written, and what it takes. Names stand in a column of their
own, with what they mean beside them. Where a switch has choices to explain, the page comes in two
lengths: a summary, and a full one that puts every explanation on lines of its own.

## Contents
- **Switches.** How one is written, and what is noted about its values.
- **Pages.** `Page`, its synopsis and its sections, `Page.lines`.
- **Commands.** `pageOf?`, the page at the end of a path of names.
-/

namespace DiveSchool.Console

namespace Switch

/-! ## Switches -/

/-- What stands for the value. -/
def placeholder (s : Switch) : String :=
  "<" ++ (s.name.map fun c => if c = '-' then '_' else c.toUpper) ++ ">"

/-- The long name, and what stands for the value if it takes one. -/
def longForm (s : Switch) : String :=
  "--" ++ s.name ++ (match s.kind with
    | .value _ => " " ++ s.placeholder
    | _ => "")

/-- The letter and the long name. -/
def spelled (s : Switch) : String :=
  (match s.letter with
    | some c => "-" ++ c.toString ++ ", "
    | none => "    ") ++ s.longForm

/-- What is noted about its value when it is not given. -/
def presetNote (s : Switch) : List String :=
  match s.preset with
  | some value => [s!"[default: {value}]"]
  | none => []

/-- What is noted about the values it may have. -/
def choiceNote (s : Switch) : List String :=
  if s.choices.isEmpty then []
  else ["[possible values: " ++ ", ".intercalate (s.choices.map Prod.fst) ++ "]"]

/-- Whether it is no more than a question to the program. -/
def isQuestion (s : Switch) : Bool :=
  match s.kind with
  | .stop .. => true
  | _ => false

end Switch

/-! ## Pages -/

/-- What is known of a command, a group or the program. -/
structure Page where
  /-- The names that lead here. -/
  path : List String
  about : String
  /-- What can follow, by name. -/
  commands : List (String × String) := []
  /-- How each operand is written, and what it is. -/
  operands : List (String × String) := []
  switches : List Switch := []

namespace Page

/-- Names in one column and their explanations in the next. -/
def columns (entries : List (String × String)) : List String :=
  let widest := (entries.map fun e => e.1.length).foldl max 0
  entries.map fun e =>
    "  " ++ e.1 ++ String.ofList (List.replicate (widest + 2 - e.1.length) ' ') ++ e.2

/-- Whether there is more to say than fits the summary. -/
def hasMore (p : Page) : Bool := p.switches.any fun s => !s.choices.isEmpty

/-- The name of the program. -/
def programName : String := "oceandive"

/-- How the command is written. -/
def synopsis (p : Page) : String :=
  let words := programName :: p.path
    ++ (if p.switches.any fun s => !s.required && !s.isQuestion then ["[OPTIONS]"] else [])
    ++ (p.switches.filter (·.required)).map Switch.longForm
    ++ p.operands.map Prod.fst
    ++ (if p.commands.isEmpty then [] else ["<COMMAND>"])
  "Usage: " ++ " ".intercalate words

/-- A section under its heading, if there is something in it. -/
def titled (heading : String) (content : List String) : List String :=
  if content.isEmpty then [] else "" :: (heading ++ ":") :: content

/-- What a switch of the page is for; help itself may come in two lengths. -/
def aboutSwitch (p : Page) (full : Bool) (s : Switch) : String :=
  if s.name = Switch.help.name ∧ p.hasMore then
    s.about ++ (if full then " (see a summary with '-h')" else " (see more with '--help')")
  else s.about

/-- Switches with a line for each. -/
def summary (p : Page) : List String :=
  columns (p.switches.map fun s =>
    (s.spelled, " ".intercalate (p.aboutSwitch false s :: s.presetNote ++ s.choiceNote)))

/-- How far explanations on lines of their own are set in. -/
def margin : String := String.ofList (List.replicate 10 ' ')

/-- The choices of a switch with what they stand for. -/
def choiceLines (s : Switch) : List String :=
  if s.choices.isEmpty then []
  else
    let widest := (s.choices.map fun c => c.1.length).foldl max 0
    "" :: (margin ++ "Possible values:") :: s.choices.map fun c =>
      margin ++ "- " ++ c.1 ++ ":" ++ String.ofList (List.replicate (widest + 1 - c.1.length) ' ')
        ++ c.2

/-- A switch with lines of its own. -/
def fullSwitch (p : Page) (s : Switch) : List String :=
  ("  " ++ s.spelled) :: (margin ++ p.aboutSwitch true s)
    :: s.presetNote.flatMap (fun note => [margin, margin ++ note]) ++ choiceLines s

/-- Switches with lines of their own, and an empty line between any two. -/
def fullSwitches (p : Page) : List String :=
  match p.switches.map p.fullSwitch with
  | [] => []
  | first :: rest => first ++ rest.flatMap ("" :: ·)

/-- The page. -/
def lines (p : Page) (full : Bool) : List String :=
  [p.about, "", p.synopsis]
    ++ titled "Commands" (columns p.commands)
    ++ titled "Arguments" (columns p.operands)
    ++ titled "Options" (if full && p.hasMore then p.fullSwitches else p.summary)

end Page

/-! ## Commands -/

/-- The name that asks for help, among the commands. -/
def helpCommand : String × String :=
  (helpName, "Print this message or the help of the given subcommand(s)")

/-- The page of the program. -/
def rootPage : Page where
  path := []
  about := "Dive-school booking and eligibility engine with an administration CLI"
  commands := groups.map (fun g => (g.name, g.about)) ++ [helpCommand]
  switches := rootSwitches

/-- The page of a group. -/
def Group.page (g : Group) : Page where
  path := [g.name]
  about := g.about
  commands := g.entries.map (fun e => (e.name, e.about)) ++ [helpCommand]
  switches := [.help]

/-- The page of a command of a group. -/
def Entry.page (group : String) (e : Entry) : Page where
  path := [group, e.name]
  about := e.about
  operands := e.signature.operands.map fun o => (s!"<{o.name}>", o.about)
  switches := e.signature.switches ++ [.help]

/-- The page of the command that asks for help, below a path of names. -/
def helpPage (path : List String) : Page where
  path := path ++ [helpName]
  about := helpCommand.2
  operands := [("[COMMAND]...", "Print help for the subcommand(s)")]

/-- The page of a name in a group. -/
def Group.pageOf? (g : Group) (name : String) : Option Page :=
  if name = helpName then some (helpPage [g.name]) else (g.find? name).map (Entry.page g.name)

/-- The page at the end of a path of names. -/
def pageOf? : List String → Option Page
  | [] => some rootPage
  | [group] => if group = helpName then some (helpPage []) else (findGroup? group).map Group.page
  | [group, name] => (findGroup? group).bind fun g => g.pageOf? name
  | _ => none

end DiveSchool.Console
