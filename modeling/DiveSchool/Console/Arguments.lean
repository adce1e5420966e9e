import DiveSchool.Text.Reader

/-!
# `DiveSchool.Console.Arguments` — arguments of a command line

Switches are written `--name value`, `--name=value`, `-n value`, `-nvalue` or `-n=value`; letters of
switches without a value may be joined. A value that starts with a hyphen must be attached, a lone hyphen
excepted. After `--` every argument is an operand.

## Contents
- **Switches.** `Switch`, `Operand`, and `Stop`, why reading ends early.
- **Arguments.** `Token`, what an argument looks like.
- **Reading.** `Given`, `State`, `State.step`; `readCommandName` stops at the name of a command,
  `Signature.read` reads to the end.
-/

namespace DiveSchool.Console

open Text

/-! ## Switches -/

/-- Why reading the arguments ends without a command. -/
inductive Stop where
  /-- The arguments are not understood. -/
  | misuse
  /-- The version is asked for. -/
  | version
  /-- Help is asked for, on the command at the end of a path of names, in full or as a summary. -/
  | help (path : List String) (full : Bool)
  deriving DecidableEq, Repr, Inhabited

/-- The same reason, met below a command of a given name. -/
def Stop.under (name : String) : Stop → Stop
  | help path full => help (name :: path) full
  | other => other

/-- What a switch does. -/
inductive SwitchKind where
  /-- It is there or it is not. -/
  | flag
  /-- It has a value of a certain form. -/
  | value (accepts : String → Bool)
  /-- It ends the reading; written as a letter and by its name it may do so in two ways. -/
  | stop (letter name : Stop)

/-- A switch with its long name and its letter. -/
structure Switch where
  name : String
  letter : Option Char := none
  kind : SwitchKind
  /-- What it is for. -/
  about : String
  /-- Whether it must be there. -/
  required : Bool := false
  /-- Its value where it is not given. -/
  preset : Option String := none
  /-- The values it may have, with what they stand for, if they are few. -/
  choices : List (String × String) := []

namespace Switch

/-- A switch without a value. -/
def flag (name about : String) : Switch := { name, about, kind := .flag }

/-- A switch with any value. -/
def text (name about : String) : Switch := { name, about, kind := .value fun _ => true }

/-- A switch with a value that can be read. -/
def readable {α : Type} (name about : String) (read : String → Option α) : Switch :=
  { name, about, kind := .value fun s => (read s).isSome }

/-- The switch that asks for help. -/
def help : Switch where
  name := "help"
  letter := some 'h'
  kind := .stop (.help [] false) (.help [] true)
  about := "Print help"

/-- A switch that must be there. -/
def must (s : Switch) : Switch := { s with required := true }

end Switch

/-- An argument that is known by its place. -/
structure Operand where
  name : String
  about : String
  accepts : String → Bool := fun _ => true

/-! ## Arguments -/

/-- What an argument looks like. -/
inductive Token where
  /-- The mark after which there are operands only. -/
  | escape
  /-- A long name, with an attached value if there is one. -/
  | long (name : String) (attached : Option String)
  /-- Letters of switches, the last of them perhaps with its value. -/
  | letters (cs : List Char)
  /-- Anything else. -/
  | plain
  deriving DecidableEq, Repr

/-- Tell what an argument looks like. -/
def Token.of (arg : String) : Token :=
  match arg.toList with
  | ['-', '-'] => escape
  | '-' :: '-' :: rest =>
    match splitOnce ['='] rest with
    | some (name, attached) => long (String.ofList name) (some (String.ofList attached))
    | none => long (String.ofList rest) none
  | '-' :: c :: rest => letters (c :: rest)
  | _ => plain

/-! ## Reading -/

/-- The switches and operands that were given. -/
structure Given where
  values : List (String × String) := []
  operands : List String := []
  deriving DecidableEq, Repr, Inhabited

namespace Given

/-- The value of a switch. -/
def value? (g : Given) (name : String) : Option String := g.values.lookup name

/-- Whether a switch was given. -/
def has (g : Given) (name : String) : Bool := (g.value? name).isSome

/-- Add a switch, which must not be there already. -/
def add (g : Given) (name value : String) : Except Stop Given :=
  if g.has name then .error .misuse else .ok { g with values := g.values ++ [(name, value)] }

end Given

/-- How far the reading has come. -/
structure State where
  given : Given := {}
  /-- The switch that waits for its value. -/
  pending : Option Switch := none
  escaped : Bool := false

namespace State

/-- Give a switch its value. -/
def accept (s : State) (switch : Switch) (value : String) : Except Stop State :=
  match switch.kind with
  | .value accepts =>
    if accepts value then do
      let given ← s.given.add switch.name value
      .ok { s with given, pending := none }
    else .error .misuse
  | _ => .error .misuse

/-- Meet a switch, written as a letter or by its name. -/
def meet (s : State) (switch : Switch) (byLetter : Bool) (attached : Option String) :
    Except Stop State :=
  match switch.kind, attached with
  | .flag, none => do
    let given ← s.given.add switch.name ""
    .ok { s with given }
  | .stop letter name, none => .error (if byLetter then letter else name)
  | .value _, none =>
    if s.given.has switch.name then .error .misuse else .ok { s with pending := some switch }
  | .value _, some value => s.accept switch value
  | _, some _ => .error .misuse

/-- Meet letters of switches. -/
def meetLetters (switches : List Switch) (s : State) : List Char → Except Stop State
  | [] => .ok s
  | c :: rest =>
    match switches.find? (·.letter = some c) with
    | none => .error .misuse
    | some switch =>
      match switch.kind, rest with
      | .value _, [] => s.meet switch true none
      | .value _, '=' :: value => s.meet switch true (some (String.ofList value))
      | .value _, value => s.meet switch true (some (String.ofList value))
      | _, rest => do
        let s ← s.meet switch true none
        meetLetters switches s rest

/-- Meet an argument that is no operand and no value. -/
def meetToken (switches : List Switch) (s : State) : Token → Except Stop State
  | .escape => .ok { s with escaped := true }
  | .long name attached =>
    match switches.find? (·.name = name) with
    | some switch => s.meet switch false attached
    | none => .error .misuse
  | .letters cs => s.meetLetters switches cs
  | .plain => .error .misuse

/-- Take an operand, if there is one left to take. -/
def takeOperand (operands : List Operand) (s : State) (arg : String) : Except Stop State :=
  match operands[s.given.operands.length]? with
  | some operand =>
    if operand.accepts arg then
      .ok { s with given := { s.given with operands := s.given.operands ++ [arg] } }
    else .error .misuse
  | none => .error .misuse

end State

/-- Read switches up to the name of a command: what was given, the name, and the arguments after it. -/
def readCommandName (switches : List Switch) :
    State → List String → Except Stop (Given × String × List String)
  | _, [] => .error .misuse
  | s, arg :: rest =>
    match s.pending, Token.of arg with
    | some switch, .plain => do readCommandName switches (← s.accept switch arg) rest
    | some _, _ => .error .misuse
    | none, .plain => .ok (s.given, arg, rest)
    | none, .escape => .error .misuse
    | none, token => do readCommandName switches (← s.meetToken switches token) rest

/-- What a command takes. -/
structure Signature where
  switches : List Switch := []
  operands : List Operand := []

namespace Signature

/-- Read one argument. -/
def step (sig : Signature) (s : State) (arg : String) : Except Stop State :=
  if s.escaped then s.takeOperand sig.operands arg
  else match s.pending, Token.of arg with
    | some switch, .plain => s.accept switch arg
    | some _, _ => .error .misuse
    | none, .plain => s.takeOperand sig.operands arg
    | none, token => s.meetToken (.help :: sig.switches) token

/-- Read all arguments. Every operand must be there. -/
def read (sig : Signature) (args : List String) : Except Stop Given := do
  let s ← args.foldlM sig.step {}
  if s.pending.isSome ∨ s.given.operands.length < sig.operands.length then .error .misuse
  else .ok s.given

end Signature

end DiveSchool.Console
