/-!
# `DiveSchool.Text.Reader` — taking things off the front of a text

## Contents
- **Readers.** `Reader`, a partial function from a text to a value and the rest of the text.
- **Characters.** `isSpace` within a line, `isBare` in names without quotes.
- **Digits.** `isDigit`, `digitsValue`, the reader `number` and the writer `padded`.
- **Cuts.** `splitOnce` and `splitLast`, at the first and the last occurrence of a separator.
-/

namespace DiveSchool.Text

/-! ## Readers -/

/-- A reader takes something off the front of a text, or fails. -/
abbrev Reader (α : Type) := List Char → Option (α × List Char)

/-! ## Characters -/

/-- Whether a character is one of the ten ASCII digits. -/
def isDigit (c : Char) : Bool := '0' ≤ c && c ≤ '9'

/-- Whether a character is a blank within a line. -/
def isSpace (c : Char) : Bool := c == ' ' || c == '\t'

/-- Whether a character is a letter of ASCII. -/
def isLetter (c : Char) : Bool := ('a' ≤ c && c ≤ 'z') || ('A' ≤ c && c ≤ 'Z')

/-- Whether a character may stand in a name without quotes. -/
def isBare (c : Char) : Bool := isLetter c || isDigit c || c == '_' || c == '-'

/-! ## Digits -/

/-- The value of a text of digits. -/
def digitsValue (cs : List Char) : Nat := cs.foldl (fun n c => n * 10 + (c.toNat - 48)) 0

/-- One to `width` digits. -/
def number (width : Nat) : Reader Nat := fun cs =>
  let ds := (cs.take width).takeWhile isDigit
  if ds.isEmpty then none else some (digitsValue ds, cs.drop ds.length)

/-- A number with zeros in front up to a width. -/
def padded (width n : Nat) : String :=
  let digits := toString n
  String.ofList (List.replicate (width - digits.length) '0') ++ digits

/-- The number written in a text of digits and nothing else, with a plus sign allowed in front. -/
def natOfList? (cs : List Char) : Option Nat :=
  let ds := match cs with
    | '+' :: rest => rest
    | _ => cs
  if ds.isEmpty || !ds.all isDigit then none else some (digitsValue ds)

/-- The number written in a text of digits with a sign allowed in front. -/
def intOfList? (cs : List Char) : Option Int :=
  match cs with
  | '-' :: rest =>
    if rest.isEmpty || !rest.all isDigit then none else some (-(digitsValue rest : Int))
  | _ => (natOfList? cs).map Int.ofNat

/-! ## Cuts -/

/-- Whether a text starts with another, and what follows it. -/
def dropLead? : (lead cs : List Char) → Option (List Char)
  | [], cs => some cs
  | _ :: _, [] => none
  | l :: lead, c :: cs => if l = c then dropLead? lead cs else none

/-- What stands before and after the first occurrence of a separator. -/
def splitOnce (sep : List Char) : List Char → Option (List Char × List Char)
  | [] => if sep = [] then some ([], []) else none
  | c :: cs =>
    match dropLead? sep (c :: cs) with
    | some rest => some ([], rest)
    | none => (splitOnce sep cs).map fun (before, after) => (c :: before, after)

/-- What stands before and after the last occurrence of a character. -/
def splitLast (sep : Char) : List Char → Option (List Char × List Char)
  | [] => none
  | c :: cs =>
    match splitLast sep cs with
    | some (before, after) => some (c :: before, after)
    | none => if c = sep then some ([], cs) else none

theorem dropLead?_eq_some_iff {lead cs rest : List Char} :
    dropLead? lead cs = some rest ↔ cs = lead ++ rest := by
  induction lead generalizing cs with
  | nil => simp [dropLead?, eq_comm]
  | cons l lead ih =>
    cases cs with
    | nil => simp [dropLead?]
    | cons c cs =>
      by_cases h : l = c
      · simp [dropLead?, h, ih]
      · simp [dropLead?, h, Ne.symm h]

end DiveSchool.Text
