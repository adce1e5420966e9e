import DiveSchool.Text.Blank
import DiveSchool.Text.Casing.Upper
import DiveSchool.Text.Casing.Lower

/-!
# `DiveSchool.Text.Casing` — upper and lower case

Case mapping follows the default mapping of the Unicode standard, character by character, so that a
character may become several: `ß` becomes `SS` and `İ` becomes `i` with a dot above.

## Contents
- **Characters.** `upper` and `lower`.
- **Texts.** `upperList`, `lowerList` and their `String` forms `toUpper`, `toLower`.
-/

namespace DiveSchool.Text

/-- The upper case of a character. -/
def upper (c : Char) : List Char :=
  if 'a' ≤ c && c ≤ 'z' then [Char.ofNat (c.toNat - 32)]
  else if c.toNat < 0x80 then [c]
  else caseImage upperSpans upperExpansions c

/-- The lower case of a character. -/
def lower (c : Char) : List Char :=
  if 'A' ≤ c && c ≤ 'Z' then [Char.ofNat (c.toNat + 32)]
  else if c.toNat < 0x80 then [c]
  else caseImage lowerSpans lowerExpansions c

/-- The upper case of a text. -/
def upperList (cs : List Char) : List Char := cs.flatMap upper

/-- The lower case of a text. -/
def lowerList (cs : List Char) : List Char := cs.flatMap lower

/-- `upperList` on strings. -/
def toUpper (s : String) : String := String.ofList (upperList s.toList)

/-- `lowerList` on strings. -/
def toLower (s : String) : String := String.ofList (lowerList s.toList)


end DiveSchool.Text
