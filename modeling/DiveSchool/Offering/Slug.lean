import DiveSchool.Offering.Basic

/-!
# `DiveSchool.Offering.Slug` — the name of an offering in an address

## Contents
- **Letters.** `isAsciiAlnum` and `isSlugBreak`: what is kept of a name, and what separates its words.
- **Slugs.** `slugList` and `Offering.slug`.
-/

namespace DiveSchool

/-! ## Letters -/

/-- Whether a character is an ASCII letter or digit. -/
def isAsciiAlnum (c : Char) : Bool :=
  ('a' ≤ c && c ≤ 'z') || ('A' ≤ c && c ≤ 'Z') || ('0' ≤ c && c ≤ '9')

/-- Whether a character separates the words of a slug. -/
def isSlugBreak (c : Char) : Bool := Text.isBlank c || c == '-'

/-! ## Slugs -/

/-- A name in lower case, without what is neither letter, digit nor break, its words joined by single
    hyphens. -/
def slugList (cs : List Char) : List Char :=
  let kept := (Text.lowerList cs).filter fun c => isAsciiAlnum c || isSlugBreak c
  ['-'].intercalate (Text.runs isSlugBreak kept)

/-- The slug of an offering. -/
def Offering.slug (o : Offering) : String := String.ofList (slugList o.name.toList)

end DiveSchool
