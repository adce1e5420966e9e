import DiveSchool.Text.Casing
import DiveSchool.Uuid
import DiveSchool.Table

/-!
# `DiveSchool.Reference` — booking references

A reference is the offering's name, the holder's first name and a number of three digits, joined by
underscores. Names lose their blanks and are put in upper case; a blank name gives way to a
placeholder. The number comes from a stream of random words.

## Contents
- **Suffixes.** `Suffix`, a number from 100 to 999, and `Suffix.ofWords`, which draws one evenly.
- **Draws.** `Generator`, a stream of words and how many are used up, from a list or from a seed.
- **Text.** `segment`, `lead` and `reference`.
- **Registry.** `Registry`, the references in use and the offering of each.
-/

namespace DiveSchool

/-! ## Suffixes -/

/-- A number of three digits. -/
structure Suffix where
  value : Nat
  low : 100 ≤ value
  high : value ≤ 999
  deriving DecidableEq

namespace Suffix

/-- The number of suffixes. -/
def span : Nat := 900

/-- The number of words of 32 bits. -/
def wordCount : Nat := 4294967296

/-- Whether the first word leaves the choice between two neighbours to a second one. -/
def needsSecond (word : UInt32) : Bool :=
  decide (wordCount - span < word.toNat * span % wordCount)

/-- The suffix a word stands for: its share of the span, rounded down. -/
def ofWord (word : UInt32) : Suffix :=
  ⟨100 + word.toNat * span / wordCount, by simp [span, wordCount], by
    have := word.toNat_lt
    simp only [span, wordCount]
    omega⟩

/-- The suffix that two words stand for when the first leaves a choice: the second one carries. -/
def ofTwoWords (first second : UInt32) (h : needsSecond first = true) : Suffix :=
  let carry := wordCount ≤ first.toNat * span % wordCount + second.toNat * span / wordCount
  ⟨100 + first.toNat * span / wordCount + (if carry then 1 else 0),
    by simp only [span, wordCount]; omega, by
    have := first.toNat_lt
    have := of_decide_eq_true h
    simp only [span, wordCount] at this ⊢
    split <;> omega⟩

/-- The suffix as three digits. -/
def toText (s : Suffix) : String := toString s.value

instance : ToString Suffix := ⟨toText⟩

instance : Inhabited Suffix := ⟨⟨100, by decide, by decide⟩⟩

end Suffix

/-! ## Draws -/

/-- A source of random words and the number of words used up. -/
structure Generator where
  word : Nat → UInt32
  used : Nat

namespace Generator

/-- A source that repeats a list of words for ever; an empty list stands for zeros. -/
def cycling (words : List UInt32) : Generator :=
  ⟨fun i => words.getD (i % words.length) 0, 0⟩

instance : Inhabited Generator := ⟨cycling []⟩

/-- Spread the bits of a word over all its places. -/
def scramble (z : UInt64) : UInt64 :=
  let z := (z ^^^ (z >>> 30)) * 0xBF58476D1CE4E5B9
  let z := (z ^^^ (z >>> 27)) * 0x94D049BB133111EB
  z ^^^ (z >>> 31)

/-- A source that a seed determines: the upper halves of scrambled, evenly spaced words. -/
def seeded (seed : UInt64) : Generator :=
  ⟨fun i => (scramble (seed + (i + 1).toUInt64 * 0x9E3779B97F4A7C15) >>> 32).toUInt32, 0⟩

/-- Draw a suffix: one word, or two when the first leaves a choice. -/
def draw (g : Generator) : Suffix × Generator :=
  let first := g.word g.used
  if h : Suffix.needsSecond first then
    (Suffix.ofTwoWords first (g.word (g.used + 1)) h, { g with used := g.used + 2 })
  else (Suffix.ofWord first, { g with used := g.used + 1 })

end Generator

/-! ## Text -/

/-- A name without blanks in upper case, or the placeholder if nothing is left of it. -/
def segment (placeholder : String) (name : Option String) : String :=
  let kept := Text.squeezeList (name.getD "").toList
  if kept.isEmpty then placeholder else String.ofList (Text.upperList kept)

/-- What stands for an offering without a name. -/
def offeringPlaceholder : String := "OFFERING"

/-- What stands for a holder without a name. -/
def holderPlaceholder : String := "GUEST"

/-- What every reference to an offering of this name starts with. -/
def lead (offering : Option String) : String := segment offeringPlaceholder offering ++ "_"

/-- What every reference of this holder to this offering starts with. -/
def stem (offering holder : Option String) : String :=
  lead offering ++ segment holderPlaceholder holder ++ "_"

/-- The reference of a holder to an offering with a given suffix. -/
def reference (offering holder : Option String) (suffix : Suffix) : String :=
  stem offering holder ++ suffix.toText

/-! ## Registry -/

/-- The references in use, each with the offering it was issued for. -/
abbrev Registry := Table String OfferingId

namespace Registry

/-- Take a reference that nobody has; `none` if someone does. -/
def claim? (r : Registry) (reference : String) (id : OfferingId) : Option Registry :=
  if r.contains reference then none else some (r.insert reference id)

end Registry

end DiveSchool
