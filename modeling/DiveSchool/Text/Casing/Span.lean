/-!
# `DiveSchool.Text.Casing.Span` — stretches of a case mapping

## Contents
- **Spans.** `Span`, its membership test `Span.covers` and its map `Span.image`.
- **Look-up.** `caseImage`, what a table of spans and expansions makes of one character.
-/

namespace DiveSchool.Text

/-! ## Spans -/

/-- Every `step`-th code point from `first` to `last`, the first of which maps to `target` and the
    others to the code points at the same distance. -/
structure Span where
  first : Nat
  last : Nat
  step : Nat
  target : Nat
  deriving DecidableEq, Repr

namespace Span

/-- Whether a code point belongs to the span. -/
def covers (s : Span) (code : Nat) : Bool :=
  s.first ≤ code && code ≤ s.last && (code - s.first) % s.step == 0

/-- What a code point of the span maps to. -/
def image (s : Span) (code : Nat) : Nat := code - s.first + s.target

theorem image_bounds {s : Span} {code : Nat} (h : s.covers code = true) :
    s.target ≤ s.image code ∧ s.image code ≤ s.target + (s.last - s.first) := by
  simp only [covers, Bool.and_eq_true, decide_eq_true_eq] at h
  simp only [image]
  omega

end Span

/-! ## Look-up -/

/-- The mapping of one character: its expansion if it has one, else its image under the span that
    covers it, else the character itself. -/
def caseImage (spans : List Span) (expansions : List (Nat × List Nat)) (c : Char) : List Char :=
  match spans.find? (·.covers c.toNat) with
  | some s => [Char.ofNat (s.image c.toNat)]
  | none =>
    match expansions.lookup c.toNat with
    | some codes => codes.map Char.ofNat
    | none => [c]

end DiveSchool.Text
