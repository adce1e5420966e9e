import DiveSchool.Reference
import DiveSchool.Proofs.Letters
import DiveSchool.Proofs.Words

/-!
# `DiveSchool.Proofs.Format` — the form of a reference

Whatever the names are, a reference consists of two segments that are not empty and a number of three digits,
and nothing in it is blank. The number is the share of the span that the next two words of the source stand
for, even where the second one is never read: it is only read when it could matter, and it carries at most
once, never past the last number.

## Contents
- **Numbers.** `Generator.share`, with `Generator.draw_value`; `three_digits`.
- **Segments.** `segment_ne_empty`, `isBlank_of_mem_segment`, `segment_of_blank`, `segment_congr`.
- **References.** `reference_has_form`.
-/

namespace DiveSchool

/-! ## Numbers -/

/-- The number that the next two words of a source stand for: their share of the span, rounded down. -/
def Generator.share (g : Generator) : Nat :=
  100 + 900 * ((g.word g.used).toNat * UInt32.size + (g.word (g.used + 1)).toNat) / (UInt32.size * UInt32.size)

/-- **The suffix drawn** is that share, whether one word is read or two. -/
theorem Generator.draw_value (g : Generator) : g.draw.1.value = g.share := by
  have hsecond := (g.word (g.used + 1)).toNat_lt
  unfold draw share
  dsimp only
  split
  · simp only [Suffix.ofTwoWords]
    split <;> simp only [Suffix.span, Suffix.wordCount, UInt32.size] at * <;> omega
  · next h =>
    -- the second word would not carry, since the first leaves more than it could add
    have hfar := of_decide_eq_false (Bool.eq_false_iff.mpr h)
    simp only [Suffix.ofWord, Suffix.span, Suffix.wordCount, UInt32.size] at hsecond hfar ⊢
    omega

theorem Generator.share_bounds (g : Generator) : 100 ≤ g.share ∧ g.share ≤ 999 :=
  g.draw_value ▸ ⟨g.draw.1.low, g.draw.1.high⟩

/-- A number from 100 to 999 has three digits. -/
theorem three_digits {n : Nat} (hlow : 100 ≤ n) (hhigh : n ≤ 999) :
    (toString n).toList.length = 3 ∧ ∀ c ∈ (toString n).toList, c.isDigit = true := by
  have hdigits : (toString n).toList = Nat.toDigits 10 n := Nat.toList_repr
  have hmost : (Nat.toDigits 10 n).length ≤ 3 :=
    (Nat.length_toDigits_le_iff (by decide) (by decide)).mpr (by omega)
  have hleast : ¬ (Nat.toDigits 10 n).length ≤ 2 := by
    rw [Nat.length_toDigits_le_iff (by decide) (by decide)]
    omega
  rw [hdigits]
  exact ⟨by omega, fun c hc => Nat.isDigit_of_mem_toDigits (by decide) (by decide) hc⟩

/-! ## Segments -/

section Segments

variable {placeholder : String} {name name' : Option String}

theorem segment_of_blank (h : ∀ c ∈ (name.getD "").toList, Text.isBlank c = true) :
    segment placeholder name = placeholder := by
  have hkept : Text.squeezeList (name.getD "").toList = [] :=
    List.filter_eq_nil_iff.mpr fun c hc => by simp [h c hc]
  simp [segment, hkept]

/-- The characters of a segment come from the placeholder or from letters that are no blanks. -/
theorem segment_cases (placeholder : String) (name : Option String) :
    segment placeholder name = placeholder ∨
      ∃ c cs, (∀ d ∈ c :: cs, Text.isBlank d = false) ∧
        (segment placeholder name).toList = Text.upperList (c :: cs) := by
  unfold segment
  cases hkept : Text.squeezeList (name.getD "").toList with
  | nil => exact .inl rfl
  | cons c cs =>
      refine .inr ⟨c, cs, fun d hd => ?_, String.toList_ofList⟩
      rw [← hkept] at hd
      simpa using (List.mem_filter.mp hd).2

theorem segment_ne_empty (h : placeholder ≠ "") : segment placeholder name ≠ "" := by
  rcases segment_cases placeholder name with heq | ⟨c, cs, hfair, heq⟩
  · rwa [heq]
  · intro hempty
    rw [hempty, Text.upperList, List.flatMap_cons] at heq
    exact (Text.upper_fair (hfair c List.mem_cons_self)).1 (List.append_eq_nil_iff.mp heq.symm).1

theorem isBlank_of_mem_segment (h : ∀ c ∈ placeholder.toList, Text.isBlank c = false) :
    ∀ c ∈ (segment placeholder name).toList, Text.isBlank c = false := by
  intro c hc
  rcases segment_cases placeholder name with heq | ⟨d, ds, hfair, heq⟩
  · exact h c (heq ▸ hc)
  · rw [heq] at hc
    obtain ⟨e, he, hc⟩ := List.mem_flatMap.mp hc
    exact (Text.upper_fair (hfair e he)).2 c hc

/-- Names that differ in blanks and in the case of ASCII letters have the same segment. -/
theorem segment_congr (h : Text.Resembles (name.getD "").toList (name'.getD "").toList) :
    segment placeholder name = segment placeholder name' := by
  have hlength := congrArg List.length h.map_toLower_eq
  simp only [List.length_map] at hlength
  unfold segment
  simp only [← List.length_eq_zero_iff, List.isEmpty_iff, hlength, h.upperList_eq]

end Segments

/-! ## References -/

theorem lead_congr {offering offering' : Option String}
    (h : Text.Resembles (offering.getD "").toList (offering'.getD "").toList) :
    lead offering = lead offering' := by
  rw [lead, segment_congr h, lead]

theorem isBlank_of_mem_reference {offering holder : Option String} {suffix : Suffix} :
    ∀ c ∈ (reference offering holder suffix).toList, Text.isBlank c = false := by
  have hoffering : ∀ c ∈ (segment offeringPlaceholder offering).toList, Text.isBlank c = false :=
    isBlank_of_mem_segment (Text.free_of_any (by decide))
  have hholder : ∀ c ∈ (segment holderPlaceholder holder).toList, Text.isBlank c = false :=
    isBlank_of_mem_segment (Text.free_of_any (by decide))
  have hsuffix : ∀ c ∈ suffix.toText.toList, Text.isBlank c = false := fun c hc =>
    Text.isBlank_of_isDigit ((three_digits suffix.low suffix.high).2 c hc)
  have hscore : ∀ c ∈ "_".toList, Text.isBlank c = false := Text.free_of_any (by decide)
  intro c hc
  simp only [reference, stem, lead, String.toList_append, List.mem_append] at hc
  rcases hc with (((hc | hc) | hc) | hc) | hc
  · exact hoffering c hc
  · exact hscore c hc
  · exact hholder c hc
  · exact hscore c hc
  · exact hsuffix c hc

/-- **The form of a reference**, whatever the names and the source of words. It is what the offering's
    references start with, the holder's segment, and a number of three digits, the share that the next two
    words stand for; none of the parts is empty, and nothing is blank. A blank or an absent name makes no
    difference to the placeholder, and neither do blanks nor the case of ASCII letters to a name. -/
theorem reference_has_form (offering holder : Option String) (g : Generator) :
    (∃ name first, name ≠ "" ∧ first ≠ "" ∧ lead offering = name ++ "_" ∧
      stem offering holder = lead offering ++ first ++ "_" ∧
      reference offering holder g.draw.1 = lead offering ++ first ++ "_" ++ toString g.share) ∧
    (100 ≤ g.share ∧ g.share ≤ 999 ∧
      (toString g.share).toList.length = 3 ∧ ∀ c ∈ (toString g.share).toList, c.isDigit = true) ∧
    (∀ c ∈ (reference offering holder g.draw.1).toList, Text.isBlank c = false) ∧
    ((∀ c ∈ (offering.getD "").toList, Text.isBlank c = true) →
      lead offering = lead (some "OFFERING") ∧
      reference offering holder g.draw.1 = reference (some "OFFERING") holder g.draw.1) ∧
    ((∀ c ∈ (holder.getD "").toList, Text.isBlank c = true) →
      reference offering holder g.draw.1 = reference offering (some "GUEST") g.draw.1) ∧
    (∀ offering' holder', Text.Resembles (offering.getD "").toList (offering'.getD "").toList →
      Text.Resembles (holder.getD "").toList (holder'.getD "").toList →
      lead offering = lead offering' ∧ stem offering holder = stem offering' holder') := by
  obtain ⟨hlow, hhigh⟩ := g.share_bounds
  refine ⟨⟨segment offeringPlaceholder offering, segment holderPlaceholder holder,
    segment_ne_empty (by decide), segment_ne_empty (by decide), rfl, rfl, ?_⟩,
    ⟨hlow, hhigh, three_digits hlow hhigh⟩, isBlank_of_mem_reference, fun hblank => ?_, fun hblank => ?_,
    fun offering' holder' hoffering hholder => ⟨lead_congr hoffering, ?_⟩⟩
  · rw [← g.draw_value]
    rfl
  · have hlead : lead offering = lead (some "OFFERING") := by
      rw [lead, segment_of_blank hblank]
      decide +kernel
    exact ⟨hlead, by rw [reference, stem, hlead, reference, stem]⟩
  · have hguest : segment holderPlaceholder (some "GUEST") = holderPlaceholder := by decide +kernel
    rw [reference, stem, segment_of_blank hblank, ← hguest]
    rfl
  · rw [stem, lead_congr hoffering, segment_congr hholder, stem]

namespace Carrying

/-- A source whose first word leaves the choice to a second one, which carries. -/
def source : Generator := .cycling [4772185, 4294967295]

/-- The same with a second word that does not. -/
def lower : Generator := .cycling [4772185, 0]

end Carrying

open Carrying Text in
/-- The second word makes a difference of one; in the first name one letter becomes two, and the other name
    is blank. Neither a wide blank in the middle nor the case of letters makes a difference. -/
theorem carried_reference :
    lower.share = 100 ∧ source.share = 101 ∧
    reference (some "Straße 7") (some " \t") source.draw.1 = "STRASSE7_GUEST_101" ∧
    lead (some "Red Sea Trip") = lead (some "red\u2003seatrip ") := by
  have hshare : source.share = 101 := by decide +kernel
  obtain ⟨-, -, -, -, hguest, -⟩ := reference_has_form (some "Straße 7") (some " \t") source
  obtain ⟨-, -, -, -, -, halike⟩ := reference_has_form (some "Red Sea Trip") none source
  refine ⟨by decide +kernel, hshare, ?_, ?_⟩
  · rw [hguest (List.all_eq_true.mp (by decide))]
    decide +kernel
  · exact (halike (some "red\u2003seatrip ") none (by decide +kernel) .nil).1

end DiveSchool
