import DiveSchool.Text.Casing

/-!
# `DiveSchool.Proofs.Letters` — letters in either case

Among the ASCII characters a letter has one counterpart in the other case, and any other character is its
own; beyond them both mappings follow tables. Upper-casing makes no blank of what is none, and lower-casing
leaves no capital. So a text can be compared by its lower-case letters, in whatever case and however spaced
it is written.

## Contents
- **ASCII.** `cases_of_ascii`; `map_toUpper_eq_iff`, `isBlank_toLower` and `upper_toLower`.
- **Tables.** `caseImage_cases`, for what is not ASCII.
- **Upper case.** `upper_fair`: of what is no blank something is left, and no blank is made.
- **Lower case.** `lower_of_blank`; `isCapital_of_mem_lower`: no capital letter of ASCII is left.
- **Resemblance.** `Resembles`, the texts that differ in blanks and in case; `Resembles.upperList_eq`.
-/

namespace DiveSchool.Text

/-! ## ASCII -/

section Ascii

variable {c : Char}

/-- What holds of the first 128 code points holds of every ASCII character. -/
theorem of_ascii {P : Char → Prop} (h : ∀ n < 128, P (Char.ofNat n)) (hc : c.toNat < 128) : P c := by
  have := h c.toNat hc
  rwa [Char.ofNat_toNat] at this

theorem isBlank_of_isDigit (h : c.isDigit = true) : isBlank c = false := by
  have hascii : c.toNat < 128 := by
    have hle : c.toNat ≤ '9'.toNat := of_decide_eq_true (Bool.and_eq_true_iff.mp h).2
    exact Nat.lt_of_le_of_lt hle (by decide)
  exact of_ascii (P := fun c => c.isDigit = true → isBlank c = false) (by decide +kernel) hascii h

/-- **The two cases** of an ASCII character: both mappings lead to them, each leads back to the other, and
    neither is blank unless the character is. -/
theorem cases_of_ascii (hc : c.toNat < 128) : (upper c = [c.toUpper] ∧ lower c = [c.toLower]) ∧
    c.toLower.toNat < 128 ∧ (c.toLower.toUpper = c.toUpper ∧ c.toUpper.toLower = c.toLower) ∧
    isBlank c.toLower = isBlank c ∧ isBlank c.toUpper = isBlank c := by
  refine of_ascii (P := fun c => (upper c = [c.toUpper] ∧ lower c = [c.toLower]) ∧ c.toLower.toNat < 128 ∧
    (c.toLower.toUpper = c.toUpper ∧ c.toUpper.toLower = c.toLower) ∧ isBlank c.toLower = isBlank c ∧
    isBlank c.toUpper = isBlank c) ?_ hc
  decide +kernel

theorem upper_of_ascii (hc : c.toNat < 128) : upper c = [c.toUpper] := (cases_of_ascii hc).1.1

theorem lower_of_ascii (hc : c.toNat < 128) : lower c = [c.toLower] := (cases_of_ascii hc).1.2

theorem upperList_of_ascii {cs : List Char} (h : ∀ c ∈ cs, c.toNat < 128) :
    upperList cs = cs.map Char.toUpper := by
  induction cs with
  | nil => rfl
  | cons c cs ih =>
      obtain ⟨hc, hcs⟩ := List.forall_mem_cons.mp h
      rw [upperList, List.flatMap_cons, upper_of_ascii hc]
      exact congrArg (c.toUpper :: ·) (ih hcs)

theorem lowerList_of_ascii {cs : List Char} (h : ∀ c ∈ cs, c.toNat < 128) :
    lowerList cs = cs.map Char.toLower := by
  induction cs with
  | nil => rfl
  | cons c cs ih =>
      obtain ⟨hc, hcs⟩ := List.forall_mem_cons.mp h
      rw [lowerList, List.flatMap_cons, lower_of_ascii hc]
      exact congrArg (c.toLower :: ·) (ih hcs)

theorem toLower_of_not_ascii (hc : ¬ c.toNat < 128) : c.toLower = c := by
  refine dif_neg fun hupper => hc ?_
  have hle : c.toNat ≤ 'Z'.toNat := hupper.2
  exact Nat.lt_of_le_of_lt hle (by decide)

/-- Only an ASCII character has the lower case of one. -/
theorem ascii_of_toLower_eq {c d : Char} (h : c.toLower = d.toLower) (hd : d.toNat < 128) : c.toNat < 128 := by
  by_cases hc : c.toNat < 128
  · exact hc
  · rw [toLower_of_not_ascii hc] at h
    rw [h]
    exact (cases_of_ascii hd).2.1

theorem toUpper_of_not_ascii (hc : ¬ c.toNat < 128) : c.toUpper = c := by
  refine dif_neg fun hlower => hc ?_
  have hle : c.toNat ≤ 'z'.toNat := hlower.2
  exact Nat.lt_of_le_of_lt hle (by decide)

theorem toUpper_toLower (c : Char) : c.toLower.toUpper = c.toUpper := by
  by_cases hc : c.toNat < 128
  · exact (cases_of_ascii hc).2.2.1.1
  · rw [toLower_of_not_ascii hc]

theorem toLower_toUpper (c : Char) : c.toUpper.toLower = c.toLower := by
  by_cases hc : c.toNat < 128
  · exact (cases_of_ascii hc).2.2.1.2
  · rw [toUpper_of_not_ascii hc]

/-- Texts that agree in one case agree in the other. -/
theorem map_toUpper_eq_iff {cs ds : List Char} :
    cs.map Char.toUpper = ds.map Char.toUpper ↔ cs.map Char.toLower = ds.map Char.toLower := by
  have hlower : Char.toLower ∘ Char.toUpper = Char.toLower := funext toLower_toUpper
  have hupper : Char.toUpper ∘ Char.toLower = Char.toUpper := funext toUpper_toLower
  constructor
  · intro h
    have h' := congrArg (List.map Char.toLower) h
    rwa [List.map_map, List.map_map, hlower] at h'
  · intro h
    have h' := congrArg (List.map Char.toUpper) h
    rwa [List.map_map, List.map_map, hupper] at h'

/-- Lower case turns nothing into a blank, and no blank into anything else. -/
theorem isBlank_toLower (c : Char) : isBlank c.toLower = isBlank c := by
  by_cases hc : c.toNat < 128
  · exact (cases_of_ascii hc).2.2.2.1
  · rw [toLower_of_not_ascii hc]

/-- The upper case of an ASCII letter does not depend on its case. -/
theorem upper_toLower (c : Char) : upper c.toLower = upper c := by
  by_cases hc : c.toNat < 128
  · rw [upper_of_ascii (cases_of_ascii hc).2.1, upper_of_ascii hc, toUpper_toLower]
  · rw [toLower_of_not_ascii hc]

end Ascii

/-! ## Tables -/

theorem upper_of_not_ascii {c : Char} (hc : ¬ c.toNat < 128) :
    upper c = caseImage upperSpans upperExpansions c := by
  have hletter : ¬ (decide ('a' ≤ c) && decide (c ≤ 'z')) = true := fun hletter => hc <| by
    have hle : c ≤ 'z' := of_decide_eq_true (Bool.and_eq_true_iff.mp hletter).2
    exact Nat.lt_of_le_of_lt hle (by decide)
  rw [upper, if_neg hletter, if_neg hc]

theorem lower_of_not_ascii {c : Char} (hc : ¬ c.toNat < 128) :
    lower c = caseImage lowerSpans lowerExpansions c := by
  have hletter : ¬ (decide ('A' ≤ c) && decide (c ≤ 'Z')) = true := fun hletter => hc <| by
    have hle : c ≤ 'Z' := of_decide_eq_true (Bool.and_eq_true_iff.mp hletter).2
    exact Nat.lt_of_le_of_lt hle (by decide)
  rw [lower, if_neg hletter, if_neg hc]

/-- **A table** leads to what its spans and expansions lead to, or leaves a character alone. -/
theorem caseImage_cases {P : Char → Prop} {spans : List Span} {expansions : List (Nat × List Nat)} {c : Char}
    (hself : P c) (hspans : ∀ s ∈ spans, s.covers c.toNat = true → P (Char.ofNat (s.image c.toNat)))
    (hexpansions : ∀ e ∈ expansions, e.2 ≠ [] ∧ ∀ code ∈ e.2, P (Char.ofNat code)) :
    caseImage spans expansions c ≠ [] ∧ ∀ d ∈ caseImage spans expansions c, P d := by
  unfold caseImage
  split
  · next s hs =>
    have hcovers : s.covers c.toNat = true := List.find?_some (p := fun s : Span => s.covers c.toNat) hs
    have himage := hspans s (List.mem_of_find?_eq_some hs) hcovers
    exact ⟨List.cons_ne_nil _ _, fun d hd => List.mem_singleton.mp hd ▸ himage⟩
  · split
    · next codes hcodes =>
      obtain ⟨l₁, l₂, hl, -⟩ := List.lookup_eq_some_iff.mp hcodes
      obtain ⟨hne, hcode⟩ := hexpansions (c.toNat, codes) (hl ▸ by simp)
      refine ⟨by simpa using hne, fun d hd => ?_⟩
      obtain ⟨code, hmem, rfl⟩ := List.mem_map.mp hd
      exact hcode code hmem
    · exact ⟨List.cons_ne_nil _ _, fun d hd => List.mem_singleton.mp hd ▸ hself⟩

/-! ## Upper case -/

theorem isBlank_ofNat {code : Nat} (h : code ∉ blankCodes) : isBlank (Char.ofNat code) = false := by
  by_cases hvalid : code.isValidChar
  · have hcode : (Char.ofNat code).toNat = code := by
      rw [Char.ofNat, dif_pos hvalid]
      rfl
    rw [isBlank, hcode]
    exact Bool.eq_false_iff.mpr fun hmem => h (List.contains_iff_mem.mp hmem)
  · rw [Char.ofNat, dif_neg hvalid]
    rfl

/-- No span of the upper-case mapping leads to a blank. -/
theorem image_notMem_blankCodes {s : Span} (hs : s ∈ upperSpans) {code : Nat} (h : s.covers code = true) :
    s.image code ∉ blankCodes := by
  have hapart : ∀ s ∈ upperSpans, ∀ b ∈ blankCodes, b < s.target ∨ s.target + (s.last - s.first) < b := by
    decide +kernel
  have hbounds := Span.image_bounds h
  intro hmem
  have := hapart s hs _ hmem
  omega

/-- No expansion is empty or holds a blank. -/
theorem expansion_fair : ∀ e ∈ upperExpansions, e.2 ≠ [] ∧ ∀ code ∈ e.2, code ∉ blankCodes := by
  decide +kernel

/-- **The upper case** of a character that is no blank is not empty and holds no blank. -/
theorem upper_fair {c : Char} (h : isBlank c = false) : upper c ≠ [] ∧ ∀ d ∈ upper c, isBlank d = false := by
  by_cases hc : c.toNat < 128
  · rw [upper_of_ascii hc]
    refine ⟨List.cons_ne_nil _ _, fun d hd => ?_⟩
    rw [List.mem_singleton.mp hd, ← h]
    exact (cases_of_ascii hc).2.2.2.2
  · rw [upper_of_not_ascii hc]
    refine caseImage_cases h (fun s hs hcovers => isBlank_ofNat (image_notMem_blankCodes hs hcovers)) ?_
    intro e he
    obtain ⟨hne, hcode⟩ := expansion_fair e he
    exact ⟨hne, fun code hmem => isBlank_ofNat (hcode code hmem)⟩

/-! ## Lower case -/

/-- The lower case of an ASCII letter does not depend on its case. -/
theorem lower_toLower (c : Char) : lower c.toLower = lower c := by
  by_cases hc : c.toNat < 128
  · have hlower : c.toLower.toLower = c.toLower := by
      rw [← toLower_toUpper c.toLower, toUpper_toLower, toLower_toUpper]
    rw [lower_of_ascii (cases_of_ascii hc).2.1, lower_of_ascii hc, hlower]
  · rw [toLower_of_not_ascii hc]

theorem lowerList_map_toLower (cs : List Char) : lowerList (cs.map Char.toLower) = lowerList cs := by
  rw [lowerList, List.flatMap_map]
  exact congrArg (List.flatMap · cs) (funext lower_toLower)

/-- A blank has no case. -/
theorem lower_of_blank {c : Char} (h : isBlank c = true) : lower c = [c] := by
  have hall : ∀ n ∈ blankCodes, lower (Char.ofNat n) = [Char.ofNat n] := by decide +kernel
  have hc := hall c.toNat (List.contains_iff_mem.mp h)
  rwa [Char.ofNat_toNat] at hc

/-- Whether a character is an upper-case letter of ASCII. -/
def isCapital (c : Char) : Bool := 'A' ≤ c && c ≤ 'Z'

theorem isCapital_ofNat {code : Nat} (h : 'Z'.toNat < code) : isCapital (Char.ofNat code) = false := by
  by_cases hvalid : code.isValidChar
  · have hcode : (Char.ofNat code).toNat = code := by
      rw [Char.ofNat, dif_pos hvalid]
      rfl
    refine Bool.eq_false_iff.mpr fun hcapital => ?_
    have hle : (Char.ofNat code).toNat ≤ 'Z'.toNat := of_decide_eq_true (Bool.and_eq_true_iff.mp hcapital).2
    omega
  · rw [Char.ofNat, dif_neg hvalid]
    rfl

/-- **The lower case** of a character holds no upper-case letter of ASCII. -/
theorem isCapital_of_mem_lower {c d : Char} (hd : d ∈ lower c) : isCapital d = false := by
  by_cases hc : c.toNat < 128
  · rw [lower_of_ascii hc] at hd
    rw [List.mem_singleton.mp hd]
    exact of_ascii (P := fun c => isCapital c.toLower = false) (by decide +kernel) hc
  · have hspans : ∀ s ∈ lowerSpans, 'Z'.toNat < s.target := by decide +kernel
    have hexpansions : ∀ e ∈ lowerExpansions, e.2 ≠ [] ∧ ∀ code ∈ e.2, 'Z'.toNat < code := by decide +kernel
    have hself : isCapital c = false := by
      rw [← Char.ofNat_toNat c]
      exact isCapital_ofNat (Nat.lt_of_lt_of_le (by decide) (Nat.not_lt.mp hc))
    rw [lower_of_not_ascii hc] at hd
    refine (caseImage_cases (P := (isCapital · = false)) hself (fun s hs hcovers => ?_) (fun e he => ?_)).2 d hd
    · exact isCapital_ofNat (Nat.lt_of_lt_of_le (hspans s hs) (Span.image_bounds hcovers).1)
    · exact ⟨(hexpansions e he).1, fun code hmem => isCapital_ofNat ((hexpansions e he).2 code hmem)⟩

/-! ## Resemblance -/

/-- Two texts differ in nothing but their blanks, wherever they stand, and in the case of ASCII letters. -/
inductive Resembles : List Char → List Char → Prop
  | nil : Resembles [] []
  | left {b : Char} {cs ds : List Char} (hb : isBlank b = true) (h : Resembles cs ds) : Resembles (b :: cs) ds
  | right {b : Char} {cs ds : List Char} (hb : isBlank b = true) (h : Resembles cs ds) : Resembles cs (b :: ds)
  | letter {c d : Char} {cs ds : List Char} (hcd : c.toLower = d.toLower) (h : Resembles cs ds) :
      Resembles (c :: cs) (d :: ds)

theorem upperList_map_toLower (cs : List Char) : upperList (cs.map Char.toLower) = upperList cs := by
  rw [upperList, List.flatMap_map]
  exact congrArg (List.flatMap · cs) (funext upper_toLower)

/-- Texts that resemble each other have the same letters. -/
theorem Resembles.map_toLower_eq {cs ds : List Char} (h : Resembles cs ds) :
    (squeezeList cs).map Char.toLower = (squeezeList ds).map Char.toLower := by
  unfold squeezeList
  induction h with
  | nil => rfl
  | left hb _ ih => rwa [List.filter_cons_of_neg (by simp [hb])]
  | right hb _ ih => rwa [List.filter_cons_of_neg (by simp [hb])]
  | @letter c d cs ds hcd _ ih =>
      have hblank : isBlank c = isBlank d := by rw [← isBlank_toLower c, hcd, isBlank_toLower]
      by_cases hb : isBlank d = true
      · rwa [List.filter_cons_of_neg (by simp [hblank, hb]), List.filter_cons_of_neg (by simp [hb])]
      · rw [List.filter_cons_of_pos (by simp [hblank, hb]), List.filter_cons_of_pos (by simp [hb]),
          List.map_cons, List.map_cons, hcd, ih]

/-- Texts with the same letters resemble each other, so that it can be tested. -/
theorem resembles_of_map_toLower_eq {cs ds : List Char}
    (h : (squeezeList cs).map Char.toLower = (squeezeList ds).map Char.toLower) : Resembles cs ds := by
  unfold squeezeList at h
  induction cs generalizing ds with
  | nil =>
      induction ds with
      | nil => exact .nil
      | cons d ds ih =>
          by_cases hd : isBlank d = true
          · exact .right hd (ih (by rwa [List.filter_cons_of_neg (by simp [hd])] at h))
          · simp [List.filter_cons_of_pos (p := (!isBlank ·)) (a := d) (by simp [hd])] at h
  | cons c cs ih =>
      by_cases hc : isBlank c = true
      · exact .left hc (ih (by rwa [List.filter_cons_of_neg (by simp [hc])] at h))
      · -- the next letter of the other text may stand behind blanks
        induction ds with
        | nil => simp [List.filter_cons_of_pos (p := (!isBlank ·)) (a := c) (by simp [hc])] at h
        | cons d ds ihds =>
            by_cases hd : isBlank d = true
            · exact .right hd (ihds (by rwa [List.filter_cons_of_neg (a := d) (by simp [hd])] at h))
            · rw [List.filter_cons_of_pos (by simp [hc]), List.filter_cons_of_pos (by simp [hd]), List.map_cons,
                List.map_cons] at h
              exact .letter (List.cons.inj h).1 (ih (List.cons.inj h).2)

instance (cs ds : List Char) : Decidable (Resembles cs ds) :=
  decidable_of_decidable_of_iff
    (p := (squeezeList cs).map Char.toLower = (squeezeList ds).map Char.toLower)
    ⟨resembles_of_map_toLower_eq, Resembles.map_toLower_eq⟩

/-- **Resemblance** leaves nothing of the difference in a text without blanks and in upper case. -/
theorem Resembles.upperList_eq {cs ds : List Char} (h : Resembles cs ds) :
    upperList (squeezeList cs) = upperList (squeezeList ds) := by
  rw [← upperList_map_toLower, h.map_toLower_eq, upperList_map_toLower]

end DiveSchool.Text
