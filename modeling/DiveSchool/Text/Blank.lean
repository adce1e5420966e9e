/-!
# `DiveSchool.Text.Blank` — blanks, runs and trimming

Text is handled as a list of characters; the `String` forms only wrap the list forms.

## Contents
- **Blanks.** `isBlank`, the Unicode `White_Space` property.
- **Runs.** `pieces` cuts at every separator, `runs` keeps the non-empty pieces, `words` are the runs
  between blanks.
- **Trimming.** `trimList` drops the blanks at both ends, `squeezeList` drops every blank.
-/

namespace DiveSchool.Text

/-! ## Blanks -/

/-- The code points that have the Unicode property `White_Space`. -/
def blankCodes : List Nat :=
  [0x09, 0x0A, 0x0B, 0x0C, 0x0D, 0x20, 0x85, 0xA0, 0x1680,
   0x2000, 0x2001, 0x2002, 0x2003, 0x2004, 0x2005, 0x2006, 0x2007, 0x2008, 0x2009, 0x200A,
   0x2028, 0x2029, 0x202F, 0x205F, 0x3000]

/-- Whether a character is a blank. -/
def isBlank (c : Char) : Bool := blankCodes.contains c.toNat

/-! ## Runs -/

/-- The pieces of a text between separators, empty ones included: always one more than separators. -/
def pieces (sep : Char → Bool) : List Char → List (List Char)
  | [] => [[]]
  | c :: cs =>
    if sep c then [] :: pieces sep cs
    else match pieces sep cs with
      | [] => [[c]]
      | piece :: rest => (c :: piece) :: rest

/-- The maximal stretches without a separator. -/
def runs (sep : Char → Bool) (cs : List Char) : List (List Char) :=
  (pieces sep cs).filter (!·.isEmpty)

theorem pieces_ne_nil (sep : Char → Bool) (cs : List Char) : pieces sep cs ≠ [] := by
  cases cs with
  | nil => simp [pieces]
  | cons c cs =>
    simp only [pieces]
    split
    · simp
    · split <;> simp

/-- No piece holds a separator. -/
theorem sep_of_mem_pieces {sep : Char → Bool} {cs piece : List Char} (h : piece ∈ pieces sep cs) :
    ∀ c ∈ piece, sep c = false := by
  induction cs generalizing piece with
  | nil => simp_all [pieces]
  | cons c cs ih =>
    simp only [pieces] at h
    by_cases hc : sep c = true
    · simp only [hc, if_true, List.mem_cons] at h
      rcases h with rfl | h
      · simp
      · exact ih h
    · simp only [Bool.not_eq_true] at hc
      simp only [hc, Bool.false_eq_true, if_false] at h
      split at h
      · simp_all
      · next p rest hp =>
        simp only [List.mem_cons] at h
        rcases h with rfl | h
        · intro d hd
          rcases List.mem_cons.mp hd with rfl | hd
          · exact hc
          · exact ih (by simp [hp]) d hd
        · exact ih (by simp [hp, h])

/-- No run is empty. -/
theorem ne_nil_of_mem_runs {sep : Char → Bool} {cs run : List Char} (h : run ∈ runs sep cs) :
    run ≠ [] := by
  have := (List.mem_filter.mp h).2
  simpa using this

/-- The words of a text: its runs between blanks. -/
def words (cs : List Char) : List (List Char) := runs isBlank cs

/-! ## Trimming -/

/-- The text without the blanks at its start. -/
def trimStartList (cs : List Char) : List Char := cs.dropWhile isBlank

/-- The text without the blanks at its two ends. -/
def trimList (cs : List Char) : List Char :=
  (trimStartList (trimStartList cs).reverse).reverse

/-- The text without any blank. -/
def squeezeList (cs : List Char) : List Char := cs.filter (!isBlank ·)

/-- `trimList` on strings. -/
def trim (s : String) : String := String.ofList (trimList s.toList)

end DiveSchool.Text
