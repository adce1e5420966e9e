import DiveSchool.Text.Width.Sequence

/-!
# `DiveSchool.Text.Width` — how many columns a text takes

## Contents
- **Widths.** `measure`, `width`, and `padTo`, which fills up with blanks.
- **Sums.** `width_append`: when the columns of two texts add up.
- **Columns of their own.** `StandsAlone`, and `width_padTo`: a text that fits is filled up exactly.
-/

namespace DiveSchool.Text

/-- The columns of a text, and what the text is for a character before it. -/
def measure (cs : List Char) : Int × After :=
  cs.foldr
    (fun c (total, after) =>
      let (n, after) := step c after
      (total + n, after))
    (0, {})

/-- The number of columns of a text. -/
def width (cs : List Char) : Nat := (measure cs).1.toNat

/-- A text filled up with blanks to a number of columns. -/
def padTo (columns : Nat) (cs : List Char) : List Char :=
  cs ++ List.replicate (columns - width cs) ' '

/-! ## Sums -/

@[simp]
theorem measure_nil : measure [] = (0, {}) := rfl

theorem measure_cons (c : Char) (cs : List Char) :
    measure (c :: cs) =
      ((measure cs).1 + (step c (measure cs).2).1, (step c (measure cs).2).2) := rfl

theorem owed_measure (cs : List Char) : (measure cs).2.sequel.owed ≤ (measure cs).1 := by
  induction cs with
  | nil => decide
  | cons c cs ih =>
    have := owed_step c (measure cs).2
    rw [measure_cons]
    dsimp only
    omega

/-- What is measured is a number of columns. -/
theorem width_eq_measure (cs : List Char) : (width cs : Int) = (measure cs).1 :=
  Int.toNat_of_nonneg (Int.le_trans (Sequel.owed_nonneg _) (owed_measure cs))

/-- What nothing is drawn with changes nothing in front of it. -/
theorem measure_append {ds : List Char} (h : (measure ds).2 = {}) (cs : List Char) :
    measure (cs ++ ds) = ((measure cs).1 + (measure ds).1, (measure cs).2) := by
  induction cs with
  | nil =>
    rw [List.nil_append, measure_nil, Int.zero_add, ← h]
  | cons c cs ih =>
    rw [List.cons_append, measure_cons, ih, measure_cons, Int.add_right_comm]

/-- The columns of two texts add up if nothing is drawn with the start of the second. -/
theorem width_append {ds : List Char} (h : (measure ds).2 = {}) (cs : List Char) :
    width (cs ++ ds) = width cs + width ds := by
  have both := width_eq_measure (cs ++ ds)
  have first := width_eq_measure cs
  have second := width_eq_measure ds
  rw [measure_append h] at both
  omega

/-! ## Columns of their own -/

/-- Whether a character takes one column whatever stands next to it. -/
def StandsAlone (c : Char) : Prop :=
  c.toNat < 0xA1 ∧ takesSelector c = false ∧ c ≠ '\n' ∧ c ≠ '\r'

instance (c : Char) : Decidable (StandsAlone c) := inferInstanceAs (Decidable (_ ∧ _))

theorem StandsAlone.step {c : Char} (h : StandsAlone c) (after : After) : step c after = (1, {}) := by
  obtain ⟨hlow, hselector, hfeed, hreturn⟩ := h
  simp [Text.step, hlow, hselector, hfeed, hreturn]

theorem StandsAlone.measure_cons {c : Char} (h : StandsAlone c) (cs : List Char) :
    measure (c :: cs) = ((measure cs).1 + 1, {}) := by
  rw [Text.measure_cons, h.step]

theorem StandsAlone.width_cons {c : Char} (h : StandsAlone c) (cs : List Char) :
    width (c :: cs) = width cs + 1 := by
  have whole := width_eq_measure (c :: cs)
  have rest := width_eq_measure cs
  rw [h.measure_cons] at whole
  omega

theorem StandsAlone.measure_replicate {c : Char} (h : StandsAlone c) (n : Nat) :
    measure (List.replicate n c) = ((n : Int), {}) := by
  induction n with
  | zero => rfl
  | succ n ih => rw [List.replicate_succ, h.measure_cons, ih, Int.natCast_succ]

theorem StandsAlone.width_replicate {c : Char} (h : StandsAlone c) (n : Nat) :
    width (List.replicate n c) = n := by
  rw [width, h.measure_replicate, Int.toNat_natCast]

/-- A text that fits is filled up exactly. -/
theorem width_padTo {columns : Nat} {cs : List Char} (h : width cs ≤ columns) :
    width (padTo columns cs) = columns := by
  have hblank : StandsAlone ' ' := by decide
  rw [padTo, width_append (congrArg Prod.snd (hblank.measure_replicate _)), hblank.width_replicate]
  omega

end DiveSchool.Text
