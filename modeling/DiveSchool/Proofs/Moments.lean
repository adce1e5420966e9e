import DiveSchool.Proofs.Calendar
import DiveSchool.Proofs.Letters

/-!
# `DiveSchool.Proofs.Moments` — moments are read as they were written

A moment is written as its date, its time of day and its fraction of a second, each number with a fixed
count of digits and a mark behind it, so that every reader stops where the writer did. What was read is
again a moment that can be written and read.

## Contents
- **Numbers.** `padded` and what `number` reads of it.
- **Marks.** A digit or a mark after which no blanks are skipped.
- **Parts.** Dates, times and fractions.
- **Moments.** `Valid`; `parse?_toText`, and `valid_of_parse?`, the moments that are read.
-/

namespace DiveSchool

namespace Text

variable {w n : Nat} {ds rest : List Char}

/-! ## Numbers -/

/-- A text that does not go on with a digit. -/
def EndsNumber (rest : List Char) : Prop := ∀ c ∈ rest.head?, isDigit c = false

theorem takeWhile_isDigit_append (hds : ∀ c ∈ ds, isDigit c = true) (hrest : EndsNumber rest) :
    (ds ++ rest).takeWhile isDigit = ds := by
  rw [List.takeWhile_append_of_pos hds]
  cases rest with
  | nil => rw [List.takeWhile_nil, List.append_nil]
  | cons c rest =>
      rw [List.takeWhile_cons_of_neg (by rw [hrest c rfl]; exact Bool.false_ne_true), List.append_nil]

theorem EndsNumber.take (h : EndsNumber rest) (k : Nat) : EndsNumber (rest.take k) := by
  intro c hc
  cases k with
  | zero => cases hc
  | succ k =>
      cases rest with
      | nil => cases hc
      | cons d rest => exact h c hc

/-- Digits are read up to where they end. -/
theorem number_append (hne : ds ≠ []) (hds : ∀ c ∈ ds, isDigit c = true) (hlen : ds.length ≤ w)
    (hrest : EndsNumber rest) : number w (ds ++ rest) = some (digitsValue ds, rest) := by
  have htake : ((ds ++ rest).take w).takeWhile isDigit = ds := by
    rw [List.take_append, List.take_of_length_le hlen]
    exact takeWhile_isDigit_append hds (hrest.take _)
  have hempty : ds.isEmpty = false := by rwa [List.isEmpty_eq_false_iff]
  simp only [number, htake, hempty, Bool.false_eq_true, if_false, List.drop_left]

theorem padded_toList (w n : Nat) :
    (padded w n).toList = List.replicate (w - (Nat.toDigits 10 n).length) '0' ++ Nat.toDigits 10 n := by
  have hdigits : (toString n).toList = Nat.toDigits 10 n := Nat.toList_repr
  rw [padded, String.toList_append, String.toList_ofList, hdigits, ← hdigits, String.length_toList]

theorem isDigit_of_mem_padded {c : Char} (hc : c ∈ (padded w n).toList) : isDigit c = true := by
  rw [padded_toList, List.mem_append] at hc
  rcases hc with hc | hc
  · rw [List.eq_of_mem_replicate hc]
    rfl
  · have hdigit := Nat.isDigit_of_mem_toDigits (by decide) (by decide) hc
    exact hdigit

theorem padded_ne_nil (w n : Nat) : (padded w n).toList ≠ [] := by
  rw [padded_toList]
  exact List.append_ne_nil_of_right_ne_nil _ Nat.toDigits_ne_nil

theorem length_padded (hw : 0 < w) (h : n < tenTo w) : (padded w n).toList.length = w := by
  have hlen := (Nat.length_toDigits_le_iff (b := 10) (by decide) hw).mpr h
  rw [padded_toList, List.length_append, List.length_replicate]
  omega

theorem digitsValue_padded (w n : Nat) : digitsValue (padded w n).toList = n := by
  have hvalue : ∀ cs : List Char, digitsValue cs = Nat.ofDigitChars 10 cs 0 := fun cs => by
    rw [Nat.ofDigitChars_eq_foldl]
    exact congrArg (fun f => cs.foldl f 0) (funext fun m => funext fun c => by rw [Nat.mul_comm]; rfl)
  rw [hvalue, padded_toList, Nat.ofDigitChars_append, Nat.ofDigitChars_replicate_zero, Nat.mul_zero,
    Nat.ofDigitChars_ten_toDigits]

theorem digitsValue_lt (hds : ∀ c ∈ ds, isDigit c = true) : digitsValue ds < tenTo ds.length := by
  have hfrom : ∀ (cs : List Char) (m : Nat), (∀ c ∈ cs, isDigit c = true) →
      cs.foldl (fun n c => n * 10 + (c.toNat - 48)) m < (m + 1) * tenTo cs.length := by
    intro cs
    induction cs with
    | nil =>
        intro m _
        show m < (m + 1) * 1
        omega
    | cons c cs ih =>
        intro m h
        have hle : c.toNat ≤ 57 := of_decide_eq_true (Bool.and_eq_true_iff.mp (h c List.mem_cons_self)).2
        calc cs.foldl (fun n c => n * 10 + (c.toNat - 48)) (m * 10 + (c.toNat - 48))
            < (m * 10 + (c.toNat - 48) + 1) * tenTo cs.length := ih _ fun d hd => h d (List.mem_cons_of_mem _ hd)
          _ ≤ ((m + 1) * 10) * tenTo cs.length := Nat.mul_le_mul_right _ (by omega)
          _ = (m + 1) * tenTo (cs.length + 1) := by rw [tenTo_succ, Nat.mul_assoc, Nat.mul_comm 10]
  simpa [digitsValue] using hfrom ds 0 hds

theorem number_padded {k : Nat} (hlen : (padded w n).toList.length ≤ k) (hrest : EndsNumber rest) :
    number k ((padded w n).toList ++ rest) = some (n, rest) := by
  rw [number_append (padded_ne_nil w n) (fun _ => isDigit_of_mem_padded) hlen hrest, digitsValue_padded]

/-! ## Marks -/

theorem trimStartList_cons {c : Char} (h : isBlank c = false) : trimStartList (c :: rest) = c :: rest := by
  rw [trimStartList, List.dropWhile_cons_of_neg (by rw [h]; exact Bool.false_ne_true)]

theorem exists_padded_append (w n : Nat) (rest : List Char) :
    ∃ c cs, isDigit c = true ∧ (padded w n).toList ++ rest = c :: cs := by
  obtain ⟨c, cs, hcs⟩ := List.exists_cons_of_ne_nil (padded_ne_nil w n)
  refine ⟨c, cs ++ rest, isDigit_of_mem_padded (w := w) (n := n) (hcs ▸ List.mem_cons_self), ?_⟩
  rw [hcs, List.cons_append]

theorem trimStartList_padded (w n : Nat) (rest : List Char) :
    trimStartList ((padded w n).toList ++ rest) = (padded w n).toList ++ rest := by
  obtain ⟨c, cs, hc, heq⟩ := exists_padded_append w n rest
  rw [heq, trimStartList_cons (isBlank_of_isDigit hc)]

end Text

namespace Timestamp

open Text

variable {t : Timestamp} {rest : List Char}

/-! ## Parts -/

theorem mark_cons {c : Char} (h : isBlank c = false) : mark c (c :: rest) = some ((), rest) := by
  simp only [mark, trimStartList_cons h, if_true]

theorem bounded_padded {low high n : Nat} (hlow : low ≤ n) (hhigh : n ≤ high) (hn : n < 100)
    (hrest : EndsNumber rest) : bounded low high ((padded 2 n).toList ++ rest) = some (n, rest) := by
  have hlen : (padded 2 n).toList.length ≤ 2 := Nat.le_of_eq (length_padded (by decide) hn)
  simp [bounded, trimStartList_padded, number_padded hlen hrest, hlow, hhigh]

/-- A sign in front of a year tells that it may have more than four digits. -/
theorem yearPart_yearText (year : Int) (hrest : EndsNumber rest) :
    yearPart ((yearText year).toList ++ rest) = some (year, rest) := by
  have hlen : ∀ n, (padded 4 n).toList.length ≤ ((padded 4 n).toList ++ rest).length := fun n => by
    rw [List.length_append]
    omega
  by_cases hfour : 0 ≤ year ∧ year ≤ 9999
  · obtain ⟨c, cs, hc, heq⟩ := exists_padded_append 4 year.toNat rest
    have hmost : (padded 4 year.toNat).toList.length ≤ 4 :=
      Nat.le_of_eq (length_padded (by decide) (show year.toNat < 10000 by omega))
    rw [yearText, if_pos hfour, yearPart, trimStartList_padded]
    split
    · next hminus =>
        cases heq.symm.trans hminus
        cases hc
    · next hplus =>
        cases heq.symm.trans hplus
        cases hc
    · simp only [number_padded hmost hrest, Option.map_some, Int.toNat_of_nonneg hfour.1]
  · by_cases hneg : year < 0
    · have htext : (yearText year).toList ++ rest = '-' :: ((padded 4 (-year).toNat).toList ++ rest) := by
        rw [yearText, if_neg hfour, if_pos hneg, String.toList_append]
        rfl
      rw [htext, yearPart, trimStartList_cons rfl]
      simp only [number_padded (hlen _) hrest, Option.map_some, Option.some.injEq, Prod.mk.injEq, and_true]
      omega
    · have htext : (yearText year).toList ++ rest = '+' :: ((padded 4 year.toNat).toList ++ rest) := by
        rw [yearText, if_neg hfour, if_neg hneg, String.toList_append]
        rfl
      rw [htext, yearPart, trimStartList_cons rfl]
      simp only [number_padded (hlen _) hrest, Option.map_some, Option.some.injEq, Prod.mk.injEq, and_true]
      omega

theorem endsNumber_cons {c : Char} (h : isDigit c = false) : EndsNumber (c :: rest) := by
  intro d hd
  cases hd
  exact h

theorem daysInMonth_le (year month : Int) : daysInMonth year month ≤ 31 := by
  unfold daysInMonth
  split
  · split <;> decide
  · split <;> decide

theorem datePart_dateText {year month day : Int} (h : IsDate year month day) (hrest : EndsNumber rest) :
    datePart ((dateText (year, month, day)).toList ++ rest) = some ((year, month, day), rest) := by
  obtain ⟨⟨hmonth, hmonth'⟩, hday, hday'⟩ := h
  have hmost := daysInMonth_le year month
  have htext : (dateText (year, month, day)).toList ++ rest =
      (yearText year).toList ++ '-' :: ((padded 2 month.toNat).toList ++ '-' ::
        ((padded 2 day.toNat).toList ++ rest)) := by
    have hdash : "-".toList = ['-'] := rfl
    simp only [dateText, String.toList_append, List.append_assoc, hdash, List.cons_append, List.nil_append]
  have hhyphen : ∀ cs, EndsNumber ('-' :: cs) := fun cs => endsNumber_cons rfl
  have hmark : ∀ cs, mark '-' ('-' :: cs) = some ((), cs) := fun cs => mark_cons rfl
  have hmonths : ∀ cs, bounded 1 12 ((padded 2 month.toNat).toList ++ '-' :: cs) =
      some (month.toNat, '-' :: cs) := fun cs =>
    bounded_padded (by omega) (by omega) (by omega) (hhyphen cs)
  have hdays : bounded 1 31 ((padded 2 day.toNat).toList ++ rest) = some (day.toNat, rest) :=
    bounded_padded (by omega) (by omega) (by omega) hrest
  rw [htext]
  simp only [datePart, yearPart_yearText _ (hhyphen _), hmark, hmonths, hdays, Option.bind_eq_bind,
    Option.bind_some]
  rw [Int.toNat_of_nonneg (by omega), Int.toNat_of_nonneg (by omega)]

theorem fractionPart_fractionText {nanos : Nat} (h : nanos < 1000000000) (hrest : EndsNumber rest)
    (hdot : ∀ c ∈ rest.head?, c ≠ '.') :
    fractionPart ((fractionText nanos).toList ++ rest) = some (nanos, rest) := by
  -- three, six or nine digits, and the power of ten that is left over
  have hdigits : ∀ w k n, 0 < w → w + k = 9 → n < tenTo w →
      fractionPart ('.' :: ((padded w n).toList ++ rest)) = some (n * tenTo k, rest) := by
    intro w k n hw hk hn
    have hlen := length_padded hw hn
    have htake : (((padded w n).toList ++ rest).take 9).takeWhile isDigit = (padded w n).toList := by
      rw [List.take_append, List.take_of_length_le (by omega)]
      exact takeWhile_isDigit_append (fun _ => isDigit_of_mem_padded) (hrest.take _)
    have hdrop : rest.dropWhile isDigit = rest := by
      cases rest with
      | nil => rfl
      | cons c rest => exact List.dropWhile_cons_of_neg (by rw [hrest c rfl]; exact Bool.false_ne_true)
    have hempty : (padded w n).toList.isEmpty = false := by
      rw [List.isEmpty_eq_false_iff]
      exact padded_ne_nil w n
    simp only [fractionPart, htake, hempty, hlen, Bool.false_eq_true, if_false, digitsValue_padded,
      List.drop_left' hlen, hdrop, show 9 - w = k by omega]
  have hpoint : ∀ s : String, ("." ++ s).toList ++ rest = '.' :: (s.toList ++ rest) := fun s => by
    rw [String.toList_append]
    rfl
  unfold fractionText
  split
  · next hzero =>
      subst hzero
      rw [String.toList_empty, List.nil_append]
      unfold fractionPart
      split
      · next c cs => exact absurd rfl (hdot '.' rfl)
      · rfl
  · split
    · rw [hpoint, hdigits 3 6 _ (by decide) rfl (show _ < 1000 by omega), show tenTo 6 = 1000000 from rfl]
      exact congrArg some (congrArg (·, rest) (by omega))
    · split
      · rw [hpoint, hdigits 6 3 _ (by decide) rfl (show _ < 1000000 by omega), show tenTo 3 = 1000 from rfl]
        exact congrArg some (congrArg (·, rest) (by omega))
      · rw [hpoint, hdigits 9 0 _ (by decide) rfl h, show tenTo 0 = 1 from rfl, Nat.mul_one]

theorem endsNumber_fractionText (nanos : Nat) {c : Char} (h : isDigit c = false) :
    EndsNumber ((fractionText nanos).toList ++ c :: rest) := by
  have hpoint : ∀ s : String, EndsNumber (("." ++ s).toList ++ c :: rest) := fun s => by
    rw [String.toList_append]
    exact endsNumber_cons rfl
  unfold fractionText
  split
  · exact endsNumber_cons h
  · split
    · exact hpoint _
    · split <;> exact hpoint _

/-- The second that is written of a leap second is 60. -/
theorem timePart_text {hour minute second fraction leap : Nat} (hhour : hour ≤ 23) (hminute : minute ≤ 59)
    (hsecond : second ≤ 59) (hleap : leap = 0 ∨ (leap = 1 ∧ second = 59)) (hfraction : fraction < 1000000000) :
    timePart ((padded 2 hour).toList ++ ':' :: ((padded 2 minute).toList ++ ':' ::
        ((padded 2 (second + leap)).toList ++ ((fractionText fraction).toList ++ ['Z'])))) =
      some ((hour * 3600 + minute * 60 + second, fraction + leap * 1000000000), ['Z']) := by
  have hcolon : ∀ cs, EndsNumber (':' :: cs) := fun cs => endsNumber_cons rfl
  have hmark : ∀ cs, mark ':' (':' :: cs) = some ((), cs) := fun cs => mark_cons rfl
  have hhours : ∀ cs, bounded 0 23 ((padded 2 hour).toList ++ ':' :: cs) = some (hour, ':' :: cs) :=
    fun cs => bounded_padded (by omega) hhour (by omega) (hcolon cs)
  have hminutes : ∀ cs, bounded 0 59 ((padded 2 minute).toList ++ ':' :: cs) = some (minute, ':' :: cs) :=
    fun cs => bounded_padded (by omega) hminute (by omega) (hcolon cs)
  have hseconds : ∀ cs, EndsNumber cs →
      bounded 0 60 ((padded 2 (second + leap)).toList ++ cs) = some (second + leap, cs) :=
    fun cs hcs => bounded_padded (by omega) (by omega) (by omega) hcs
  have hfractions : fractionPart ((fractionText fraction).toList ++ ['Z']) = some (fraction, ['Z']) :=
    fractionPart_fractionText hfraction (endsNumber_cons rfl) (by rintro c hc; cases hc; decide)
  simp only [timePart, hhours, hmark, hminutes, hseconds _ (endsNumber_fractionText fraction (c := 'Z') rfl),
    hfractions, Option.bind_eq_bind, Option.bind_some, Option.some.injEq, Prod.mk.injEq, and_true]
  rcases hleap with rfl | ⟨rfl, rfl⟩
  · rw [if_neg (by omega)]
    omega
  · exact ⟨rfl, rfl⟩

/-! ## Moments -/

/-- A moment that can be written: in range, and with a leap second only at the end of a minute. -/
structure Valid (t : Timestamp) : Prop where
  inRange : t.inRange = true
  nanos_lt : t.nanos < 2000000000
  leap : 1000000000 ≤ t.nanos → t.seconds % 60 = 59

/-- The second of the day. -/
theorem secondOfDay_eq (seconds : Int) :
    0 ≤ seconds - Int.fdiv seconds 86400 * 86400 ∧ seconds - Int.fdiv seconds 86400 * 86400 < 86400 := by
  rw [Int.fdiv_eq_ediv_of_nonneg _ (by decide)]
  omega

theorem toText_toList (t : Timestamp) :
    t.toText.toList = (dateText t.split.1).toList ++ 'T' :: ((padded 2 (t.split.2 / 3600)).toList ++ ':' ::
      ((padded 2 (t.split.2 / 60 % 60)).toList ++ ':' ::
        ((padded 2 (t.split.2 % 60 + t.nanos / 1000000000)).toList ++
          ((fractionText (t.nanos % 1000000000)).toList ++ ['Z'])))) := by
  have hday : "T".toList = ['T'] := rfl
  have hcolon : ":".toList = [':'] := rfl
  have hzone : "Z".toList = ['Z'] := rfl
  simp only [toText, String.toList_append, List.append_assoc, hday, hcolon, hzone, List.cons_append,
    List.nil_append]

/-- **A moment is read as it was written.** -/
theorem parse?_toText (h : t.Valid) : parse? t.toText = some t := by
  obtain ⟨hrange, hnanos, hleap⟩ := h
  have hdate := dateOfDays_isDate (Int.fdiv t.seconds 86400)
  have hdays := daysOfDate_dateOfDays (Int.fdiv t.seconds 86400)
  have hsecond := secondOfDay_eq t.seconds
  obtain ⟨s, hs⟩ := Int.eq_ofNat_of_zero_le hsecond.1
  have hsplit : t.split = (dateOfDays (Int.fdiv t.seconds 86400), s) := by
    rw [split, hs]
    rfl
  rw [parse?, toText_toList, hsplit]
  have hyear := hrange
  rw [inRange, hsplit] at hyear
  generalize dateOfDays (Int.fdiv t.seconds 86400) = date at hdate hdays hyear
  obtain ⟨year, month, day⟩ := date
  have hread : ∀ cs, datePart ((dateText (year, month, day)).toList ++ 'T' :: cs) =
      some ((year, month, day), 'T' :: cs) := fun cs => datePart_dateText hdate (endsNumber_cons rfl)
  have hoffset : offsetPart ['Z'] = some (0, []) := rfl
  have hmoment : (⟨daysOfDate year month day * 86400 +
      ((s / 3600 * 3600 + s / 60 % 60 * 60 + s % 60 : Nat) : Int) - 0,
      t.nanos % 1000000000 + t.nanos / 1000000000 * 1000000000⟩ : Timestamp) = t := by
    rw [hdays]
    refine (Timestamp.mk.injEq ..).mpr ⟨?_, ?_⟩ <;> omega
  rw [hread]
  simp only [Option.bind_eq_bind, Option.bind_some]
  rw [timePart_text (by omega) (by omega) (by omega) (by omega) (by omega)]
  simp only [Option.bind_some, hoffset, hmoment]
  have hday : ¬(!yearInRange year || decide (day > daysInMonth year month)) = true := by
    rw [hyear, decide_eq_false (Int.not_lt.mpr hdate.day_bounds.2)]
    exact Bool.false_ne_true
  simp only [decide_true, Bool.true_or, if_true]
  rw [if_neg (by decide), if_neg hday, if_neg (by decide), if_pos hrange]

theorem bounded_bounds {low high n : Nat} {cs : List Char} (h : bounded low high cs = some (n, rest)) :
    low ≤ n ∧ n ≤ high := by
  simp only [bounded, Option.bind_eq_bind, Option.bind_eq_some_iff] at h
  obtain ⟨⟨m, cs'⟩, -, h⟩ := h
  split at h
  · next hm =>
      cases h
      exact hm
  · cases h

/-- A fraction has at most nine digits. -/
theorem fractionPart_lt {cs : List Char} {n : Nat} (h : fractionPart cs = some (n, rest)) : n < 1000000000 := by
  unfold fractionPart at h
  split at h
  · next cs =>
      simp only at h
      split at h
      · cases h
      · cases h
        have hds : ∀ c ∈ (cs.take 9).takeWhile isDigit, isDigit c = true := List.all_eq_true.mp List.all_takeWhile
        have hlen : ((cs.take 9).takeWhile isDigit).length ≤ 9 :=
          Nat.le_trans (List.takeWhile_prefix _).length_le (List.length_take_le 9 cs)
        have hvalue := digitsValue_lt hds
        generalize (cs.take 9).takeWhile isDigit = ds at hlen hvalue
        calc digitsValue ds * tenTo (9 - ds.length)
            < tenTo ds.length * tenTo (9 - ds.length) := Nat.mul_lt_mul_of_pos_right hvalue (tenTo_pos _)
          _ = tenTo (ds.length + (9 - ds.length)) := (Nat.pow_add ..).symm
          _ = tenTo 9 := by rw [Nat.add_sub_cancel' hlen]
          _ = 1000000000 := rfl
  · cases h
    decide

/-- A leap second ends a minute. -/
theorem timePart_leap {cs : List Char} {second nanos : Nat} (h : timePart cs = some ((second, nanos), rest)) :
    nanos < 2000000000 ∧ (1000000000 ≤ nanos → second % 60 = 59) := by
  simp only [timePart, Option.bind_eq_bind, Option.bind_eq_some_iff, Prod.exists] at h
  obtain ⟨hour, _, -, _, _, -, minute, _, -, _, _, -, sec, _, hsec, fraction, _, hfraction, h⟩ := h
  have hbounds := bounded_bounds hsec
  have hlt := fractionPart_lt hfraction
  simp only [Option.some.injEq, Prod.mk.injEq] at h
  obtain ⟨⟨rfl, rfl⟩, -⟩ := h
  by_cases hleap : sec = 60
  · subst hleap
    simp only [if_true]
    omega
  · simp only [if_neg hleap]
    omega

/-- A zone lies whole minutes away. -/
theorem offsetPart_minutes {cs : List Char} {offset : Int} (h : offsetPart cs = some (offset, rest)) :
    offset % 60 = 0 := by
  simp only [offsetPart] at h
  split at h
  · cases h
    rfl
  · split at h
    · cases h
      rfl
    · cases h
      rfl
    · split at h
      · cases h
      · split at h
        · split at h
          · cases h
            split <;> omega
          · cases h
        · cases h
    · cases h

/-- What a moment is read from. -/
theorem exists_of_parse? {text : String} (h : parse? text = some t) :
    ∃ cs time cs' offset cs'' day, timePart cs = some (time, cs') ∧ offsetPart cs' = some (offset, cs'') ∧
      t = ⟨day * 86400 + time.1 - offset, time.2⟩ ∧ t.inRange = true := by
  unfold parse? at h
  simp only [Option.bind_eq_bind, Option.bind_eq_some_iff, Prod.exists] at h
  obtain ⟨year, month, day, cs, -, h⟩ := h
  split at h
  · split at h
    · simp only [Option.bind_some, Option.bind_eq_some_iff, Prod.exists] at h
      obtain ⟨second, nanos, cs', htime, offset, cs'', hoffset, h⟩ := h
      split at h
      · cases h
      · split at h
        · cases h
        · split at h
          · cases h
          · split at h
            · next hrange =>
                cases h
                exact ⟨_, _, _, _, _, _, htime, hoffset, rfl, hrange⟩
            · cases h
    · cases h
  · cases h

/-- **What is read is a moment** that can be written. -/
theorem valid_of_parse? {text : String} (h : parse? text = some t) : t.Valid := by
  obtain ⟨cs, ⟨second, nanos⟩, cs', offset, cs'', day, htime, hoffset, rfl, hrange⟩ := exists_of_parse? h
  obtain ⟨hnanos, hleap⟩ := timePart_leap htime
  have hminutes := offsetPart_minutes hoffset
  refine ⟨hrange, hnanos, fun hlarge => ?_⟩
  have hsecond := hleap hlarge
  simp only
  omega

end Timestamp

end DiveSchool
