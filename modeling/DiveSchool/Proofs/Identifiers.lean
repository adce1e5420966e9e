import DiveSchool.Uuid
import DiveSchool.Number.Power
import DiveSchool.Proofs.Words

/-!
# `DiveSchool.Proofs.Identifiers` — ids are read as they were written

An id is written as 32 digits in five groups. Whoever reads the text finds the groups again by their
hyphens, the digits by their characters, and the bits by the digits.

## Contents
- **Bits.** `ofNibbles_nibbles`, an id by its digits.
- **Digits.** `ofDigits?_digits` and `digits_free`, the digits as characters.
- **Groups.** `pieces_hyphenate`; `parse?_toText`.
-/

namespace DiveSchool

namespace Uuid

open Text

/-! ## Bits -/

/-- The digits of a number in base sixteen, most significant first. -/
theorem foldl_shifted (k n : Nat) :
    ((List.range k).map fun i => (n >>> (4 * (k - 1 - i))) % 16).foldl (fun m d => m * 16 + d) 0 =
      n % twoTo (4 * k) := by
  induction k generalizing n with
  | zero => exact (Nat.mod_one n).symm
  | succ k ih =>
      -- all digits but the last one are those of the number without it
      have hinit : (List.range k).map (fun i => (n >>> (4 * (k + 1 - 1 - i))) % 16) =
          (List.range k).map fun i => ((n >>> 4) >>> (4 * (k - 1 - i))) % 16 := by
        refine List.map_congr_left fun i hi => ?_
        have hi := List.mem_range.mp hi
        rw [← Nat.shiftRight_add, show 4 + 4 * (k - 1 - i) = 4 * (k + 1 - 1 - i) by omega]
      rw [List.range_succ, List.map_append, List.foldl_append, hinit, ih]
      simp only [List.map_cons, List.map_nil, List.foldl_cons, List.foldl_nil, Nat.add_sub_cancel,
        Nat.sub_self, Nat.mul_zero, Nat.shiftRight_zero]
      have hsize : twoTo (4 * (k + 1)) = 16 * twoTo (4 * k) := by
        have hfour : 4 * (k + 1) = 4 * k + 1 + 1 + 1 + 1 := by omega
        rw [hfour, twoTo_succ, twoTo_succ, twoTo_succ, twoTo_succ]
        omega
      have hshift : n >>> 4 = n / 16 := Nat.shiftRight_eq_div_pow n 4
      rw [hshift, hsize, Nat.mod_mul]
      omega

theorem ofNibbles_nibbles (u : Uuid) : ofNibbles u.nibbles = u := by
  have hvalue : u.nibbles.foldl (fun n d => n * 16 + d) 0 = u.bits.toNat := by
    have hsize : u.bits.toNat < twoTo (4 * 32) := u.bits.isLt
    rw [nibbles, foldl_shifted 32 u.bits.toNat, Nat.mod_eq_of_lt hsize]
  rw [ofNibbles, hvalue, BitVec.ofNat_toNat, BitVec.setWidth_eq]

/-! ## Digits -/

/-- The digits of an id as characters. -/
def digits (u : Uuid) : List Char := u.nibbles.map hexDigit

theorem nibbles_lt (u : Uuid) : ∀ d ∈ u.nibbles, d < 16 := by
  intro d hd
  obtain ⟨i, -, rfl⟩ := List.mem_map.mp hd
  exact Nat.mod_lt _ (by decide)

theorem length_digits (u : Uuid) : u.digits.length = 32 := by
  simp only [digits, nibbles, List.length_map, List.length_range]

theorem ofDigits?_digits (u : Uuid) : ofDigits? u.digits = some u := by
  have hvalues : ∀ ds : List Nat, (∀ d ∈ ds, d < 16) → (ds.map hexDigit).mapM hexValue? = some ds := by
    intro ds
    induction ds with
    | nil => exact fun _ => rfl
    | cons d ds ih =>
        intro h
        rw [List.map_cons, List.mapM_cons, hexValue?_hexDigit (h d List.mem_cons_self),
          ih fun d hd => h d (List.mem_cons_of_mem _ hd)]
        rfl
  rw [ofDigits?, if_pos u.length_digits, digits, hvalues _ u.nibbles_lt]
  exact congrArg some u.ofNibbles_nibbles

/-- No digit is taken for anything else in front of or between the groups. -/
theorem digits_free (u : Uuid) : ∀ c ∈ u.digits, (c == '-') = false ∧ c ≠ '\x7b' ∧ c.toLower ≠ 'u' := by
  intro c hc
  obtain ⟨d, hd, rfl⟩ := List.mem_map.mp hc
  have hall : ∀ i : Fin 16,
      (hexDigit i == '-') = false ∧ hexDigit i ≠ '\x7b' ∧ (hexDigit i).toLower ≠ 'u' := by decide
  exact hall ⟨d, u.nibbles_lt d hd⟩

/-! ## Groups -/

/-- Five groups between hyphens. -/
theorem pieces_hyphenate {cs : List Char} (h : ∀ c ∈ cs, (c == '-') = false) :
    pieces (· == '-') (hyphenate cs) =
      [cs.take 8, (cs.drop 8).take 4, (cs.drop 12).take 4, (cs.drop 16).take 4, cs.drop 20] := by
  have hcut : ∀ ds es, pieces (· == '-') (ds ++ '-' :: es) =
      pieces (· == '-') ds ++ pieces (· == '-') es := fun _ _ => pieces_append_cons rfl
  have htake : ∀ n k, pieces (· == '-') ((cs.drop n).take k) = [(cs.drop n).take k] := fun n k =>
    pieces_of_free fun c hc => h c (List.mem_of_mem_drop (List.mem_of_mem_take hc))
  have hlast : pieces (· == '-') (cs.drop 20) = [cs.drop 20] :=
    pieces_of_free fun c hc => h c (List.mem_of_mem_drop hc)
  have hfirst := htake 0 8
  rw [List.drop_zero] at hfirst
  simp only [hyphenate, List.append_assoc, List.cons_append, hcut, hfirst, htake, hlast,
    List.nil_append]

theorem ofHyphenated?_hyphenate (u : Uuid) : ofHyphenated? (hyphenate u.digits) = some u := by
  have hpieces := pieces_hyphenate fun c hc => (u.digits_free c hc).1
  have hlengths : (pieces (· == '-') (hyphenate u.digits)).map List.length = [8, 4, 4, 4, 12] := by
    rw [hpieces]
    simp [u.length_digits]
  have hflatten : (pieces (· == '-') (hyphenate u.digits)).flatten = u.digits := by
    rw [hpieces]
    simp only [List.flatten_cons, List.flatten_nil, List.append_nil]
    have hjoin : ∀ n k, (u.digits.drop n).take k ++ u.digits.drop (n + k) = u.digits.drop n := fun n k => by
      rw [← List.drop_drop, List.take_append_drop]
    rw [hjoin 16 4, hjoin 12 4, hjoin 8 4, List.take_append_drop]
  simp only [ofHyphenated?, hlengths, hflatten, if_true, u.ofDigits?_digits]

/-- **An id is read as it was written.** -/
@[simp]
theorem parse?_toText (u : Uuid) : parse? u.toText = some u := by
  obtain ⟨c, rest, hdigits⟩ : ∃ c rest, u.digits = c :: rest :=
    List.exists_cons_of_ne_nil fun hnil => by simpa [hnil] using u.length_digits
  obtain ⟨-, hbrace, hurn⟩ := u.digits_free c (hdigits ▸ List.mem_cons_self)
  obtain ⟨cs, hcs⟩ : ∃ cs, hyphenate u.digits = c :: cs := by
    rw [hdigits]
    exact ⟨_, rfl⟩
  have hhyphen : (hyphenate u.digits).contains '-' = true := by
    simp [hyphenate]
  have hlead : ¬ ((hyphenate u.digits).take urnLead.length).map Char.toLower = urnLead := by
    rw [hcs]
    exact fun h => hurn (List.cons_eq_cons.mp h).1
  rw [parse?, toText, String.toList_ofList, show u.nibbles.map hexDigit = u.digits from rfl]
  unfold parseList?
  split
  · next heq => exact absurd (List.cons_eq_cons.mp (hcs.symm.trans heq)).1 hbrace
  · rw [if_neg hlead, if_pos hhyphen, u.ofHyphenated?_hyphenate]

end Uuid

end DiveSchool
