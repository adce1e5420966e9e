import DiveSchool.Offering.Slug
import DiveSchool.Proofs.Letters
import DiveSchool.Proofs.Words
import Mathlib.Data.List.Chain

/-!
# `DiveSchool.Proofs.Slug` — the form of a slug

A slug consists of words of lower-case letters and digits, joined by single hyphens. Whatever else stands in
a name leaves no trace, not even where it stood between two breaks: what is dropped is dropped before the
name is cut into words. So names that differ in their breaks or in the case of ASCII letters have one slug,
and a slug, taken as a name, is its own.

## Contents
- **Form.** `IsSlug`; texts joined by hyphens have it (`isSlug_of_joined`).
- **Words.** `slugKept` and `slugWords`, what a slug is joined from; `isSlugWord_of_mem_slugWords`.
- **Names.** `slugWords_gap`, `slugWords_pad`, `slugWords_congr`, and `slugWords_of_joined`.
- **Slugs.** `slug_is_canonical`.
-/

namespace DiveSchool

open Text

/-! ## Form -/

/-- Whether a character is a lower-case letter of ASCII or a digit. -/
def isSlugLetter (c : Char) : Bool := ('a' ≤ c && c ≤ 'z') || ('0' ≤ c && c ≤ '9')

/-- Letters and digits with single hyphens between: none at an end and no two in a row. -/
structure IsSlug (cs : List Char) : Prop where
  letters : ∀ c ∈ cs, isSlugLetter c = true ∨ c = '-'
  start : cs.head? ≠ some '-'
  finish : cs.getLast? ≠ some '-'
  single : ¬ ['-', '-'] <:+: cs

/-- Something is written, and all of it in lower-case letters and digits. -/
def IsSlugWord (w : List Char) : Prop := w ≠ [] ∧ ∀ c ∈ w, isSlugLetter c = true

theorem ne_hyphen_of_isSlugLetter {c : Char} (h : isSlugLetter c = true) : c ≠ '-' := by
  rintro rfl
  exact absurd h (by decide)

/-- Of two neighbours one is no hyphen, and so are the two ends. -/
theorem isChain_of_joined {ws : List (List Char)} {cs : List Char} (h : Joined (· = ['-']) ws cs)
    (hws : ∀ w ∈ ws, IsSlugWord w) :
    cs ≠ [] ∧ cs.head? ≠ some '-' ∧ cs.getLast? ≠ some '-' ∧
      cs.IsChain fun a b => ¬ (a = '-' ∧ b = '-') := by
  have hword : ∀ w : List Char, IsSlugWord w → w.head? ≠ some '-' ∧ w.getLast? ≠ some '-' ∧
      w.IsChain fun a b => ¬ (a = '-' ∧ b = '-') := by
    rintro w ⟨-, hletters⟩
    have hfree : ∀ c ∈ w, c ≠ '-' := fun c hc => ne_hyphen_of_isSlugLetter (hletters c hc)
    refine ⟨fun h => hfree _ (List.mem_of_head? h) rfl, fun h => hfree _ (List.mem_of_getLast? h) rfl, ?_⟩
    exact List.Pairwise.isChain (List.pairwise_of_forall_mem_list fun a ha _ _ hab => hfree a ha hab.1)
  induction h with
  | last w =>
      have hw := hws w List.mem_cons_self
      exact ⟨hw.1, hword w hw⟩
  | @cons w s ws cs hs _ ih =>
      subst hs
      obtain ⟨hw, hws⟩ := List.forall_mem_cons.mp hws
      obtain ⟨hstart, hfinish, hchain⟩ := hword w hw
      obtain ⟨hne, hstart', hfinish', hchain'⟩ := ih hws
      refine ⟨List.append_ne_nil_of_left_ne_nil hw.1 _, ?_, ?_, ?_⟩
      · rwa [List.head?_append_of_ne_nil _ hw.1]
      · rwa [← List.append_assoc, List.getLast?_append_of_ne_nil _ hne]
      · -- the hyphen between two words has a letter on either side
        refine hchain.append (hchain'.cons fun c hc hboth => hstart' (hboth.2 ▸ hc)) fun c hc _ _ hboth => ?_
        exact hfinish (hboth.1 ▸ hc)

theorem isSlug_of_joined {ws : List (List Char)} {cs : List Char} (h : Joined (· = ['-']) ws cs)
    (hws : ∀ w ∈ ws, IsSlugWord w) : IsSlug cs := by
  obtain ⟨-, hstart, hfinish, hchain⟩ := isChain_of_joined h hws
  refine ⟨h.forall_mem (fun w hw c hc => .inl ((hws w hw).2 c hc)) ?_, hstart, hfinish, fun hinfix => ?_⟩
  · rintro s rfl c hc
    exact .inr (List.mem_singleton.mp hc)
  · have hpair := List.IsChain.infix hchain hinfix
    exact (List.isChain_cons_cons.mp hpair).1 ⟨rfl, rfl⟩

/-! ## Words -/

/-- What is kept of a name: its lower-case letters, its digits and its breaks. -/
def slugKept (cs : List Char) : List Char :=
  (lowerList cs).filter fun c => isAsciiAlnum c || isSlugBreak c

/-- The words of a name. -/
def slugWords (cs : List Char) : List (List Char) := runs isSlugBreak (slugKept cs)

theorem slugList_eq (cs : List Char) : slugList cs = ['-'].intercalate (slugWords cs) := rfl

section Words

variable {c : Char} {cs ds gap w : List Char}

theorem slugKept_append (cs ds : List Char) : slugKept (cs ++ ds) = slugKept cs ++ slugKept ds := by
  rw [slugKept, lowerList, List.flatMap_append, List.filter_append]
  rfl

theorem lower_of_isSlugBreak (h : isSlugBreak c = true) : lower c = [c] := by
  rcases Bool.or_eq_true_iff.mp h with hblank | hhyphen
  · exact lower_of_blank hblank
  · rw [beq_iff_eq.mp hhyphen]
    rfl

/-- Breaks are kept as they are. -/
theorem slugKept_of_breaks (h : ∀ c ∈ gap, isSlugBreak c = true) : slugKept gap = gap := by
  induction gap with
  | nil => rfl
  | cons c gap ih =>
      obtain ⟨hc, hgap⟩ := List.forall_mem_cons.mp h
      rw [← List.singleton_append, slugKept_append, ih hgap, slugKept, lowerList, List.flatMap_singleton,
        lower_of_isSlugBreak hc, List.filter_cons_of_pos (by simp [hc]), List.filter_nil]

/-- What is kept and separates nothing is a letter or a digit, and no capital. -/
theorem isSlugLetter_of_mem_slugKept (hc : c ∈ slugKept cs) (hbreak : isSlugBreak c = false) :
    isSlugLetter c = true := by
  obtain ⟨hlower, hkept⟩ := List.mem_filter.mp hc
  obtain ⟨d, -, hd⟩ := List.mem_flatMap.mp hlower
  have hcapital := isCapital_of_mem_lower hd
  rw [isCapital] at hcapital
  rw [hbreak, Bool.or_false, isAsciiAlnum, hcapital, Bool.or_false] at hkept
  exact hkept

theorem isSlugWord_of_mem_slugWords (hw : w ∈ slugWords cs) : IsSlugWord w := by
  refine ⟨ne_nil_of_mem_runs hw, fun c hc => ?_⟩
  have hpiece := (List.mem_filter.mp hw).1
  exact isSlugLetter_of_mem_slugKept ((joined_pieces isSlugBreak _).mem hpiece hc) (sep_of_mem_pieces hpiece c hc)

theorem isSlug_slugList (cs : List Char) : IsSlug (slugList cs) := by
  by_cases hne : slugWords cs = []
  · rw [slugList_eq, hne]
    exact ⟨nofun, nofun, nofun, fun h => absurd (List.infix_nil.mp h) (List.cons_ne_nil _ _)⟩
  · exact isSlug_of_joined (joined_intercalate ['-'] hne) fun w => isSlugWord_of_mem_slugWords

/-! ## Names -/

/-- A gap parts the words, whatever it consists of. -/
theorem slugWords_gap (h : IsRunOf isSlugBreak gap) :
    slugWords (cs ++ (gap ++ ds)) = slugWords cs ++ slugWords ds := by
  rw [slugWords, slugKept_append, slugKept_append, slugKept_of_breaks h.2, runs_append_gap h]
  rfl

/-- Breaks at the ends do not count. -/
theorem slugWords_pad {before after : List Char} (hbefore : ∀ c ∈ before, isSlugBreak c = true)
    (hafter : ∀ c ∈ after, isSlugBreak c = true) :
    slugWords (before ++ cs ++ after) = slugWords cs := by
  rw [slugWords, slugKept_append, slugKept_append, slugKept_of_breaks hbefore, slugKept_of_breaks hafter,
    runs_pad hbefore hafter]
  rfl

/-- The case of ASCII letters does not count. -/
theorem slugWords_congr (h : cs.map Char.toLower = ds.map Char.toLower) : slugWords cs = slugWords ds := by
  have hlower : lowerList cs = lowerList ds := by
    rw [← lowerList_map_toLower cs, h, lowerList_map_toLower]
  rw [slugWords, slugKept, hlower]
  rfl

theorem ascii_of_isAsciiAlnum (h : isAsciiAlnum c = true) : c.toNat < 128 := by
  simp only [isAsciiAlnum, Bool.or_eq_true, Bool.and_eq_true, decide_eq_true_eq] at h
  rcases h with (h | h) | h <;> exact Nat.lt_of_le_of_lt (show c.toNat ≤ _ from h.2) (by decide)

/-- A word of letters and digits is kept in lower case. -/
theorem slugKept_of_alnum (h : ∀ c ∈ w, isAsciiAlnum c = true) : slugKept w = w.map Char.toLower := by
  have hascii : ∀ c ∈ w, c.toNat < 128 := fun c hc => ascii_of_isAsciiAlnum (h c hc)
  have hkept : ∀ c : Char, c.toNat < 128 → isAsciiAlnum c = true → isAsciiAlnum c.toLower = true := fun c =>
    of_ascii (P := fun c => isAsciiAlnum c = true → isAsciiAlnum c.toLower = true) (by decide +kernel)
  rw [slugKept, lowerList_of_ascii hascii, List.filter_eq_self]
  intro d hd
  obtain ⟨c, hc, rfl⟩ := List.mem_map.mp hd
  rw [hkept c (hascii c hc) (h c hc), Bool.true_or]

theorem isSlugBreak_toLower (h : isAsciiAlnum c = true) : isSlugBreak c.toLower = false :=
  of_ascii (P := fun c => isAsciiAlnum c = true → isSlugBreak c.toLower = false) (by decide +kernel)
    (ascii_of_isAsciiAlnum h) h

/-- **Words of letters and digits** can be read off what was joined from them. -/
theorem slugWords_of_joined {ws : List (List Char)} (h : Joined (IsRunOf isSlugBreak) ws cs)
    (hws : ∀ w ∈ ws, w ≠ [] ∧ ∀ c ∈ w, isAsciiAlnum c = true) :
    slugWords cs = ws.map (List.map Char.toLower) := by
  have hword : ∀ w : List Char, (w ≠ [] ∧ ∀ c ∈ w, isAsciiAlnum c = true) →
      slugWords w = [w.map Char.toLower] := by
    rintro w ⟨hne, halnum⟩
    rw [slugWords, slugKept_of_alnum halnum, runs_of_free (by simpa using hne)]
    intro d hd
    obtain ⟨c, hc, rfl⟩ := List.mem_map.mp hd
    exact isSlugBreak_toLower (halnum c hc)
  induction h with
  | last w => exact hword w (hws w List.mem_cons_self)
  | cons hs _ ih =>
      obtain ⟨hw, hws⟩ := List.forall_mem_cons.mp hws
      rw [slugWords_gap hs, hword _ hw, ih hws]
      rfl

theorem of_isSlugLetter (h : isSlugLetter c = true) : isAsciiAlnum c = true ∧ c.toLower = c := by
  have halnum : isAsciiAlnum c = true := by
    rcases Bool.or_eq_true_iff.mp h with h | h <;> simp [isAsciiAlnum, h]
  exact ⟨halnum, of_ascii (P := fun c => isSlugLetter c = true → c.toLower = c) (by decide +kernel)
    (ascii_of_isAsciiAlnum halnum) h⟩

/-- A slug has the words it was joined from. -/
theorem slugWords_slugList (cs : List Char) : slugWords (slugList cs) = slugWords cs := by
  by_cases hne : slugWords cs = []
  · rw [slugList_eq, hne]
    rfl
  · have hhyphen : IsRunOf isSlugBreak ['-'] := by decide
    have hjoined : Joined (IsRunOf isSlugBreak) (slugWords cs) (slugList cs) :=
      (joined_intercalate ['-'] hne).mono fun s (hs : s = ['-']) => hs ▸ hhyphen
    have hword : ∀ w ∈ slugWords cs, IsSlugWord w := fun _ => isSlugWord_of_mem_slugWords
    have hlower : ∀ w ∈ slugWords cs, w.map Char.toLower = id w := fun w hw =>
      (List.map_congr_left fun c hc => (of_isSlugLetter ((hword w hw).2 c hc)).2).trans (List.map_id w)
    rw [slugWords_of_joined hjoined fun w hw =>
      ⟨(hword w hw).1, fun c hc => (of_isSlugLetter ((hword w hw).2 c hc)).1⟩]
    exact (List.map_congr_left hlower).trans (List.map_id _)

end Words

/-! ## Slugs -/

theorem slug_eq_of_slugWords_eq {o p : Offering} (h : slugWords p.name.toList = slugWords o.name.toList) :
    p.slug = o.slug := by
  rw [Offering.slug, Offering.slug, slugList_eq, slugList_eq, h]

/-- **Slugs are canonical.** The slug of an offering, whatever its name, consists of lower-case letters and
    digits with single hyphens between. An offering named by a slug has that slug. It makes no difference to
    a slug which breaks stand between two parts of a name, as long as there are some, whether there are
    breaks around it, or in which case its ASCII letters are. And the slug of a name that consists of words of
    ASCII letters and digits with breaks between is these words in lower case with hyphens between. -/
theorem slug_is_canonical (o p : Offering) :
    IsSlug o.slug.toList ∧
    (p.name = o.slug → p.slug = o.slug) ∧
    (∀ before gap gap' after, IsRunOf isSlugBreak gap → IsRunOf isSlugBreak gap' →
      o.name.toList = before ++ (gap ++ after) → p.name.toList = before ++ (gap' ++ after) →
      p.slug = o.slug) ∧
    (∀ before after, (∀ c ∈ before, isSlugBreak c = true) → (∀ c ∈ after, isSlugBreak c = true) →
      p.name.toList = before ++ o.name.toList ++ after → p.slug = o.slug) ∧
    (p.name.toList.map Char.toLower = o.name.toList.map Char.toLower → p.slug = o.slug) ∧
    (∀ ws, Joined (IsRunOf isSlugBreak) ws o.name.toList →
      (∀ w ∈ ws, w ≠ [] ∧ ∀ c ∈ w, isAsciiAlnum c = true) →
      o.slug.toList = ['-'].intercalate (ws.map (List.map Char.toLower))) := by
  have htext : o.slug.toList = slugList o.name.toList := String.toList_ofList
  refine ⟨htext ▸ isSlug_slugList _, fun hname => ?_, fun before gap gap' after hgap hgap' hname hname' => ?_,
    fun before after hbefore hafter hname => ?_, fun hcase => ?_, fun ws hjoined hws => ?_⟩
  · apply slug_eq_of_slugWords_eq
    rw [hname, htext, slugWords_slugList]
  · apply slug_eq_of_slugWords_eq
    rw [hname, hname', slugWords_gap hgap, slugWords_gap hgap']
  · apply slug_eq_of_slugWords_eq
    rw [hname, slugWords_pad hbefore hafter]
  · exact slug_eq_of_slugWords_eq (slugWords_congr hcase)
  · rw [htext, slugList_eq, slugWords_of_joined hjoined hws]

namespace Named

/-- An offering of which only the name matters. -/
def trip (name : String) : Offering := .trip .zero ⟨0, 0⟩ name 4 none

end Named

open Named in
/-- Brackets and an exclamation mark leave no trace, and a dotted capital leaves the letter without its
    mark. A wide blank, a hyphen or both may stand in a gap, and blanks around the name. -/
theorem weekend_slug :
    (trip "advanced-open-water-weekend").slug = "advanced-open-water-weekend" ∧
    (trip "Advanced  - Open-Water (Weekend)!").slug = "advanced-open-water-weekend" ∧
    (trip "- Advanced  Open-Water (Weekend)! ").slug = "advanced-open-water-weekend" ∧
    (trip "aDVANCED  oPEN-wATER (wEEKEND)!").slug = "advanced-open-water-weekend" ∧
    (trip "Reef -2").slug.toList = "reef-2".toList ∧ IsSlug (trip "— İndia ß? — 7").slug.toList := by
  have hslug : (trip "Advanced  Open-Water (Weekend)!").slug = "advanced-open-water-weekend" := by decide +kernel
  obtain ⟨-, hown, -, -, -, -⟩ := slug_is_canonical (trip "Advanced  Open-Water (Weekend)!")
    (trip "advanced-open-water-weekend")
  obtain ⟨-, -, hgap, -, -, -⟩ := slug_is_canonical (trip "Advanced  Open-Water (Weekend)!")
    (trip "Advanced  - Open-Water (Weekend)!")
  obtain ⟨-, -, -, hpad, -, -⟩ := slug_is_canonical (trip "Advanced  Open-Water (Weekend)!")
    (trip "- Advanced  Open-Water (Weekend)! ")
  obtain ⟨-, -, -, -, hcase, -⟩ := slug_is_canonical (trip "Advanced  Open-Water (Weekend)!")
    (trip "aDVANCED  oPEN-wATER (wEEKEND)!")
  obtain ⟨-, -, -, -, -, hwords⟩ := slug_is_canonical (trip "Reef -2") (trip "")
  rw [hslug] at hown hgap hpad hcase
  refine ⟨hown rfl, ?_, ?_, hcase (by decide), ?_, (slug_is_canonical _ (trip "")).1⟩
  · exact hgap "Advanced".toList "  ".toList "  - ".toList "Open-Water (Weekend)!".toList
      (by decide) (by decide) (by decide) (by decide)
  · exact hpad "- ".toList " ".toList (List.all_eq_true.mp (by decide)) (List.all_eq_true.mp (by decide)) (by decide)
  · rw [hwords ["Reef".toList, "2".toList]]
    · decide
    · exact .cons (s := " -".toList) (by decide) (.last _)
    · have hall : ["Reef".toList, "2".toList].all (fun w => !w.isEmpty && w.all isAsciiAlnum) = true := by decide
      simpa only [List.all_eq_true, Bool.and_eq_true, Bool.not_eq_true', List.isEmpty_eq_false_iff] using hall

end DiveSchool
