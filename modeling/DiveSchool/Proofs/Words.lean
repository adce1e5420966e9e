import DiveSchool.Text.Blank

/-!
# `DiveSchool.Proofs.Words` — cutting a text and joining it again

To cut a text at its separators loses what stood between the pieces. `Joined` keeps it: it relates a list of
words to every text that has them in order, with a separator of a given sort between each two. A text is
joined from its pieces, and between its blank ends from its words; and both are the only such lists.

## Contents
- **Pieces.** `pieces_append_cons`, `pieces_of_free`, `pieces_append_of_free`, `pieces_map`.
- **Runs.** `runs_append_gap`, `runs_of_free`, `runs_pad`, for any separators.
- **Words.** `words_of_blank`, `words_pad`, `words_append_of_free`.
- **Joining.** `Joined`, with `Joined.map`, `Joined.flatMap` and `joined_intercalate`.
- **Cutting.** `joined_pieces`, `blank_or_joined_words`, and `Joined.words_eq`.
- **Parts.** `parts`, words cut at marks too, and `Joined.parts_eq`.
-/

namespace DiveSchool.Text

/-! ## Pieces -/

section Pieces

variable {sep : Char → Bool} {c : Char} {cs ds u v : List Char} {vs : List (List Char)}

theorem pieces_eq_splitOnP (sep : Char → Bool) (cs : List Char) : pieces sep cs = cs.splitOnP sep := by
  induction cs with
  | nil => rfl
  | cons c cs ih =>
      rw [List.splitOnP_cons_eq_if_modifyHead, pieces, ih]
      split
      · rfl
      · cases h : cs.splitOnP sep with
        | nil => exact absurd h (List.splitOnP_ne_nil sep cs)
        | cons piece rest => rfl

theorem pieces_append_cons (hc : sep c = true) :
    pieces sep (cs ++ c :: ds) = pieces sep cs ++ pieces sep ds := by
  simp only [pieces_eq_splitOnP, List.splitOnP_append_cons cs ds hc]

theorem pieces_of_free (h : ∀ c ∈ cs, sep c = false) : pieces sep cs = [cs] := by
  rw [pieces_eq_splitOnP, List.splitOnP_eq_singleton h]

/-- What stands in front without a separator belongs to the first piece. -/
theorem pieces_append_of_free (hu : ∀ c ∈ u, sep c = false) (h : pieces sep cs = v :: vs) :
    pieces sep (u ++ cs) = (u ++ v) :: vs := by
  induction u with
  | nil => exact h
  | cons c u ih =>
      have hrest := ih fun d hd => hu d (List.mem_cons_of_mem _ hd)
      simp only [List.cons_append, pieces, hu c List.mem_cons_self, Bool.false_eq_true, if_false, hrest]

theorem pieces_map (sep : Char → Bool) (f : Char → Char) (cs : List Char) :
    pieces sep (cs.map f) = (pieces (sep ∘ f) cs).map (List.map f) := by
  induction cs with
  | nil => rfl
  | cons c cs ih =>
      rw [List.map_cons, pieces, pieces, ih, Function.comp_apply]
      split
      · rfl
      · cases pieces (sep ∘ f) cs <;> rfl

end Pieces

/-! ## Runs -/

section Runs

variable {sep : Char → Bool} {b : Char} {cs ds u gap : List Char}

/-- A stretch of separators that is not empty. -/
def IsRunOf (sep : Char → Bool) (s : List Char) : Prop := s ≠ [] ∧ ∀ c ∈ s, sep c = true

instance (sep : Char → Bool) (s : List Char) : Decidable (IsRunOf sep s) :=
  decidable_of_iff (s ≠ [] ∧ s.all sep = true) (and_congr_right fun _ => List.all_eq_true)

theorem runs_append_cons (hb : sep b = true) : runs sep (cs ++ b :: ds) = runs sep cs ++ runs sep ds := by
  simp only [runs, pieces_append_cons hb, List.filter_append]

theorem runs_cons (hb : sep b = true) : runs sep (b :: cs) = runs sep cs :=
  (runs_append_cons hb : runs sep ([] ++ b :: cs) = runs sep [] ++ runs sep cs)

theorem runs_of_free (hne : u ≠ []) (hu : ∀ c ∈ u, sep c = false) : runs sep u = [u] := by
  rw [runs, pieces_of_free hu, List.filter_cons_of_pos (by simpa using hne), List.filter_nil]

/-- Separators in front do not count. -/
theorem runs_append_of_sep {before : List Char} (h : ∀ c ∈ before, sep c = true) :
    runs sep (before ++ cs) = runs sep cs := by
  induction before with
  | nil => rfl
  | cons b before ih =>
      rw [List.cons_append, runs_cons (h b List.mem_cons_self)]
      exact ih fun c hc => h c (List.mem_cons_of_mem _ hc)

theorem runs_of_sep (h : ∀ c ∈ cs, sep c = true) : runs sep cs = [] := by
  have hall : runs sep (cs ++ []) = runs sep [] := runs_append_of_sep h
  rwa [List.append_nil] at hall

/-- A gap parts what stands before it from what stands behind, whatever it consists of. -/
theorem runs_append_gap (h : IsRunOf sep gap) : runs sep (cs ++ (gap ++ ds)) = runs sep cs ++ runs sep ds := by
  obtain ⟨hne, hsep⟩ := h
  obtain ⟨b, gap, rfl⟩ := List.exists_cons_of_ne_nil hne
  obtain ⟨hb, hsep⟩ := List.forall_mem_cons.mp hsep
  rw [List.cons_append, runs_append_cons hb, runs_append_of_sep hsep]

/-- Separators at the ends do not count. -/
theorem runs_pad {before after : List Char} (hbefore : ∀ c ∈ before, sep c = true)
    (hafter : ∀ c ∈ after, sep c = true) : runs sep (before ++ cs ++ after) = runs sep cs := by
  rw [List.append_assoc, runs_append_of_sep hbefore]
  by_cases hne : after = []
  · rw [hne, List.append_nil]
  · have hgap : runs sep (cs ++ (after ++ [])) = runs sep cs ++ runs sep [] :=
      runs_append_gap ⟨hne, hafter⟩
    rwa [List.append_nil, show runs sep [] = [] from rfl, List.append_nil] at hgap

end Runs

/-! ## Words -/

section Words

variable {b d : Char} {cs ds u : List Char}

theorem words_of_free (hne : u ≠ []) (hu : ∀ c ∈ u, isBlank c = false) : words u = [u] :=
  runs_of_free hne hu

theorem words_of_blank (h : ∀ c ∈ cs, isBlank c = true) : words cs = [] := runs_of_sep h

/-- Blanks at the ends do not count. -/
theorem words_pad {before after : List Char} (hbefore : ∀ c ∈ before, isBlank c = true)
    (hafter : ∀ c ∈ after, isBlank c = true) : words (before ++ cs ++ after) = words cs :=
  runs_pad hbefore hafter

/-- Something is written, and none of it is blank. -/
def IsWord (w : List Char) : Prop := w ≠ [] ∧ ∀ c ∈ w, isBlank c = false

/-- A test of every character may be made at once. -/
theorem free_of_any {p : Char → Bool} (h : cs.any p = false) : ∀ c ∈ cs, p c = false :=
  fun c hc => Bool.eq_false_iff.mpr (List.any_eq_false.mp h c hc)

instance (w : List Char) : Decidable (IsWord w) :=
  decidable_of_iff (w ≠ [] ∧ w.any isBlank = false)
    ⟨fun h => ⟨h.1, free_of_any h.2⟩, fun h => ⟨h.1, List.any_eq_false.mpr fun c hc => by simp [h.2 c hc]⟩⟩

theorem isWord_of_mem_words {w : List Char} (hw : w ∈ words cs) : IsWord w :=
  ⟨ne_nil_of_mem_runs hw, sep_of_mem_pieces (List.mem_filter.mp hw).1⟩

/-- What stands in front of a letter without a blank belongs to the first word. -/
theorem words_append_of_free (hu : ∀ c ∈ u, isBlank c = false) (hd : isBlank d = false) :
    ∃ v vs, words (d :: cs) = v :: vs ∧ words (u ++ d :: cs) = (u ++ v) :: vs := by
  obtain ⟨v, vs, hcs⟩ : ∃ v vs, pieces isBlank cs = v :: vs :=
    List.exists_cons_of_ne_nil (pieces_ne_nil isBlank cs)
  have hpieces : pieces isBlank (d :: cs) = (d :: v) :: vs :=
    pieces_append_of_free (u := [d]) (by simpa using hd) hcs
  refine ⟨d :: v, vs.filter (!·.isEmpty), ?_, ?_⟩
  · rw [words, runs, hpieces, List.filter_cons_of_pos rfl]
  · rw [words, runs, pieces_append_of_free hu hpieces, List.filter_cons_of_pos (by simp)]

end Words

/-! ## Joining -/

/-- Words in order, with a separator between each two. -/
inductive Joined (Sep : List Char → Prop) : List (List Char) → List Char → Prop
  | last (w : List Char) : Joined Sep [w] w
  | cons {w s : List Char} {ws : List (List Char)} {cs : List Char} (hs : Sep s) (h : Joined Sep ws cs) :
      Joined Sep (w :: ws) (w ++ (s ++ cs))

namespace Joined

variable {Sep Sep' : List Char → Prop} {w s cs ds : List Char} {us ws : List (List Char)}

theorem ne_nil (h : Joined Sep ws cs) : ws ≠ [] := by
  cases h <;> exact List.cons_ne_nil _ _

theorem mem (h : Joined Sep ws cs) (hw : w ∈ ws) {c : Char} (hc : c ∈ w) : c ∈ cs := by
  induction h with
  | last w' => exact List.mem_singleton.mp hw ▸ hc
  | cons hs h ih =>
      rcases List.mem_cons.mp hw with rfl | hw
      · exact List.mem_append_left _ hc
      · exact List.mem_append_right _ (List.mem_append_right _ (ih hw))

/-- One more letter in front belongs to the first word. -/
theorem cons_head {c : Char} (h : Joined Sep (w :: ws) cs) : Joined Sep ((c :: w) :: ws) (c :: cs) := by
  cases h with
  | last => exact .last _
  | cons hs h => exact .cons (w := c :: w) hs h

theorem exists_eq_cons {c : Char} (h : Joined Sep ((c :: w) :: ws) cs) : ∃ ds, cs = c :: ds := by
  cases h <;> exact ⟨_, rfl⟩

/-- What holds of all words and separators holds of the whole. -/
theorem forall_mem {P : Char → Prop} (h : Joined Sep ws cs) (hws : ∀ w ∈ ws, ∀ c ∈ w, P c)
    (hSep : ∀ s, Sep s → ∀ c ∈ s, P c) : ∀ c ∈ cs, P c := by
  induction h with
  | last w => exact hws w List.mem_cons_self
  | cons hs _ ih =>
      obtain ⟨hw, hws⟩ := List.forall_mem_cons.mp hws
      exact List.forall_mem_append.mpr ⟨hw, List.forall_mem_append.mpr ⟨hSep _ hs, ih hws⟩⟩

theorem mono (hSep : ∀ s, Sep s → Sep' s) (h : Joined Sep ws cs) : Joined Sep' ws cs := by
  induction h with
  | last w => exact .last w
  | cons hs _ ih => exact .cons (hSep _ hs) ih

theorem map (f : Char → Char) (hSep : ∀ s, Sep s → Sep' (s.map f)) (h : Joined Sep ws cs) :
    Joined Sep' (ws.map (List.map f)) (cs.map f) := by
  induction h with
  | last w => exact .last _
  | cons hs _ ih =>
      rw [List.map_append, List.map_append]
      exact .cons (hSep _ hs) ih

theorem append (hu : Joined Sep us cs) (hs : Sep s) (hw : Joined Sep ws ds) :
    Joined Sep (us ++ ws) (cs ++ (s ++ ds)) := by
  induction hu with
  | last u => exact .cons hs hw
  | cons hs' _ ih =>
      rw [List.append_assoc, List.append_assoc]
      exact .cons hs' ih

/-- Words may be joined from words themselves. -/
theorem flatMap {f : List Char → List (List Char)} (hf : ∀ w, Joined Sep (f w) w) (h : Joined Sep ws cs) :
    Joined Sep (ws.flatMap f) cs := by
  induction h with
  | last w => simpa using hf w
  | cons hs _ ih => exact (hf _).append hs ih

theorem eq_intercalate (h : Joined (· = s) ws cs) : cs = s.intercalate ws := by
  induction h with
  | last w => rw [List.intercalate_singleton]
  | cons hs h ih =>
      rw [List.intercalate_cons_of_ne_nil h.ne_nil, ← ih, hs, List.append_assoc]

end Joined

theorem joined_intercalate {ws : List (List Char)} (s : List Char) (h : ws ≠ []) :
    Joined (· = s) ws (s.intercalate ws) := by
  induction ws with
  | nil => exact absurd rfl h
  | cons w ws ih =>
      cases ws with
      | nil =>
          rw [List.intercalate_singleton]
          exact .last w
      | cons v vs =>
          rw [List.intercalate_cons_cons, List.append_assoc]
          exact .cons rfl (ih (List.cons_ne_nil _ _))

theorem map_intercalate {ws : List (List Char)} (f : Char → Char) (s : List Char) (h : ws ≠ []) :
    (s.intercalate ws).map f = (s.map f).intercalate (ws.map (List.map f)) :=
  ((joined_intercalate s h).map f fun _ hs => hs ▸ rfl).eq_intercalate

/-- What was joined by one character can be cut there. -/
theorem intercalate_injective {c : Char} {us ws : List (List Char)} (hu : us ≠ []) (hw : ws ≠ [])
    (hufree : ∀ u ∈ us, c ∉ u) (hwfree : ∀ w ∈ ws, c ∉ w)
    (h : [c].intercalate us = [c].intercalate ws) : us = ws := by
  rw [← List.splitOn_intercalate c hufree hu, h, List.splitOn_intercalate c hwfree hw]

/-! ## Cutting -/

/-- A single separator. -/
def IsMark (sep : Char → Bool) (s : List Char) : Prop := ∃ c, sep c = true ∧ s = [c]

/-- A run of blanks that is not empty. -/
def IsGap (s : List Char) : Prop := s ≠ [] ∧ ∀ c ∈ s, isBlank c = true

/-- A text is its pieces with single separators between. -/
theorem joined_pieces (sep : Char → Bool) (cs : List Char) : Joined (IsMark sep) (pieces sep cs) cs := by
  induction cs with
  | nil => exact .last []
  | cons c cs ih =>
      unfold pieces
      split
      · next hc => exact .cons (w := []) ⟨c, hc, rfl⟩ ih
      · cases hp : pieces sep cs with
        | nil => exact absurd hp (pieces_ne_nil sep cs)
        | cons piece rest =>
            exact (hp ▸ ih).cons_head

/-- A word in front of a gap is a word of the whole. -/
theorem words_append_gap {w s cs : List Char} (hw : IsWord w) (hs : IsGap s) :
    words (w ++ (s ++ cs)) = w :: words cs := by
  rw [words, runs_append_gap hs, runs_of_free hw.1 hw.2]
  rfl

/-- Letters in front of what was joined from words belong to the first of them. -/
theorem Joined.words_append {Sep : List Char → Prop} {ws : List (List Char)} {u cs : List Char}
    (h : Joined Sep ws cs) (hws : ∀ w ∈ ws, IsWord w)
    (hu : ∀ c ∈ u, isBlank c = false) : ∃ v vs, words cs = v :: vs ∧ words (u ++ cs) = (u ++ v) :: vs := by
  obtain ⟨w, ws, rfl⟩ := List.exists_cons_of_ne_nil h.ne_nil
  obtain ⟨hne, hfree⟩ := hws w List.mem_cons_self
  obtain ⟨d, w, rfl⟩ := List.exists_cons_of_ne_nil hne
  obtain ⟨ds, rfl⟩ := h.exists_eq_cons
  exact words_append_of_free hu (hfree d List.mem_cons_self)

theorem mem_of_mem_words {w cs : List Char} {c : Char} (hw : w ∈ words cs) (hc : c ∈ w) : c ∈ cs :=
  (joined_pieces isBlank cs).mem (List.mem_filter.mp hw).1 hc

/-- What is not blank stands in a word. -/
theorem blank_or_mem_words {cs : List Char} :
    ∀ c ∈ cs, isBlank c = true ∨ ∃ w ∈ words cs, c ∈ w := by
  refine (joined_pieces isBlank cs).forall_mem (fun w hw c hc => ?_) ?_
  · exact .inr ⟨w, List.mem_filter.mpr ⟨hw, by simpa using List.ne_nil_of_mem hc⟩, hc⟩
  · rintro s ⟨b, hb, rfl⟩ c hc
    exact .inl (List.mem_singleton.mp hc ▸ hb)

/-- **A text is its words** with gaps between them and blanks around, unless it is blank. -/
theorem blank_or_joined_words (cs : List Char) : (∀ c ∈ cs, isBlank c = true) ∨
    ∃ before core after, cs = before ++ core ++ after ∧ (∀ c ∈ before, isBlank c = true) ∧
      (∀ c ∈ after, isBlank c = true) ∧ Joined IsGap (words core) core := by
  induction cs with
  | nil => exact .inl nofun
  | cons c cs ih =>
      by_cases hc : isBlank c = true
      · rcases ih with hblank | ⟨before, core, after, rfl, hbefore, hafter, hjoined⟩
        · exact .inl (List.forall_mem_cons.mpr ⟨hc, hblank⟩)
        · exact .inr ⟨c :: before, core, after, rfl, List.forall_mem_cons.mpr ⟨hc, hbefore⟩, hafter, hjoined⟩
      · -- a letter is a word of its own, unless the next one follows at once
        have hletter : IsWord [c] := ⟨List.cons_ne_nil _ _, by simpa using hc⟩
        right
        rcases ih with hblank | ⟨before, core, after, rfl, hbefore, hafter, hjoined⟩
        · exact ⟨[], [c], cs, rfl, nofun, hblank, words_of_free hletter.1 hletter.2 ▸ .last [c]⟩
        · by_cases hgap : before = []
          · obtain ⟨v, vs, hcore, hwords⟩ := hjoined.words_append (fun _ => isWord_of_mem_words) hletter.2
            refine ⟨[], c :: core, after, by rw [hgap]; rfl, nofun, hafter, ?_⟩
            exact hwords ▸ (hcore ▸ hjoined).cons_head
          · refine ⟨[], c :: (before ++ core), after, by simp, nofun, hafter, ?_⟩
            have hwords : words (c :: (before ++ core)) = [c] :: words core :=
              words_append_gap hletter ⟨hgap, hbefore⟩
            exact hwords ▸ .cons (w := [c]) ⟨hgap, hbefore⟩ hjoined

/-- **Words** that are not empty and hold no blank can be read off what was joined from them. -/
theorem Joined.words_eq {ws : List (List Char)} {cs : List Char} (h : Joined IsGap ws cs)
    (hws : ∀ w ∈ ws, IsWord w) : words cs = ws := by
  induction h with
  | last w =>
      obtain ⟨hne, hfree⟩ := hws w List.mem_cons_self
      exact words_of_free hne hfree
  | cons hs h ih =>
      obtain ⟨hw, hws⟩ := List.forall_mem_cons.mp hws
      rw [words_append_gap hw hs, ih hws]

/-! ## Parts -/

section Parts

variable {sep : Char → Bool} {cs : List Char}

/-- The pieces of the words. -/
def parts (sep : Char → Bool) (cs : List Char) : List (List Char) := (words cs).flatMap (pieces sep)

/-- A gap or a single separator. -/
def IsBreak (sep : Char → Bool) (s : List Char) : Prop := IsMark sep s ∨ IsGap s

theorem parts_ne_nil (h : words cs ≠ []) : parts sep cs ≠ [] := by
  obtain ⟨w, ws, hwords⟩ := List.exists_cons_of_ne_nil h
  rw [parts, hwords, List.flatMap_cons]
  exact List.append_ne_nil_of_left_ne_nil (pieces_ne_nil sep w) _

theorem free_of_mem_parts {w : List Char} (hw : w ∈ parts sep cs) : ∀ c ∈ w, sep c = false := by
  obtain ⟨v, -, hw⟩ := List.mem_flatMap.mp hw
  exact sep_of_mem_pieces hw

/-- What is joined from its words is joined from their pieces. -/
theorem Joined.to_parts (h : Joined IsGap (words cs) cs) : Joined (IsBreak sep) (parts sep cs) cs :=
  (h.mono fun _ => .inr).flatMap fun w => (joined_pieces sep w).mono fun _ => .inl

/-- **Parts** that are not empty and hold no break can be read off what was joined from them. -/
theorem Joined.parts_eq {ws : List (List Char)} (hsep : ∀ c, sep c = true → isBlank c = false)
    (h : Joined (IsBreak sep) ws cs) (hws : ∀ w ∈ ws, IsWord w)
    (hfree : ∀ w ∈ ws, ∀ c ∈ w, sep c = false) : parts sep cs = ws := by
  induction h with
  | last w =>
      obtain ⟨hne, hw⟩ := hws w List.mem_cons_self
      simp only [parts, words_of_free hne hw, List.flatMap_singleton,
        pieces_of_free (hfree w List.mem_cons_self)]
  | @cons w s ws cs hs h ih =>
      obtain ⟨hw, hws⟩ := List.forall_mem_cons.mp hws
      obtain ⟨hwfree, hfree⟩ := List.forall_mem_cons.mp hfree
      have hrest := ih hws hfree
      rcases hs with ⟨c, hc, rfl⟩ | hs
      · -- the separator joins two pieces to one word
        have hu : ∀ d ∈ w ++ [c], isBlank d = false := by
          simpa [or_imp, forall_and, hsep c hc] using hw.2
        obtain ⟨v, vs, hcs, hwords⟩ := h.words_append hws hu
        rw [parts, hcs, List.flatMap_cons] at hrest
        rw [← List.append_assoc, parts, hwords, List.flatMap_cons, List.append_assoc w, List.singleton_append,
          pieces_append_cons hc, pieces_of_free hwfree, List.append_assoc, hrest]
        rfl
      · rw [parts, words_append_gap hw hs, List.flatMap_cons, pieces_of_free hwfree]
        exact congrArg (w :: ·) hrest

end Parts

end DiveSchool.Text
