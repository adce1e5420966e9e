import DiveSchool.Offering.Basic
import DiveSchool.Proofs.Letters
import DiveSchool.Proofs.Words

/-!
# `DiveSchool.Proofs.Grammar` — which texts name a level

The parser tidies a text in two ways and compares it with three tables of names. What it accepts has a
grammar: the words of the canonical name, each two of them with an underscore, a hyphen or a gap between, or
the words of the full name with gaps between; in any case, and with blanks around. No text names two levels,
so it does not matter in which order they are tried.

## Contents
- **Lower case.** `words_map_toLower`, `parts_map_toLower`.
- **Grammar.** `Level.Spells`, and what the names are: `Level.canonical_name` and `Level.spoken_names`;
  `Level.spells_iff` and `Level.Spells.unique`.
- **Reading.** `Level.canonicalForm_eq_iff`, `Level.spokenForm_eq_iff` and `Level.isNamedBy_iff`.
- **Parsing.** `parse_accepts_grammar`.
-/

namespace DiveSchool

/-! ## Lower case -/

namespace Text

theorem words_map_toLower (cs : List Char) :
    words (cs.map Char.toLower) = (words cs).map (List.map Char.toLower) := by
  have hblank : isBlank ∘ Char.toLower = isBlank := funext isBlank_toLower
  have hempty : (fun piece : List Char => !piece.isEmpty) ∘ List.map Char.toLower =
      fun piece => !piece.isEmpty :=
    funext fun piece => by cases piece <;> rfl
  rw [words, runs, pieces_map, hblank, List.filter_map, hempty]
  rfl

theorem parts_map_toLower {sep : Char → Bool} (hsep : ∀ c : Char, sep c.toLower = sep c) (cs : List Char) :
    parts sep (cs.map Char.toLower) = (parts sep cs).map (List.map Char.toLower) := by
  have hcomp : sep ∘ Char.toLower = sep := funext hsep
  rw [parts, words_map_toLower, List.flatMap_map, parts, List.map_flatMap]
  exact congrArg (List.flatMap · (words cs)) (funext fun w => by rw [pieces_map, hcomp])

end Text

open Text

namespace Level

/-! ## Grammar -/

/-- An underscore or a hyphen. -/
def isScore (c : Char) : Bool := c == '_' || c == '-'

theorem isBlank_of_isScore {c : Char} (h : isScore c = true) : isBlank c = false := by
  simp only [isScore, Bool.or_eq_true, beq_iff_eq] at h
  rcases h with rfl | rfl <;> decide

theorem isScore_toLower (c : Char) : isScore c.toLower = isScore c := by
  by_cases hc : c.toNat < 128
  · exact of_ascii (P := fun c => isScore c.toLower = isScore c) (by decide +kernel) hc
  · rw [toLower_of_not_ascii hc]

/-- The words of the canonical name, in lower case. -/
def canonicalWords (l : Level) : List (List Char) :=
  (pieces (· == '_') l.canonicalName.toList).map (List.map Char.toLower)

/-- The words of the short name, in lower case. -/
def displayWords (l : Level) : List (List Char) := (words l.displayName.toList).map (List.map Char.toLower)

/-- The words of the full name, in lower case. -/
def fullWords (l : Level) : List (List Char) := (words l.fullName.toList).map (List.map Char.toLower)

/-- A text spells a level if it is, with blanks around and in any case, the words of its canonical name with
    an underscore, a hyphen or a gap between each two, or the words of its full name with gaps between. -/
def Spells (l : Level) (cs : List Char) : Prop :=
  ∃ before core after, cs.map Char.toLower = before ++ core ++ after ∧
    (∀ c ∈ before, isBlank c = true) ∧ (∀ c ∈ after, isBlank c = true) ∧
    (Joined (IsBreak isScore) l.canonicalWords core ∨ Joined IsGap l.fullWords core)

theorem mem_all (l : Level) : l ∈ all := by
  cases l <;> decide

/-- **A canonical name** is in upper case and in words without a break, an underscore between each two. -/
theorem canonical_name (l : Level) :
    (l.canonicalWords ≠ [] ∧ ∀ w ∈ l.canonicalWords, IsWord w ∧ w.any isScore = false) ∧
    l.canonicalName.toList = l.canonicalName.toList.map Char.toUpper ∧
    l.canonicalName.toList.map Char.toLower = ['_'].intercalate l.canonicalWords := by
  cases l <;> decide +kernel

/-- **The short and the full name** are words with single blanks between, and cut at scores too, the short name
    and the canonical one have the same parts. -/
theorem spoken_names (l : Level) : (l.displayWords ≠ [] ∧ l.fullWords ≠ []) ∧
    (lowerList l.displayName.toList = [' '].intercalate l.displayWords ∧
      lowerList l.fullName.toList = [' '].intercalate l.fullWords) ∧
    l.displayWords.flatMap (pieces isScore) = l.canonicalWords ∧
    ((words l.canonicalName.toList).map (List.map Char.toLower)).flatMap (pieces isScore) =
      l.canonicalWords := by
  cases l <;> decide +kernel

/-- In lower case, words are words still. -/
theorem isWord_of_mem_lower {cs w : List Char} (hw : w ∈ (words cs).map (List.map Char.toLower)) : IsWord w := by
  obtain ⟨v, hv, rfl⟩ := List.mem_map.mp hw
  obtain ⟨hne, hfree⟩ := isWord_of_mem_words hv
  refine ⟨fun hnil => hne (List.map_eq_nil_iff.mp hnil), fun c hc => ?_⟩
  obtain ⟨d, hd, rfl⟩ := List.mem_map.mp hc
  rw [isBlank_toLower]
  exact hfree d hd

/-- **A spelling** shows in the parts of the text or in its words. -/
theorem spells_iff {l : Level} {cs : List Char} : l.Spells cs ↔
    parts isScore (cs.map Char.toLower) = l.canonicalWords ∨ words (cs.map Char.toLower) = l.fullWords := by
  obtain ⟨⟨hne, hfair⟩, -⟩ := l.canonical_name
  constructor
  · rintro ⟨before, core, after, heq, hbefore, hafter, hjoined⟩
    have hpad : words (cs.map Char.toLower) = words core := heq ▸ words_pad hbefore hafter
    rcases hjoined with hjoined | hjoined
    · left
      rw [parts, hpad]
      exact hjoined.parts_eq (fun _ => isBlank_of_isScore) (fun w hw => (hfair w hw).1)
        fun w hw => free_of_any (hfair w hw).2
    · right
      rw [hpad]
      exact hjoined.words_eq fun _ => isWord_of_mem_lower
  · intro h
    rcases blank_or_joined_words (cs.map Char.toLower) with
      hblank | ⟨before, core, after, heq, hbefore, hafter, hjoined⟩
    · -- a blank text has no words
      rw [parts, words_of_blank hblank] at h
      rcases h with h | h
      · exact absurd h.symm hne
      · exact absurd h.symm l.spoken_names.1.2
    · rw [parts, heq, words_pad hbefore hafter] at h
      refine ⟨before, core, after, heq, hbefore, hafter, ?_⟩
      rcases h with h | h
      · left
        exact h ▸ hjoined.to_parts
      · right
        exact h ▸ hjoined

/-- A blank text spells nothing. -/
theorem Spells.words_ne_nil {l : Level} {cs : List Char} (h : l.Spells cs) : words cs ≠ [] := by
  intro hblank
  have hlower : words (cs.map Char.toLower) = [] := by
    rw [words_map_toLower, hblank]
    rfl
  rcases spells_iff.mp h with h | h
  · rw [parts, hlower] at h
    exact l.canonical_name.1.1 h.symm
  · exact l.spoken_names.1.2 (h.symm.trans hlower)

/-- No text spells two levels. -/
theorem Spells.unique {l l' : Level} {cs : List Char} (h : l.Spells cs) (h' : l'.Spells cs) : l = l' := by
  have hall : ∀ l ∈ all, ∀ l' ∈ all, l.canonicalWords = l'.canonicalWords ∨ l.fullWords = l'.fullWords ∨
      l.fullWords.flatMap (pieces isScore) = l'.canonicalWords → l = l' := by decide +kernel
  have hapart := fun l l' => hall l (mem_all l) l' (mem_all l')
  rcases spells_iff.mp h with h | h <;> rcases spells_iff.mp h' with h' | h'
  · exact hapart l l' (.inl (h.symm.trans h'))
  · exact (hapart l' l (.inr (.inr (by rw [← h', ← h, parts])))).symm
  · exact hapart l l' (.inr (.inr (by rw [← h, ← h', parts])))
  · exact hapart l l' (.inr (.inl (h.symm.trans h')))

/-! ## Reading -/

section Reading

variable {l : Level} {cs : List Char}

theorem ascii_intercalate {ws : List (List Char)} {c : Char} (hne : ws ≠ []) (hc : c.toNat < 128)
    (h : ∀ w ∈ ws, ∀ d ∈ w, d.toNat < 128) : ∀ d ∈ [c].intercalate ws, d.toNat < 128 := by
  refine (joined_intercalate [c] hne).forall_mem h ?_
  rintro s rfl d hd
  rwa [List.mem_singleton.mp hd]

/-- A text made canonical is its parts joined by underscores, in upper case. -/
theorem canonicalForm_eq (hne : words cs ≠ []) (hascii : ∀ w ∈ words cs, ∀ c ∈ w, c.toNat < 128) :
    canonicalForm cs = (['_'].intercalate (parts isScore cs)).map Char.toUpper := by
  let dash (c : Char) : Char := if c = '-' then '_' else c
  have hjoined : Joined (· = ['_']) (words cs) (['_'].intercalate (words cs)) := joined_intercalate _ hne
  have hparts : Joined (IsMark isScore) (parts isScore cs) (['_'].intercalate (words cs)) :=
    (hjoined.mono fun s hs => ⟨'_', rfl, hs⟩).flatMap (joined_pieces isScore)
  have hdash : (parts isScore cs).map (List.map dash) = parts isScore cs := by
    -- no part holds a hyphen
    have hid : ∀ w ∈ parts isScore cs, w.map dash = w := fun w hw =>
      (List.map_congr_left fun c hc => if_neg fun h => by cases h ▸ free_of_mem_parts hw c hc).trans
        (List.map_id w)
    exact (List.map_congr_left hid).trans (List.map_id _)
  have heq : (['_'].intercalate (words cs)).map dash = ['_'].intercalate (parts isScore cs) := by
    have hmark : ∀ s, IsMark isScore s → s.map dash = ['_'] := by
      rintro s ⟨c, hc, rfl⟩
      simp only [isScore, Bool.or_eq_true, beq_iff_eq] at hc
      rcases hc with rfl | rfl <;> rfl
    have hdashed : Joined (· = ['_']) ((parts isScore cs).map (List.map dash))
        ((['_'].intercalate (words cs)).map dash) := hparts.map dash hmark
    rw [hdash] at hdashed
    exact hdashed.eq_intercalate
  have hupper : ∀ c ∈ (['_'].intercalate (words cs)).map dash, c.toNat < 128 := by
    intro c hc
    obtain ⟨d, hd, rfl⟩ := List.mem_map.mp hc
    have hd' := ascii_intercalate hne (by decide) hascii d hd
    simp only [dash]
    split
    · decide
    · exact hd'
  rw [canonicalForm, upperList_of_ascii hupper, heq]

/-- A text made spoken is its words joined by blanks, in lower case. -/
theorem spokenForm_eq (hne : words cs ≠ []) (hascii : ∀ w ∈ words cs, ∀ c ∈ w, c.toNat < 128) :
    spokenForm cs = [' '].intercalate (words (cs.map Char.toLower)) := by
  rw [spokenForm, lowerList_of_ascii (ascii_intercalate hne (by decide) hascii), map_intercalate _ _ hne,
    words_map_toLower]
  rfl

/-- **Made canonical**, a text is the canonical name if its parts are the words of that. -/
theorem canonicalForm_eq_iff (hne : words cs ≠ []) (hascii : ∀ w ∈ words cs, ∀ c ∈ w, c.toNat < 128) :
    canonicalForm cs = l.canonicalName.toList ↔ parts isScore (cs.map Char.toLower) = l.canonicalWords := by
  obtain ⟨⟨hcanonical, hfair⟩, hname⟩ := l.canonical_name
  have hparts : parts isScore cs ≠ [] := parts_ne_nil hne
  have hlower : parts isScore (cs.map Char.toLower) ≠ [] := by
    rw [parts_map_toLower isScore_toLower]
    exact fun h => hparts (List.map_eq_nil_iff.mp h)
  have hscore : ∀ w : List Char, (∀ c ∈ w, isScore c = false) → '_' ∉ w := fun w hw hmem => by
    cases hw _ hmem
  calc canonicalForm cs = l.canonicalName.toList
      ↔ (['_'].intercalate (parts isScore cs)).map Char.toLower = l.canonicalName.toList.map Char.toLower := by
        rw [canonicalForm_eq hne hascii, hname.1, map_toUpper_eq_iff, ← hname.1]
    _ ↔ ['_'].intercalate (parts isScore (cs.map Char.toLower)) = ['_'].intercalate l.canonicalWords := by
        rw [map_intercalate _ _ hparts, hname.2, parts_map_toLower isScore_toLower]
        rfl
    _ ↔ parts isScore (cs.map Char.toLower) = l.canonicalWords := by
        refine ⟨intercalate_injective hlower hcanonical ?_ ?_, congrArg _⟩
        · exact fun w hw => hscore w (free_of_mem_parts hw)
        · exact fun w hw => hscore w (free_of_any (hfair w hw).2)

/-- **Made spoken**, a text is what its words are when they are joined by blanks. -/
theorem spokenForm_eq_iff {ws : List (List Char)} (hne : words cs ≠ [])
    (hascii : ∀ w ∈ words cs, ∀ c ∈ w, c.toNat < 128) (hws : ws ≠ [])
    (hfair : ∀ w ∈ ws, IsWord w) :
    spokenForm cs = [' '].intercalate ws ↔ words (cs.map Char.toLower) = ws := by
  have hlower : words (cs.map Char.toLower) ≠ [] := by
    rw [words_map_toLower]
    exact fun h => hne (List.map_eq_nil_iff.mp h)
  have hblank : ∀ w : List Char, (∀ c ∈ w, isBlank c = false) → ' ' ∉ w := fun w hw hmem => by
    cases hw _ hmem
  rw [spokenForm_eq hne hascii]
  refine ⟨intercalate_injective hlower hws ?_ ?_, congrArg _⟩
  · exact fun w hw => hblank w (isWord_of_mem_words hw).2
  · exact fun w hw => hblank w (hfair w hw).2

/-- A text of ASCII characters and blanks. -/
def Plain (cs : List Char) : Prop := ∀ c ∈ cs, c.toNat < 128 ∨ isBlank c = true

instance (cs : List Char) : Decidable (Plain cs) :=
  List.decidableBAll _ cs

theorem Plain.ascii (h : Plain cs) : ∀ w ∈ words cs, ∀ c ∈ w, c.toNat < 128 := fun _ hw c hc =>
  (h c (mem_of_mem_words hw hc)).resolve_right (Bool.eq_false_iff.mp ((isWord_of_mem_words hw).2 c hc))

/-- **The names** of a level stand for what the grammar says, if the text is not blank. -/
theorem isNamedBy_iff_of_words (hne : words cs ≠ []) (hascii : ∀ w ∈ words cs, ∀ c ∈ w, c.toNat < 128) :
    l.isNamedBy cs = true ↔ l.Spells cs := by
  obtain ⟨⟨hdisplay, hfull⟩, hspoken, hparts, -⟩ := l.spoken_names
  rw [spells_iff, isNamedBy, hspoken.1, hspoken.2]
  simp only [Bool.or_eq_true, beq_iff_eq, eq_comm (b := canonicalForm cs), eq_comm (b := spokenForm cs),
    canonicalForm_eq_iff hne hascii, spokenForm_eq_iff hne hascii hdisplay fun _ => isWord_of_mem_lower,
    spokenForm_eq_iff hne hascii hfull fun _ => isWord_of_mem_lower]
  constructor
  · rintro ((h | h) | h)
    · exact .inl h
    · -- a short name is a way to write the canonical one
      left
      rw [parts, h, hparts]
    · exact .inr h
  · rintro (h | h)
    · exact .inl (.inl h)
    · exact .inr h

theorem isNamedBy_of_blank (h : words cs = []) : l.isNamedBy cs = false := by
  rw [isNamedBy, canonicalForm, spokenForm, h]
  cases l <;> decide +kernel

theorem isNamedBy_iff (h : Plain cs) : l.isNamedBy cs = true ↔ l.Spells cs := by
  by_cases hne : words cs = []
  · rw [isNamedBy_of_blank hne]
    exact ⟨nofun, fun hspells => absurd hne hspells.words_ne_nil⟩
  · exact isNamedBy_iff_of_words hne h.ascii

end Reading

/-! ## Parsing -/

section Parsing

variable {l : Level}

/-- **The order** in which the levels are tried does not matter. -/
theorem find?_isNamedBy_iff {cs : List Char} (h : Plain cs) {order : List Level} (horder : ∀ l, l ∈ order) :
    order.find? (·.isNamedBy cs) = some l ↔ l.Spells cs := by
  constructor
  · intro hfind
    exact (isNamedBy_iff h).mp (List.find?_some (p := fun l : Level => l.isNamedBy cs) hfind)
  · intro hspells
    cases hfind : order.find? (·.isNamedBy cs) with
    | none => exact absurd ((isNamedBy_iff h).mpr hspells) (List.find?_eq_none.mp hfind l (horder l))
    | some l' =>
        have hl' := List.find?_some (p := fun l : Level => l.isNamedBy cs) hfind
        exact congrArg some (((isNamedBy_iff h).mp hl').unique hspells)

/-- **Parsing** gives the level that is spelled. -/
theorem parse_eq_ok_iff {text : String} (h : Plain text.toList) :
    parse text = .ok l ↔ l.Spells text.toList := by
  rw [← find?_isNamedBy_iff h mem_all, parse]
  split
  · next hblank =>
    have hwords : words text.toList = [] := List.isEmpty_iff.mp hblank
    have hnone : all.find? (·.isNamedBy text.toList) = none :=
      List.find?_eq_none.mpr fun l _ => by simp [isNamedBy_of_blank hwords]
    rw [hnone]
    exact ⟨nofun, nofun⟩
  · split
    · next l' hfind => rw [hfind, Except.ok.injEq, Option.some.injEq]
    · next hfind =>
      rw [hfind]
      exact ⟨nofun, nofun⟩

/-- Where nothing is found, it is because the text is blank or unknown. -/
theorem parse_error {text : String} {f : Failure} (h : parse text = .error f) : f.kind = .notFound := by
  unfold parse at h
  split at h
  · cases h
    rfl
  · split at h
    · cases h
    · cases h
      rfl

/-- The three names of a level. -/
def names (l : Level) : List String := [l.canonicalName, l.displayName, l.fullName]

/-- Two texts have the same words, in whatever case. -/
def SameWords (cs ds : List Char) : Prop :=
  (words cs).map (List.map Char.toLower) = (words ds).map (List.map Char.toLower)

instance (cs ds : List Char) : Decidable (SameWords cs ds) :=
  inferInstanceAs (Decidable ((words cs).map _ = (words ds).map _))

/-- A text with the words of a plain text is plain. -/
theorem SameWords.plain {cs ds : List Char} (h : SameWords cs ds) (hds : Plain ds) : Plain cs := by
  intro c hc
  rcases blank_or_mem_words c hc with hblank | ⟨w, hw, hcw⟩
  · exact .inr hblank
  · left
    have hlower : w.map Char.toLower ∈ (words ds).map (List.map Char.toLower) := h ▸ List.mem_map_of_mem hw
    obtain ⟨v, hv, hvw⟩ := List.mem_map.mp hlower
    have hcv : c.toLower ∈ v.map Char.toLower := hvw ▸ List.mem_map_of_mem hcw
    obtain ⟨d, hd, hdc⟩ := List.mem_map.mp hcv
    exact ascii_of_toLower_eq hdc.symm (hds.ascii v hv d hd)

theorem SameWords.spells {cs : List Char} {name : String} (h : SameWords cs name.toList)
    (hname : name ∈ l.names) : l.Spells cs := by
  obtain ⟨-, -, hdisplay, hcanonical⟩ := l.spoken_names
  rw [spells_iff, parts, words_map_toLower, h]
  simp only [names, List.mem_cons, List.not_mem_nil, or_false] at hname
  rcases hname with rfl | rfl | rfl
  · exact .inl hcanonical
  · exact .inl hdisplay
  · exact .inr rfl

theorem names_plain {name : String} (h : name ∈ l.names) : Plain name.toList := by
  have hall : ∀ name ∈ l.names, Plain name.toList := by
    cases l <;> decide +kernel
  exact hall name h

end Parsing

end Level

/-- **The grammar of levels.** A text of ASCII characters and blanks is read as a level exactly if it spells it,
    it spells at most one, in whatever order they are tried, and any other text is not found, blank ones
    among them. A course confers the level that its name spells. Each name of a level is read as that level,
    in any case and however it is spaced. -/
theorem parse_accepts_grammar :
    (∀ text : String, Level.Plain text.toList →
      (∀ l, Level.parse text = .ok l ↔ l.Spells text.toList) ∧
      (∀ l l' : Level, l.Spells text.toList → l'.Spells text.toList → l = l') ∧
      (∀ order : List Level, (∀ l, l ∈ order) →
        ∀ l, order.find? (·.isNamedBy text.toList) = some l ↔ l.Spells text.toList) ∧
      ((∀ l : Level, ¬ l.Spells text.toList) → ∃ f, Level.parse text = .error f ∧ f.kind = .notFound) ∧
      ((∀ c ∈ text.toList, isBlank c = true) → ∀ l : Level, ¬ l.Spells text.toList) ∧
      (∀ id now capacity required l,
        (Offering.course id now text capacity required).provided = some l ↔ l.Spells text.toList)) ∧
    (∀ (l : Level) (name text : String), name ∈ l.names → Level.SameWords text.toList name.toList →
      Level.parse text = .ok l) := by
  refine ⟨fun text htext => ⟨fun l => Level.parse_eq_ok_iff htext, fun l l' => Level.Spells.unique,
    fun order horder l => Level.find?_isNamedBy_iff htext horder, fun hnone => ?_, fun hblank l hspells => ?_,
    fun id now capacity required l => ?_⟩, fun l name text hname hsame => ?_⟩
  · cases hparse : Level.parse text with
    | ok l => exact absurd ((Level.parse_eq_ok_iff htext).mp hparse) (hnone l)
    | error f => exact ⟨f, rfl, Level.parse_error hparse⟩
  · exact hspells.words_ne_nil (words_of_blank hblank)
  · rw [← Level.parse_eq_ok_iff htext]
    show (Level.parse text).toOption = some l ↔ _
    cases Level.parse text <;> simp [Except.toOption]
  · exact (Level.parse_eq_ok_iff (hsame.plain (Level.names_plain hname))).mpr (hsame.spells hname)

open Level in
/-- Hyphens and gaps may be mixed, but two underscores may not stand together; a text that spells one level does
    not spell another one whose words it contains. -/
theorem mixed_separators_parse :
    Level.parse "\u2003aDVANCED-Open \twater\n" = .ok .advancedOpenWater ∧
    (∀ l : Level, ¬ l.Spells "OPEN__WATER".toList) ∧
    ¬ openWater.Spells "advanced open water".toList ∧
    Level.parse " beginner\n(NO  certification)" = .ok .nonDiver ∧
    (Offering.course ⟨1⟩ default "Open-Water" 4 none).provided = some .openWater := by
  obtain ⟨hgrammar, hnames⟩ := parse_accepts_grammar
  have hmixed : advancedOpenWater.Spells "\u2003aDVANCED-Open \twater\n".toList := by
    refine ⟨"\u2003".toList, "advanced-open \twater".toList, "\n".toList, by decide,
      List.all_eq_true.mp (by decide), List.all_eq_true.mp (by decide), .inl ?_⟩
    have hgap : ∀ c ∈ " \t".toList, isBlank c = true := List.all_eq_true.mp (by decide)
    refine .cons (w := "advanced".toList) (s := ['-']) (.inl ⟨'-', rfl, rfl⟩) ?_
    exact .cons (w := "open".toList) (s := " \t".toList) (.inr ⟨by decide, hgap⟩) (.last "water".toList)
  refine ⟨((hgrammar _ (by decide)).1 _).mpr hmixed, fun l hspells => ?_, fun hspells => ?_, ?_, ?_⟩
  · obtain ⟨-, -, horder, -⟩ := hgrammar "OPEN__WATER" (by decide)
    have hnone : all.find? (·.isNamedBy "OPEN__WATER".toList) = none := by decide +kernel
    cases hnone.symm.trans ((horder all mem_all l).mpr hspells)
  · obtain ⟨-, hunique, horder, -⟩ := hgrammar "advanced open water" (by decide)
    have hother := (horder all mem_all advancedOpenWater).mp (by decide +kernel)
    cases hunique _ _ hspells hother
  · exact hnames .nonDiver "Beginner (No Certification)" _ (by decide) (by decide +kernel)
  · obtain ⟨-, -, horder, -, -, hcourse⟩ := hgrammar "Open-Water" (by decide)
    exact (hcourse _ _ _ _ _).mpr ((horder all mem_all .openWater).mp (by decide +kernel))

end DiveSchool
