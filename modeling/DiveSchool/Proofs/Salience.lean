import Mathlib.Data.List.Nodup
import DiveSchool.Proofs.Decision

/-!
# `DiveSchool.Proofs.Salience` — which rule of a table decides

A table orders its rules once and then takes the first that applies. What it decides can be read off the
list it was made from: of the rules that apply the one with the greatest salience, and of equals the one that
stands first there, since the order of equals survives the sort. So it does not matter how the list is
ordered where no two rules are equal, nor what is added below a rule that always applies.

## Contents
- **Equals.** `filter_mergeSort_of_tied`: a sort keeps the order of what it cannot tell apart.
- **Prevailing.** `RuleTable.Prevails`, with `exists_prevails` and `prevails_of_strict`.
- **Firing.** `RuleTable.fire?_ofRules_iff`: the rule that fires is the one that prevails.
- **Deciding.** `salience_decides`.
-/

namespace DiveSchool

/-! ## Equals -/

/-- A sort keeps the order of elements that it cannot tell apart. -/
theorem filter_mergeSort_of_tied {α : Type} {le : α → α → Bool}
    (htrans : ∀ a b c, le a b = true → le b c = true → le a c = true)
    (htotal : ∀ a b, (le a b || le b a) = true) {q : α → Bool} {l : List α}
    (htied : ∀ a ∈ l, ∀ b ∈ l, q a = true → q b = true → le a b = true) :
    (l.mergeSort le).filter q = l.filter q := by
  have hsorted : (l.filter q).Pairwise fun a b => le a b = true := by
    refine List.pairwise_iff_forall_sublist.mpr fun {a b} hab => ?_
    obtain ⟨ha, hqa⟩ := List.mem_filter.mp (hab.subset List.mem_cons_self)
    obtain ⟨hb, hqb⟩ := List.mem_filter.mp (hab.subset (List.mem_cons_of_mem _ List.mem_cons_self))
    exact htied a ha b hb hqa hqb
  have hkept : (l.filter q).Sublist ((l.mergeSort le).filter q) := by
    have h := (List.sublist_mergeSort htrans htotal hsorted List.filter_sublist).filter q
    simp only [List.filter_filter, Bool.and_self] at h
    exact h
  exact (hkept.eq_of_length ((List.mergeSort_perm l le).filter q).length_eq.symm).symm

namespace RuleTable

/-! ## Prevailing -/

/-- A rule of a list applies, those before it that apply have less salience, and those after it no more. -/
def Prevails (rules : List Rule) (f : Facts) (r : Rule) : Prop :=
  ∃ before after, rules = before ++ r :: after ∧ r.condition.holds f = true ∧
    (∀ s ∈ before, s.condition.holds f = true → s.salience < r.salience) ∧
    ∀ s ∈ after, s.condition.holds f = true → s.salience ≤ r.salience

variable {rules rules' : List Rule} {f : Facts} {r : Rule}

theorem Prevails.mem (h : Prevails rules f r) : r ∈ rules := by
  obtain ⟨before, after, rfl, -⟩ := h
  exact List.mem_append_right _ List.mem_cons_self

theorem Prevails.holds (h : Prevails rules f r) : r.condition.holds f = true := by
  obtain ⟨-, -, -, hholds, -⟩ := h
  exact hholds

theorem Prevails.le (h : Prevails rules f r) {s : Rule} (hs : s ∈ rules) (hholds : s.condition.holds f = true) :
    s.salience ≤ r.salience := by
  obtain ⟨before, after, rfl, -, hbefore, hafter⟩ := h
  rcases List.mem_append.mp hs with hs | hs
  · exact Int32.le_of_lt (hbefore s hs hholds)
  · rcases List.mem_cons.mp hs with rfl | hs
    · exact Int32.le_refl _
    · exact hafter s hs hholds

/-- Some rule prevails if any applies. -/
theorem exists_prevails (h : ∃ r ∈ rules, r.condition.holds f = true) : ∃ r, Prevails rules f r := by
  induction rules with
  | nil => simp at h
  | cons a rest ih =>
      by_cases hrest : ∃ r ∈ rest, r.condition.holds f = true
      · obtain ⟨r, hr⟩ := ih hrest
        by_cases ha : a.condition.holds f = true ∧ r.salience ≤ a.salience
        · -- the new one stands first, and none of the others has more salience
          exact ⟨a, [], rest, rfl, ha.1, nofun,
            fun s hs hholds => Int32.le_trans (hr.le hs hholds) ha.2⟩
        · obtain ⟨before, after, rfl, hholds, hbefore, hafter⟩ := hr
          refine ⟨r, a :: before, after, rfl, hholds, ?_, hafter⟩
          rintro s hs hsholds
          rcases List.mem_cons.mp hs with rfl | hs
          · exact Int32.not_le.mp fun hle => ha ⟨hsholds, hle⟩
          · exact hbefore s hs hsholds
      · obtain ⟨r, hr, hholds⟩ := h
        rcases List.mem_cons.mp hr with rfl | hr
        · exact ⟨r, [], rest, rfl, hholds, nofun, fun s hs hsholds => absurd ⟨s, hs, hsholds⟩ hrest⟩
        · exact absurd ⟨r, hr, hholds⟩ hrest

/-- A rule that applies prevails, wherever it stands, if it has more salience than all others that apply. -/
theorem prevails_of_strict (hr : r ∈ rules) (hholds : r.condition.holds f = true)
    (hstrict : ∀ s ∈ rules, s.condition.holds f = true → s ≠ r → s.salience < r.salience) :
    Prevails rules f r := by
  obtain ⟨before, after, rfl, hfirst⟩ := List.eq_append_cons_of_mem hr
  refine ⟨before, after, rfl, hholds, fun s hs hsholds => ?_, fun s hs hsholds => ?_⟩
  · exact hstrict s (List.mem_append_left _ hs) hsholds fun h => hfirst (h ▸ hs)
  · by_cases h : s = r
    · rw [h]
      exact Int32.le_refl _
    · exact Int32.le_of_lt (hstrict s (List.mem_append_right _ (List.mem_cons_of_mem _ hs)) hsholds h)

/-- Where no two rules have the same salience, it makes no difference in which order they stand and what is
    there besides them with less. -/
theorem Prevails.of_perm_append {lower : List Rule} (h : Prevails rules f r)
    (hdistinct : (rules.map Rule.salience).Nodup) (hlower : ∀ s ∈ lower, s.salience < r.salience)
    (hperm : rules'.Perm (rules ++ lower)) : Prevails rules' f r := by
  have hmem : r ∈ rules' := hperm.mem_iff.mpr (List.mem_append_left _ h.mem)
  refine prevails_of_strict hmem h.holds fun s hs hsholds hne => ?_
  rcases List.mem_append.mp (hperm.mem_iff.mp hs) with hs | hs
  · refine Int32.lt_of_le_of_ne (h.le hs hsholds) fun heq => ?_
    exact hne (List.inj_on_of_nodup_map hdistinct hs h.mem heq)
  · exact hlower s hs

/-! ## Firing -/

theorem trans_salience (a b c : Rule) (h : decide (b.salience ≤ a.salience) = true)
    (h' : decide (c.salience ≤ b.salience) = true) : decide (c.salience ≤ a.salience) = true :=
  decide_eq_true (Int32.le_trans (of_decide_eq_true h') (of_decide_eq_true h))

theorem total_salience (a b : Rule) :
    (decide (b.salience ≤ a.salience) || decide (a.salience ≤ b.salience)) = true := by
  rcases Int32.le_total b.salience a.salience with h | h <;> simp [h]

/-- The order of a table: descending salience. -/
theorem pairwise_ofRules (rules : List Rule) :
    (ofRules rules).rules.Pairwise fun a b => b.salience ≤ a.salience := by
  have hsorted : (ofRules rules).rules.Pairwise fun a b => decide (b.salience ≤ a.salience) = true :=
    List.pairwise_mergeSort trans_salience total_salience rules
  exact hsorted.imp of_decide_eq_true

/-- Rules of one salience stand in a table as they were given. -/
theorem find?_ofRules_of_tied {q : Rule → Bool} {k : Int32} (hq : ∀ s, q s = true → s.salience = k) :
    (ofRules rules).rules.find? q = rules.find? q := by
  rw [← List.head?_filter, ← List.head?_filter]
  congr 1
  refine filter_mergeSort_of_tied trans_salience total_salience fun a _ b _ ha hb => ?_
  rw [hq a ha, hq b hb]
  exact decide_eq_true (Int32.le_refl _)

theorem Prevails.fire?_eq (h : Prevails rules f r) : (ofRules rules).fire? f = some r := by
  have hmost : ∀ s ∈ rules, s.condition.holds f = true → s.salience ≤ r.salience := fun s hs => h.le hs
  obtain ⟨before, after, hrules, hholds, hbefore, -⟩ := h
  -- of the rules that apply with the greatest salience, `r` is the first before the sort and after it
  let top (s : Rule) : Bool := s.condition.holds f && s.salience == r.salience
  have hfirst : rules.find? top = some r := by
    refine List.find?_eq_some_iff_append.mpr ⟨by simp [top, hholds], before, after, hrules, fun s hs => ?_⟩
    simp only [top, Bool.not_eq_true', Bool.and_eq_false_imp, beq_eq_false_iff_ne]
    exact fun hsholds => Int32.ne_of_lt (hbefore s hs hsholds)
  rw [← find?_ofRules_of_tied (k := r.salience) (by simp [top])] at hfirst
  obtain ⟨-, above, below, htable, habove⟩ := List.find?_eq_some_iff_append.mp hfirst
  refine List.find?_eq_some_iff_append.mpr ⟨hholds, above, below, htable, fun s hs => ?_⟩
  -- a rule above it that applies would be one of those
  have hle : r.salience ≤ s.salience := by
    have hsorted := htable ▸ pairwise_ofRules rules
    exact (List.pairwise_append.mp hsorted).2.2 s hs r List.mem_cons_self
  have hmem : s ∈ rules := (List.mergeSort_perm _ _).mem_iff.mp (htable ▸ List.mem_append_left _ hs)
  have hlow := habove s hs
  simp only [top, Bool.not_eq_true', Bool.and_eq_false_imp, beq_eq_false_iff_ne] at hlow ⊢
  refine Bool.eq_false_iff.mpr fun hsholds => ?_
  exact hlow hsholds (Int32.le_antisymm (hmost s hmem hsholds) hle)

/-- **The rule that fires** is the one that prevails. -/
theorem fire?_ofRules_iff : (ofRules rules).fire? f = some r ↔ Prevails rules f r := by
  refine ⟨fun hfire => ?_, Prevails.fire?_eq⟩
  have hmem : r ∈ rules := (List.mergeSort_perm _ _).mem_iff.mp (List.mem_of_find?_eq_some hfire)
  have hholds : r.condition.holds f = true := List.find?_some (p := fun s : Rule => s.condition.holds f) hfire
  obtain ⟨r', hr'⟩ := exists_prevails ⟨r, hmem, hholds⟩
  cases hfire.symm.trans hr'.fire?_eq
  exact hr'

/-! ## Deciding -/

theorem Prevails.validate_eq {holder : Option Level} {o : Offering}
    (h : Prevails rules (Facts.gather holder o) r) :
    (ofRules rules).validate holder o = r.outcome.verdict (Facts.gather holder o) := by
  rw [validate, verdict, h.fire?_eq]

/-- No rule decides what is decided without one. -/
theorem verdict_ne_unmatched (c : Outcome) (f : Facts) : c.verdict f ≠ .unmatched := by
  have hinsufficient : ∀ level required : Level, Verdict.insufficient level required ≠ .unmatched := by
    intro level required
    cases level <;> cases required <;> decide +kernel
  have hfixed : Verdict.alreadyCertified ≠ .unmatched ∧ Verdict.eligible ≠ .unmatched := by decide
  cases c with
  | rejectAlreadyCertified => exact hfixed.1
  | rejectInsufficient => exact hinsufficient _ _
  | accept => exact hfixed.2

theorem validate_of_none {holder : Option Level} {o : Offering}
    (h : ¬ ∃ r ∈ rules, r.condition.holds (Facts.gather holder o) = true) :
    (ofRules rules).validate holder o = .unmatched := by
  have hfire : (ofRules rules).fire? (Facts.gather holder o) = none := by
    refine List.find?_eq_none.mpr fun s hs hholds => h ⟨s, ?_, hholds⟩
    exact (List.mergeSort_perm _ _).mem_iff.mp hs
  rw [validate, verdict, hfire]

/-- Of the stock rules one always prevails, and it has no negative salience. -/
theorem exists_prevails_stock (f : Facts) : ∃ r, Prevails stockRules f r ∧ 0 ≤ r.salience := by
  have happlies : ∃ r ∈ stockRules, r.condition.holds f = true :=
    ⟨⟨"eligible", 0, .always, .accept⟩, by decide, rfl⟩
  obtain ⟨r, hr⟩ := exists_prevails happlies
  have hstock : ∀ r ∈ stockRules, 0 ≤ r.salience := by decide
  exact ⟨r, hr, hstock r hr.mem⟩

/-- **Salience decides.** The rule that fires is the one that prevails in the list the table was made from. What
    the table decides about a holder and an offering is its outcome, if one applies, and that no rule matched
    exactly if none does. Hence the order of rules with distinct saliences makes no difference, and a list that
    holds the stock rules, in whatever order, and any others of negative salience decides as the ordinal
    strategy does. -/
theorem salience_decides (rules : List Rule) (holder : Option Level) (o : Offering) :
    let f := Facts.gather holder o
    (∀ r, (ofRules rules).fire? f = some r ↔ Prevails rules f r) ∧
    (∀ r, Prevails rules f r → (ofRules rules).validate holder o = r.outcome.verdict f) ∧
    ((∃ r, Prevails rules f r) ↔ ∃ r ∈ rules, r.condition.holds f = true) ∧
    ((ofRules rules).validate holder o = ⟨false, "No eligibility rule matched"⟩ ↔
      ∀ r ∈ rules, r.condition.holds f = false) ∧
    (∀ rules', rules.Perm rules' → (rules.map Rule.salience).Nodup →
      (ofRules rules').validate holder o = (ofRules rules).validate holder o) ∧
    (∀ lower, (∀ r ∈ lower, r.salience < 0) → rules.Perm (stockRules ++ lower) →
      (ofRules rules).validate holder o = Ordinal.validate holder o) := by
  intro f
  refine ⟨fun r => fire?_ofRules_iff, fun r hr => hr.validate_eq, ⟨?_, exists_prevails⟩, ⟨?_, ?_⟩, ?_, ?_⟩
  · rintro ⟨r, hr⟩
    exact ⟨r, hr.mem, hr.holds⟩
  · intro hverdict s hs
    refine Bool.eq_false_iff.mpr fun hholds => ?_
    obtain ⟨r, hr⟩ := exists_prevails ⟨s, hs, hholds⟩
    exact verdict_ne_unmatched r.outcome f (hr.validate_eq.symm.trans hverdict)
  · intro hnone
    refine validate_of_none ?_
    rintro ⟨r, hr, hholds⟩
    cases (hnone r hr).symm.trans hholds
  · intro rules' hperm hdistinct
    by_cases hsome : ∃ r ∈ rules, r.condition.holds f = true
    · obtain ⟨r, hr⟩ := exists_prevails hsome
      have hperm' : rules'.Perm (rules ++ []) := (List.append_nil rules).symm ▸ hperm.symm
      have hr' : Prevails rules' f r :=
        hr.of_perm_append hdistinct (fun s hs => absurd hs List.not_mem_nil) hperm'
      rw [hr.validate_eq, hr'.validate_eq]
    · have hsome' : ¬ ∃ r ∈ rules', r.condition.holds f = true := by
        simpa only [hperm.mem_iff] using hsome
      rw [validate_of_none hsome, validate_of_none hsome']
  · intro lower hlower hperm
    obtain ⟨r, hr, hnonneg⟩ := exists_prevails_stock f
    have hr' : Prevails rules f r := hr.of_perm_append (by decide)
      (fun s hs => Int32.lt_of_lt_of_le (hlower s hs) hnonneg) hperm
    have hstock : stock.validate holder o = Ordinal.validate holder o :=
      Strategy.validate_ofKind .rules holder o
    rw [hr'.validate_eq, ← hstock]
    exact hr.validate_eq.symm

end RuleTable

namespace OwnRules

/-- A trip for holders of the first level. -/
def trip : Offering := Offering.trip ⟨1⟩ default "Reef" 2 (some .openWater)

/-- Two rules of one salience that always apply, with one above them. -/
def tied : List Rule :=
  [⟨"nobody", 7, .always, .rejectAlreadyCertified⟩, ⟨"everybody", 7, .always, .accept⟩,
   ⟨"levels", 9, .holderBelowRequired, .rejectInsufficient⟩]

/-- The stock rules upside down, around one that never comes to bear. -/
def shuffled : List Rule :=
  [⟨"eligible", 0, .always, .accept⟩, ⟨"nobody", -1, .always, .rejectAlreadyCertified⟩,
   ⟨"prerequisite-not-met", 50, .holderBelowRequired, .rejectInsufficient⟩,
   ⟨"already-certified", 100, .holderMeetsProvided, .rejectAlreadyCertified⟩]

end OwnRules

open OwnRules RuleTable in
/-- Of the equals the first decides, where the rule above them does not apply; and the shuffled rules, in
    whichever direction, decide as the ordinal strategy does. -/
theorem first_of_equals_decides :
    (ofRules tied).validate (some .openWater) trip = .alreadyCertified ∧
    (ofRules tied).validate none trip = .insufficient .nonDiver .openWater ∧
    (ofRules []).validate none trip = ⟨false, "No eligibility rule matched"⟩ ∧
    (ofRules shuffled).validate none trip = Ordinal.validate none trip ∧
    (ofRules shuffled.reverse).validate none trip = (ofRules shuffled).validate none trip := by
  obtain ⟨-, hequals, -⟩ := salience_decides tied (some .openWater) trip
  obtain ⟨-, habove, -⟩ := salience_decides tied none trip
  obtain ⟨-, -, -, hnone, -⟩ := salience_decides [] none trip
  obtain ⟨-, -, -, -, horder, hstock⟩ := salience_decides shuffled none trip
  refine ⟨hequals ⟨"nobody", 7, .always, .rejectAlreadyCertified⟩ ⟨[], _, rfl, rfl, nofun, by decide⟩,
    habove ⟨"levels", 9, .holderBelowRequired, .rejectInsufficient⟩
      ⟨tied.take 2, [], rfl, by decide, by decide, nofun⟩,
    hnone.mpr nofun, ?_, ?_⟩
  · exact hstock [⟨"nobody", -1, .always, .rejectAlreadyCertified⟩] (by decide) (by decide)
  · exact horder _ (List.reverse_perm _).symm (by decide)

end DiveSchool
