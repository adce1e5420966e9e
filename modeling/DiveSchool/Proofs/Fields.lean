import DiveSchool.Record
import Mathlib.Data.List.Forall2
import Mathlib.Data.List.Nodup

/-!
# `DiveSchool.Proofs.Fields` — an object written in another way

A record is written as an object with its fields in one order. Someone else may write the same record with
the fields in another order, with fields that the record does not know, and without the fields that are
empty. Each field then still finds its slot: the slot holds the value, or nothing in place of an empty one.

## Contents
- **Other ways.** `Rewritten`, and `Covers`, what all of them have in common.
- **Slots.** `Slot.Fits`, what a slot may hold for a field; `Rewritten.slots`.
- **Rules.** What the rules of a record make of such a slot.
- **Tags.** `Rewritten.tagged`, a field that is taken out before the others are read.
-/

namespace DiveSchool

variable {ν α : Type} {isEmpty : ν → Bool} {fields gs hs : List (String × ν)}

/-! ## Other ways -/

/-- Fields that say the same as others. -/
inductive Rewritten (isEmpty : ν → Bool) (fields : List (String × ν)) : List (String × ν) → Prop where
  | same : Rewritten isEmpty fields fields
  /-- The order does not matter. -/
  | reordered {gs hs : List (String × ν)} (h : Rewritten isEmpty fields gs) (horder : gs.Perm hs) :
      Rewritten isEmpty fields hs
  /-- Neither does a field of an unknown name. -/
  | extended {gs : List (String × ν)} (h : Rewritten isEmpty fields gs) {name : String}
      (hname : name ∉ fields.map Prod.fst) (value : ν) : Rewritten isEmpty fields ((name, value) :: gs)
  /-- An empty field may be missing. -/
  | reduced {gs : List (String × ν)} {name : String} {value : ν}
      (h : Rewritten isEmpty fields ((name, value) :: gs)) (hempty : isEmpty value = true) :
      Rewritten isEmpty fields gs

section Names

variable {n name : String} {v : ν}

theorem countP_name_cons_self : ((n, v) :: gs).countP (·.1 == n) = gs.countP (·.1 == n) + 1 := by
  simp only [List.countP_cons, beq_self_eq_true, if_true]

theorem countP_name_cons_ne (h : name ≠ n) :
    ((name, v) :: gs).countP (·.1 == n) = gs.countP (·.1 == n) := by
  simp only [List.countP_cons, beq_false_of_ne h, Bool.false_eq_true, if_false, Nat.add_zero]

theorem filter_name_cons_self : ((n, v) :: gs).filter (·.1 == n) = (n, v) :: gs.filter (·.1 == n) := by
  simp only [List.filter_cons, beq_self_eq_true, if_true]

theorem filter_name_cons_ne (h : name ≠ n) : ((name, v) :: gs).filter (·.1 == n) = gs.filter (·.1 == n) := by
  simp only [List.filter_cons, beq_false_of_ne h, Bool.false_eq_true, if_false]

theorem filter_other_cons_self : ((n, v) :: gs).filter (·.1 != n) = gs.filter (·.1 != n) := by
  simp only [List.filter_cons, bne_self_eq_false, Bool.false_eq_true, if_false]

theorem filter_other_cons_ne (h : name ≠ n) :
    ((name, v) :: gs).filter (·.1 != n) = (name, v) :: gs.filter (·.1 != n) := by
  simp only [List.filter_cons, bne_iff_ne.mpr h, if_true]

theorem countP_name_eq (n : String) (fs : List (String × ν)) :
    fs.countP (·.1 == n) = (fs.map Prod.fst).count n := by
  rw [List.count, List.countP_map]
  rfl

end Names

/-- What fields that say the same have in common: no known name occurs twice, known names have their values,
    and what is missing is empty. -/
structure Covers (isEmpty : ν → Bool) (fields gs : List (String × ν)) : Prop where
  once : ∀ n ∈ fields.map Prod.fst, gs.countP (·.1 == n) ≤ 1
  known : ∀ f ∈ gs, f.1 ∈ fields.map Prod.fst → f ∈ fields
  there : ∀ f ∈ fields, f ∈ gs ∨ isEmpty f.2 = true

theorem Rewritten.covers (h : Rewritten isEmpty fields gs) (hnodup : (fields.map Prod.fst).Nodup) :
    Covers isEmpty fields gs := by
  induction h with
  | same =>
      refine ⟨fun n _ => ?_, fun f hf _ => hf, fun f hf => .inl hf⟩
      rw [countP_name_eq]
      exact List.nodup_iff_count_le_one.mp hnodup n
  | reordered _ horder ih =>
      refine ⟨fun n hn => ?_, fun f hf => ih.known f (horder.mem_iff.mpr hf), fun f hf => ?_⟩
      · rw [← horder.countP_eq]
        exact ih.once n hn
      · exact (ih.there f hf).imp_left horder.mem_iff.mp
  | @extended gs _ name hname value ih =>
      refine ⟨fun n hn => ?_, fun f hf hknown => ?_, fun f hf => ?_⟩
      · rw [countP_name_cons_ne (ne_of_mem_of_not_mem hn hname).symm]
        exact ih.once n hn
      · rcases List.mem_cons.mp hf with rfl | hf
        · exact absurd hknown hname
        · exact ih.known f hf hknown
      · exact (ih.there f hf).imp_left (List.mem_cons_of_mem _)
  | reduced _ hempty ih =>
      refine ⟨fun n hn => ?_, fun f hf => ih.known f (List.mem_cons_of_mem _ hf), fun f hf => ?_⟩
      · exact Nat.le_trans (List.Sublist.countP_le (List.sublist_cons_self _ _)) (ih.once n hn)
      · rcases ih.there f hf with hmem | hf
        · rcases List.mem_cons.mp hmem with rfl | hmem
          · exact .inr hempty
          · exact .inl hmem
        · exact .inr hf

/-! ## Slots -/

/-- A name that occurs once is looked up. -/
theorem lookup_eq_some_iff {n : String} (h : gs.countP (·.1 == n) ≤ 1) {v : ν} :
    gs.lookup n = some v ↔ (n, v) ∈ gs := by
  induction gs with
  | nil => simp
  | cons f gs ih =>
      obtain ⟨name, w⟩ := f
      by_cases hname : n = name
      · subst hname
        rw [List.lookup_cons_self, Option.some_inj, List.mem_cons, Prod.mk.injEq]
        rw [countP_name_cons_self] at h
        have hnone : (n, v) ∉ gs := fun hv => by
          have hpos : 0 < gs.countP (·.1 == n) := List.countP_pos_iff.mpr ⟨_, hv, beq_self_eq_true n⟩
          omega
        exact ⟨fun hw => .inl ⟨rfl, hw.symm⟩, fun hv => (hv.resolve_right hnone).2.symm⟩
      · rw [List.lookup_cons, beq_false_of_ne hname, List.mem_cons, Prod.mk.injEq]
        rw [countP_name_cons_ne (Ne.symm hname)] at h
        refine (ih h).trans ?_
        exact ⟨.inr, fun hv => hv.resolve_left fun heq => hname heq.1⟩

/-- What a slot may hold for a field: its value, or nothing in place of an empty value. -/
def Slot.Fits (isEmpty : ν → Bool) (f : String × ν) (s : Slot ν) : Prop :=
  s = .given f.2 ∨ (isEmpty f.2 = true ∧ s = .missing)

/-- **Every field finds its slot**, however the object is written. -/
theorem Rewritten.slots (h : Rewritten isEmpty fields gs) (hnodup : (fields.map Prod.fst).Nodup) :
    ∃ slots, Slot.ofFields? (fields.map Prod.fst) gs = some slots ∧
      List.Forall₂ (Slot.Fits isEmpty) fields slots := by
  have hcovers := h.covers hnodup
  have hrepeats : Slot.repeats (fields.map Prod.fst) gs = false := by
    rw [Slot.repeats, List.any_eq_false]
    intro n hn
    have honce := hcovers.once n hn
    simpa using honce
  refine ⟨_, by rw [Slot.ofFields?, hrepeats]; rfl, ?_⟩
  rw [List.map_map, List.forall₂_map_right_iff, List.forall₂_same]
  intro f hf
  have hname := List.mem_map_of_mem (f := Prod.fst) hf
  simp only [Function.comp_apply]
  have hlookup := fun v => lookup_eq_some_iff (hcovers.once f.1 hname) (v := v)
  cases hfound : gs.lookup f.1 with
  | some v =>
      have hv : (f.1, v) ∈ fields := hcovers.known _ ((hlookup v).mp hfound) hname
      have hsame : (f.1, v) = f := List.inj_on_of_nodup_map hnodup hv hf rfl
      exact .inl (congrArg (fun f => Slot.given f.2) hsame)
  | none =>
      rcases hcovers.there f hf with hmem | hempty
      · rw [(hlookup f.2).mpr hmem] at hfound
        cases hfound
      · exact .inr ⟨hempty, rfl⟩

/-! ## Rules -/

namespace Slot

variable {read : ν → Option α} {name : String} {v : ν} {s : Slot ν}

theorem Fits.given (h : Fits isEmpty (name, v) s) (hv : isEmpty v = false) : s = .given v := by
  refine h.resolve_right fun hempty => ?_
  rw [hv] at hempty
  cases hempty.1

theorem Fits.required (h : Fits isEmpty (name, v) s) (hv : isEmpty v = false) : s.required read = read v := by
  rw [h.given hv]
  rfl

theorem Fits.withDefault (h : Fits isEmpty (name, v) s) (hv : isEmpty v = false) {default : α} :
    s.withDefault default read = read v := by
  rw [h.given hv]
  rfl

theorem Fits.optional (h : Fits isEmpty (name, v) s) :
    s.optional isEmpty read = if isEmpty v then some none else (read v).map some := by
  rcases h with rfl | ⟨hempty, rfl⟩
  · rfl
  · rw [hempty]
    rfl

end Slot

/-! ## Tags -/

/-- A tag is the only field of its name, and the other fields say the same without it. -/
theorem Rewritten.tagged {tag : String} {v : ν} (h : Rewritten isEmpty ((tag, v) :: fields) gs)
    (htag : tag ∉ fields.map Prod.fst) (hv : isEmpty v = false) :
    gs.filter (·.1 == tag) = [(tag, v)] ∧ Rewritten isEmpty fields (gs.filter (·.1 != tag)) := by
  induction h with
  | same =>
      have hother : ∀ f ∈ fields, (f.1 == tag) = false := fun f hf =>
        beq_false_of_ne fun heq => htag (heq ▸ List.mem_map_of_mem hf)
      have hnone : fields.filter (·.1 == tag) = [] :=
        List.filter_eq_nil_iff.mpr fun f hf => by rw [hother f hf]; exact Bool.false_ne_true
      have hall : fields.filter (·.1 != tag) = fields :=
        List.filter_eq_self.mpr fun f hf => by rw [bne, hother f hf]; rfl
      rw [filter_name_cons_self, hnone, filter_other_cons_self, hall]
      exact ⟨rfl, .same⟩
  | reordered _ horder ih =>
      obtain ⟨htagged, hrest⟩ := ih
      have horder' := horder.filter (·.1 == tag)
      rw [htagged] at horder'
      exact ⟨(List.singleton_perm.mp horder').symm, hrest.reordered (horder.filter _)⟩
  | @extended gs _ name hname value ih =>
      rw [List.map_cons, List.mem_cons, not_or] at hname
      rw [filter_name_cons_ne hname.1, filter_other_cons_ne hname.1]
      exact ⟨ih.1, ih.2.extended hname.2 value⟩
  | @reduced gs name value _ hempty ih =>
      obtain ⟨htagged, hrest⟩ := ih
      by_cases hname : name = tag
      · -- the tag has a value, so it is not what was left out
        subst hname
        rw [filter_name_cons_self] at htagged
        have hvalue : value = v := congrArg Prod.snd (List.cons_eq_cons.mp htagged).1
        rw [hvalue, hv] at hempty
        cases hempty
      · rw [filter_name_cons_ne hname] at htagged
        rw [filter_other_cons_ne hname] at hrest
        exact ⟨htagged, hrest.reduced hempty⟩

end DiveSchool
