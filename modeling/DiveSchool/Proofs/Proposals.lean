import Mathlib.Data.List.DropRight
import DiveSchool.Ledger.Memory
import DiveSchool.Offering.Proposal
import DiveSchool.Proofs.Session

/-!
# `DiveSchool.Proofs.Proposals` — which offerings can be created

A request for an offering passes three checks, of its fields, of its trimmed name and of its kind, and a
capacity is checked in three places. Here the checks are brought to one predicate, `Proposal.Acceptable`, and
what a request creates to one value, `Proposal.created`. The limits on a capacity then turn out to be the same
when an offering is created and when its capacity is changed. The limits on a name do not hold of what is
stored: they are checked before the name is trimmed.

## Contents
- **Trimming.** What is left of a text, and that trimming twice is trimming once.
- **Limits.** `Offering.checkKindCapacity_eq_ok_iff`, `Offering.checkCapacity_eq_ok_iff`,
  `CapacityChange.check_eq_ok_iff`.
- **Acceptance.** `Proposal.Acceptable`, `Proposal.created` and `Proposal.toOffering_eq_ok_iff`.
- **Stores.** A sound offering is refused only for its id.
- **Main results.** `creation_agrees_with_resizing`; `created_offering_proposed_again`, with
  `trimmed_below_two_characters`, a name that cannot be proposed again.
-/

namespace DiveSchool

/-! ## Trimming -/

namespace Text

variable {cs : List Char} {s : String}

theorem trimList_eq (cs : List Char) : trimList cs = (cs.dropWhile isBlank).rdropWhile isBlank := rfl

/-- A trimmed text is cut out of the text. -/
theorem infix_trimList (cs : List Char) : trimList cs <:+: cs :=
  (List.rdropWhile_prefix isBlank _).isInfix.trans (List.dropWhile_suffix isBlank).isInfix

theorem trimList_eq_nil_iff : trimList cs = [] ↔ ∀ c ∈ cs, isBlank c = true := by
  rw [trimList_eq, List.rdropWhile_eq_nil_iff]
  constructor
  · intro h c hc
    rw [← List.takeWhile_append_dropWhile (p := isBlank) (l := cs)] at hc
    rcases List.mem_append.mp hc with hc | hc
    · exact List.mem_takeWhile_imp hc
    · exact h c hc
  · intro h c hc
    exact h c ((List.dropWhile_suffix isBlank).subset hc)

/-- A trimmed text does not begin with a blank. -/
theorem trimStartList_trimList (cs : List Char) : trimStartList (trimList cs) = trimList cs := by
  refine List.dropWhile_eq_self_iff.mpr fun hpos => ?_
  -- its first character is the first one after the blanks in front
  have hstart : trimList cs <+: cs.dropWhile isBlank := List.rdropWhile_prefix isBlank _
  have hfirst := hstart.getElem hpos
  rw [hfirst]
  exact List.dropWhile_get_zero_not isBlank cs (Nat.lt_of_lt_of_le hpos hstart.length_le)

theorem trimList_trimList (cs : List Char) : trimList (trimList cs) = trimList cs := by
  calc trimList (trimList cs)
      = (trimStartList (trimList cs)).rdropWhile isBlank := rfl
    _ = (trimList cs).rdropWhile isBlank := by rw [trimStartList_trimList]
    _ = trimList cs := List.rdropWhile_idempotent isBlank _

/-- Trimming twice is trimming once. -/
@[simp]
theorem trim_trim (s : String) : trim (trim s) = trim s := by
  simp only [trim, String.toList_ofList, trimList_trimList]

theorem length_trim_le (s : String) : (trim s).length ≤ s.length := by
  rw [trim, String.length_ofList, ← String.length_toList]
  exact (infix_trimList s.toList).length_le

/-- A text of more than blanks is what trimming leaves something of. -/
theorem trim_isEmpty_eq_false_iff :
    (trim s).isEmpty = false ↔ ∃ c ∈ s.toList, isBlank c = false := by
  have hempty : (trim s).isEmpty = true ↔ trimList s.toList = [] := by
    rw [String.isEmpty_iff, trim, String.ofList_eq_empty_iff]
  rw [← Bool.not_eq_true, hempty, trimList_eq_nil_iff]
  simp only [not_forall, exists_prop, Bool.not_eq_true]

/-- A text of more than blanks stays one when it is trimmed. -/
theorem exists_not_isBlank_trim (h : ∃ c ∈ s.toList, isBlank c = false) :
    ∃ c ∈ (trim s).toList, isBlank c = false := by
  rw [← trim_isEmpty_eq_false_iff, trim_trim]
  exact trim_isEmpty_eq_false_iff.mpr h

end Text

/-! ## Limits -/

namespace Offering

variable {o : Offering} {kind : Kind} {capacity : Int32}

theorem checkKindCapacity_eq_ok_iff :
    checkKindCapacity kind capacity = .ok () ↔ (kind = .trip → capacity ≤ 50) := by
  cases kind with
  | course => simp [checkKindCapacity, Kind.maxCapacity?]
  | trip =>
      simp only [checkKindCapacity, Kind.maxCapacity?, true_implies]
      split
      · next hlarge => simp [Int32.not_le.mpr hlarge]
      · next hlarge => simp [Int32.not_lt.mp hlarge]

theorem checkCapacity_eq_ok_iff :
    o.checkCapacity capacity = .ok () ↔
      1 ≤ capacity ∧ (o.kind = .trip → capacity ≤ 50) ∧ o.bookings ≤ capacity := by
  rw [← checkKindCapacity_eq_ok_iff, ← Int32.not_lt, ← Int32.not_lt]
  unfold checkCapacity
  by_cases hsmall : capacity < 1
  · simp [hsmall]
  · cases hkind : checkKindCapacity o.kind capacity with
    | error e => simp [hsmall]
    | ok _ => by_cases hfew : capacity < o.bookings <;> simp [hsmall, hfew]

end Offering

theorem capacityComplaint_eq_nil_iff {capacity : Int32} : capacityComplaint capacity = [] ↔ 1 ≤ capacity := by
  rw [capacityComplaint, ite_eq_right_iff, ← Int32.not_lt]
  simp

theorem CapacityChange.check_eq_ok_iff {c : CapacityChange} : c.check = .ok () ↔ 1 ≤ c.capacity := by
  rw [← capacityComplaint_eq_nil_iff]
  unfold check
  cases capacityComplaint c.capacity <;> simp

theorem nameComplaint_eq_nil_iff {name : String} :
    nameComplaint name = [] ↔ 2 ≤ name.length ∧ name.length ≤ 100 := by
  rw [nameComplaint, ite_eq_right_iff]
  simp only [List.cons_ne_nil, imp_false, not_or, Nat.not_lt]

/-! ## Acceptance -/

namespace Proposal

variable {p : Proposal} {id : OfferingId} {now : Timestamp} {o : Offering}

/-- What the catalogue asks of a request. -/
structure Acceptable (p : Proposal) : Prop where
  long : 2 ≤ p.name.length
  short : p.name.length ≤ 100
  /-- The name is not blank. -/
  named : ∃ c ∈ p.name.toList, Text.isBlank c = false
  positive : 1 ≤ p.capacity
  /-- A trip has few places. -/
  trip : p.kind = .trip → p.capacity ≤ 50

/-- The offering that a request asks for. Without a level to confer, a course confers the one that its trimmed
    name names. -/
def created (p : Proposal) (id : OfferingId) (now : Timestamp) : Offering where
  id := id
  kind := p.kind
  name := Text.trim p.name
  capacity := p.capacity
  bookings := 0
  required := p.required
  provided := p.provided.or (if p.kind = .course then Level.parse? (Text.trim p.name) else none)
  status := p.status
  createdAt := now
  updatedAt := now

theorem ofKind_eq_created (p : Proposal) (id : OfferingId) (now : Timestamp) :
    { Offering.ofKind p.kind id now (Text.trim p.name) p.capacity p.required with
      provided := p.confers (Text.trim p.name), status := p.status } = p.created id now := by
  cases hkind : p.kind with
  | course =>
      cases hprovided : p.provided <;>
        simp [Offering.ofKind, Offering.course, Offering.plain, confers, created, hkind, hprovided]
  | trip => simp [Offering.ofKind, Offering.trip, Offering.plain, confers, created, hkind]

theorem complaints_eq_nil_iff :
    p.complaints = [] ↔ 1 ≤ p.capacity ∧ 2 ≤ p.name.length ∧ p.name.length ≤ 100 := by
  rw [complaints, List.append_eq_nil_iff, capacityComplaint_eq_nil_iff, nameComplaint_eq_nil_iff]

/-- A request with complaints is refused with all of them. -/
theorem toOffering_of_complaints (h : p.complaints ≠ []) :
    p.toOffering id now =
      .error ⟨.validation, "Invalid offering: " ++ Complaint.lines p.complaints, none⟩ := by
  unfold toOffering
  rw [if_pos h]
  rfl

/-- What becomes of a request without complaints. -/
theorem toOffering_of_no_complaints (h : p.complaints = []) :
    p.toOffering id now =
      if (Text.trim p.name).isEmpty then .error ⟨.validation, "Name must not be blank", none⟩
      else (Offering.checkKindCapacity p.kind p.capacity).map fun _ => p.created id now := by
  unfold toOffering
  rw [if_neg (not_not.mpr h), ← ofKind_eq_created]
  dsimp only
  split
  · rfl
  · cases Offering.checkKindCapacity p.kind p.capacity <;> rfl

/-- **A request is accepted** exactly if it is acceptable, and creates what it asks for. -/
theorem toOffering_eq_ok_iff : p.toOffering id now = .ok o ↔ p.Acceptable ∧ o = p.created id now := by
  constructor
  · intro h
    have hcomplaints : p.complaints = [] := by
      by_contra hcomplaints
      rw [toOffering_of_complaints hcomplaints] at h
      cases h
    rw [toOffering_of_no_complaints hcomplaints] at h
    split at h
    · cases h
    · next hname =>
        have hnamed := Text.trim_isEmpty_eq_false_iff.mp (Bool.not_eq_true _ ▸ hname)
        obtain ⟨hpositive, hlong, hshort⟩ := complaints_eq_nil_iff.mp hcomplaints
        cases hkind : Offering.checkKindCapacity p.kind p.capacity with
        | error e =>
            rw [hkind] at h
            cases h
        | ok _ =>
            rw [hkind] at h
            cases h
            exact ⟨⟨hlong, hshort, hnamed, hpositive, Offering.checkKindCapacity_eq_ok_iff.mp hkind⟩, rfl⟩
  · rintro ⟨hp, rfl⟩
    rw [toOffering_of_no_complaints (complaints_eq_nil_iff.mpr ⟨hp.positive, hp.long, hp.short⟩),
      Text.trim_isEmpty_eq_false_iff.mpr hp.named, Offering.checkKindCapacity_eq_ok_iff.mpr hp.trip]
    rfl

theorem exists_toOffering_eq_ok_iff : (∃ o, p.toOffering id now = .ok o) ↔ p.Acceptable := by
  constructor
  · rintro ⟨o, h⟩
    exact (toOffering_eq_ok_iff.mp h).1
  · intro h
    exact ⟨_, toOffering_eq_ok_iff.mpr ⟨h, rfl⟩⟩

theorem withinCapacity_created (hp : p.Acceptable) : (p.created id now).WithinCapacity := by
  have hone : (0 : Int32) ≤ 1 := by decide
  exact ⟨hp.positive, Int32.le_refl 0, Int32.le_trans hone hp.positive⟩

/-- The limits on the capacity of a request are those on a new capacity, as long as nothing is booked. -/
theorem acceptable_resized_iff {capacity : Int32} (hp : p.Acceptable) (hkind : o.kind = p.kind)
    (hempty : o.bookings = 0) :
    ({ p with capacity } : Proposal).Acceptable ↔ o.checkCapacity capacity = .ok () := by
  rw [Offering.checkCapacity_eq_ok_iff, hkind, hempty]
  constructor
  · intro h
    have hone : (0 : Int32) ≤ 1 := by decide
    exact ⟨h.positive, h.trip, Int32.le_trans hone h.positive⟩
  · rintro ⟨hpositive, htrip, _⟩
    exact ⟨hp.long, hp.short, hp.named, hpositive, htrip⟩

end Proposal

/-! ## Stores -/

/-- The ledger in memory refuses a sound offering only for its id. -/
theorem Memory.insert_answer (m : Memory) {o : Offering} (ho : o.WithinCapacity) :
    (m.insert o).answer =
      if m.offerings.contains o.id then .error (Offering.duplicate o.id) else .ok () := by
  unfold insert checkNew
  rw [Offering.checkInvariant_eq_ok_iff.mpr ho]
  cases m.offerings.contains o.id <;> rfl

/-- So do the tables. -/
theorem Tables.insertOffering_refused {t : Tables} {o : Offering} {r : Refusal} (ho : o.WithinCapacity)
    (h : t.insertOffering o = .error r) : r = .keyTaken := by
  unfold insertOffering replaceOffering at h
  rw [if_pos ho] at h
  split at h
  · cases h
    rfl
  · cases h

/-- What a database answers to a sound offering does not come from the check before the statement. -/
theorem Database.createOffering_refused {db db' : Database} {o : Offering} {e : Failure}
    (ho : o.WithinCapacity) (h : createOffering o db = (.error e, db')) : e.kind = .database := by
  unfold createOffering at h
  rw [Offering.checkInvariant_eq_ok_iff.mpr ho] at h
  change Session.statement .insert (Session.broken "Failed to create offering") (·.insertOffering o) db =
    _ at h
  unfold Session.statement at h
  split at h
  · cases h
  · cases h
    rfl

/-! ## Main results -/

/-- **Creating an offering and changing its capacity obey the same limits.** A request is accepted exactly if
    its name has 2 to 100 characters and is not blank and its capacity is one the kind allows. What it creates
    is sound, so that neither store refuses it but for its id; and as long as an offering has no bookings, its
    capacity can be changed to exactly those with which it could have been created. -/
theorem creation_agrees_with_resizing (p : Proposal) (id : OfferingId) (now : Timestamp) :
    ((∃ o, p.toOffering id now = .ok o) ↔ p.Acceptable) ∧
    ∀ o, p.toOffering id now = .ok o →
      o = p.created id now ∧
      o.checkInvariant = .ok () ∧
      (∀ m : Memory, (m.insert o).answer =
        if m.offerings.contains id then .error (Offering.duplicate id) else .ok ()) ∧
      (∀ (t : Tables) (r : Refusal), t.insertOffering o = .error r → r = .keyTaken) ∧
      (∀ (db db' : Database) (e : Failure), Database.createOffering o db = (.error e, db') →
        e.kind = .database) ∧
      ∀ capacity : Int32,
        (CapacityChange.check ⟨capacity⟩ = .ok () ↔ 1 ≤ capacity) ∧
        ((∃ o', ({ p with capacity } : Proposal).toOffering id now = .ok o') ↔
          o.checkCapacity capacity = .ok ()) ∧
        ∀ o' : Offering, o'.kind = o.kind → o'.bookings = 0 →
          ((∃ o'', ({ p with capacity } : Proposal).toOffering id now = .ok o'') ↔
            CapacityChange.check ⟨capacity⟩ = .ok () ∧ o'.checkCapacity capacity = .ok ()) := by
  refine ⟨Proposal.exists_toOffering_eq_ok_iff, fun o h => ?_⟩
  obtain ⟨hp, rfl⟩ := Proposal.toOffering_eq_ok_iff.mp h
  have hsound : (p.created id now).WithinCapacity := Proposal.withinCapacity_created hp
  refine ⟨rfl, Offering.checkInvariant_eq_ok_iff.mpr hsound, fun m => m.insert_answer hsound,
    fun t r => Tables.insertOffering_refused hsound, fun db db' e => Database.createOffering_refused hsound,
    fun capacity => ⟨CapacityChange.check_eq_ok_iff, ?_, fun o' hkind hempty => ?_⟩⟩
  · rw [Proposal.exists_toOffering_eq_ok_iff]
    exact Proposal.acceptable_resized_iff hp rfl rfl
  · rw [Proposal.exists_toOffering_eq_ok_iff, Proposal.acceptable_resized_iff hp hkind hempty, iff_and_self]
    intro hcheck
    exact CapacityChange.check_eq_ok_iff.mpr (Offering.checkCapacity_eq_ok_iff.mp hcheck).1

namespace Proposal

/-- A course with blanks around its name, and a level that the name says. -/
def advanced : Proposal := ⟨.course, " Advanced Open Water ", 6, some .openWater, none, .published⟩

theorem advanced_acceptable : advanced.Acceptable :=
  ⟨by decide, by decide, ⟨'A', by decide, by decide⟩, by decide, nofun⟩

end Proposal

open Proposal in
/-- The course confers the level of its trimmed name, and can grow beyond what a trip may have. -/
theorem advanced_course_created :
    ∃ o, advanced.toOffering ⟨1⟩ default = .ok o ∧ o.name = "Advanced Open Water" ∧ o.bookings = 0 ∧
      o.provided = some .advancedOpenWater ∧ (Memory.insert o (.empty 0)).answer = .ok () ∧
      o.checkCapacity 51 = .ok () ∧ o.checkCapacity 0 ≠ .ok () := by
  obtain ⟨haccepted, hcreated⟩ := creation_agrees_with_resizing advanced ⟨1⟩ default
  obtain ⟨o, ho⟩ := haccepted.mpr advanced_acceptable
  obtain ⟨rfl, -, hinsert, -, -, hcapacity⟩ := hcreated o ho
  obtain ⟨-, hlarge, -⟩ := hcapacity 51
  obtain ⟨-, hnone, -⟩ := hcapacity 0
  refine ⟨_, ho, by decide +kernel, rfl, by decide +kernel, hinsert _, hlarge.mp ?_, fun h => ?_⟩
  · exact exists_toOffering_eq_ok_iff.mpr
      ⟨by decide, by decide, ⟨'A', by decide, by decide⟩, by decide, nofun⟩
  · exact absurd (exists_toOffering_eq_ok_iff.mp (hnone.mpr h)).positive (by decide)

/-- The request that an offering would answer. -/
def Offering.proposal (o : Offering) : Proposal where
  kind := o.kind
  name := o.name
  capacity := o.capacity
  required := o.required
  provided := o.provided
  status := o.status

/-- Only the length of the name is in question when a created offering is proposed again. -/
theorem Proposal.Acceptable.created {p : Proposal} {id : OfferingId} {now : Timestamp} (hp : p.Acceptable)
    (hlong : 2 ≤ (Text.trim p.name).length) : (p.created id now).proposal.Acceptable where
  long := hlong
  short := Nat.le_trans (Text.length_trim_le p.name) hp.short
  named := Text.exists_not_isBlank_trim hp.named
  positive := hp.positive
  trip := hp.trip

/-- What a created offering confers does not change when it is proposed again. -/
theorem Proposal.created_created (p : Proposal) (id id' : OfferingId) (now now' : Timestamp) :
    (p.created id now).proposal.created id' now' =
      { p.created id now with id := id', createdAt := now', updatedAt := now' } := by
  simp only [created, Offering.proposal, Text.trim_trim, Offering.mk.injEq, true_and, and_true]
  cases p.provided with
  | some level => rfl
  | none => simp only [Option.none_or, Option.or_self]

/-- **A created offering proposed again** is created again, as it was, if two characters of its name are left
    after trimming. If only one is left, the request is refused for the length of the name. -/
theorem created_offering_proposed_again {p : Proposal} {id : OfferingId} {now : Timestamp} {o : Offering}
    (h : p.toOffering id now = .ok o) (id' : OfferingId) (now' : Timestamp) :
    1 ≤ o.name.length ∧ o.name.length ≤ 100 ∧
    (2 ≤ o.name.length →
      o.proposal.toOffering id' now' = .ok { o with id := id', createdAt := now', updatedAt := now' }) ∧
    (o.name.length = 1 →
      o.proposal.toOffering id' now' =
        .error ⟨.validation, "Invalid offering: name: Name must be between 2 and 100 characters", none⟩) := by
  obtain ⟨hp, rfl⟩ := Proposal.toOffering_eq_ok_iff.mp h
  refine ⟨?_, Nat.le_trans (Text.length_trim_le p.name) hp.short, fun hlong => ?_, fun hone => ?_⟩
  · have hempty := Text.trim_isEmpty_eq_false_iff.mpr hp.named
    refine Nat.one_le_iff_ne_zero.mpr fun hzero => ?_
    have hnone : Text.trim p.name = "" := String.length_eq_zero_iff.mp hzero
    rw [hnone] at hempty
    cases hempty
  · rw [← p.created_created]
    exact Proposal.toOffering_eq_ok_iff.mpr ⟨hp.created hlong, rfl⟩
  · have hcapacity : capacityComplaint p.capacity = [] := capacityComplaint_eq_nil_iff.mpr hp.positive
    have hname : nameComplaint (Text.trim p.name) =
        [⟨"name", "Name must be between 2 and 100 characters"⟩] := by
      rw [nameComplaint, if_pos (.inl (by rw [show (Text.trim p.name).length = 1 from hone]; decide))]
    have hcomplaints : (p.created id now).proposal.complaints =
        [⟨"name", "Name must be between 2 and 100 characters"⟩] := by
      change capacityComplaint p.capacity ++ nameComplaint (Text.trim p.name) = _
      rw [hcapacity, hname, List.nil_append]
    rw [Proposal.toOffering_of_complaints (by rw [hcomplaints]; nofun), hcomplaints]
    rfl

namespace Proposal

/-- A trip under a letter and a blank. -/
def letter : Proposal := ⟨.trip, "A ", 5, none, none, .published⟩

theorem letter_acceptable : letter.Acceptable :=
  ⟨by decide, by decide, ⟨'A', by decide, by decide⟩, by decide, fun _ => by decide⟩

end Proposal

open Proposal in
/-- The course is created again as it was, and the trip is refused. -/
theorem course_again_letter_refused :
    ((advanced.created ⟨1⟩ default).proposal.toOffering ⟨2⟩ ⟨1, 0⟩ =
      .ok { advanced.created ⟨1⟩ default with id := ⟨2⟩, createdAt := ⟨1, 0⟩, updatedAt := ⟨1, 0⟩ }) ∧
    (letter.created ⟨1⟩ default).proposal.toOffering ⟨1⟩ default =
      .error ⟨.validation, "Invalid offering: name: Name must be between 2 and 100 characters", none⟩ := by
  have hadvanced : advanced.toOffering ⟨1⟩ default = .ok (advanced.created ⟨1⟩ default) :=
    toOffering_eq_ok_iff.mpr ⟨advanced_acceptable, rfl⟩
  have hletter : letter.toOffering ⟨1⟩ default = .ok (letter.created ⟨1⟩ default) :=
    toOffering_eq_ok_iff.mpr ⟨letter_acceptable, rfl⟩
  obtain ⟨-, -, hagain, -⟩ := created_offering_proposed_again hadvanced ⟨2⟩ ⟨1, 0⟩
  obtain ⟨-, -, -, hrefused⟩ := created_offering_proposed_again hletter ⟨1⟩ default
  exact ⟨hagain (by decide +kernel), hrefused (by decide +kernel)⟩

open Proposal in
/-- A letter and a blank have the length of a name, and the letter alone does not: an offering is created that
    cannot be proposed again, and whose name breaks the rule announced for names. -/
theorem trimmed_below_two_characters :
    ∃ o, letter.toOffering ⟨1⟩ default = .ok o ∧ ¬ 2 ≤ o.name.length ∧
      ∀ o', o.proposal.toOffering ⟨1⟩ default ≠ .ok o' := by
  refine ⟨letter.created ⟨1⟩ default, toOffering_eq_ok_iff.mpr ⟨letter_acceptable, rfl⟩, by decide +kernel,
    fun o' h => ?_⟩
  have hname : (letter.created ⟨1⟩ default).proposal.name.length = 1 := by decide +kernel
  have hlong := (toOffering_eq_ok_iff.mp h).1.long
  omega

end DiveSchool
