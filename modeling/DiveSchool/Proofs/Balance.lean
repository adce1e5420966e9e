import DiveSchool.Proofs.Commands

/-!
# `DiveSchool.Proofs.Balance` — counters and records over any sequence of commands

A plain release frees a spot and leaves the record; cancelling at a counter of zero removes a record and
frees nothing. Every other command changes counter and records together or not at all. So the number of
records of an offering exceeds its counter by exactly the releases less the empty cancellations, however
many commands were carried out, and never falls below it.

## Contents
- **Counts.** `Tables.recordsOf`, `Tables.bookedOf`, and what each change of the tables does to them.
- **Effects.** What one command preserves: `Effect.sound`, `Effect.listed`, `Effect.balance`,
  `Effect.covered`.
- **Histories.** `Visit`, `History`, and `History.Kept` along them.
- **Main result.** `records_balance`.
-/

namespace DiveSchool

/-! ## Counts -/

namespace Tables

variable {t : Tables} {id : OfferingId}

/-- The number of records of an offering. -/
def recordsOf (t : Tables) (id : OfferingId) : Nat := t.bookings.values.countP (·.offeringId = id)

/-- The number of spots booked of an offering, none if it is not there. -/
def bookedOf (t : Tables) (id : OfferingId) : Int :=
  ((t.offerings.get? id).map (·.bookings.toInt)).getD 0

theorem bookedOf_of_some {o : Offering} (ho : t.offerings.get? id = some o) :
    t.bookedOf id = o.bookings.toInt := by
  rw [bookedOf, ho]
  rfl

theorem bookedOf_of_none (ho : t.offerings.get? id = none) : t.bookedOf id = 0 := by
  rw [bookedOf, ho]
  rfl

@[simp] theorem recordsOf_put (t : Tables) (o : Offering) : (t.put o).recordsOf id = t.recordsOf id := rfl

@[simp] theorem bookedOf_add (t : Tables) (b : Booking) : (t.add b).bookedOf id = t.bookedOf id := rfl

@[simp] theorem bookedOf_drop (t : Tables) (reference : String) :
    (t.drop reference).bookedOf id = t.bookedOf id := rfl

theorem bookedOf_put (t : Tables) (o : Offering) :
    (t.put o).bookedOf id = if id = o.id then o.bookings.toInt else t.bookedOf id := by
  unfold bookedOf
  rw [get?_put]
  split <;> rfl

theorem recordsOf_add {b : Booking} (hnew : t.bookings.get? b.reference = none) :
    (t.add b).recordsOf id = t.recordsOf id + if b.offeringId = id then 1 else 0 := by
  simp [recordsOf, add, Booking.stored, Table.values_insert hnew, List.countP_append,
    List.countP_singleton]

theorem recordsOf_drop {reference : String} {b : Booking} (hb : t.bookings.get? reference = some b) :
    (t.drop reference).recordsOf id + (if b.offeringId = id then 1 else 0) = t.recordsOf id := by
  simpa [recordsOf, drop] using Table.countP_values_erase (fun b : Booking => b.offeringId = id) hb

/-- What is booked after a row was written over, by the counter of the new row. -/
theorem Sound.bookedOf_put (ht : t.Sound) {o o' : Offering} {id' : OfferingId}
    (ho : t.offerings.get? id' = some o) (hid : o'.id = o.id) :
    (t.put o').bookedOf id = if id = id' then o'.bookings.toInt else t.bookedOf id := by
  rw [Tables.bookedOf_put, hid, ht.ids id' o ho]

/-- A row written over with the same counter changes nothing that is counted. -/
theorem Sound.bookedOf_put_same (ht : t.Sound) {o o' : Offering} {id' : OfferingId}
    (ho : t.offerings.get? id' = some o) (hid : o'.id = o.id) (hbookings : o'.bookings = o.bookings) :
    (t.put o').bookedOf id = t.bookedOf id := by
  rw [ht.bookedOf_put ho hid]
  split
  · next h =>
      subst h
      rw [bookedOf_of_some ho, hbookings]
  · rfl

theorem Sound.bookedOf_put_taken (ht : t.Sound) {o : Offering} {id' : OfferingId} {now : Timestamp}
    (ho : t.offerings.get? id' = some o) (hfree : o.isFull = false) :
    (t.put (o.taken now).stored).bookedOf id = t.bookedOf id + if id' = id then 1 else 0 := by
  have hid : (o.taken now).stored.id = o.id := rfl
  rw [ht.bookedOf_put ho hid]
  by_cases h : id = id'
  · subst h
    rw [if_pos rfl, if_pos rfl, bookedOf_of_some ho]
    exact Offering.toInt_bookings_add_one hfree
  · rw [if_neg h, if_neg (Ne.symm h)]
    omega

theorem Sound.bookedOf_put_vacated (ht : t.Sound) {o : Offering} {id' : OfferingId} {now : Timestamp}
    (ho : t.offerings.get? id' = some o) (hbooked : 0 < o.bookings.toInt) :
    (t.put (o.vacated now).stored).bookedOf id = t.bookedOf id - if id' = id then 1 else 0 := by
  have hid : (o.vacated now).stored.id = o.id := rfl
  rw [ht.bookedOf_put ho hid]
  by_cases h : id = id'
  · subst h
    rw [if_pos rfl, if_pos rfl, bookedOf_of_some ho]
    exact Offering.toInt_bookings_sub_one hbooked
  · rw [if_neg h, if_neg (Ne.symm h)]
    omega

/-- Every offering is one that the catalogue may list. -/
def Listed (t : Tables) : Prop := ∀ id o, t.offerings.get? id = some o → o.Listed

theorem Listed.put (ht : t.Listed) {o : Offering} (ho : o.Listed) : (t.put o).Listed := by
  intro id o' h
  rw [get?_put] at h
  split at h
  · cases h
    exact ho
  · exact ht id o' h

theorem Listed.put_same (ht : t.Listed) {o o' : Offering} (ho : t.offerings.get? id = some o)
    (hkind : o'.kind = o.kind) (hcapacity : o'.capacity = o.capacity) (hname : o'.name = o.name) :
    (t.put o').Listed :=
  ht.put ((ht id o ho).same hkind hcapacity hname)

end Tables

/-! ## Effects -/

open Console

namespace Console.Command.Effect

variable {t t' : Tables} {now : Timestamp} {c : Command} {outcome : Console.Outcome}

/-- Every command keeps every constraint. -/
theorem sound (h : c.Effect now t outcome t') (ht : t.Sound) : t'.Sound := by
  cases h with
  | failed => exact ht
  | shown => exact ht
  | created hnew hempty hwithin hlisted => exact ht.put hwithin
  | resized ho hcheck => exact ht.put_resized ho hcheck
  | moved hc ho => exact ht.put_moved ho
  | booked ho hfree hnew => exact (ht.put_taken ho hfree).add (ht.get?_put_taken ho)
  | undone hid ho hfree =>
      exact (ht.put_taken ho hfree).put_vacated (ht.get?_put_taken ho) (ht.booked_taken ho hfree)
  | released hid ho hbooked => exact ht.put_vacated ho hbooked
  | cancelled hb ho hbooked => exact (ht.drop _).put_vacated ho hbooked
  | voided hb ho hempty => exact ht.drop _

/-- Every offering stays one that the catalogue may list. -/
theorem listed (h : c.Effect now t outcome t') (ht : t.Listed) : t'.Listed := by
  cases h with
  | failed => exact ht
  | shown => exact ht
  | created hnew hempty hwithin hlisted => exact ht.put ⟨hlisted.trip, hlisted.named⟩
  | resized ho hcheck => exact ht.put ((ht _ _ ho).resized hcheck rfl rfl)
  | moved hc ho => exact ht.put_same ho rfl rfl rfl
  | booked ho hfree hnew => exact ht.put_same ho rfl rfl rfl
  | @undone _ _ _ _ _ _ _ _ o hid ho hfree =>
      have htaken : (t.put (o.taken now).stored).Listed := ht.put_same ho rfl rfl rfl
      exact htaken.put ((ht _ _ ho).same rfl rfl rfl)
  | released hid ho hbooked => exact ht.put_same ho rfl rfl rfl
  | cancelled hb ho hbooked => exact Tables.Listed.put ht ((ht _ _ ho).same rfl rfl rfl)
  | voided hb ho hempty => exact ht

/-- **One command balances**: records gain on the counter by what it releases and lose by what it voids. -/
theorem balance (h : c.Effect now t outcome t') (ht : t.Sound) (id : OfferingId) :
    (t'.recordsOf id : Int) - t'.bookedOf id = t.recordsOf id - t.bookedOf id +
      (if c.freed? outcome = some id then 1 else 0) - if c.voided? t outcome = some id then 1 else 0 := by
  cases h with
  | failed => simp
  | shown hfreed hvoided => simp [hfreed, hvoided]
  | @created _ _ _ _ _ _ o _ hnew hempty _ _ =>
      have hbooked : (t.put o.stored).bookedOf id = t.bookedOf id := by
        rw [Tables.bookedOf_put]
        split
        · next hid =>
            subst hid
            show o.bookings.toInt = t.bookedOf o.id
            rw [Tables.bookedOf_of_none hnew, hempty, Int32.toInt_zero]
        · rfl
      simp [hbooked, freed?, voided?]
  | resized ho _ => simp [ht.bookedOf_put_same ho, Offering.stored, freed?, voided?]
  | moved hc ho =>
      rcases hc with rfl | rfl <;>
        simp [ht.bookedOf_put_same ho, Offering.stored, freed?, voided?]
  | @booked _ _ _ _ _ _ _ o b ho hfree hnew =>
      have hrecords : ((t.put (o.taken now).stored).add b).recordsOf id =
          t.recordsOf id + if b.offeringId = id then 1 else 0 := Tables.recordsOf_add hnew
      simp only [Tables.bookedOf_add, ht.bookedOf_put_taken ho hfree, hrecords, freed?, voided?]
      by_cases h : b.offeringId = id
      · simp only [h, if_true, reduceCtorEq, if_false]
        omega
      · simp only [h, reduceCtorEq, if_false]
        omega
  | @undone _ _ _ _ _ _ _ id' o hid ho hfree =>
      have hback : ((t.put (o.taken now).stored).put ((o.taken now).stored.vacated now).stored).bookedOf id =
          (t.put (o.taken now).stored).bookedOf id - if id' = id then 1 else 0 :=
        (ht.put_taken ho hfree).bookedOf_put_vacated (ht.get?_put_taken ho) (ht.booked_taken ho hfree)
      simp [hback, ht.bookedOf_put_taken ho hfree]
  | @released _ _ id' o hid ho hbooked =>
      simp only [ht.bookedOf_put_vacated ho hbooked, Tables.recordsOf_put, freed?_released, hid, voided?,
        Option.some.injEq]
      by_cases h : id' = id
      · simp only [h, if_true, reduceCtorEq, if_false]
        omega
      · simp only [h, reduceCtorEq, if_false]
        omega
  | @cancelled reference _ _ b o hb ho hbooked =>
      have hrecords : (t.drop reference).recordsOf id + (if b.offeringId = id then 1 else 0) =
          t.recordsOf id := Tables.recordsOf_drop hb
      simp only [(ht.drop reference).bookedOf_put_vacated ho hbooked, Tables.recordsOf_put,
        Tables.bookedOf_drop, voided?_of_success, freed?]
      by_cases h : b.offeringId = id
      · simp only [h, if_true, reduceCtorEq, if_false] at hrecords ⊢
        omega
      · simp only [h, reduceCtorEq, if_false] at hrecords ⊢
        omega
  | @voided reference b o hb ho hempty =>
      have hrecords : (t.drop reference).recordsOf id + (if b.offeringId = id then 1 else 0) =
          t.recordsOf id := Tables.recordsOf_drop hb
      simp only [Tables.bookedOf_drop, voided?_nothingFreed, hb, freed?, Option.map_some,
        Option.some.injEq]
      by_cases h : b.offeringId = id
      · simp only [h, if_true, reduceCtorEq, if_false] at hrecords ⊢
        omega
      · simp only [h, reduceCtorEq, if_false] at hrecords ⊢
        omega

/-- A cancellation voids a booking at a counter of zero only. -/
theorem bookedOf_of_voided (h : c.Effect now t outcome t') {id : OfferingId}
    (hvoided : c.voided? t outcome = some id) : t'.bookedOf id = 0 := by
  cases h with
  | failed => simp at hvoided
  | shown _ hnot => cases hnot.symm.trans hvoided
  | moved hc ho => rcases hc with rfl | rfl <;> cases hvoided
  | cancelled hb ho hbooked => simp at hvoided
  | @voided reference b o hb ho hempty =>
      simp only [voided?_nothingFreed, hb, Option.map_some, Option.some.injEq] at hvoided
      subst hvoided
      rw [Tables.bookedOf_drop, Tables.bookedOf_of_some ho, hempty]
  | undone hid ho hfree => simp at hvoided
  | _ => cases hvoided

/-- **No spot without a record**: a record goes only with a spot or at a counter of zero. -/
theorem covered (h : c.Effect now t outcome t') (ht : t.Sound)
    (hcovered : ∀ id, t.bookedOf id ≤ t.recordsOf id) (id : OfferingId) :
    t'.bookedOf id ≤ t'.recordsOf id := by
  have hbalance := h.balance ht id
  have hbefore := hcovered id
  by_cases hvoided : c.voided? t outcome = some id
  · -- what is left of the counter is nothing
    have hempty := h.bookedOf_of_voided hvoided
    omega
  · simp only [hvoided, if_false] at hbalance
    split at hbalance <;> omega

end Console.Command.Effect

/-! ## Histories -/

/-- One start of the program. -/
structure Visit where
  args : List String
  files : Settings.Files
  vars : List (String × String)
  occasion : Console.Occasion

/-- What a start of the program found in the tables, and what it reported. -/
structure Receipt where
  before : Tables
  args : List String
  outcome : Console.Outcome

namespace Receipt

/-- The offering of which the command freed a spot as a plain release. -/
def freed? (r : Receipt) : Option OfferingId :=
  match Invocation.parse r.args with
  | .ok i => i.command.freed? r.outcome
  | .error _ => none

/-- The offering whose booking the command removed without freeing a spot. -/
def voided? (r : Receipt) : Option OfferingId :=
  match Invocation.parse r.args with
  | .ok i => i.command.voided? r.before r.outcome
  | .error _ => none

end Receipt

/-- A database and what was reported on the way to it, the latest first. -/
structure History where
  database : Database
  receipts : List Receipt

namespace History

/-- A database whose tables have just been made. -/
def opening : History :=
  ⟨(Database.migrate { tables := .empty, schema := ⟨false, false⟩ }).2, []⟩

/-- Start the program once. -/
def visit (h : History) (v : Visit) : History :=
  match Console.run v.args ⟨v.files, v.vars, .ok h.database, v.occasion⟩ with
  | (outcome, .ok after) => ⟨after, ⟨h.database.tables, v.args, outcome⟩ :: h.receipts⟩
  | (_, .error _) => h

/-- Start the program again and again. -/
def run (h : History) (visits : List Visit) : History := visits.foldl visit h

/-- The number of releases that freed a spot of an offering. -/
def freedOf (h : History) (id : OfferingId) : Nat := h.receipts.countP (·.freed? = some id)

/-- The number of cancellations that removed a booking of an offering without freeing a spot. -/
def voidedOf (h : History) (id : OfferingId) : Nat := h.receipts.countP (·.voided? = some id)

theorem freedOf_visited (h : History) (db : Database) (r : Receipt) (id : OfferingId) :
    ((⟨db, r :: h.receipts⟩ : History).freedOf id : Int) =
      h.freedOf id + if r.freed? = some id then 1 else 0 := by
  simp only [freedOf, List.countP_cons, decide_eq_true_eq]
  split <;> simp

theorem voidedOf_visited (h : History) (db : Database) (r : Receipt) (id : OfferingId) :
    ((⟨db, r :: h.receipts⟩ : History).voidedOf id : Int) =
      h.voidedOf id + if r.voided? = some id then 1 else 0 := by
  simp only [voidedOf, List.countP_cons, decide_eq_true_eq]
  split <;> simp

/-- What every history keeps to. -/
structure Kept (h : History) : Prop where
  ready : h.database.Ready
  sound : h.database.tables.Sound
  listed : h.database.tables.Listed
  balance : ∀ id, (h.database.tables.recordsOf id : Int) - h.database.tables.bookedOf id =
    h.freedOf id - h.voidedOf id
  covered : ∀ id, h.database.tables.bookedOf id ≤ h.database.tables.recordsOf id

theorem opening_eq : opening = ⟨{ tables := .empty, schema := ⟨true, true⟩ }, []⟩ := rfl

theorem kept_opening : opening.Kept := by
  rw [opening_eq]
  refine ⟨⟨rfl, rfl, rfl, rfl⟩, Tables.sound_empty, ?_, fun _ => rfl, fun _ => Int.le_refl 0⟩
  intro id o h
  have hnone : (Tables.empty).offerings.get? id = none := rfl
  cases hnone.symm.trans h

variable {h : History}

/-- Starting the program leaves a database and a receipt, with the effect of the command between the
    tables before and after. -/
theorem Kept.visit_eq (hk : h.Kept) (v : Visit) :
    ∃ outcome t', h.visit v = ⟨{ h.database with tables := t' },
        ⟨h.database.tables, v.args, outcome⟩ :: h.receipts⟩ ∧
      match Invocation.parse v.args with
      | .error _ => t' = h.database.tables
      | .ok i => i.command.Effect v.occasion.now h.database.tables outcome t' := by
  obtain ⟨t', hafter, heffect⟩ :=
    run_effect (e := ⟨v.files, v.vars, .ok h.database, v.occasion⟩) rfl hk.ready hk.sound v.args
  refine ⟨(Console.run v.args ⟨v.files, v.vars, .ok h.database, v.occasion⟩).1, t', ?_, ?_⟩
  · unfold visit
    generalize Console.run v.args ⟨v.files, v.vars, .ok h.database, v.occasion⟩ = result at hafter
    obtain ⟨outcome, after⟩ := result
    cases hafter
    rfl
  · cases hparse : Invocation.parse v.args with
    | error stop =>
        rw [hparse] at heffect
        exact heffect.2
    | ok i =>
        rw [hparse] at heffect
        exact heffect

/-- **Every visit** keeps to it. -/
theorem Kept.visit (hk : h.Kept) (v : Visit) : (h.visit v).Kept := by
  obtain ⟨outcome, t', hvisit, heffect⟩ := hk.visit_eq v
  rw [hvisit]
  cases hparse : Invocation.parse v.args with
  | error stop =>
      -- the arguments lead to no command
      rw [hparse] at heffect
      subst heffect
      refine ⟨hk.ready, hk.sound, hk.listed, fun id => ?_, hk.covered⟩
      simpa [freedOf, voidedOf, Receipt.freed?, Receipt.voided?, hparse] using hk.balance id
  | ok i =>
      rw [hparse] at heffect
      refine ⟨hk.ready.withTables t', heffect.sound hk.sound, heffect.listed hk.listed, fun id => ?_,
        heffect.covered hk.sound hk.covered⟩
      have hbefore := hk.balance id
      have hbalance := heffect.balance hk.sound id
      rw [freedOf_visited, voidedOf_visited]
      simp only [Receipt.freed?, Receipt.voided?, hparse]
      omega

theorem Kept.run (hk : h.Kept) (visits : List Visit) : (h.run visits).Kept := by
  induction visits generalizing h with
  | nil => exact hk
  | cons v rest ih => exact ih (hk.visit v)

theorem Kept.length_receipts (hk : h.Kept) (visits : List Visit) :
    (h.run visits).receipts.length = h.receipts.length + visits.length := by
  induction visits generalizing h with
  | nil => rfl
  | cons v rest ih =>
      obtain ⟨outcome, t', hvisit, _⟩ := hk.visit_eq v
      have hone : (h.visit v).receipts.length = h.receipts.length + 1 := by rw [hvisit, List.length_cons]
      show ((h.visit v).run rest).receipts.length = _
      rw [ih (hk.visit v), hone, List.length_cons]
      omega

end History

/-! ## Main result -/

/-- The bookings of sound tables have as many references. -/
theorem Tables.Sound.nodup_references {t : Tables} (ht : t.Sound) :
    (t.bookings.values.map Booking.reference).Nodup := by
  have hkeys : t.bookings.values.map Booking.reference = t.bookings.entries.map Prod.fst := by
    rw [Table.values, List.map_map]
    refine List.map_congr_left fun e he => ?_
    exact ht.references e.1 e.2 (Table.get?_eq_some_iff.mpr he)
  rw [hkeys]
  exact t.bookings.distinct

theorem Tables.Sound.offering_of_mem {t : Tables} (ht : t.Sound) {b : Booking}
    (hb : b ∈ t.bookings.values) : ∃ o, t.offerings.get? b.offeringId = some o := by
  obtain ⟨e, he, rfl⟩ := List.mem_map.mp hb
  exact ht.offering (Table.get?_eq_some_iff.mpr he)

/-- **Counters and records agree** but for plain releases and empty cancellations, after any commands with
    any arguments, settings and draws on tables that were made for them: every start of the program leaves
    a receipt; offerings are within their capacities and fit for the catalogue; references are distinct
    and lead to offerings; and the records of an offering exceed its counter by the releases that freed a
    spot of it less the cancellations that freed none, which is never negative, and nothing without
    releases. -/
theorem records_balance (visits : List Visit) :
    let h := History.opening.run visits
    let t := h.database.tables
    h.receipts.length = visits.length ∧
    (∀ id o, t.offerings.get? id = some o →
      1 ≤ o.capacity ∧ 0 ≤ o.bookings ∧ o.bookings ≤ o.capacity ∧
        (o.kind = .trip → o.capacity ≤ 50) ∧ ∃ c ∈ o.name.toList, Text.isBlank c = false) ∧
    (t.bookings.values.map Booking.reference).Nodup ∧
    (∀ b ∈ t.bookings.values, ∃ o, t.offerings.get? b.offeringId = some o) ∧
    ∀ id o, t.offerings.get? id = some o →
      (t.recordsOf id : Int) - o.bookings.toInt = h.freedOf id - h.voidedOf id ∧
        o.bookings.toInt ≤ t.recordsOf id ∧
        (h.freedOf id = 0 → (t.recordsOf id : Int) = o.bookings.toInt) := by
  intro h t
  have hk : h.Kept := History.kept_opening.run visits
  have hlength : h.receipts.length = visits.length := by
    rw [History.kept_opening.length_receipts visits]
    exact Nat.zero_add _
  refine ⟨hlength, fun id o ho => ?_, hk.sound.nodup_references, fun b hb => hk.sound.offering_of_mem hb,
    fun id o ho => ?_⟩
  · have hwithin := hk.sound.counters id o ho
    have hlisted := hk.listed id o ho
    exact ⟨hwithin.1, hwithin.2.1, hwithin.2.2, hlisted.trip, hlisted.named⟩
  · have hbooked : t.bookedOf id = o.bookings.toInt := Tables.bookedOf_of_some ho
    have hbalance : (t.recordsOf id : Int) - t.bookedOf id = h.freedOf id - h.voidedOf id := hk.balance id
    have hcovered : t.bookedOf id ≤ t.recordsOf id := hk.covered id
    rw [hbooked] at hbalance hcovered
    refine ⟨hbalance, hcovered, fun hfreed => ?_⟩
    -- without releases records can only be fewer, and they are never fewer
    rw [hfreed] at hbalance
    omega

namespace OneTrip

/-- What the commands are carried out with. -/
def occasion : Console.Occasion := ⟨⟨0, 0⟩, ⟨7⟩, default⟩

/-- A command in a place without files and variables. -/
def visit (args : List String) : Visit := ⟨args, [], [], occasion⟩

/-- The id of the trip, as it is typed. -/
def id : String := "00000000-0000-0000-0000-000000000007"

/-- A trip is made, booked and released. -/
def visits : List Visit :=
  [visit ["offering", "create", "--kind", "trip", "--name", "Reef", "--capacity", "2"],
   visit ["booking", "book", id, "--name", "Ann"], visit ["booking", "release", id]]

/-- The tables when all is done. -/
def tables : Tables := (History.opening.run visits).database.tables

theorem tables_eq :
    (tables.offerings.get? ⟨7⟩).map Offering.bookings = some 0 ∧ tables.recordsOf ⟨7⟩ = 1 := by
  decide +kernel

end OneTrip

open OneTrip in
/-- The record of the trip stands against the release. -/
theorem one_trip_balances :
    ∃ o, tables.offerings.get? ⟨7⟩ = some o ∧ o.bookings = 0 ∧ tables.recordsOf ⟨7⟩ = 1 ∧
      (tables.recordsOf ⟨7⟩ : Int) - o.bookings.toInt =
        (History.opening.run visits).freedOf ⟨7⟩ - (History.opening.run visits).voidedOf ⟨7⟩ := by
  obtain ⟨o, ho, hempty⟩ := Option.map_eq_some_iff.mp tables_eq.1
  refine ⟨o, ho, hempty, tables_eq.2, ?_⟩
  unfold tables at ho ⊢
  exact ((records_balance visits).2.2.2.2 ⟨7⟩ o ho).1

end DiveSchool
